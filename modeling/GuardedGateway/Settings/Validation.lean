import GuardedGateway.Settings.Address
import GuardedGateway.Settings.Basic
import GuardedGateway.Text.Blank
import GuardedGateway.Text.Quoted

/-!
# Which settings are valid

Settings that can be read may still be unusable.  Each rule is looked at, so a file with two mistakes
is answered with both.
-/

namespace GuardedGateway.Settings

/-- What is wrong with settings. -/
inductive Violation where
  | invalidBindAddress (address : String)
  | invalidMetricsAddress (address : String)
  | zeroDefaultTimeout
  | zeroRequestTimeout
  | zeroBodyLimit
  | missingLogFile
  deriving DecidableEq, Repr

/-- The wording of a violation. -/
def Violation.message : Violation → String
  | .invalidBindAddress address =>
    "listener.bind_address " ++ Text.quoted address ++ " is not a socket address"
  | .invalidMetricsAddress address =>
    "observability.metrics_address " ++ Text.quoted address ++ " is not a socket address"
  | .zeroDefaultTimeout => "tools.default_timeout_ms must be greater than zero"
  | .zeroRequestTimeout => "timeouts.request_secs must be greater than zero"
  | .zeroBodyLimit => "security.max_body_size must be greater than zero"
  | .missingLogFile => "observability.log_file is required"

/-- Whether a path has nothing but blanks in it. -/
def isBlankPath (path : String) : Bool :=
  path.toList.all Text.isBlank

/-- A violation, if its condition holds. -/
def violationIf (condition : Bool) (violation : Violation) : List Violation :=
  if condition then [violation] else []

/-- Everything that is wrong with settings, in a fixed order. -/
def violations (s : Settings) : List Violation :=
  violationIf (!isSocketAddress s.listener.bindAddress)
      (.invalidBindAddress s.listener.bindAddress) ++
    violationIf (s.observability.metricsEnabled &&
        !isSocketAddress s.observability.metricsAddress)
      (.invalidMetricsAddress s.observability.metricsAddress) ++
    violationIf (s.tools.defaultTimeoutMs == 0) .zeroDefaultTimeout ++
    violationIf (s.timeouts.requestSecs == 0) .zeroRequestTimeout ++
    violationIf (s.security.maxBodySize == 0) .zeroBodyLimit ++
    violationIf (isBlankPath s.observability.logFile) .missingLogFile

theorem violationIf_eq_nil {condition : Bool} {violation : Violation} :
    violationIf condition violation = [] ↔ condition = false := by
  cases condition <;> simp [violationIf]

end GuardedGateway.Settings
