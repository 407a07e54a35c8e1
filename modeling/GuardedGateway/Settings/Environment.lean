import GuardedGateway.Settings.Basic
import GuardedGateway.Text.Blank
import GuardedGateway.Text.Number

/-!
# Settings from the environment

Seven variables stand above the file.  A variable that holds no usable value leaves the setting as it
is; the allowlist alone takes any value, so that an empty variable closes access.
-/

namespace GuardedGateway.Settings

/-- The variables of an environment. -/
abbrev Environment := String → Option String

/-- A variable that is set and not empty. -/
def Environment.nonEmpty (env : Environment) (name : String) : Option String :=
  (env name).filter (· != "")

/-- A port alone stands for that port on every interface. -/
def completeAddress (address : String) : String :=
  if address.toList.head? = some ':' then "0.0.0.0" ++ address else address

/-- The bound on output that a variable gives.  A negative one is no bound, like zero. -/
def outputBound? (raw : String) : Option Nat :=
  (Text.int64? (Text.trimChars raw.toList)).map Int.toNat

/-- The number of milliseconds that a variable gives. -/
def milliseconds? (raw : String) : Option Nat :=
  Text.word? (Text.trimChars raw.toList)

/-- Puts the variables of an environment over the settings. -/
def overlay (env : Environment) (settings : Settings) : Settings where
  listener :=
    match env.nonEmpty "TOOL_SERVER_ADDR" with
    | some address => ⟨completeAddress address⟩
    | none => settings.listener
  tools :=
    { allowedNamespaces := (env "K8S_ALLOWED_NAMESPACES").getD settings.tools.allowedNamespaces
      maxOutputBytes :=
        ((env "TOOL_MAX_OUTPUT_BYTES").bind outputBound?).getD settings.tools.maxOutputBytes
      defaultTimeoutMs :=
        ((env "TOOL_TIMEOUT_MS").bind milliseconds?).getD settings.tools.defaultTimeoutMs }
  cluster :=
    match env.nonEmpty "CLUSTER_SNAPSHOT_PATH" with
    | some path => ⟨some path⟩
    | none => settings.cluster
  timeouts := settings.timeouts
  observability :=
    { settings.observability with
      logFile := (env.nonEmpty "TOOL_SERVER_LOG_FILE").getD settings.observability.logFile
      logLevel :=
        (((env "LOG_LEVEL").map Text.trim).filter (· != "")).getD settings.observability.logLevel }
  security := settings.security

end GuardedGateway.Settings
