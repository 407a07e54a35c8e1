import GuardedGateway.Cluster.Fault

/-!
# Why a tool call fails

Callers see five kinds of failure.  Behind them stand the causes that a call can meet on its way,
and each cause fixes its kind and its wording here, in one place.  A kind has a name on the wire and
a status for HTTP; a name that is not one of the five stands for a failed execution.

Whoever fails a call raises the cause in the name of a tool.  Up to its capability that is the name
under which the call came; a capability raises what it meets in a name of its own.
-/

namespace GuardedGateway.Tool

/-- The kinds of failure that callers can tell apart. -/
inductive FailureKind where
  | invalidInput
  | permissionDenied
  | timeout
  | notFound
  | executionError
  deriving DecidableEq, Repr

namespace FailureKind

/-- The name of a kind on the wire. -/
def name : FailureKind → String
  | .invalidInput => "invalid_input"
  | .permissionDenied => "permission_denied"
  | .timeout => "timeout"
  | .notFound => "not_found"
  | .executionError => "execution_error"

/-- The kind with a name. -/
def ofName? : String → Option FailureKind
  | "invalid_input" => some .invalidInput
  | "permission_denied" => some .permissionDenied
  | "timeout" => some .timeout
  | "not_found" => some .notFound
  | "execution_error" => some .executionError
  | _ => none

/-- The kind that a name stands for, whatever it is. -/
def ofName (name : String) : FailureKind :=
  (ofName? name).getD .executionError

/-- The HTTP status of a kind. -/
def status : FailureKind → Nat
  | .invalidInput => 400
  | .permissionDenied => 403
  | .timeout => 408
  | .notFound => 404
  | .executionError => 500

@[simp] theorem ofName?_name (kind : FailureKind) : ofName? kind.name = some kind := by
  cases kind <;> rfl

@[simp] theorem ofName_name (kind : FailureKind) : ofName kind.name = kind := by
  rw [ofName, ofName?_name, Option.getD_some]

end FailureKind

/-- A failed call, as the caller sees it. -/
structure Failure where
  kind : FailureKind
  message : String
  toolName : String
  deriving DecidableEq, Repr

/-- The wording of a failure with its kind. -/
def Failure.text (failure : Failure) : String :=
  failure.kind.name ++ ": " ++ failure.message

/-- What a capability was about to do when the cluster failed it. -/
inductive Attempt where
  | listPods
  | describePod
  | getPodEvents
  | getPodLogs
  | describeDeployment
  deriving DecidableEq, Repr

def Attempt.wording : Attempt → String
  | .listPods => "list pods"
  | .describePod => "describe pod"
  | .getPodEvents => "get pod events"
  | .getPodLogs => "get pod logs"
  | .describeDeployment => "describe deployment"

/-- Why a call fails. -/
inductive FailureCause where
  /-- The body is not a call. -/
  | malformedCall
  | notImplemented
  | argumentRequired (name : String)
  | namespaceNotAllowed
  | nothingAllowed
  | noClient
  | badTailLines
  | timedOut (afterMs : Nat)
  | cluster (attempt : Attempt) (fault : Cluster.Fault)
  deriving DecidableEq, Repr

namespace FailureCause

/-- The kind of a cause.  What the cluster cannot find is not found; every other fault of the
cluster is a failed execution. -/
def kind : FailureCause → FailureKind
  | .malformedCall => .invalidInput
  | .notImplemented => .executionError
  | .argumentRequired _ => .invalidInput
  | .namespaceNotAllowed => .permissionDenied
  | .nothingAllowed => .permissionDenied
  | .noClient => .executionError
  | .badTailLines => .invalidInput
  | .timedOut _ => .timeout
  | .cluster _ (.notFound ..) => .notFound
  | .cluster _ _ => .executionError

/-- The wording of a cause. -/
def message : FailureCause → String
  | .malformedCall => "invalid json"
  | .notImplemented => "tool not implemented"
  | .argumentRequired name => name ++ " required"
  | .namespaceNotAllowed => "namespace not allowed"
  | .nothingAllowed => "no allowed namespaces configured"
  | .noClient => "client init failed"
  | .badTailLines => "tail_lines must be a non-negative number"
  | .timedOut afterMs => "tool timed out after " ++ toString afterMs ++ "ms"
  | .cluster attempt fault => attempt.wording ++ " failed: " ++ fault.message

end FailureCause

/-- A cause that is raised in the name of a tool. -/
structure Raised where
  toolName : String
  cause : FailureCause
  deriving DecidableEq, Repr

/-- The failure that is told. -/
def Raised.failure (raised : Raised) : Failure :=
  ⟨raised.cause.kind, raised.cause.message, raised.toolName⟩

end GuardedGateway.Tool
