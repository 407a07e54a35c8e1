import GuardedGateway.Cluster.Client
import GuardedGateway.Guard.Allowlist
import GuardedGateway.Tool.Call
import GuardedGateway.Tool.Failure

/-!
# Capabilities

What the tools do.  A capability checks its own arguments, asks the cluster and shapes the answer.
The namespace it asks about has been authorised before it runs; only the listing of namespaces
consults the allowlist itself, because it asks about all of them.

## Listing namespaces

The candidates are the allowed namespaces that the cluster lists, or all allowed ones when the
listing fails.  Each candidate is kept when its pods can be listed.  The checks run at once, so
together they take as long as the slowest.
-/

namespace GuardedGateway.Tool

/-- What a tool does. -/
inductive Capability where
  | listPods
  | listNamespaces
  | describePod
  | getPodEvents
  | getPodLogs
  | describeDeployment
  deriving DecidableEq, Repr

namespace Capability

/-- The name under which it speaks of itself. -/
def toolName : Capability → String
  | .listPods => "k8s.list_pods"
  | .listNamespaces => "k8s.list_namespaces"
  | .describePod => "k8s.describe_pod"
  | .getPodEvents => "k8s.get_pod_events"
  | .getPodLogs => "k8s.get_pod_logs"
  | .describeDeployment => "k8s.describe_deployment"

/-- A cause in the name of a capability. -/
def raise (capability : Capability) (cause : FailureCause) : Raised :=
  ⟨capability.toolName, cause⟩

end Capability

/-- What a capability comes to. -/
abbrev Outcome := Except Raised Json

/-- What a capability may use: a client, the arguments and the allowed namespaces. -/
structure Invocation where
  client : Cluster.Client
  args : Fields
  allowed : Guard.Allowlist

namespace Invocation

/-- The namespace argument, or the empty name. -/
def ns (inv : Invocation) : String :=
  (stringArg inv.args "namespace").getD ""

/-- A string argument that must be there. -/
def required (inv : Invocation) (capability : Capability) (key : String) : Except Raised String :=
  match stringArg inv.args key with
  | some value => .ok value
  | none => .error (capability.raise (.argumentRequired key))

end Invocation

/-- The answer of the cluster as a result: an object with the name of the tool and the answer. -/
def answered {α : Type} (capability : Capability) (attempt : Attempt) (member : String)
    (toJson : α → Json) (answer : Cluster.Answer α) : Timed Outcome :=
  answer.map fun
    | .ok a => .ok (.obj [("tool_name", .str capability.toolName), (member, toJson a)])
    | .error fault => .error (capability.raise (.cluster attempt fault))

section

variable {α : Type} {capability : Capability} {attempt : Attempt} {member : String}
  {toJson : α → Json} {answer : Cluster.Answer α}

theorem value_answered_eq_ok_iff {output : Json} :
    (answered capability attempt member toJson answer).value = .ok output ↔
      ∃ a, answer.value = .ok a ∧
        .obj [("tool_name", .str capability.toolName), (member, toJson a)] = output := by
  rw [answered, Timed.value_map]
  cases answer.value <;> simp

theorem value_answered_eq_error_iff {raised : Raised} :
    (answered capability attempt member toJson answer).value = .error raised ↔
      ∃ fault, answer.value = .error fault ∧
        capability.raise (.cluster attempt fault) = raised := by
  rw [answered, Timed.value_map]
  cases answer.value <;> simp

end

/-- Goes on with an argument, or fails at once. -/
def withArgument {α : Type} (argument : Except Raised α) (next : α → Timed Outcome) :
    Timed Outcome :=
  match argument with
  | .ok a => next a
  | .error raised => .now (.error raised)

/-- The number of lines when none is asked for. -/
def defaultTailLines : Nat := 100

/-- The number of lines that an argument asks for.  A fraction is dropped, and what is larger than
any count of lines stands for the largest. -/
def tailLines? : Option Json → Option Nat
  | none => some defaultTailLines
  | some .null => some defaultTailLines
  | some (.num (.int n)) =>
    if 0 ≤ n then some (min (Binary64.ofNat n.toNat).floor (UInt64.size - 1)) else none
  | some (.num (.float x)) =>
    if x.negative ∧ ¬ x.isZero then none else some (min x.floor (UInt64.size - 1))
  | some _ => none

/-- The namespaces to look at: the allowed ones that are listed, or all of them. -/
def candidates (allowed : Guard.Allowlist) : Except Cluster.Fault (List String) → List String
  | .ok listed => allowed.names.filter fun ns => listed.contains ns
  | .error _ => allowed.names

/-- Whether the pods of a namespace can be listed. -/
def accessible (client : Cluster.Client) (ns : String) : Timed Bool :=
  (client.listPods ns none).map fun
    | .ok _ => true
    | .error _ => false

/-- The allowed namespaces that are there and can be read. -/
def listNamespaces (inv : Invocation) : Timed Outcome :=
  if inv.allowed.isEmpty then .now (.error (Capability.listNamespaces.raise .nothingAllowed))
  else
    inv.client.listNamespaces.andThen fun listing =>
      let names := candidates inv.allowed listing
      (Timed.all (names.map (accessible inv.client))).map fun checks =>
        let kept := (names.zip checks).filterMap fun (name, ok) => if ok then some name else none
        .ok (.obj [
          ("tool_name", .str Capability.listNamespaces.toolName),
          ("allowed_namespaces", .ofStrings inv.allowed.names),
          ("matching_namespaces", .ofStrings kept),
          ("items", .ofStrings kept)])

namespace Capability

/-- Runs a capability. -/
def run (capability : Capability) (inv : Invocation) : Timed Outcome :=
  match capability with
  | .listPods =>
    answered capability .listPods "items" (fun pods => .arr (pods.map Cluster.PodSummary.toJson))
      (inv.client.listPods inv.ns (stringArg inv.args "label_selector"))
  | .listNamespaces => Tool.listNamespaces inv
  | .describePod =>
    withArgument (inv.required capability "pod_name") fun pod =>
      answered capability .describePod "pod" Cluster.PodDetail.toJson
        (inv.client.describePod inv.ns pod)
  | .getPodEvents =>
    withArgument (inv.required capability "pod_name") fun pod =>
      answered capability .getPodEvents "events"
        (fun events => .arr (events.map Cluster.PodEvent.toJson))
        (inv.client.podEvents inv.ns pod)
  | .getPodLogs =>
    withArgument (inv.required capability "pod_name") fun pod =>
      match tailLines? (inv.args.get? "tail_lines") with
      | none => .now (.error (capability.raise .badTailLines))
      | some count =>
        answered capability .getPodLogs "logs" .str
          (inv.client.podLogs inv.ns pod (stringArg inv.args "container") count)
  | .describeDeployment =>
    withArgument (inv.required capability "deployment_name") fun deployment =>
      answered capability .describeDeployment "deployment" Cluster.DeploymentDetail.toJson
        (inv.client.describeDeployment inv.ns deployment)

end Capability

end GuardedGateway.Tool
