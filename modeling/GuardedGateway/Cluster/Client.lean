import GuardedGateway.Cluster.Fault
import GuardedGateway.Cluster.Snapshot
import GuardedGateway.Text.Lines
import GuardedGateway.Timing.Timed

/-!
# Asking the cluster

A client answers six questions, each with a value or a fault and after some time.  Capabilities know
only this interface.  `Client.ofSnapshot` answers at once from a snapshot, where the first entry
with a name is the one that counts and a forbidden namespace hides everything in it, so that a pod in
it is forbidden and not missing.
-/

namespace GuardedGateway.Cluster

/-- A pod as a list shows it. -/
structure PodSummary where
  name : String
  ns : String
  status : String
  node : String
  deriving DecidableEq, Repr

def PodSummary.toJson (p : PodSummary) : Json :=
  .obj [("name", .str p.name), ("namespace", .str p.ns), ("status", .str p.status),
    ("node", .str p.node)]

/-- A pod in full. -/
structure PodDetail where
  name : String
  ns : String
  phase : String
  node : String
  reason : String
  message : String
  startTime : String
  labels : Labels
  annotations : Labels
  deriving DecidableEq, Repr

/-- Labels as an object. -/
def Labels.toJson (labels : Labels) : Json :=
  .obj (labels.map fun l => (l.1, .str l.2))

def PodDetail.toJson (p : PodDetail) : Json :=
  .obj [("name", .str p.name), ("namespace", .str p.ns), ("phase", .str p.phase),
    ("node", .str p.node), ("reason", .str p.reason), ("message", .str p.message),
    ("start_time", .str p.startTime), ("labels", Labels.toJson p.labels),
    ("annotations", Labels.toJson p.annotations)]

def PodEvent.toJson (e : PodEvent) : Json :=
  .obj [("reason", .str e.reason), ("message", .str e.message), ("type", .str e.kind),
    ("time", .str e.time)]

/-- A deployment in full. -/
structure DeploymentDetail where
  name : String
  ns : String
  replicas : Int
  ready : Int
  updated : Int
  available : Int
  deriving DecidableEq, Repr

def DeploymentDetail.toJson (d : DeploymentDetail) : Json :=
  .obj [("name", .str d.name), ("namespace", .str d.ns), ("replicas", .ofInt d.replicas),
    ("ready", .ofInt d.ready), ("updated", .ofInt d.updated), ("available", .ofInt d.available)]

/-- An answer of the cluster. -/
abbrev Answer (α : Type) := Timed (Except Fault α)

/-- What can be asked of a cluster. -/
structure Client where
  listNamespaces : Answer (List String)
  listPods (ns : String) (selector : Option String) : Answer (List PodSummary)
  describePod (ns pod : String) : Answer PodDetail
  podEvents (ns pod : String) : Answer (List PodEvent)
  podLogs (ns pod : String) (container : Option String) (tailLines : Nat) : Answer String
  describeDeployment (ns deployment : String) : Answer DeploymentDetail

namespace Snapshot

/-- The names of the namespaces, in order; a name stands as often as there are entries with it. -/
def listNamespaces (snapshot : Snapshot) : List String :=
  (snapshot.namespaces.map Namespace.name).mergeSort fun a b => !decide (Text.Before b a)

/-- The first entry with a name. -/
def entry? (snapshot : Snapshot) (ns : String) : Option Namespace :=
  snapshot.namespaces.find? fun n => n.name == ns

/-- The first entry with a name, unless it may not be read. -/
def readable (snapshot : Snapshot) (ns : String) : Except Fault (Option Namespace) :=
  match snapshot.entry? ns with
  | some n => if n.forbidden then .error (.forbidden ns) else .ok (some n)
  | none => .ok none

/-- The first pod with a name. -/
def pod (snapshot : Snapshot) (ns pod : String) : Except Fault Pod := do
  match ((← snapshot.readable ns).bind fun n => n.pods.find? fun p => p.name == pod) with
  | some p => .ok p
  | none => .error (.notFound .pod ns pod)

/-- The pods of a namespace whose labels match a selector. -/
def listPods (snapshot : Snapshot) (ns : String) (selector : Option String) :
    Except Fault (List PodSummary) := do
  match ← snapshot.readable ns with
  | none => .ok []
  | some n =>
    let chosen := n.pods.filter fun p => selector.all (matchesSelector p.labels)
    .ok (chosen.map fun p => ⟨p.name, n.name, p.phase, p.node⟩)

def describePod (snapshot : Snapshot) (ns pod : String) : Except Fault PodDetail := do
  let p ← snapshot.pod ns pod
  .ok ⟨p.name, ns, p.phase, p.node, p.reason, p.message, p.startTime, p.labels, p.annotations⟩

def podEvents (snapshot : Snapshot) (ns pod : String) : Except Fault (List PodEvent) := do
  let p ← snapshot.pod ns pod
  .ok p.events

/-- The end of the log of a container: of the named one, or of the first. -/
def podLogs (snapshot : Snapshot) (ns pod : String) (container : Option String)
    (tailLines : Nat) : Except Fault String := do
  let p ← snapshot.pod ns pod
  match container with
  | some name =>
    match p.containers.find? fun c => c.name == name with
    | some c => .ok (Text.tail tailLines c.logs)
    | none => .error (.notFound .container ns (pod ++ "/" ++ name))
  | none =>
    match p.containers.head? with
    | some c => .ok (Text.tail tailLines c.logs)
    | none => .ok ""

def describeDeployment (snapshot : Snapshot) (ns deployment : String) :
    Except Fault DeploymentDetail := do
  match (← snapshot.readable ns).bind fun n =>
      n.deployments.find? fun d => d.name == deployment with
  | some d => .ok ⟨d.name, ns, d.replicas, d.ready, d.updated, d.available⟩
  | none => .error (.notFound .deployment ns deployment)

end Snapshot

/-- The client that answers at once from a snapshot. -/
def Client.ofSnapshot (snapshot : Snapshot) : Client where
  listNamespaces := .now (.ok snapshot.listNamespaces)
  listPods ns selector := .now (snapshot.listPods ns selector)
  describePod ns pod := .now (snapshot.describePod ns pod)
  podEvents ns pod := .now (snapshot.podEvents ns pod)
  podLogs ns pod container tailLines := .now (snapshot.podLogs ns pod container tailLines)
  describeDeployment ns deployment := .now (snapshot.describeDeployment ns deployment)

end GuardedGateway.Cluster
