import GuardedGateway.Cluster.Selector
import GuardedGateway.Json.Shape

/-!
# Inventory snapshots

A snapshot describes a cluster: its namespaces, their pods and deployments.  Everything in it may be
left out except the members of an event.  Names may repeat, and then the first entry is the one that
answers; a namespace may be closed to reading.
-/

namespace GuardedGateway.Cluster

/-- Something that happened to a pod. -/
structure PodEvent where
  reason : String
  message : String
  kind : String
  time : String
  deriving DecidableEq, Repr

/-- A container and its log. -/
structure Container where
  name : String
  logs : String
  deriving DecidableEq, Repr

structure Pod where
  name : String
  phase : String
  node : String
  reason : String
  message : String
  startTime : String
  labels : Labels
  annotations : Labels
  events : List PodEvent
  containers : List Container
  deriving DecidableEq, Repr

structure Deployment where
  name : String
  replicas : Int
  ready : Int
  updated : Int
  available : Int
  deriving DecidableEq, Repr

structure Namespace where
  name : String
  forbidden : Bool
  pods : List Pod
  deployments : List Deployment
  deriving DecidableEq, Repr

structure Snapshot where
  namespaces : List Namespace
  deriving DecidableEq, Repr

/-! ## Reading a snapshot -/

def PodEvent.record : Json.Record PodEvent where
  name := "PodEvent"
  start := ⟨"", "", "", ""⟩
  fields := [
    .needed "reason" .string fun e v => { e with reason := v },
    .needed "message" .string fun e v => { e with message := v },
    .needed "type" .string fun e v => { e with kind := v },
    .needed "time" .string fun e v => { e with time := v }]

def Container.record : Json.Record Container where
  name := "ContainerLogs"
  start := ⟨"", ""⟩
  fields := [
    .optional "name" .string fun c v => { c with name := v },
    .optional "logs" .string fun c v => { c with logs := v }]

def Pod.record : Json.Record Pod where
  name := "PodSnapshot"
  start := ⟨"", "", "", "", "", "", [], [], [], []⟩
  fields := [
    .optional "name" .string fun p v => { p with name := v },
    .optional "phase" .string fun p v => { p with phase := v },
    .optional "node" .string fun p v => { p with node := v },
    .optional "reason" .string fun p v => { p with reason := v },
    .optional "message" .string fun p v => { p with message := v },
    .optional "start_time" .string fun p v => { p with startTime := v },
    .optional "labels" (.mapOf .string) fun p v => { p with labels := v },
    .optional "annotations" (.mapOf .string) fun p v => { p with annotations := v },
    .optional "events" (.listOf PodEvent.record.shape) fun p v => { p with events := v },
    .optional "containers" (.listOf Container.record.shape) fun p v => { p with containers := v }]

def Deployment.record : Json.Record Deployment where
  name := "DeploymentSnapshot"
  start := ⟨"", 0, 0, 0, 0⟩
  fields := [
    .optional "name" .string fun d v => { d with name := v },
    .optional "replicas" .int32 fun d v => { d with replicas := v },
    .optional "ready" .int32 fun d v => { d with ready := v },
    .optional "updated" .int32 fun d v => { d with updated := v },
    .optional "available" .int32 fun d v => { d with available := v }]

def Namespace.record : Json.Record Namespace where
  name := "NamespaceSnapshot"
  start := ⟨"", false, [], []⟩
  fields := [
    .optional "name" .string fun n v => { n with name := v },
    .optional "forbidden" .flag fun n v => { n with forbidden := v },
    .optional "pods" (.listOf Pod.record.shape) fun n v => { n with pods := v },
    .optional "deployments" (.listOf Deployment.record.shape) fun n v =>
      { n with deployments := v }]

def Snapshot.record : Json.Record Snapshot where
  name := "ClusterSnapshot"
  start := ⟨[]⟩
  fields := [
    .optional "namespaces" (.listOf Namespace.record.shape) fun _ v => ⟨v⟩]

/-- The snapshot that the content of a file spells. -/
def Snapshot.parse (content : Bytes) : Except Json.Fault Snapshot :=
  Snapshot.record.shape.parse content

/-- The snapshot that a value describes. -/
def Snapshot.ofJson (v : Json) : Except Json.Cause Snapshot :=
  Snapshot.record.shape.ofJson v

end GuardedGateway.Cluster
