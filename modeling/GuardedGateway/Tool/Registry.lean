import GuardedGateway.Text.Quoted
import GuardedGateway.Tool.Capability

/-!
# The table of tools

A tool is described by its name, its scope and its parameters, and the schema that is advertised is
computed from that description.  The scope says who checks the namespace: a namespaced tool names one
and has it checked before it runs, a cluster tool does its own checking.

The table is ordered by name.  Of two tools with one name the later one stays.
-/

namespace GuardedGateway.Tool

/-- Whether a tool is about one namespace or about the whole cluster. -/
inductive Scope where
  | namespaced
  | cluster
  deriving DecidableEq, Repr

/-- The type of a parameter. -/
inductive ParamKind where
  | string
  | integer
  deriving DecidableEq, Repr

/-- The type of a parameter in a schema. -/
def ParamKind.schemaType : ParamKind → String
  | .string => "string"
  | .integer => "integer"

/-- A parameter besides the namespace. -/
structure Param where
  name : String
  kind : ParamKind
  required : Bool
  description : String
  deriving DecidableEq, Repr

/-- A tool. -/
structure Spec where
  name : String
  description : String
  scope : Scope
  params : List Param
  capability : Capability
  deriving DecidableEq, Repr

namespace Spec

/-- The arguments that must be there, in order. -/
def requiredArgs (spec : Spec) : List String :=
  (if spec.scope = .namespaced then ["namespace"] else []) ++
    (spec.params.filter Param.required).map Param.name

/-- A property of a schema that is described. -/
def property (kind description : String) : Json :=
  .obj [("type", .str kind), ("description", .str description)]

/-- The properties of the arguments, in order; the instrumentation keys come last. -/
def properties (spec : Spec) : Fields :=
  let own := (if spec.scope = .namespaced then
      [("namespace", property "string" "Kubernetes namespace")] else []) ++
    spec.params.map fun p => (p.name, property p.kind.schemaType p.description)
  let reserved := [traceparentArg, tracestateArg, sessionIdArg, agentRunIdArg].map fun key =>
    (key, Json.obj [("type", .str "string")])
  (own ++ reserved).foldl (fun fields p => fields.put p.1 p.2) []

/-- The schema of the arguments. -/
def inputSchema (spec : Spec) : Json :=
  .obj [
    ("type", .str "object"),
    ("properties", .obj spec.properties),
    ("required", .ofStrings spec.requiredArgs)]

/-- One line that tells which tool this is. -/
def summary (spec : Spec) : String :=
  let scope := match spec.scope with
    | .namespaced => "Namespaced"
    | .cluster => "Cluster"
  "ToolSpec \x7b name: " ++ Text.quoted spec.name ++ ", scope: " ++ scope ++ ", .. \x7d"

end Spec

/-- The pod that a tool is about. -/
def podName : Param := ⟨"pod_name", .string, true, "Pod name"⟩

/-- The tools of the gateway. -/
def builtinSpecs : List Spec := [
  ⟨"k8s.list_pods", "List pods in a namespace", .namespaced,
    [⟨"label_selector", .string, false, "Label selector, e.g. app=web"⟩], .listPods⟩,
  ⟨"k8s.list_namespaces", "List allowed namespaces that exist and are readable",
    .cluster, [], .listNamespaces⟩,
  ⟨"k8s.describe_pod", "Describe a pod", .namespaced, [podName], .describePod⟩,
  ⟨"k8s.get_pod_events", "Get events for a pod", .namespaced, [podName],
    .getPodEvents⟩,
  ⟨"k8s.get_pod_logs", "Get recent logs for a pod", .namespaced,
    [podName, ⟨"container", .string, false, "Container name"⟩,
      ⟨"tail_lines", .integer, false, "Number of lines from the end (default 100)"⟩],
    .getPodLogs⟩,
  ⟨"k8s.describe_deployment", "Describe a deployment", .namespaced,
    [⟨"deployment_name", .string, true, "Deployment name"⟩], .describeDeployment⟩]

/-- A table of tools, in the order of their names. -/
structure Registry where
  specs : List Spec
  increasing : Text.Increasing Spec.name specs

namespace Registry

/-- The table of these tools. -/
def ofSpecs (specs : List Spec) : Registry where
  specs := Text.orderBy Spec.name specs
  increasing := Text.increasing_orderBy Spec.name specs

/-- The table of the tools of the gateway. -/
def builtin : Registry := ofSpecs builtinSpecs

/-- The tool with a name. -/
def get? (registry : Registry) (name : String) : Option Spec :=
  registry.specs.find? fun spec => spec.name == name

def contains (registry : Registry) (name : String) : Bool :=
  (registry.get? name).isSome

def size (registry : Registry) : Nat :=
  registry.specs.length

def isEmpty (registry : Registry) : Bool :=
  registry.specs.isEmpty

/-- A tool is found under its own name. -/
theorem name_eq_of_get? {registry : Registry} {name : String} {spec : Spec}
    (h : registry.get? name = some spec) : spec.name = name := by
  have hfound := List.find?_some h
  simpa using hfound

end Registry

end GuardedGateway.Tool
