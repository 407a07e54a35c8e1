import GuardedGateway.Json.Shape

/-!
# Settings

What an operator can configure, in six sections.  Every section and every entry has a default, so a
file says only what differs from it.  Two quantities are derived: how long a call may take when it
does not say so itself, and the ceiling on every call, nine tenths of what the HTTP layer allows.
-/

namespace GuardedGateway

/-- Where to listen. -/
structure ListenerSettings where
  bindAddress : String
  deriving DecidableEq, Repr

/-- What tools may do. -/
structure ToolSettings where
  allowedNamespaces : String
  maxOutputBytes : Nat
  defaultTimeoutMs : Nat
  deriving DecidableEq, Repr

/-- Where the inventory of the cluster is kept. -/
structure ClusterSettings where
  snapshotPath : Option String
  deriving DecidableEq, Repr

/-- How long an HTTP request may take. -/
structure TimeoutSettings where
  requestSecs : Nat
  deriving DecidableEq, Repr

/-- Where logs and metrics go. -/
structure ObservabilitySettings where
  logFile : String
  logLevel : String
  metricsEnabled : Bool
  metricsAddress : String
  deriving DecidableEq, Repr

/-- What a request may weigh. -/
structure SecuritySettings where
  maxBodySize : Nat
  deriving DecidableEq, Repr

/-- The settings of a gateway. -/
structure Settings where
  listener : ListenerSettings
  tools : ToolSettings
  cluster : ClusterSettings
  timeouts : TimeoutSettings
  observability : ObservabilitySettings
  security : SecuritySettings
  deriving DecidableEq, Repr

namespace Settings

/-- The settings of a gateway about which nothing is said. -/
def default : Settings where
  listener := ⟨"0.0.0.0:8080"⟩
  tools := ⟨"", 0, 1000⟩
  cluster := ⟨none⟩
  timeouts := ⟨30⟩
  observability := ⟨"", "info", false, "0.0.0.0:9090"⟩
  security := ⟨1024 * 1024⟩

/-- The longest time a tool may take, in milliseconds. -/
def toolCeilingMs (settings : Settings) : Nat :=
  min (settings.timeouts.requestSecs * 900) (UInt64.size - 1)

/-! ## Reading and showing settings -/

def listenerRecord : Json.Record ListenerSettings where
  name := "ListenerConfig"
  start := default.listener
  fields := [
    .optional "bind_address" .string fun s v => { s with bindAddress := v }]

def toolRecord : Json.Record ToolSettings where
  name := "ToolsConfig"
  start := default.tools
  fields := [
    .optional "allowed_namespaces" .string fun s v => { s with allowedNamespaces := v },
    .optional "max_output_bytes" .size fun s v => { s with maxOutputBytes := v },
    .optional "default_timeout_ms" .word fun s v => { s with defaultTimeoutMs := v }]

def clusterRecord : Json.Record ClusterSettings where
  name := "ClusterConfig"
  start := default.cluster
  fields := [
    .optional "snapshot_path" .optionalString fun s v => { s with snapshotPath := v }]

def timeoutRecord : Json.Record TimeoutSettings where
  name := "TimeoutConfig"
  start := default.timeouts
  fields := [
    .optional "request_secs" .word fun s v => { s with requestSecs := v }]

def observabilityRecord : Json.Record ObservabilitySettings where
  name := "ObservabilityConfig"
  start := default.observability
  fields := [
    .optional "log_file" .string fun s v => { s with logFile := v },
    .optional "log_level" .string fun s v => { s with logLevel := v },
    .optional "metrics_enabled" .flag fun s v => { s with metricsEnabled := v },
    .optional "metrics_address" .string fun s v => { s with metricsAddress := v }]

def securityRecord : Json.Record SecuritySettings where
  name := "SecurityConfig"
  start := default.security
  fields := [
    .optional "max_body_size" .size fun s v => { s with maxBodySize := v }]

/-- Settings are a record of sections.  A section that is written as a list may go on after its last
entry. -/
def record : Json.Record Settings where
  name := "GatewayConfig"
  start := default
  fields := [
    .optional "listener" listenerRecord.openShape fun s v => { s with listener := v },
    .optional "tools" toolRecord.openShape fun s v => { s with tools := v },
    .optional "cluster" clusterRecord.openShape fun s v => { s with cluster := v },
    .optional "timeouts" timeoutRecord.openShape fun s v => { s with timeouts := v },
    .optional "observability" observabilityRecord.openShape fun s v => { s with observability := v },
    .optional "security" securityRecord.openShape fun s v => { s with security := v }]

/-- The settings that a value describes. -/
def ofJson (v : Json) : Except Json.Cause Settings :=
  record.openShape.ofJson v

/-- The settings of the tools as an object. -/
def ToolSettings.toJson (s : ToolSettings) : Json :=
  .obj [("allowed_namespaces", .str s.allowedNamespaces),
    ("max_output_bytes", .ofNat s.maxOutputBytes),
    ("default_timeout_ms", .ofNat s.defaultTimeoutMs)]

/-- Settings as an object, in full. -/
def toJson (s : Settings) : Json :=
  .obj [
    ("listener", .obj [("bind_address", .str s.listener.bindAddress)]),
    ("tools", ToolSettings.toJson s.tools),
    ("cluster", .obj [("snapshot_path", .ofOption s.cluster.snapshotPath)]),
    ("timeouts", .obj [("request_secs", .ofNat s.timeouts.requestSecs)]),
    ("observability", .obj [
      ("log_file", .str s.observability.logFile),
      ("log_level", .str s.observability.logLevel),
      ("metrics_enabled", .bool s.observability.metricsEnabled),
      ("metrics_address", .str s.observability.metricsAddress)]),
    ("security", .obj [("max_body_size", .ofNat s.security.maxBodySize)])]

end Settings

end GuardedGateway
