import GuardedGateway.Json.Printer
import GuardedGateway.Text.Bytes

/-!
# Audit records

A call leaves a record when it is accepted and one when it has ended.  A record is one JSON object
on a line of its own, and the ids of its trace, span, session and run stand in it beside what
happened.  The escaping of strings leaves no newline inside an object, so the newline at the end is
the only one.
-/

namespace GuardedGateway.Audit

/-- The name of the service and of its one component. -/
def serviceName : String := "tool-gateway"

/-- The ids that all records of one request share. -/
structure Correlation where
  traceId : String
  spanId : String
  sessionId : String
  agentRunId : String
  deriving DecidableEq, Repr

/-- What a record is about. -/
inductive Event where
  /-- A call was accepted. -/
  | called (toolName : String) (ns : Option String) (argKeys : List String)
  /-- A call ended. -/
  | ended (toolName : String) (ns : Option String) (outcome : String) (truncated : Bool)
      (errorType error : Option String) (latencyMs : Nat)
  deriving DecidableEq, Repr

/-- A member that is there when its value is. -/
def member? (name : String) : Option String → Fields
  | some value => [(name, .str value)]
  | none => []

namespace Event

/-- The severity of a record: an error when a call ended with one. -/
def level : Event → String
  | .ended _ _ _ _ (some _) _ _ => "ERROR"
  | _ => "INFO"

/-- The members that say what happened. -/
def fields : Event → Fields
  | .called toolName ns argKeys =>
    [("event", .str "tool_call"), ("tool_name", .str toolName)] ++ member? "namespace" ns ++
      [("arg_keys", .ofStrings argKeys)]
  | .ended toolName ns outcome truncated errorType error latencyMs =>
    [("event", .str "tool_result"), ("tool_name", .str toolName)] ++ member? "namespace" ns ++
      [("outcome", .str outcome), ("truncated", .bool truncated)] ++
      member? "error_type" errorType ++ member? "error" error ++
      [("latency_ms", .ofNat latencyMs)]

end Event

/-- What happened in which request. -/
structure Record where
  correlation : Correlation
  event : Event
  deriving DecidableEq, Repr

namespace Record

/-- A record as a JSON object, written at the time `ts`. -/
def toJson (ts : String) (record : Record) : Json :=
  .obj ([
    ("ts", .str ts),
    ("level", .str record.event.level),
    ("service", .str serviceName),
    ("component", .str serviceName),
    ("trace_id", .str record.correlation.traceId),
    ("span_id", .str record.correlation.spanId),
    ("session_id", .str record.correlation.sessionId),
    ("agent_run_id", .str record.correlation.agentRunId)] ++ record.event.fields)

/-- The line of a record. -/
def line (ts : String) (record : Record) : String :=
  (record.toJson ts).text ++ "\n"

/-- The bytes that a record adds to the log. -/
def encode (ts : String) (record : Record) : Bytes :=
  Text.bytes (record.line ts)

end Record

end GuardedGateway.Audit
