import GuardedGateway.Audit.Log
import GuardedGateway.Cluster.Connection
import GuardedGateway.Guard.OutputBound
import GuardedGateway.Guard.Redaction
import GuardedGateway.Metrics
import GuardedGateway.Settings.Basic
import GuardedGateway.Timing.Deadline
import GuardedGateway.Tool.Registry
import GuardedGateway.Tool.Response
import GuardedGateway.Trace.Span

/-!
# Dispatching a call

A call goes through fixed stages, and the first that fails ends it: its tool must exist, its
namespace must be allowed, a client must be had, and the capability must be done before the deadline.
A result is redacted, then bounded.  Whatever the end, one span is finished, one record is written
and one call is counted.

## What decides, and what is told

`execute` decides: it sees the settings, the connection and the request, and nothing of what was
recorded before.  `accept` and `conclude` tell: they write records and count, and nothing they do is
looked at by a later call.  A failure to write is handed back beside the response.

## Calls that are cut off

A caller may stop waiting.  `Underway` keeps both ends of a call: the state once it has been
accepted, with its first record, and the state once it has ended.
-/

namespace GuardedGateway.Gateway

open Tool (FailureCause Raised)

/-- What a gateway is built from and keeps for life. -/
structure Frame where
  registry : Tool.Registry
  toolCeilingMs : Nat
  requestTimeoutMs : Nat
  bodyLimit : Nat

/-- The frame of a gateway with these initial settings. -/
def Frame.ofSettings (registry : Tool.Registry) (settings : Settings) : Frame where
  registry := registry
  toolCeilingMs := settings.toolCeilingMs
  requestTimeoutMs := settings.timeouts.requestSecs * 1000
  bodyLimit := settings.security.maxBodySize

/-- What changes while a gateway runs. -/
structure State where
  live : Settings
  connection : Cluster.Connection
  audit : Audit.Log
  metrics : Metrics

/-- What happens around a call: drawn numbers, the measured latency, and the time that has passed
before its deadline is set. -/
structure Ambient where
  draw : Trace.Draw
  requestId : Nat
  latencyNanos : Nat
  spentMs : Nat

/-- A call that ended: its response, its span, and the first failure to write a record. -/
structure Dispatched where
  response : Tool.Response
  span : Trace.Span
  audit : Except Audit.WriteFault Unit

/-- Work that takes time: the state once it has begun, how long it takes, what it gives, and the
state once it is done. -/
structure Underway (α : Type) where
  begun : State
  duration : Nat
  result : α
  done : State

/-- Work that is done at once. -/
def Underway.now {α : Type} (state : State) (result : α) : Underway α :=
  ⟨state, 0, result, state⟩

/-! ## Deciding -/

/-- The namespace of a request that is authorised, or why it is not. -/
def authorizedNs (allowed : Guard.Allowlist) (request : Tool.Request) :
    Except FailureCause String :=
  match request.ns? with
  | none => .error (.argumentRequired "namespace")
  | some ns => if allowed.allows ns then .ok ns else .error .namespaceNotAllowed

/-- The tool of a request, if it exists and the request may use it. -/
def authorize (registry : Tool.Registry) (allowed : Guard.Allowlist) (request : Tool.Request) :
    Except FailureCause Tool.Spec :=
  match registry.get? request.toolName with
  | none => .error .notImplemented
  | some spec =>
    match spec.scope with
    | .cluster => .ok spec
    | .namespaced => (authorizedNs allowed request).map fun _ => spec

/-- The deadline of a request.  No request outlasts the ceiling, and time that has passed counts. -/
def deadlineMs (frame : Frame) (ambient : Ambient) (request : Tool.Request) : Nat :=
  min request.timeoutMs (frame.toolCeilingMs - ambient.spentMs)

/-- A result as it may leave the gateway. -/
def release (settings : Settings) (result : Json) : Guard.Bounded :=
  Guard.bound settings.tools.maxOutputBytes (Guard.redact result)

/-- Runs the capability of a tool under a deadline. -/
def runWithin (toolName : String) (limitMs : Nat) (settings : Settings)
    (work : Timed Tool.Outcome) : Timed (Except Raised Guard.Bounded) :=
  (work.within limitMs).map fun race =>
    match race.outcome with
    | .error passed => .error ⟨toolName, .timedOut passed.afterMs⟩
    | .ok outcome => outcome.map (release settings)

/-- Decides a request. -/
def execute (frame : Frame) (ambient : Ambient) (settings : Settings)
    (connection : Cluster.Connection) (request : Tool.Request) :
    Timed (Except Raised Guard.Bounded) :=
  let allowed := Guard.Allowlist.parse settings.tools.allowedNamespaces
  match authorize frame.registry allowed request with
  | .error cause => .now (.error ⟨request.toolName, cause⟩)
  | .ok spec =>
    connection.andThen fun
      | .error _ => .now (.error ⟨request.toolName, .noClient⟩)
      | .ok client =>
        runWithin request.toolName (deadlineMs frame ambient request) settings
          (spec.capability.run ⟨client, request.args, allowed⟩)

/-- The response to a request that was decided. -/
def respond (toolName : String) (latencyNanos : Nat) :
    Except Raised Guard.Bounded → Tool.Response
  | .ok bounded => (Tool.Response.success toolName bounded.value bounded.truncated).withLatency
      latencyNanos
  | .error raised => (Tool.Response.failed toolName raised.failure).withLatency latencyNanos

/-! ## Telling -/

/-- The ids under which the records of a call are written. -/
def correlation (context : Trace.Context) (found : Tool.Instrumentation) : Audit.Correlation where
  traceId := context.traceId
  spanId := context.spanId
  sessionId := found.sessionId.getD ""
  agentRunId := found.agentRunId.getD ""

/-- The kind of failure of a response. -/
def errorType (response : Tool.Response) : Option String :=
  response.failure?.map fun failure => failure.kind.name

/-- The attributes that are recorded on the span of a call. -/
def attributes (found : Tool.Instrumentation) (ns : Option String) (response : Tool.Response) :
    List (String × Json) := [
  ("namespace", .ofOption ns),
  ("session_id", .ofOption found.sessionId),
  ("agent_run_id", .ofOption found.agentRunId),
  ("result_status", .str response.status),
  ("error_type", .ofOption (errorType response)),
  ("truncated", .bool response.truncated),
  ("latency_ms", .ofNat response.latencyMs)]

/-- The record of a call that was accepted. -/
def calledEvent (request : Tool.Request) : Audit.Event :=
  .called request.toolName request.ns? request.args.keys

/-- The record of a call that ended. -/
def endedEvent (ns : Option String) (response : Tool.Response) : Audit.Event :=
  .ended response.toolName ns response.status response.truncated (errorType response)
    (response.failure?.map Tool.Failure.message) response.latencyMs

/-- The label under which calls of tools that do not exist are counted. -/
def unregistered : String := "unregistered"

/-- The label under which the calls of a tool are counted. -/
def toolLabel (registry : Tool.Registry) (toolName : String) : String :=
  if registry.contains toolName then toolName else unregistered

/-- Counts a call that ended. -/
def count (registry : Tool.Registry) (response : Tool.Response) (metrics : Metrics) : Metrics :=
  let label := toolLabel registry response.toolName
  let metrics := metrics.recordCall label response.status ((errorType response).getD "")
  if response.truncated then metrics.recordTruncated label else metrics

/-- The first failure of two writes. -/
def firstFault (first second : Except Audit.WriteFault Unit) : Except Audit.WriteFault Unit :=
  match first with
  | .ok _ => second
  | .error fault => .error fault

/-- Ends a call: finishes its span, writes its record and counts it. -/
def conclude (frame : Frame) (context : Trace.Context) (found : Tool.Instrumentation)
    (ns : Option String) (response : Tool.Response) (accepted : Except Audit.WriteFault Unit)
    (state : State) : State × Dispatched :=
  let (audit, recorded) :=
    state.audit.write ⟨correlation context found, endedEvent ns response⟩
  ({ state with audit, metrics := count frame.registry response state.metrics },
    { response
      span := .finish context (attributes found ns response)
      audit := firstFault accepted recorded })

/-! ## Dispatching -/

/-- Dispatches a call. -/
def dispatch (frame : Frame) (ambient : Ambient) (call : Tool.Call) (state : State) :
    Underway Dispatched :=
  let settings := state.live
  let request := Tool.Request.ofCall settings.tools.defaultTimeoutMs call
  let found := request.instrumentation
  let context := Trace.Context.continueOrStart ambient.draw found.traceparent found.tracestate
  let (audit, accepted) :=
    state.audit.write ⟨correlation context found, calledEvent request⟩
  let begun := { state with audit }
  let decided := execute frame ambient settings state.connection request
  let response := respond request.toolName ambient.latencyNanos decided.value
  let (done, dispatched) := conclude frame context found request.ns? response accepted begun
  ⟨begun, decided.duration, dispatched, done⟩

/-- Dispatches the call that a body spells.  A body that is no call is answered and recorded like a
call of the tool with the empty name that was never accepted. -/
def dispatchBody (frame : Frame) (ambient : Ambient) (body : Bytes) (state : State) :
    Underway Dispatched :=
  match Tool.Call.parse body with
  | .ok call => dispatch frame ambient call state
  | .error _ =>
    let context := Trace.Context.continueOrStart ambient.draw none none
    let response := respond "" ambient.latencyNanos (.error ⟨"", .malformedCall⟩)
    let (done, dispatched) :=
      conclude frame context .absent none response (.ok ()) state
    ⟨state, 0, dispatched, done⟩

end GuardedGateway.Gateway
