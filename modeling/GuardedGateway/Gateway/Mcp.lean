import GuardedGateway.Gateway.Dispatch

/-!
# The MCP surface

Messages are JSON-RPC 2.0.  A request gets one reply with its id; a notification, which has none, is
accepted and gets nothing.  Four methods are known, and only a call of a tool does anything.

A message is first read as JSON and then as a request, so a text that is not JSON and a value that is
no request are refused with different codes, and the second reply carries the id of the value if it
has one.
-/

namespace GuardedGateway.Gateway.Mcp

/-- The version of the protocol that is spoken. -/
def protocolVersion : String := "2025-03-26"

/-- The version of the gateway. -/
def gatewayVersion : String := "0.1.0"

/-- A request.  Its id is absent only where the message has no such member. -/
structure Request where
  jsonrpc : String
  id : Option Json
  method : String
  params : Json

/-- A request is a record that must name a method. -/
def Request.record : Json.Record Request where
  name := "RpcRequest"
  start := ⟨"", none, "", .null⟩
  fields := [
    .optional "jsonrpc" .string fun r v => { r with jsonrpc := v },
    .optional "id" .any fun r v => { r with id := some v },
    .needed "method" .string fun r v => { r with method := v },
    .optional "params" .any fun r v => { r with params := v }]

/-- Why a message is refused. -/
inductive Refusal where
  | notJson (fault : Json.Fault)
  | notARequest (cause : Json.Cause)
  | wrongVersion
  | unknownMethod (method : String)
  | nameRequired
  | argumentsNotObject

namespace Refusal

/-- The code of a refusal. -/
def code : Refusal → Int
  | .notJson _ => -32700
  | .notARequest _ => -32600
  | .wrongVersion => -32600
  | .unknownMethod _ => -32601
  | .nameRequired => -32602
  | .argumentsNotObject => -32602

/-- The wording of a refusal. -/
def message : Refusal → String
  | .notJson fault => "parse error: " ++ fault.message
  | .notARequest cause => "invalid request: " ++ cause.message
  | .wrongVersion => "jsonrpc must be \"2.0\""
  | .unknownMethod method => "method not found: " ++ method
  | .nameRequired => "params.name required"
  | .argumentsNotObject => "params.arguments must be an object"

end Refusal

/-- What is sent back. -/
inductive Reply where
  | message (v : Json)
  | accepted

/-- The reply with a result. -/
def Reply.result (id result : Json) : Reply :=
  .message (.obj [("jsonrpc", .str "2.0"), ("id", id), ("result", result)])

/-- The reply with a refusal. -/
def Reply.refusal (id : Json) (refusal : Refusal) : Reply :=
  .message (.obj [("jsonrpc", .str "2.0"), ("id", id),
    ("error", .obj [("code", .ofInt refusal.code), ("message", .str refusal.message)])])

/-- What the gateway says about itself. -/
def initializeResult : Json :=
  .obj [
    ("protocolVersion", .str protocolVersion),
    ("capabilities", .obj [("tools", .obj [("listChanged", .bool false)])]),
    ("serverInfo", .obj [("name", .str Audit.serviceName), ("version", .str gatewayVersion)])]

/-- The tools, as they are advertised. -/
def toolList (registry : Tool.Registry) : Json :=
  .obj [("tools", .arr (registry.specs.map fun spec =>
    .obj [("name", .str spec.name), ("description", .str spec.description),
      ("inputSchema", spec.inputSchema)]))]

/-- The call that parameters describe.  It has no deadline of its own. -/
def callOfParams (params : Json) : Except Refusal Tool.Call :=
  match (params.field? "name").bind Json.nonEmptyText? with
  | none => .error .nameRequired
  | some name =>
    match params.field? "arguments" with
    | none => .ok ⟨name, [], 0⟩
    | some .null => .ok ⟨name, [], 0⟩
    | some (.obj args) => .ok ⟨name, args, 0⟩
    | some _ => .error .argumentsNotObject

/-- The result of a call: the envelope, once as text and once as it is. -/
def callResult (dispatched : Dispatched) : Json :=
  let envelope := dispatched.response.toJson
  .obj [
    ("content", .arr [.obj [("type", .str "text"), ("text", .str envelope.text)]]),
    ("structuredContent", envelope),
    ("isError", .bool dispatched.response.failure?.isSome)]

/-- A reply, and the call that was dispatched for it. -/
structure Handled where
  reply : Reply
  dispatched : Option Dispatched

/-- A reply for which nothing was dispatched. -/
def Handled.idle (reply : Reply) : Handled := ⟨reply, none⟩

/-- The request that a message spells, or the reply that refuses it. -/
def readRequest (body : Bytes) : Except Reply Request :=
  match Json.read body with
  | .error fault => .error (.refusal .null (.notJson fault))
  | .ok v =>
    match Request.record.shape.ofJson v with
    | .ok request => .ok request
    | .error cause => .error (.refusal ((v.field? "id").getD .null) (.notARequest cause))

/-- Carries out a request with an id. -/
def perform (frame : Frame) (ambient : Ambient) (request : Request) (id : Json) (state : State) :
    Underway Handled :=
  match request.method with
  | "initialize" => .now state (.idle (.result id initializeResult))
  | "ping" => .now state (.idle (.result id (.obj [])))
  | "tools/list" => .now state (.idle (.result id (toolList frame.registry)))
  | "tools/call" =>
    match callOfParams request.params with
    | .error refusal => .now state (.idle (.refusal id refusal))
    | .ok call =>
      let work := dispatch frame ambient call state
      ⟨work.begun, work.duration, ⟨.result id (callResult work.result), some work.result⟩,
        work.done⟩
  | method => .now state (.idle (.refusal id (.unknownMethod method)))

/-- Handles a message. -/
def handle (frame : Frame) (ambient : Ambient) (body : Bytes) (state : State) :
    Underway Handled :=
  match readRequest body with
  | .error reply => .now state (.idle reply)
  | .ok request =>
    if request.jsonrpc ≠ "2.0" then
      .now state (.idle (.refusal (request.id.getD .null) .wrongVersion))
    else
      match request.id with
      | none => .now state (.idle .accepted)
      | some id => perform frame ambient request id state

end GuardedGateway.Gateway.Mcp
