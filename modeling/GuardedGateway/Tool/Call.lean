import GuardedGateway.Json.Shape

/-!
# Tool calls

A call names a tool, gives it arguments and may set a deadline.  Arguments whose keys begin with two
underscores are instrumentation: they are taken out before anything looks at the arguments, and four
of them tell which trace, session and run the call belongs to.

## What the removal does to the order

An argument is removed by moving the last one into its place.  The reserved keys go one after the
other, in the order in which they stood at the start, so the other arguments keep their values and
may change places.
-/

namespace GuardedGateway.Tool

/-- A call as it arrives. -/
structure Call where
  toolName : String
  args : Fields
  timeoutMs : Nat
  deriving Repr, Inhabited

namespace Call

/-- A call is a record of which every member may be missing. -/
def record : Json.Record Call where
  name := "ToolCall"
  start := ⟨"", [], 0⟩
  fields := [
    .optional "tool_name" .string fun call v => { call with toolName := v },
    .optional "args" .object fun call v => { call with args := v },
    .optional "timeout_ms" .word fun call v => { call with timeoutMs := v }]

/-- The call that a body spells. -/
def parse (body : Bytes) : Except Json.Fault Call :=
  record.shape.parse body

/-- A call as a JSON object. -/
def toJson (call : Call) : Json :=
  .obj [
    ("tool_name", .str call.toolName),
    ("args", .obj call.args),
    ("timeout_ms", .ofNat call.timeoutMs)]

end Call

/-- The value of an argument that is a string and not empty. -/
def stringArg (args : Fields) (key : String) : Option String :=
  (args.get? key).bind Json.nonEmptyText?

/-! ## Instrumentation -/

/-- Whether a key is reserved for instrumentation. -/
def isReserved (key : String) : Bool :=
  ['_', '_'].isPrefixOf key.toList

def traceparentArg : String := "__traceparent"

def tracestateArg : String := "__tracestate"

def sessionIdArg : String := "__session_id"

def agentRunIdArg : String := "__agent_run_id"

/-- What a caller says about the trace, the session and the run that a call belongs to. -/
structure Instrumentation where
  traceparent : Option String
  tracestate : Option String
  sessionId : Option String
  agentRunId : Option String
  deriving DecidableEq, Repr

/-- No instrumentation at all. -/
def Instrumentation.absent : Instrumentation := ⟨none, none, none, none⟩

/-- The instrumentation among the arguments. -/
def Instrumentation.ofArgs (args : Fields) : Instrumentation where
  traceparent := stringArg args traceparentArg
  tracestate := stringArg args tracestateArg
  sessionId := stringArg args sessionIdArg
  agentRunId := stringArg args agentRunIdArg

/-- Removes the member with this key; the last member takes its place. -/
def removeBySwap (key : String) : Fields → Fields
  | [] => []
  | f :: rest =>
    if f.1 = key then
      match rest.getLast? with
      | some last => last :: rest.dropLast
      | none => []
    else f :: removeBySwap key rest

/-- The arguments without the reserved keys. -/
def strip (args : Fields) : Fields :=
  (args.keys.filter isReserved).foldl (fun rest key => removeBySwap key rest) args

/-! ## Requests -/

/-- A call with its instrumentation taken out and its deadline settled. -/
structure Request where
  toolName : String
  args : Fields
  timeoutMs : Nat
  instrumentation : Instrumentation
  deriving Repr

namespace Request

/-- The request that a call makes.  A call without a deadline of its own has the default one. -/
def ofCall (defaultTimeoutMs : Nat) (call : Call) : Request where
  toolName := call.toolName
  args := strip call.args
  timeoutMs := if call.timeoutMs = 0 then defaultTimeoutMs else call.timeoutMs
  instrumentation := .ofArgs call.args

/-- The namespace that a request is about. -/
def ns? (request : Request) : Option String :=
  stringArg request.args "namespace"

end Request

end GuardedGateway.Tool
