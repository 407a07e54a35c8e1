import GuardedGateway.Gateway.Mcp
import GuardedGateway.Text.Case
import GuardedGateway.Text.Number

/-!
# The HTTP surface

Three endpoints answer: the health check, the execution of a tool and the MCP endpoint.  Around each of
them, and around the answer to all other paths, lie three layers.

* The outermost gives every response a request id: the caller's, or a new one.
* The next stops waiting when the time for a request is over, and answers 408 with nothing in it.
* The innermost limits the body.  A declared length above the limit is refused before anything is
  read, on every path; a body is refused while it is read if it is longer than the limit or than its
  own declared length.

Whatever the layers made of it, a response of an endpoint to a method that it does not answer lists the
methods that it does, and its response to `HEAD` has no body.

A record that could not be written is counted here, once for each call, and never changes a response.
-/

namespace GuardedGateway.Gateway.Http

/-- A request. -/
structure Request where
  method : String
  target : String
  headers : List (String × String)
  body : Bytes

/-- What an endpoint or a layer answers. -/
structure Answer where
  status : Nat
  contentType : Option String
  body : String
  deriving DecidableEq, Repr

/-- A response: an answer, the methods that would have been allowed, and a request id. -/
structure Response where
  answer : Answer
  allow : Option String
  requestId : String
  deriving DecidableEq, Repr

/-! ## Headers and paths -/

/-- The first header with a name; the case of ASCII letters does not matter. -/
def Request.header? (request : Request) (name : String) : Option String :=
  (request.headers.find? fun h => h.1.toList.map Text.lowerAscii == name.toList).map Prod.snd

/-- Whether a character ends the authority of a target. -/
def endsAuthority (c : Char) : Bool :=
  c == '/' || c == '?' || c == '#'

/-- What follows the authority of a target that names its scheme. -/
def afterAuthority : List Char → List Char
  | [] => []
  | ':' :: '/' :: '/' :: rest => rest.dropWhile fun c => !endsAuthority c
  | _ :: rest => afterAuthority rest

/-- The path of a request without its query.  A target that does not begin with a slash names a
scheme and an authority in front of the path, or has no path. -/
def Request.path (request : Request) : String :=
  let path := match request.target.toList with
    | '/' :: rest => '/' :: rest
    | target => afterAuthority target
  String.ofList (path.takeWhile fun c => c != '?' && c != '#')

/-- Whether a character of a header is text: visible ASCII, a blank or a tab. -/
def isHeaderText (c : Char) : Bool :=
  c == '\t' || (' ' ≤ c && c ≤ '~')

/-- The length that a request declares, if it is a number. -/
def Request.declaredLength? (request : Request) : Option Nat :=
  (request.header? "content-length").bind fun value => Text.word? value.toList

/-! ## Request ids -/

/-- The text of a version 4 UUID from a drawn number. -/
def newRequestId (draw : Nat) : String :=
  let digits (from_ count : Nat) : List Char :=
    ((Text.hexPadded 32 draw).drop from_).take count
  let variant := Text.hexDigit (8 + (draw >>> 62) % 4)
  String.ofList (digits 0 8 ++ ['-'] ++ digits 8 4 ++ ['-', '4'] ++ digits 13 3 ++ ['-', variant] ++
    digits 17 3 ++ ['-'] ++ digits 20 12)

/-- The id of a request: the caller's, or a new one. -/
def requestIdOf (draw : Nat) (request : Request) : String :=
  (request.header? "x-request-id").getD (newRequestId draw)

/-- The request id of a response as text.  A caller's id is kept whatever its bytes are, and only ASCII
can be read back as text. -/
def Response.requestIdText? (response : Response) : Option String :=
  if response.requestId.toList.all isHeaderText then some response.requestId else none

/-! ## Endpoints -/

/-- What answers at a path of its own. -/
inductive Endpoint where
  | health
  | execute
  | mcp
  deriving DecidableEq, Repr

/-- The endpoint at a path. -/
def Endpoint.ofPath? : String → Option Endpoint
  | "/health" => some .health
  | "/tools/execute" => some .execute
  | "/mcp" => some .mcp
  | _ => none

/-- The methods that an endpoint answers. -/
def Endpoint.methods : Endpoint → List String
  | .health => ["GET", "HEAD"]
  | .execute => ["POST"]
  | .mcp => ["POST"]

/-- Whether an endpoint answers a method; case matters. -/
def Endpoint.allows (endpoint : Endpoint) (method : String) : Bool :=
  endpoint.methods.contains method

/-- The endpoint of a request. -/
def Request.endpoint? (request : Request) : Option Endpoint :=
  Endpoint.ofPath? request.path

/-- The methods to name in the response: those of an endpoint that does not answer this one. -/
def Request.allow? (request : Request) : Option String :=
  request.endpoint?.bind fun endpoint =>
    if endpoint.allows request.method then none else some (",".intercalate endpoint.methods)

/-! ## Answers -/

def jsonAnswer (status : Nat) (v : Json) : Answer :=
  ⟨status, some "application/json", v.text⟩

def textAnswer (status : Nat) (text : String) : Answer :=
  ⟨status, some "text/plain; charset=utf-8", text⟩

def emptyAnswer (status : Nat) : Answer :=
  ⟨status, none, ""⟩

def healthAnswer : Answer :=
  jsonAnswer 200 (.obj [("status", .str "ok")])

/-- The answer to a call: its envelope with the status of its outcome. -/
def executeAnswer (dispatched : Dispatched) : Answer :=
  jsonAnswer dispatched.response.statusCode dispatched.response.toJson

/-- The answer to a message. -/
def mcpAnswer : Mcp.Reply → Answer
  | .message v => jsonAnswer 200 v
  | .accepted => emptyAnswer 202

/-- The answer to a request that declares too long a body. -/
def tooLongDeclared : Answer :=
  textAnswer 413 "length limit exceeded"

/-- The answer to a request whose body turns out to be too long. -/
def tooLongRead : Answer :=
  textAnswer 413 "Failed to buffer the request body: length limit exceeded"

/-- The answer as a request sees it: an endpoint sends no body in response to `HEAD`. -/
def Request.seen (request : Request) (answer : Answer) : Answer :=
  if request.method = "HEAD" ∧ request.endpoint?.isSome then { answer with body := "" } else answer

/-! ## What the endpoints do -/

/-- Counts a record that could not be written. -/
def report (audit : Except Audit.WriteFault Unit) (state : State) : State :=
  match audit with
  | .ok _ => state
  | .error _ => { state with metrics := state.metrics.recordAuditFailure }

/-- Executes the tool that a body calls. -/
def executeRoute (frame : Frame) (ambient : Ambient) (body : Bytes) (state : State) :
    Underway Answer :=
  let work := dispatchBody frame ambient body state
  ⟨work.begun, work.duration, executeAnswer work.result, report work.result.audit work.done⟩

/-- Handles the message that a body spells. -/
def mcpRoute (frame : Frame) (ambient : Ambient) (body : Bytes) (state : State) :
    Underway Answer :=
  let work := Mcp.handle frame ambient body state
  let audit := match work.result.dispatched with
    | some dispatched => dispatched.audit
    | none => .ok ()
  ⟨work.begun, work.duration, mcpAnswer work.result.reply, report audit work.done⟩

/-- Reads a body of at most `limit` bytes and goes on with it. -/
def withBody (limit : Nat) (body : Bytes) (state : State)
    (next : Bytes → State → Underway Answer) : Underway Answer :=
  if body.length ≤ limit then next body state else .now state tooLongRead

/-- Answers a request whose body may have `limit` bytes. -/
def routed (frame : Frame) (ambient : Ambient) (limit : Nat) (request : Request) (state : State) :
    Underway Answer :=
  match request.endpoint? with
  | none => .now state (emptyAnswer 404)
  | some endpoint =>
    if endpoint.allows request.method then
      match endpoint with
      | .health => .now state healthAnswer
      | .execute => withBody limit request.body state (executeRoute frame ambient)
      | .mcp => withBody limit request.body state (mcpRoute frame ambient)
    else .now state (emptyAnswer 405)

/-! ## Layers -/

/-- Limits the body. -/
def limited (frame : Frame) (ambient : Ambient) (request : Request) (state : State) :
    Underway Answer :=
  match request.declaredLength? with
  | none => routed frame ambient frame.bodyLimit request state
  | some length =>
    if frame.bodyLimit < length then .now state tooLongDeclared
    else routed frame ambient (min frame.bodyLimit length) request state

/-- Stops waiting after the time for a request.  The clock is looked at before the work, so without
any time the work does not even begin. -/
def timed (frame : Frame) (work : Underway Answer) (state : State) : Answer × State :=
  if work.duration < frame.requestTimeoutMs then (work.result, work.done)
  else (emptyAnswer 408, if frame.requestTimeoutMs = 0 then state else work.begun)

/-- Serves a request. -/
def serve (frame : Frame) (ambient : Ambient) (request : Request) (state : State) :
    Response × State :=
  let (answer, next) := timed frame (limited frame ambient request state) state
  (⟨request.seen answer, request.allow?, requestIdOf ambient.requestId request⟩, next)

end GuardedGateway.Gateway.Http
