import GuardedGateway.Gateway.Http

/-!
# The layers of the router

`serve` says what a request is answered with.  Here is how the answer comes about.  What answers at
a path is a service, and so is what answers to another method there and at all other paths.  Around
each of these services lie the same layers.  A layer hands a request on inwards, changed or not,
and looks at what comes back, or it answers the request itself.

So a layer knows nothing of the answers that are made outside it, and what it does to a request is
not seen there.  Which layer lies around which is therefore part of what the router does, and
`layers` lists them from the inside out, in the order in which they are put around the services.

The layers themselves are those of a web framework, and so is the choice of the service for a
request.  `Framework` is what the router takes from it, and `Framework.actual` what that is.

A header is sent as bytes.  What a layer reads as text it reads if the bytes spell any; what it only
passes on it need not read.
-/

namespace GuardedGateway.Gateway.Http

/-! ## Headers -/

/-- A header as it is sent. -/
structure Header where
  name : String
  value : Bytes
  deriving DecidableEq, Repr

/-- Whether a header has a name; the case of ASCII letters does not matter. -/
def Header.isNamed (name : String) (header : Header) : Bool :=
  header.name.toList.map Text.lowerAscii == name.toList

/-- The first value under a name. -/
def valueOf? (name : String) (headers : List Header) : Option Bytes :=
  (headers.find? (Header.isNamed name)).map Header.value

/-- Headers with a value under a name.  One that is there already stays. -/
def provided (name : String) (value? : Option Bytes) (headers : List Header) : List Header :=
  match valueOf? name headers, value? with
  | none, some value => headers ++ [⟨name, value⟩]
  | _, _ => headers

/-- The value of a header as text, if it is visible ASCII. -/
def headerText? (value : Bytes) : Option String :=
  (Text.ofBytes? value).filter fun text => text.toList.all isHeaderText

/-- The value of a header that is made from a text, which has to be visible ASCII. -/
def headerValue? (text : String) : Option Bytes :=
  if text.toList.all isHeaderText then some (Text.bytes text) else none

/-- The name under which the id of a request is sent. -/
def requestIdName : String := "x-request-id"

/-! ## Requests and responses -/

/-- A request on its way inwards. -/
structure Inbound where
  method : String
  target : String
  headers : List Header
  body : Bytes
  /-- How many bytes of the body a layer lets through. -/
  passed : Option Nat := none
  /-- How many bytes what reads the body takes, unless it is told not to count. -/
  taken : Option Nat := some 2097152

/-- The span of the trace that is opened for a request. -/
structure RequestSpan where
  method : String
  path : String
  requestId : String
  deriving DecidableEq, Repr

/-- A response on its way outwards, with the span that was open while it was made. -/
structure Outbound where
  status : Nat
  headers : List Header
  body : String
  span? : Option RequestSpan
  deriving DecidableEq, Repr

/-- A request as it is sent. -/
def Request.sent (request : Request) : Inbound where
  method := request.method
  target := request.target
  headers := request.headers.map fun h => ⟨h.1, Text.bytes h.2⟩
  body := request.body

/-- A request with its headers read as text. -/
def Inbound.read (request : Inbound) : Request where
  method := request.method
  target := request.target
  headers := request.headers.map fun h => (h.name, (Text.ofBytes? h.value).getD "")
  body := request.body

/-- Whether all of the body can be read. -/
def Inbound.isReadable (request : Inbound) : Bool :=
  (request.passed.toList ++ request.taken.toList).all fun limit => request.body.length ≤ limit

/-- An answer before anything is added to it. -/
def Answer.outbound (answer : Answer) : Outbound where
  status := answer.status
  headers := answer.contentType.toList.map fun type => ⟨"content-type", Text.bytes type⟩
  body := answer.body
  span? := none

/-! ## Services -/

/-- What answers requests. -/
abbrev Service := Inbound → State → Underway Outbound

/-- What gives an answer at once and touches nothing. -/
def answering (answer : Answer) : Service := fun _ state => .now state answer.outbound

/-- What reads a body and goes on with it. -/
def reading (next : Bytes → State → Underway Answer) : Service := fun request state =>
  if request.isReadable then
    let work := next request.body state
    ⟨work.begun, work.duration, work.result.outbound, work.done⟩
  else .now state tooLongRead.outbound

/-- What a request comes to inside all layers. -/
inductive Handler where
  | endpoint (endpoint : Endpoint)
  | otherMethod
  | otherPath
  deriving DecidableEq, Repr

/-- The handler of a request. -/
def Request.handler (request : Request) : Handler :=
  match request.endpoint? with
  | none => .otherPath
  | some endpoint => if endpoint.allows request.method then .endpoint endpoint else .otherMethod

def Handler.service (frame : Frame) (ambient : Ambient) : Handler → Service
  | .endpoint .health => answering healthAnswer
  | .endpoint .execute => reading (executeRoute frame ambient)
  | .endpoint .mcp => reading (mcpRoute frame ambient)
  | .otherMethod => answering (emptyAnswer 405)
  | .otherPath => answering (emptyAnswer 404)

/-! ## Layers -/

/-- What lies around a service. -/
abbrev Layer := Service → Service

/-- A service with layers around it, the first one innermost. -/
def layered (layers : List Layer) (service : Service) : Service :=
  layers.foldl (fun inner layer => layer inner) service

namespace Layer

/-- Tells what reads bodies not to count. -/
def uncounted : Layer := fun inner request state => inner { request with taken := none } state

/-- Lets bodies through up to a limit, or to the length that they declare if that is less. -/
def bodyLimit (limit : Nat) : Layer := fun inner request state =>
  match request.read.declaredLength? with
  | none => inner { request with passed := some limit } state
  | some length =>
    if limit < length then .now state tooLongDeclared.outbound
    else inner { request with passed := some (min limit length) } state

/-- Stops waiting after some time. -/
def timeout (ms : Nat) : Layer := fun inner request state =>
  let work := inner request state
  if work.duration < ms then work
  else
    let left := if ms = 0 then state else work.begun
    ⟨left, ms, (emptyAnswer 408).outbound, left⟩

/-- Opens a span for a request. -/
def traced (spanOf : Inbound → RequestSpan) : Layer := fun inner request state =>
  let work := inner request state
  { work with result := { work.result with span? := some (spanOf request) } }

/-- Puts what a request has under a name on its response. -/
def propagate (name : String) : Layer := fun inner request state =>
  let work := inner request state
  let headers := provided name (valueOf? name request.headers) work.result.headers
  { work with result := { work.result with headers } }

/-- Gives a request what has been made to stand under a name. -/
def provide (name : String) (made : Option Bytes) : Layer := fun inner request state =>
  inner { request with headers := provided name made request.headers } state

end Layer

/-! ## The router -/

/-- What is done to a response outside all layers: the methods are added that would have been
allowed, and an endpoint sends no body in response to `HEAD`. -/
def Inbound.finish (request : Inbound) (response : Outbound) : Outbound :=
  { response with
    headers := response.headers ++
      request.read.allow?.toList.map fun methods => ⟨"allow", Text.bytes methods⟩
    body := if request.method = "HEAD" ∧ request.read.endpoint?.isSome then "" else response.body }

/-- Chooses the service that answers a request. -/
def choosing (services : Handler → Service) : Service := fun request state =>
  let work := services request.read.handler request state
  { work with result := request.finish work.result }

/-- What the router takes from a web framework. -/
structure Framework where
  uncounted : Layer
  bodyLimit : Nat → Layer
  timeout : Nat → Layer
  traced : (Inbound → RequestSpan) → Layer
  propagate : String → Layer
  provide : String → Option Bytes → Layer
  choosing : (Handler → Service) → Service

/-- The framework that is used. -/
def Framework.actual : Framework where
  uncounted := .uncounted
  bodyLimit := .bodyLimit
  timeout := .timeout
  traced := .traced
  propagate := .propagate
  provide := .provide
  choosing := Http.choosing

/-- The span of a request, with its id if that can be read. -/
def Inbound.span (request : Inbound) : RequestSpan where
  method := request.method
  path := request.read.path
  requestId := ((valueOf? requestIdName request.headers).bind headerText?).getD ""

/-- The layers around every service. -/
def layers (framework : Framework) (frame : Frame) (ambient : Ambient) : List Layer :=
  [framework.uncounted,
   framework.bodyLimit frame.bodyLimit,
   framework.timeout frame.requestTimeoutMs,
   framework.traced Inbound.span,
   framework.propagate requestIdName,
   framework.provide requestIdName (headerValue? (newRequestId ambient.requestId))]

/-- Serves requests through the layers. -/
def router (framework : Framework) (frame : Frame) (ambient : Ambient) : Service :=
  framework.choosing fun handler =>
    layered (layers framework frame ambient) (handler.service frame ambient)

end GuardedGateway.Gateway.Http
