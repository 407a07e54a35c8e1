import GuardedGateway.Gateway.Layers
import GuardedGateway.Proofs.Dispatch.Decision
import GuardedGateway.Proofs.Text.Encoding
import GuardedGateway.Proofs.Trace.Traceparent
import Mathlib.Data.List.Forall2

/-!
# Every response has the id of its request

The id of a response is put on it by a layer, so a response that is made outside this layer has
none, and the layer has only the id of the request to put there, so a request that has none yet
when it comes to the layer is answered without.  Hence two things are asked of the order of the
layers.  All that answer requests themselves lie inside the one that puts the id on the response,
and the one that gives a request an id lies outside it.

What a layer does is the affair of the web framework, and `Framework.Documented` is what that says
of its layers.

* `Service.IsSilent` says that a service sets no id itself.  The handlers do not, and a layer inside
  keeps it so even where it answers in place of its service (`isSilent_layered`).
* Around a service that sets none, the two outer layers put the id of the request on every response,
  once (`requestId_of_isSilent`).  The other way round a new id would be lost
  (`no_requestId_inside_out`).
* A new id is the text of a random UUID (`isUuid4_newRequestId`), which a header can hold.
* What is served through the layers is what `serve` says (`router_sent`).
-/

namespace GuardedGateway.Gateway.Http

/-! ## Headers -/

section

variable {name other : String} {value given : Bytes} {headers : List Header}

theorem valueOf?_eq_none_iff :
    valueOf? name headers = none ↔ headers.filter (Header.isNamed name) = [] := by
  rw [valueOf?, Option.map_eq_none_iff, List.find?_eq_none, List.filter_eq_nil_iff]

theorem valueOf?_append (name : String) (front rest : List Header) :
    valueOf? name (front ++ rest) = (valueOf? name front).or (valueOf? name rest) := by
  rw [valueOf?, List.find?_append, Option.map_or]
  rfl

/-- No header has two names. -/
theorem Header.isNamed_of_ne {header : Header} (h : header.isNamed name = true)
    (hne : name ≠ other) : header.isNamed other = false := by
  rw [Bool.eq_false_iff]
  intro hother
  exact hne (String.toList_inj.mp ((eq_of_beq h).symm.trans (eq_of_beq hother)))

/-- A value is put behind the headers when there is none. -/
theorem provided_of_none (h : valueOf? name headers = none) (value : Bytes) :
    provided name (some value) headers = headers ++ [⟨name, value⟩] := by
  simp only [provided, h]

theorem provided_of_some (h : valueOf? name headers = some given) (value? : Option Bytes) :
    provided name value? headers = headers := by
  simp only [provided, h]

/-- Headers stay as they are when there is nothing to put there. -/
theorem provided_none (name : String) (headers : List Header) :
    provided name none headers = headers := by
  unfold provided
  split
  · contradiction
  · rfl

/-- A value that is put there stands alone under its name. -/
theorem filter_provided (hname : Header.isNamed name ⟨name, value⟩ = true)
    (h : valueOf? name headers = none) :
    (provided name (some value) headers).filter (Header.isNamed name) = [⟨name, value⟩] := by
  rw [provided_of_none h, List.filter_append, valueOf?_eq_none_iff.mp h,
    List.filter_cons_of_pos hname]
  rfl

/-- What is there goes before what is put there. -/
theorem valueOf?_provided (hname : Header.isNamed name ⟨name, value⟩ = true) :
    valueOf? name (provided name (some value) headers) =
      some ((valueOf? name headers).getD value) := by
  cases hvalue : valueOf? name headers with
  | none =>
    have hlast : valueOf? name [⟨name, value⟩] = some value := by
      rw [valueOf?, List.find?_cons_of_pos hname]
      rfl
    rw [provided_of_none hvalue, valueOf?_append, hvalue, hlast]
    rfl
  | some given => rwa [provided_of_some hvalue]

/-- Under other names nothing is put there. -/
theorem valueOf?_provided_of_ne (hname : Header.isNamed name ⟨name, value⟩ = true)
    (hne : name ≠ other) :
    valueOf? other (provided name (some value) headers) = valueOf? other headers := by
  cases hvalue : valueOf? name headers with
  | none =>
    have hlast : valueOf? other [⟨name, value⟩] = none := by
      rw [valueOf?_eq_none_iff, List.filter_cons_of_neg]
      · rfl
      · rw [Header.isNamed_of_ne hname hne]
        exact Bool.false_ne_true
    rw [provided_of_none hvalue, valueOf?_append, hlast, Option.or_none]
  | some given => rw [provided_of_some hvalue]

end

theorem isNamed_requestIdName (value : Bytes) :
    Header.isNamed requestIdName ⟨requestIdName, value⟩ = true := by
  show (requestIdName.toList.map Text.lowerAscii == requestIdName.toList) = true
  decide

/-! ## Services that set no id -/

/-- A service that sets no id on any response. -/
def Service.IsSilent (service : Service) : Prop :=
  ∀ request state, valueOf? requestIdName (service request state).result.headers = none

/-- The headers of an answer say what it contains, and no more. -/
theorem valueOf?_outbound (answer : Answer) :
    valueOf? requestIdName answer.outbound.headers = none := by
  rw [valueOf?_eq_none_iff, List.filter_eq_nil_iff]
  intro header hheader
  obtain ⟨type, -, rfl⟩ := List.mem_map.mp hheader
  show ¬ ("content-type".toList.map Text.lowerAscii == requestIdName.toList) = true
  decide

theorem isSilent_answering (answer : Answer) : (answering answer).IsSilent :=
  fun _ _ => valueOf?_outbound answer

theorem isSilent_reading (next : Bytes → State → Underway Answer) : (reading next).IsSilent := by
  intro request state
  unfold reading
  split <;> exact valueOf?_outbound _

/-- No handler sets an id. -/
theorem Handler.isSilent_service (frame : Frame) (ambient : Ambient) (handler : Handler) :
    (handler.service frame ambient).IsSilent := by
  cases handler with
  | endpoint endpoint =>
    cases endpoint with
    | health => exact isSilent_answering _
    | execute => exact isSilent_reading _
    | mcp => exact isSilent_reading _
  | otherMethod => exact isSilent_answering _
  | otherPath => exact isSilent_answering _

/-! ## What the framework says of its layers -/

/-- A layer that hands a request on, changed or not, and gives back the headers that it gets; or it
has an answer of its own. -/
def Layer.HandsOnOr (own : List Answer) (layer : Layer) : Prop :=
  ∀ (inner : Service) request state,
    (∃ handedOn,
      (layer inner request state).result.headers = (inner handedOn state).result.headers) ∨
    ∃ answer ∈ own, (layer inner request state).result = answer.outbound

/-- What a framework says of its layers, and of the choice of a service. -/
structure Framework.Documented (framework : Framework) : Prop where
  uncounted : framework.uncounted.HandsOnOr []
  bodyLimit : ∀ limit, (framework.bodyLimit limit).HandsOnOr [tooLongDeclared]
  timeout : ∀ ms, (framework.timeout ms).HandsOnOr [emptyAnswer 408]
  traced : ∀ spanOf, (framework.traced spanOf).HandsOnOr []
  propagate : ∀ name inner request state,
    (framework.propagate name inner request state).result.headers =
      provided name (valueOf? name request.headers) (inner request state).result.headers
  provide : ∀ name made inner request state,
    (framework.provide name made inner request state).result =
      (inner { request with headers := provided name made request.headers } state).result
  choosing : ∀ services request state, ∃ handler added,
    (framework.choosing services request state).result.headers =
      (services handler request state).result.headers ++ added ∧
    ∀ header ∈ added, header.isNamed "allow" = true

/-- The framework that is used does what is said of it. -/
theorem Framework.documented_actual : Framework.actual.Documented where
  uncounted _ request _ := .inl ⟨{ request with taken := none }, rfl⟩
  bodyLimit limit inner request state := by
    show (∃ handedOn, (Layer.bodyLimit limit inner request state).result.headers = _) ∨
      ∃ answer ∈ _, (Layer.bodyLimit limit inner request state).result = _
    unfold Layer.bodyLimit
    split
    · exact .inl ⟨_, rfl⟩
    · split
      · exact .inr ⟨_, List.mem_singleton_self _, rfl⟩
      · exact .inl ⟨_, rfl⟩
  timeout ms inner request state := by
    show (∃ handedOn, (Layer.timeout ms inner request state).result.headers = _) ∨
      ∃ answer ∈ _, (Layer.timeout ms inner request state).result = _
    simp only [Layer.timeout]
    split
    · exact .inl ⟨request, rfl⟩
    · exact .inr ⟨_, List.mem_singleton_self _, rfl⟩
  traced _ _ request _ := .inl ⟨request, rfl⟩
  propagate _ _ _ _ := rfl
  provide _ _ _ _ _ := rfl
  choosing services request state := by
    refine ⟨request.read.handler, _, rfl, fun header hheader => ?_⟩
    obtain ⟨methods, -, rfl⟩ := List.mem_map.mp hheader
    show ("allow".toList.map Text.lowerAscii == "allow".toList) = true
    decide

/-- A layer that has only answers and what comes back sets no id itself. -/
theorem Layer.HandsOnOr.isSilent {own : List Answer} {layer : Layer} (h : layer.HandsOnOr own)
    {inner : Service} (hinner : inner.IsSilent) : Service.IsSilent (layer inner) := by
  intro request state
  obtain ⟨handedOn, hheaders⟩ | ⟨answer, -, hanswer⟩ := h inner request state
  · rw [hheaders]
    exact hinner handedOn state
  · rw [hanswer]
    exact valueOf?_outbound answer

/-- **What such layers lie around stays silent**, whichever of them answers. -/
theorem isSilent_layered {layers : List Layer} (h : ∀ layer ∈ layers, ∃ own, layer.HandsOnOr own)
    {service : Service} (hservice : service.IsSilent) : (layered layers service).IsSilent := by
  -- From the inside out: what the other layers lie around is the service with the first around it.
  induction layers generalizing service with
  | nil => exact hservice
  | cons layer rest ih =>
    obtain ⟨⟨_, hlayer⟩, hrest⟩ := List.forall_mem_cons.mp h
    exact ih hrest (hlayer.isSilent hservice)

/-! ## The two outer layers -/

section

variable {framework : Framework} (h : framework.Documented) {inner : Service}
  (hinner : inner.IsSilent)
include h hinner

/-- **The two outer layers put the id of a request on its response**, the caller's or a new one, and
nothing else comes under its name. -/
theorem requestId_of_isSilent (id : Bytes) (request : Inbound) (state : State) :
    (framework.provide requestIdName (some id) (framework.propagate requestIdName inner) request
        state).result.headers.filter (Header.isNamed requestIdName) =
      [⟨requestIdName, (valueOf? requestIdName request.headers).getD id⟩] := by
  rw [h.provide, h.propagate, valueOf?_provided (isNamed_requestIdName id)]
  exact filter_provided (isNamed_requestIdName _) (hinner _ state)

/-- The other way round, a request that comes without an id is answered without one. -/
theorem no_requestId_inside_out {request : Inbound}
    (hnone : valueOf? requestIdName request.headers = none) (made : Option Bytes) (state : State) :
    valueOf? requestIdName (framework.propagate requestIdName
      (framework.provide requestIdName made inner) request state).result.headers = none := by
  rw [h.propagate, h.provide, hnone, provided_none]
  exact hinner _ state

end

/-! ## New ids -/

/-- How the text of a version 4 UUID looks: `x` stands for a hexadecimal digit and `y` for the one
that carries the variant. -/
def uuid4Shape : List Char := "xxxxxxxx-xxxx-4xxx-yxxx-xxxxxxxxxxxx".toList

/-- What may stand for a mark of a shape. -/
def Fits (mark c : Char) : Prop :=
  if mark = 'x' then Text.IsHexDigit c
  else if mark = 'y' then c ∈ ['8', '9', 'a', 'b']
  else c = mark

/-- The text of a version 4 UUID. -/
def IsUuid4 (text : String) : Prop :=
  List.Forall₂ Fits uuid4Shape text.toList

/-- Digits stand where there is room for as many. -/
theorem forall₂_fits_digits (digits : List Char) (h : ∀ c ∈ digits, Text.IsHexDigit c) :
    List.Forall₂ Fits (List.replicate digits.length 'x') digits := by
  induction digits with
  | nil => exact .nil
  | cons c rest ih =>
    obtain ⟨hc, hrest⟩ := List.forall_mem_cons.mp h
    exact .cons hc (ih hrest)

/-- Some of the digits of a number with thirty-two of them. -/
theorem forall₂_fits_take {start count : Nat} (h : start + count ≤ 32) (draw : Nat) :
    List.Forall₂ Fits (List.replicate count 'x')
      (((Text.hexPadded 32 draw).drop start).take count) := by
  have hlength : (((Text.hexPadded 32 draw).drop start).take count).length = count := by
    rw [List.length_take, List.length_drop, Text.length_hexPadded]
    omega
  have hdigits := forall₂_fits_digits (((Text.hexPadded 32 draw).drop start).take count)
    fun c hc => Text.isHexDigit_of_mem_hexPadded (List.mem_of_mem_drop (List.mem_of_mem_take hc))
  rwa [hlength] at hdigits

theorem fits_variant (n : Nat) : Fits 'y' (Text.hexDigit (8 + n % 4)) := by
  have hall : ∀ m : Fin 4, Text.hexDigit (8 + m) ∈ ['8', '9', 'a', 'b'] := by decide
  exact hall ⟨n % 4, Nat.mod_lt n (by decide)⟩

/-- **A new id is the text of a version 4 UUID**, whatever is drawn. -/
theorem isUuid4_newRequestId (draw : Nat) : IsUuid4 (newRequestId draw) := by
  have hhyphen : List.Forall₂ Fits ['-'] ['-'] := .cons rfl .nil
  have hversion : List.Forall₂ Fits ['-', '4'] ['-', '4'] := .cons rfl (.cons rfl .nil)
  have hvariant : List.Forall₂ Fits ['-', 'y'] ['-', Text.hexDigit (8 + (draw >>> 62) % 4)] :=
    .cons rfl (.cons (fits_variant _) .nil)
  have hdigits {start count : Nat} (h : start + count ≤ 32) := forall₂_fits_take h draw
  have hshape : uuid4Shape = List.replicate 8 'x' ++ ['-'] ++ List.replicate 4 'x' ++ ['-', '4'] ++
      List.replicate 3 'x' ++ ['-', 'y'] ++ List.replicate 3 'x' ++ ['-'] ++
      List.replicate 12 'x' := by decide
  rw [IsUuid4, newRequestId, String.toList_ofList, hshape]
  refine List.rel_append (List.rel_append (List.rel_append (List.rel_append (List.rel_append
    (List.rel_append (List.rel_append (List.rel_append ?_ hhyphen) ?_) hversion) ?_) hvariant) ?_)
    hhyphen) ?_ <;> exact hdigits (by decide)

/-- What fits a mark that a header can hold can be held by one too. -/
theorem isHeaderText_of_fits {mark c : Char} (hmark : isHeaderText mark = true) (h : Fits mark c) :
    isHeaderText c = true := by
  unfold Fits at h
  split at h
  · have hbounds := h.toNat_bounds
    have hvisible : ' ' ≤ c ∧ c ≤ '~' := by
      rw [Char.le_def, Char.le_def, UInt32.le_iff_toNat_le, UInt32.le_iff_toNat_le]
      show 32 ≤ c.toNat ∧ c.toNat ≤ 126
      omega
    simp [isHeaderText, hvisible]
  · split at h
    · have hall : ['8', '9', 'a', 'b'].all isHeaderText = true := by decide
      exact List.all_eq_true.mp hall c h
    · rwa [h]

theorem all_isHeaderText_of_fits {shape text : List Char} (h : List.Forall₂ Fits shape text)
    (hshape : shape.all isHeaderText = true) : text.all isHeaderText = true := by
  induction h with
  | nil => rfl
  | cons hfits _ ih =>
    rw [List.all_cons, Bool.and_eq_true] at hshape ⊢
    exact ⟨isHeaderText_of_fits hshape.1 hfits, ih hshape.2⟩

/-- A header can hold a new id. -/
theorem headerValue?_newRequestId (draw : Nat) :
    headerValue? (newRequestId draw) = some (Text.bytes (newRequestId draw)) := by
  have hshape : uuid4Shape.all isHeaderText = true := by decide
  rw [headerValue?, if_pos (all_isHeaderText_of_fits (isUuid4_newRequestId draw) hshape)]

/-! ## The id of a response -/

/-- The layers that know nothing of ids. -/
def innerLayers (framework : Framework) (frame : Frame) : List Layer :=
  [framework.uncounted,
   framework.bodyLimit frame.bodyLimit,
   framework.timeout frame.requestTimeoutMs,
   framework.traced Inbound.span]

theorem layered_layers (framework : Framework) (frame : Frame) (ambient : Ambient)
    (service : Service) :
    layered (layers framework frame ambient) service =
      framework.provide requestIdName (some (Text.bytes (newRequestId ambient.requestId)))
        (framework.propagate requestIdName (layered (innerLayers framework frame) service)) := by
  rw [← headerValue?_newRequestId]
  rfl

section

variable {framework : Framework} (h : framework.Documented) (frame : Frame) (ambient : Ambient)
include h

theorem isSilent_innerLayers (handler : Handler) :
    (layered (innerLayers framework frame) (handler.service frame ambient)).IsSilent := by
  refine isSilent_layered ?_ (handler.isSilent_service frame ambient)
  simp only [innerLayers, List.forall_mem_cons]
  exact ⟨⟨_, h.uncounted⟩, ⟨_, h.bodyLimit _⟩, ⟨_, h.timeout _⟩, ⟨_, h.traced _⟩,
    List.forall_mem_nil _⟩

/-- **Every response has the id of its request**, the caller's or a new one. -/
theorem requestId_router (request : Inbound) (state : State) :
    (router framework frame ambient request state).result.headers.filter
        (Header.isNamed requestIdName) =
      [⟨requestIdName, (valueOf? requestIdName request.headers).getD
        (Text.bytes (newRequestId ambient.requestId))⟩] := by
  obtain ⟨handler, added, hheaders, hadded⟩ := h.choosing
    (fun handler => layered (layers framework frame ambient) (handler.service frame ambient))
    request state
  have hnone : added.filter (Header.isNamed requestIdName) = [] := by
    rw [List.filter_eq_nil_iff]
    intro header hheader
    rw [Header.isNamed_of_ne (hadded header hheader) (by decide)]
    exact Bool.false_ne_true
  rw [router, hheaders, List.filter_append, hnone, List.append_nil, layered_layers]
  exact requestId_of_isSilent h (isSilent_innerLayers h frame ambient handler) _ request state

end

/-! ## The router serves what is to be served -/

/-- A response as it is sent to a request, with the span of the request. -/
def Response.outbound (response : Response) (request : Request) : Outbound where
  status := response.answer.status
  headers := response.answer.outbound.headers ++
    ⟨requestIdName, Text.bytes response.requestId⟩ ::
      response.allow.toList.map fun methods => ⟨"allow", Text.bytes methods⟩
  body := response.answer.body
  span? := some ⟨request.method, request.path, response.requestIdText?.getD ""⟩

/-- Work on an answer, as the layers see it. -/
def answered (work : Underway Answer) : Underway Outbound :=
  ⟨work.begun, work.duration, work.result.outbound, work.done⟩

@[simp] theorem read_sent (request : Request) : request.sent.read = request := by
  obtain ⟨method, target, headers, body⟩ := request
  simp [Request.sent, Inbound.read, Function.comp_def]

theorem valueOf?_sent (name : String) (request : Request) :
    valueOf? name request.sent.headers = (request.header? name).map Text.bytes := by
  rw [valueOf?, Request.sent, List.find?_map, Request.header?, Option.map_map, Option.map_map]
  rfl

theorem header?_read (name : String) (inbound : Inbound) :
    inbound.read.header? name =
      (valueOf? name inbound.headers).map fun value => (Text.ofBytes? value).getD "" := by
  rw [Request.header?, Inbound.read, List.find?_map, valueOf?, Option.map_map, Option.map_map]
  rfl

/-- A request as it is sent, with an id if it has none. -/
def Request.identified (request : Request) (draw : Nat) : Inbound :=
  let id := Text.bytes (newRequestId draw)
  { request.sent with headers := provided requestIdName (some id) request.sent.headers }

/-- An id says nothing about the body. -/
theorem declaredLength?_identified (request : Request) (draw : Nat) :
    (request.identified draw).read.declaredLength? = request.declaredLength? := by
  have hlength : valueOf? "content-length" (request.identified draw).headers =
      valueOf? "content-length" request.sent.headers :=
    valueOf?_provided_of_ne (isNamed_requestIdName _) (by decide)
  rw [Request.declaredLength?, header?_read, hlength, ← header?_read, read_sent]
  rfl

theorem valueOf?_identified (request : Request) (draw : Nat) :
    valueOf? requestIdName (request.identified draw).headers =
      some (Text.bytes (requestIdOf draw request)) := by
  have hvalue : valueOf? requestIdName (request.identified draw).headers = _ :=
    valueOf?_provided (isNamed_requestIdName _)
  rw [hvalue, valueOf?_sent, requestIdOf, Option.getD_map]
  rfl

/-- An id that is text is read back from its header. -/
theorem headerText?_bytes (response : Response) :
    headerText? (Text.bytes response.requestId) = response.requestIdText? := by
  rw [headerText?, Text.ofBytes?_bytes, Option.filter_some, Response.requestIdText?]

/-- The span of a request carries the id of its response, if that is text. -/
theorem span_identified (request : Request) {response : Response} {draw : Nat}
    (h : response.requestId = requestIdOf draw request) :
    (request.identified draw).span =
      ⟨request.method, request.path, response.requestIdText?.getD ""⟩ := by
  rw [Inbound.span, valueOf?_identified, ← h, Option.bind_some, headerText?_bytes]
  rfl

section

variable {frame : Frame} {ambient : Ambient} {request : Request} {inbound : Inbound} {state : State}

/-- A handler answers what is to be answered, when a layer limits its body and it does not count. -/
theorem service_handler (hbody : inbound.body = request.body) (limit : Nat) :
    request.handler.service frame ambient { inbound with passed := some limit, taken := none }
      state = answered (routed frame ambient limit request state) := by
  have hreading (next : Bytes → State → Underway Answer) :
      reading next { inbound with passed := some limit, taken := none } state =
        answered (withBody limit request.body state next) := by
    simp only [reading, Inbound.isReadable, hbody, withBody]
    by_cases hfits : request.body.length ≤ limit <;> simp [hfits, answered, Underway.now]
  unfold Request.handler routed
  cases request.endpoint? with
  | none => rfl
  | some endpoint =>
    cases hallows : endpoint.allows request.method with
    | false => simp only [hallows, Bool.false_eq_true, if_false]; rfl
    | true =>
      simp only [hallows, if_true]
      cases endpoint with
      | health => rfl
      | execute => exact hreading _
      | mcp => exact hreading _

/-- The limit on bodies is what it is to be. -/
theorem bodyLimit_handler (hbody : inbound.body = request.body)
    (hlength : inbound.read.declaredLength? = request.declaredLength?) :
    Layer.bodyLimit frame.bodyLimit (Layer.uncounted (request.handler.service frame ambient))
      inbound state = answered (limited frame ambient request state) := by
  have hpassed (limit : Nat) :
      Layer.uncounted (request.handler.service frame ambient) { inbound with passed := some limit }
        state = answered (routed frame ambient limit request state) :=
    service_handler hbody limit
  rw [Layer.bodyLimit, limited, hlength]
  cases request.declaredLength? with
  | none => exact hpassed _
  | some length =>
    by_cases hlong : frame.bodyLimit < length
    · simp only [if_pos hlong]
      rfl
    · simp only [if_neg hlong]
      exact hpassed _

/-- So is the limit on time. -/
theorem timeout_answered {inner : Service} {work : Underway Answer}
    (h : inner inbound state = answered work) :
    ∃ begun duration,
      Layer.timeout frame.requestTimeoutMs inner inbound state =
        ⟨begun, duration, (timed frame work state).1.outbound, (timed frame work state).2⟩ := by
  simp only [Layer.timeout, h, timed]
  have hduration : (answered work).duration = work.duration := rfl
  rw [hduration]
  split
  · exact ⟨_, _, rfl⟩
  · exact ⟨_, _, rfl⟩

/-- What comes out of the layers: the answer to a request, with its id and its span. -/
theorem exists_layered_sent (frame : Frame) (ambient : Ambient) (request : Request)
    (state : State) :
    let served := timed frame (limited frame ambient request state) state
    let id := Text.bytes (requestIdOf ambient.requestId request)
    ∃ begun duration,
      layered (layers .actual frame ambient) (request.handler.service frame ambient) request.sent
          state =
        ⟨begun, duration,
          { served.1.outbound with
            headers := provided requestIdName (some id) served.1.outbound.headers
            span? := some (request.identified ambient.requestId).span },
          served.2⟩ := by
  intro served id
  let limits : Service := Layer.timeout frame.requestTimeoutMs (Layer.bodyLimit frame.bodyLimit
    (Layer.uncounted (request.handler.service frame ambient)))
  have hlimited : Layer.bodyLimit frame.bodyLimit
      (Layer.uncounted (request.handler.service frame ambient))
      (request.identified ambient.requestId) state =
        answered (limited frame ambient request state) :=
    bodyLimit_handler rfl (declaredLength?_identified request _)
  obtain ⟨begun, duration, htimed⟩ : ∃ begun duration,
      limits (request.identified ambient.requestId) state =
        ⟨begun, duration, served.1.outbound, served.2⟩ := timeout_answered hlimited
  refine ⟨begun, duration, ?_⟩
  rw [layered_layers]
  show Layer.propagate requestIdName (Layer.traced Inbound.span limits)
    (request.identified ambient.requestId) state = _
  simp only [Layer.propagate, Layer.traced, htimed, valueOf?_identified]
  rfl

end

/-- Only the body of an answer is seen otherwise. -/
theorem seen_eq (request : Request) (answer : Answer) :
    request.seen answer =
      { answer with
        body := if request.method = "HEAD" ∧ request.endpoint?.isSome then "" else answer.body } := by
  unfold Request.seen
  split <;> rfl

/-- An answer with an id on it is, outside the layers, the response that is to be sent. -/
theorem finish_outbound (request : Request) (answer : Answer) (response : Response)
    (hanswer : response.answer = request.seen answer) (hallow : response.allow = request.allow?) :
    request.sent.finish
      { answer.outbound with
        headers := provided requestIdName (some (Text.bytes response.requestId))
          answer.outbound.headers
        span? := some ⟨request.method, request.path, response.requestIdText?.getD ""⟩ } =
      response.outbound request := by
  rw [Inbound.finish, Response.outbound, provided_of_none (valueOf?_outbound answer), read_sent,
    List.append_assoc, List.singleton_append, hanswer, hallow, seen_eq]
  rfl

/-- **The layers serve what is to be served.** -/
theorem router_sent (frame : Frame) (ambient : Ambient) (request : Request) (state : State) :
    let work := router .actual frame ambient request.sent state
    let served := serve frame ambient request state
    work.result = served.1.outbound request ∧ work.done = served.2 := by
  intro work served
  let answer := (timed frame (limited frame ambient request state) state).1
  obtain ⟨begun, duration, hlayered⟩ := exists_layered_sent frame ambient request state
  have hspan : (request.identified ambient.requestId).span =
      ⟨request.method, request.path, served.1.requestIdText?.getD ""⟩ := span_identified request rfl
  show request.sent.finish (layered (layers .actual frame ambient)
      (request.sent.read.handler.service frame ambient) request.sent state).result = _ ∧
    (layered (layers .actual frame ambient) (request.sent.read.handler.service frame ambient)
      request.sent state).done = _
  rw [read_sent, hlayered, hspan]
  exact ⟨finish_outbound request answer served.1 rfl rfl, rfl⟩

/-! ## The main result -/

/-- **Every response has the id of its request**, whichever handler or layer answers: under the name
of the id it has one value, the first that the caller sent, byte for byte, or else a new UUID.  Of
the layers and the choice of a handler nothing counts but what the framework says of them.  With
those that are used, what goes out is what is to be served, and the span of the request has the same
id. -/
theorem request_id_on_every_response (frame : Frame) (ambient : Ambient) (state : State) :
    let made := newRequestId ambient.requestId
    IsUuid4 made ∧
    (∀ framework : Framework, framework.Documented → ∀ request : Inbound,
      (router framework frame ambient request state).result.headers.filter
          (Header.isNamed requestIdName) =
        [⟨requestIdName, (valueOf? requestIdName request.headers).getD (Text.bytes made)⟩]) ∧
    Framework.actual.Documented ∧
    ∀ request : Request,
      let work := router .actual frame ambient request.sent state
      let served := serve frame ambient request state
      work.result = served.1.outbound request ∧ work.done = served.2 :=
  ⟨isUuid4_newRequestId _, fun _ h request => requestId_router h frame ambient request state,
    Framework.documented_actual, fun request => router_sent frame ambient request state⟩

/-- A request to nowhere with too long a body has two ids, of which the first is no text; it is
refused before anything is read.  A request without an id is answered when its time is over. -/
theorem request_id_on_every_response_unhandled :
    let initial : Settings := { Settings.allowing "default" with security := ⟨5⟩ }
    let hurried : Settings := { initial with timeouts := ⟨0⟩ }
    let state := State.fresh initial (.now (.ok (.ofSnapshot ⟨[]⟩)))
    let ambient : Ambient := ⟨⟨1, 1⟩, 0, 0, 0⟩
    let response (settings : Settings) (request : Inbound) :=
      (router .actual (.ofSettings .builtin settings) ambient request state).result
    let twice : Inbound :=
      { method := "PATCH", target := "/nowhere", body := []
        headers := [⟨"Content-Length", Text.bytes "6"⟩, ⟨"X-Request-Id", [255]⟩,
          ⟨"x-request-id", Text.bytes "second"⟩] }
    let bare : Inbound := { method := "GET", target := "/health", headers := [], body := [] }
    Framework.actual.Documented ∧
    (response initial twice).status = 413 ∧
      (response initial twice).headers.filter (Header.isNamed requestIdName) =
        [⟨requestIdName, [255]⟩] ∧
    (response hurried bare).status = 408 ∧
      (response hurried bare).headers.filter (Header.isNamed requestIdName) =
        [⟨requestIdName, Text.bytes "00000000-0000-4000-8000-000000000000"⟩] := by
  intro initial hurried state ambient response twice bare
  obtain ⟨-, hidentified, -⟩ :=
    request_id_on_every_response (.ofSettings .builtin initial) ambient state
  obtain ⟨-, hidentified', -⟩ :=
    request_id_on_every_response (.ofSettings .builtin hurried) ambient state
  exact ⟨Framework.documented_actual, by decide +kernel,
    (hidentified .actual Framework.documented_actual twice).trans (by decide +kernel),
    by decide +kernel,
    (hidentified' .actual Framework.documented_actual bare).trans (by decide +kernel)⟩

end GuardedGateway.Gateway.Http
