import GuardedGateway.Proofs.Json.Lists
import GuardedGateway.Proofs.Mcp.Replies

/-!
# Requests written as lists

What calls a tool is an object, on either surface.  Nothing checks that it is one: a body and a
message are decoded as records, and a record may also be written as the list of its fields
(`Json.Record.shape`).  So a list whose items happen to be of the right types is taken for a call,
by position, although it names no member, and a list of four is taken for a message although a list
would be a batch.

`Tool.Call.Listed` says which lists are taken for which call, with one constructor for each number
of items, and `Mcp.Request.Listed` says it of a request.  These are all: any other value that is no
object is refused on both surfaces, and nothing is done for it (`Mcp.refused_iff_not_listed`).

A body is read straight from its bytes, so that its list is decoded like the value of the list is
the work of `Json.Record.parse_eq_ok_iff`.
-/

namespace GuardedGateway

open Json.Shape (ofJson_string_eq_ok_iff)
open Json.Field (exists_of_ofJson_optional exists_of_ofJson_needed)

namespace Tool.Call

open Json (Record Shape)

/-! ## Calls -/

/-- The items of a list are taken for the members of a call, in this order.  The last ones may be
missing. -/
inductive Listed : List Json → Call → Prop where
  | empty : Listed [] ⟨"", [], 0⟩
  | toolName (toolName : String) : Listed [.str toolName] ⟨toolName, [], 0⟩
  | args (toolName : String) (args : Fields) : Listed [.str toolName, .obj args] ⟨toolName, args, 0⟩
  | timeoutMs (toolName : String) (args : Fields) {timeoutMs : Nat} (h : timeoutMs < 2 ^ 64) :
      Listed [.str toolName, .obj args, .ofNat timeoutMs] ⟨toolName, args, timeoutMs⟩

/-- **A call is made of a list exactly when the list is taken for it.** -/
theorem ofJson_arr_eq_ok_iff {items : List Json} {call : Call} :
    record.shape.ofJson (.arr items) = .ok call ↔ Listed items call := by
  show record.ofValues record.fields 0 record.start items = .ok call ↔ _
  constructor
  · intro h
    obtain _ | ⟨v, items⟩ := items
    · cases h
      exact .empty
    obtain ⟨_, hfirst, h₁⟩ := Record.ofValues_cons_eq_ok_iff.mp h
    obtain ⟨toolName, hname, rfl⟩ := exists_of_ofJson_optional hfirst
    obtain rfl := ofJson_string_eq_ok_iff.mp hname
    obtain _ | ⟨v, items⟩ := items
    · cases h₁
      exact .toolName toolName
    obtain ⟨_, hsecond, h₂⟩ := Record.ofValues_cons_eq_ok_iff.mp h₁
    obtain ⟨args, hargs, rfl⟩ := exists_of_ofJson_optional hsecond
    obtain rfl := Shape.ofJson_object_eq_ok_iff.mp hargs
    obtain _ | ⟨v, items⟩ := items
    · cases h₂
      exact .args toolName args
    obtain ⟨_, hthird, h₃⟩ := Record.ofValues_cons_eq_ok_iff.mp h₂
    obtain ⟨timeoutMs, htimeout, rfl⟩ := exists_of_ofJson_optional hthird
    obtain ⟨hlt, rfl⟩ := Shape.ofJson_word_eq_ok_iff.mp htimeout
    obtain _ | ⟨v, items⟩ := items
    · cases h₃
      exact .timeoutMs toolName args hlt
    · cases h₃
  · intro h
    cases h with
    | empty => rfl
    | toolName => rfl
    | args => rfl
    | @timeoutMs toolName args timeoutMs h =>
      have hword := Shape.ofJson_word_eq_ok_iff.mpr ⟨h, rfl⟩
      simp only [record, Json.Record.ofValues, Json.Field.optional, hword]
      rfl

/-- What a call sets from bytes is what it sets from a value, and nothing else. -/
theorem exact_record : ∀ f ∈ record.fields, f.Exact := by
  simp only [record, List.forall_mem_cons]
  exact ⟨Json.Field.exact_optional (Shape.faithful_scalar _ _) Shape.complete_string,
    Json.Field.exact_optional Shape.faithful_object Shape.complete_object,
    Json.Field.exact_optional (Shape.faithful_map (Shape.faithful_scalar _ _) _)
      (Shape.complete_map (Shape.complete_integer _ _ _) _),
    List.forall_mem_nil _⟩

/-- **A value that is no object spells a call exactly when it is a list that is taken for it.** -/
theorem parse_eq_ok_iff_listed {body : Bytes} {v : Json} {call : Call}
    (hread : Json.read body = .ok v) (hobject : ∀ fields, v ≠ .obj fields) :
    parse body = .ok call ↔ ∃ items, v = .arr items ∧ Listed items call := by
  rw [parse, Record.parse_eq_ok_iff exact_record hread hobject, Record.ofJson_eq_ok_iff hobject]
  simp only [ofJson_arr_eq_ok_iff]

end Tool.Call

namespace Gateway

open Tool (FailureCause)

/-! ## Bodies -/

/-- A body is turned down as one that spells no call, at once and whatever connecting to the cluster
would have come to. -/
def TurnedDown (frame : Frame) (ambient : Ambient) (body : Bytes) (state : State) : Prop :=
  ∀ connection : Cluster.Connection,
    let work := dispatchBody frame ambient body { state with connection }
    work.result.response =
        (Tool.Response.failed "" ⟨.invalidInput, "invalid json", ""⟩).withLatency
          ambient.latencyNanos ∧
      work.result.response.statusCode = 400 ∧ work.duration = 0

/-- Why a request is not authorised. -/
theorem cause_of_not_authorized {registry : Tool.Registry} {allowed : Guard.Allowlist}
    {request : Tool.Request} {cause : FailureCause}
    (h : authorize registry allowed request = .error cause) :
    cause = .notImplemented ∨ cause = .argumentRequired "namespace" ∨
      cause = .namespaceNotAllowed := by
  unfold authorize at h
  split at h
  · exact .inl (Except.error.inj h).symm
  · split at h
    · cases h
    · unfold authorizedNs at h
      split at h
      · exact .inr (.inl (Except.error.inj h).symm)
      · split at h
        · cases h
        · exact .inr (.inr (Except.error.inj h).symm)

/-- Without a client a call fails, but not as a body that spells none. -/
theorem exists_cause_of_no_client (frame : Frame) (ambient : Ambient) (settings : Settings)
    (fault : Cluster.Fault) (request : Tool.Request) :
    ∃ cause : FailureCause, cause.message ≠ FailureCause.malformedCall.message ∧
      (execute frame ambient settings (.now (.error fault)) request).value =
        .error ⟨request.toolName, cause⟩ := by
  cases hauth : authorize frame.registry (.parse settings.tools.allowedNamespaces) request with
  | error cause =>
    refine ⟨cause, ?_, by rw [execute_of_not_authorized hauth]; rfl⟩
    obtain rfl | rfl | rfl := cause_of_not_authorized hauth
    · decide
    · decide
    · decide
  | ok spec =>
    refine ⟨.noClient, by decide, ?_⟩
    simp only [execute, hauth, Timed.value_andThen, Timed.value_now]

/-- A body is turned down exactly when it spells no call. -/
theorem turnedDown_iff {frame : Frame} {ambient : Ambient} {body : Bytes} {state : State} :
    TurnedDown frame ambient body state ↔ ¬ ∃ call, Tool.Call.parse body = .ok call := by
  constructor
  · rintro h ⟨call, hparse⟩
    -- where no client is to be had, a call fails for another reason
    obtain ⟨cause, hmessage, hvalue⟩ := exists_cause_of_no_client frame ambient state.live
      (.backend "") (.ofCall state.live.tools.defaultTimeoutMs call)
    obtain ⟨hresponse, -⟩ := h (.now (.error (.backend "")))
    rw [dispatchBody, hparse] at hresponse
    rw [response_dispatch, hvalue] at hresponse
    have hfailure := congrArg Tool.Response.failure? hresponse
    exact hmessage (congrArg Tool.Failure.message (Option.some.inj hfailure))
  · intro h connection
    cases hparse : Tool.Call.parse body with
    | ok call => exact absurd ⟨call, hparse⟩ h
    | error fault =>
      simp only [dispatchBody, hparse]
      exact ⟨rfl, rfl, trivial⟩

namespace Mcp

/-! ## Messages -/

/-- The items of a list are taken for the members of a request, in this order.  The parameters may
be missing, and the id may not. -/
inductive Request.Listed : List Json → Request → Prop where
  | method (jsonrpc : String) (id : Json) (method : String) :
      Listed [.str jsonrpc, id, .str method] ⟨jsonrpc, some id, method, .null⟩
  | params (jsonrpc : String) (id : Json) (method : String) (params : Json) :
      Listed [.str jsonrpc, id, .str method, params] ⟨jsonrpc, some id, method, params⟩

/-- **A request is made of a list exactly when the list is taken for it.** -/
theorem Request.ofJson_arr_eq_ok_iff {items : List Json} {request : Request} :
    record.shape.ofJson (.arr items) = .ok request ↔ Listed items request := by
  show record.ofValues record.fields 0 record.start items = .ok request ↔ _
  constructor
  · intro h
    obtain _ | ⟨v, items⟩ := items
    · cases h
    obtain ⟨_, hfirst, h₁⟩ := Json.Record.ofValues_cons_eq_ok_iff.mp h
    obtain ⟨jsonrpc, hjsonrpc, rfl⟩ := exists_of_ofJson_optional hfirst
    obtain rfl := ofJson_string_eq_ok_iff.mp hjsonrpc
    obtain _ | ⟨id, items⟩ := items
    · cases h₁
    obtain ⟨_, hsecond, h₂⟩ := Json.Record.ofValues_cons_eq_ok_iff.mp h₁
    cases hsecond
    obtain _ | ⟨v, items⟩ := items
    · cases h₂
    obtain ⟨_, hthird, h₃⟩ := Json.Record.ofValues_cons_eq_ok_iff.mp h₂
    obtain ⟨method, hmethod, rfl⟩ := exists_of_ofJson_needed hthird
    obtain rfl := ofJson_string_eq_ok_iff.mp hmethod
    obtain _ | ⟨params, items⟩ := items
    · cases h₃
      exact .method jsonrpc id method
    obtain ⟨_, hfourth, h₄⟩ := Json.Record.ofValues_cons_eq_ok_iff.mp h₃
    cases hfourth
    obtain _ | ⟨v, items⟩ := items
    · cases h₄
      exact .params jsonrpc id method params
    · cases h₄
  · intro h
    cases h with
    | method => rfl
    | params => rfl

/-- A list that is taken for a request has an id. -/
theorem Request.Listed.exists_id {items : List Json} {request : Request}
    (h : Listed items request) : ∃ id, request.id = some id := by
  cases h with
  | method jsonrpc id => exact ⟨id, rfl⟩
  | params jsonrpc id => exact ⟨id, rfl⟩

section

variable {body : Bytes} {v : Json} {request : Request}

/-- **A value that is no object is read as a request exactly when it is a list that is taken for
it.** -/
theorem readRequest_eq_ok_iff_listed (hread : Json.read body = .ok v)
    (hobject : ∀ fields, v ≠ .obj fields) :
    readRequest body = .ok request ↔ ∃ items, v = .arr items ∧ Request.Listed items request := by
  have hdecoded : readRequest body = .ok request ↔
      Request.record.shape.ofJson v = .ok request := by
    simp only [readRequest, hread]
    cases Request.record.shape.ofJson v <;> simp
  rw [hdecoded, Json.Record.ofJson_eq_ok_iff hobject]
  simp only [Request.ofJson_arr_eq_ok_iff]

/-- A value that is no object and no request is refused without an id. -/
theorem exists_cause_of_readRequest {reply : Reply} (hread : Json.read body = .ok v)
    (hobject : ∀ fields, v ≠ .obj fields) (h : readRequest body = .error reply) :
    ∃ cause, reply = .refusal .null (.notARequest cause) := by
  have hid : (v.field? "id").getD .null = .null := by
    cases v with
    | obj fields => exact absurd rfl (hobject fields)
    | _ => rfl
  simp only [readRequest, hread, hid] at h
  split at h
  · cases h
  · rename_i cause _
    exact ⟨cause, (Except.error.inj h).symm⟩

end

/-- A message is answered at once with an error, and nothing is done. -/
def Refused (frame : Frame) (ambient : Ambient) (body : Bytes) (state : State) : Prop :=
  ∃ id refusal, handle frame ambient body state = .now state (.idle (.refusal id refusal))

/-- A request that is answered with a result when it has an id: it is in the spoken version, and it
asks for one of three answers or for a call. -/
structure Request.Served (request : Request) : Prop where
  jsonrpc : request.jsonrpc = "2.0"
  method : request.method = "initialize" ∨ request.method = "ping" ∨
    request.method = "tools/list" ∨ ∃ call, request.call? = some call

theorem Reply.result_ne_refusal (id id' result : Json) (refusal : Refusal) :
    Reply.result id result ≠ Reply.refusal id' refusal := by
  intro h
  simp [Reply.result, Reply.refusal] at h

section

variable (frame : Frame) (ambient : Ambient) (state : State) {request : Request}

/-- A request that is served is answered with a result. -/
theorem Request.Served.exists_result (h : request.Served) (id : Json) :
    ∃ result, (perform frame ambient request id state).result.reply = .result id result := by
  obtain hmethod | hmethod | hmethod | ⟨call, hcall⟩ := h.method
  · exact ⟨_, by rw [perform, hmethod]; rfl⟩
  · exact ⟨_, by rw [perform, hmethod]; rfl⟩
  · exact ⟨_, by rw [perform, hmethod]; rfl⟩
  · exact ⟨_, by rw [perform_of_call frame ambient state id hcall]; rfl⟩

/-- Any other in the spoken version is refused for what it asks. -/
theorem perform_of_not_served (hversion : request.jsonrpc = "2.0") (h : ¬ request.Served)
    (id : Json) :
    ∃ refusal,
      perform frame ambient request id state = .now state (.idle (.refusal id refusal)) := by
  unfold perform
  split
  · rename_i hmethod
    exact absurd ⟨hversion, .inl hmethod⟩ h
  · rename_i hmethod
    exact absurd ⟨hversion, .inr (.inl hmethod)⟩ h
  · rename_i hmethod
    exact absurd ⟨hversion, .inr (.inr (.inl hmethod))⟩ h
  · rename_i hmethod
    cases hparams : callOfParams request.params with
    | error refusal => exact ⟨refusal, rfl⟩
    | ok call =>
      have hcall := Request.call?_eq_some_iff.mpr ⟨hmethod, hparams⟩
      exact absurd ⟨hversion, .inr (.inr (.inr ⟨call, hcall⟩))⟩ h
  · exact ⟨_, rfl⟩

/-- A request with an id is refused exactly when it is not served. -/
theorem refused_iff_not_served {body : Bytes} {id : Json}
    (hread : readRequest body = .ok request) (hid : request.id = some id) :
    Refused frame ambient body state ↔ ¬ request.Served := by
  rw [Refused, handle]
  simp only [hread, hid]
  split
  · rename_i hversion
    exact iff_of_true ⟨_, _, rfl⟩ fun hserved => hversion hserved.jsonrpc
  · rename_i hversion
    constructor
    · rintro ⟨id', refusal, hperform⟩ hserved
      obtain ⟨result, hresult⟩ := hserved.exists_result frame ambient state id
      rw [hperform] at hresult
      exact Reply.result_ne_refusal id id' result refusal hresult.symm
    · intro hserved
      obtain ⟨refusal, hperform⟩ :=
        perform_of_not_served frame ambient state (Decidable.not_not.mp hversion) hserved id
      exact ⟨id, refusal, hperform⟩

variable {body : Bytes} {v : Json}

/-- A message that is no object is refused exactly when it is no list that is taken for a request
that is served. -/
theorem refused_iff_of_not_object (hread : Json.read body = .ok v)
    (hobject : ∀ fields, v ≠ .obj fields) :
    Refused frame ambient body state ↔
      ¬ ∃ items request, v = .arr items ∧ Request.Listed items request ∧ request.Served := by
  have hrequest (request : Request) : readRequest body = .ok request ↔
      ∃ items, v = .arr items ∧ Request.Listed items request :=
    readRequest_eq_ok_iff_listed hread hobject
  cases hdecoded : readRequest body with
  | error reply =>
    obtain ⟨cause, rfl⟩ := exists_cause_of_readRequest hread hobject hdecoded
    refine iff_of_true ⟨.null, .notARequest cause, by rw [handle, hdecoded]⟩ ?_
    rintro ⟨items, request, hv, hlisted, -⟩
    cases hdecoded.symm.trans ((hrequest request).mpr ⟨items, hv, hlisted⟩)
  | ok request =>
    obtain ⟨items, hv, hlisted⟩ := (hrequest request).mp hdecoded
    obtain ⟨id, hid⟩ := hlisted.exists_id
    rw [refused_iff_not_served frame ambient state hdecoded hid, not_congr]
    constructor
    · exact fun hserved => ⟨items, request, hv, hlisted, hserved⟩
    · rintro ⟨items, other, hv, hlisted, hserved⟩
      cases hdecoded.symm.trans ((hrequest other).mpr ⟨items, hv, hlisted⟩)
      exact hserved

/-- **What is no object is refused, unless it is a list that is taken for a request.**  A body is
turned down and a message is refused exactly when they are no list of the members of a call, or of a
request that is served, in their order.  Such a list is dispatched like the call. -/
theorem refused_iff_not_listed (hread : Json.read body = .ok v)
    (hobject : ∀ fields, v ≠ .obj fields) :
    (TurnedDown frame ambient body state ↔
        ¬ ∃ items call, v = .arr items ∧ Tool.Call.Listed items call) ∧
      (∀ items call, v = .arr items → Tool.Call.Listed items call →
        dispatchBody frame ambient body state = dispatch frame ambient call state) ∧
      (Refused frame ambient body state ↔
        ¬ ∃ items request, v = .arr items ∧ Request.Listed items request ∧ request.Served) ∧
      ∀ items request call, v = .arr items → Request.Listed items request →
        request.jsonrpc = "2.0" → request.call? = some call →
        ∃ id, handle frame ambient body state =
          answering id (dispatch frame ambient call state) := by
  have hparse (call : Tool.Call) : Tool.Call.parse body = .ok call ↔
      ∃ items, v = .arr items ∧ Tool.Call.Listed items call :=
    Tool.Call.parse_eq_ok_iff_listed hread hobject
  refine ⟨?_, ?_, refused_iff_of_not_object frame ambient state hread hobject, ?_⟩
  · rw [turnedDown_iff]
    simp only [hparse]
    exact not_congr exists_comm
  · intro items call hv hlisted
    rw [dispatchBody, (hparse call).mpr ⟨items, hv, hlisted⟩]
  · intro items request call hv hlisted hversion hcall
    have hdecoded := (readRequest_eq_ok_iff_listed hread hobject).mpr ⟨items, hv, hlisted⟩
    obtain ⟨id, hid⟩ := hlisted.exists_id
    refine ⟨id, ?_⟩
    simp only [handle, hdecoded, hid, hversion, ne_eq, not_true_eq_false, if_false]
    exact perform_of_call frame ambient state id hcall

end

/-- A list in place of a call for the pods of a namespace. -/
def listedCall : Bytes :=
  Text.bytes "[\"k8s.list_pods\",\x7b\"namespace\":\"default\"\x7d]"

/-- A list in place of a message that asks for them. -/
def listedMessage : Bytes :=
  Text.bytes ("[\"2.0\",1,\"tools/call\"," ++
    "\x7b\"name\":\"k8s.list_pods\",\"arguments\":\x7b\"namespace\":\"default\"\x7d\x7d]")

/-- Both are dispatched as the call, and it succeeds. -/
theorem refused_iff_not_listed_pods :
    let frame : Frame := .ofSettings .builtin (.allowing "default")
    let ambient : Ambient := ⟨⟨1, 1⟩, 0, 0, 0⟩
    let state : State := .fresh (.allowing "default")
      (.now (.ok (.ofSnapshot ⟨[⟨"default", false, [], []⟩]⟩)))
    let call : Tool.Call := ⟨"k8s.list_pods", [("namespace", .str "default")], 0⟩
    (∃ v, Json.read listedCall = .ok v ∧ ∀ fields, v ≠ .obj fields) ∧
      (∃ v, Json.read listedMessage = .ok v ∧ ∀ fields, v ≠ .obj fields) ∧
      ¬ TurnedDown frame ambient listedCall state ∧
      dispatchBody frame ambient listedCall state = dispatch frame ambient call state ∧
      ¬ Refused frame ambient listedMessage state ∧
      (∃ id, handle frame ambient listedMessage state =
        answering id (dispatch frame ambient call state)) ∧
      (dispatch frame ambient call state).result.response.status = "success" := by
  intro frame ambient state call
  let args : Fields := [("namespace", .str "default")]
  let params : Json := .obj [("name", .str "k8s.list_pods"), ("arguments", .obj args)]
  have hbody : Json.read listedCall = .ok (.arr [.str "k8s.list_pods", .obj args]) := rfl
  have hmessage : Json.read listedMessage =
      .ok (.arr [.str "2.0", .ofNat 1, .str "tools/call", params]) := rfl
  have hcall : Tool.Call.Listed [.str "k8s.list_pods", .obj args] call := .args _ _
  have hrequest : Request.Listed [.str "2.0", .ofNat 1, .str "tools/call", params]
      ⟨"2.0", some (.ofNat 1), "tools/call", params⟩ := .params _ _ _ _
  have hlist (items : List Json) (fields : Fields) : Json.arr items ≠ .obj fields := by
    intro h
    cases h
  obtain ⟨hturned, hdispatched, -, -⟩ :=
    refused_iff_not_listed frame ambient state hbody (hlist _)
  obtain ⟨-, -, hrefused, hanswered⟩ :=
    refused_iff_not_listed frame ambient state hmessage (hlist _)
  refine ⟨⟨_, hbody, hlist _⟩, ⟨_, hmessage, hlist _⟩, fun h => ?_, hdispatched _ _ rfl hcall,
    fun h => ?_, hanswered _ _ _ rfl hrequest rfl rfl, by decide⟩
  · exact hturned.mp h ⟨_, _, rfl, hcall⟩
  · exact hrefused.mp h ⟨_, _, rfl, hrequest, rfl, .inr (.inr (.inr ⟨call, rfl⟩))⟩

end Mcp

end Gateway

end GuardedGateway
