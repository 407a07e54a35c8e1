import GuardedGateway.Proofs.Dispatch.Decision
import GuardedGateway.Proofs.Mcp.Calls
import GuardedGateway.Proofs.Tool.Arguments

/-!
# Which message gets which reply

The id of a message takes three ways to its reply: through the request that was decoded, through the
value that could not be decoded, and, where there is none, not at all.  `reply_discipline` says that
they come to the same.  An object with an id gets one response with that id, and one without gets
none, unless it is no request.

## What a message says

The statements are about the members of the message and not about what they were decoded into.
`Request.Spelled` says which request an object spells, whatever the order of its members and
whatever else it has; `Describes` says which call parameters describe; and `AsksFor` puts the two
together. An object that is a request asks for a call in no other way (`call?_eq_some_iff`).
-/

namespace GuardedGateway.Gateway.Mcp

open Json (Record)

/-! ## Requests -/

/-- The members of an object spell a request. -/
structure Request.Spelled (message : Fields) (request : Request) : Prop where
  jsonrpc : message.get? "jsonrpc" = some (.str request.jsonrpc) ∨
    (message.get? "jsonrpc" = none ∧ request.jsonrpc = "")
  id : request.id = message.get? "id"
  method : message.get? "method" = some (.str request.method)
  params : request.params = (message.get? "params").getD .null

namespace Request

open Json.Field (makes_optional makes_needed leaves_optional leaves_needed)
open Json.Shape (ofJson_string_eq_ok_iff)

theorem sets_jsonrpc : record.Sets "jsonrpc" .string jsonrpc fun v => v where
  own := ⟨_, rfl, makes_optional fun _ _ => rfl⟩
  other := by
    simp only [record, List.forall_mem_cons]
    exact ⟨.inl rfl, .inr (leaves_optional fun _ _ => rfl), .inr (leaves_needed fun _ _ => rfl),
      .inr (leaves_optional fun _ _ => rfl), List.forall_mem_nil _⟩

theorem sets_id : record.Sets "id" .any Request.id some where
  own := ⟨_, rfl, makes_optional fun _ _ => rfl⟩
  other := by
    simp only [record, List.forall_mem_cons]
    exact ⟨.inr (leaves_optional fun _ _ => rfl), .inl rfl, .inr (leaves_needed fun _ _ => rfl),
      .inr (leaves_optional fun _ _ => rfl), List.forall_mem_nil _⟩

theorem sets_method : record.Sets "method" .string method fun v => v where
  own := ⟨_, rfl, makes_needed fun _ _ => rfl⟩
  other := by
    simp only [record, List.forall_mem_cons]
    exact ⟨.inr (leaves_optional fun _ _ => rfl), .inr (leaves_optional fun _ _ => rfl), .inl rfl,
      .inr (leaves_optional fun _ _ => rfl), List.forall_mem_nil _⟩

theorem sets_params : record.Sets "params" .any params fun v => v where
  own := ⟨_, rfl, makes_optional fun _ _ => rfl⟩
  other := by
    simp only [record, List.forall_mem_cons]
    exact ⟨.inr (leaves_optional fun _ _ => rfl), .inr (leaves_optional fun _ _ => rfl),
      .inr (leaves_needed fun _ _ => rfl), .inl rfl, List.forall_mem_nil _⟩

variable {message : Fields} {request : Request}

/-- What was decoded from an object is what the object spells. -/
theorem spelled_of_ofFields (hkeys : message.keys.Nodup)
    (h : record.ofFields message = .ok request) : request.Spelled message where
  jsonrpc := by
    cases hget : message.get? "jsonrpc" with
    | none => exact .inr ⟨rfl, sets_jsonrpc.get_eq_start hkeys h hget⟩
    | some v =>
      obtain ⟨text, htext, hjsonrpc⟩ := sets_jsonrpc.exists_of_get? hkeys h hget
      exact .inl (by rw [ofJson_string_eq_ok_iff.mp htext, hjsonrpc])
  id := by
    cases hget : message.get? "id" with
    | none => exact sets_id.get_eq_start hkeys h hget
    | some v =>
      obtain ⟨a, ha, hid⟩ := sets_id.exists_of_get? hkeys h hget
      cases ha
      exact hid
  method := by
    obtain ⟨v, hget⟩ := Record.exists_get?_of_required h
      (List.mem_cons_of_mem _ (List.mem_cons_of_mem _ List.mem_cons_self)) rfl
    obtain ⟨text, htext, hmethod⟩ := sets_method.exists_of_get? hkeys h hget
    exact hget.trans (by rw [ofJson_string_eq_ok_iff.mp htext, hmethod])
  params := by
    cases hget : message.get? "params" with
    | none => exact sets_params.get_eq_start hkeys h hget
    | some v =>
      obtain ⟨a, ha, hparams⟩ := sets_params.exists_of_get? hkeys h hget
      cases ha
      exact hparams

/-- An object that spells a request is decoded. -/
theorem exists_ofFields_of_spelled (hkeys : message.keys.Nodup) (h : request.Spelled message) :
    ∃ found, record.ofFields message = .ok found := by
  refine Record.exists_ofFields ?_ ?_
  · rintro ⟨key, v⟩ hmember f hfield r
    have hget : message.get? key = some v := (Fields.get?_eq_some_iff hkeys).mpr hmember
    obtain rfl : f.name = key := by simpa using List.find?_some hfield
    have hf : f ∈ record.fields := List.mem_of_find?_eq_some hfield
    simp only [record, List.mem_cons, List.not_mem_nil, or_false] at hf
    obtain rfl | rfl | rfl | rfl := hf
    · obtain htext | ⟨hnone, -⟩ := h.jsonrpc
      · obtain rfl : v = .str request.jsonrpc := Option.some.inj (hget.symm.trans htext)
        exact ⟨_, rfl⟩
      · exact absurd (hget.symm.trans hnone) (Option.some_ne_none v)
    · exact ⟨_, rfl⟩
    · obtain rfl : v = .str request.method := Option.some.inj (hget.symm.trans h.method)
      exact ⟨_, rfl⟩
    · exact ⟨_, rfl⟩
  · have hmethod : "method" ∈ message.keys := by
      refine Decidable.not_not.mp fun hnot => ?_
      exact absurd (h.method.symm.trans (Fields.get?_of_not_mem_keys hnot)) (Option.some_ne_none _)
    refine List.find?_eq_none.mpr fun f hf => ?_
    simp only [record, List.mem_cons, List.not_mem_nil, or_false] at hf
    obtain rfl | rfl | rfl | rfl := hf
    · exact Bool.false_ne_true
    · exact Bool.false_ne_true
    · simpa [Json.Field.needed, Json.Field.optional] using hmethod
    · exact Bool.false_ne_true

/-- An object spells one request at most. -/
theorem Spelled.unique {other : Request} (h : request.Spelled message)
    (hother : other.Spelled message) : request = other := by
  have hjsonrpc : request.jsonrpc = other.jsonrpc := by
    obtain htext | ⟨hnone, hempty⟩ := h.jsonrpc
    · obtain htext' | ⟨hnone', -⟩ := hother.jsonrpc
      · exact Json.str.inj (Option.some.inj (htext.symm.trans htext'))
      · exact absurd (htext.symm.trans hnone') (Option.some_ne_none _)
    · obtain htext' | ⟨-, hempty'⟩ := hother.jsonrpc
      · exact absurd (htext'.symm.trans hnone) (Option.some_ne_none _)
      · exact hempty.trans hempty'.symm
  have hmethod : request.method = other.method :=
    Json.str.inj (Option.some.inj (h.method.symm.trans hother.method))
  have hid : request.id = other.id := h.id.trans hother.id.symm
  have hparams : request.params = other.params := h.params.trans hother.params.symm
  cases request
  cases other
  congr

/-- **A request is decoded from an object exactly when the object spells it.** -/
theorem ofFields_eq_ok_iff (hkeys : message.keys.Nodup) :
    record.ofFields message = .ok request ↔ request.Spelled message := by
  refine ⟨spelled_of_ofFields hkeys, fun h => ?_⟩
  obtain ⟨found, hfound⟩ := exists_ofFields_of_spelled hkeys h
  rw [hfound, h.unique (spelled_of_ofFields hkeys hfound)]

/-- The request is of the spoken version exactly when the object says so. -/
theorem Spelled.jsonrpc_eq_iff (h : request.Spelled message) :
    request.jsonrpc = "2.0" ↔ message.get? "jsonrpc" = some (.str "2.0") := by
  obtain htext | ⟨hnone, hempty⟩ := h.jsonrpc
  · rw [htext, Option.some.injEq, Json.str.injEq]
  · rw [hnone, hempty]
    exact iff_of_false (by decide) (Option.some_ne_none _).symm

end Request

/-! ## Calls -/

/-- The members of parameters describe a call.  No other member has a part in it. -/
structure Describes (params : Fields) (call : Tool.Call) : Prop where
  name : params.get? "name" = some (.str call.toolName)
  named : call.toolName ≠ ""
  arguments : params.get? "arguments" = some (.obj call.args) ∨
    (call.args = [] ∧
      (params.get? "arguments" = none ∨ params.get? "arguments" = some .null))
  timeoutMs : call.timeoutMs = 0

/-- The name that parameters give to the tool is read like a string argument. -/
theorem nameOfParams (params : Fields) :
    ((Json.obj params).field? "name").bind Json.nonEmptyText? = Tool.stringArg params "name" := rfl

/-- **A call is read off parameters exactly when they are an object that describes it.** -/
theorem callOfParams_eq_ok_iff {v : Json} {call : Tool.Call} :
    callOfParams v = .ok call ↔ ∃ params, v = .obj params ∧ Describes params call := by
  constructor
  · intro h
    unfold callOfParams at h
    split at h
    · cases h
    · rename_i name hname
      cases v with
      | obj params =>
        rw [nameOfParams] at hname
        obtain ⟨hget, hne⟩ := Tool.stringArg_eq_some_iff.mp hname
        refine ⟨params, rfl, ?_⟩
        split at h
        · rename_i hargs
          cases h
          exact ⟨hget, hne, .inr ⟨rfl, .inl hargs⟩, rfl⟩
        · rename_i hargs
          cases h
          exact ⟨hget, hne, .inr ⟨rfl, .inr hargs⟩, rfl⟩
        · rename_i args hargs
          cases h
          exact ⟨hget, hne, .inl hargs, rfl⟩
        · cases h
      | _ => cases hname
  · rintro ⟨params, rfl, h⟩
    obtain ⟨toolName, args, timeoutMs⟩ := call
    obtain rfl : timeoutMs = 0 := h.timeoutMs
    have hname := Tool.stringArg_eq_some_iff.mpr ⟨h.name, h.named⟩
    simp only [callOfParams, nameOfParams, hname]
    obtain hargs | ⟨hempty, hargs | hargs⟩ := h.arguments
    · simp only [Json.field?, hargs]
    · simp only [Json.field?, hargs, show args = [] from hempty]
    · simp only [Json.field?, hargs, show args = [] from hempty]

/-- The members of an object ask for a call, and for an answer under an id. -/
structure AsksFor (message : Fields) (id : Json) (call : Tool.Call) : Prop where
  id : message.get? "id" = some id
  jsonrpc : message.get? "jsonrpc" = some (.str "2.0")
  method : message.get? "method" = some (.str "tools/call")
  params : ∃ params, message.get? "params" = some (.obj params) ∧ Describes params call

variable {message : Fields} {request : Request} {id : Json} {call : Tool.Call} {body : Bytes}

/-- An object that asks for a call is a request. -/
theorem AsksFor.spelled (h : AsksFor message id call) :
    ∃ params, Request.Spelled message ⟨"2.0", some id, "tools/call", .obj params⟩ ∧
      Describes params call := by
  obtain ⟨params, hparams, hdescribes⟩ := h.params
  exact ⟨params, ⟨.inl h.jsonrpc, h.id.symm, h.method, by rw [hparams]; rfl⟩, hdescribes⟩

theorem Request.call?_eq_some_iff :
    request.call? = some call ↔
      request.method = "tools/call" ∧ callOfParams request.params = .ok call := by
  rw [call?]
  by_cases hmethod : request.method = "tools/call"
  · rw [if_pos hmethod, and_iff_right hmethod]
    cases callOfParams request.params <;> simp [Except.toOption]
  · rw [if_neg hmethod]
    exact iff_of_false (Option.some_ne_none call).symm fun h => hmethod h.1

/-- A request asks for what the object that spells it asks for. -/
theorem asksFor_iff_of_spelled (h : request.Spelled message) :
    AsksFor message id call ↔
      request.jsonrpc = "2.0" ∧ request.id = some id ∧ request.call? = some call := by
  rw [Request.call?_eq_some_iff, h.jsonrpc_eq_iff, h.id, callOfParams_eq_ok_iff, h.params]
  constructor
  · rintro ⟨hid, hjsonrpc, hmethod, params, hparams, hdescribes⟩
    refine ⟨hjsonrpc, hid, ?_, params, by rw [hparams]; rfl, hdescribes⟩
    exact Json.str.inj (Option.some.inj (h.method.symm.trans hmethod))
  · rintro ⟨hjsonrpc, hid, hmethod, params, hparams, hdescribes⟩
    refine ⟨hid, hjsonrpc, hmethod ▸ h.method, params, ?_, hdescribes⟩
    cases hget : message.get? "params" with
    | none =>
      rw [hget] at hparams
      cases hparams
    | some v =>
      rw [hget] at hparams
      exact congrArg some hparams

/-! ## Bodies -/

/-- The request that an object spells, or the refusal under its id. -/
theorem readRequest_of_object (h : Json.read body = .ok (.obj message)) :
    readRequest body =
      match Request.record.ofFields message with
      | .ok request => .ok request
      | .error cause =>
        .error (.refusal ((message.get? "id").getD .null) (.notARequest cause)) := by
  rw [readRequest, h]
  rfl

/-- A request is read off an object exactly when the object spells it. -/
theorem readRequest_eq_ok_iff (h : Json.read body = .ok (.obj message)) :
    readRequest body = .ok request ↔ request.Spelled message := by
  rw [readRequest_of_object h, ← Request.ofFields_eq_ok_iff (Json.nodup_keys_of_read h)]
  cases Request.record.ofFields message <;> simp

/-- **A body calls a tool exactly when its members ask for the call.** -/
theorem call?_eq_some_iff (h : Json.read body = .ok (.obj message)) :
    call? body = some call ↔ ∃ id, AsksFor message id call := by
  cases hread : readRequest body with
  | error reply =>
    rw [call?, hread]
    refine iff_of_false nofun ?_
    rintro ⟨id, hasks⟩
    obtain ⟨params, hspelled, -⟩ := hasks.spelled
    cases hread.symm.trans ((readRequest_eq_ok_iff h).mpr hspelled)
  | ok request =>
    have hspelled := (readRequest_eq_ok_iff h).mp hread
    simp only [call?, hread, asksFor_iff_of_spelled hspelled]
    by_cases hversion : request.jsonrpc = "2.0"
    · cases hid : request.id with
      | none => simp
      | some id => simp [hversion]
    · simp [hversion]

/-! ## Replies -/

/-- A response in the spoken version with this id, and with a result or an error but not both. -/
structure IsResponse (id response : Json) : Prop where
  jsonrpc : response.field? "jsonrpc" = some (.str "2.0")
  id : response.field? "id" = some id
  either : (response.field? "result").isSome = !(response.field? "error").isSome

/-- A reply is one response with this id. -/
def Reply.Answers (id : Json) : Reply → Prop
  | .message response => IsResponse id response
  | .accepted => False

theorem Reply.answers_result (id result : Json) : (Reply.result id result).Answers id :=
  ⟨rfl, rfl, rfl⟩

theorem Reply.answers_refusal (id : Json) (refusal : Refusal) :
    (Reply.refusal id refusal).Answers id :=
  ⟨rfl, rfl, rfl⟩

/-- The members of an object are a request in the spoken version, with an id or without. -/
def IsRequest (message : Fields) : Prop :=
  (∃ method, message.get? "method" = some (.str method)) ∧
    message.get? "jsonrpc" = some (.str "2.0")

/-- What becomes of an object: which reply it gets, and whether a call is dispatched for it. -/
structure Disciplined (frame : Frame) (ambient : Ambient) (state : State) (message : Fields)
    (handled : Underway Handled) : Prop where
  answered : ∀ id, message.get? "id" = some id → handled.result.reply.Answers id
  accepted : message.get? "id" = none → IsRequest message →
    handled = .now state (.idle .accepted)
  refused : message.get? "id" = none → ¬ IsRequest message →
    ∃ refusal : Refusal, refusal.code = -32600 ∧
      handled = .now state (.idle (.refusal .null refusal))
  dispatched_iff : handled.result.dispatched.isSome ↔ ∃ id call, AsksFor message id call
  dispatched : ∀ id call, AsksFor message id call →
    handled = answering id (dispatch frame ambient call state)
  idle : (¬ ∃ id call, AsksFor message id call) → ∃ reply, handled = .now state (.idle reply)

section

variable (frame : Frame) (ambient : Ambient) (state : State)

/-- Whatever a request asks for, it is answered under its id. -/
theorem answers_perform (request : Request) (id : Json) :
    (perform frame ambient request id state).result.reply.Answers id := by
  cases hcall : request.call? with
  | some call =>
    rw [perform_of_call frame ambient state id hcall]
    exact Reply.answers_result _ _
  | none =>
    unfold perform
    split
    · exact Reply.answers_result _ _
    · exact Reply.answers_result _ _
    · exact Reply.answers_result _ _
    · split
      · exact Reply.answers_refusal _ _
      · exact Reply.answers_result _ _
    · exact Reply.answers_refusal _ _

/-- An object with an id is answered under it, whether it is a request or not. -/
theorem answers_handle (h : Json.read body = .ok (.obj message))
    (hid : message.get? "id" = some id) :
    (handle frame ambient body state).result.reply.Answers id := by
  rw [handle]
  cases hread : readRequest body with
  | error reply =>
    rw [readRequest_of_object h] at hread
    split at hread
    · cases hread
    · obtain rfl := Except.error.inj hread
      rw [hid]
      exact Reply.answers_refusal _ _
  | ok request =>
    have hrequest : request.id = some id := ((readRequest_eq_ok_iff h).mp hread).id.trans hid
    simp only [hrequest]
    split
    · exact Reply.answers_refusal _ _
    · exact answers_perform frame ambient state request id

/-- A request without an id is accepted, and nothing is done. -/
theorem handle_of_notification (h : Json.read body = .ok (.obj message))
    (hid : message.get? "id" = none) (hrequest : IsRequest message) :
    handle frame ambient body state = .now state (.idle .accepted) := by
  obtain ⟨⟨method, hmethod⟩, hjsonrpc⟩ := hrequest
  have hread : readRequest body = .ok ⟨"2.0", none, method, (message.get? "params").getD .null⟩ :=
    (readRequest_eq_ok_iff h).mpr ⟨.inl hjsonrpc, hid.symm, hmethod, rfl⟩
  simp [handle, hread]

/-- An object without an id that is no request is refused, and nothing is done. -/
theorem handle_of_invalid (h : Json.read body = .ok (.obj message))
    (hid : message.get? "id" = none) (hrequest : ¬ IsRequest message) :
    ∃ refusal : Refusal, refusal.code = -32600 ∧
      handle frame ambient body state = .now state (.idle (.refusal .null refusal)) := by
  rw [handle]
  cases hread : readRequest body with
  | error reply =>
    rw [readRequest_of_object h] at hread
    split at hread
    · cases hread
    · rename_i cause _
      obtain rfl := Except.error.inj hread
      exact ⟨.notARequest cause, rfl, by rw [hid]; rfl⟩
  | ok request =>
    have hspelled := (readRequest_eq_ok_iff h).mp hread
    have hversion : request.jsonrpc ≠ "2.0" := fun hversion =>
      hrequest ⟨⟨_, hspelled.method⟩, hspelled.jsonrpc_eq_iff.mp hversion⟩
    refine ⟨.wrongVersion, rfl, ?_⟩
    simp only [if_pos hversion, hspelled.id, hid]
    rfl

/-- An object that asks for a call is handled by one dispatch of that call. -/
theorem handle_of_asksFor (h : Json.read body = .ok (.obj message))
    (hasks : AsksFor message id call) :
    handle frame ambient body state = answering id (dispatch frame ambient call state) := by
  obtain ⟨params, hspelled, -⟩ := hasks.spelled
  obtain ⟨-, -, hcall⟩ := (asksFor_iff_of_spelled hspelled).mp hasks
  have hread := (readRequest_eq_ok_iff h).mpr hspelled
  simp only [handle, hread, ne_eq, not_true_eq_false, if_false]
  exact perform_of_call frame ambient state id hcall

/-- An object that asks for no call is answered at once, and nothing is done. -/
theorem handle_of_not_asksFor (h : Json.read body = .ok (.obj message))
    (hasks : ¬ ∃ id call, AsksFor message id call) :
    ∃ reply, handle frame ambient body state = .now state (.idle reply) := by
  have hcall : call? body = none := by
    refine Option.eq_none_iff_forall_ne_some.mpr fun call hcall => ?_
    obtain ⟨id, hid⟩ := (call?_eq_some_iff h).mp hcall
    exact hasks ⟨id, call, hid⟩
  obtain ⟨reply, hreply⟩ := handle_of_no_call frame hcall
  exact ⟨reply, hreply ambient state⟩

theorem disciplined_handle (h : Json.read body = .ok (.obj message)) :
    Disciplined frame ambient state message (handle frame ambient body state) where
  answered _ := answers_handle frame ambient state h
  accepted := handle_of_notification frame ambient state h
  refused := handle_of_invalid frame ambient state h
  dispatched_iff := by
    by_cases hasks : ∃ id call, AsksFor message id call
    · obtain ⟨id, call, hcall⟩ := hasks
      rw [handle_of_asksFor frame ambient state h hcall]
      exact iff_of_true rfl ⟨id, call, hcall⟩
    · obtain ⟨reply, hreply⟩ := handle_of_not_asksFor frame ambient state h hasks
      rw [hreply]
      exact iff_of_false nofun hasks
  dispatched _ _ := handle_of_asksFor frame ambient state h
  idle := handle_of_not_asksFor frame ambient state h

/-- **Every body gets the reply that is due to it.**  A text that is not JSON is refused without an
id, and an object is answered under its id, or accepted or refused when it has none; one dispatch is
made for an object that asks for a call, and none for any other. -/
theorem reply_discipline (frame : Frame) (ambient : Ambient) (state : State) (body : Bytes) :
    (∀ fault, Json.read body = .error fault →
      ∃ refusal : Refusal, refusal.code = -32700 ∧
        handle frame ambient body state = .now state (.idle (.refusal .null refusal))) ∧
    ∀ message, Json.read body = .ok (.obj message) →
      Disciplined frame ambient state message (handle frame ambient body state) := by
  refine ⟨fun fault hfault => ⟨.notJson fault, rfl, ?_⟩, fun message h =>
    disciplined_handle frame ambient state h⟩
  simp only [handle, readRequest, hfault]

end

/-- A call under the id null, for a tool that does not exist. -/
def nullIdCall : Bytes :=
  Text.bytes ("\x7b\"id\":null,\"params\":\x7b\"arguments\":null,\"name\":\"k8s.sing\"\x7d," ++
    "\"method\":\"tools/call\",\"jsonrpc\":\"2.0\"\x7d")

/-- The call is dispatched, and it is answered under the id null although it fails. -/
theorem reply_discipline_nullIdCall :
    let frame : Frame := .ofSettings .builtin (.allowing "default")
    let state : State := .fresh (.allowing "default") (.now (.error (.backend "unused")))
    let handled := handle frame ⟨⟨1, 1⟩, 0, 0, 0⟩ nullIdCall state
    handled.result.reply.Answers .null ∧ handled.result.dispatched.isSome ∧
      handled = answering .null (dispatch frame ⟨⟨1, 1⟩, 0, 0, 0⟩ ⟨"k8s.sing", [], 0⟩ state) := by
  intro frame state handled
  let params : Fields := [("arguments", .null), ("name", .str "k8s.sing")]
  let message : Fields := [("id", .null), ("params", .obj params),
    ("method", .str "tools/call"), ("jsonrpc", .str "2.0")]
  have hread : Json.read nullIdCall = .ok (.obj message) := rfl
  have hasks : AsksFor message .null ⟨"k8s.sing", [], 0⟩ :=
    ⟨rfl, rfl, rfl, params, rfl, rfl, by decide, .inr ⟨rfl, .inr rfl⟩, rfl⟩
  have hdiscipline := (reply_discipline frame ⟨⟨1, 1⟩, 0, 0, 0⟩ state nullIdCall).2 _ hread
  exact ⟨hdiscipline.answered .null rfl, hdiscipline.dispatched_iff.mpr ⟨_, _, hasks⟩,
    hdiscipline.dispatched _ _ hasks⟩

end GuardedGateway.Gateway.Mcp
