import GuardedGateway.Gateway.Mcp

/-!
# Which messages call a tool

`call?` reads off a message the call that it asks for, without carrying anything out.  A message
that asks for a call is handled by one dispatch of that call (`handle_of_call`), and any other is
answered at once and leaves everything as it is (`handle_of_no_call`).
-/

namespace GuardedGateway.Gateway.Mcp

/-- The call that a request with an id asks for. -/
def Request.call? (request : Request) : Option Tool.Call :=
  if request.method = "tools/call" then (callOfParams request.params).toOption else none

/-- The call that a message asks for: it is a request in the spoken version, with an id. -/
def call? (body : Bytes) : Option Tool.Call :=
  match readRequest body with
  | .error _ => none
  | .ok request =>
    if request.jsonrpc ≠ "2.0" ∨ request.id.isNone then none else request.call?

/-- One dispatch, and its result as the reply under an id. -/
def answering (id : Json) (work : Underway Dispatched) : Underway Handled :=
  ⟨work.begun, work.duration, ⟨.result id (callResult work.result), some work.result⟩, work.done⟩

theorem perform_of_call (frame : Frame) (ambient : Ambient) (state : State) {request : Request}
    {call : Tool.Call} (id : Json) (h : request.call? = some call) :
    perform frame ambient request id state =
      answering id (dispatch frame ambient call state) := by
  unfold Request.call? at h
  split at h
  · rename_i hmethod
    cases hparams : callOfParams request.params with
    | error refusal =>
      rw [hparams] at h
      cases h
    | ok found =>
      rw [hparams] at h
      obtain rfl := Option.some.inj h
      simp only [perform, hmethod, hparams, answering]
  · cases h

theorem perform_of_no_call (frame : Frame) {request : Request} (id : Json)
    (h : request.call? = none) :
    ∃ reply, ∀ ambient state,
      perform frame ambient request id state = .now state (.idle reply) := by
  unfold perform
  split
  · exact ⟨_, fun _ _ => rfl⟩
  · exact ⟨_, fun _ _ => rfl⟩
  · exact ⟨_, fun _ _ => rfl⟩
  · rename_i hmethod
    cases hparams : callOfParams request.params with
    | error refusal => exact ⟨_, fun _ _ => rfl⟩
    | ok found =>
      rw [Request.call?, if_pos hmethod, hparams] at h
      cases h
  · exact ⟨_, fun _ _ => rfl⟩

/-- A message that asks for a call is handled by one dispatch of that call. -/
theorem handle_of_call {body : Bytes} {call : Tool.Call} (h : call? body = some call) :
    ∃ id, ∀ frame ambient state, handle frame ambient body state =
      answering id (dispatch frame ambient call state) := by
  unfold call? at h
  cases hread : readRequest body with
  | error reply =>
    simp only [hread] at h
    cases h
  | ok request =>
    simp only [hread] at h
    split at h
    · cases h
    · rename_i hno
      rw [not_or] at hno
      cases hid : request.id with
      | none => exact absurd (by rw [hid]; rfl) hno.2
      | some id =>
        refine ⟨id, fun frame ambient state => ?_⟩
        simp only [handle, hread, if_neg hno.1, hid]
        exact perform_of_call frame ambient state id h

/-- Any other message is answered at once and changes nothing. -/
theorem handle_of_no_call (frame : Frame) {body : Bytes} (h : call? body = none) :
    ∃ reply, ∀ ambient state, handle frame ambient body state = .now state (.idle reply) := by
  unfold call? at h
  unfold handle
  cases hread : readRequest body with
  | error reply => exact ⟨reply, fun _ _ => rfl⟩
  | ok request =>
    simp only [hread] at h ⊢
    by_cases hversion : request.jsonrpc ≠ "2.0"
    · simp only [if_pos hversion]
      exact ⟨_, fun _ _ => rfl⟩
    · simp only [if_neg hversion]
      cases hid : request.id with
      | none => exact ⟨.accepted, fun _ _ => rfl⟩
      | some id =>
        rw [hid, if_neg (by simp [hversion])] at h
        exact perform_of_no_call frame id h

end GuardedGateway.Gateway.Mcp
