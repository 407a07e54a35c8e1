import GuardedGateway.Proofs.Dispatch.Records

/-!
# The two phases of a dispatch

A dispatch is given a call, or a body that may spell one (`Incoming`).  It touches the state of the
gateway twice.  When it begins it writes the record of the call, if there is a call; everything it
will end with is settled by then, because a decision looks at the settings and the connection of
that moment and at nothing that comes later.  When it has been decided it is concluded.

Between the two other dispatches may begin and end.  `Incoming.begin` and `Pending.conclude` are the
two phases on their own, and a dispatch that nothing comes in between is one after the other
(`dispatch_eq_conclude_begin`).
-/

namespace GuardedGateway.Gateway

/-- What a dispatch is given. -/
inductive Incoming where
  | body (content : Bytes)
  | call (call : Tool.Call)

/-- A dispatch that has begun: what it will be concluded with. -/
structure Pending where
  context : Trace.Context
  found : Tool.Instrumentation
  ns : Option String
  response : Tool.Response
  accepted : Except Audit.WriteFault Unit

/-- Concludes a dispatch that has begun. -/
def Pending.conclude (frame : Frame) (pending : Pending) (state : State) : State × Dispatched :=
  Gateway.conclude frame pending.context pending.found pending.ns pending.response pending.accepted
    state

namespace Incoming

/-- The call that is dispatched, if there is one. -/
def call? : Incoming → Option Tool.Call
  | .body content => (Tool.Call.parse content).toOption
  | .call given => some given

/-- Dispatches a call or a body. -/
def dispatch (frame : Frame) (ambient : Ambient) (incoming : Incoming) (state : State) :
    Underway Dispatched :=
  match incoming with
  | .body content => dispatchBody frame ambient content state
  | .call given => Gateway.dispatch frame ambient given state

/-- Begins to dispatch a call or a body. -/
def begin (frame : Frame) (ambient : Ambient) (incoming : Incoming) (state : State) :
    State × Pending :=
  match incoming.call? with
  | none =>
    (state, ⟨.continueOrStart ambient.draw none none, .absent, none,
      respond "" ambient.latencyNanos (.error ⟨"", .malformedCall⟩), .ok ()⟩)
  | some given =>
    let request := Tool.Request.ofCall state.live.tools.defaultTimeoutMs given
    let found := request.instrumentation
    let decided := execute frame ambient state.live state.connection request
    let (audit, accepted) := state.audit.write (calledRecord ambient given state)
    ({ state with audit },
      ⟨.continueOrStart ambient.draw found.traceparent found.tracestate, found, request.ns?,
        respond request.toolName ambient.latencyNanos decided.value, accepted⟩)

variable (frame : Frame) (ambient : Ambient) (state : State) {incoming : Incoming}

theorem dispatch_of_call? {given : Tool.Call} (h : incoming.call? = some given) :
    incoming.dispatch frame ambient state = Gateway.dispatch frame ambient given state := by
  cases incoming with
  | call found =>
    obtain rfl : found = given := Option.some.inj h
    rfl
  | body content =>
    cases hparse : Tool.Call.parse content with
    | error fault =>
      rw [call?, hparse] at h
      cases h
    | ok found =>
      rw [call?, hparse] at h
      obtain rfl : found = given := Option.some.inj h
      simp only [dispatch, dispatchBody, hparse]

/-- A dispatch that begins counts nothing. -/
theorem metrics_begin (incoming : Incoming) :
    (incoming.begin frame ambient state).1.metrics = state.metrics := by
  cases hcall : incoming.call? <;> simp only [begin, hcall]

/-- A dispatch that nothing comes in between is its two phases, one after the other. -/
theorem dispatch_eq_conclude_begin (incoming : Incoming) :
    (incoming.dispatch frame ambient state).begun = (incoming.begin frame ambient state).1 ∧
      ((incoming.dispatch frame ambient state).done,
          (incoming.dispatch frame ambient state).result) =
        (incoming.begin frame ambient state).2.conclude frame
          (incoming.begin frame ambient state).1 := by
  cases hcall : incoming.call? with
  | some given =>
    rw [dispatch_of_call? frame ambient state hcall]
    simp only [begin, hcall]
    exact ⟨rfl, rfl⟩
  | none =>
    cases incoming with
    | call found => cases hcall
    | body content =>
      cases hparse : Tool.Call.parse content with
      | error fault =>
        simp only [begin, hcall, dispatch, dispatchBody, hparse]
        exact ⟨trivial, rfl⟩
      | ok found =>
        rw [call?, hparse] at hcall
        cases hcall

variable {frame ambient state}

/-- A dispatch that ends in success has been given a call. -/
theorem exists_call_of_success {result : Json}
    (h : (incoming.dispatch frame ambient state).result.response.outcome = .ok result) :
    ∃ call, incoming.call? = some call ∧
      incoming.dispatch frame ambient state = Gateway.dispatch frame ambient call state := by
  cases hcall : incoming.call? with
  | some call => exact ⟨call, rfl, dispatch_of_call? frame ambient state hcall⟩
  | none =>
    obtain ⟨-, hended⟩ := dispatch_eq_conclude_begin frame ambient state incoming
    have hresult := congrArg (fun ended => ended.2.response.outcome) hended
    simp only [h, begin, hcall] at hresult
    cases hresult

end Incoming

end GuardedGateway.Gateway
