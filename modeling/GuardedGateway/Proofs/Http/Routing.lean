import GuardedGateway.Proofs.Dispatch.Phases
import GuardedGateway.Proofs.Http.Preemption

/-!
# What a request leaves behind

A request is given to a dispatch or it is not, and which of the two can be read off the request
alone (`Request.incoming?`): its path must be that of an endpoint on which tools are called, its
method the one that is answered there, its body must fit the limit, and on the MCP endpoint the
message must ask for a call.  All other requests are answered without touching anything.

A request that is given to a dispatch leaves what the dispatch leaves, and a failure to write is
counted; unless the time for the request is over before, and then it leaves the call as it has
begun.  `Leaves` lists these ways, and `leaves_serve` says that there is no other.
-/

namespace GuardedGateway.Gateway.Http

instance (request : Request) (limit : Nat) : Decidable (request.FitsLimit limit) :=
  inferInstanceAs (Decidable (_ ∧ ∀ declared ∈ request.declaredLength?, _ ∧ _))

/-! ## What is dispatched -/

/-- What an endpoint gives to a dispatch, of a body that it has read. -/
def Endpoint.incoming? (endpoint : Endpoint) (body : Bytes) : Option Incoming :=
  match endpoint with
  | .health => none
  | .execute => some (.body body)
  | .mcp => (Mcp.call? body).map .call

/-- What is dispatched for a request when bodies may have `limit` bytes. -/
def Request.incoming? (request : Request) (limit : Nat) : Option Incoming :=
  request.endpoint?.bind fun endpoint =>
    if endpoint.allows request.method = true ∧ request.FitsLimit limit then
      endpoint.incoming? request.body
    else none

/-- A dispatch on the way through an endpoint: its result is told in the answer, and a failure to
write is counted. -/
def carrying (answer : Dispatched → Answer) (work : Underway Dispatched) : Underway Answer :=
  ⟨work.begun, work.duration, answer work.result, report work.result.audit work.done⟩

section

variable {endpoint : Endpoint} {body : Bytes} {incoming : Incoming}

/-- What an endpoint gives to a dispatch, it carries through. -/
theorem work_of_incoming (h : endpoint.incoming? body = some incoming) :
    ∃ answer, ∀ frame ambient state, endpoint.work frame ambient body state =
      carrying answer (incoming.dispatch frame ambient state) := by
  cases endpoint with
  | health => cases h
  | execute =>
    obtain rfl := Option.some.inj h
    exact ⟨executeAnswer, fun frame ambient state => rfl⟩
  | mcp =>
    obtain ⟨call, hcall, rfl⟩ := Option.map_eq_some_iff.mp h
    obtain ⟨id, hhandle⟩ := Mcp.handle_of_call hcall
    refine ⟨fun dispatched => mcpAnswer (.result id (Mcp.callResult dispatched)), ?_⟩
    intro frame ambient state
    simp only [Endpoint.work, mcpRoute, hhandle, Mcp.answering, carrying, Incoming.dispatch]

/-- An endpoint that gives nothing to a dispatch answers at once and touches nothing. -/
theorem work_of_no_incoming (frame : Frame) (h : endpoint.incoming? body = none) :
    ∃ answer, ∀ ambient state, endpoint.work frame ambient body state = .now state answer := by
  cases endpoint with
  | health => exact ⟨healthAnswer, fun _ _ => rfl⟩
  | execute => cases h
  | mcp =>
    obtain ⟨reply, hhandle⟩ := Mcp.handle_of_no_call frame (Option.map_eq_none_iff.mp h)
    refine ⟨mcpAnswer reply, fun ambient state => ?_⟩
    simp only [Endpoint.work, mcpRoute, hhandle, Underway.now, Mcp.Handled.idle, report]

end

/-! ## Through the layers -/

section

variable {frame : Frame} {request : Request} {incoming : Incoming}

/-- A request that is given to a dispatch has posted a body that fits the limit. -/
theorem Request.exists_endpoint_of_incoming {limit : Nat}
    (h : request.incoming? limit = some incoming) :
    ∃ endpoint, request.PostsTo endpoint ∧ request.FitsLimit limit ∧
      endpoint.incoming? request.body = some incoming := by
  obtain ⟨endpoint, hendpoint, hgiven⟩ := Option.bind_eq_some_iff.mp h
  by_cases hpasses : endpoint.allows request.method = true ∧ request.FitsLimit limit
  · rw [if_pos hpasses] at hgiven
    obtain ⟨hallows, hfits⟩ := hpasses
    refine ⟨endpoint, ⟨?_, hendpoint, ?_⟩, hfits, hgiven⟩
    · cases endpoint with
      | health => cases hgiven
      | execute => exact List.mem_singleton.mp (List.contains_iff_mem.mp hallows)
      | mcp => exact List.mem_singleton.mp (List.contains_iff_mem.mp hallows)
    · rintro rfl
      cases hgiven
  · rw [if_neg hpasses] at hgiven
    cases hgiven

/-- What is given to a dispatch goes through the limit to its endpoint. -/
theorem limited_of_incoming (h : request.incoming? frame.bodyLimit = some incoming) :
    ∃ answer, ∀ ambient state, limited frame ambient request state =
      carrying answer (incoming.dispatch frame ambient state) := by
  obtain ⟨endpoint, hposts, hfits, hgiven⟩ := Request.exists_endpoint_of_incoming h
  obtain ⟨answer, hwork⟩ := work_of_incoming hgiven
  refine ⟨answer, fun ambient state => ?_⟩
  rw [limited_of_fits hposts hfits, hwork]

/-- A request that is given to no dispatch is answered at once, whatever is in its way, and touches
nothing. -/
theorem limited_of_no_incoming (ambient : Ambient) (state : State)
    (h : request.incoming? frame.bodyLimit = none) :
    ∃ answer, limited frame ambient request state = .now state answer := by
  -- the limit that the layer leaves to the endpoint is the one that the body has to fit
  have hrouted : ∀ limit, (request.body.length ≤ limit → request.FitsLimit frame.bodyLimit) →
      ∃ answer, routed frame ambient limit request state = .now state answer := by
    intro limit hlimit
    cases hendpoint : request.endpoint? with
    | none => exact ⟨emptyAnswer 404, by simp only [routed, hendpoint]⟩
    | some endpoint =>
      by_cases hallows : endpoint.allows request.method = true
      · have hgiven (hbody : request.body.length ≤ limit) :
            endpoint.incoming? request.body = none := by
          rwa [Request.incoming?, hendpoint, Option.bind_some,
            if_pos ⟨hallows, hlimit hbody⟩] at h
        simp only [routed, hendpoint, if_pos hallows, withBody]
        cases endpoint with
        | health => exact ⟨_, rfl⟩
        | execute =>
          by_cases hbody : request.body.length ≤ limit
          · cases hgiven hbody
          · exact ⟨_, if_neg hbody⟩
        | mcp =>
          by_cases hbody : request.body.length ≤ limit
          · obtain ⟨answer, hwork⟩ := work_of_no_incoming frame (hgiven hbody)
            exact ⟨answer, (if_pos hbody).trans (hwork ambient state)⟩
          · exact ⟨_, if_neg hbody⟩
      · refine ⟨emptyAnswer 405, ?_⟩
        simp only [routed, hendpoint, if_neg hallows]
  cases hdeclared : request.declaredLength? with
  | none =>
    simp only [limited, hdeclared]
    refine hrouted _ fun hbody => ⟨hbody, fun declared hsome => ?_⟩
    rw [hdeclared] at hsome
    cases hsome
  | some length =>
    simp only [limited, hdeclared]
    by_cases hlong : frame.bodyLimit < length
    · exact ⟨_, if_pos hlong⟩
    · rw [if_neg hlong]
      refine hrouted _ fun hbody => ?_
      obtain ⟨hlimit, hwithin⟩ := Nat.le_min.mp hbody
      refine ⟨hlimit, fun declared hsome => ?_⟩
      obtain rfl := Option.some.inj (hdeclared.symm.trans hsome)
      exact ⟨hwithin, Nat.not_lt.mp hlong⟩

end

/-! ## What is left -/

/-- The state that a request leaves: nothing is touched, or a dispatch has returned to the request
and its failure to write is counted, or the time for the request was over before. -/
inductive Leaves (frame : Frame) (ambient : Ambient) (request : Request) (state : State) :
    State → Prop
  | untouched
      (h : request.incoming? frame.bodyLimit = none ∨ frame.requestTimeoutMs = 0) :
      Leaves frame ambient request state state
  | returned {incoming : Incoming}
      (hgiven : request.incoming? frame.bodyLimit = some incoming)
      (htime : (incoming.dispatch frame ambient state).duration < frame.requestTimeoutMs) :
      Leaves frame ambient request state
        (report (incoming.dispatch frame ambient state).result.audit
          (incoming.dispatch frame ambient state).done)
  | cutOff {incoming : Incoming}
      (hgiven : request.incoming? frame.bodyLimit = some incoming)
      (htime : 0 < frame.requestTimeoutMs ∧
        ¬ (incoming.dispatch frame ambient state).duration < frame.requestTimeoutMs) :
      Leaves frame ambient request state (incoming.dispatch frame ambient state).begun

/-- A request that is given to a dispatch stays untouched only if it has no time. -/
theorem requestTimeoutMs_eq_zero {frame : Frame} {request : Request} {incoming : Incoming}
    (h : request.incoming? frame.bodyLimit = none ∨ frame.requestTimeoutMs = 0)
    (hgiven : request.incoming? frame.bodyLimit = some incoming) : frame.requestTimeoutMs = 0 :=
  h.resolve_left fun hnone => Option.some_ne_none incoming (hgiven.symm.trans hnone)

theorem state_timed (frame : Frame) (work : Underway Answer) (state : State) :
    (timed frame work state).2 =
      if work.duration < frame.requestTimeoutMs then work.done
      else if frame.requestTimeoutMs = 0 then state else work.begun := by
  rw [timed]
  split <;> rfl

/-- **There is no other way to leave a request.** -/
theorem leaves_serve (frame : Frame) (ambient : Ambient) (request : Request) (state : State) :
    Leaves frame ambient request state (serve frame ambient request state).2 := by
  have hserve : (serve frame ambient request state).2 =
      (timed frame (limited frame ambient request state) state).2 := rfl
  rw [hserve]
  cases hgiven : request.incoming? frame.bodyLimit with
  | none =>
    obtain ⟨answer, hlimited⟩ := limited_of_no_incoming ambient state hgiven
    have hsame : (timed frame (.now state answer) state).2 = state := by
      simp only [state_timed, Underway.now, ite_self]
    rw [hlimited, hsame]
    exact .untouched (.inl hgiven)
  | some incoming =>
    obtain ⟨answer, hlimited⟩ := limited_of_incoming hgiven
    let work := incoming.dispatch frame ambient state
    have hstate : (timed frame (carrying answer work) state).2 =
        if work.duration < frame.requestTimeoutMs then report work.result.audit work.done
        else if frame.requestTimeoutMs = 0 then state else work.begun :=
      state_timed frame (carrying answer work) state
    rw [hlimited, hstate]
    by_cases htime : work.duration < frame.requestTimeoutMs
    · rw [if_pos htime]
      exact .returned hgiven htime
    · rw [if_neg htime]
      by_cases hzero : frame.requestTimeoutMs = 0
      · rw [if_pos hzero]
        exact .untouched (.inr hzero)
      · rw [if_neg hzero]
        exact .cutOff hgiven ⟨Nat.pos_of_ne_zero hzero, htime⟩

end GuardedGateway.Gateway.Http
