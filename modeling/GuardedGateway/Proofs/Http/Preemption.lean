import GuardedGateway.Gateway.Http
import GuardedGateway.Proofs.Dispatch.Decision
import GuardedGateway.Proofs.Dispatch.Duration
import GuardedGateway.Proofs.Dispatch.Records
import GuardedGateway.Proofs.Mcp.Calls

/-!
# When the time for a request cuts a call off

Two clocks run over a call: the deadline of its capability and, around everything, the time for a
request.  The ceiling keeps the first below the second, but it covers the capability only.
Acquiring a client lies outside the deadline, so a slow connection can use up the time for the
request.  Then the caller gets an empty 408, and the record of the call stays without a result.

`answered_iff` gives the exact condition, for both surfaces: a request is answered by what was
computed for it, and its call is not left open in the log, just when `callMs` stays below the time
for a request.

## What is to blame

`inTime_of_connected` says that nothing else cuts a call off.  Where the clock has counted the
connection before the deadline is set and the connection stays below the time for a request, the
call is answered.  A call that is turned away never waits, and neither does a message that is no
call.
-/

namespace GuardedGateway.Gateway.Http

/-! ## What an endpoint does with a body -/

/-- A body that the limit lets through: it is within the limit, and so is the length it declares,
which it does not exceed. -/
def Request.FitsLimit (request : Request) (limit : Nat) : Prop :=
  request.body.length ≤ limit ∧
    ∀ declared, request.declaredLength? = some declared →
      request.body.length ≤ declared ∧ declared ≤ limit

/-- A request that posts to one of the two surfaces on which tools are called. -/
def Request.PostsTo (request : Request) (endpoint : Endpoint) : Prop :=
  request.method = "POST" ∧ request.endpoint? = some endpoint ∧ endpoint ≠ .health

/-- The call that an endpoint reads off a body. -/
def Endpoint.call? (endpoint : Endpoint) (body : Bytes) : Option Tool.Call :=
  match endpoint with
  | .health => none
  | .execute => (Tool.Call.parse body).toOption
  | .mcp => Mcp.call? body

/-- What an endpoint does with a body that it has read. -/
def Endpoint.work (endpoint : Endpoint) (frame : Frame) (ambient : Ambient) (body : Bytes)
    (state : State) : Underway Answer :=
  match endpoint with
  | .health => .now state healthAnswer
  | .execute => executeRoute frame ambient body state
  | .mcp => mcpRoute frame ambient body state

section

variable (frame : Frame) (ambient : Ambient) {body : Bytes} {state : State}

@[simp] theorem audit_report (audit : Except Audit.WriteFault Unit) (state : State) :
    (report audit state).audit = state.audit := by
  cases audit <;> rfl

/-- No endpoint answers like the layer that stops waiting. -/
theorem result_work_ne (endpoint : Endpoint) (body : Bytes) (state : State) :
    (endpoint.work frame ambient body state).result ≠ emptyAnswer 408 := by
  cases endpoint with
  | health =>
    intro h
    have hstatus : (200 : Nat) = 408 := congrArg Answer.status h
    exact absurd hstatus (by decide)
  | execute =>
    intro h
    cases congrArg Answer.contentType h
  | mcp =>
    intro h
    have hreply :
        mcpAnswer (Mcp.handle frame ambient body state).result.reply = emptyAnswer 408 := h
    cases hkind : (Mcp.handle frame ambient body state).result.reply with
    | message v =>
      rw [hkind] at hreply
      cases congrArg Answer.contentType hreply
    | accepted =>
      rw [hkind] at hreply
      exact absurd (congrArg Answer.status hreply) (by decide)

/-- What an endpoint does with a call is one dispatch. -/
theorem work_of_call {endpoint : Endpoint} {call : Tool.Call}
    (h : endpoint.call? body = some call) :
    (endpoint.work frame ambient body state).begun = (dispatch frame ambient call state).begun ∧
      (endpoint.work frame ambient body state).duration = callMs frame ambient call state ∧
      (endpoint.work frame ambient body state).done.audit =
        (dispatch frame ambient call state).done.audit := by
  cases endpoint with
  | health => cases h
  | execute =>
    have hparse : Tool.Call.parse body = .ok call := by
      unfold Endpoint.call? at h
      cases hparse : Tool.Call.parse body with
      | error fault =>
        rw [hparse] at h
        cases h
      | ok found =>
        rw [hparse] at h
        exact congrArg Except.ok (Option.some.inj h)
    have hbody : dispatchBody frame ambient body state = dispatch frame ambient call state := by
      rw [dispatchBody, hparse]
    simp only [Endpoint.work, executeRoute, hbody, audit_report, duration_dispatch]
    exact ⟨trivial, trivial, trivial⟩
  | mcp =>
    obtain ⟨id, hhandle⟩ := Mcp.handle_of_call h
    simp only [Endpoint.work, mcpRoute, hhandle, Mcp.answering, audit_report, duration_dispatch]
    exact ⟨trivial, trivial, trivial⟩

/-- What is no call takes no time, and leaves no call open. -/
theorem work_of_no_call {endpoint : Endpoint} (h : endpoint.call? body = none) :
    (endpoint.work frame ambient body state).duration = 0 ∧
      (state.audit.Works → ∃ written,
        (endpoint.work frame ambient body state).done.audit.records =
          state.audit.records ++ written ∧ Audit.Answered written) := by
  cases endpoint with
  | health => exact ⟨rfl, fun _ => ⟨[], (List.append_nil _).symm, Audit.answered_nil⟩⟩
  | execute =>
    cases hparse : Tool.Call.parse body with
    | ok call =>
      rw [Endpoint.call?, hparse] at h
      cases h
    | error fault =>
      simp only [Endpoint.work, executeRoute, dispatchBody, hparse, audit_report]
      refine ⟨trivial, fun hworks => ⟨[_], Audit.Log.records_write_of_works hworks _, ?_⟩⟩
      exact Audit.answered_singleton ⟨_, _, _, _, _, _, _, rfl⟩
  | mcp =>
    obtain ⟨reply, hhandle⟩ := Mcp.handle_of_no_call frame h
    simp only [Endpoint.work, mcpRoute, hhandle, audit_report]
    exact ⟨rfl, fun _ => ⟨[], (List.append_nil _).symm, Audit.answered_nil⟩⟩

end

/-! ## Through the layers -/

/-- A request that posts to an endpoint has its body read there. -/
theorem routed_of_posts {frame : Frame} {ambient : Ambient} {request : Request}
    {endpoint : Endpoint} {state : State} (hposts : request.PostsTo endpoint) (limit : Nat) :
    routed frame ambient limit request state =
      withBody limit request.body state (endpoint.work frame ambient) := by
  obtain ⟨hmethod, hendpoint, hkind⟩ := hposts
  cases endpoint with
  | health => exact absurd rfl hkind
  | execute =>
    have hallows : Endpoint.execute.allows "POST" = true := by decide
    simp only [routed, hendpoint, hmethod, hallows, if_true]
    rfl
  | mcp =>
    have hallows : Endpoint.mcp.allows "POST" = true := by decide
    simp only [routed, hendpoint, hmethod, hallows, if_true]
    rfl

/-- A body that the limit lets through reaches its endpoint. -/
theorem limited_of_fits {frame : Frame} {ambient : Ambient} {request : Request}
    {endpoint : Endpoint} {state : State} (hposts : request.PostsTo endpoint)
    (hfits : request.FitsLimit frame.bodyLimit) :
    limited frame ambient request state = endpoint.work frame ambient request.body state := by
  have hrouted (limit : Nat) (hlimit : request.body.length ≤ limit) :
      routed frame ambient limit request state =
        endpoint.work frame ambient request.body state := by
    rw [routed_of_posts hposts, withBody, if_pos hlimit]
  cases hdeclared : request.declaredLength? with
  | none => simp only [limited, hdeclared, hrouted frame.bodyLimit hfits.1]
  | some declared =>
    obtain ⟨hbody, hwithin⟩ := hfits.2 declared hdeclared
    have hmin : request.body.length ≤ min frame.bodyLimit declared := by
      have hlimit := hfits.1
      omega
    simp only [limited, hdeclared, if_neg (Nat.not_lt.mpr hwithin), hrouted _ hmin]

/-- Nothing is taken away from the answer to a `POST`. -/
theorem seen_of_posts {request : Request} {endpoint : Endpoint} (h : request.PostsTo endpoint)
    (answer : Answer) : request.seen answer = answer := by
  have hhead : ¬ (request.method = "HEAD" ∧ request.endpoint?.isSome = true) := by
    rintro ⟨hhead, -⟩
    rw [h.1] at hhead
    exact absurd hhead (by decide)
  rw [Request.seen, if_neg hhead]

/-- The call of a request, if it makes one, is over before the time for the request is. -/
def InTime (frame : Frame) (ambient : Ambient) (endpoint : Endpoint) (body : Bytes)
    (state : State) : Prop :=
  ∀ call, endpoint.call? body = some call →
    callMs frame ambient call state < frame.requestTimeoutMs

section

variable {frame : Frame} {ambient : Ambient} {request : Request} {endpoint : Endpoint}
  {state : State}

/-- A request in time gets what its endpoint has computed. -/
theorem serve_of_inTime (hposts : request.PostsTo endpoint)
    (hfits : request.FitsLimit frame.bodyLimit) (htimeout : 0 < frame.requestTimeoutMs)
    (h : InTime frame ambient endpoint request.body state) :
    (serve frame ambient request state).1.answer =
        (endpoint.work frame ambient request.body state).result ∧
      (serve frame ambient request state).2 =
        (endpoint.work frame ambient request.body state).done := by
  have hduration : (endpoint.work frame ambient request.body state).duration <
      frame.requestTimeoutMs := by
    cases hcall : endpoint.call? request.body with
    | none =>
      rw [(work_of_no_call frame ambient hcall).1]
      exact htimeout
    | some call =>
      rw [(work_of_call frame ambient hcall).2.1]
      exact h call hcall
  simp only [serve, limited_of_fits hposts hfits, timed, if_pos hduration, seen_of_posts hposts]
  exact ⟨trivial, trivial⟩

/-- A request whose call is not in time gets an empty 408, and its call is left as it has begun. -/
theorem serve_of_not_inTime (hposts : request.PostsTo endpoint)
    (hfits : request.FitsLimit frame.bodyLimit) (htimeout : 0 < frame.requestTimeoutMs)
    (h : ¬ InTime frame ambient endpoint request.body state) :
    (serve frame ambient request state).1.answer = emptyAnswer 408 ∧
      ∃ call, (serve frame ambient request state).2 =
        (dispatch frame ambient call state).begun := by
  obtain ⟨call, hcall, hlate⟩ : ∃ call, endpoint.call? request.body = some call ∧
      ¬ callMs frame ambient call state < frame.requestTimeoutMs := by
    simpa [InTime] using h
  obtain ⟨hbegun, hms, -⟩ : (endpoint.work frame ambient request.body state).begun =
      (dispatch frame ambient call state).begun ∧ _ ∧ _ := work_of_call frame ambient hcall
  have hduration : ¬ (endpoint.work frame ambient request.body state).duration <
      frame.requestTimeoutMs := by
    rw [hms]
    exact hlate
  simp only [serve, limited_of_fits hposts hfits, timed, if_neg hduration, seen_of_posts hposts,
    if_neg (Nat.pos_iff_ne_zero.mp htimeout), hbegun]
  exact ⟨trivial, call, rfl⟩

/-- What an endpoint has done leaves no call open. -/
theorem answered_done_work (frame : Frame) (ambient : Ambient) (endpoint : Endpoint) (body : Bytes)
    (h : state.audit.Works) :
    ∃ written, (endpoint.work frame ambient body state).done.audit.records =
      state.audit.records ++ written ∧ Audit.Answered written := by
  cases hcall : endpoint.call? body with
  | none => exact (work_of_no_call frame ambient hcall).2 h
  | some call =>
    rw [(work_of_call frame ambient hcall).2.2]
    exact ⟨_, records_done_dispatch frame ambient call h,
      answered_records_dispatch frame ambient call state⟩

end

/-- **A request is answered exactly when its call is in time.**  A request in time gets what was
computed for it, and every call that it has written down is followed by its result.  Any other gets
an empty 408, and its call stays open in the log. -/
theorem answered_iff (registry : Tool.Registry) {initial : Settings}
    (hsecs : 1 ≤ initial.timeouts.requestSecs) (ambient : Ambient) {request : Request}
    {endpoint : Endpoint} (hposts : request.PostsTo endpoint)
    (hfits : request.FitsLimit initial.security.maxBodySize) (state : State) :
    let frame := Frame.ofSettings registry initial
    let served := serve frame ambient request state
    (served.1.answer = (endpoint.work frame ambient request.body state).result ↔
        InTime frame ambient endpoint request.body state) ∧
      (served.1.answer = emptyAnswer 408 ↔ ¬ InTime frame ambient endpoint request.body state) ∧
      (state.audit.Works →
        ((∃ written, served.2.audit.records = state.audit.records ++ written ∧
            Audit.Answered written) ↔
          InTime frame ambient endpoint request.body state)) := by
  intro frame served
  have htimeout : 0 < frame.requestTimeoutMs := Nat.mul_pos hsecs (by decide)
  have hother := result_work_ne frame ambient endpoint request.body state
  by_cases h : InTime frame ambient endpoint request.body state
  · obtain ⟨hanswer, hstate⟩ := serve_of_inTime hposts hfits htimeout h
    refine ⟨iff_of_true hanswer h, iff_of_false ?_ (not_not_intro h), fun hworks => ?_⟩
    · exact hanswer ▸ hother
    · refine iff_of_true ?_ h
      have hdone := answered_done_work frame ambient endpoint request.body hworks
      rwa [← hstate] at hdone
  · obtain ⟨hanswer, call, hstate⟩ := serve_of_not_inTime hposts hfits htimeout h
    refine ⟨iff_of_false ?_ h, iff_of_true hanswer h, fun hworks => iff_of_false ?_ h⟩
    · exact fun hcomputed => hother (hcomputed.symm.trans hanswer)
    · rintro ⟨written, hwritten, hanswered⟩
      have hbegun := records_begun_dispatch frame ambient call hworks
      rw [← hstate] at hbegun
      have hopen : written = [calledRecord ambient call state] :=
        List.append_cancel_left (hwritten.symm.trans hbegun)
      rw [hopen] at hanswered
      exact Audit.not_answered_singleton (isCall_calledRecord ambient call state) hanswered

/-- A request that lists the pods of a namespace. -/
def listPodsRequest : Request where
  method := "POST"
  target := "/tools/execute"
  headers := []
  body := Text.bytes
    "\x7b\"tool_name\":\"k8s.list_pods\",\"args\":\x7b\"namespace\":\"default\"\x7d\x7d"

/-- Settings that leave a request one second. -/
def oneSecond : Settings :=
  { Settings.allowing "default" with timeouts := ⟨1⟩ }

/-- A gateway whose cluster takes a second and a half to connect to. -/
def slowToConnect : State :=
  .fresh oneSecond ((Timed.now (.ok (.ofSnapshot ⟨[]⟩))).later 1500)

/-- A client that comes too late for the request: the caller gets an empty 408, and the call stays
open in the log. -/
theorem answered_iff_slowToConnect :
    1 ≤ oneSecond.timeouts.requestSecs ∧ listPodsRequest.PostsTo .execute ∧
      listPodsRequest.FitsLimit oneSecond.security.maxBodySize ∧ slowToConnect.audit.Works ∧
      (serve (.ofSettings .builtin oneSecond) ⟨⟨1, 1⟩, 0, 0, 0⟩ listPodsRequest
        slowToConnect).1.answer = emptyAnswer 408 ∧
      ¬ ∃ written,
        (serve (.ofSettings .builtin oneSecond) ⟨⟨1, 1⟩, 0, 0, 0⟩ listPodsRequest
          slowToConnect).2.audit.records = slowToConnect.audit.records ++ written ∧
        Audit.Answered written := by
  have hsecs : 1 ≤ oneSecond.timeouts.requestSecs := Nat.le_refl 1
  have hposts : listPodsRequest.PostsTo .execute := ⟨rfl, by decide, by decide⟩
  have hundeclared : listPodsRequest.declaredLength? = none := rfl
  have hlength : listPodsRequest.body.length ≤ oneSecond.security.maxBodySize := by decide +kernel
  have hfits : listPodsRequest.FitsLimit oneSecond.security.maxBodySize := by
    refine ⟨hlength, fun declared h => ?_⟩
    rw [hundeclared] at h
    cases h
  have hcall : Endpoint.execute.call? listPodsRequest.body =
      some ⟨"k8s.list_pods", [("namespace", .str "default")], 0⟩ := rfl
  have hlate : ¬ InTime (.ofSettings .builtin oneSecond) ⟨⟨1, 1⟩, 0, 0, 0⟩ .execute
      listPodsRequest.body slowToConnect := by
    intro h
    exact absurd (h _ hcall) (by decide +kernel)
  have hworks : slowToConnect.audit.Works := ⟨rfl, fun _ => rfl⟩
  have hiff := answered_iff .builtin hsecs ⟨⟨1, 1⟩, 0, 0, 0⟩ hposts hfits slowToConnect
  refine ⟨hsecs, hposts, hfits, hworks, hiff.2.1.mpr hlate, fun hanswered => ?_⟩
  exact hlate ((hiff.2.2 hworks).mp hanswered)

/-- **Only the connection can cut a call off.**  Where the clock has counted the connection before
the deadline is set, a call is in time if its connection is. -/
theorem inTime_of_connected (registry : Tool.Registry) {initial : Settings}
    (hsecs : 1 ≤ initial.timeouts.requestSecs) {ambient : Ambient} {state : State}
    (hcounted : state.connection.duration ≤ ambient.spentMs)
    (hconnected : state.connection.duration < initial.timeouts.requestSecs * 1000)
    (endpoint : Endpoint) (body : Bytes) :
    InTime (.ofSettings registry initial) ambient endpoint body state := by
  intro call _
  have hle := callMs_le_of_counted (.ofSettings registry initial) ambient call hcounted
  have hceiling : (Frame.ofSettings registry initial).toolCeilingMs ≤
      initial.timeouts.requestSecs * 900 := Nat.min_le_left _ _
  show callMs _ ambient call state < initial.timeouts.requestSecs * 1000
  omega

end GuardedGateway.Gateway.Http
