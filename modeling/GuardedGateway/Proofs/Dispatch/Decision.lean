import GuardedGateway.Gateway.Dispatch

/-!
# What a dispatch decides

The response of a dispatch is a function of the decision of `execute`, of the name of the tool and
of the latency.  A decision has one of five ends, and `Decides` lists them with what led there
(`decides_execute`).  Two runs are compared through their decisions: their responses are
`AlikeButLatency` as soon as the two decisions have the same value.

## Comparing two decisions

A decision depends on the cluster through the work of one capability, and what leaves the gateway of
that work is its duration, whether it is relayed, and its result once redacted.  `SameWhenReleased`
says that two pieces of work agree on these three.

A decision depends on the clock through the deadline.  Work that is done at once does not notice how
far away its deadline is, only whether there is any time left (`Ambient.HasTime`).  So for such work
that is enough (`execute_value_congr`).
-/

namespace GuardedGateway

/-! ## Work that is done at once -/

/-- Work that is done at once is in time, if there is any time. -/
theorem Timed.inTime_of_duration_eq_zero {α : Type} {work : Timed α} (h : work.duration = 0)
    {limitMs : Nat} (hlimit : limitMs ≠ 0) : work.inTime limitMs := by
  rw [Timed.inTime, h]
  exact .inl (Nat.pos_of_ne_zero hlimit)

/-! ## Responses apart from their latency -/

namespace Tool.Response

/-- Two responses that differ at most in their latency. -/
def AlikeButLatency (a b : Response) : Prop :=
  a.withLatency 0 = b.withLatency 0

/-- Responses are alike when they name one tool, agree on whether they are truncated, and end
alike. -/
theorem alikeButLatency_iff {a b : Response} :
    a.AlikeButLatency b ↔
      a.toolName = b.toolName ∧ a.truncated = b.truncated ∧ a.outcome = b.outcome := by
  constructor
  · intro h
    have hname : (a.withLatency 0).toolName = (b.withLatency 0).toolName := by rw [h]
    have htruncated : (a.withLatency 0).truncated = (b.withLatency 0).truncated := by rw [h]
    have houtcome : (a.withLatency 0).outcome = (b.withLatency 0).outcome := by rw [h]
    exact ⟨hname, htruncated, houtcome⟩
  · rintro ⟨hname, htruncated, houtcome⟩
    rw [AlikeButLatency, withLatency, withLatency, hname, htruncated, houtcome]

end Tool.Response

/-- The default settings with an allowlist. -/
def Settings.allowing (raw : String) : Settings :=
  { default with tools := { default.tools with allowedNamespaces := raw } }

namespace Gateway

open Tool (FailureCause Raised)

/-- A gateway that has not been asked anything, with a working log. -/
def State.fresh (live : Settings) (connection : Cluster.Connection) : State :=
  ⟨live, connection, .working, []⟩

/-- The latency is only noted on a response. -/
theorem respond_alike (toolName : String) (latency₁ latency₂ : Nat)
    (decided : Except Raised Guard.Bounded) :
    (respond toolName latency₁ decided).AlikeButLatency (respond toolName latency₂ decided) := by
  cases decided <;> rfl

/-- The response of a dispatch tells the decision. -/
theorem response_dispatch (frame : Frame) (ambient : Ambient) (call : Tool.Call) (state : State) :
    (dispatch frame ambient call state).result.response =
      respond call.toolName ambient.latencyNanos
        (execute frame ambient state.live state.connection
          (Tool.Request.ofCall state.live.tools.defaultTimeoutMs call)).value :=
  rfl

/-! ## Authorisation -/

section

variable {registry : Tool.Registry} {allowed : Guard.Allowlist} {request : Tool.Request}
  {spec : Tool.Spec}

theorem authorize_of_cluster (hget : registry.get? request.toolName = some spec)
    (hscope : spec.scope = .cluster) : authorize registry allowed request = .ok spec := by
  simp only [authorize, hget, hscope]

theorem authorize_of_namespaced (hget : registry.get? request.toolName = some spec)
    (hscope : spec.scope = .namespaced) :
    authorize registry allowed request = (authorizedNs allowed request).map fun _ => spec := by
  simp only [authorize, hget, hscope]

/-- A tool about one namespace has to be told which one. -/
theorem authorize_of_unnamed (hget : registry.get? request.toolName = some spec)
    (hscope : spec.scope = .namespaced) (hns : request.ns? = none) :
    authorize registry allowed request = .error (.argumentRequired "namespace") := by
  rw [authorize_of_namespaced hget hscope, authorizedNs, hns]
  rfl

theorem authorize_of_allows {ns : String} (hget : registry.get? request.toolName = some spec)
    (hscope : spec.scope = .namespaced) (hns : request.ns? = some ns)
    (hallows : allowed.allows ns = true) : authorize registry allowed request = .ok spec := by
  rw [authorize_of_namespaced hget hscope, authorizedNs, hns]
  simp only [hallows]
  rfl

theorem authorize_of_not_allows {ns : String} (hget : registry.get? request.toolName = some spec)
    (hscope : spec.scope = .namespaced) (hns : request.ns? = some ns)
    (hallows : allowed.allows ns = false) :
    authorize registry allowed request = .error .namespaceNotAllowed := by
  rw [authorize_of_namespaced hget hscope, authorizedNs, hns]
  simp only [hallows]
  rfl

/-- The tool of an authorised request is the one with its name. -/
theorem get?_of_authorize (h : authorize registry allowed request = .ok spec) :
    registry.get? request.toolName = some spec := by
  cases hget : registry.get? request.toolName with
  | none =>
    simp only [authorize, hget] at h
    cases h
  | some found =>
    cases hscope : found.scope with
    | cluster =>
      rw [authorize_of_cluster hget hscope] at h
      exact congrArg some (Except.ok.inj h)
    | namespaced =>
      rw [authorize_of_namespaced hget hscope] at h
      cases hns : authorizedNs allowed request with
      | error cause =>
        rw [hns] at h
        cases h
      | ok ns =>
        rw [hns] at h
        exact congrArg some (Except.ok.inj h)

/-- An authorised request to a tool about one namespace names an allowed one. -/
theorem exists_allowed_ns_of_authorize (h : authorize registry allowed request = .ok spec)
    (hscope : spec.scope = .namespaced) :
    ∃ ns, request.ns? = some ns ∧ allowed.allows ns = true := by
  rw [authorize_of_namespaced (get?_of_authorize h) hscope, authorizedNs] at h
  cases hns : request.ns? with
  | none =>
    simp only [hns] at h
    cases h
  | some ns =>
    cases hallows : allowed.allows ns with
    | false =>
      rw [hns] at h
      simp only [hallows] at h
      cases h
    | true => exact ⟨ns, rfl, hallows⟩

end

/-! ## The ends of a decision -/

/-- A request that is turned away is decided at once, and the cluster is not asked. -/
theorem execute_of_not_authorized {frame : Frame} {ambient : Ambient} {settings : Settings}
    {connection : Cluster.Connection} {request : Tool.Request} {cause : FailureCause}
    (h : authorize frame.registry (.parse settings.tools.allowedNamespaces) request =
      .error cause) :
    execute frame ambient settings connection request =
      .now (.error ⟨request.toolName, cause⟩) := by
  simp only [execute, h]

/-- The work that a request is authorised to have done. -/
def workOf (settings : Settings) (request : Tool.Request) (spec : Tool.Spec)
    (client : Cluster.Client) : Timed Tool.Outcome :=
  spec.capability.run ⟨client, request.args, .parse settings.tools.allowedNamespaces⟩

/-- How a request is decided.  It is turned away, or there is no client, or its capability is late;
and if it is in time it fails, or what it comes to is released. -/
inductive Decides (frame : Frame) (ambient : Ambient) (settings : Settings)
    (connection : Cluster.Connection) (request : Tool.Request) :
    Except Raised Guard.Bounded → Prop
  | turnedAway {cause : FailureCause}
      (hauth : authorize frame.registry (.parse settings.tools.allowedNamespaces) request =
        .error cause) :
      Decides frame ambient settings connection request (.error ⟨request.toolName, cause⟩)
  | unconnected {spec : Tool.Spec} {fault : Cluster.Fault}
      (hauth : authorize frame.registry (.parse settings.tools.allowedNamespaces) request =
        .ok spec)
      (hclient : connection.value = .error fault) :
      Decides frame ambient settings connection request (.error ⟨request.toolName, .noClient⟩)
  | late {spec : Tool.Spec} {client : Cluster.Client}
      (hauth : authorize frame.registry (.parse settings.tools.allowedNamespaces) request =
        .ok spec)
      (hclient : connection.value = .ok client)
      (hlate : ¬ (workOf settings request spec client).inTime (deadlineMs frame ambient request)) :
      Decides frame ambient settings connection request
        (.error ⟨request.toolName, .timedOut (deadlineMs frame ambient request)⟩)
  | failed {spec : Tool.Spec} {client : Cluster.Client} {raised : Raised}
      (hauth : authorize frame.registry (.parse settings.tools.allowedNamespaces) request =
        .ok spec)
      (hclient : connection.value = .ok client)
      (hin : (workOf settings request spec client).inTime (deadlineMs frame ambient request))
      (hrun : (workOf settings request spec client).value = .error raised) :
      Decides frame ambient settings connection request (.error raised)
  | released {spec : Tool.Spec} {client : Cluster.Client} {output : Json}
      (hauth : authorize frame.registry (.parse settings.tools.allowedNamespaces) request =
        .ok spec)
      (hclient : connection.value = .ok client)
      (hin : (workOf settings request spec client).inTime (deadlineMs frame ambient request))
      (hrun : (workOf settings request spec client).value = .ok output) :
      Decides frame ambient settings connection request (.ok (release settings output))

/-- **A request is decided in one of these ways.** -/
theorem decides_execute (frame : Frame) (ambient : Ambient) (settings : Settings)
    (connection : Cluster.Connection) (request : Tool.Request) :
    Decides frame ambient settings connection request
      (execute frame ambient settings connection request).value := by
  cases hauth : authorize frame.registry (.parse settings.tools.allowedNamespaces) request with
  | error cause =>
    rw [execute_of_not_authorized hauth]
    exact .turnedAway hauth
  | ok spec =>
    simp only [execute, hauth, Timed.value_andThen]
    cases hclient : connection.value with
    | error fault => exact .unconnected hauth hclient
    | ok client =>
      simp only [runWithin, Timed.within]
      split
      · rename_i hin
        simp only [Timed.value_map]
        cases hrun : (spec.capability.run
            ⟨client, request.args, .parse settings.tools.allowedNamespaces⟩).value with
        | error raised => exact .failed hauth hclient hin hrun
        | ok output => exact .released hauth hclient hin hrun
      · rename_i hlate
        exact .late hauth hclient hlate

/-- What leaves the gateway is what the capability of an authorised request came to. -/
theorem exists_output_of_execute {frame : Frame} {ambient : Ambient} {settings : Settings}
    {connection : Cluster.Connection} {request : Tool.Request} {bounded : Guard.Bounded}
    (h : (execute frame ambient settings connection request).value = .ok bounded) :
    ∃ spec client output,
      authorize frame.registry (.parse settings.tools.allowedNamespaces) request = .ok spec ∧
      connection.value = .ok client ∧
      (workOf settings request spec client).value = .ok output ∧
      release settings output = bounded := by
  have hdecides := decides_execute frame ambient settings connection request
  rw [h] at hdecides
  cases hdecides with
  | released hauth hclient _ hrun => exact ⟨_, _, _, hauth, hclient, hrun, rfl⟩

/-- The result of a successful call is what its capability came to, as it may leave the gateway. -/
theorem exists_output_of_success {frame : Frame} {ambient : Ambient} {call : Tool.Call}
    {state : State} {result : Json}
    (h : (dispatch frame ambient call state).result.response.outcome = .ok result) :
    ∃ spec client output,
      authorize frame.registry (.parse state.live.tools.allowedNamespaces)
        (.ofCall state.live.tools.defaultTimeoutMs call) = .ok spec ∧
      state.connection.value = .ok client ∧
      (spec.capability.run
        ⟨client, Tool.strip call.args, .parse state.live.tools.allowedNamespaces⟩).value =
          .ok output ∧
      release state.live output =
        ⟨result, (dispatch frame ambient call state).result.response.truncated⟩ := by
  rw [response_dispatch] at h ⊢
  cases hvalue : (execute frame ambient state.live state.connection
      (.ofCall state.live.tools.defaultTimeoutMs call)).value with
  | error raised =>
    rw [hvalue] at h
    cases h
  | ok bounded =>
    rw [hvalue] at h
    obtain ⟨spec, client, output, hauth, hclient, hrun, rfl⟩ := exists_output_of_execute hvalue
    cases h
    exact ⟨spec, client, output, hauth, hclient, hrun, rfl⟩

/-! ## Two runs -/

/-- Two pieces of work of which the same leaves the gateway. -/
structure SameWhenReleased (x y : Timed Tool.Outcome) : Prop where
  duration : x.duration = y.duration
  relayed : x.relayed = y.relayed
  value : x.value.map Guard.redact = y.value.map Guard.redact

namespace SameWhenReleased

theorem refl (x : Timed Tool.Outcome) : SameWhenReleased x x := ⟨rfl, rfl, rfl⟩

theorem symm {x y : Timed Tool.Outcome} (h : SameWhenReleased x y) : SameWhenReleased y x :=
  ⟨h.duration.symm, h.relayed.symm, h.value.symm⟩

theorem trans {x y z : Timed Tool.Outcome} (hxy : SameWhenReleased x y)
    (hyz : SameWhenReleased y z) : SameWhenReleased x z :=
  ⟨hxy.duration.trans hyz.duration, hxy.relayed.trans hyz.relayed, hxy.value.trans hyz.value⟩

end SameWhenReleased

/-- A result is redacted before anything else looks at it. -/
theorem map_release (settings : Settings) (outcome : Tool.Outcome) :
    outcome.map (release settings) =
      (outcome.map Guard.redact).map (Guard.bound settings.tools.maxOutputBytes) := by
  cases outcome <;> rfl

/-- Time is left for the capability when its deadline is set. -/
def Ambient.HasTime (ambient : Ambient) (frame : Frame) : Prop :=
  ambient.spentMs < frame.toolCeilingMs

instance (ambient : Ambient) (frame : Frame) : Decidable (ambient.HasTime frame) :=
  inferInstanceAs (Decidable (_ < _))

/-- A request has no time when it asks for none, and when none is left. -/
theorem deadlineMs_eq_zero_iff (frame : Frame) (ambient : Ambient) (request : Tool.Request) :
    deadlineMs frame ambient request = 0 ↔ request.timeoutMs = 0 ∨ ¬ ambient.HasTime frame := by
  unfold deadlineMs Ambient.HasTime
  omega

/-- Under a deadline, too, the same leaves the gateway of work that is done at once, when both
deadlines leave it some time, or neither does. -/
theorem runWithin_congr (toolName : String) {limit₁ limit₂ : Nat}
    (hlimit : limit₁ = 0 ↔ limit₂ = 0) (settings : Settings) {x y : Timed Tool.Outcome}
    (hnow : x.duration = 0) (h : SameWhenReleased x y) :
    runWithin toolName limit₁ settings x = runWithin toolName limit₂ settings y := by
  unfold runWithin Timed.within
  by_cases hzero : limit₁ = 0
  · obtain rfl : limit₂ = limit₁ := (hlimit.mp hzero).trans hzero.symm
    have hin : x.inTime limit₂ ↔ y.inTime limit₂ := by
      rw [Timed.inTime, Timed.inTime, h.duration, h.relayed]
    by_cases hx : x.inTime limit₂
    · rw [if_pos hx, if_pos (hin.mp hx)]
      simp only [Timed.map, map_release, h.duration, h.relayed, h.value]
    · rw [if_neg hx, if_neg (fun hy => hx (hin.mpr hy))]
  · have hx : x.inTime limit₁ := Timed.inTime_of_duration_eq_zero hnow hzero
    have hy : y.inTime limit₂ :=
      Timed.inTime_of_duration_eq_zero (h.duration ▸ hnow) (fun heq => hzero (hlimit.mpr heq))
    rw [if_pos hx, if_pos hy]
    simp only [Timed.map, map_release, h.duration, h.relayed, h.value]

/-- **Two runs decide alike** when they have the same settings, time is left in both or in neither,
and the capability that an authorised request runs does its work at once, and the same of it leaves
the gateway. -/
theorem execute_value_congr {frame : Frame} {ambient₁ ambient₂ : Ambient} {settings : Settings}
    {connection₁ connection₂ : Cluster.Connection} {request : Tool.Request}
    {client₁ client₂ : Cluster.Client} (htime : ambient₁.HasTime frame ↔ ambient₂.HasTime frame)
    (h₁ : connection₁.value = .ok client₁) (h₂ : connection₂.value = .ok client₂)
    (hnow : ∀ spec : Tool.Spec,
      (spec.capability.run
        ⟨client₁, request.args, .parse settings.tools.allowedNamespaces⟩).duration = 0)
    (hrun : ∀ spec,
      authorize frame.registry (.parse settings.tools.allowedNamespaces) request = .ok spec →
      SameWhenReleased
        (spec.capability.run
          ⟨client₁, request.args, .parse settings.tools.allowedNamespaces⟩)
        (spec.capability.run
          ⟨client₂, request.args, .parse settings.tools.allowedNamespaces⟩)) :
    (execute frame ambient₁ settings connection₁ request).value =
      (execute frame ambient₂ settings connection₂ request).value := by
  have hdeadline :
      deadlineMs frame ambient₁ request = 0 ↔ deadlineMs frame ambient₂ request = 0 := by
    rw [deadlineMs_eq_zero_iff, deadlineMs_eq_zero_iff, htime]
  unfold execute
  cases hauth : authorize frame.registry (.parse settings.tools.allowedNamespaces) request with
  | error cause => simp only [hauth]
  | ok spec =>
    simp only [hauth, Timed.value_andThen, h₁, h₂]
    rw [runWithin_congr request.toolName hdeadline settings (hnow spec) (hrun spec hauth)]

end Gateway

end GuardedGateway
