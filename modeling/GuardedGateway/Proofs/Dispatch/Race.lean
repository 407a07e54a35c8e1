import GuardedGateway.Gateway.Session
import GuardedGateway.Proofs.Dispatch.Decision
import GuardedGateway.Proofs.Dispatch.Duration
import GuardedGateway.Proofs.Tool.Waiting
import Mathlib.Algebra.Group.Nat.Defs

/-!
# Racing the deadline

Once a call is authorised and has a client, all that is left is a race: the work of its capability
against its deadline.  `RunsUnder` says under which deadline, and it says so about the response and
about the time that the dispatch takes.

Two things are proved of the race.  The deadline never reaches the time that the HTTP layer allows,
whatever happened to the settings since the gateway was built: the ceiling belongs to the frame, and
nothing that happens to a gateway changes its frame (`deadline_below_request_timeout`).  And the
race ends as it must: what is done in time is told as if there were no deadline, and what is late is
a timeout and nothing else (`deadline_race`).

The listing of namespaces asks the cluster for all of them at once, so it takes as long as the
slowest check and not as all of them together (`ListsInTime`).  Where nothing is allowed it asks for
nothing, and no deadline is short enough to cut it off (`no_deadline_under_empty_allowlist`).
-/

namespace GuardedGateway

/-! ## Races -/

section

variable {α : Type} {limitMs : Nat} {work : Timed α}

/-- Work that is done first. -/
theorem Timed.within_of_lt (h : work.duration < limitMs) :
    work.within limitMs = ⟨⟨.ok work.value, false⟩, work.duration, work.relayed⟩ :=
  if_pos (.inl h)

/-- Work that is late. -/
theorem Timed.within_of_gt (h : limitMs < work.duration) :
    work.within limitMs = ⟨⟨.error ⟨limitMs⟩, true⟩, limitMs, false⟩ := by
  have hlate : ¬ work.inTime limitMs := by
    rintro (hlt | ⟨heq, -⟩)
    · exact Nat.lt_asymm h hlt
    · exact Nat.ne_of_gt h heq
  exact if_neg hlate

end

namespace Gateway

open Tool (Raised)

/-! ## The race of a call -/

/-- What the end of a race decides. -/
def settle (toolName : String) (settings : Settings) :
    Except DeadlineExceeded Tool.Outcome → Except Raised Guard.Bounded
  | .error passed => .error ⟨toolName, .timedOut passed.afterMs⟩
  | .ok outcome => outcome.map (release settings)

theorem runWithin_eq (toolName : String) (limitMs : Nat) (settings : Settings)
    (work : Timed Tool.Outcome) :
    runWithin toolName limitMs settings work =
      (work.within limitMs).map fun race => settle toolName settings race.outcome :=
  rfl

/-- The deadline that a call asks for.  A call that asks for none is given the default one. -/
def askedMs (call : Tool.Call) (settings : Settings) : Nat :=
  if call.timeoutMs = 0 then settings.tools.defaultTimeoutMs else call.timeoutMs

/-- What the capability of a call may use. -/
def invocation (call : Tool.Call) (state : State) (client : Cluster.Client) : Tool.Invocation :=
  ⟨client, Tool.strip call.args, .parse state.live.tools.allowedNamespaces⟩

/-- A call that is authorised to use a tool, with the client that was acquired for it. -/
structure Runs (frame : Frame) (call : Tool.Call) (state : State) (spec : Tool.Spec)
    (client : Cluster.Client) : Prop where
  authorized : authorize frame.registry (.parse state.live.tools.allowedNamespaces)
    (.ofCall state.live.tools.defaultTimeoutMs call) = .ok spec
  connected : state.connection.value = .ok client

/-- The work of the capability of a call, without a deadline. -/
def work (call : Tool.Call) (state : State) (spec : Tool.Spec) (client : Cluster.Client) :
    Timed Tool.Outcome :=
  spec.capability.run (invocation call state client)

/-- The response to a call that has no deadline. -/
def unhurried (ambient : Ambient) (call : Tool.Call) (state : State) (spec : Tool.Spec)
    (client : Cluster.Client) : Tool.Response :=
  respond call.toolName ambient.latencyNanos
    ((work call state spec client).value.map (release state.live))

/-- A call runs its capability under a deadline: once it has a client, the race against that
deadline decides what it is answered and how long it takes. -/
def RunsUnder (limitMs : Nat) (frame : Frame) (ambient : Ambient) (call : Tool.Call)
    (state : State) : Prop :=
  ∀ spec client, Runs frame call state spec client →
    let race := (work call state spec client).within limitMs
    let dispatched := dispatch frame ambient call state
    dispatched.result.response =
        respond call.toolName ambient.latencyNanos
          (settle call.toolName state.live race.value.outcome) ∧
      dispatched.duration = state.connection.duration + race.duration

/-- A call runs under the deadline of its request. -/
theorem runsUnder_deadlineMs (frame : Frame) (ambient : Ambient) (call : Tool.Call)
    (state : State) :
    RunsUnder (deadlineMs frame ambient (.ofCall state.live.tools.defaultTimeoutMs call)) frame
      ambient call state := by
  generalize hlimit :
    deadlineMs frame ambient (.ofCall state.live.tools.defaultTimeoutMs call) = limitMs
  intro spec client hruns race dispatched
  have hwithin : runWithin call.toolName limitMs state.live (work call state spec client) =
      race.map fun race => settle call.toolName state.live race.outcome := runWithin_eq _ _ _ _
  constructor
  · have hresponse : dispatched.result.response = _ := response_dispatch frame ambient call state
    have hvalue : (execute frame ambient state.live state.connection
        (.ofCall state.live.tools.defaultTimeoutMs call)).value =
          (runWithin call.toolName limitMs state.live (work call state spec client)).value := by
      simp only [execute, hruns.authorized, Timed.value_andThen, hruns.connected, hlimit]
      rfl
    rw [hresponse, hvalue, hwithin, Timed.value_map]
  · have hduration : (execute frame ambient state.live state.connection
        (.ofCall state.live.tools.defaultTimeoutMs call)).duration = state.connection.duration +
          (runWithin call.toolName limitMs state.live (work call state spec client)).duration := by
      simp only [execute, hruns.authorized, Timed.duration_andThen, hruns.connected, hlimit]
      rfl
    have htaken : dispatched.duration = _ := hduration
    rw [htaken, hwithin, Timed.duration_map]

/-! ## The deadline and the HTTP layer -/

/-- The ceiling on the deadlines is below what the HTTP layer allows. -/
theorem ceiling_lt_request_timeout {secs : Nat} (h : 1 ≤ secs) :
    min (secs * 900) (2 ^ 64 - 1) < secs * 1000 := by
  omega

/-- **No deadline reaches the time that the HTTP layer allows.**  Whatever happened to a gateway
since it was built, a call runs under at most the deadline that it asks for and at most the ceiling
that was fixed then. -/
theorem deadline_below_request_timeout (registry : Tool.Registry) {initial : Settings}
    (hsecs : 1 ≤ initial.timeouts.requestSecs) (state : State) (events : List (Ambient × Event))
    (ambient : Ambient) (call : Tool.Call) :
    let frame := Frame.ofSettings registry initial
    let now := run frame state events
    let limitMs := deadlineMs frame ambient (.ofCall now.live.tools.defaultTimeoutMs call)
    let ceilingMs := min (initial.timeouts.requestSecs * 900) (2 ^ 64 - 1)
    RunsUnder limitMs frame ambient call now ∧
      limitMs ≤ min (askedMs call now.live) ceilingMs ∧
      ceilingMs < frame.requestTimeoutMs ∧
      frame.requestTimeoutMs = initial.timeouts.requestSecs * 1000 := by
  intro frame now limitMs ceilingMs
  have hlimit : limitMs = min (askedMs call now.live) (ceilingMs - ambient.spentMs) := rfl
  refine ⟨runsUnder_deadlineMs frame ambient call now, ?_, ceiling_lt_request_timeout hsecs, rfl⟩
  rw [hlimit]
  exact min_le_min_left _ (Nat.sub_le ceilingMs ambient.spentMs)

/-- The ceiling of the longest HTTP timeout is the largest number of milliseconds there is.  It
stays when the settings are replaced by those of a gateway with a short one, and the call that asks
for more runs under it. -/
theorem deadline_below_request_timeout_saturated :
    let initial : Settings := { Settings.allowing "default" with timeouts := ⟨2 ^ 64 - 1⟩ }
    let frame := Frame.ofSettings .builtin initial
    let state := State.fresh initial (.now (.ok (.ofSnapshot ⟨[]⟩)))
    let ambient : Ambient := ⟨⟨1, 1⟩, 0, 0, 0⟩
    let call : Tool.Call := ⟨"k8s.list_pods", [("namespace", .str "default")], 2 ^ 64 - 1⟩
    let later := run frame state [(ambient, .configure (Settings.allowing "default"))]
    1 ≤ initial.timeouts.requestSecs ∧ later.live = Settings.allowing "default" ∧
      deadlineMs frame ambient (.ofCall later.live.tools.defaultTimeoutMs call) = 2 ^ 64 - 1 ∧
      RunsUnder (2 ^ 64 - 1) frame ambient call later ∧
      2 ^ 64 - 1 < frame.requestTimeoutMs := by
  intro initial frame state ambient call later
  have hsecs : 1 ≤ initial.timeouts.requestSecs := by decide
  have hlimit : deadlineMs frame ambient (.ofCall later.live.tools.defaultTimeoutMs call) =
      2 ^ 64 - 1 := by decide
  obtain ⟨hruns, -, hbelow, -⟩ := deadline_below_request_timeout .builtin hsecs state
    [(ambient, .configure (Settings.allowing "default"))] ambient call
  have hceiling : min (initial.timeouts.requestSecs * 900) (2 ^ 64 - 1) = 2 ^ 64 - 1 := by decide
  refine ⟨hsecs, rfl, hlimit, ?_, ?_⟩
  · rw [← hlimit]
    exact hruns
  · rw [hceiling] at hbelow
    exact hbelow

/-! ## How the race ends -/

/-- A response that tells of a deadline and of nothing else. -/
structure CutOff (response : Tool.Response) (toolName : String) (limitMs : Nat) : Prop where
  failure : response.failure? =
    some ⟨.timeout, "tool timed out after " ++ toString limitMs ++ "ms", toolName⟩
  statusCode : response.statusCode = 408
  result : response.result? = none
  truncated : response.truncated = false

theorem cutOff_respond (toolName : String) (latencyNanos limitMs : Nat) :
    CutOff (respond toolName latencyNanos (.error ⟨toolName, .timedOut limitMs⟩)) toolName
      limitMs :=
  ⟨rfl, rfl, rfl, rfl⟩

/-- How long the listing of namespaces takes: nothing when nothing is allowed, and otherwise as long
as the listing itself and the slowest of the checks, in whatever order these are awaited. -/
structure ListsInTime (inv : Tool.Invocation) (duration : Nat) : Prop where
  nothing : inv.allowed.isEmpty = true → duration = 0
  slowest : inv.allowed.isEmpty = false →
    duration = inv.client.listNamespaces.duration +
      (Tool.checkMs inv.client inv.candidates).max?.getD 0
  inTurn : inv.allowed.isEmpty = false →
    ∀ order, order.Perm (Tool.checkMs inv.client inv.candidates) →
      awaitedInTurn inv.client.listNamespaces.duration inv.client.listNamespaces.duration order =
        duration

theorem listsInTime (inv : Tool.Invocation) :
    ListsInTime inv (Tool.listNamespaces inv).duration where
  nothing := Tool.duration_listNamespaces_of_isEmpty
  slowest := Tool.duration_listNamespaces
  inTurn hallowed order horder := by
    rw [awaitedInTurn_perm horder, awaitedInTurn_eq, Tool.duration_listNamespaces hallowed]

/-- **The race against the deadline.**  The deadline is what the call asks for, but at most the
ceiling.  Work that is done before it passes is told as if there were no deadline, and nobody is
told to stop.  When it passes first, everybody is, and the response is a timeout, whatever the work
had come to by then. -/
theorem deadline_race {frame : Frame} {ambient : Ambient} {call : Tool.Call} {state : State}
    {spec : Tool.Spec} {client : Cluster.Client} (hruns : Runs frame call state spec client)
    (hconnected : state.connection.duration = 0) (hspent : ambient.spentMs = 0) :
    let limitMs := min (askedMs call state.live) frame.toolCeilingMs
    let duration := (work call state spec client).duration
    let race := ((work call state spec client).within limitMs).value
    let dispatched := dispatch frame ambient call state
    RunsUnder limitMs frame ambient call state ∧
      (duration < limitMs →
        dispatched.result.response = unhurried ambient call state spec client ∧
          dispatched.duration = duration ∧ race.cancelled = false) ∧
      (limitMs < duration →
        CutOff dispatched.result.response call.toolName limitMs ∧
          dispatched.duration = limitMs ∧ race.cancelled = true) ∧
      (spec.capability = .listNamespaces →
        ListsInTime (invocation call state client) duration) := by
  intro limitMs duration race dispatched
  have hlimit : deadlineMs frame ambient (.ofCall state.live.tools.defaultTimeoutMs call) =
      limitMs := by
    rw [deadlineMs, hspent, Nat.sub_zero]
    rfl
  have hunder : RunsUnder limitMs frame ambient call state := by
    rw [← hlimit]
    exact runsUnder_deadlineMs frame ambient call state
  obtain ⟨hresponse, htaken⟩ := hunder spec client hruns
  rw [hconnected, Nat.zero_add] at htaken
  refine ⟨hunder, fun hdone => ?_, fun hlate => ?_, fun hlists => ?_⟩
  · have hwithin := Timed.within_of_lt hdone
    refine ⟨?_, ?_, congrArg (fun race => race.value.cancelled) hwithin⟩
    · rw [hresponse, hwithin]
      rfl
    · rw [htaken, hwithin]
  · have hwithin := Timed.within_of_gt hlate
    refine ⟨?_, ?_, congrArg (fun race => race.value.cancelled) hwithin⟩
    · rw [hresponse, hwithin]
      exact cutOff_respond call.toolName ambient.latencyNanos limitMs
    · rw [htaken, hwithin]
  · have hwork : work call state spec client =
        Tool.listNamespaces (invocation call state client) := by
      rw [work, hlists]
      rfl
    have hduration : duration = (Tool.listNamespaces (invocation call state client)).duration :=
      congrArg Timed.duration hwork
    rw [hduration]
    exact listsInTime (invocation call state client)

/-- A cluster with one namespace that takes some time for every answer, and some more for the pods
of that namespace. -/
def slowCluster (everyMs podsMs : Nat) : Cluster.Client :=
  Cluster.Disturbances.client ⟨⟨everyMs, none⟩, .none, .none, [("default", ⟨podsMs, none⟩)]⟩
    (.ofSnapshot ⟨[⟨"default", false, [], []⟩]⟩)

/-- A listing and a check of 600 milliseconds each are done within two seconds, but not within the
default deadline. -/
theorem deadline_race_slowListing :
    let live := Settings.allowing "default"
    let frame := Frame.ofSettings .builtin live
    let ambient : Ambient := ⟨⟨1, 1⟩, 0, 0, 0⟩
    let client := slowCluster 600 0
    let state := State.fresh live (.now (.ok client))
    let listing (timeoutMs : Nat) : Tool.Call := ⟨"k8s.list_namespaces", [], timeoutMs⟩
    let spec := (Tool.Registry.builtin.get? "k8s.list_namespaces").get rfl
    (∀ timeoutMs, Runs frame (listing timeoutMs) state spec client) ∧
      state.connection.duration = 0 ∧ ambient.spentMs = 0 ∧
      CutOff (dispatch frame ambient (listing 0) state).result.response "k8s.list_namespaces"
        1000 ∧
      (dispatch frame ambient (listing 2000) state).result.response =
        unhurried ambient (listing 2000) state spec client ∧
      (dispatch frame ambient (listing 2000) state).duration = 1200 := by
  intro live frame ambient client state listing spec
  have hruns (timeoutMs : Nat) : Runs frame (listing timeoutMs) state spec client := ⟨rfl, rfl⟩
  have hduration (timeoutMs : Nat) :
      (work (listing timeoutMs) state spec client).duration = 1200 := by
    show (work (listing 0) state spec client).duration = 1200
    decide +kernel
  have hlimit : min (askedMs (listing 0) state.live) frame.toolCeilingMs = 1000 := by
    decide +kernel
  have hspent : ambient.spentMs = 0 := rfl
  obtain ⟨-, -, hlate, -⟩ := deadline_race (hruns 0) rfl hspent
  obtain ⟨-, hdone, -⟩ := deadline_race (hruns 2000) rfl hspent
  rw [hduration, hlimit] at hlate
  rw [hduration] at hdone
  obtain ⟨hcut, -⟩ := hlate (by decide)
  obtain ⟨hresponse, htaken, -⟩ := hdone (by decide +kernel)
  exact ⟨hruns, rfl, hspent, hcut, hresponse, htaken⟩

/-- Where nothing is allowed the listing is not asked for, however long it would take: the call is
turned down at once, within a deadline that the listing and its checks do not meet. -/
theorem no_deadline_under_empty_allowlist :
    let live := Settings.allowing ""
    let frame := Frame.ofSettings .builtin live
    let ambient : Ambient := ⟨⟨1, 1⟩, 0, 0, 0⟩
    let client := slowCluster 2000 0
    let state := State.fresh live (.now (.ok client))
    let call : Tool.Call := ⟨"k8s.list_namespaces", [], 0⟩
    let limitMs := min (askedMs call live) frame.toolCeilingMs
    let inv := invocation call state client
    let listingMs :=
      client.listNamespaces.duration + (Tool.checkMs client inv.candidates).max?.getD 0
    ∃ spec, Runs frame call state spec client ∧ state.connection.duration = 0 ∧
      spec.capability = .listNamespaces ∧
      limitMs < listingMs ∧ (work call state spec client).duration ≠ listingMs ∧
      ¬ CutOff (dispatch frame ambient call state).result.response call.toolName limitMs := by
  intro live frame ambient client state call limitMs inv listingMs
  refine ⟨_, ⟨rfl, rfl⟩, rfl, rfl, by decide, by decide, fun hcut => ?_⟩
  exact absurd hcut.statusCode (by decide)

end Gateway

end GuardedGateway
