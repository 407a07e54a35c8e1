import GuardedGateway.Proofs.Dispatch.Sessions
import GuardedGateway.Proofs.Http.Routing
import Mathlib.Algebra.BigOperators.Group.Finset.Basic

/-!
# What the metrics account for

Three families of series are about calls, and each dispatch that returns adds to all of them at once
(`samples`).  So the metrics can be read backwards: what they say about a tool is what the
dispatches under its label were (`Accounts`).  The callers choose the names of the tools, and yet no
label is theirs; a name that is not in the table is counted under one label for all.

A dispatch counts when it returns, whoever waits for it: a caller of the gateway, an MCP client or
the HTTP server.  Only the server may stop waiting, and then the dispatch never gets to counting.
`Ended` is a dispatch that has returned, and `ended` lists those of a session.

That the metrics and the dispatches go together is kept by every event (`tallied_step`) and, when
dispatches overlap, by every move (`Session.tallies_step`).
-/

namespace GuardedGateway.Gateway

/-! ## Dispatches that have returned -/

/-- The name of the tool that is called, or the empty name for a body that is no call. -/
def Incoming.toolName (incoming : Incoming) : String :=
  (incoming.call?.map Tool.Call.toolName).getD ""

/-- A dispatch that has returned. -/
structure Ended where
  incoming : Incoming
  dispatched : Dispatched

namespace Ended

/-- The response that has been given. -/
def response (ended : Ended) : Tool.Response := ended.dispatched.response

/-- The label under which a dispatch is counted. -/
def label (registry : Tool.Registry) (ended : Ended) : String :=
  toolLabel registry ended.response.toolName

end Ended

namespace Event

/-- What is dispatched for an event. -/
def incoming? (frame : Frame) : Event → Option Incoming
  | .body content => some (.body content)
  | .call given => some (.call given)
  | .message content => (Mcp.call? content).map .call
  | .request asked => asked.incoming? frame.bodyLimit
  | .configure _ | .reload _ _ | .reconnect _ | .askDefaultTimeout => none

/-- Whether somebody waits for a dispatch that takes so long.  Only a request has its time. -/
def awaits (frame : Frame) (duration : Nat) : Event → Bool
  | .request _ => decide (duration < frame.requestTimeoutMs)
  | _ => true

/-- The dispatch that returns to an event. -/
def ended? (frame : Frame) (ambient : Ambient) (state : State) (event : Event) : Option Ended :=
  (event.incoming? frame).bind fun incoming =>
    if event.awaits frame (incoming.dispatch frame ambient state).duration then
      some ⟨incoming, (incoming.dispatch frame ambient state).result⟩
    else none

end Event

/-- The dispatches that return in a session, in order. -/
def ended (frame : Frame) : State → List (Ambient × Event) → List Ended
  | _, [] => []
  | state, (ambient, event) :: events =>
    (event.ended? frame ambient state).toList ++
      ended frame (step frame ambient state event).1 events

/-! ## Accounts -/

/-- Whether a series counts calls under a label. -/
def countsCallsUnder (label : String) : Series → Bool
  | .calls tool _ _ => tool == label
  | _ => false

/-- What metrics say about calls is what the dispatches were that have returned. -/
structure Accounts (registry : Tool.Registry) (metrics : Metrics) (ended : List Ended) : Prop where
  /-- Every label is a tool of the table, or the one for all others. -/
  labelled : ∀ series ∈ metrics, ∀ label, series.labels.lookup "tool" = some label →
    registry.contains label = true ∨ label = unregistered
  /-- Under a label there are as many calls, of whatever status, as durations. -/
  calls : ∀ label,
    ∑ series ∈ metrics.toFinset with countsCallsUnder label series = true, metrics.value series =
      metrics.value (.durations label)
  durations : ∀ label, metrics.value (.durations label) =
    ended.countP fun one => one.label registry == label
  outcomes : ∀ label status errorType, metrics.value (.calls label status errorType) =
    ended.countP fun one => one.label registry == label && one.response.status == status &&
      (Gateway.errorType one.response).getD "" == errorType
  succeeded : ∀ label status errorType, .calls label status errorType ∈ metrics →
    (errorType = "" ↔ status = "success")
  truncated : ∀ label, metrics.value (.truncated label) =
    ended.countP fun one => one.label registry == label && one.response.truncated
  /-- A response is about the tool that was called. -/
  called : ∀ one ∈ ended, ∀ call, one.incoming.call? = some call →
    one.response.toolName = call.toolName
  /-- A body that is no call is counted like a tool that does not exist. -/
  malformed : registry.contains "" = false → ∀ one ∈ ended, one.incoming.call? = none →
    one.label registry = unregistered

/-- The series that are about calls are those to which the dispatches count that have returned. -/
structure Tallied (registry : Tool.Registry) (metrics : Metrics) (ended : List Ended) : Prop where
  series : metrics.filter (· != .auditFailures) =
    ended.flatMap fun one => samples registry one.response
  named : ∀ one ∈ ended, one.response.toolName = one.incoming.toolName

section

variable {registry : Tool.Registry} {metrics : Metrics} {ended : List Ended}

theorem tallied_nil : Tallied registry [] [] := ⟨rfl, List.forall_mem_nil _⟩

/-- The samples of a response are about calls. -/
theorem filter_samples (response : Tool.Response) :
    (samples registry response).filter (· != .auditFailures) = samples registry response := by
  refine List.filter_eq_self.mpr fun series hseries => bne_iff_ne.mpr ?_
  rintro rfl
  exact auditFailures_not_mem_samples registry response hseries

/-- A dispatch that returns adds its samples. -/
theorem Tallied.append (h : Tallied registry metrics ended) {after : Metrics} {others : List Ended}
    (hafter : after.filter (· != .auditFailures) = metrics.filter (· != .auditFailures) ++
      others.flatMap fun one => samples registry one.response)
    (hnamed : ∀ one ∈ others, one.response.toolName = one.incoming.toolName) :
    Tallied registry after (ended ++ others) where
  series := by rw [hafter, h.series, List.flatMap_append]
  named := List.forall_mem_append.mpr ⟨h.named, hnamed⟩

/-! ## Reading the metrics backwards -/

/-- A family of series counts what its part of the samples of one response says. -/
theorem Tallied.countP_eq (h : Tallied registry metrics ended) {family : Series → Bool}
    (hfamily : family .auditFailures = false) {counted : Ended → Bool}
    (hcounted : ∀ one, (samples registry one.response).countP family = (counted one).toNat) :
    metrics.countP family = ended.countP counted := by
  have hcalls : metrics.countP family =
      (metrics.filter (· != .auditFailures)).countP family := by
    rw [List.countP_filter]
    refine List.countP_congr fun series _ => ?_
    rw [Bool.and_eq_true, bne_iff_ne, iff_self_and]
    rintro hseries rfl
    rw [hfamily] at hseries
    cases hseries
  rw [hcalls, h.series, List.countP_flatMap]
  clear h hcalls
  induction ended with
  | nil => rfl
  | cons one ended ih =>
    rw [List.map_cons, List.sum_cons, ih, List.countP_cons, Function.comp, hcounted, Nat.add_comm]
    cases counted one <;> rfl

end

/-- How many of the samples of a response belong to a family of series. -/
theorem countP_samples (registry : Tool.Registry) (response : Tool.Response)
    (family : Series → Bool) :
    let label := toolLabel registry response.toolName
    (samples registry response).countP family =
      (family (callSample registry response)).toNat + (family (.durations label)).toNat +
        (response.truncated && family (.truncated label)).toNat := by
  intro label
  have hone (series : Series) : [series].countP family = (family series).toNat := by
    rw [List.countP_singleton]
    cases family series <;> rfl
  have htwo : [callSample registry response, .durations label].countP family =
      (family (callSample registry response)).toNat + (family (.durations label)).toNat := by
    rw [← hone, ← hone, ← List.countP_append, List.singleton_append]
  rw [samples, List.countP_append, htwo]
  cases response.truncated with
  | false => rfl
  | true => exact congrArg _ (hone _)

section

variable {registry : Tool.Registry} {metrics : Metrics} {ended : List Ended}
  (h : Tallied registry metrics ended)
include h

/-- The calls under a label, whatever their outcomes, are the dispatches under it. -/
theorem Tallied.countP_calls (label : String) :
    metrics.countP (countsCallsUnder label) =
      ended.countP fun one => one.label registry == label := by
  refine h.countP_eq rfl fun one => ?_
  rw [countP_samples]
  cases one.response.truncated <;> rfl

theorem Tallied.value_durations (label : String) :
    metrics.value (.durations label) = ended.countP fun one => one.label registry == label := by
  refine h.countP_eq rfl fun one => ?_
  rw [countP_samples]
  simp [callSample, Ended.label, beq_eq_decide]

theorem Tallied.value_calls (label status errorType : String) :
    metrics.value (.calls label status errorType) =
      ended.countP fun one => one.label registry == label && one.response.status == status &&
        (Gateway.errorType one.response).getD "" == errorType := by
  refine h.countP_eq rfl fun one => ?_
  rw [countP_samples]
  simp [callSample, Ended.label, beq_eq_decide, Bool.and_assoc]

theorem Tallied.value_truncated (label : String) :
    metrics.value (.truncated label) =
      ended.countP fun one => one.label registry == label && one.response.truncated := by
  refine h.countP_eq rfl fun one => ?_
  rw [countP_samples]
  simp [callSample, Ended.label, beq_eq_decide, Bool.and_comm]

/-- What stands in the metrics is a failure to write or a sample of a dispatch that has returned. -/
theorem Tallied.exists_of_mem {series : Series} (hseries : series ∈ metrics) :
    series = .auditFailures ∨ ∃ one ∈ ended, series ∈ samples registry one.response := by
  by_cases hfailure : series = .auditFailures
  · exact .inl hfailure
  · have hcalls : series ∈ metrics.filter (· != .auditFailures) :=
      List.mem_filter.mpr ⟨hseries, bne_iff_ne.mpr hfailure⟩
    rw [h.series] at hcalls
    exact .inr (List.mem_flatMap.mp hcalls)

end

theorem eq_of_mem_samples {registry : Tool.Registry} {response : Tool.Response} {series : Series}
    (h : series ∈ samples registry response) :
    series = callSample registry response ∨
      series = .durations (toolLabel registry response.toolName) ∨
      series = .truncated (toolLabel registry response.toolName) := by
  rcases List.mem_append.mp h with hcall | hcut
  · rcases List.mem_cons.mp hcall with rfl | hduration
    · exact .inl rfl
    · exact .inr (.inl (List.mem_singleton.mp hduration))
  · split at hcut
    · exact .inr (.inr (List.mem_singleton.mp hcut))
    · exact absurd hcut List.not_mem_nil

/-- The label of every sample of a response is that of its tool. -/
theorem label_of_mem_samples {registry : Tool.Registry} {response : Tool.Response}
    {series : Series} (h : series ∈ samples registry response) {label : String}
    (hlabel : series.labels.lookup "tool" = some label) :
    label = toolLabel registry response.toolName := by
  rcases eq_of_mem_samples h with rfl | rfl | rfl
  · exact (Option.some.inj hlabel).symm
  · exact (Option.some.inj hlabel).symm
  · exact (Option.some.inj hlabel).symm

theorem toolLabel_cases (registry : Tool.Registry) (toolName : String) :
    registry.contains (toolLabel registry toolName) = true ∨
      toolLabel registry toolName = unregistered := by
  rw [toolLabel]
  split
  · rename_i hknown
    exact .inl hknown
  · exact .inr rfl

/-- The type of an error is empty just when there is none. -/
theorem errorType_eq_empty_iff (response : Tool.Response) :
    (errorType response).getD "" = "" ↔ response.status = "success" := by
  rw [errorType, Tool.Response.failure?, Tool.Response.status]
  cases response.outcome with
  | ok result => exact iff_of_true rfl rfl
  | error failure =>
    refine iff_of_false ?_ ?_
    · show failure.kind.name ≠ ""
      cases failure.kind <;> decide
    · show "error" ≠ "success"
      decide

/-- **Metrics that go together with the dispatches account for them.** -/
theorem Tallied.accounts {registry : Tool.Registry} {metrics : Metrics} {ended : List Ended}
    (h : Tallied registry metrics ended) : Accounts registry metrics ended where
  labelled := by
    intro series hseries label hlabel
    rcases h.exists_of_mem hseries with rfl | ⟨one, -, hsample⟩
    · cases hlabel
    · rw [label_of_mem_samples hsample hlabel]
      exact toolLabel_cases registry one.response.toolName
  calls := by
    intro label
    rw [h.value_durations, ← h.countP_calls]
    refine (Finset.sum_filter_count_eq_countP _ _).trans (List.countP_congr fun series _ => ?_)
    exact decide_eq_true_iff
  durations := h.value_durations
  outcomes := h.value_calls
  succeeded := by
    intro label status errorType hmem
    rcases h.exists_of_mem hmem with hfailure | ⟨one, -, hsample⟩
    · cases hfailure
    · rcases eq_of_mem_samples hsample with hcall | hduration | hcut
      · obtain ⟨-, rfl, rfl⟩ := Series.calls.inj hcall
        exact errorType_eq_empty_iff one.response
      · cases hduration
      · cases hcut
  truncated := h.value_truncated
  called := by
    intro one hone call hcall
    rw [h.named one hone, Incoming.toolName, hcall]
    rfl
  malformed := by
    intro hempty one hone hcall
    rw [Ended.label, h.named one hone, Incoming.toolName, hcall, toolLabel]
    exact if_neg (by rw [Option.map_none, Option.getD_none, hempty]; decide)

/-! ## Events -/

theorem toolName_respond (toolName : String) (latencyNanos : Nat)
    (decided : Except Tool.Raised Guard.Bounded) :
    (respond toolName latencyNanos decided).toolName = toolName := by
  cases decided <;> rfl

section

variable (frame : Frame) (ambient : Ambient) (state : State)

theorem toolName_begin (incoming : Incoming) :
    (incoming.begin frame ambient state).2.response.toolName = incoming.toolName := by
  cases hcall : incoming.call? with
  | none =>
    simp only [Incoming.begin, Incoming.toolName, hcall]
    rfl
  | some call =>
    simp only [Incoming.begin, Incoming.toolName, hcall]
    exact toolName_respond _ _ _

/-- A response is about the tool that was called. -/
theorem toolName_dispatch (incoming : Incoming) :
    (incoming.dispatch frame ambient state).result.response.toolName = incoming.toolName := by
  obtain ⟨-, hended⟩ := incoming.dispatch_eq_conclude_begin frame ambient state
  have hresponse := congrArg (fun ended => ended.2.response.toolName) hended
  exact hresponse.trans (toolName_begin frame ambient state incoming)

/-- A dispatch that has returned has counted its response. -/
theorem metrics_done_dispatch (incoming : Incoming) :
    (incoming.dispatch frame ambient state).done.metrics = state.metrics ++
      samples frame.registry (incoming.dispatch frame ambient state).result.response := by
  obtain ⟨-, hended⟩ := incoming.dispatch_eq_conclude_begin frame ambient state
  have hmetrics := congrArg (fun ended => ended.1.metrics) hended
  have hresponse := congrArg (fun ended => ended.2.response) hended
  simp only [Pending.conclude, conclude] at hmetrics hresponse
  rw [hmetrics, hresponse, count_eq, Incoming.metrics_begin]

/-- To report a failure to write is not about calls. -/
theorem filter_metrics_report (audit : Except Audit.WriteFault Unit) :
    (Http.report audit state).metrics.filter (· != .auditFailures) =
      state.metrics.filter (· != .auditFailures) := by
  cases audit with
  | ok _ => rfl
  | error _ =>
    exact (List.filter_append state.metrics [Series.auditFailures]).trans (List.append_nil _)

/-- A dispatch that a request does not wait for does not return to it. -/
theorem ended?_request_of_not_awaited {request : Http.Request}
    (h : ∀ incoming, request.incoming? frame.bodyLimit = some incoming →
      ¬ (incoming.dispatch frame ambient state).duration < frame.requestTimeoutMs) :
    Event.ended? frame ambient state (.request request) = none := by
  refine Option.bind_eq_none_iff.mpr fun incoming hgiven => ?_
  exact if_neg fun hawaited => h incoming hgiven (decide_eq_true_iff.mp hawaited)

theorem ended?_request_of_awaited {request : Http.Request} {incoming : Incoming}
    (hgiven : request.incoming? frame.bodyLimit = some incoming)
    (htime : (incoming.dispatch frame ambient state).duration < frame.requestTimeoutMs) :
    Event.ended? frame ambient state (.request request) =
      some ⟨incoming, (incoming.dispatch frame ambient state).result⟩ := by
  refine Option.bind_eq_some_iff.mpr ⟨incoming, hgiven, ?_⟩
  exact if_pos (decide_eq_true_iff.mpr htime)

/-- A dispatch that returns adds its samples to the series that are about calls. -/
theorem filter_metrics_done_dispatch (incoming : Incoming) :
    (incoming.dispatch frame ambient state).done.metrics.filter (· != .auditFailures) =
      state.metrics.filter (· != .auditFailures) ++
        [Ended.mk incoming (incoming.dispatch frame ambient state).result].flatMap fun one =>
          samples frame.registry one.response := by
  rw [metrics_done_dispatch, List.filter_append, filter_samples, List.flatMap_singleton]
  rfl

/-- A request adds the samples of the dispatch that returns to it, if there is one. -/
theorem filter_metrics_serve (request : Http.Request) :
    (Http.serve frame ambient request state).2.metrics.filter (· != .auditFailures) =
      state.metrics.filter (· != .auditFailures) ++
        (Event.ended? frame ambient state (.request request)).toList.flatMap fun one =>
          samples frame.registry one.response := by
  have hleaves := Http.leaves_serve frame ambient request state
  generalize (Http.serve frame ambient request state).2 = after at hleaves ⊢
  cases hleaves with
  | untouched h =>
    have hnone : Event.ended? frame ambient state (.request request) = none := by
      refine ended?_request_of_not_awaited frame ambient state fun incoming hgiven => ?_
      rw [Http.requestTimeoutMs_eq_zero h hgiven]
      exact Nat.not_lt_zero _
    rw [hnone]
    exact (List.append_nil _).symm
  | @returned incoming hgiven htime =>
    rw [filter_metrics_report, ended?_request_of_awaited frame ambient state hgiven htime]
    exact filter_metrics_done_dispatch frame ambient state incoming
  | @cutOff incoming hgiven htime =>
    have hnone : Event.ended? frame ambient state (.request request) = none := by
      refine ended?_request_of_not_awaited frame ambient state fun other hother => ?_
      obtain rfl := Option.some.inj (hgiven.symm.trans hother)
      exact htime.2
    obtain ⟨hbegun, -⟩ := incoming.dispatch_eq_conclude_begin frame ambient state
    rw [hnone, hbegun, Incoming.metrics_begin]
    exact (List.append_nil _).symm

/-- **One event** adds the samples of the dispatch that returns to it, if there is one. -/
theorem filter_metrics_step (event : Event) :
    (step frame ambient state event).1.metrics.filter (· != .auditFailures) =
      state.metrics.filter (· != .auditFailures) ++
        (event.ended? frame ambient state).toList.flatMap fun one =>
          samples frame.registry one.response := by
  cases event with
  | body content => exact filter_metrics_done_dispatch frame ambient state (.body content)
  | call call => exact filter_metrics_done_dispatch frame ambient state (.call call)
  | message content =>
    cases hcall : Mcp.call? content with
    | none =>
      obtain ⟨reply, hhandle⟩ := Mcp.handle_of_no_call frame hcall
      simp only [step, Event.ended?, Event.incoming?, hcall, hhandle]
      exact (List.append_nil _).symm
    | some call =>
      obtain ⟨id, hhandle⟩ := Mcp.handle_of_call hcall
      simp only [step, Event.ended?, Event.incoming?, hcall, hhandle]
      exact filter_metrics_done_dispatch frame ambient state (.call call)
  | request request => exact filter_metrics_serve frame ambient state request
  | configure settings => exact (List.append_nil _).symm
  | reload env file => exact (List.append_nil _).symm
  | reconnect connection => exact (List.append_nil _).symm
  | askDefaultTimeout => exact (List.append_nil _).symm

/-- The dispatch that returns to an event is about the tool that was called. -/
theorem toolName_of_ended? {event : Event} {one : Ended}
    (h : event.ended? frame ambient state = some one) :
    one.response.toolName = one.incoming.toolName := by
  obtain ⟨incoming, -, hended⟩ := Option.bind_eq_some_iff.mp h
  split at hended
  · obtain rfl := Option.some.inj hended
    exact toolName_dispatch frame ambient state incoming
  · cases hended

end

/-- **One event** keeps the metrics and the dispatches together. -/
theorem tallied_step {frame : Frame} {state : State} {before : List Ended}
    (h : Tallied frame.registry state.metrics before) (ambient : Ambient) (event : Event) :
    Tallied frame.registry (step frame ambient state event).1.metrics
      (before ++ (event.ended? frame ambient state).toList) := by
  refine h.append (filter_metrics_step frame ambient state event) fun one hone => ?_
  exact toolName_of_ended? frame ambient state (Option.mem_toList.mp hone)

/-- A session does. -/
theorem tallied_run {frame : Frame} {state : State} {before : List Ended}
    (h : Tallied frame.registry state.metrics before) (events : List (Ambient × Event)) :
    Tallied frame.registry (run frame state events).metrics
      (before ++ ended frame state events) := by
  induction events generalizing state before with
  | nil =>
    rw [ended, List.append_nil]
    exact h
  | cons event events ih =>
    obtain ⟨ambient, event⟩ := event
    rw [ended, ← List.append_assoc]
    exact ih (tallied_step h ambient event)

/-! ## Overlapping dispatches -/

/-- A dispatch that has returned in a session of overlapping dispatches. -/
def Returned.ended (returned : Returned) : Ended :=
  ⟨returned.incoming, returned.dispatched⟩

namespace Session

/-- The metrics of a session go together with the dispatches that have returned, and a dispatch that
is underway will tell of the tool that was called. -/
structure Tallies (frame : Frame) (session : Session) : Prop where
  tallied : Tallied frame.registry session.state.metrics (session.returned.map Returned.ended)
  underway : ∀ other ∈ session.underway,
    other.pending.response.toolName = other.incoming.toolName

variable {frame : Frame} {session : Session}

theorem tallies_finish (h : session.Tallies frame) {ended : Open}
    (hended : ended ∈ session.underway) : (session.finish frame ended).Tallies frame where
  tallied := by
    have hreturned : (session.finish frame ended).returned.map Returned.ended =
        session.returned.map Returned.ended ++
          [⟨ended.incoming, (ended.pending.conclude frame session.state).2⟩] := List.map_append
    rw [hreturned]
    refine h.tallied.append ?_ (List.forall_mem_singleton.mpr (h.underway ended hended))
    show (count _ _ _).filter _ = _
    rw [count_eq, List.filter_append, filter_samples, List.flatMap_singleton]
    rfl
  underway := fun other hother => h.underway other (mem_underway_finish.mp hother).1

/-- **One move** keeps the metrics and the dispatches together. -/
theorem tallies_step (h : session.Tallies frame) (move : Move) :
    (session.step frame move).Tallies frame := by
  cases move with
  | begin ambient incoming =>
    constructor
    case tallied =>
      show Tallied _ (incoming.begin frame ambient session.state).1.metrics _
      rw [Incoming.metrics_begin]
      exact h.tallied
    case underway =>
      refine List.forall_mem_append.mpr ⟨h.underway, List.forall_mem_singleton.mpr ?_⟩
      exact toolName_begin frame ambient session.state incoming
  | finish ticket =>
    rw [step]
    cases hfound : session.underway.find? fun other => other.ticket == ticket with
    | none => exact h
    | some ended => exact tallies_finish h (List.mem_of_find?_eq_some hfound)
  | change live connection => exact { h with }

/-- Any moves do. -/
theorem tallies_run (h : session.Tallies frame) (moves : List Move) :
    (session.run frame moves).Tallies frame := by
  induction moves generalizing session with
  | nil => exact h
  | cons move moves ih => exact ih (tallies_step h move)

end Session

/-! ## Sessions -/

/-- **The metrics account for every dispatch that returns**, whatever callers send on whichever
surface, and also where dispatches overlap. -/
theorem calls_accounted (frame : Frame) {start : State} (h : start.metrics = []) :
    (∀ events, Accounts frame.registry (run frame start events).metrics
        (ended frame start events)) ∧
      ∀ moves,
        let session := (Session.start start).run frame moves
        Accounts frame.registry session.state.metrics (session.returned.map Returned.ended) := by
  have hstart : Tallied frame.registry start.metrics [] := h ▸ tallied_nil
  constructor
  · exact fun events => (tallied_run hstart events).accounts
  · intro moves
    have hsession : (Session.start start).Tallies frame := ⟨hstart, List.forall_mem_nil _⟩
    exact (Session.tallies_run hsession moves).tallied.accounts

/-- A body that is no call, a tool that does not exist and a request that lists pods: two of the
three are counted under the label for all others, and the third under its own. -/
theorem calls_accounted_threeCallers :
    let frame : Frame := .ofSettings .builtin (.allowing "default")
    let start : State := .fresh (.allowing "default")
      (.now (.ok (.ofSnapshot ⟨[⟨"default", false, [], []⟩]⟩)))
    let ambient : Ambient := ⟨⟨1, 1⟩, 0, 0, 0⟩
    let events : List (Ambient × Event) := [
      (ambient, .body (Text.bytes "[")),
      (ambient, .call ⟨"drop_tables", [], 0⟩),
      (ambient, .request Http.listPodsRequest)]
    start.metrics = [] ∧
      Accounts frame.registry (run frame start events).metrics (ended frame start events) ∧
      (run frame start events).metrics.value (.durations unregistered) = 2 ∧
      (run frame start events).metrics.value (.calls "k8s.list_pods" "success" "") = 1 := by
  intro frame start ambient events
  have hfresh : start.metrics = [] := rfl
  have haccounts := (calls_accounted frame hfresh).1 events
  refine ⟨hfresh, haccounts, ?_, ?_⟩
  · rw [haccounts.durations]
    decide +kernel
  · rw [haccounts.outcomes]
    decide +kernel

end GuardedGateway.Gateway
