import GuardedGateway.Gateway.Session
import GuardedGateway.Proofs.Dispatch.Observation
import GuardedGateway.Proofs.Http.Preemption
import GuardedGateway.Proofs.Isolation.Secrets
import Mathlib.Data.List.Forall2

/-!
# Answers do not depend on history

Of everything that a session leaves behind, only the settings and the connection are looked at by
what comes next.  The log and the metrics are written and never read.  So two sessions that have
come to the same settings and the same connection (`State.Agrees`), each in its own way and on a log
of its own, answer the next event alike (`alike_step`), and when the events after it are the same
they agree again (`agrees_run`).

## What may differ

Ids are drawn and latencies are measured anew for each event, and whether the records could be
written depends on the log.  `Dispatched.Alike` is equality apart from these three, and the other
relations of this module pass it on: to the reply to a message, to the answer of an endpoint, and to
the response to a request, whose id may be a new one too.

Time has one more effect: the deadline of a capability shrinks by what has been spent before it is
set.  Two runs are compared when this does not decide between them (`ClockAgrees`): the deadline is
the same, as it is when the same time was spent, or it is met in both.

## Logs that fail

`TriesBoth` says what a log that fails does to a call: nothing, apart from what it reports.  The
second record is tried whatever became of the first.
-/

namespace GuardedGateway

/-! ## Writing twice -/

namespace Audit.Log

variable (log : Log) (record : Record)

/-- What an attempt to write reports. -/
def report (attempt : Nat) : Except WriteFault Unit :=
  match log.disk attempt with
  | none => .ok ()
  | some fault => .error ⟨fault⟩

/-- What an attempt to write a record leaves on the disk. -/
def kept (attempt : Nat) : List Record :=
  match log.disk attempt with
  | none => [record]
  | some _ => []

/-- Every write on a log that is switched on is an attempt. -/
theorem write_eq (h : log.enabled = true) :
    log.write record =
      ({ log with
          attempts := log.attempts + 1
          records := log.records ++ log.kept record log.attempts },
        log.report log.attempts) := by
  rw [write, if_pos h, kept, report]
  cases log.disk log.attempts with
  | none => rfl
  | some fault => rw [List.append_nil]

end Audit.Log

/-! ## Spans apart from drawn ids -/

/-- A context without the ids that were drawn for it.  A trace that was continued is not drawn. -/
def Trace.Context.steady (context : Trace.Context) : Trace.Context :=
  { context with
    spanId := ""
    traceId := if context.parentSpanId.isSome then context.traceId else "" }

theorem Trace.Context.steady_continueOrStart (draw₁ draw₂ : Trace.Draw)
    (traceparent tracestate : Option String) :
    (continueOrStart draw₁ traceparent tracestate).steady =
      (continueOrStart draw₂ traceparent tracestate).steady := by
  cases h : traceparent.bind Parent.parse? <;> simp [continueOrStart, h, steady]

namespace Gateway

/-! ## Two states -/

/-- Two states in which the gateway has the same settings and the same connection. -/
structure State.Agrees (s t : State) : Prop where
  live : s.live = t.live
  connection : s.connection = t.connection

theorem State.Agrees.refl (s : State) : s.Agrees s := ⟨rfl, rfl⟩

/-! ## Dispatches -/

/-- Two dispatches that ended alike, apart from drawn ids, from latencies, and from whether their
records could be written. -/
structure Dispatched.Alike (x y : Dispatched) : Prop where
  response : x.response.AlikeButLatency y.response
  attributes : x.span.steady = y.span.steady
  context : x.span.context.steady = y.span.context.steady

/-- Two pieces of work that take the same time, give related results, and leave states that agree.
-/
structure Underway.Alike {α : Type} (related : α → α → Prop) (x y : Underway α) : Prop where
  begun : x.begun.Agrees y.begun
  duration : x.duration = y.duration
  result : related x.result y.result
  done : x.done.Agrees y.done

theorem Underway.alike_now {α : Type} {related : α → α → Prop} {s t : State} (h : s.Agrees t)
    {a b : α} (hresult : related a b) : Underway.Alike related (.now s a) (.now t b) :=
  ⟨h, rfl, hresult, h⟩

/-- The clock does not decide between two runs of a call: its capability has one deadline in both,
or is done before the deadline in both. -/
def ClockAgrees (frame : Frame) (ambient₁ ambient₂ : Ambient) (state : State)
    (call : Tool.Call) : Prop :=
  let allowed := Guard.Allowlist.parse state.live.tools.allowedNamespaces
  let request := Tool.Request.ofCall state.live.tools.defaultTimeoutMs call
  ∀ spec client, authorize frame.registry allowed request = .ok spec →
    state.connection.value = .ok client →
    deadlineMs frame ambient₁ request = deadlineMs frame ambient₂ request ∨
      (spec.capability.run ⟨client, request.args, allowed⟩).inTime
          (deadlineMs frame ambient₁ request) ∧
        (spec.capability.run ⟨client, request.args, allowed⟩).inTime
          (deadlineMs frame ambient₂ request)

/-- Work that is done before either of two deadlines is done the same under both. -/
theorem runWithin_eq_of_inTime {toolName : String} {settings : Settings}
    {work : Timed Tool.Outcome} {limit₁ limit₂ : Nat} (h₁ : work.inTime limit₁)
    (h₂ : work.inTime limit₂) :
    runWithin toolName limit₁ settings work = runWithin toolName limit₂ settings work := by
  rw [runWithin, runWithin, Timed.within, Timed.within, if_pos h₁, if_pos h₂]

section

variable {frame : Frame} {ambient₁ ambient₂ : Ambient} {s t : State} {call : Tool.Call}

/-- Runs in which the same time was spent have the same deadlines. -/
theorem clockAgrees_of_spentMs_eq (h : ambient₁.spentMs = ambient₂.spentMs) :
    ClockAgrees frame ambient₁ ambient₂ s call := by
  intro spec client _ _
  refine .inl ?_
  rw [deadlineMs, deadlineMs, h]

/-- The decision does not depend on the clock when the clock agrees. -/
theorem execute_eq_of_clockAgrees (h : s.Agrees t)
    (hclock : ClockAgrees frame ambient₁ ambient₂ s call) :
    execute frame ambient₁ s.live s.connection
        (.ofCall s.live.tools.defaultTimeoutMs call) =
      execute frame ambient₂ t.live t.connection
        (.ofCall t.live.tools.defaultTimeoutMs call) := by
  rw [← h.live, ← h.connection]
  unfold execute
  cases hauth : authorize frame.registry (.parse s.live.tools.allowedNamespaces)
      (.ofCall s.live.tools.defaultTimeoutMs call) with
  | error cause => simp only [hauth]
  | ok spec =>
    simp only [hauth, Timed.andThen]
    cases hclient : s.connection.value with
    | error fault => rfl
    | ok client =>
      simp only
      obtain hdeadline | ⟨h₁, h₂⟩ := hclock spec client hauth hclient
      · rw [hdeadline]
      · rw [runWithin_eq_of_inTime h₁ h₂]

/-- **Two dispatches of a call in states that agree are alike.** -/
theorem alike_dispatch (h : s.Agrees t) (hclock : ClockAgrees frame ambient₁ ambient₂ s call) :
    Underway.Alike Dispatched.Alike (dispatch frame ambient₁ call s)
      (dispatch frame ambient₂ call t) := by
  have hdecided := execute_eq_of_clockAgrees h hclock
  have hresponse : (dispatch frame ambient₁ call s).result.response.AlikeButLatency
      (dispatch frame ambient₂ call t).result.response := by
    rw [response_dispatch, response_dispatch, hdecided]
    exact respond_alike call.toolName ambient₁.latencyNanos ambient₂.latencyNanos _
  let found := Tool.Instrumentation.ofArgs call.args
  exact {
    begun := ⟨h.live, h.connection⟩
    duration := congrArg Timed.duration hdecided
    result := {
      response := hresponse
      attributes := steady_attributes _ _ found _ hresponse
      context := Trace.Context.steady_continueOrStart ambient₁.draw ambient₂.draw found.traceparent
        found.tracestate }
    done := ⟨h.live, h.connection⟩ }

/-- So are two dispatches of a body, which may spell no call. -/
theorem alike_dispatchBody {body : Bytes} (h : s.Agrees t)
    (hclock : ∀ call, (Tool.Call.parse body).toOption = some call →
      ClockAgrees frame ambient₁ ambient₂ s call) :
    Underway.Alike Dispatched.Alike (dispatchBody frame ambient₁ body s)
      (dispatchBody frame ambient₂ body t) := by
  cases hparse : Tool.Call.parse body with
  | ok call =>
    simp only [dispatchBody, hparse]
    exact alike_dispatch h (hclock call (by rw [hparse]; rfl))
  | error fault =>
    have hresponse := respond_alike "" ambient₁.latencyNanos ambient₂.latencyNanos
      (.error ⟨"", .malformedCall⟩)
    simp only [dispatchBody, hparse]
    exact {
      begun := h
      duration := rfl
      result := {
        response := hresponse
        attributes := steady_attributes _ _ .absent none hresponse
        context := Trace.Context.steady_continueOrStart ambient₁.draw ambient₂.draw none none }
      done := ⟨h.live, h.connection⟩ }

end

/-! ## Dispatches on a log that fails -/

/-- Both records of a call are tried, whatever becomes of the first: each is kept when the disk
takes it, and the first fault is handed back. -/
structure TriesBoth (frame : Frame) (ambient : Ambient) (call : Tool.Call) (state : State) :
    Prop where
  attempts :
    (dispatch frame ambient call state).done.audit.attempts = state.audit.attempts + 2
  records :
    (dispatch frame ambient call state).done.audit.records =
      state.audit.records ++
        state.audit.kept (calledRecord ambient call state) state.audit.attempts ++
        state.audit.kept (endedRecord frame ambient call state) (state.audit.attempts + 1)
  reported :
    (dispatch frame ambient call state).result.audit =
      firstFault (state.audit.report state.audit.attempts)
        (state.audit.report (state.audit.attempts + 1))

theorem triesBoth (frame : Frame) (ambient : Ambient) (call : Tool.Call) {state : State}
    (h : state.audit.enabled = true) : TriesBoth frame ambient call state := by
  have hfirst := Audit.Log.write_eq state.audit (calledRecord ambient call state) h
  have hon : (state.audit.write (calledRecord ambient call state)).1.enabled = true := by
    rw [Audit.Log.enabled_write, h]
  have hsecond := Audit.Log.write_eq _ (endedRecord frame ambient call state) hon
  have hdone : (dispatch frame ambient call state).done.audit =
      ((state.audit.write (calledRecord ambient call state)).1.write
        (endedRecord frame ambient call state)).1 := rfl
  have hreported : (dispatch frame ambient call state).result.audit =
      firstFault (state.audit.write (calledRecord ambient call state)).2
        ((state.audit.write (calledRecord ambient call state)).1.write
          (endedRecord frame ambient call state)).2 := rfl
  rw [hsecond, hfirst] at hdone hreported
  exact ⟨by rw [hdone], by rw [hdone]; rfl, hreported⟩

/-! ## The surfaces -/

namespace Mcp

/-- Two messages that were handled alike: by no dispatch and with the same reply, or by dispatches
that ended alike, with their results under the same id. -/
inductive Handled.Alike : Handled → Handled → Prop
  | idle (reply : Reply) : Alike (.idle reply) (.idle reply)
  | called (id : Json) {x y : Dispatched} (h : x.Alike y) :
    Alike ⟨.result id (callResult x), some x⟩ ⟨.result id (callResult y), some y⟩

end Mcp

namespace Http

/-- Two answers that are alike: the same, or those to dispatches that ended alike, as they are given
on one of the two surfaces. -/
inductive Answer.Alike : Answer → Answer → Prop
  | same (answer : Answer) : Alike answer answer
  | executed {x y : Dispatched} (h : x.Alike y) : Alike (executeAnswer x) (executeAnswer y)
  | called (id : Json) {x y : Dispatched} (h : x.Alike y) :
    Alike (mcpAnswer (.result id (Mcp.callResult x))) (mcpAnswer (.result id (Mcp.callResult y)))

/-- Answers that are alike have one status and one type. -/
theorem Answer.Alike.status_eq {x y : Answer} (h : x.Alike y) :
    x.status = y.status ∧ x.contentType = y.contentType := by
  cases h with
  | same => exact ⟨rfl, rfl⟩
  | executed h =>
    obtain ⟨-, -, houtcome⟩ := Tool.Response.alikeButLatency_iff.mp h.response
    simp only [executeAnswer, jsonAnswer, Tool.Response.statusCode, houtcome, and_self]
  | called id h => simp only [Mcp.Reply.result, mcpAnswer, jsonAnswer, and_self]

/-- Two responses to a request that are alike.  Their ids are the same when the caller gave one. -/
structure Response.Alike (request : Request) (x y : Response) : Prop where
  answer : x.answer.Alike y.answer
  allow : x.allow = y.allow
  requestId : (request.header? "x-request-id").isSome → x.requestId = y.requestId

/-- A request sees alike answers as alike. -/
theorem Answer.Alike.seen {x y : Answer} (h : x.Alike y) (request : Request) :
    (request.seen x).Alike (request.seen y) := by
  rw [Request.seen, Request.seen]
  split
  · obtain ⟨hstatus, htype⟩ := h.status_eq
    rw [hstatus, htype]
    exact .same _
  · exact h

/-- The call that a request makes, if its body is read. -/
def Request.call? (request : Request) : Option Tool.Call :=
  request.endpoint?.bind fun endpoint =>
    if endpoint.allows request.method then endpoint.call? request.body else none

end Http

/-- The call that an event makes. -/
def Event.call? : Event → Option Tool.Call
  | .body content => (Tool.Call.parse content).toOption
  | .call given => some given
  | .message content => Mcp.call? content
  | .request sent => sent.call?
  | _ => none

/-- Two answers to an event that are alike. -/
inductive Answer.Alike : Event → Answer → Answer → Prop
  | dispatched {event : Event} {x y : Dispatched} (h : x.Alike y) :
    Alike event (.dispatched x) (.dispatched y)
  | handled {event : Event} {x y : Mcp.Handled} (h : x.Alike y) :
    Alike event (.handled x) (.handled y)
  | responded {request : Http.Request} {x y : Http.Response} (h : x.Alike request y) :
    Alike (.request request) (.responded x) (.responded y)
  | same (event : Event) (answer : Answer) : Alike event answer answer

section

variable {frame : Frame} {ambient₁ ambient₂ : Ambient} {s t : State}

/-- One message is handled alike in states that agree. -/
theorem Mcp.alike_handle {body : Bytes} (h : s.Agrees t)
    (hclock : ∀ call, Mcp.call? body = some call → ClockAgrees frame ambient₁ ambient₂ s call) :
    Underway.Alike Handled.Alike (handle frame ambient₁ body s)
      (handle frame ambient₂ body t) := by
  cases hcall : Mcp.call? body with
  | none =>
    obtain ⟨reply, hreply⟩ := handle_of_no_call frame hcall
    rw [hreply, hreply]
    exact Underway.alike_now h (.idle reply)
  | some call =>
    obtain ⟨id, hid⟩ := handle_of_call hcall
    have hdispatch := alike_dispatch h (hclock call hcall)
    rw [hid, hid]
    exact ⟨hdispatch.begun, hdispatch.duration, .called id hdispatch.result, hdispatch.done⟩

namespace Http

variable {request : Request} {body : Bytes}

/-- Whether a failure is counted makes no difference to the settings and the connection. -/
theorem agrees_report (h : s.Agrees t) (audit₁ audit₂ : Except Audit.WriteFault Unit) :
    (report audit₁ s).Agrees (report audit₂ t) := by
  cases audit₁ <;> cases audit₂ <;> exact ⟨h.live, h.connection⟩

theorem alike_executeRoute (h : s.Agrees t)
    (hclock : ∀ call, (Tool.Call.parse body).toOption = some call →
      ClockAgrees frame ambient₁ ambient₂ s call) :
    Underway.Alike Answer.Alike (executeRoute frame ambient₁ body s)
      (executeRoute frame ambient₂ body t) := by
  have hdispatch := alike_dispatchBody h hclock
  exact ⟨hdispatch.begun, hdispatch.duration, .executed hdispatch.result,
    agrees_report hdispatch.done _ _⟩

theorem alike_mcpRoute (h : s.Agrees t)
    (hclock : ∀ call, Mcp.call? body = some call → ClockAgrees frame ambient₁ ambient₂ s call) :
    Underway.Alike Answer.Alike (mcpRoute frame ambient₁ body s)
      (mcpRoute frame ambient₂ body t) := by
  have hhandle := Mcp.alike_handle h hclock
  have hanswer {x y : Mcp.Handled} (hxy : x.Alike y) :
      (mcpAnswer x.reply).Alike (mcpAnswer y.reply) := by
    cases hxy with
    | idle reply => exact .same _
    | called id hdispatched => exact .called id hdispatched
  exact ⟨hhandle.begun, hhandle.duration, hanswer hhandle.result,
    agrees_report hhandle.done _ _⟩

theorem alike_withBody (limit : Nat) (h : s.Agrees t)
    {next₁ next₂ : Bytes → State → Underway Answer}
    (hnext : Underway.Alike Answer.Alike (next₁ body s) (next₂ body t)) :
    Underway.Alike Answer.Alike (withBody limit body s next₁) (withBody limit body t next₂) := by
  rw [withBody, withBody]
  split
  · exact hnext
  · exact Underway.alike_now h (.same _)

/-- What becomes of a request is alike in states that agree, under every limit on its body. -/
theorem alike_routed (limit : Nat) (h : s.Agrees t)
    (hclock : ∀ call, request.call? = some call → ClockAgrees frame ambient₁ ambient₂ s call) :
    Underway.Alike Answer.Alike (routed frame ambient₁ limit request s)
      (routed frame ambient₂ limit request t) := by
  unfold routed
  cases hendpoint : request.endpoint? with
  | none => exact Underway.alike_now h (.same _)
  | some endpoint =>
    simp only
    by_cases hallows : endpoint.allows request.method = true
    · have hcall : request.call? = endpoint.call? request.body := by
        rw [Request.call?, hendpoint, Option.bind_some, if_pos hallows]
      rw [hcall] at hclock
      rw [if_pos hallows, if_pos hallows]
      cases endpoint with
      | health => exact Underway.alike_now h (.same _)
      | execute => exact alike_withBody limit h (alike_executeRoute h hclock)
      | mcp => exact alike_withBody limit h (alike_mcpRoute h hclock)
    · rw [if_neg hallows, if_neg hallows]
      exact Underway.alike_now h (.same _)

theorem alike_limited (h : s.Agrees t)
    (hclock : ∀ call, request.call? = some call → ClockAgrees frame ambient₁ ambient₂ s call) :
    Underway.Alike Answer.Alike (limited frame ambient₁ request s)
      (limited frame ambient₂ request t) := by
  unfold limited
  split
  · exact alike_routed frame.bodyLimit h hclock
  · split
    · exact Underway.alike_now h (.same _)
    · exact alike_routed _ h hclock

/-- The layer that stops waiting decides alike on work that takes the same time. -/
theorem alike_timed (frame : Frame) {x y : Underway Answer} (h : s.Agrees t)
    (hwork : Underway.Alike Answer.Alike x y) :
    (timed frame x s).1.Alike (timed frame y t).1 ∧
      (timed frame x s).2.Agrees (timed frame y t).2 := by
  rw [timed, timed, hwork.duration]
  split
  · exact ⟨hwork.result, hwork.done⟩
  · refine ⟨.same _, ?_⟩
    simp only
    split
    · exact h
    · exact hwork.begun

/-- **A request is served alike in states that agree.** -/
theorem alike_serve (h : s.Agrees t)
    (hclock : ∀ call, request.call? = some call → ClockAgrees frame ambient₁ ambient₂ s call) :
    (serve frame ambient₁ request s).1.Alike request (serve frame ambient₂ request t).1 ∧
      (serve frame ambient₁ request s).2.Agrees (serve frame ambient₂ request t).2 := by
  obtain ⟨hanswer, hstate⟩ := alike_timed frame h (alike_limited h hclock)
  refine ⟨⟨hanswer.seen request, rfl, fun hgiven => ?_⟩, hstate⟩
  obtain ⟨id, hid⟩ := Option.isSome_iff_exists.mp hgiven
  show requestIdOf ambient₁.requestId request = requestIdOf ambient₂.requestId request
  rw [requestIdOf, requestIdOf, hid, Option.getD_some, Option.getD_some]

end Http

/-! ## Sessions -/

/-- **One event is answered alike in states that agree, and they agree afterwards.** -/
theorem alike_step {event : Event} (h : s.Agrees t)
    (hclock : ∀ call, event.call? = some call → ClockAgrees frame ambient₁ ambient₂ s call) :
    Answer.Alike event (step frame ambient₁ s event).2 (step frame ambient₂ t event).2 ∧
      (step frame ambient₁ s event).1.Agrees (step frame ambient₂ t event).1 := by
  cases event with
  | body content =>
    have hdispatch := alike_dispatchBody h hclock
    exact ⟨.dispatched hdispatch.result, hdispatch.done⟩
  | call call =>
    have hdispatch := alike_dispatch h (hclock call rfl)
    exact ⟨.dispatched hdispatch.result, hdispatch.done⟩
  | message content =>
    have hhandle := Mcp.alike_handle h hclock
    exact ⟨.handled hhandle.result, hhandle.done⟩
  | request request =>
    obtain ⟨hresponse, hstate⟩ := Http.alike_serve h hclock
    exact ⟨.responded hresponse, hstate⟩
  | configure settings => exact ⟨.same _ _, rfl, h.connection⟩
  | reload env file =>
    simp only [step, h.live]
    exact ⟨.same _ _, rfl, h.connection⟩
  | reconnect connection => exact ⟨.same _ _, h.live, rfl⟩
  | askDefaultTimeout =>
    simp only [step, h.live]
    exact ⟨.same _ _, h⟩

/-- Sessions that agree still agree after the same events, each with the same time spent. -/
theorem agrees_run (h : s.Agrees t) {events₁ events₂ : List (Ambient × Event)}
    (hsame : List.Forall₂ (fun x y => x.2 = y.2 ∧ x.1.spentMs = y.1.spentMs) events₁ events₂) :
    (run frame s events₁).Agrees (run frame t events₂) := by
  induction hsame generalizing s t with
  | nil => exact h
  | @cons first second rest₁ rest₂ hfirst _ ih =>
    obtain ⟨hevent, hspent⟩ := hfirst
    rw [run_cons, run_cons, ← hevent]
    exact ih (alike_step h fun call _ => clockAgrees_of_spentMs_eq hspent).2

end

/-- **Answers depend neither on history nor on the log.**  When two sessions of gateways with one
initial configuration have come to the same settings and the same connection, they answer the next
event alike and agree again.  Whatever the log does, a call is answered as it would be on any other,
and both its records are tried. -/
theorem answers_independent_of_history (registry : Tool.Registry) (initial : Settings)
    {start₁ start₂ : State} {events₁ events₂ : List (Ambient × Event)}
    (ambient₁ ambient₂ : Ambient) (event : Event)
    (hagrees : (run (.ofSettings registry initial) start₁ events₁).Agrees
      (run (.ofSettings registry initial) start₂ events₂))
    (hclock : ∀ call, event.call? = some call →
      ClockAgrees (.ofSettings registry initial) ambient₁ ambient₂
        (run (.ofSettings registry initial) start₁ events₁) call) :
    let frame := Frame.ofSettings registry initial
    let state₁ := run frame start₁ events₁
    let state₂ := run frame start₂ events₂
    Answer.Alike event (step frame ambient₁ state₁ event).2 (step frame ambient₂ state₂ event).2 ∧
      (step frame ambient₁ state₁ event).1.Agrees (step frame ambient₂ state₂ event).1 ∧
      ∀ (call : Tool.Call) (log : Audit.Log), log.enabled = true →
        (dispatch frame ambient₁ call { state₁ with audit := log }).result.response =
            (dispatch frame ambient₁ call state₁).result.response ∧
          TriesBoth frame ambient₁ call { state₁ with audit := log } := by
  intro frame state₁ state₂
  obtain ⟨hanswer, hstate⟩ := alike_step hagrees hclock
  refine ⟨hanswer, hstate, fun call log hlog => ⟨?_, triesBoth frame ambient₁ call hlog⟩⟩
  rw [response_dispatch, response_dispatch]

/-- A gateway that has been asked for pods, on a log that fails, and one that has been reconfigured
back and forth, on a log that is off, answer the same request alike. -/
theorem answers_independent_of_history_failingLog :
    let initial := Settings.allowing "default"
    let frame := Frame.ofSettings .builtin initial
    let connection : Cluster.Connection := .now (.ok (.ofSnapshot (labelledCluster "swordfish")))
    let asked := run frame { State.fresh initial connection with audit := .broken .notUtf8 }
      [(⟨⟨1, 1⟩, 0, 5, 0⟩, .call ⟨"k8s.list_pods", [("namespace", .str "default")], 0⟩)]
    let reconfigured := run frame { State.fresh initial connection with audit := .disabled }
      [(⟨⟨2, 2⟩, 0, 7, 0⟩, .configure (.allowing "team-a")),
        (⟨⟨3, 3⟩, 0, 9, 0⟩, .configure initial)]
    asked.Agrees reconfigured ∧
      Answer.Alike (.request Http.listPodsRequest)
        (step frame ⟨⟨4, 4⟩, 8, 3, 2⟩ asked (.request Http.listPodsRequest)).2
        (step frame ⟨⟨5, 5⟩, 9, 4, 2⟩ reconfigured (.request Http.listPodsRequest)).2 := by
  intro initial frame connection asked reconfigured
  have hasked : asked.live = initial ∧ asked.connection = connection := ⟨rfl, rfl⟩
  have hreconfigured : reconfigured.live = initial ∧ reconfigured.connection = connection :=
    ⟨rfl, rfl⟩
  have hagrees : asked.Agrees reconfigured :=
    ⟨hasked.1.trans hreconfigured.1.symm, hasked.2.trans hreconfigured.2.symm⟩
  have hclock (call : Tool.Call) :
      ClockAgrees frame ⟨⟨4, 4⟩, 8, 3, 2⟩ ⟨⟨5, 5⟩, 9, 4, 2⟩ asked call :=
    clockAgrees_of_spentMs_eq rfl
  have hanswers := answers_independent_of_history .builtin initial ⟨⟨4, 4⟩, 8, 3, 2⟩
    ⟨⟨5, 5⟩, 9, 4, 2⟩ (.request Http.listPodsRequest) hagrees fun call _ => hclock call
  exact ⟨hagrees, hanswers.1⟩

end Gateway

end GuardedGateway
