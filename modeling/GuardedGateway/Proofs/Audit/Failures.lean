import GuardedGateway.Gateway.Session
import GuardedGateway.Proofs.Dispatch.Agreement
import GuardedGateway.Proofs.Http.Routing

/-!
# Records that could not be written

A call is written down twice and reports once, with the first failure of the two, and the HTTP
surface counts the reports.  A call that the time for a request cuts off reports nothing.  So the
counter does not count writes.  It counts requests that were answered although a write had failed,
and it falls behind the writes exactly when a request loses a failure: because both writes of its
call fail, or because it is cut off after the first has failed (`losesFailure`).

`failures_serve` is the account of one request, and `failures_counted_iff` that of a sequence of
requests, on a disk that fails in any way.
-/

namespace GuardedGateway

/-! ## Writes -/

namespace Audit.Log

/-- The number of writes that have failed. -/
def failures (log : Log) : Nat :=
  (List.range log.attempts).countP fun attempt => (log.disk attempt).isSome

/-- Whether a write will fail that comes after `n` others. -/
def failsAfter (log : Log) (n : Nat) : Bool :=
  log.enabled && (log.disk (log.attempts + n)).isSome

section

variable (log : Log) (record : Record)

theorem attempts_write :
    (log.write record).1.attempts = log.attempts + log.enabled.toNat := by
  rw [write]
  cases log.enabled with
  | false => rfl
  | true => cases log.disk log.attempts <;> rfl

/-- A write that fails is one failure more. -/
theorem failures_write :
    (log.write record).1.failures = log.failures + (log.failsAfter 0).toNat := by
  rw [failures, attempts_write, disk_write, failsAfter, Nat.add_zero]
  cases log.enabled with
  | false => rfl
  | true =>
    rw [Bool.true_and, Bool.toNat_true, List.range_succ, List.countP_append, List.countP_singleton,
      failures]
    cases (log.disk log.attempts).isSome <;> rfl

/-- What a log will do after a write. -/
theorem failsAfter_write (n : Nat) :
    (log.write record).1.failsAfter n = log.failsAfter (n + 1) := by
  rw [failsAfter, failsAfter, enabled_write, disk_write, attempts_write]
  cases log.enabled with
  | false => rfl
  | true => rw [Bool.toNat_true, Nat.add_assoc, Nat.add_comm 1 n]

/-- A write reports whether it has failed. -/
theorem isOk_write : (log.write record).2.isOk = !log.failsAfter 0 := by
  rw [write, failsAfter, Nat.add_zero]
  cases log.enabled with
  | false => rfl
  | true => cases log.disk log.attempts <;> rfl

end

end Audit.Log

/-! ## Dispatches -/

namespace Gateway

/-- A report tells of a failure just when one of the two writes has failed. -/
theorem isOk_firstFault (first second : Except Audit.WriteFault Unit) :
    (firstFault first second).isOk = (first.isOk && second.isOk) := by
  cases first <;> rfl

namespace Incoming

/-- Whether the record of the call cannot be written, if there is a call. -/
def losesCall (incoming : Incoming) (log : Audit.Log) : Bool :=
  incoming.call?.isSome && log.failsAfter 0

/-- Whether the record of the end cannot be written, which comes after that of the call. -/
def losesEnd (incoming : Incoming) (log : Audit.Log) : Bool :=
  log.failsAfter incoming.call?.isSome.toNat

section

variable (frame : Frame) (ambient : Ambient) (incoming : Incoming) (state : State)

theorem failures_begin :
    (incoming.begin frame ambient state).1.audit.failures =
      state.audit.failures + (incoming.losesCall state.audit).toNat := by
  cases hcall : incoming.call? with
  | none =>
    simp only [begin, losesCall, hcall]
    rfl
  | some call =>
    simp only [begin, losesCall, hcall]
    exact Audit.Log.failures_write _ _

theorem failsAfter_begin :
    (incoming.begin frame ambient state).1.audit.failsAfter 0 = incoming.losesEnd state.audit := by
  cases hcall : incoming.call? with
  | none =>
    simp only [begin, losesEnd, hcall]
    rfl
  | some call =>
    simp only [begin, losesEnd, hcall]
    exact Audit.Log.failsAfter_write _ _ 0

theorem isOk_accepted_begin :
    (incoming.begin frame ambient state).2.accepted.isOk = !incoming.losesCall state.audit := by
  cases hcall : incoming.call? with
  | none =>
    simp only [begin, losesCall, hcall]
    rfl
  | some call =>
    simp only [begin, losesCall, hcall]
    exact Audit.Log.isOk_write _ _

/-- A dispatch that has ended has tried to write both its records, and has counted no failure. -/
theorem failures_done_dispatch :
    (incoming.dispatch frame ambient state).done.audit.failures =
        state.audit.failures + (incoming.losesCall state.audit).toNat +
          (incoming.losesEnd state.audit).toNat ∧
      (incoming.dispatch frame ambient state).done.metrics.value .auditFailures =
        state.metrics.value .auditFailures := by
  obtain ⟨-, hended⟩ := dispatch_eq_conclude_begin frame ambient state incoming
  have hdone := congrArg Prod.fst hended
  simp only [Pending.conclude, conclude] at hdone
  rw [hdone]
  constructor
  · show (Audit.Log.write _ _).1.failures = _
    rw [Audit.Log.failures_write, failures_begin, failsAfter_begin]
  · show Metrics.value (count _ _ _) _ = _
    rw [count_eq, Metrics.value, List.count_append, metrics_begin]
    exact congrArg _ (List.count_eq_zero.mpr (auditFailures_not_mem_samples _ _))

/-- Of the failures of its two writes a dispatch reports one. -/
theorem isOk_dispatch :
    (incoming.dispatch frame ambient state).result.audit.isOk =
      !(incoming.losesCall state.audit || incoming.losesEnd state.audit) := by
  obtain ⟨-, hended⟩ := dispatch_eq_conclude_begin frame ambient state incoming
  have hresult := congrArg (fun ended => ended.2.audit.isOk) hended
  simp only [Pending.conclude, conclude] at hresult
  rw [hresult, isOk_firstFault, isOk_accepted_begin, Audit.Log.isOk_write, failsAfter_begin,
    Bool.not_or]

end

end Incoming

/-! ## Requests -/

namespace Http

theorem value_auditFailures_report (audit : Except Audit.WriteFault Unit) (state : State) :
    (report audit state).metrics.value .auditFailures =
      state.metrics.value .auditFailures + (!audit.isOk).toNat := by
  cases audit with
  | ok _ => rfl
  | error _ => exact List.count_append

/-- Whether a request loses a failure: the record of its call cannot be written, and then neither
can the record of the end, or the request is cut off and its call never reports. -/
def losesFailure (frame : Frame) (ambient : Ambient) (request : Request) (state : State) : Bool :=
  match request.incoming? frame.bodyLimit with
  | none => false
  | some incoming =>
    incoming.losesCall state.audit &&
      if (incoming.dispatch frame ambient state).duration < frame.requestTimeoutMs then
        incoming.losesEnd state.audit
      else decide (0 < frame.requestTimeoutMs)

/-- A request that has no time to begin anything loses nothing. -/
theorem losesFailure_of_untouched {frame : Frame} {request : Request} (ambient : Ambient)
    (state : State) (h : request.incoming? frame.bodyLimit = none ∨ frame.requestTimeoutMs = 0) :
    losesFailure frame ambient request state = false := by
  rw [losesFailure]
  cases hgiven : request.incoming? frame.bodyLimit with
  | none => rfl
  | some incoming =>
    have hzero : frame.requestTimeoutMs = 0 := requestTimeoutMs_eq_zero h hgiven
    have hnever : ¬ (incoming.dispatch frame ambient state).duration < 0 :=
      Nat.not_lt_zero _
    simp only [hzero, if_neg hnever, Nat.lt_irrefl, decide_false, Bool.and_false]

/-- A failure of either write is counted once, and one that is not counted is lost. -/
theorem toNat_add_toNat (call ended : Bool) :
    call.toNat + ended.toNat = (call || ended).toNat + (call && ended).toNat := by
  cases call <;> cases ended <;> rfl

/-- The account of one request: the writes that have failed are those that have been counted, and
the one that the request loses. -/
theorem failures_serve (frame : Frame) (ambient : Ambient) (request : Request) (state : State) :
    ∃ counted,
      (serve frame ambient request state).2.metrics.value .auditFailures =
        state.metrics.value .auditFailures + counted ∧
      (serve frame ambient request state).2.audit.failures =
        state.audit.failures + (counted + (losesFailure frame ambient request state).toNat) := by
  have hleaves := leaves_serve frame ambient request state
  generalize (serve frame ambient request state).2 = after at hleaves ⊢
  cases hleaves with
  | untouched h =>
    refine ⟨0, rfl, ?_⟩
    rw [losesFailure_of_untouched ambient state h]
    rfl
  | @returned incoming hgiven htime =>
    obtain ⟨hfailures, hvalue⟩ := incoming.failures_done_dispatch frame ambient state
    have hloses : losesFailure frame ambient request state =
        (incoming.losesCall state.audit && incoming.losesEnd state.audit) := by
      simp only [losesFailure, hgiven, if_pos htime]
    refine ⟨(incoming.losesCall state.audit || incoming.losesEnd state.audit).toNat, ?_, ?_⟩
    · rw [value_auditFailures_report, hvalue, Incoming.isOk_dispatch, Bool.not_not]
    · rw [audit_report, hfailures, hloses, Nat.add_assoc, toNat_add_toNat]
  | @cutOff incoming hgiven htime =>
    obtain ⟨hpos, hlate⟩ := htime
    obtain ⟨hbegun, -⟩ := Incoming.dispatch_eq_conclude_begin frame ambient state incoming
    have hloses : losesFailure frame ambient request state = incoming.losesCall state.audit := by
      simp only [losesFailure, hgiven, if_neg hlate, hpos, decide_true, Bool.and_true]
    rw [hbegun]
    refine ⟨0, ?_, ?_⟩
    · rw [Incoming.metrics_begin, Nat.add_zero]
    · rw [Incoming.failures_begin, hloses, Nat.zero_add]

/-! ## Sequences of requests -/

/-- The events of requests that arrive one after another. -/
def arriving (arrivals : List (Ambient × Request)) : List (Ambient × Event) :=
  arrivals.map fun arrival => (arrival.1, .request arrival.2)

/-- The number of failures that requests lose which arrive one after another. -/
def lostFailures (frame : Frame) : State → List (Ambient × Request) → Nat
  | _, [] => 0
  | state, (ambient, request) :: rest =>
    (losesFailure frame ambient request state).toNat +
      lostFailures frame (serve frame ambient request state).2 rest

/-- No failure is lost if no request loses one in the state that the requests before it leave. -/
theorem lostFailures_eq_zero_iff (frame : Frame) (state : State)
    (arrivals : List (Ambient × Request)) :
    lostFailures frame state arrivals = 0 ↔
      ∀ served ambient request rest, arrivals = served ++ (ambient, request) :: rest →
        losesFailure frame ambient request (run frame state (arriving served)) = false := by
  induction arrivals generalizing state with
  | nil =>
    refine iff_of_true rfl fun served ambient request rest h => ?_
    exact absurd h.symm (List.append_ne_nil_of_right_ne_nil served (List.cons_ne_nil _ _))
  | cons arrival arrivals ih =>
    obtain ⟨ambient, request⟩ := arrival
    rw [lostFailures, Nat.add_eq_zero_iff, Bool.toNat_eq_zero, ih]
    constructor
    · rintro ⟨hfirst, hothers⟩ served ambient' request' rest h
      cases served with
      | nil =>
        obtain ⟨⟨rfl, rfl⟩, -⟩ := List.cons.inj h
        exact hfirst
      | cons first served =>
        obtain ⟨rfl, hrest⟩ := List.cons.inj h
        exact hothers served ambient' request' rest hrest
    · intro hall
      refine ⟨hall [] ambient request arrivals rfl, ?_⟩
      intro served ambient' request' rest h
      exact hall ((ambient, request) :: served) ambient' request' rest (by rw [h]; rfl)

/-- **The counter of failures counts the writes that fail but for those that requests lose.**  So it
is right exactly as long as no request loses one. -/
theorem failures_counted_iff (frame : Frame) (before : State)
    (arrivals : List (Ambient × Request)) :
    let after := run frame before (arriving arrivals)
    (∃ counted,
      after.metrics.value .auditFailures = before.metrics.value .auditFailures + counted ∧
        after.audit.failures =
          before.audit.failures + (counted + lostFailures frame before arrivals)) ∧
      (lostFailures frame before arrivals = 0 ↔
        ∀ served ambient request rest, arrivals = served ++ (ambient, request) :: rest →
          losesFailure frame ambient request (run frame before (arriving served)) = false) := by
  refine ⟨?_, lostFailures_eq_zero_iff frame before arrivals⟩
  induction arrivals generalizing before with
  | nil => exact ⟨0, rfl, rfl⟩
  | cons arrival arrivals ih =>
    obtain ⟨ambient, request⟩ := arrival
    obtain ⟨first, hvalue, hfailures⟩ := failures_serve frame ambient request before
    obtain ⟨others, hvalues, hfailed⟩ := ih (serve frame ambient request before).2
    refine ⟨first + others, ?_, ?_⟩
    · show (run frame (serve frame ambient request before).2 (arriving arrivals)).metrics.value
        .auditFailures = _
      rw [hvalues, hvalue, Nat.add_assoc]
    · show (run frame (serve frame ambient request before).2 (arriving arrivals)).audit.failures = _
      rw [hfailed, hfailures, lostFailures]
      omega

/-- Where the file of the log cannot be opened, a call is two failures and counts as one. -/
example :
    let frame : Frame := .ofSettings .builtin (.allowing "default")
    let before : State :=
      { State.fresh (.allowing "default") (.now (.ok (.ofSnapshot ⟨[]⟩))) with
        audit := .broken .notFound }
    let after := run frame before (arriving [(⟨⟨1, 1⟩, 0, 0, 0⟩, listPodsRequest)])
    after.audit.failures = 2 ∧ after.metrics.value .auditFailures = 1 := by
  decide +kernel

end Http

end Gateway

end GuardedGateway
