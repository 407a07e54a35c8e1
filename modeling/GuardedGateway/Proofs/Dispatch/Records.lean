import GuardedGateway.Gateway.Dispatch

/-!
# What a dispatch writes down

On a log that works, every write adds its record at the end (`Log.records_write_of_works`).  So a
call that has been accepted has left one record, a call that has ended has left two, and both carry
the ids of the call's own span.

`Audit.Answered` says of a list of records that no call in it is left open: each record of a call is
followed by a record of an end with the same trace and the same span.
-/

namespace GuardedGateway

namespace Audit

/-- A log on which every write succeeds. -/
def Log.Works (log : Log) : Prop :=
  log.enabled = true ∧ ∀ n, log.disk n = none

theorem Log.works_write {log : Log} (h : log.Works) (record : Record) :
    (log.write record).1.Works := by
  refine ⟨?_, ?_⟩
  · rw [Log.enabled_write]
    exact h.1
  · rw [Log.disk_write]
    exact h.2

theorem Log.records_write_of_works {log : Log} (h : log.Works) (record : Record) :
    (log.write record).1.records = log.records ++ [record] :=
  Log.records_write h.1 (h.2 log.attempts)

/-- The record of a call that was accepted. -/
def Record.IsCall (record : Record) : Prop :=
  ∃ toolName ns argKeys, record.event = .called toolName ns argKeys

/-- The record of a call that ended. -/
def Record.IsResult (record : Record) : Prop :=
  ∃ toolName ns outcome truncated errorType error latencyMs,
    record.event = .ended toolName ns outcome truncated errorType error latencyMs

/-- Every call in these records is followed by a result with its trace and its span. -/
def Answered (records : List Record) : Prop :=
  ∀ before call after, records = before ++ call :: after → call.IsCall →
    ∃ result ∈ after, result.IsResult ∧
      result.correlation.traceId = call.correlation.traceId ∧
      result.correlation.spanId = call.correlation.spanId

theorem answered_nil : Answered [] := by
  intro before call after h
  simp at h

/-- A record of a call that stands last is not answered. -/
theorem not_answered_singleton {record : Record} (h : record.IsCall) : ¬ Answered [record] := by
  intro hanswered
  obtain ⟨result, hresult, -⟩ := hanswered [] record [] rfl h
  exact List.not_mem_nil hresult

/-- A result alone leaves nothing open. -/
theorem answered_singleton {record : Record} (h : record.IsResult) : Answered [record] := by
  intro before call after heq hcall
  obtain ⟨_, _, _, _, _, _, _, hresult⟩ := h
  obtain ⟨_, _, _, hcalled⟩ := hcall
  have hmem : call ∈ [record] := heq ▸ List.mem_append_right before List.mem_cons_self
  rw [List.mem_singleton.mp hmem, hresult] at hcalled
  cases hcalled

/-- A call and its result leave nothing open. -/
theorem answered_pair {call result : Record} (hresult : result.IsResult)
    (hids : result.correlation = call.correlation) : Answered [call, result] := by
  intro before record after heq hrecord
  cases before with
  | nil =>
    obtain ⟨rfl, rfl⟩ := List.cons.inj heq
    exact ⟨result, List.mem_singleton.mpr rfl, hresult, by rw [hids], by rw [hids]⟩
  | cons first before =>
    obtain ⟨-, hrest⟩ := List.cons.inj heq
    exact answered_singleton hresult before record after hrest hrecord

end Audit

namespace Gateway

/-- The record that a call leaves when it is accepted. -/
def calledRecord (ambient : Ambient) (call : Tool.Call) (state : State) : Audit.Record :=
  let request := Tool.Request.ofCall state.live.tools.defaultTimeoutMs call
  let found := request.instrumentation
  ⟨correlation (.continueOrStart ambient.draw found.traceparent found.tracestate) found,
    calledEvent request⟩

/-- The record that a call leaves when it has ended. -/
def endedRecord (frame : Frame) (ambient : Ambient) (call : Tool.Call) (state : State) :
    Audit.Record :=
  let request := Tool.Request.ofCall state.live.tools.defaultTimeoutMs call
  ⟨(calledRecord ambient call state).correlation,
    endedEvent request.ns? (dispatch frame ambient call state).result.response⟩

theorem isCall_calledRecord (ambient : Ambient) (call : Tool.Call) (state : State) :
    (calledRecord ambient call state).IsCall :=
  ⟨_, _, _, rfl⟩

theorem isResult_endedRecord (frame : Frame) (ambient : Ambient) (call : Tool.Call)
    (state : State) : (endedRecord frame ambient call state).IsResult :=
  ⟨_, _, _, _, _, _, _, rfl⟩

section

variable (frame : Frame) (ambient : Ambient) (call : Tool.Call) {state : State}

/-- A call that is under way has left its first record. -/
theorem records_begun_dispatch (h : state.audit.Works) :
    (dispatch frame ambient call state).begun.audit.records =
      state.audit.records ++ [calledRecord ambient call state] :=
  Audit.Log.records_write_of_works h _

/-- A call that has ended has left both its records. -/
theorem records_done_dispatch (h : state.audit.Works) :
    (dispatch frame ambient call state).done.audit.records =
      state.audit.records ++
        [calledRecord ambient call state, endedRecord frame ambient call state] := by
  have hfirst := records_begun_dispatch frame ambient call h
  have hsecond := Audit.Log.records_write_of_works
    (Audit.Log.works_write h (calledRecord ambient call state))
    (endedRecord frame ambient call state)
  exact hsecond.trans (by rw [Audit.Log.records_write_of_works h, List.append_assoc]; rfl)

/-- The two records of a call belong together. -/
theorem answered_records_dispatch (state : State) :
    Audit.Answered [calledRecord ambient call state, endedRecord frame ambient call state] :=
  Audit.answered_pair (isResult_endedRecord frame ambient call state) rfl

end

end Gateway

end GuardedGateway
