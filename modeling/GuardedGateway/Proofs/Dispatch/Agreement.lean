import GuardedGateway.Proofs.Dispatch.Phases
import GuardedGateway.Proofs.Tool.Arguments

/-!
# One end, shown in four places

How a dispatch ended is shown in the envelope that goes back, on its span, in the record of its end
and on the counter of calls.  Each of these is put together on its own, from the response and from
the namespace of the request.  `Shown` is what they have in common, and `recordedOnce_conclude` says
that all of them show the same.

A line of the log is a JSON object, and `Record.Says` tells what stands in it under a name, whenever
it is written.
-/

namespace GuardedGateway

/-! ## Attributes -/

namespace Trace

theorem Attribute.ofJson?_ofOption (text : Option String) :
    Attribute.ofJson? (.ofOption text) = text.map .string := by
  cases text <;> rfl

/-- The text of an attribute of a span, or the empty text. -/
def Span.textOf (span : Span) (name : String) : String :=
  ((span.attribute? name).map Attribute.text).getD ""

/-- Under distinct names an attribute is what was handed in under its name, unless it was passed
over. -/
theorem Span.attribute?_finish (context : Context) {values : Fields} (h : values.keys.Nodup)
    (name : String) :
    (Span.finish context values).attribute? name =
      (values.get? name).bind Attribute.ofJson? := by
  induction values with
  | nil => rfl
  | cons value rest ih =>
    obtain ⟨hnot, hrest⟩ := List.nodup_cons.mp h
    have hih := ih hrest
    rw [attribute?, finish] at hih ⊢
    rw [Fields.get?]
    by_cases hname : value.1 = name
    · rw [if_pos hname, Option.bind_some]
      cases hvalue : Attribute.ofJson? value.2 with
      | some a => simp [hvalue, hname]
      | none =>
        -- the value was passed over, and no other has its name
        have habsent : Fields.get? rest name = none := Fields.get?_of_not_mem_keys (hname ▸ hnot)
        simpa [hvalue, habsent] using hih
    · rw [if_neg hname, ← hih]
      cases hvalue : Attribute.ofJson? value.2 with
      | some a => simp [hvalue, hname]
      | none => simp [hvalue]

end Trace

/-! ## Lines of the log -/

namespace Audit

/-- What stands in the line of a record under a name, whenever it is written. -/
def Record.Says (record : Record) (name : String) (value : Option Json) : Prop :=
  ∀ ts, (record.toJson ts).field? name = value

/-- The line of a record carries the ids of a span: of its trace and of itself, and those of the
session and the run that are recorded on it, or empty ones. -/
structure Record.CarriesIds (record : Record) (span : Trace.Span) : Prop where
  traceId : record.Says "trace_id" (some (.str span.context.traceId))
  spanId : record.Says "span_id" (some (.str span.context.spanId))
  sessionId : record.Says "session_id" (some (.str (span.textOf "session_id")))
  agentRunId : record.Says "agent_run_id" (some (.str (span.textOf "agent_run_id")))

variable (correlation : Correlation) (toolName : String) (ns : Option String)

/-- The line of a call that was accepted. -/
theorem says_called (argKeys : List String) :
    (Record.mk correlation (.called toolName ns argKeys)).Says "event" (some (.str "tool_call")) ∧
      (Record.mk correlation (.called toolName ns argKeys)).Says "namespace" (ns.map .str) := by
  constructor
  · exact fun ts => rfl
  · intro ts
    cases ns <;> rfl

/-- The line of a call that ended. -/
theorem says_ended (outcome : String) (truncated : Bool) (errorType error : Option String)
    (latencyMs : Nat) :
    let record := Record.mk correlation
      (.ended toolName ns outcome truncated errorType error latencyMs)
    record.Says "event" (some (.str "tool_result")) ∧ record.Says "namespace" (ns.map .str) ∧
      record.Says "outcome" (some (.str outcome)) ∧
      record.Says "truncated" (some (.bool truncated)) ∧
      record.Says "error_type" (errorType.map .str) := by
  refine ⟨fun ts => rfl, fun ts => ?_, fun ts => ?_, fun ts => ?_, fun ts => ?_⟩
  · cases ns <;> cases errorType <;> cases error <;> rfl
  · cases ns <;> rfl
  · cases ns <;> rfl
  · cases ns <;> cases errorType <;> cases error <;> rfl

end Audit

/-! ## The four places -/

namespace Gateway

/-- What is shown of the end of a dispatch in several places. -/
structure Shown where
  status : String
  errorType : Option String
  truncated : Bool
  ns : Option String

namespace Shown

/-- The envelope shows it: there the type of an error is a member of the error. -/
structure InEnvelope (shown : Shown) (response : Tool.Response) : Prop where
  status : response.toJson.field? "status" = some (.str shown.status)
  errorType :
    (response.toJson.field? "error").bind (·.field? "error_type") = shown.errorType.map .str
  truncated : response.toJson.field? "truncated" = some (.bool shown.truncated)

/-- The span shows it: what is absent is not recorded. -/
structure OnSpan (shown : Shown) (span : Trace.Span) : Prop where
  status : span.attribute? "result_status" = some (.string shown.status)
  errorType : span.attribute? "error_type" = shown.errorType.map .string
  truncated : span.attribute? "truncated" = some (.flag shown.truncated)
  ns : span.attribute? "namespace" = shown.ns.map .string

/-- The record of the end shows it. -/
structure InRecord (shown : Shown) (record : Audit.Record) : Prop where
  status : record.Says "outcome" (some (.str shown.status))
  errorType : record.Says "error_type" (shown.errorType.map .str)
  truncated : record.Says "truncated" (some (.bool shown.truncated))
  ns : record.Says "namespace" (shown.ns.map .str)

/-- The labels of a sample show it: there the type of an absent error is empty. -/
structure OnSample (shown : Shown) (sample : Series) : Prop where
  status : sample.labels.lookup "status" = some shown.status
  errorType : sample.labels.lookup "error_type" = some (shown.errorType.getD "")

/-- What there is to show of a response to a request about a namespace. -/
def ofResponse (ns : Option String) (response : Tool.Response) : Shown :=
  ⟨response.status, Gateway.errorType response, response.truncated, ns⟩

variable (ns : Option String) (response : Tool.Response)

theorem inEnvelope_ofResponse : (ofResponse ns response).InEnvelope response where
  status := rfl
  errorType := by
    obtain ⟨toolName, latencyNanos, truncated, outcome⟩ := response
    cases outcome <;> rfl
  truncated := rfl

theorem attribute?_finish_attributes (context : Trace.Context) (found : Tool.Instrumentation)
    (name : String) :
    (Trace.Span.finish context (attributes found ns response)).attribute? name =
      (Fields.get? (attributes found ns response) name).bind Trace.Attribute.ofJson? := by
  have hkeys : (Fields.keys (attributes found ns response)).Nodup := by
    show ["namespace", "session_id", "agent_run_id", "result_status", "error_type", "truncated",
      "latency_ms"].Nodup
    decide
  exact Trace.Span.attribute?_finish context hkeys name

theorem onSpan_ofResponse (context : Trace.Context) (found : Tool.Instrumentation) :
    (ofResponse ns response).OnSpan (.finish context (attributes found ns response)) where
  status := attribute?_finish_attributes ns response context found "result_status"
  errorType := (attribute?_finish_attributes ns response context found "error_type").trans
    (Trace.Attribute.ofJson?_ofOption _)
  truncated := attribute?_finish_attributes ns response context found "truncated"
  ns := (attribute?_finish_attributes ns response context found "namespace").trans
    (Trace.Attribute.ofJson?_ofOption _)

theorem inRecord_ofResponse (correlation : Audit.Correlation) :
    (ofResponse ns response).InRecord ⟨correlation, endedEvent ns response⟩ := by
  obtain ⟨-, hns, hstatus, htruncated, herrorType⟩ :=
    Audit.says_ended correlation response.toolName ns response.status response.truncated
      (Gateway.errorType response) (response.failure?.map Tool.Failure.message) response.latencyMs
  exact ⟨hstatus, herrorType, htruncated, hns⟩

end Shown

/-! ## Ids -/

theorem textOf_of_attribute? {span : Trace.Span} {name : String} {text : Option String}
    (h : span.attribute? name = text.map .string) : span.textOf name = text.getD "" := by
  rw [Trace.Span.textOf, h]
  cases text <;> rfl

/-- Whatever a record is about, under the ids of a call it carries those of the span of the call. -/
theorem carriesIds_finish (context : Trace.Context) (found : Tool.Instrumentation)
    (ns : Option String) (response : Tool.Response) (event : Audit.Event) :
    (Audit.Record.mk (correlation context found) event).CarriesIds
      (.finish context (attributes found ns response)) := by
  have hsession := textOf_of_attribute? <|
    (Shown.attribute?_finish_attributes ns response context found "session_id").trans
      (Trace.Attribute.ofJson?_ofOption found.sessionId)
  have hrun := textOf_of_attribute? <|
    (Shown.attribute?_finish_attributes ns response context found "agent_run_id").trans
      (Trace.Attribute.ofJson?_ofOption found.agentRunId)
  refine ⟨fun ts => rfl, fun ts => rfl, ?_, ?_⟩
  · rw [hsession]
    exact fun ts => rfl
  · rw [hrun]
    exact fun ts => rfl

/-! ## Samples -/

/-- The sample of the counter of calls to which a response counts. -/
def callSample (registry : Tool.Registry) (response : Tool.Response) : Series :=
  .calls (toolLabel registry response.toolName) response.status ((errorType response).getD "")

/-- The series to which a response counts. -/
def samples (registry : Tool.Registry) (response : Tool.Response) : List Series :=
  let label := toolLabel registry response.toolName
  [callSample registry response, .durations label] ++
    if response.truncated then [.truncated label] else []

theorem count_eq (registry : Tool.Registry) (response : Tool.Response) (metrics : Metrics) :
    count registry response metrics = metrics ++ samples registry response := by
  rw [count, samples]
  split
  · simp [Metrics.recordCall, Metrics.recordTruncated, callSample]
  · simp [Metrics.recordCall, callSample]

/-- A response counts to no failure to write. -/
theorem auditFailures_not_mem_samples (registry : Tool.Registry) (response : Tool.Response) :
    .auditFailures ∉ samples registry response := by
  rw [samples, callSample]
  cases response.truncated <;> simp

/-- Counting these series increments one sample of the counter of calls, by one, and leaves the
others as they are. -/
def Increments (added : List Series) (sample : Series) : Prop :=
  sample.name = "tool_calls_total" ∧ ∀ (before : Metrics) (series : Series),
    series.name = "tool_calls_total" →
    Metrics.value (before ++ added) series =
      before.value series + if series = sample then 1 else 0

theorem increments_cons {sample : Series} {others : List Series}
    (hname : sample.name = "tool_calls_total")
    (hothers : ∀ other ∈ others, other.name ≠ "tool_calls_total") :
    Increments (sample :: others) sample := by
  refine ⟨hname, fun before series hseries => ?_⟩
  have habsent : series ∉ others := fun hmem => hothers series hmem hseries
  rw [Metrics.value, Metrics.value, List.count_append, List.count_cons,
    List.count_eq_zero.mpr habsent, Nat.zero_add]
  simp only [beq_iff_eq, eq_comm (a := series)]

theorem increments_samples (registry : Tool.Registry) (response : Tool.Response) :
    Increments (samples registry response) (callSample registry response) := by
  refine increments_cons rfl fun other hother => ?_
  rcases List.mem_cons.mp hother with rfl | hcut
  · show "tool_call_duration_seconds_count" ≠ "tool_calls_total"
    decide
  · split at hcut
    · rw [List.mem_singleton.mp hcut]
      show "tool_output_truncated_total" ≠ "tool_calls_total"
      decide
    · exact absurd hcut List.not_mem_nil

/-- A response counts to the counter of results that were too long just when it says so. -/
theorem any_truncated_samples (registry : Tool.Registry) (response : Tool.Response) :
    ((samples registry response).any fun series => series.name == "tool_output_truncated_total") =
      response.truncated := by
  rw [samples]
  cases response.truncated <;> rfl

/-! ## The whole of it -/

/-- A dispatch has been recorded once: with the lines it has added to the log and the series it has
added to the metrics, and with what is shown of its end. -/
structure RecordedOnce (incoming : Incoming) (dispatched : Dispatched)
    (lines : List Audit.Record) (added : List Series) (called : Option Audit.Record)
    (ended : Audit.Record) (sample : Series) (shown : Shown) : Prop where
  written : lines = called.toList ++ [ended]
  decoded : called.isSome = incoming.call?.isSome
  calledLine : ∀ record ∈ called, record.Says "event" (some (.str "tool_call")) ∧
    record.Says "namespace" (shown.ns.map .str) ∧ record.CarriesIds dispatched.span
  endedLine : ended.Says "event" (some (.str "tool_result")) ∧ ended.CarriesIds dispatched.span
  counted : Increments added sample
  cut : (added.any fun series => series.name == "tool_output_truncated_total") = shown.truncated
  inEnvelope : shown.InEnvelope dispatched.response
  onSpan : shown.OnSpan dispatched.span
  inRecord : shown.InRecord ended
  onSample : shown.OnSample sample

/-- The record of the end of a dispatch that has begun. -/
def Pending.record (pending : Pending) : Audit.Record :=
  ⟨correlation pending.context pending.found, endedEvent pending.ns pending.response⟩

/-- What a dispatch that has begun has written: the record of its call, if it was given one, under
the ids it will end with. -/
structure Opened (incoming : Incoming) (pending : Pending) (lines : List Audit.Record)
    (called : Option Audit.Record) : Prop where
  written : lines = called.toList
  decoded : called.isSome = incoming.call?.isSome
  calledLine : ∀ record ∈ called, ∃ toolName argKeys,
    record = ⟨correlation pending.context pending.found, .called toolName pending.ns argKeys⟩

section

variable (frame : Frame) {state : State}

/-- A dispatch that begins writes the record of its call, if it was given one, and nothing else. -/
theorem exists_opened_begin (ambient : Ambient) (incoming : Incoming) (h : state.audit.Works) :
    ∃ called,
      (incoming.begin frame ambient state).1.audit.Works ∧
      (incoming.begin frame ambient state).1.audit.records =
        state.audit.records ++ called.toList ∧
      (incoming.begin frame ambient state).1.metrics = state.metrics ∧
      Opened incoming (incoming.begin frame ambient state).2 called.toList called := by
  cases hcall : incoming.call? with
  | none =>
    refine ⟨none, ?_⟩
    simp only [Incoming.begin, hcall]
    exact ⟨h, (List.append_nil _).symm, trivial, rfl, by rw [hcall]; rfl,
      fun _ h => absurd h (Option.not_mem_none _)⟩
  | some call =>
    refine ⟨some (calledRecord ambient call state), ?_⟩
    simp only [Incoming.begin, hcall]
    refine ⟨Audit.Log.works_write h _, Audit.Log.records_write_of_works h _, trivial, rfl,
      by rw [hcall]; rfl, ?_⟩
    rintro record ⟨⟩
    exact ⟨_, _, rfl⟩

/-- A dispatch that is concluded writes the record of its end and counts once. -/
theorem Pending.conclude_eq (pending : Pending) (h : state.audit.Works) :
    (pending.conclude frame state).1.audit.Works ∧
      (pending.conclude frame state).1.audit.records = state.audit.records ++ [pending.record] ∧
      (pending.conclude frame state).1.metrics =
        state.metrics ++ samples frame.registry pending.response :=
  ⟨Audit.Log.works_write h _, Audit.Log.records_write_of_works h _, count_eq _ _ _⟩

/-- **A dispatch that has begun and is concluded has been recorded once.** -/
theorem recordedOnce_conclude {incoming : Incoming} {pending : Pending}
    {lines : List Audit.Record} {called : Option Audit.Record}
    (h : Opened incoming pending lines called) (state : State) :
    RecordedOnce incoming (pending.conclude frame state).2 (lines ++ [pending.record])
      (samples frame.registry pending.response) called pending.record
      (callSample frame.registry pending.response) (.ofResponse pending.ns pending.response) where
  written := by rw [h.written]
  decoded := h.decoded
  calledLine := by
    intro record hrecord
    obtain ⟨toolName, argKeys, rfl⟩ := h.calledLine record hrecord
    obtain ⟨hevent, hns⟩ := Audit.says_called (correlation pending.context pending.found) toolName
      pending.ns argKeys
    exact ⟨hevent, hns, carriesIds_finish _ _ _ _ _⟩
  endedLine := ⟨(Audit.says_ended _ _ _ _ _ _ _ _).1, carriesIds_finish _ _ _ _ _⟩
  counted := increments_samples frame.registry pending.response
  cut := any_truncated_samples frame.registry pending.response
  inEnvelope := Shown.inEnvelope_ofResponse pending.ns pending.response
  onSpan := Shown.onSpan_ofResponse pending.ns pending.response pending.context pending.found
  inRecord := Shown.inRecord_ofResponse pending.ns pending.response _
  onSample := ⟨rfl, rfl⟩

end

end Gateway

end GuardedGateway
