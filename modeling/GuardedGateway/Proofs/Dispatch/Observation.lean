import GuardedGateway.Proofs.Dispatch.Decision

/-!
# What a dispatch tells

Besides its response a call leaves a span, two records and a count.  In all of these the ids are
drawn, unless the caller names a trace, and the latency is measured; everything else follows from
the request and the decision.  So two calls with one decision are `ToldAlike`
(`toldAlike_of_value_eq`), and when nothing was drawn or measured differently they are told the same
to the letter (`told_of_value_eq`).

A part that may differ is dropped on both sides before the comparison: `Event.steady` and
`Record.steady` drop it from a record, `Span.steady` from the attributes of a span.  `Log.Alike`
compares two logs in this way, and writing keeps them alike (`Log.alike_write`), so the comparison
goes through any number of calls.
-/

namespace GuardedGateway

/-! ## Records -/

namespace Audit

/-- An event without its latency. -/
def Event.steady : Event → Event
  | .called toolName ns argKeys => .called toolName ns argKeys
  | .ended toolName ns outcome truncated errorType error _ =>
    .ended toolName ns outcome truncated errorType error 0

/-- A record without its drawn ids and its latency. -/
def Record.steady (record : Record) : Record :=
  ⟨{ record.correlation with traceId := "", spanId := "" }, record.event.steady⟩

namespace Log

/-- Two logs on one disk that hold the same records, apart from drawn ids and latencies. -/
structure Alike (a b : Log) : Prop where
  enabled : a.enabled = b.enabled
  disk : a.disk = b.disk
  attempts : a.attempts = b.attempts
  records : a.records.map Record.steady = b.records.map Record.steady

theorem Alike.refl (log : Log) : log.Alike log := ⟨rfl, rfl, rfl, rfl⟩

variable {a b : Log} {record₁ record₂ : Record}

/-- Logs that are alike stay so when both are given a record that is the same but for its ids and
its latency. -/
theorem alike_write (h : a.Alike b) (hrecord : record₁.steady = record₂.steady) :
    (a.write record₁).1.Alike (b.write record₂).1 := by
  unfold write
  rw [← h.enabled, ← h.disk, ← h.attempts]
  by_cases hon : a.enabled = true
  · rw [if_pos hon, if_pos hon]
    cases a.disk a.attempts with
    | none =>
      refine ⟨rfl, rfl, rfl, ?_⟩
      show (a.records ++ [record₁]).map Record.steady = (b.records ++ [record₂]).map Record.steady
      rw [List.map_append, List.map_append, h.records, List.map_singleton, List.map_singleton,
        hrecord]
    | some fault => exact ⟨rfl, rfl, rfl, h.records⟩
  · rw [if_neg hon, if_neg hon]
    exact h

/-- Logs that are alike take a record with one outcome. -/
theorem write_outcome_eq (h : a.Alike b) : (a.write record₁).2 = (b.write record₂).2 := by
  unfold write
  rw [← h.enabled, ← h.disk, ← h.attempts]
  split
  · split <;> rfl
  · rfl

end Log

end Audit

/-! ## Spans -/

namespace Trace.Span

/-- The attributes of a span without the latency. -/
def steady (span : Trace.Span) : List (String × Trace.Attribute) :=
  span.attributes.filter fun a => a.1 != "latency_ms"

/-- A value that is not the latency can be dropped before the span ends or after. -/
theorem steady_finish (context : Trace.Context) (values : List (String × Json)) :
    (finish context values).steady =
      (finish context (values.filter fun value => value.1 != "latency_ms")).attributes := by
  have hkeep : ∀ value : String × Json,
      ((Attribute.ofJson? value.2).map (value.1, ·)).filter (fun a => a.1 != "latency_ms") =
        if value.1 != "latency_ms" then (Attribute.ofJson? value.2).map (value.1, ·) else none := by
    intro value
    cases Attribute.ofJson? value.2 with
    | none => simp
    | some a => rfl
  rw [steady, finish, finish, List.filter_filterMap, List.filterMap_filter]
  exact congrArg (values.filterMap ·) (funext hkeep)

end Trace.Span

namespace Gateway

/-! ## Responses that are alike -/

section

variable {response₁ response₂ : Tool.Response}

theorem status_of_alike (h : response₁.AlikeButLatency response₂) :
    response₁.status = response₂.status := by
  obtain ⟨-, -, houtcome⟩ := Tool.Response.alikeButLatency_iff.mp h
  rw [Tool.Response.status, Tool.Response.status, houtcome]

theorem failure?_of_alike (h : response₁.AlikeButLatency response₂) :
    response₁.failure? = response₂.failure? := by
  obtain ⟨-, -, houtcome⟩ := Tool.Response.alikeButLatency_iff.mp h
  rw [Tool.Response.failure?, Tool.Response.failure?, houtcome]

/-- Alike responses leave the same attributes, apart from the latency. -/
theorem steady_attributes (context₁ context₂ : Trace.Context) (found : Tool.Instrumentation)
    (ns : Option String) (h : response₁.AlikeButLatency response₂) :
    (Trace.Span.finish context₁ (attributes found ns response₁)).steady =
      (Trace.Span.finish context₂ (attributes found ns response₂)).steady := by
  have htruncated := (Tool.Response.alikeButLatency_iff.mp h).2.1
  rw [Trace.Span.steady_finish, Trace.Span.steady_finish, attributes, attributes, errorType,
    errorType, status_of_alike h, failure?_of_alike h, htruncated]
  rfl

/-- Alike responses leave the same event, apart from the latency. -/
theorem steady_endedEvent (ns : Option String) (h : response₁.AlikeButLatency response₂) :
    (endedEvent ns response₁).steady = (endedEvent ns response₂).steady := by
  obtain ⟨hname, htruncated, -⟩ := Tool.Response.alikeButLatency_iff.mp h
  rw [endedEvent, endedEvent, errorType, errorType, hname, htruncated, status_of_alike h,
    failure?_of_alike h]
  rfl

/-- Alike responses are counted alike. -/
theorem count_of_alike (registry : Tool.Registry) (metrics : Metrics)
    (h : response₁.AlikeButLatency response₂) :
    count registry response₁ metrics = count registry response₂ metrics := by
  obtain ⟨hname, htruncated, -⟩ := Tool.Response.alikeButLatency_iff.mp h
  rw [count, count, errorType, errorType, hname, htruncated, status_of_alike h, failure?_of_alike h]

end

/-- The records of one call under different ids are the same, apart from these. -/
theorem steady_record (context₁ context₂ : Trace.Context) (found : Tool.Instrumentation)
    {event₁ event₂ : Audit.Event} (h : event₁.steady = event₂.steady) :
    (Audit.Record.mk (correlation context₁ found) event₁).steady =
      (Audit.Record.mk (correlation context₂ found) event₂).steady := by
  rw [Audit.Record.steady, Audit.Record.steady, h]
  rfl

/-! ## Two runs -/

/-- Two calls that tell the same, apart from drawn ids and latencies: in the response, in the
attributes of the span, in whether the records could be written, in the records themselves, and in
the counts. -/
structure ToldAlike (x y : Underway Dispatched) : Prop where
  response : x.result.response.AlikeButLatency y.result.response
  attributes : x.result.span.steady = y.result.span.steady
  audit : x.result.audit = y.result.audit
  begun : x.begun.audit.Alike y.begun.audit
  done : x.done.audit.Alike y.done.audit
  metrics : x.done.metrics = y.done.metrics

variable {frame : Frame} {call : Tool.Call} {state₁ state₂ : State}

/-- Two calls that end alike are concluded alike. -/
theorem conclude_alike {frame : Frame} {context₁ context₂ : Trace.Context}
    {found : Tool.Instrumentation} {ns : Option String} {response₁ response₂ : Tool.Response}
    {accepted₁ accepted₂ : Except Audit.WriteFault Unit} {state₁ state₂ : State}
    (hresponse : response₁.AlikeButLatency response₂) (haccepted : accepted₁ = accepted₂)
    (haudit : state₁.audit.Alike state₂.audit) :
    (conclude frame context₁ found ns response₁ accepted₁ state₁).2.audit =
        (conclude frame context₂ found ns response₂ accepted₂ state₂).2.audit ∧
      (conclude frame context₁ found ns response₁ accepted₁ state₁).1.audit.Alike
        (conclude frame context₂ found ns response₂ accepted₂ state₂).1.audit := by
  have hrecord := steady_record context₁ context₂ found (steady_endedEvent ns hresponse)
  constructor
  · rw [haccepted]
    exact congrArg (firstFault accepted₂) (Audit.Log.write_outcome_eq haudit)
  · exact Audit.Log.alike_write haudit hrecord

variable {frame : Frame} {call : Tool.Call} {state₁ state₂ : State}

/-- **Two calls with one decision tell the same**, apart from drawn ids and latencies. -/
theorem toldAlike_of_value_eq {ambient₁ ambient₂ : Ambient}
    (haudit : state₁.audit.Alike state₂.audit) (hmetrics : state₁.metrics = state₂.metrics)
    (hvalue :
      (execute frame ambient₁ state₁.live state₁.connection
        (.ofCall state₁.live.tools.defaultTimeoutMs call)).value =
      (execute frame ambient₂ state₂.live state₂.connection
        (.ofCall state₂.live.tools.defaultTimeoutMs call)).value) :
    ToldAlike (dispatch frame ambient₁ call state₁) (dispatch frame ambient₂ call state₂) := by
  have hresponse : (dispatch frame ambient₁ call state₁).result.response.AlikeButLatency
      (dispatch frame ambient₂ call state₂).result.response := by
    rw [response_dispatch, response_dispatch, hvalue]
    exact respond_alike call.toolName ambient₁.latencyNanos ambient₂.latencyNanos _
  have hbegun : (dispatch frame ambient₁ call state₁).begun.audit.Alike
      (dispatch frame ambient₂ call state₂).begun.audit :=
    Audit.Log.alike_write haudit (steady_record _ _ _ rfl)
  obtain ⟨hwritten, hdone⟩ :=
    conclude_alike hresponse (Audit.Log.write_outcome_eq haudit) hbegun
  exact {
    response := hresponse
    attributes := steady_attributes _ _ _ _ hresponse
    audit := hwritten
    begun := hbegun
    done := hdone
    metrics := (count_of_alike frame.registry state₁.metrics hresponse).trans
      (congrArg _ hmetrics) }

/-- Two calls with one decision, made in one state with the same happening around them, tell the
same to the letter. -/
theorem told_of_value_eq {ambient : Ambient} {state : State}
    {connection₁ connection₂ : Cluster.Connection}
    (hvalue :
      (execute frame ambient state.live connection₁
        (.ofCall state.live.tools.defaultTimeoutMs call)).value =
      (execute frame ambient state.live connection₂
        (.ofCall state.live.tools.defaultTimeoutMs call)).value) :
    (dispatch frame ambient call { state with connection := connection₁ }).result =
        (dispatch frame ambient call { state with connection := connection₂ }).result ∧
      (dispatch frame ambient call { state with connection := connection₁ }).done.audit =
        (dispatch frame ambient call { state with connection := connection₂ }).done.audit := by
  simp only [dispatch, hvalue]
  exact ⟨rfl, rfl⟩

end Gateway

end GuardedGateway
