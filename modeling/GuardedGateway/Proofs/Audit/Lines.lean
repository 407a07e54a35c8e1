import GuardedGateway.Audit.Record
import GuardedGateway.Proofs.Json.OneLine
import GuardedGateway.Proofs.Tool.Outputs

/-!
# The audit log is read back

Names of tools, keys of arguments and texts of errors come from the caller, and all of them stand in
the audit log.  None of them can end a line or add a member to a record: the text of a record has no
newline (`Json.newline_not_mem_printed`), it is read back as the record's members
(`Json.read_text`), and their names are distinct (`Record.nodup_keys`), although they come from
three places: what every record has, the ids, and the event.

`Record.tells` tells what stands under each key, and `Record.ofJson?` reads a record by its keys, so
that a whole log can be cut at its newlines and read (`readLog`).
-/

namespace GuardedGateway

namespace Audit

open Json (Plain)

/-! ## Members that may be missing -/

section

variable (name : String) (value : Option String)

theorem get?_member? (key : String) :
    Fields.get? (member? name value) key = if name = key then value.map .str else none := by
  cases value <;> simp [member?, Fields.get?]

theorem keys_member?_sublist : (Fields.keys (member? name value)).Sublist [name] := by
  cases value with
  | none => exact List.nil_sublist _
  | some value => exact List.Sublist.refl _

theorem plain_member? (depth : Nat) : ∀ f ∈ member? name value, Plain depth f.2 := by
  cases value with
  | none => exact List.forall_mem_nil _
  | some value => exact List.forall_mem_singleton.mpr (.str depth value)

end

/-! ## Events -/

namespace Event

/-- The kind of error with which a call ended. -/
def errorType? : Event → Option String
  | .called .. => none
  | .ended _ _ _ _ errorType _ _ => errorType

/-- How long a call took that has ended. -/
def latency? : Event → Option Nat
  | .called .. => none
  | .ended _ _ _ _ _ _ latencyMs => some latencyMs

/-- A duration is a number of 64 bits. -/
def Timed (event : Event) : Prop :=
  ∀ latencyMs ∈ event.latency?, latencyMs < 2 ^ 64

/-- An event is an error when a call ended with one. -/
theorem level_eq (event : Event) :
    event.level = if event.errorType?.isSome then "ERROR" else "INFO" := by
  cases event with
  | called toolName ns argKeys => rfl
  | ended toolName ns outcome truncated errorType error latencyMs => cases errorType <;> rfl

/-- What an event says under a key. -/
def tells : Event → String → Option Json
  | .called toolName ns argKeys, key =>
    match key with
    | "event" => some (.str "tool_call")
    | "tool_name" => some (.str toolName)
    | "namespace" => ns.map .str
    | "arg_keys" => some (.ofStrings argKeys)
    | _ => none
  | .ended toolName ns outcome truncated errorType error latencyMs, key =>
    match key with
    | "event" => some (.str "tool_result")
    | "tool_name" => some (.str toolName)
    | "namespace" => ns.map .str
    | "outcome" => some (.str outcome)
    | "truncated" => some (.bool truncated)
    | "error_type" => errorType.map .str
    | "error" => error.map .str
    | "latency_ms" => some (.ofNat latencyMs)
    | _ => none

theorem tells_eq (event : Event) (key : String) : event.tells key = event.fields.get? key := by
  cases event with
  | called toolName ns argKeys =>
    simp only [fields, Fields.get?_append, get?_member?, Fields.get?]
    unfold tells
    dsimp only
    split <;> simp_all [eq_comm]
  | ended toolName ns outcome truncated errorType error latencyMs =>
    simp only [fields, Fields.get?_append, get?_member?, Fields.get?]
    unfold tells
    dsimp only
    split <;> simp_all [eq_comm]

/-- The names that the members of an event can have, in order. -/
def names : Event → List String
  | .called .. => ["event", "tool_name"] ++ ["namespace"] ++ ["arg_keys"]
  | .ended .. =>
    ["event", "tool_name"] ++ ["namespace"] ++ ["outcome", "truncated"] ++ ["error_type"] ++
      ["error"] ++ ["latency_ms"]

theorem keys_fields_sublist (event : Event) : event.fields.keys.Sublist event.names := by
  cases event with
  | called toolName ns argKeys =>
    simp only [fields, names, Fields.keys_append]
    exact ((List.Sublist.refl _).append (keys_member?_sublist _ _)).append (List.Sublist.refl _)
  | ended toolName ns outcome truncated errorType error latencyMs =>
    simp only [fields, names, Fields.keys_append]
    exact ((((((List.Sublist.refl _).append (keys_member?_sublist _ _)).append
      (List.Sublist.refl _)).append (keys_member?_sublist _ _)).append
      (keys_member?_sublist _ _)).append (List.Sublist.refl _))

theorem plain_fields {event : Event} (h : event.Timed) (depth : Nat) :
    ∀ f ∈ event.fields, Plain (depth + 1) f.2 := by
  cases event with
  | called toolName ns argKeys =>
    simp only [fields, List.forall_mem_append, List.forall_mem_cons]
    exact ⟨⟨⟨.str _ _, .str _ _, List.forall_mem_nil _⟩, plain_member? _ _ _⟩,
      Json.plain_ofStrings depth argKeys, List.forall_mem_nil _⟩
  | ended toolName ns outcome truncated errorType error latencyMs =>
    simp only [fields, List.forall_mem_append, List.forall_mem_cons]
    exact ⟨⟨⟨⟨⟨⟨.str _ _, .str _ _, List.forall_mem_nil _⟩, plain_member? _ _ _⟩, .str _ _,
      .bool _ _, List.forall_mem_nil _⟩, plain_member? _ _ _⟩, plain_member? _ _ _⟩,
      Json.plain_ofNat _ (h latencyMs rfl), List.forall_mem_nil _⟩

end Event

/-! ## Records -/

namespace Record

/-- What a record says under a key. -/
def tells (ts : String) (record : Record) (key : String) : Option Json :=
  match key with
  | "ts" => some (.str ts)
  | "level" => some (.str (if record.event.errorType?.isSome then "ERROR" else "INFO"))
  | "service" => some (.str "tool-gateway")
  | "component" => some (.str "tool-gateway")
  | "trace_id" => some (.str record.correlation.traceId)
  | "span_id" => some (.str record.correlation.spanId)
  | "session_id" => some (.str record.correlation.sessionId)
  | "agent_run_id" => some (.str record.correlation.agentRunId)
  | key => record.event.tells key

/-- The members of a record. -/
def members (ts : String) (record : Record) : Fields :=
  [("ts", .str ts), ("level", .str record.event.level), ("service", .str serviceName),
    ("component", .str serviceName), ("trace_id", .str record.correlation.traceId),
    ("span_id", .str record.correlation.spanId),
    ("session_id", .str record.correlation.sessionId),
    ("agent_run_id", .str record.correlation.agentRunId)] ++ record.event.fields

section

variable (ts : String) (record : Record)

theorem toJson_eq : record.toJson ts = .obj (record.members ts) := rfl

/-- What a record says is what stands in it. -/
theorem tells_eq (key : String) : record.tells ts key = (record.members ts).get? key := by
  rw [members, Fields.get?_append, ← Event.tells_eq, Event.level_eq, serviceName]
  unfold tells
  split
  case h_9 =>
    -- what not every record has is looked for in the event
    rw [Fields.get?_of_not_mem_keys (by simp_all [Fields.keys]), Option.none_or]
  all_goals rfl

/-- **No two members of a record have one name.** -/
theorem nodup_keys : (record.members ts).keys.Nodup := by
  have hnames : (["ts", "level", "service", "component", "trace_id", "span_id", "session_id",
      "agent_run_id"] ++ record.event.names).Nodup := by
    cases record.event <;> (simp only [Event.names]; decide)
  rw [members, Fields.keys_append]
  exact hnames.sublist ((List.Sublist.refl _).append record.event.keys_fields_sublist)

variable {record}

theorem plain_toJson (h : record.event.Timed) (depth : Nat) :
    Plain (depth + 2) (record.toJson ts) := by
  rw [toJson_eq]
  refine .obj (nodup_keys ts record) (List.forall_mem_append.mpr ⟨?ids, ?event⟩)
  case ids =>
    simp only [List.forall_mem_cons]
    exact ⟨.str _ _, .str _ _, .str _ _, .str _ _, .str _ _, .str _ _, .str _ _, .str _ _,
      List.forall_mem_nil _⟩
  case event => exact Event.plain_fields h depth

/-- The line of a record is its text and a newline. -/
theorem encode_eq : record.encode ts = Json.printed (record.toJson ts) ++ [10] := by
  have hnewline : Text.bytes "\n" = [10] := by decide
  rw [encode, line, Text.bytes_append, hnewline, Json.printed]

/-- **The text of a record is read back.** -/
theorem read_printed (h : record.event.Timed) :
    Json.read (Json.printed (record.toJson ts)) = .ok (record.toJson ts) :=
  Json.read_text (plain_toJson ts h 125)

end

end Record

/-! ## Reading a log -/

/-- The strings of a list. -/
def strings? : Json → Option (List String)
  | .arr items => items.mapM Json.text?
  | _ => none

/-- The value of a whole number that is not negative. -/
def nat? : Json → Option Nat
  | .num (.int (.ofNat n)) => some n
  | _ => none

/-- The value of a Boolean. -/
def bool? : Json → Option Bool
  | .bool b => some b
  | _ => none

theorem strings?_ofStrings (names : List String) : strings? (.ofStrings names) = some names := by
  show (names.map Json.str).mapM Json.text? = some names
  induction names with
  | nil => rfl
  | cons name rest ih =>
    rw [List.map_cons, List.mapM_cons, ih]
    rfl

/-- Reads an event by its keys. -/
def Event.ofJson? (v : Json) : Option Event := do
  let toolName ← v.field? "tool_name" >>= Json.text?
  let ns := v.field? "namespace" >>= Json.text?
  match v.field? "event" >>= Json.text? with
  | some "tool_call" => return .called toolName ns (← v.field? "arg_keys" >>= strings?)
  | some "tool_result" =>
    return .ended toolName ns (← v.field? "outcome" >>= Json.text?)
      (← v.field? "truncated" >>= bool?) (v.field? "error_type" >>= Json.text?)
      (v.field? "error" >>= Json.text?) (← v.field? "latency_ms" >>= nat?)
  | _ => none

/-- Reads a record by its keys, and when it was written. -/
def Record.ofJson? (v : Json) : Option (String × Record) := do
  let ts ← v.field? "ts" >>= Json.text?
  let traceId ← v.field? "trace_id" >>= Json.text?
  let spanId ← v.field? "span_id" >>= Json.text?
  let sessionId ← v.field? "session_id" >>= Json.text?
  let agentRunId ← v.field? "agent_run_id" >>= Json.text?
  return (ts, ⟨⟨traceId, spanId, sessionId, agentRunId⟩, ← Event.ofJson? v⟩)

/-- What a record says is found in it. -/
theorem Record.field?_toJson (ts : String) (record : Record) (key : String) :
    (record.toJson ts).field? key = record.tells ts key :=
  (tells_eq ts record key).symm

theorem text?_map (value : Option String) : (value.map Json.str).bind Json.text? = value := by
  cases value <;> rfl

theorem Event.ofJson?_toJson (ts : String) (correlation : Correlation) (event : Event) :
    Event.ofJson? ((Record.mk correlation event).toJson ts) = some event := by
  cases event with
  | called toolName ns argKeys =>
    simp [Event.ofJson?, Record.field?_toJson, Record.tells, Event.tells, text?_map,
      strings?_ofStrings, Json.text?]
  | ended toolName ns outcome truncated errorType error latencyMs =>
    simp [Event.ofJson?, Record.field?_toJson, Record.tells, Event.tells, text?_map, Json.text?,
      bool?, nat?, Json.ofNat]

/-- **A record is made again of what it says.** -/
theorem Record.ofJson?_toJson (ts : String) (record : Record) :
    Record.ofJson? (record.toJson ts) = some (ts, record) := by
  obtain ⟨⟨traceId, spanId, sessionId, agentRunId⟩, event⟩ := record
  simp [Record.ofJson?, Event.ofJson?_toJson, Record.field?_toJson, Record.tells, Json.text?]

/-- The bytes of a log with these records, each with the time at which it was written. -/
def logBytes (written : List (String × Record)) : Bytes :=
  written.flatMap fun entry => entry.2.encode entry.1

/-- Reads the records of a log, a line each; nothing is left behind the last newline. -/
def readLog (log : Bytes) : Option (List (String × Record)) :=
  (log.splitOn 10).dropLast.mapM fun line => (Json.read line).toOption.bind Record.ofJson?

section

variable {written : List (String × Record)} (h : ∀ entry ∈ written, entry.2.event.Timed)
include h

/-- **A log is cut at its newlines into the texts of its records.** -/
theorem splitOn_logBytes :
    (logBytes written).splitOn 10 =
      (written.map fun entry => Json.printed (entry.2.toJson entry.1)) ++ [[]] := by
  induction written with
  | nil => rfl
  | cons entry rest ih =>
    obtain ⟨hentry, hrest⟩ := List.forall_mem_cons.mp h
    have hline : 10 ∉ Json.printed (entry.2.toJson entry.1) :=
      Json.newline_not_mem_printed (Record.plain_toJson entry.1 hentry 0)
    rw [logBytes, List.flatMap_cons, Record.encode_eq, List.append_assoc, List.singleton_append,
      List.splitOn_append_cons_self_of_not_mem hline]
    exact congrArg _ (ih hrest)

theorem readLog_logBytes : readLog (logBytes written) = some written := by
  rw [readLog, splitOn_logBytes h, List.dropLast_concat]
  induction written with
  | nil => rfl
  | cons entry rest ih =>
    obtain ⟨hentry, hrest⟩ := List.forall_mem_cons.mp h
    rw [List.map_cons, List.mapM_cons, ih hrest, Record.read_printed entry.1 hentry]
    simp only [Except.toOption, Option.bind_some, Record.ofJson?_toJson]
    rfl

end

/-- **The lines of an audit log can be neither forged nor split.**  Whatever stands in its records,
the line of each is one JSON object with its newline at the end and nowhere else; the names of the
members are distinct, and under each stands what the record says.  A log that is cut at the newlines
is read back as the records that were written. -/
theorem log_reads_back (written : List (String × Record))
    (h : ∀ entry ∈ written, entry.2.event.Timed) :
    (∀ entry ∈ written, ∃ members : Fields,
      let body := Text.bytes (Json.obj members).text
      entry.2.encode entry.1 = body ++ [10] ∧ 10 ∉ body ∧ Json.read body = .ok (.obj members) ∧
        members.keys.Nodup ∧ ∀ key, members.get? key = entry.2.tells entry.1 key) ∧
    readLog (logBytes written) = some written := by
  refine ⟨fun entry hentry => ?line, readLog_logBytes h⟩
  case line =>
    obtain ⟨ts, record⟩ := entry
    have htimed : record.event.Timed := h (ts, record) hentry
    refine ⟨record.members ts, record.encode_eq ts, ?newline, Record.read_printed ts htimed,
      record.nodup_keys ts, fun key => (record.tells_eq ts key).symm⟩
    case newline => exact Json.newline_not_mem_printed (Record.plain_toJson ts htimed 0)

/-- A tool that is called like the end of a record and the beginning of another one, and a duration
that just fits. -/
theorem log_reads_back_forged :
    let forged := "\"\x7d\n\x7b\"level\":\"ERROR"
    let written : List (String × Record) :=
      [("t", ⟨⟨"\n", "", "s", ""⟩, .called forged none [forged]⟩),
        ("u", ⟨⟨"\n", "", "s", ""⟩, .ended forged (some "\\") "error" false (some "internal")
          (some forged) (2 ^ 64 - 1)⟩)]
    (∀ entry ∈ written, entry.2.event.Timed) ∧ readLog (logBytes written) = some written := by
  intro forged written
  have htimed : ∀ entry ∈ written, entry.2.event.Timed := by
    simp [written, Event.Timed, Event.latency?]
  exact ⟨htimed, (log_reads_back written htimed).2⟩

end Audit

end GuardedGateway
