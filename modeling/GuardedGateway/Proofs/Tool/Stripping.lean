import GuardedGateway.Proofs.Tool.Arguments
import Mathlib.Data.List.Basic

/-!
# Taking the instrumentation out in one walk

A request has its instrumentation read from the arguments and its reserved keys taken out of them.
Both can be done in one walk over the reserved keys, as they stood at the start: each member is read
when its turn comes, and then the last member takes its place.  By that time others have been taken
out, and the member itself may stand somewhere else.

`Extraction` is this walk.  A removal changes the places of members and never their values, so a
member that is still there is read as it was at the start (`get?_removeBySwap_of_ne`).  One step
carries that over to all steps (`foldl_takeOut`), and so the walk finds what was to be found and
leaves what the removals alone leave (`Extraction.run_eq`).

What is left is then told by its members, not by their places: `takes_out_exactly_the_reserved`.
-/

namespace GuardedGateway.Tool

/-- A key is reserved when it begins with two underscores. -/
theorem isReserved_iff {key : String} : isReserved key = true ↔ ∃ rest, key = "__" ++ rest := by
  rw [isReserved, List.isPrefixOf_iff_prefix]
  constructor
  · rintro ⟨rest, hrest⟩
    refine ⟨.ofList rest, ?_⟩
    have htext : (String.ofList rest).toList = rest := String.toList_ofList
    rw [← String.toList_inj, String.toList_append, htext]
    exact hrest.symm
  · rintro ⟨rest, rfl⟩
    rw [String.toList_append]
    exact List.prefix_append _ _

/-- Under every other key a removal leaves the value that was there. -/
theorem get?_removeBySwap_of_ne {fields : Fields} (h : fields.keys.Nodup) {key other : String}
    (hne : other ≠ key) : (removeBySwap key fields).get? other = fields.get? other := by
  refine Option.ext fun value => ?_
  rw [Fields.get?_eq_some_iff (nodup_keys_removeBySwap h key), Fields.get?_eq_some_iff h,
    (removeBySwap_perm h).mem_iff, List.mem_filter, and_iff_left (bne_iff_ne.mpr hne)]

/-! ## The walk -/

namespace Instrumentation

/-- Notes the text of a member that is taken out, if its key is one of the four that tell
something. -/
def note (found : Instrumentation) (key : String) (text : Option String) : Instrumentation where
  traceparent := if key = traceparentArg then text else found.traceparent
  tracestate := if key = tracestateArg then text else found.tracestate
  sessionId := if key = sessionIdArg then text else found.sessionId
  agentRunId := if key = agentRunIdArg then text else found.agentRunId

/-- After several notes a part of the instrumentation has the text under its own key, if that is
among the keys. -/
theorem part_foldl_note {part : Instrumentation → Option String} {name : String}
    (hpart : ∀ found key text, part (note found key text) = if key = name then text else part found)
    (text : String → Option String) (keys : List String) (found : Instrumentation) :
    part (keys.foldl (fun found key => found.note key (text key)) found) =
      if name ∈ keys then text name else part found := by
  induction keys generalizing found with
  | nil => rfl
  | cons key keys ih =>
    rw [List.foldl_cons, ih, hpart]
    by_cases hkey : key = name
    · simp [hkey]
    · simp [hkey, Ne.symm hkey]

/-- Noting every reserved member as it was at the start gives the instrumentation. -/
theorem foldl_note_eq_ofArgs (args : Fields) :
    (args.keys.filter isReserved).foldl
      (fun found key => found.note key (stringArg args key)) .absent = ofArgs args := by
  have hnamed (part : Instrumentation → Option String) (name : String)
      (hpart : ∀ found key text,
        part (note found key text) = if key = name then text else part found)
      (hname : isReserved name = true) (habsent : part .absent = none) :
      part ((args.keys.filter isReserved).foldl
        (fun found key => found.note key (stringArg args key)) .absent) = stringArg args name := by
    rw [part_foldl_note hpart, habsent]
    by_cases hmem : name ∈ args.keys
    · rw [if_pos (List.mem_filter.mpr ⟨hmem, hname⟩)]
    · rw [if_neg fun hfilter => hmem (List.mem_filter.mp hfilter).1, stringArg,
        Fields.get?_of_not_mem_keys hmem, Option.bind_none]
  rw [ofArgs, ← hnamed traceparent traceparentArg (fun _ _ _ => rfl) (by decide) rfl,
    ← hnamed tracestate tracestateArg (fun _ _ _ => rfl) (by decide) rfl,
    ← hnamed sessionId sessionIdArg (fun _ _ _ => rfl) (by decide) rfl,
    ← hnamed agentRunId agentRunIdArg (fun _ _ _ => rfl) (by decide) rfl]

end Instrumentation

/-- What has been found among the arguments, and what is left of them. -/
structure Extraction where
  found : Instrumentation
  rest : Fields

namespace Extraction

/-- Takes out the member with a key: it is read where it stands now, and then the last member takes
its place. -/
def takeOut (extraction : Extraction) (key : String) : Extraction where
  found := extraction.found.note key (stringArg extraction.rest key)
  rest := removeBySwap key extraction.rest

/-- Takes out the members with a reserved key, in the order in which they stood at the start. -/
def run (args : Fields) : Extraction :=
  (args.keys.filter isReserved).foldl takeOut ⟨.absent, args⟩

/-- **Each member is found as it was at the start**, whatever was taken out before it. -/
theorem foldl_takeOut {keys : List String} (hkeys : keys.Nodup) {extraction : Extraction}
    (hrest : extraction.rest.keys.Nodup) :
    keys.foldl takeOut extraction =
      ⟨keys.foldl (fun found key => found.note key (stringArg extraction.rest key))
        extraction.found,
      keys.foldl (fun rest key => removeBySwap key rest) extraction.rest⟩ := by
  induction keys generalizing extraction with
  | nil => rfl
  | cons key keys ih =>
    obtain ⟨hkey, hnodup⟩ := List.nodup_cons.mp hkeys
    have hstill (found : Instrumentation) (other : String) (hother : other ∈ keys) :
        found.note other (stringArg (extraction.takeOut key).rest other) =
          found.note other (stringArg extraction.rest other) := by
      have hne : other ≠ key := fun heq => hkey (heq ▸ hother)
      rw [stringArg, stringArg, takeOut, get?_removeBySwap_of_ne hrest hne]
    rw [List.foldl_cons, ih hnodup (nodup_keys_removeBySwap hrest key),
      List.foldl_ext _ _ _ hstill]
    rfl

/-- The walk finds the instrumentation of the arguments, and leaves what the removals leave. -/
theorem run_eq {args : Fields} (h : args.keys.Nodup) : run args = ⟨.ofArgs args, strip args⟩ := by
  rw [run, foldl_takeOut (h.filter _) h, Instrumentation.foldl_note_eq_ofArgs, strip]

end Extraction

/-! ## What is found and what is left -/

/-- What a reserved key tells: the text of its member, if that is a string and not empty. -/
def Tells (args : Fields) (key : String) (told : Option String) : Prop :=
  ∀ text, told = some text ↔ (key, .str text) ∈ args ∧ text ≠ ""

/-- Instrumentation is what four of the reserved keys tell. -/
structure Instrumentation.ToldBy (found : Instrumentation) (args : Fields) : Prop where
  traceparent : Tells args "__traceparent" found.traceparent
  tracestate : Tells args "__tracestate" found.tracestate
  sessionId : Tells args "__session_id" found.sessionId
  agentRunId : Tells args "__agent_run_id" found.agentRunId

section

variable {args : Fields} (h : args.keys.Nodup)
include h

theorem Instrumentation.toldBy_ofArgs : (ofArgs args).ToldBy args := by
  have htells (key : String) : Tells args key (stringArg args key) := by
    intro text
    rw [stringArg_eq_some_iff, Fields.get?_eq_some_iff h]
  exact ⟨htells _, htells _, htells _, htells _⟩

/-- Exactly the members with a reserved key are gone. -/
theorem mem_strip_iff {f : String × Json} :
    f ∈ strip args ↔ f ∈ args ∧ ¬ ∃ rest, f.1 = "__" ++ rest := by
  rw [(strip_perm h).mem_iff, List.mem_filter, ← isReserved_iff]
  simp

/-- What is looked up does not depend on the order of the members. -/
theorem get?_eq_of_perm {others : Fields} (hperm : others.Perm args) (key : String) :
    others.get? key = args.get? key := by
  have hothers := Fields.nodup_keys_of_perm hperm h
  refine Option.ext fun value => ?_
  rw [Fields.get?_eq_some_iff hothers, Fields.get?_eq_some_iff h, hperm.mem_iff]

theorem Instrumentation.ofArgs_eq_of_perm {others : Fields} (hperm : others.Perm args) :
    ofArgs others = ofArgs args := by
  have htext (key : String) : stringArg others key = stringArg args key := by
    rw [stringArg, stringArg, get?_eq_of_perm h hperm key]
  rw [ofArgs, ofArgs, htext, htext, htext, htext]

theorem get?_strip_eq_of_perm {others : Fields} (hperm : others.Perm args) (key : String) :
    (strip others).get? key = (strip args).get? key := by
  have hothers := Fields.nodup_keys_of_perm hperm h
  refine get?_eq_of_perm (nodup_keys_strip h) ?_ key
  exact (strip_perm hothers).trans ((hperm.filter _).trans (strip_perm h).symm)

/-- Where no key is reserved, there is nothing to take out. -/
theorem Extraction.run_strip : run (strip args) = ⟨.absent, strip args⟩ := by
  have hnone : (Fields.keys (strip args)).filter isReserved = [] := by
    refine List.filter_eq_nil_iff.mpr fun key hkey => ?_
    rw [not_isReserved_of_mem_keys_strip h hkey]
    exact Bool.false_ne_true
  rw [run, hnone, List.foldl_nil]

/-- **Stripping takes out exactly the reserved keys.**  Take arguments with distinct keys, in any
order.  One walk over the reserved keys finds what a request is told and leaves what it keeps: the
members whose keys do not begin with two underscores, each key once and with its own value.  What is
found is what the four known keys tell.  In another order of the arguments the same is found, and
the same is looked up in what is left; and there is nothing more to take out. -/
theorem takes_out_exactly_the_reserved :
    let walk := Extraction.run args
    walk = ⟨.ofArgs args, strip args⟩ ∧
    walk.rest.keys.Nodup ∧
    (∀ key value, (key, value) ∈ walk.rest ↔
      (key, value) ∈ args ∧ ¬ ∃ rest, key = "__" ++ rest) ∧
    walk.found.ToldBy args ∧
    (∀ others : Fields, others.Perm args →
      (Extraction.run others).found = walk.found ∧
      ∀ key, (Extraction.run others).rest.get? key = walk.rest.get? key) ∧
    Extraction.run walk.rest = ⟨.absent, walk.rest⟩ := by
  intro walk
  have hwalk : walk = ⟨.ofArgs args, strip args⟩ := Extraction.run_eq h
  rw [hwalk]
  refine ⟨rfl, nodup_keys_strip h, fun key value => mem_strip_iff h,
    Instrumentation.toldBy_ofArgs h, fun others hperm => ?_, Extraction.run_strip h⟩
  rw [Extraction.run_eq (Fields.nodup_keys_of_perm hperm h)]
  exact ⟨Instrumentation.ofArgs_eq_of_perm h hperm, get?_strip_eq_of_perm h hperm⟩

end

/-- Reserved keys between the others, one of them empty, one no string and one unknown: the members
that are left have changed places, and what they are called with has not. -/
theorem takes_out_exactly_the_reserved_scattered :
    let args : Fields := [("__session_id", .str "s"), ("namespace", .str "a"),
      ("__traceparent", .num (.int 1)), ("pod_name", .str "p"), ("__custom", .null),
      ("__agent_run_id", .str ""), ("container", .null)]
    let walk := Extraction.run args
    args.keys.Nodup ∧
      walk.found = ⟨none, none, some "s", none⟩ ∧
      walk.rest = [("container", .null), ("namespace", .str "a"), ("pod_name", .str "p")] ∧
      Extraction.run walk.rest = ⟨.absent, walk.rest⟩ := by
  intro args walk
  have hkeys : args.keys.Nodup := by decide
  obtain ⟨hwalk, -, -, -, -, hagain⟩ := takes_out_exactly_the_reserved hkeys
  refine ⟨hkeys, ?_, ?_, hagain⟩
  · rfl
  · rfl

end GuardedGateway.Tool
