import GuardedGateway.Proofs.Json.Members
import GuardedGateway.Tool.Call
import Mathlib.Data.List.Perm.Basic

/-!
# What is left of the arguments

Taking the instrumentation out of the arguments removes members and adds none.  So whatever a
capability reads, the caller has sent, and an argument that was not sent is not found afterwards
(`stringArg_strip_of_not_mem`).

The keys of an object are distinct, and so are those of the arguments that a body spells
(`Call.nodup_keys_of_parse`).  Then exactly the members with a reserved key are gone, although the
others may have changed places (`strip_perm`).  An argument that is not reserved keeps its value
(`get?_strip`), and one that is reserved is not found any more (`get?_strip_of_isReserved`).
-/

namespace GuardedGateway

namespace Tool

/-- The arguments of a call that a body spells have distinct keys. -/
theorem Call.nodup_keys_of_parse {body : Bytes} {call : Call} (h : Call.parse body = .ok call) :
    call.args.keys.Nodup := by
  refine Json.Record.keeps_of_parse (p := fun call => call.args.keys.Nodup)
    ⟨List.nodup_nil, ?_⟩ h
  intro f hf depth call hcall
  have hany {α : Type} (reader : Json.Reader α) : reader.Gives fun _ => True :=
    fun _ _ _ _ => trivial
  simp only [Call.record, List.mem_cons, List.not_mem_nil, or_false] at hf
  obtain rfl | rfl | rfl := hf
  · exact Json.Field.optional_gives (hany _) fun _ _ => hcall
  · have hobject : (Json.Shape.object.read depth).Gives fun fields => fields.keys.Nodup :=
      Json.inObject_gives (fun depth => Json.fieldsOf_gives_nodup_keys (Json.value depth)) depth
    exact Json.Field.optional_gives hobject fun _ hargs => hargs
  · exact Json.Field.optional_gives (hany _) fun _ _ => hcall

/-! ## Taking out the reserved keys -/

/-- A removal leaves only members that were there. -/
theorem mem_of_mem_removeBySwap {key : String} {fields : Fields} {f : String × Json}
    (h : f ∈ removeBySwap key fields) : f ∈ fields := by
  induction fields with
  | nil => exact h
  | cons g rest ih =>
    rw [removeBySwap] at h
    by_cases hkey : g.1 = key
    · rw [if_pos hkey] at h
      cases hlast : rest.getLast? with
      | none =>
        rw [hlast] at h
        exact absurd h List.not_mem_nil
      | some last =>
        rw [hlast] at h
        refine List.mem_cons_of_mem g ?_
        obtain rfl | hdrop := List.mem_cons.mp h
        · exact List.mem_of_getLast? hlast
        · exact List.dropLast_subset rest hdrop
    · rw [if_neg hkey] at h
      obtain rfl | hrest := List.mem_cons.mp h
      · exact List.mem_cons_self
      · exact List.mem_cons_of_mem g (ih hrest)

/-- A removal takes away the member with the key, and may move another one. -/
theorem removeBySwap_perm {key : String} {fields : Fields} (h : fields.keys.Nodup) :
    (removeBySwap key fields).Perm (fields.filter fun f => f.1 != key) := by
  induction fields with
  | nil => exact .nil
  | cons f rest ih =>
    obtain ⟨hnot, hrest⟩ := List.nodup_cons.mp h
    rw [removeBySwap]
    by_cases hkey : f.1 = key
    · have hkept : rest.filter (fun g => g.1 != key) = rest :=
        List.filter_eq_self.mpr fun g hg =>
          bne_iff_ne.mpr fun heq => hnot (hkey.trans heq.symm ▸ List.mem_map_of_mem hg)
      rw [if_pos hkey, List.filter_cons_of_neg (by simp [hkey]), hkept]
      cases hlast : rest.getLast? with
      | none => rw [List.getLast?_eq_none_iff.mp hlast]
      | some last =>
        have hrest : rest.dropLast ++ [last] = rest := List.dropLast_append_getLast? last hlast
        exact (List.perm_append_singleton last rest.dropLast).symm.trans (.of_eq hrest)
    · rw [if_neg hkey, List.filter_cons_of_pos (by simp [hkey])]
      exact (ih hrest).cons f

theorem nodup_keys_removeBySwap {fields : Fields} (h : fields.keys.Nodup) (key : String) :
    (Fields.keys (removeBySwap key fields)).Nodup :=
  Fields.nodup_keys_of_perm (removeBySwap_perm h) (Fields.nodup_keys_filter h _)

/-- Removals one after the other take away the members with their keys. -/
theorem foldl_removeBySwap_perm (keys : List String) {fields : Fields} (h : fields.keys.Nodup) :
    (keys.foldl (fun rest key => removeBySwap key rest) fields).Perm
      (fields.filter fun f => !keys.contains f.1) := by
  induction keys generalizing fields with
  | nil => exact .of_eq (List.filter_eq_self.mpr fun _ _ => rfl).symm
  | cons key keys ih =>
    have hboth : (fields.filter fun f => f.1 != key).filter (fun f => !keys.contains f.1) =
        fields.filter fun f => !(key :: keys).contains f.1 := by
      rw [List.filter_filter]
      refine List.filter_congr fun f _ => ?_
      rw [List.contains_cons, Bool.not_or, Bool.and_comm]
      rfl
    exact (ih (nodup_keys_removeBySwap h key)).trans (hboth ▸ (removeBySwap_perm h).filter _)

/-- **Stripping** takes away the members with a reserved key, and may move others. -/
theorem strip_perm {args : Fields} (h : args.keys.Nodup) :
    (strip args).Perm (args.filter fun f => !isReserved f.1) := by
  have hreserved : ∀ f ∈ args,
      (!(args.keys.filter isReserved).contains f.1) = !isReserved f.1 := by
    intro f hf
    have hkey : f.1 ∈ args.keys := List.mem_map_of_mem hf
    congr 1
    rw [Bool.eq_iff_iff, List.contains_iff_mem, List.mem_filter, and_iff_right hkey]
  exact (foldl_removeBySwap_perm _ h).trans (.of_eq (List.filter_congr hreserved))

/-- The keys that are left are those that are not reserved. -/
theorem keys_strip_perm {args : Fields} (h : args.keys.Nodup) :
    (Fields.keys (strip args)).Perm (args.keys.filter fun key => !isReserved key) := by
  have hkeys : (args.filter fun f => !isReserved f.1).map Prod.fst =
      args.keys.filter fun key => !isReserved key := by
    rw [Fields.keys, List.filter_map]
    rfl
  exact hkeys ▸ (strip_perm h).map Prod.fst

/-- The last argument has taken the place of the reserved one. -/
example :
    Fields.keys (strip [("__session_id", .str "s"), ("namespace", .str "a"), ("pod_name", .null)]) =
      ["pod_name", "namespace"] := by
  decide

theorem nodup_keys_strip {args : Fields} (h : args.keys.Nodup) :
    (Fields.keys (strip args)).Nodup :=
  Fields.nodup_keys_of_perm (strip_perm h) (Fields.nodup_keys_filter h _)

/-- An argument that is not reserved keeps its value. -/
theorem get?_strip {args : Fields} (h : args.keys.Nodup) {key : String}
    (hkey : isReserved key = false) : (strip args).get? key = args.get? key := by
  refine Option.ext fun v => ?_
  rw [Fields.get?_eq_some_iff (nodup_keys_strip h), Fields.get?_eq_some_iff h,
    (strip_perm h).mem_iff, List.mem_filter, and_iff_left (by simp [hkey])]

theorem not_isReserved_of_mem_keys_strip {args : Fields} (h : args.keys.Nodup) {key : String}
    (hkey : key ∈ Fields.keys (strip args)) : isReserved key = false := by
  have hleft := (keys_strip_perm h).mem_iff.mp hkey
  simpa using (List.mem_filter.mp hleft).2

/-- An argument with a reserved key is not found any more. -/
theorem get?_strip_of_isReserved {args : Fields} (h : args.keys.Nodup) {key : String}
    (hkey : isReserved key = true) : (strip args).get? key = none := by
  refine Fields.get?_of_not_mem_keys fun hmem => ?_
  rw [not_isReserved_of_mem_keys_strip h hmem] at hkey
  cases hkey

/-- The arguments that are left were sent. -/
theorem mem_of_mem_strip {args : Fields} {f : String × Json} (h : f ∈ strip args) : f ∈ args := by
  have hfold : ∀ (keys : List String) (fields : Fields),
      f ∈ keys.foldl (fun rest key => removeBySwap key rest) fields → f ∈ fields := by
    intro keys
    induction keys with
    | nil => exact fun _ hf => hf
    | cons key keys ih => exact fun fields hf => mem_of_mem_removeBySwap (ih _ hf)
  exact hfold _ args h

/-- An argument that is not reserved keeps its text. -/
theorem stringArg_strip {args : Fields} (h : args.keys.Nodup) {key : String}
    (hkey : isReserved key = false) : stringArg (strip args) key = stringArg args key := by
  rw [stringArg, stringArg, get?_strip h hkey]

/-- An argument that was not sent is not found. -/
theorem stringArg_strip_of_not_mem {args : Fields} {key : String} (h : key ∉ args.keys) :
    stringArg (strip args) key = none := by
  have habsent : key ∉ Fields.keys (strip args) := by
    intro hkey
    obtain ⟨f, hf, hname⟩ := List.mem_map.mp hkey
    exact h (List.mem_map.mpr ⟨f, mem_of_mem_strip hf, hname⟩)
  rw [stringArg, Fields.get?_of_not_mem_keys habsent, Option.bind_none]

/-! ## Arguments that are strings -/

theorem stringArg_eq_some_iff {args : Fields} {key text : String} :
    stringArg args key = some text ↔ args.get? key = some (.str text) ∧ text ≠ "" := by
  have hvalue (v : Json) : v.nonEmptyText? = some text ↔ v = .str text ∧ text ≠ "" := by
    rw [Json.nonEmptyText?, Option.filter_eq_some_iff, bne_iff_ne]
    cases v <;> simp [Json.text?]
  rw [stringArg, Option.bind_eq_some_iff]
  constructor
  · rintro ⟨v, hget, hv⟩
    obtain ⟨rfl, hne⟩ := (hvalue v).mp hv
    exact ⟨hget, hne⟩
  · rintro ⟨hget, hne⟩
    exact ⟨_, hget, (hvalue _).mpr ⟨rfl, hne⟩⟩

/-- An argument that is absent, empty or not a string counts as none. -/
theorem stringArg_eq_none_iff {args : Fields} {key : String} :
    stringArg args key = none ↔ ∀ text, args.get? key = some (.str text) → text = "" := by
  rw [Option.eq_none_iff_forall_ne_some]
  refine forall_congr' fun text => ?_
  rw [ne_eq, stringArg_eq_some_iff, not_and, not_ne_iff]

end Tool

end GuardedGateway
