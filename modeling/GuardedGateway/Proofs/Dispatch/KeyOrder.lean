import GuardedGateway.Proofs.Isolation.Instrumentation
import Mathlib.Data.List.TakeWhile

/-!
# In which order the record of a call lists its arguments

The record of a call lists the keys of its arguments as they are once the reserved ones have been
taken out.  A caller who reads it will expect the order of the call.  But a removal puts the last
member into the place of the one that goes, so the order is kept in some calls and not in others,
and which of them depends on where the reserved keys stand.

## What stays in its place

Every removal makes the list of members shorter by one.  So a member that stands before all the
places that will be gone is never the last one, and is never moved: of `n` ordinary arguments those
among the first `n` places stay where they are (`getElem?_strip`), and only the others move, into
the places of reserved ones.

## When the order is kept

It is kept when the reserved keys stand at the end, or when only one ordinary key stands behind the
first of them (`strip_eq_filter`).  It is not kept when an ordinary key has a reserved one before it
and stays in its place.  So there are no two ordinary keys and no reserved one for which the order
would be kept wherever the reserved key stands (`exists_mixed_keys_ne`).
-/

namespace GuardedGateway

namespace Tool

/-! ## One removal -/

section

variable {key : String} {fields : Fields}

/-- A removal behind some members leaves these as they are. -/
theorem removeBySwap_append {before : Fields} (h : ∀ f ∈ before, f.1 ≠ key) (fields : Fields) :
    removeBySwap key (before ++ fields) = before ++ removeBySwap key fields := by
  induction before with
  | nil => rfl
  | cons f before ih =>
    obtain ⟨hf, hbefore⟩ := List.forall_mem_cons.mp h
    rw [List.cons_append, removeBySwap, if_neg hf, ih hbefore, List.cons_append]

/-- A removal takes away one member at most. -/
theorem length_le_removeBySwap (key : String) (fields : Fields) :
    fields.length ≤ (removeBySwap key fields).length + 1 := by
  induction fields with
  | nil => exact Nat.zero_le _
  | cons f rest ih =>
    rw [removeBySwap]
    split
    · cases hlast : rest.getLast? with
      | none =>
        rw [List.getLast?_eq_none_iff.mp hlast]
        exact le_rfl
      | some last =>
        rw [List.length_cons, List.length_cons, List.length_dropLast]
        omega
    · exact Nat.succ_le_succ ih

/-- A member that is not the last one stays in its place when another one goes. -/
theorem getElem?_removeBySwap {i : Nat} {f : String × Json} (hget : fields[i]? = some f)
    (hkey : f.1 ≠ key) (hi : i + 1 < fields.length) :
    (removeBySwap key fields)[i]? = some f := by
  induction fields generalizing i with
  | nil => exact absurd hi (Nat.not_lt_zero _)
  | cons g rest ih =>
    have hrest : i < rest.length := Nat.lt_of_succ_lt_succ hi
    rw [removeBySwap]
    cases i with
    | zero =>
      obtain rfl : g = f := Option.some.inj hget
      rw [if_neg hkey]
      rfl
    | succ j =>
      rw [List.getElem?_cons_succ] at hget
      split
      · obtain ⟨last, hlast⟩ := Option.isSome_iff_exists.mp
          (List.getLast?_isSome.mpr (List.ne_nil_of_length_pos (Nat.zero_lt_of_lt hrest)))
        have hplace : j < rest.length - 1 := Nat.lt_sub_of_add_lt hrest
        simp only [hlast, List.getElem?_cons_succ]
        rw [List.getElem?_dropLast, if_pos hplace, hget]
      · rw [List.getElem?_cons_succ]
        exact ih hget hrest

end

/-! ## All removals -/

/-- Removals behind some members leave these as they are. -/
theorem foldl_removeBySwap_append {keys : List String} {before : Fields}
    (h : ∀ key ∈ keys, ∀ f ∈ before, f.1 ≠ key) (fields : Fields) :
    keys.foldl (fun rest key => removeBySwap key rest) (before ++ fields) =
      before ++ keys.foldl (fun rest key => removeBySwap key rest) fields := by
  induction keys generalizing fields with
  | nil => rfl
  | cons key keys ih =>
    obtain ⟨hkey, hkeys⟩ := List.forall_mem_cons.mp h
    rw [List.foldl_cons, removeBySwap_append hkey, ih hkeys, List.foldl_cons]

/-- **A member stays in its place** as long as the places behind it are not used up. -/
theorem getElem?_foldl_removeBySwap {keys : List String} {fields : Fields} {i : Nat}
    {f : String × Json} (hget : fields[i]? = some f) (hkeys : f.1 ∉ keys)
    (hi : i + keys.length < fields.length) :
    (keys.foldl (fun rest key => removeBySwap key rest) fields)[i]? = some f := by
  induction keys generalizing fields with
  | nil => exact hget
  | cons key keys ih =>
    obtain ⟨hkey, hkeys⟩ := not_or.mp fun hor => hkeys (List.mem_cons.mpr hor)
    have hlength := length_le_removeBySwap key fields
    rw [List.length_cons] at hi
    have hnext : i + keys.length < (removeBySwap key fields).length := by omega
    exact ih (getElem?_removeBySwap hget hkey (by omega)) hkeys hnext

/-! ## Arguments -/

/-- Arguments are made of some ordinary and some reserved ones: these in their order, those in
theirs, mixed in whatever way. -/
structure Mixed (args ordinary reserved : Fields) : Prop where
  ordinary : args.filter (fun f => !isReserved f.1) = ordinary
  reserved : args.filter (fun f => isReserved f.1) = reserved

namespace Mixed

variable {args ordinary reserved : Fields} (h : Mixed args ordinary reserved)
include h

theorem perm : args.Perm (ordinary ++ reserved) := by
  have hboth := List.filter_append_perm (fun f : String × Json => !isReserved f.1) args
  simp only [Bool.not_not] at hboth
  rw [h.ordinary, h.reserved] at hboth
  exact hboth.symm

theorem nodup_keys (hkeys : (Fields.keys (ordinary ++ reserved)).Nodup) : args.keys.Nodup :=
  Fields.nodup_keys_of_perm h.perm hkeys

/-- The keys that are listed are those of the ordinary arguments, in some order. -/
theorem keys_strip_perm (hkeys : (Fields.keys (ordinary ++ reserved)).Nodup) :
    (Fields.keys (strip args)).Perm ordinary.keys := by
  rw [← h.ordinary]
  exact (strip_perm (h.nodup_keys hkeys)).map Prod.fst

/-- **Of `n` ordinary arguments those among the first `n` stay in their places.** -/
theorem getElem?_strip {i : Nat} {f : String × Json} (hget : args[i]? = some f)
    (hf : isReserved f.1 = false) (hi : i < ordinary.length) : (strip args)[i]? = some f := by
  have hkeys : f.1 ∉ args.keys.filter isReserved := by
    intro hmem
    rw [(List.mem_filter.mp hmem).2] at hf
    cases hf
  have hreserved : (args.keys.filter isReserved).length = reserved.length := by
    rw [Fields.keys, List.filter_map, List.length_map, ← h.reserved]
    rfl
  have hlength : args.length = ordinary.length + reserved.length := by
    rw [h.perm.length_eq, List.length_append]
  exact getElem?_foldl_removeBySwap hget hkeys (by omega)

/-- Without reserved arguments, or with one ordinary argument, there is no more than one to stand
behind a reserved one. -/
theorem length_behind_le_one (hfew : reserved = [] ∨ ordinary.length ≤ 1) :
    ((args.dropWhile fun f => !isReserved f.1).filter fun f => !isReserved f.1).length ≤ 1 := by
  rcases hfew with hnone | hone
  · have hall : ∀ f ∈ args, (!isReserved f.1) = true := by
      have hempty := h.reserved.trans hnone
      exact fun f hf => by simpa using List.filter_eq_nil_iff.mp hempty f hf
    rw [List.dropWhile_eq_nil_iff.mpr hall]
    exact Nat.zero_le 1
  · have hsublist : args.dropWhile (fun f => !isReserved f.1) |>.Sublist args :=
      List.dropWhile_sublist _
    have hlength := (hsublist.filter fun f => !isReserved f.1).length_le
    rw [h.ordinary] at hlength
    exact hlength.trans hone

end Mixed

/-- Arguments before the first reserved one stay as they are. -/
theorem strip_append {before : Fields} (h : ∀ f ∈ before, isReserved f.1 = false)
    (args : Fields) : strip (before ++ args) = before ++ strip args := by
  have hnone : (Fields.keys before).filter isReserved = [] := by
    refine List.filter_eq_nil_iff.mpr fun key hkey => ?_
    obtain ⟨f, hf, rfl⟩ := List.mem_map.mp hkey
    rw [h f hf]
    exact Bool.false_ne_true
  rw [strip, Fields.keys_append, List.filter_append, hnone, List.nil_append,
    foldl_removeBySwap_append, strip]
  rintro key hkey f hf rfl
  have hreserved := (List.mem_filter.mp hkey).2
  rw [h f hf] at hreserved
  cases hreserved

/-- Lists with the same members are equal if there is at most one. -/
theorem eq_of_perm_of_length_le_one {α : Type} {l m : List α} (h : l.Perm m)
    (hlength : m.length ≤ 1) : l = m := by
  match m with
  | [] => exact h.eq_nil
  | [a] => exact List.perm_singleton.mp h
  | _ :: _ :: _ => exact absurd hlength (by simp)

/-- **The order is kept** when at most one ordinary argument stands behind a reserved one. -/
theorem strip_eq_filter {args : Fields} (hkeys : args.keys.Nodup)
    (hbehind : ((args.dropWhile fun f => !isReserved f.1).filter
      fun f => !isReserved f.1).length ≤ 1) :
    strip args = args.filter fun f => !isReserved f.1 := by
  let ordinary : String × Json → Bool := fun f => !isReserved f.1
  have hsplit : args.takeWhile ordinary ++ args.dropWhile ordinary = args :=
    List.takeWhile_append_dropWhile
  have hbefore : ∀ f ∈ args.takeWhile ordinary, ordinary f = true :=
    fun f => List.mem_takeWhile_imp
  have hrest : (Fields.keys (args.dropWhile ordinary)).Nodup :=
    hkeys.sublist ((List.dropWhile_sublist ordinary).map Prod.fst)
  have hstrip : strip (args.dropWhile ordinary) = (args.dropWhile ordinary).filter ordinary :=
    eq_of_perm_of_length_le_one (strip_perm hrest) hbehind
  calc strip args = strip (args.takeWhile ordinary ++ args.dropWhile ordinary) := by rw [hsplit]
    _ = args.takeWhile ordinary ++ strip (args.dropWhile ordinary) :=
      strip_append (fun f hf => by simpa [ordinary] using hbefore f hf) _
    _ = (args.takeWhile ordinary).filter ordinary ++ (args.dropWhile ordinary).filter ordinary := by
      rw [hstrip, List.filter_eq_self.mpr hbefore]
    _ = args.filter ordinary := by rw [← List.filter_append, hsplit]

section

variable {ordinary : Fields} (hordinary : ∀ f ∈ ordinary, isReserved f.1 = false)
include hordinary

/-- The reserved arguments can stand around the ordinary ones. -/
theorem mixed_around {front back : Fields}
    (hreserved : ∀ f ∈ front ++ back, isReserved f.1 = true) :
    Mixed (front ++ (ordinary ++ back)) ordinary (front ++ back) := by
  obtain ⟨hfront, hback⟩ := List.forall_mem_append.mp hreserved
  have hno {l : Fields} (h : ∀ f ∈ l, isReserved f.1 = true) :
      l.filter (fun f => !isReserved f.1) = [] :=
    List.filter_eq_nil_iff.mpr fun f hf => by simp [h f hf]
  constructor
  · rw [List.filter_append, List.filter_append, hno hfront, hno hback, List.nil_append,
      List.append_nil]
    exact List.filter_eq_self.mpr fun f hf => by simp [hordinary f hf]
  · rw [List.filter_append, List.filter_append, List.filter_eq_self.mpr hfront,
      List.filter_eq_self.mpr hback,
      List.filter_eq_nil_iff.mpr fun f hf => by simp [hordinary f hf], List.nil_append]

/-- Two ordinary arguments and a reserved one can stand so that the order is lost: behind the
reserved one the first of the two stays in the second place. -/
theorem exists_mixed_keys_ne {reserved : Fields}
    (hreserved : ∀ f ∈ reserved, isReserved f.1 = true)
    (hkeys : (Fields.keys (ordinary ++ reserved)).Nodup) (hsome : reserved ≠ [])
    (htwo : 1 < ordinary.length) :
    ∃ args, Mixed args ordinary reserved ∧ Fields.keys (strip args) ≠ ordinary.keys := by
  obtain ⟨r, others, rfl⟩ := List.exists_cons_of_ne_nil hsome
  have hmixed : Mixed ([r] ++ (ordinary ++ others)) ordinary (r :: others) :=
    mixed_around hordinary hreserved
  match ordinary with
  | [] => exact absurd htwo (Nat.not_lt_zero 1)
  | [_] => exact absurd htwo (Nat.lt_irrefl 1)
  | first :: second :: more =>
    refine ⟨_, hmixed, fun heq => ?_⟩
    have hstays : (strip ([r] ++ (first :: second :: more ++ others)))[1]? = some first :=
      hmixed.getElem?_strip rfl (hordinary first List.mem_cons_self) htwo
    have hplace : some first.1 = some second.1 := by
      have hsecond := congrArg (fun keys => keys[1]?) heq
      rwa [Fields.keys, List.getElem?_map, hstays] at hsecond
    have hne := (List.nodup_cons.mp hkeys).1
    rw [Option.some.inj hplace] at hne
    exact hne List.mem_cons_self

end

end Tool

namespace Gateway

open Tool (isReserved Mixed)

/-- **The record of a call keeps the order of its arguments only in some calls.**  Take some
ordinary and some reserved arguments, and a log that takes the next record.  The keys that are
listed are the ordinary ones in the order of the call, wherever the reserved ones stand among them,
just when there are no reserved ones or at most one that is ordinary.

However they are mixed, the ordinary keys are listed, each once; of `n` those among the first `n`
places of the call are listed in their places; and the order is that of the call if at most one
ordinary key stands behind a reserved one. -/
theorem audited_in_order_iff (frame : Frame) (ambient : Ambient) {state : State}
    (hlog : state.audit.takesNext = true) (toolName : String) (timeoutMs : Nat)
    {ordinary reserved : Fields} (hordinary : ∀ f ∈ ordinary, isReserved f.1 = false)
    (hreserved : ∀ f ∈ reserved, isReserved f.1 = true)
    (hkeys : (Fields.keys (ordinary ++ reserved)).Nodup) :
    let listed (args : Fields) := auditedKeys frame ambient ⟨toolName, args, timeoutMs⟩ state
    ((∀ args, Mixed args ordinary reserved → listed args = [ordinary.keys]) ↔
      reserved = [] ∨ ordinary.length ≤ 1) ∧
    ∀ args, Mixed args ordinary reserved → ∃ keys, listed args = [keys] ∧
      keys.Perm ordinary.keys ∧
      (∀ i < ordinary.length, ∀ key, args.keys[i]? = some key → isReserved key = false →
        keys[i]? = some key) ∧
      (((args.dropWhile fun f => !isReserved f.1).filter fun f => !isReserved f.1).length ≤ 1 →
        keys = ordinary.keys) := by
  intro listed
  have hlisted (args : Fields) : listed args = [Fields.keys (Tool.strip args)] := by
    simp only [listed, auditedKeys_eq, hlog, if_true]
  have hkept {args : Fields} (h : Mixed args ordinary reserved)
      (hbehind : ((args.dropWhile fun f => !isReserved f.1).filter
        fun f => !isReserved f.1).length ≤ 1) :
      Fields.keys (Tool.strip args) = ordinary.keys := by
    rw [Tool.strip_eq_filter (h.nodup_keys hkeys) hbehind, h.ordinary]
  refine ⟨⟨fun hall => ?_, fun hfew args h => ?_⟩, fun args h => ?_⟩
  · by_contra hmany
    obtain ⟨hsome, htwo⟩ := not_or.mp hmany
    obtain ⟨args, h, hne⟩ := Tool.exists_mixed_keys_ne hordinary hreserved hkeys hsome
      (Nat.lt_of_not_le htwo)
    have heq := hall args h
    rw [hlisted] at heq
    exact hne (List.cons.inj heq).1
  · rw [hlisted, hkept h (h.length_behind_le_one hfew)]
  · refine ⟨_, hlisted args, h.keys_strip_perm hkeys, fun i hi key hkey hnot => ?_, hkept h⟩
    rw [Fields.keys, List.getElem?_map] at hkey ⊢
    obtain ⟨f, hget, rfl⟩ := Option.map_eq_some_iff.mp hkey
    rw [h.getElem?_strip hget hnot hi, Option.map_some]

/-- A caller describes a pod and says first which session it is in: the pod is listed before its
namespace.  With the pod alone no place of the session could do that. -/
theorem audited_in_order_iff_sessionFirst :
    let live := Settings.allowing "default"
    let frame := Frame.ofSettings .builtin live
    let ambient : Ambient := ⟨⟨1, 1⟩, 0, 0, 0⟩
    let state := State.fresh live (.now (.ok (.ofSnapshot ⟨[]⟩)))
    let ns : String × Json := ("namespace", .str "default")
    let pod : String × Json := ("pod_name", .str "web")
    let session : String × Json := ("__session_id", .str "s")
    let listed (args : Fields) := auditedKeys frame ambient ⟨"k8s.describe_pod", args, 0⟩ state
    state.audit.takesNext = true ∧ (∀ f ∈ [ns, pod], isReserved f.1 = false) ∧
      (∀ f ∈ [session], isReserved f.1 = true) ∧ (Fields.keys [ns, pod, session]).Nodup ∧
      listed [session, ns, pod] = [["pod_name", "namespace"]] ∧
      ¬ (∀ args, Mixed args [ns, pod] [session] → listed args = [["namespace", "pod_name"]]) ∧
      ∀ args, Mixed args [pod] [session] → listed args = [["pod_name"]] := by
  intro live frame ambient state ns pod session listed
  have hlog : state.audit.takesNext = true := rfl
  have hboth : ∀ f ∈ [ns, pod], isReserved f.1 = false := by decide
  have hpod : ∀ f ∈ [pod], isReserved f.1 = false := by decide
  have hsession : ∀ f ∈ [session], isReserved f.1 = true := by decide
  have hkeys : (Fields.keys [ns, pod, session]).Nodup := by decide
  obtain ⟨hmany, -⟩ :=
    audited_in_order_iff frame ambient hlog "k8s.describe_pod" 0 hboth hsession hkeys
  obtain ⟨hone, -⟩ :=
    audited_in_order_iff frame ambient hlog "k8s.describe_pod" 0 hpod hsession (by decide)
  refine ⟨hlog, hboth, hsession, hkeys, by decide +kernel, ?_, hone.mpr (.inr le_rfl)⟩
  exact fun hall => absurd (hmany.mp hall) (by simp)

end Gateway

end GuardedGateway
