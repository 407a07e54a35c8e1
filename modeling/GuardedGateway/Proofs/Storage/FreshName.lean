import GuardedGateway.Proofs.Storage.Places
import GuardedGateway.Storage.RotatingFile
import Mathlib.Data.List.Perm.Subperm

/-!
# A name that is free

The names under which a file may be moved aside are the path with some text behind it.  They are all
different (`candidate_injective`), and the text has no slash in it, so they all lead beside the path
and to different places (`place_candidate_injective`).

So every name that is taken leads to an entry of its own, and among one name more than there are
entries one is free (`exists_firstFree`).  This holds of any text to begin with.  What begins with
a path and a day asks for no directory, so it is a free place that a free name leads to
(`kindAt_of_locate_freeTarget`), and if the path leads to a file the place is another one in the
same directory (`kindAt_freeTarget`).
-/

namespace GuardedGateway.Storage

open Calendar (Date Moment)

/-! ## The candidates are all different -/

/-- Different numbers are written differently. -/
theorem toString_nat_injective {m n : Nat} (h : toString m = toString n) : m = n := by
  have hdigits : Nat.toDigits 10 m = Nat.toDigits 10 n := by
    have hlist := congrArg String.toList h
    rwa [Nat.toString_eq_repr, Nat.toString_eq_repr, Nat.toList_repr, Nat.toList_repr] at hlist
  calc
    m = Nat.ofDigitChars 10 (Nat.toDigits 10 m) 0 := Nat.ofDigitChars_ten_toDigits.symm
    _ = Nat.ofDigitChars 10 (Nat.toDigits 10 n) 0 := by rw [hdigits]
    _ = n := Nat.ofDigitChars_ten_toDigits

theorem length_candidate_one (target : String) (now : Moment) :
    (candidate target now 1).toList.length =
      target.toList.length + 1 + now.clockText.toList.length := by
  simp only [candidate, String.toList_append, List.length_append]
  rfl

theorem length_candidate_add_two (target : String) (now : Moment) (n : Nat) :
    (candidate target now (n + 2)).toList.length =
      target.toList.length + 1 + now.clockText.toList.length + 1 +
        (toString (n + 1)).toList.length := by
  simp only [candidate, String.toList_append, List.length_append]
  rfl

/-- **No candidate comes twice.** -/
theorem candidate_injective (target : String) (now : Moment) :
    Function.Injective (candidate target now) := by
  intro m n h
  have hlength := congrArg (fun name => name.toList.length) h
  have hzero : candidate target now 0 = target := rfl
  have hone := length_candidate_one target now
  have htwo := length_candidate_add_two target now
  -- one with a time is longer than the one without, and one with a number is longer still
  match m, n, h, hlength with
  | 0, 0, _, _ => rfl
  | 1, 1, _, _ => rfl
  | 0, 1, _, hlength =>
    rw [hone, hzero] at hlength
    omega
  | 1, 0, _, hlength =>
    rw [hone, hzero] at hlength
    omega
  | 0, n + 2, _, hlength =>
    rw [htwo, hzero] at hlength
    omega
  | m + 2, 0, _, hlength =>
    rw [htwo, hzero] at hlength
    omega
  | 1, n + 2, _, hlength =>
    rw [hone, htwo] at hlength
    omega
  | m + 2, 1, _, hlength =>
    rw [hone, htwo] at hlength
    omega
  | m + 2, n + 2, h, _ =>
    have hnumber := toString_nat_injective ((String.append_right_inj _).mp h)
    omega

/-! ## The candidates lead beside the path -/

/-- What stands behind the path in the name of the file of a day. -/
def dayMark (day : Date) : String := "." ++ day.text

theorem datedPath_eq (path : String) (day : Date) : datedPath path day = path ++ dayMark day :=
  String.append_assoc

/-- The text of a candidate goes behind what stands in front of it. -/
theorem candidate_append (path target : String) (now : Moment) (n : Nat) :
    candidate (path ++ target) now n = path ++ candidate target now n := by
  match n with
  | 0 => rfl
  | 1 => simp only [candidate, String.append_assoc]
  | n + 2 => simp only [candidate, String.append_assoc]

theorem slash_not_mem_toString (n : Nat) : '/' ∉ (toString n).toList := by
  intro h
  rw [Nat.toString_eq_repr, Nat.toList_repr] at h
  have hdigit := Nat.isDigit_of_mem_toDigits (by decide) (Nat.le_refl 10) h
  exact absurd hdigit (by decide)

/-- A number with zeros in front consists of digits. -/
theorem isDigit_of_mem_padded {width n : Nat} {c : Char} (h : c ∈ Text.padded width n) :
    c.isDigit = true := by
  obtain hzero | hdigit := List.mem_append.mp h
  · rw [List.eq_of_mem_replicate hzero]
    rfl
  · rw [Nat.toString_eq_repr, Nat.toList_repr] at hdigit
    exact Nat.isDigit_of_mem_toDigits (by decide) (Nat.le_refl 10) hdigit

theorem slash_not_mem_padded (width n : Nat) : '/' ∉ Text.padded width n := by
  intro h
  exact absurd (isDigit_of_mem_padded h) (by decide)

theorem slash_not_mem_yearText (year : Int) : '/' ∉ Date.yearText year := by
  unfold Date.yearText
  split
  · exact slash_not_mem_padded 4 _
  · intro h
    obtain heq | h := List.mem_cons.mp h
    · split at heq <;> exact absurd heq (by decide)
    · exact slash_not_mem_padded 4 _ h

theorem slash_not_mem_dayMark (day : Date) : '/' ∉ (dayMark day).toList := by
  simp [dayMark, Date.text, slash_not_mem_yearText, slash_not_mem_padded]

/-- The name of a time and of a number have no slash in them. -/
theorem slash_not_mem_candidate {target : String} (h : '/' ∉ target.toList) (now : Moment)
    (n : Nat) : '/' ∉ (candidate target now n).toList := by
  have hclock : '/' ∉ now.clockText.toList := by
    simp [Moment.clockText, slash_not_mem_padded]
  match n with
  | 0 => exact h
  | 1 => simp [candidate, h, hclock]
  | n + 2 =>
    have hnumber := slash_not_mem_toString (n + 1)
    simp only [candidate, String.toList_append, List.mem_append, not_or]
    exact ⟨⟨⟨⟨h, by decide⟩, hclock⟩, by decide⟩, hnumber⟩

theorem le_length_padded (width n : Nat) : width ≤ (Text.padded width n).length := by
  rw [Text.padded, List.length_append, List.length_replicate]
  omega

/-- With a time behind it, no name is as short as one or two points. -/
theorem two_lt_length_candidate_succ (target : String) (now : Moment) (n : Nat) :
    2 < (candidate target now (n + 1)).toList.length := by
  have hclock : 2 ≤ now.clockText.toList.length := by
    have hhour := le_length_padded 2 now.hour
    simp only [Moment.clockText, String.toList_ofList, List.length_append]
    omega
  match n with
  | 0 =>
    rw [length_candidate_one]
    omega
  | n + 1 =>
    rw [length_candidate_add_two]
    omega

theorem two_lt_length_candidate (day : Date) (now : Moment) (n : Nat) :
    2 < (candidate (dayMark day) now n).toList.length := by
  match n with
  | 0 =>
    have hpoint : ".".toList.length = 1 := by decide
    simp only [candidate, dayMark, Date.text, String.toList_append, String.toList_ofList,
      List.length_append, List.length_cons]
    omega
  | n + 1 => exact two_lt_length_candidate_succ (dayMark day) now n

/-! ## The candidates lead to different places -/

/-- A candidate is its target with text behind it. -/
theorem candidate_eq_append (target : String) (now : Moment) (n : Nat) :
    candidate target now n = target ++ candidate "" now n := by
  rw [← candidate_append, String.append_empty]

/-- **Different candidates lead to different places**, whatever text they are candidates for. -/
theorem place_candidate_injective (target : String) (now : Moment) :
    Function.Injective fun n => (Path.mk (candidate target now n)).place := by
  obtain ⟨here, last, happend⟩ := (Path.mk target).exists_place_append
  have hmark (n : Nat) :
      (Path.mk (candidate target now (n + 1))).place = here ++ [last ++ candidate "" now (n + 1)] ∧
        (Path.mk target).place ≠ here ++ [last ++ candidate "" now (n + 1)] := by
    rw [candidate_eq_append]
    exact (happend _ (slash_not_mem_candidate (by decide) now _)
      (two_lt_length_candidate_succ "" now n)).2
  intro m n h
  match m, n, h with
  | 0, 0, _ => rfl
  | 0, n + 1, h => exact absurd (h.trans (hmark n).1) (hmark n).2
  | m + 1, 0, h => exact absurd (h.symm.trans (hmark m).1) (hmark m).2
  | m + 1, n + 1, h =>
    simp only [(hmark _).1] at h
    have hname := (List.cons.inj (List.append_cancel_left h)).1
    exact candidate_injective "" now ((String.append_right_inj last).mp hname)

/-! ## One of them is free -/

namespace FileSystem

variable {fs : FileSystem} {path : Path} {parent : Place} {name : String}

/-- A path that leads to something leads to an entry. -/
theorem exists_of_isThere (h : fs.isThere path = true) :
    ∃ target, fs.locate path = .ok target ∧ (fs.kindAt target.place).isSome := by
  unfold isThere stat at h
  cases hlocate : fs.locate path with
  | error fault => simp [hlocate] at h
  | ok target =>
    refine ⟨target, rfl, ?_⟩
    rw [Option.isSome_iff_ne_none]
    intro hfree
    simp [hlocate, entry?_eq_none_iff.mpr hfree] at h

/-- A name that leads to nothing is free. -/
theorem kindAt_of_not_isThere {place : Place} (hlocate : fs.locate path = .ok ⟨place, false⟩)
    (h : fs.isThere path = false) : fs.kindAt place = none := by
  unfold isThere stat at h
  cases hentry : fs.entry? place with
  | none => exact entry?_eq_none_iff.mp hentry
  | some entry => cases entry <;> simp [hlocate, hentry] at h

/-- Among one candidate more than there are entries one is not taken. -/
theorem exists_firstFree (fs : FileSystem) (target : String) (now : Moment) :
    ∃ found, firstFree (fun name => fs.isThere ⟨name⟩) target now (fs.entries.length + 1) =
      some found := by
  rw [← Option.isSome_iff_exists, Option.isSome_iff_ne_none]
  intro hnone
  let place (n : Nat) : Place := (Path.mk (candidate target now n)).place
  have htaken : ∀ n < fs.entries.length + 1, place n ∈ fs.kinds.map Prod.fst := by
    intro n hn
    have hthere := List.find?_eq_none.mp hnone _ (List.mem_map_of_mem (List.mem_range.mpr hn))
    obtain ⟨found, hlocate, hsome⟩ := exists_of_isThere (by simpa using hthere)
    obtain ⟨kind, hkind⟩ := Option.isSome_iff_exists.mp hsome
    exact List.mem_map.mpr ⟨_, mem_kinds_of_kindAt hkind, place_of_locate hlocate⟩
  have hsub : (List.range (fs.entries.length + 1)).map place ⊆ fs.kinds.map Prod.fst := by
    intro p hp
    obtain ⟨n, hn, rfl⟩ := List.mem_map.mp hp
    exact htaken n (List.mem_range.mp hn)
  have hnodup : ((List.range (fs.entries.length + 1)).map place).Nodup :=
    List.nodup_range.map (place_candidate_injective target now)
  have hle := (List.subperm_of_subset hnodup hsub).length_le
  rw [List.length_map, List.length_range, List.length_map, kinds, List.length_map] at hle
  omega

/-- What a free name for a day leads to is free. -/
theorem kindAt_of_locate_freeTarget {other : String} {day : Date} {now : Moment} {target : Target}
    (htarget : fs.locate ⟨freeTarget fs (datedPath other day) now⟩ = .ok target) :
    fs.kindAt target.place = none := by
  obtain ⟨found, hfound⟩ := exists_firstFree fs (datedPath other day) now
  have hfree : freeTarget fs (datedPath other day) now = found := by
    rw [freeTarget, hfound, Option.getD_some]
  obtain ⟨hthere, n, -, hcandidate⟩ := exists_candidate_of_firstFree hfound
  rw [hfree] at htarget
  -- the name of a day names something at its end, and it asks for no directory
  have hslash := slash_not_mem_candidate (slash_not_mem_dayMark day) now n
  have hlong := two_lt_length_candidate day now n
  have htext : found = other ++ candidate (dayMark day) now n := by
    rw [← hcandidate, datedPath_eq, candidate_append]
  obtain ⟨here, last, happend⟩ := (Path.mk other).exists_place_append
  obtain ⟨hname, -⟩ | ⟨_, _, -, -, rfl⟩ := walk_of_locate htarget
  · rw [htext, (happend _ hslash hlong).1] at hname
    cases hname
  · have hunslashed : (Path.mk found).isSlashed = false := by
      rw [htext]
      exact (Path.mk other).isSlashed_append hslash (List.ne_nil_of_length_pos (by omega))
    rw [hunslashed] at htarget
    exact kindAt_of_not_isThere htarget hthere

/-- **A file is moved to a free place beside it**, if it is moved at all. -/
theorem kindAt_freeTarget (hpath : fs.locate path = .ok ⟨parent ++ [name], false⟩) (day : Date)
    (now : Moment) {target : Target}
    (htarget : fs.locate ⟨freeTarget fs (datedPath path.text day) now⟩ = .ok target) :
    (∃ longer, target.place = parent ++ [longer] ∧ longer ≠ name) ∧
      fs.kindAt target.place = none := by
  refine ⟨?_, kindAt_of_locate_freeTarget htarget⟩
  obtain ⟨found, hfound⟩ := exists_firstFree fs (datedPath path.text day) now
  have hfree : freeTarget fs (datedPath path.text day) now = found := by
    rw [freeTarget, hfound, Option.getD_some]
  obtain ⟨-, n, -, hcandidate⟩ := exists_candidate_of_firstFree hfound
  have hlong := two_lt_length_candidate day now n
  rw [hfree, ← hcandidate, datedPath_eq, candidate_append] at htarget
  obtain rfl := locate_append hpath (slash_not_mem_candidate (slash_not_mem_dayMark day) now n)
    hlong htarget
  refine ⟨_, rfl, fun heq => ?_⟩
  have hlength := congrArg (fun s => s.toList.length) heq
  simp only [String.toList_append, List.length_append] at hlength
  omega

end FileSystem

end GuardedGateway.Storage
