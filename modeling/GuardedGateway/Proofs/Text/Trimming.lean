import GuardedGateway.Text.Blank
import Mathlib.Data.List.TakeWhile

/-!
# What trimming leaves

A text is its core with blanks around it (`Padded`), and the core neither begins nor ends with a
blank (`Bare`); blanks inside it stay.  There is one such core, and trimming finds it
(`trimChars_eq_iff`), so nothing is left to trim the second time.
-/

namespace GuardedGateway.Text

/-- A text is a core with blanks around it. -/
def Padded (text core : List Char) : Prop :=
  ∃ before after, (∀ c ∈ before, isBlank c = true) ∧ (∀ c ∈ after, isBlank c = true) ∧
    text = before ++ (core ++ after)

/-- A text neither begins nor ends with a blank. -/
structure Bare (text : List Char) : Prop where
  first : ∀ c ∈ text.head?, isBlank c = false
  last : ∀ c ∈ text.getLast?, isBlank c = false

theorem padded_self (text : List Char) : Padded text text :=
  ⟨[], [], List.forall_mem_nil _, List.forall_mem_nil _, (List.append_nil text).symm⟩

/-- A text with nothing but blanks in it. -/
theorem padded_nil_iff {text : List Char} : Padded text [] ↔ ∀ c ∈ text, isBlank c = true := by
  constructor
  · rintro ⟨before, after, hbefore, hafter, rfl⟩
    exact List.forall_mem_append.mpr ⟨hbefore, hafter⟩
  · exact fun h => ⟨text, [], h, List.forall_mem_nil _, (List.append_nil text).symm⟩

/-! ## What is trimmed away -/

/-- Blanks are taken from the front as long as there are any. -/
theorem dropWhile_append_eq {before text : List Char} (hbefore : ∀ c ∈ before, isBlank c = true)
    (hfirst : ∀ c ∈ text.head?, isBlank c = false) :
    (before ++ text).dropWhile isBlank = text := by
  rw [List.dropWhile_append_of_pos hbefore]
  cases text with
  | nil => rfl
  | cons c rest => exact List.dropWhile_cons_of_neg (Bool.eq_false_iff.mp (hfirst c rfl))

theorem head?_dropWhile (text : List Char) :
    ∀ c ∈ (text.dropWhile isBlank).head?, isBlank c = false := by
  intro c hc
  have hnot := List.head?_dropWhile_not isBlank text
  rwa [Option.mem_def.mp hc] at hnot

/-- At the end only blanks are trimmed. -/
theorem exists_trimEnd_append (text : List Char) :
    ∃ after, (∀ c ∈ after, isBlank c = true) ∧ trimEnd text ++ after = text := by
  refine ⟨(text.reverse.takeWhile isBlank).reverse, fun c hc => ?_, ?_⟩
  · exact List.mem_takeWhile_imp (List.mem_reverse.mp hc)
  · rw [trimEnd, ← List.reverse_append, List.takeWhile_append_dropWhile, List.reverse_reverse]

/-- Only blanks are trimmed. -/
theorem padded_trimChars (text : List Char) : Padded text (trimChars text) := by
  obtain ⟨after, hafter, happend⟩ := exists_trimEnd_append (text.dropWhile isBlank)
  refine ⟨text.takeWhile isBlank, after, fun c => List.mem_takeWhile_imp, hafter, ?_⟩
  rw [trimChars, happend, List.takeWhile_append_dropWhile]

/-- No blank is left at an end. -/
theorem bare_trimChars (text : List Char) : Bare (trimChars text) := by
  constructor
  · intro c hc
    obtain ⟨after, -, happend⟩ := exists_trimEnd_append (text.dropWhile isBlank)
    have hhead : (trimEnd (text.dropWhile isBlank)).head? = some c := hc
    refine head?_dropWhile text c ?_
    rw [← happend, List.head?_append, hhead]
    rfl
  · intro c hc
    rw [trimChars, trimEnd, List.getLast?_reverse] at hc
    exact head?_dropWhile _ c hc

/-- **Trimming finds the core of a text**, and there is one. -/
theorem trimChars_eq_iff {text core : List Char} :
    trimChars text = core ↔ Padded text core ∧ Bare core := by
  constructor
  · rintro rfl
    exact ⟨padded_trimChars text, bare_trimChars text⟩
  · rintro ⟨⟨before, after, hbefore, hafter, rfl⟩, hbare⟩
    have hend : trimEnd (core ++ after) = core := by
      have hreverse : ∀ c ∈ core.reverse.head?, isBlank c = false := by
        rw [List.head?_reverse]
        exact hbare.last
      rw [trimEnd, List.reverse_append, dropWhile_append_eq _ hreverse, List.reverse_reverse]
      exact fun c hc => hafter c (List.mem_reverse.mp hc)
    rw [trimChars]
    cases core with
    | nil =>
      rw [List.nil_append, List.dropWhile_eq_nil_iff.mpr]
      · rfl
      · exact List.forall_mem_append.mpr ⟨hbefore, hafter⟩
    | cons c rest =>
      have hfirst : ∀ d ∈ (c :: rest ++ after).head?, isBlank d = false := hbare.first
      rw [dropWhile_append_eq hbefore hfirst, hend]

/-- A text is trimmed when there is no blank at its ends. -/
theorem trimChars_eq_self_iff {text : List Char} : trimChars text = text ↔ Bare text :=
  trimChars_eq_iff.trans (and_iff_right (padded_self text))

/-- A text without blanks stays as it is. -/
theorem trimChars_eq_self {text : List Char} (h : ∀ c ∈ text, isBlank c = false) :
    trimChars text = text :=
  trimChars_eq_self_iff.mpr
    ⟨fun c hc => h c (List.mem_of_mem_head? hc), fun c hc => h c (List.mem_of_mem_getLast? hc)⟩

/-- Nothing is left of a text just when it is blank. -/
theorem trimChars_eq_nil_iff {text : List Char} :
    trimChars text = [] ↔ ∀ c ∈ text, isBlank c = true := by
  have hbare : Bare [] := by
    constructor <;> intro c hc <;> cases hc
  rw [trimChars_eq_iff, padded_nil_iff, and_iff_left hbare]

/-! ## Words inside a text -/

/-- A character that is no blank is in a text only if it is in its core. -/
theorem notMem_of_padded {c : Char} (hc : isBlank c = false) {text core : List Char}
    (h : Padded text core) (hcore : c ∉ core) : c ∉ text := by
  have hblank {l : List Char} (hl : ∀ d ∈ l, isBlank d = true) : c ∉ l := by
    intro hmem
    rw [hl c hmem] at hc
    cases hc
  obtain ⟨before, after, hbefore, hafter, rfl⟩ := h
  simp only [List.mem_append, not_or]
  exact ⟨hblank hbefore, hcore, hblank hafter⟩

theorem trimChars_dropWhile (text : List Char) :
    trimChars (text.dropWhile isBlank) = trimChars text := by
  have hagain : (text.dropWhile isBlank).dropWhile isBlank = text.dropWhile isBlank :=
    dropWhile_append_eq (List.forall_mem_nil _) (head?_dropWhile text)
  rw [trimChars, hagain, trimChars]

theorem trimChars_trimEnd (text : List Char) : trimChars (trimEnd text) = trimChars text := by
  obtain ⟨after, hafter, happend⟩ := exists_trimEnd_append text
  obtain ⟨left, right, hleft, hright, hcore⟩ := padded_trimChars (trimEnd text)
  refine (trimChars_eq_iff.mpr ⟨?_, bare_trimChars _⟩).symm
  refine ⟨left, right ++ after, hleft, List.forall_mem_append.mpr ⟨hright, hafter⟩, ?_⟩
  rw [← List.append_assoc (trimChars _), ← List.append_assoc, ← hcore, happend]

/-- A word inside a text stops the trimming: what stands before it is trimmed at its beginning
alone, and what stands behind it at its end. -/
theorem exists_trimChars_around {word : List Char} (hne : word ≠ []) (hword : Bare word)
    (left right : List Char) :
    ∃ before after, trimChars (left ++ (word ++ right)) = before ++ (word ++ after) ∧
      trimChars before = trimChars left ∧ trimChars after = trimChars right ∧
      before ⊆ left ∧ after ⊆ right := by
  obtain ⟨blanks, hblanks, happend⟩ := exists_trimEnd_append right
  refine ⟨left.dropWhile isBlank, trimEnd right, trimChars_eq_iff.mpr ⟨?_, ?_, ?_⟩,
    trimChars_dropWhile left, trimChars_trimEnd right, List.dropWhile_subset _, ?_⟩
  · refine ⟨left.takeWhile isBlank, blanks, fun c => List.mem_takeWhile_imp, hblanks, ?_⟩
    rw [List.append_assoc, List.append_assoc, happend, ← List.append_assoc (left.takeWhile _),
      List.takeWhile_append_dropWhile]
  · intro c hc
    rw [List.head?_append, List.head?_append, Option.mem_def, Option.or_eq_some_iff] at hc
    rcases hc with hbefore | ⟨-, hrest⟩
    · exact head?_dropWhile left c hbefore
    · rw [Option.or_of_isSome (List.isSome_head?.mpr hne)] at hrest
      exact hword.first c hrest
  · intro c hc
    rw [List.getLast?_append, List.getLast?_append, Option.or_assoc, Option.mem_def,
      Option.or_eq_some_iff] at hc
    rcases hc with hafter | ⟨-, hrest⟩
    · rw [trimEnd, List.getLast?_reverse] at hafter
      exact head?_dropWhile _ c hafter
    · rw [Option.or_of_isSome (List.getLast?_isSome.mpr hne)] at hrest
      exact hword.last c hrest
  · exact fun c hc => happend ▸ List.mem_append_left blanks hc

/-! ## Strings -/

theorem trim_ofList (text : List Char) : trim (.ofList text) = .ofList (trimChars text) := by
  rw [trim, String.toList_ofList]

theorem trim_eq_iff {text core : String} :
    trim text = core ↔ Padded text.toList core.toList ∧ Bare core.toList := by
  rw [← String.toList_inj, toList_trim, trimChars_eq_iff]

theorem padded_trim (text : String) : Padded text.toList (trim text).toList :=
  (trim_eq_iff.mp rfl).1

theorem trim_eq_self_iff {text : String} : trim text = text ↔ Bare text.toList :=
  trim_eq_iff.trans (and_iff_right (padded_self text.toList))

/-- There is nothing left to trim the second time. -/
theorem trim_trim (text : String) : trim (trim text) = trim text :=
  trim_eq_self_iff.mpr (trim_eq_iff.mp rfl).2

end GuardedGateway.Text
