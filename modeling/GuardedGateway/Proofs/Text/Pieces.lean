import GuardedGateway.Proofs.Text.Trimming
import GuardedGateway.Text.Pieces

/-!
# Pieces and what they are joined from

Cutting at a separator undoes joining with it, provided that no part has the separator in it
(`pieces_intercalate`), and joining undoes cutting (`intercalate_pieces`).  Two texts with a
separator between them have the pieces of both (`pieces_append_cons`).  What is written behind a
text, without a separator, belongs to its last piece (`pieces_append`).

Cutting at a word finds the first one (`cut_append`), and fails only if there is none
(`cut_eq_none_iff`).

A list of entries has none just when it holds nothing but commas and blanks
(`entries_eq_nil_iff`).
-/

namespace GuardedGateway.Text

variable {sep : Char}

/-- A text without the separator is one piece. -/
theorem pieces_of_not_mem {text : List Char} (h : sep ∉ text) : pieces sep text = [text] := by
  induction text with
  | nil => rfl
  | cons c rest ih =>
    obtain ⟨hc, hrest⟩ := not_or.mp (fun hor => h (List.mem_cons.mpr hor))
    rw [pieces, if_neg (fun heq => hc heq.symm), ih hrest]

/-- The pieces on either side of a separator are the pieces of what stands there. -/
theorem pieces_append_cons (sep : Char) (text rest : List Char) :
    pieces sep (text ++ sep :: rest) = pieces sep text ++ pieces sep rest := by
  induction text with
  | nil => exact pieces_cons_sep sep rest
  | cons c text ih =>
    rw [List.cons_append]
    by_cases hc : c = sep
    · rw [hc, pieces_cons_sep, pieces_cons_sep, ih, List.cons_append]
    · rw [pieces, if_neg hc, pieces, if_neg hc, ih]
      cases hpieces : pieces sep text with
      | nil => exact absurd hpieces (pieces_ne_nil sep text)
      | cons first more => rfl

/-- The first piece ends at the first separator. -/
theorem pieces_append_sep {first : List Char} (h : sep ∉ first) (rest : List Char) :
    pieces sep (first ++ sep :: rest) = first :: pieces sep rest := by
  rw [pieces_append_cons, pieces_of_not_mem h, List.singleton_append]

/-- What is written behind a text lengthens its last piece. -/
theorem pieces_append {text more last : List Char} {before : List (List Char)} (h : sep ∉ more)
    (hpieces : pieces sep text = before ++ [last]) :
    pieces sep (text ++ more) = before ++ [last ++ more] := by
  induction text generalizing before last with
  | nil =>
    cases before with
    | nil =>
      rw [← (List.cons.inj hpieces).1]
      exact pieces_of_not_mem h
    | cons first before => simp at hpieces
  | cons c rest ih =>
    rw [List.cons_append]
    by_cases hc : c = sep
    · rw [hc, pieces_cons_sep] at hpieces ⊢
      cases before with
      | nil => exact absurd (List.cons.inj hpieces).2 (pieces_ne_nil sep rest)
      | cons first before =>
        obtain ⟨rfl, hrest⟩ := List.cons.inj hpieces
        rw [ih hrest, List.cons_append]
    · rw [pieces, if_neg hc] at hpieces ⊢
      cases hcut : pieces sep rest with
      | nil => exact absurd hcut (pieces_ne_nil sep rest)
      | cons first others =>
        rw [hcut] at hpieces
        -- the first piece of the rest is the last one too, unless something stands before it
        cases before with
        | nil =>
          obtain ⟨hlast, rfl⟩ := List.cons.inj hpieces
          have hwhole : pieces sep rest = [] ++ [first] := hcut
          rw [ih hwhole, ← hlast]
          rfl
        | cons front before =>
          obtain ⟨hfront, rfl⟩ := List.cons.inj hpieces
          have hwhole : pieces sep rest = (first :: before) ++ [last] := hcut
          rw [ih hwhole, ← hfront]
          rfl

/-- No piece has the separator in it. -/
theorem not_mem_of_mem_pieces {text piece : List Char} (h : piece ∈ pieces sep text) :
    sep ∉ piece := by
  induction text generalizing piece with
  | nil =>
    rw [List.mem_singleton.mp h]
    exact List.not_mem_nil
  | cons c rest ih =>
    by_cases hc : c = sep
    · rw [hc, pieces_cons_sep] at h
      obtain rfl | hrest := List.mem_cons.mp h
      · exact List.not_mem_nil
      · exact ih hrest
    · rw [pieces, if_neg hc] at h
      cases hpieces : pieces sep rest with
      | nil => exact absurd hpieces (pieces_ne_nil sep rest)
      | cons first more =>
        rw [hpieces] at h ih
        obtain rfl | hmore := List.mem_cons.mp h
        · intro hmem
          obtain heq | hfirst := List.mem_cons.mp hmem
          · exact hc heq.symm
          · exact ih List.mem_cons_self hfirst
        · exact ih (List.mem_cons_of_mem first hmore)

/-- Cutting undoes joining. -/
theorem pieces_intercalate {parts : List (List Char)} (hne : parts ≠ [])
    (h : ∀ part ∈ parts, sep ∉ part) : pieces sep ([sep].intercalate parts) = parts := by
  induction parts with
  | nil => exact absurd rfl hne
  | cons first rest ih =>
    have hfirst := h first List.mem_cons_self
    cases rest with
    | nil =>
      rw [List.intercalate_singleton]
      exact pieces_of_not_mem hfirst
    | cons second rest =>
      rw [List.intercalate_cons_cons, List.append_assoc, List.singleton_append,
        pieces_append_sep hfirst,
        ih (List.cons_ne_nil _ _) fun part hpart => h part (List.mem_cons_of_mem first hpart)]

/-- Joining undoes cutting. -/
theorem intercalate_pieces (sep : Char) (text : List Char) :
    [sep].intercalate (pieces sep text) = text := by
  induction text with
  | nil => exact List.intercalate_singleton
  | cons c rest ih =>
    cases hpieces : pieces sep rest with
    | nil => exact absurd hpieces (pieces_ne_nil sep rest)
    | cons first more =>
      rw [hpieces] at ih
      by_cases hc : c = sep
      · rw [hc, pieces_cons_sep, hpieces, List.intercalate_cons_cons, ih]
        rfl
      · rw [pieces, if_neg hc, hpieces, ← ih]
        cases more with
        | nil => rw [List.intercalate_singleton, List.intercalate_singleton]
        | cons second more =>
          rw [List.intercalate_cons_cons, List.intercalate_cons_cons]
          rfl

/-! ## Pieces of a string -/

section

variable {word : String} (hword : word.toList = [sep])
include hword

/-- Joining undoes cutting. -/
theorem intercalate_split (s : String) : word.intercalate (split sep s) = s := by
  have hparts : (split sep s).map String.toList = pieces sep s.toList := by
    rw [split, List.map_map]
    exact (List.map_congr_left fun _ _ => String.toList_ofList).trans (List.map_id' _)
  rw [← String.toList_inj, String.toList_intercalate, hparts, hword]
  exact intercalate_pieces sep s.toList

/-- Cutting undoes joining. -/
theorem split_intercalate {parts : List String} (hne : parts ≠ [])
    (h : ∀ part ∈ parts, sep ∉ part.toList) : split sep (word.intercalate parts) = parts := by
  have hpieces : pieces sep ([sep].intercalate (parts.map String.toList)) =
      parts.map String.toList :=
    pieces_intercalate (fun hnil => hne (List.map_eq_nil_iff.mp hnil)) (List.forall_mem_map.mpr h)
  rw [split, String.toList_intercalate, hword, hpieces, List.map_map]
  exact (List.map_congr_left fun _ _ => String.ofList_toList).trans (List.map_id' _)

/-- There is one way to cut a text into pieces without separators that are joined to it again. -/
theorem eq_split_iff {s : String} {parts : List String} :
    parts = split sep s ↔
      parts ≠ [] ∧ (∀ part ∈ parts, sep ∉ part.toList) ∧ word.intercalate parts = s := by
  constructor
  · rintro rfl
    refine ⟨?_, fun part hpart => ?_, intercalate_split hword s⟩
    · rw [split, Ne, List.map_eq_nil_iff]
      exact pieces_ne_nil sep s.toList
    · obtain ⟨piece, hpiece, rfl⟩ := List.mem_map.mp hpart
      rw [String.toList_ofList]
      exact not_mem_of_mem_pieces hpiece
  · rintro ⟨hne, hparts, rfl⟩
    exact (split_intercalate hword hne hparts).symm

end

/-! ## Cutting at a word -/

/-- A text is cut at a word unless the word is not in it. -/
theorem cut_eq_none_iff {word text : List Char} : cut word text = none ↔ ¬ word <:+: text := by
  induction text with
  | nil =>
    rw [List.infix_nil]
    cases word <;> simp [cut]
  | cons c rest ih =>
    rw [List.infix_cons_iff, not_or, ← ih, ← List.isPrefixOf_iff_prefix, cut]
    split
    · rename_i hstarts
      simp [hstarts]
    · rename_i hstarts
      rw [Option.map_eq_none_iff, and_iff_right hstarts]

/-- A word is found where it stands, if its first character is not among what stands before it. -/
theorem cut_append {c : Char} {word before : List Char} (h : c ∉ before) (after : List Char) :
    cut (c :: word) (before ++ (c :: word ++ after)) = some (before, after) := by
  induction before with
  | nil =>
    have hstarts : (c :: word).isPrefixOf (c :: (word ++ after)) = true :=
      List.isPrefixOf_iff_prefix.mpr (List.prefix_append (c :: word) after)
    rw [List.nil_append, List.cons_append, cut, if_pos hstarts, List.length_cons,
      List.drop_succ_cons, List.drop_left]
  | cons d before ih =>
    obtain ⟨hd, hbefore⟩ := not_or.mp fun hor => h (List.mem_cons.mpr hor)
    have hstarts : ¬ (c :: word).isPrefixOf (d :: (before ++ (c :: word ++ after))) = true := by
      rw [List.isPrefixOf_iff_prefix, List.cons_prefix_cons]
      exact fun hor => hd hor.1
    rw [List.cons_append, cut, if_neg hstarts, ih hbefore, Option.map_some]

theorem splitOnce_ofList (word : String) (text : List Char) :
    splitOnce word (.ofList text) =
      (cut word.toList text).map fun sides => (.ofList sides.1, .ofList sides.2) := by
  rw [splitOnce, String.toList_ofList]

theorem splitOnce_eq_none {word : String} {text : List Char} (h : ¬ word.toList <:+: text) :
    splitOnce word (.ofList text) = none := by
  rw [splitOnce_ofList, cut_eq_none_iff.mpr h, Option.map_none]

theorem splitOnce_eq_some (word : String) {c : Char} {more before : List Char}
    (hword : word.toList = c :: more) (h : c ∉ before) (after : List Char) :
    splitOnce word (.ofList (before ++ (word.toList ++ after))) =
      some (.ofList before, .ofList after) := by
  rw [splitOnce_ofList, hword, cut_append h, Option.map_some]

/-! ## Lists of entries -/

/-- What holds of every character but the separators holds in every piece. -/
theorem forall_mem_pieces_iff {p : Char → Prop} {text : List Char} :
    (∀ piece ∈ pieces sep text, ∀ c ∈ piece, p c) ↔ ∀ c ∈ text, c = sep ∨ p c := by
  induction text with
  | nil => simp
  | cons c rest ih =>
    rw [List.forall_mem_cons, ← ih]
    by_cases hc : c = sep
    · rw [hc, pieces_cons_sep, List.forall_mem_cons, and_iff_right (List.forall_mem_nil p),
        and_iff_right (.inl rfl)]
    · rw [pieces, if_neg hc, or_iff_right hc]
      cases hpieces : pieces sep rest with
      | nil => exact absurd hpieces (pieces_ne_nil sep rest)
      | cons first more => simp only [List.forall_mem_cons, and_assoc]

/-- A list without entries holds nothing but commas and blanks. -/
theorem entries_eq_nil_iff {s : String} :
    entries s = [] ↔ ∀ c ∈ s.toList, c = ',' ∨ isBlank c = true := by
  rw [entries, List.map_eq_nil_iff, List.filter_eq_nil_iff, ← forall_mem_pieces_iff,
    List.forall_mem_map]
  refine forall₂_congr fun piece _ => ?_
  rw [← trimChars_eq_nil_iff, Bool.not_eq_true, Bool.not_eq_false', List.isEmpty_iff]

end GuardedGateway.Text
