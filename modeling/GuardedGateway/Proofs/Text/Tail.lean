import GuardedGateway.Proofs.Text.Pieces
import GuardedGateway.Text.Lines
import Mathlib.Data.List.Basic

/-!
# The end of a log, and what is kept of it

A line runs up to its newline, which belongs to it; only the last line of a text can go without.
`Lined` says what it is to cut a text into such lines; there is one way to do it, and `wholeLines`
does it (`lined_iff`).  Nothing is lost in the cut, so the end of a log is the last of these lines
as they stand (`lastLines`).

`tail` takes another way: it reads the lines without their endings and then writes newlines.  What
it writes is the end of the log with a plain newline in the place of every ending
(`tailChars_eq`), and so two things are lost:

* a carriage return before a newline, wherever it stands;
* a blank line that is all there is to keep.  No character of it is left when the newline is to be
  written back, and then none is written.

Neither loss is rare enough to be assumed away, and `tail_is_end_iff` says that there is no other.
-/

namespace GuardedGateway.Text

/-! ## Lines with their newlines -/

/-- The lines of a text, each with its newline. -/
def wholeLines : List Char → List (List Char)
  | [] => []
  | c :: rest =>
    if c = '\n' then ['\n'] :: wholeLines rest
    else
      match wholeLines rest with
      | [] => [[c]]
      | line :: more => (c :: line) :: more

/-- A text is cut into lines: each runs up to its newline, and the last one may have none. -/
inductive Lined : List Char → List (List Char) → Prop
  | nil : Lined [] []
  | unended {line : List Char} (hne : line ≠ []) (h : '\n' ∉ line) : Lined line [line]
  | cons {line text : List Char} {rest : List (List Char)} (h : '\n' ∉ line)
      (hrest : Lined text rest) : Lined (line ++ '\n' :: text) ((line ++ ['\n']) :: rest)

theorem lined_wholeLines (text : List Char) : Lined text (wholeLines text) := by
  induction text with
  | nil => exact .nil
  | cons c rest ih =>
    rw [wholeLines]
    by_cases hc : c = '\n'
    · rw [if_pos hc, hc]
      have hblank : Lined ([] ++ '\n' :: rest) (([] ++ ['\n']) :: wholeLines rest) :=
        .cons List.not_mem_nil ih
      exact hblank
    · rw [if_neg hc]
      -- a character that is no newline belongs to the first line of what follows, if there is one
      have hmem {line : List Char} (h : '\n' ∉ line) : '\n' ∉ c :: line := by
        rw [List.mem_cons, not_or]
        exact ⟨fun heq => hc heq.symm, h⟩
      generalize wholeLines rest = cut at ih
      cases ih with
      | nil => exact .unended (List.cons_ne_nil c []) (hmem List.not_mem_nil)
      | unended _ h => exact .unended (List.cons_ne_nil c rest) (hmem h)
      | cons h hrest => exact .cons (hmem h) hrest

theorem wholeLines_append_newline {line : List Char} (h : '\n' ∉ line) (text : List Char) :
    wholeLines (line ++ '\n' :: text) = (line ++ ['\n']) :: wholeLines text := by
  induction line with
  | nil => exact if_pos rfl
  | cons c line ih =>
    obtain ⟨hc, hline⟩ := not_or.mp (mt List.mem_cons.mpr h)
    rw [List.cons_append, wholeLines, if_neg fun heq => hc heq.symm, ih hline]
    rfl

/-- There is one way to cut a text into lines. -/
theorem lined_iff {text : List Char} {cut : List (List Char)} :
    Lined text cut ↔ cut = wholeLines text := by
  refine ⟨fun h => ?_, fun h => h ▸ lined_wholeLines text⟩
  induction h with
  | nil => rfl
  | @unended line hne h =>
    generalize hcut : wholeLines line = cut
    have hlined : Lined line cut := hcut ▸ lined_wholeLines line
    cases hlined with
    | nil => exact absurd rfl hne
    | unended _ _ => rfl
    | cons _ _ => exact absurd (List.mem_append_right _ List.mem_cons_self) h
  | cons h _ ih => rw [ih, wholeLines_append_newline h]

namespace Lined

variable {text : List Char} {cut : List (List Char)}

/-- Nothing is lost in the cut. -/
theorem flatten_eq (h : Lined text cut) : cut.flatten = text := by
  induction h with
  | nil => rfl
  | unended _ _ => exact List.append_nil _
  | cons _ _ ih => rw [List.flatten_cons, ih, List.append_assoc, List.singleton_append]

/-- The later lines of a text are the lines of what they make up. -/
theorem drop (h : Lined text cut) (k : Nat) : Lined (cut.drop k).flatten (cut.drop k) := by
  induction h generalizing k with
  | nil =>
    rw [List.drop_nil]
    exact .nil
  | unended hne h =>
    cases k with
    | zero => exact (flatten_eq (.unended hne h)).symm ▸ .unended hne h
    | succ k =>
      rw [List.drop_succ_cons, List.drop_nil]
      exact .nil
  | cons h hrest ih =>
    cases k with
    | zero => exact (flatten_eq (.cons h hrest)).symm ▸ .cons h hrest
    | succ k => exact ih k

/-- There is text wherever there are lines. -/
theorem text_ne_nil (h : Lined text cut) (hne : cut ≠ []) : text ≠ [] := by
  cases h with
  | nil => exact absurd rfl hne
  | unended htext _ => exact htext
  | cons _ _ => exact List.append_ne_nil_of_right_ne_nil _ (List.cons_ne_nil _ _)

end Lined

/-- The last `count` lines of a text, each with its newline. -/
def lastLines (count : Nat) (text : List Char) : List (List Char) :=
  (wholeLines text).drop ((wholeLines text).length - count)

theorem length_lastLines (count : Nat) (text : List Char) :
    (lastLines count text).length = min count (wholeLines text).length := by
  rw [lastLines, List.length_drop]
  omega

theorem lined_lastLines (count : Nat) (text : List Char) :
    Lined (lastLines count text).flatten (lastLines count text) :=
  (lined_wholeLines text).drop _

/-- The last lines are the end of the text. -/
theorem flatten_lastLines_suffix (count : Nat) (text : List Char) :
    (lastLines count text).flatten <:+ text := by
  refine ⟨((wholeLines text).take ((wholeLines text).length - count)).flatten, ?_⟩
  rw [lastLines, ← List.flatten_append, List.take_append_drop, (lined_wholeLines text).flatten_eq]

/-- As many lines as there are, or more, are the whole text. -/
theorem flatten_lastLines_of_le {count : Nat} {text : List Char}
    (h : (wholeLines text).length ≤ count) : (lastLines count text).flatten = text := by
  rw [lastLines, Nat.sub_eq_zero_of_le h, List.drop_zero, (lined_wholeLines text).flatten_eq]

/-! ## Lines without their endings -/

/-- A line without its ending, a carriage return before the newline included. -/
def withoutEnding (line : List Char) : List Char :=
  if line.getLast? = some '\n' then dropReturn line.dropLast else line

/-- A line with a newline alone for its ending. -/
def withPlainEnding (line : List Char) : List Char :=
  if line.getLast? = some '\n' then dropReturn line.dropLast ++ ['\n'] else line

section

variable {line : List Char}

theorem getLast?_ne_newline (h : '\n' ∉ line) : line.getLast? ≠ some '\n' :=
  fun hlast => h (List.mem_of_getLast? hlast)

theorem withoutEnding_of_not_mem (h : '\n' ∉ line) : withoutEnding line = line :=
  if_neg (getLast?_ne_newline h)

theorem withPlainEnding_of_not_mem (h : '\n' ∉ line) : withPlainEnding line = line :=
  if_neg (getLast?_ne_newline h)

@[simp] theorem withoutEnding_append_newline (line : List Char) :
    withoutEnding (line ++ ['\n']) = dropReturn line := by
  rw [withoutEnding, List.getLast?_concat, if_pos rfl, List.dropLast_concat]

@[simp] theorem withPlainEnding_append_newline (line : List Char) :
    withPlainEnding (line ++ ['\n']) = dropReturn line ++ ['\n'] := by
  rw [withPlainEnding, List.getLast?_concat, if_pos rfl, List.dropLast_concat]

end

namespace Lined

variable {text : List Char} {cut : List (List Char)}

/-- The lines that are read are the lines without their endings. -/
theorem lines_eq (h : Lined text cut) : lines text = cut.map withoutEnding := by
  induction h with
  | nil => rfl
  | @unended line hne h =>
    have hempty : line.isEmpty = false := List.isEmpty_eq_false_iff.mpr hne
    rw [lines, pieces_of_not_mem h, linesOfPieces, hempty, if_neg Bool.false_ne_true,
      List.map_singleton, withoutEnding_of_not_mem h]
  | @cons line text rest h _ ih =>
    rw [lines] at ih ⊢
    rw [pieces_append_sep h, List.map_cons, withoutEnding_append_newline, ← ih]
    cases hpieces : pieces '\n' text with
    | nil => exact absurd hpieces (pieces_ne_nil '\n' text)
    | cons first more => rfl

/-- What is written for the lines, and the newline at the end of the text, are the lines with plain
endings. -/
theorem joinLines_append (h : Lined text cut) :
    joinLines (cut.map withoutEnding) ++ (if text.getLast? = some '\n' then ['\n'] else []) =
      (cut.map withPlainEnding).flatten := by
  induction h with
  | nil => rfl
  | @unended line hne h =>
    rw [if_neg (getLast?_ne_newline h), List.map_singleton, List.map_singleton,
      withoutEnding_of_not_mem h, withPlainEnding_of_not_mem h, List.flatten_singleton, joinLines,
      List.append_nil]
  | @cons line text rest h hrest ih =>
    rw [List.map_cons, List.map_cons, withoutEnding_append_newline,
      withPlainEnding_append_newline, List.flatten_cons, ← ih]
    cases rest with
    | nil =>
      obtain rfl : text = [] := hrest.flatten_eq.symm
      rw [List.getLast?_concat, if_pos rfl]
      exact (List.append_nil _).symm
    | cons next more =>
      have hlast : (line ++ '\n' :: text).getLast? = text.getLast? := by
        rw [List.append_cons, List.getLast?_append_of_ne_nil _ (hrest.text_ne_nil (by simp))]
      rw [hlast, List.map_cons, joinLines, List.append_assoc, List.append_assoc]
      rfl

/-- Nothing is written for no lines, and for a blank line that stands alone. -/
theorem joinLines_eq_nil_iff (h : Lined text cut) :
    joinLines (cut.map withoutEnding) = [] ↔ cut = [] ∨ cut.map withPlainEnding = [['\n']] := by
  cases h with
  | nil => exact iff_of_true rfl (.inl rfl)
  | unended hne h =>
    rw [List.map_singleton, List.map_singleton, withoutEnding_of_not_mem h,
      withPlainEnding_of_not_mem h, joinLines]
    refine iff_of_false hne ?_
    rintro (hnil | hblank)
    · exact List.cons_ne_nil _ _ hnil
    · rw [List.singleton_inj.mp hblank] at h
      exact h List.mem_cons_self
  | @cons line text rest _ _ =>
    rw [List.map_cons, List.map_cons, withoutEnding_append_newline, withPlainEnding_append_newline]
    cases rest with
    | nil => simp [joinLines]
    | cons next more => simp [joinLines]

end Lined

/-- **What is kept is the end of the log with plain endings**, unless a blank line is all of it. -/
theorem tailChars_eq (count : Nat) (text : List Char) :
    tailChars count text =
      if (lastLines count text).map withPlainEnding = [['\n']] then []
      else ((lastLines count text).map withPlainEnding).flatten := by
  have hlined := lined_lastLines count text
  have hkept : joinLines ((lines text).drop ((lines text).length - count)) =
      joinLines ((lastLines count text).map withoutEnding) := by
    rw [(lined_wholeLines text).lines_eq, List.length_map, ← List.map_drop]
    rfl
  have hjoined := hlined.joinLines_append
  rw [tailChars, hkept]
  by_cases hnil : joinLines ((lastLines count text).map withoutEnding) = []
  · rw [hnil, if_neg fun h => h.2 rfl]
    obtain hnone | hblank := hlined.joinLines_eq_nil_iff.mp hnil
    · rw [hnone]
      rfl
    · rw [if_pos hblank]
  · have hsome := mt hlined.joinLines_eq_nil_iff.mpr hnil
    obtain ⟨hne, hblank⟩ := not_or.mp hsome
    -- the end of the log ends as the whole log does
    have hlast : text.getLast? = (lastLines count text).flatten.getLast? := by
      obtain ⟨front, hfront⟩ := flatten_lastLines_suffix count text
      conv_lhs => rw [← hfront]
      exact List.getLast?_append_of_ne_nil _ (hlined.text_ne_nil hne)
    rw [if_neg hblank, ← hjoined, hlast]
    by_cases hends : (lastLines count text).flatten.getLast? = some '\n'
    · rw [if_pos ⟨hends, hnil⟩, if_pos hends]
    · rw [if_neg fun h => hends h.1, if_neg hends, List.append_nil]

/-! ## What is lost -/

/-- A line ends with a carriage return and a newline. -/
def EndsWithReturn (line : List Char) : Prop := ['\r', '\n'] <:+ line

instance (line : List Char) : Decidable (EndsWithReturn line) :=
  inferInstanceAs (Decidable (_ <:+ _))

theorem withPlainEnding_of_endsWithReturn {line : List Char} (h : EndsWithReturn line) :
    (withPlainEnding line).length + 1 = line.length := by
  obtain ⟨body, rfl⟩ := h
  have hbody : body ++ ['\r', '\n'] = (body ++ ['\r']) ++ ['\n'] := by
    rw [List.append_assoc, List.singleton_append]
  rw [hbody, withPlainEnding_append_newline, dropReturn, List.getLast?_concat, if_pos rfl,
    List.dropLast_concat]
  simp

theorem withPlainEnding_of_not_endsWithReturn {line : List Char} (h : ¬ EndsWithReturn line) :
    withPlainEnding line = line := by
  rw [withPlainEnding]
  by_cases hends : line.getLast? = some '\n'
  · obtain ⟨body, rfl⟩ := List.getLast?_eq_some_iff.mp hends
    have hreturn : body.getLast? ≠ some '\r' := by
      intro hlast
      obtain ⟨front, rfl⟩ := List.getLast?_eq_some_iff.mp hlast
      exact h ⟨front, by rw [List.append_assoc, List.singleton_append]⟩
    rw [if_pos hends, List.dropLast_concat, dropReturn, if_neg hreturn]
  · rw [if_neg hends]

/-- Plain endings are shorter by one character for each return. -/
theorem length_flatten_withPlainEnding (cut : List (List Char)) :
    (cut.map withPlainEnding).flatten.length + cut.countP (fun line => EndsWithReturn line) =
      cut.flatten.length := by
  induction cut with
  | nil => rfl
  | cons line rest ih =>
    rw [List.map_cons, List.flatten_cons, List.flatten_cons, List.length_append,
      List.length_append, ← ih]
    by_cases h : EndsWithReturn line
    · rw [List.countP_cons_of_pos (by simpa using h), ← withPlainEnding_of_endsWithReturn h]
      omega
    · rw [List.countP_cons_of_neg (by simpa using h), withPlainEnding_of_not_endsWithReturn h]
      omega

theorem flatten_withPlainEnding_eq_iff (cut : List (List Char)) :
    (cut.map withPlainEnding).flatten = cut.flatten ↔ ∀ line ∈ cut, ¬ EndsWithReturn line := by
  constructor
  · intro heq
    have hlength := length_flatten_withPlainEnding cut
    rw [heq] at hlength
    have hcount : cut.countP (fun line => EndsWithReturn line) = 0 := by omega
    simpa using List.countP_eq_zero.mp hcount
  · intro h
    rw [List.map_congr_left fun line hline => withPlainEnding_of_not_endsWithReturn (h line hline),
      List.map_id']

/-- **What `tail` loses of the end of a log.**  The last `count` lines of a text, each with its
newline, are as many as there are up to `count`; together they are the end of the text, and all of
it when there are no more lines.  `tail` gives them with plain endings, or nothing in the place of a
blank line that stands alone.  So it gives the end of the text just when no line of it ends with a
carriage return and a newline and it is not a newline alone. -/
theorem tail_is_end_iff (count : Nat) (text : String) :
    let whole := wholeLines text.toList
    let last := lastLines count text.toList
    let plain := last.map withPlainEnding
    (∀ cut, Lined text.toList cut ↔ cut = whole) ∧ last <:+ whole ∧
      last.length = min count whole.length ∧ last.flatten <:+ text.toList ∧
      (whole.length ≤ count → last.flatten = text.toList) ∧
      (tail count text).toList = (if plain = [['\n']] then [] else plain.flatten) ∧
      ((tail count text).toList = last.flatten ↔
        last ≠ [['\n']] ∧ ∀ line ∈ last, ¬ EndsWithReturn line) := by
  intro whole last plain
  have hlined := lined_lastLines count text.toList
  have hplain : plain = last.map withPlainEnding := rfl
  have htail : (tail count text).toList = if plain = [['\n']] then [] else plain.flatten := by
    rw [tail, String.toList_ofList, tailChars_eq]
  refine ⟨fun cut => lined_iff, List.drop_suffix _ whole, length_lastLines count text.toList,
    flatten_lastLines_suffix count text.toList, flatten_lastLines_of_le, htail, ?_⟩
  rw [htail]
  by_cases hblank : plain = [['\n']]
  · -- the end of the log is a line, and nothing is given for it
    have hne : last ≠ [] := by
      rintro hnil
      rw [hplain, hnil] at hblank
      cases hblank
    rw [if_pos hblank]
    refine iff_of_false (hlined.text_ne_nil hne).symm ?_
    rintro ⟨hlast, hreturn⟩
    have hsame : plain = last := by
      rw [hplain, List.map_congr_left fun line hline =>
          withPlainEnding_of_not_endsWithReturn (hreturn line hline), List.map_id']
    exact hlast (hsame ▸ hblank)
  · have hlast : last ≠ [['\n']] := by
      rintro heq
      rw [hplain, heq] at hblank
      exact hblank rfl
    rw [if_neg hblank, and_iff_right hlast]
    exact flatten_withPlainEnding_eq_iff last

/-- There is nothing at the end of an empty log. -/
theorem tail_empty (count : Nat) : tail count "" = "" := by
  have hkept : joinLines ((lines []).drop ((lines []).length - count)) = [] := by
    rw [show lines [] = [] from rfl, List.drop_nil, joinLines]
  rw [tail, String.toList_empty, tailChars, hkept, if_neg fun h => h.2 rfl, String.ofList_nil]

/-- A blank line that stands alone and the returns of a log are lost. -/
example : tail 1 "a\n\n" = "" ∧ tail 2 "a\r\nb\r\n" = "a\nb\n" := by decide +kernel

end GuardedGateway.Text
