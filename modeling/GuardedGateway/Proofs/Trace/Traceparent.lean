import GuardedGateway.Proofs.Text.Pieces
import GuardedGateway.Trace.Context
import Mathlib.Algebra.Group.Nat.Defs
import Mathlib.Tactic.SplitIfs

/-!
# What a traceparent is

A `traceparent` is four parts between hyphens, with blanks around them at most: the version, the two
ids and the flags.  `Parent.SpelledBy` says so about the text as a whole, without cutting it, and
`Parent.parse?_eq_some_iff` says that exactly these texts are accepted, and what is read from them.

An id is so many lower-case hexadecimal digits, not all of them zero (`IsIdOf`).  The digits of a
drawn number have a fixed width, so leading zeros are written, and the number is at least one, so
they are never all zero: every draw gives an id (`isIdOf_newId`).
-/

namespace GuardedGateway

/-! ## Digits -/

namespace Text

/-- A lower-case hexadecimal digit. -/
def IsHexDigit (c : Char) : Prop :=
  ('0' ≤ c ∧ c ≤ '9') ∨ ('a' ≤ c ∧ c ≤ 'f')

/-- The digits are the characters that have a value. -/
theorem isSome_hexDigitValue?_iff {c : Char} :
    (hexDigitValue? c).isSome = true ↔ IsHexDigit c := by
  unfold hexDigitValue? IsHexDigit
  split_ifs with hdecimal hletter
  · exact iff_of_true rfl (.inl hdecimal)
  · exact iff_of_true rfl (.inr hletter)
  · exact iff_of_false Bool.false_ne_true (not_or.mpr ⟨hdecimal, hletter⟩)

theorem isHexDigit_iff_toNat {c : Char} :
    IsHexDigit c ↔ (48 ≤ c.toNat ∧ c.toNat ≤ 57) ∨ (97 ≤ c.toNat ∧ c.toNat ≤ 102) :=
  or_congr (and_congr UInt32.le_iff_toNat_le UInt32.le_iff_toNat_le)
    (and_congr UInt32.le_iff_toNat_le UInt32.le_iff_toNat_le)

section

variable {c : Char} (h : IsHexDigit c)
include h

theorem IsHexDigit.toNat_bounds :
    (48 ≤ c.toNat ∧ c.toNat ≤ 57) ∨ (97 ≤ c.toNat ∧ c.toNat ≤ 102) :=
  isHexDigit_iff_toNat.mp h

theorem IsHexDigit.ne_hyphen : c ≠ '-' := by
  rintro rfl
  have hbounds : (48 ≤ 45 ∧ 45 ≤ 57) ∨ (97 ≤ 45 ∧ 45 ≤ 102) := h.toNat_bounds
  omega

theorem IsHexDigit.not_blank : isBlank c = false := by
  have hbounds := h.toNat_bounds
  simp only [isBlank, Bool.or_eq_false_iff, Bool.and_eq_false_iff, decide_eq_false_iff_not,
    beq_eq_false_iff_ne]
  omega

end

theorem isHexDigit_hexDigit {n : Nat} (h : n < 16) : IsHexDigit (hexDigit n) := by
  rw [← isSome_hexDigitValue?_iff, hexDigitValue?_hexDigit h]
  rfl

/-- Numbers are written with digits. -/
theorem isHexDigit_of_mem_hexPadded {width n : Nat} {c : Char} (h : c ∈ hexPadded width n) :
    IsHexDigit c := by
  induction width generalizing n with
  | zero => exact absurd h List.not_mem_nil
  | succ width ih =>
    rw [hexPadded, List.mem_append, List.mem_singleton] at h
    obtain hmem | rfl := h
    · exact ih hmem
    · exact isHexDigit_hexDigit (Nat.mod_lt n (by decide))

/-- Only zero is written with zeros alone, when the number fits into the width. -/
theorem eq_zero_of_hexPadded {width n : Nat} (hfits : n < 16 ^ width)
    (h : ∀ c ∈ hexPadded width n, c = '0') : n = 0 := by
  induction width generalizing n with
  | zero => exact Nat.lt_one_iff.mp hfits
  | succ width ih =>
    rw [hexPadded, List.forall_mem_append, List.forall_mem_singleton] at h
    obtain ⟨hfirst, hlast⟩ := h
    have hhigh : n / 16 = 0 := by
      refine ih ?_ hfirst
      rw [Nat.pow_succ] at hfits
      omega
    have hlow : n % 16 = 0 := by
      have hvalue := hexDigitValue?_hexDigit (Nat.mod_lt n (by decide : 16 > 0))
      rw [hlast] at hvalue
      exact (Option.some.inj hvalue).symm
    omega

end Text

namespace Trace

open Text (IsHexDigit)

/-! ## Ids -/

/-- An id of `width` lower-case hexadecimal digits that are not all zero. -/
structure IsIdOf (width : Nat) (id : String) : Prop where
  length : id.toList.length = width
  digits : ∀ c ∈ id.toList, IsHexDigit c
  nonzero : ∃ c ∈ id.toList, c ≠ '0'

theorem isHex_iff {width : Nat} {text : List Char} :
    isHex width text = true ↔ text.length = width ∧ ∀ c ∈ text, IsHexDigit c := by
  simp only [isHex, Bool.and_eq_true, beq_iff_eq, List.all_eq_true, Text.isSome_hexDigitValue?_iff]

theorem isId_iff {width : Nat} {text : List Char} :
    isId width text = true ↔ IsIdOf width (.ofList text) := by
  have hnonzero : (!text.all (· == '0')) = true ↔ ∃ c ∈ text, c ≠ '0' := by
    simp
  rw [isId, Bool.and_eq_true, isHex_iff, hnonzero]
  constructor
  · rintro ⟨⟨hlength, hdigits⟩, hne⟩
    constructor <;> rwa [String.toList_ofList]
  · rintro ⟨hlength, hdigits, hne⟩
    rw [String.toList_ofList] at hlength hdigits hne
    exact ⟨⟨hlength, hdigits⟩, hne⟩

/-- **Every draw gives an id**, also one of few digits and the draw of zero. -/
theorem isIdOf_newId {width : Nat} (hwidth : width ≠ 0) (draw : Nat) :
    IsIdOf width (newId width draw) := by
  have hfits : max (draw % Nat.pow 16 width) 1 < 16 ^ width := by
    refine max_lt (Nat.mod_lt _ (Nat.pow_pos (by decide))) ?_
    exact Nat.one_lt_pow hwidth (by decide)
  generalize hn : max (draw % Nat.pow 16 width) 1 = n at hfits
  have hpos : n ≠ 0 := by omega
  have hid : (newId width draw).toList = Text.hexPadded width n := by
    rw [newId, hn, String.toList_ofList]
  refine ⟨?_, ?_, ?_⟩
  · rw [hid, Text.length_hexPadded]
  · rw [hid]
    exact fun c hc => Text.isHexDigit_of_mem_hexPadded hc
  · rw [hid]
    by_contra hnone
    refine hpos (Text.eq_zero_of_hexPadded hfits fun c hc => ?_)
    exact not_not.mp fun hne => hnone ⟨c, hc, hne⟩

/-! ## The grammar -/

/-- The text of four parts between hyphens. -/
def hyphenated (trace span flags : List Char) : List Char :=
  '0' :: '0' :: '-' :: (trace ++ '-' :: (span ++ '-' :: flags))

/-- A text spells a parent: blanks around it apart, it is the version, the two ids and two digits of
flags between hyphens. -/
def Parent.SpelledBy (parent : Parent) (raw : String) : Prop :=
  ∃ flags,
    Text.trimChars raw.toList = hyphenated parent.traceId.toList parent.spanId.toList flags ∧
    IsIdOf 32 parent.traceId ∧ IsIdOf 16 parent.spanId ∧
    flags.length = 2 ∧ (∀ c ∈ flags, IsHexDigit c) ∧ parent.sampled = isOdd flags

section

variable {trace span flags : List Char} (htrace : ∀ c ∈ trace, IsHexDigit c)
  (hspan : ∀ c ∈ span, IsHexDigit c) (hflags : ∀ c ∈ flags, IsHexDigit c)
include htrace hspan hflags

/-- There are no blanks in such a text. -/
theorem trimChars_hyphenated :
    Text.trimChars (hyphenated trace span flags) = hyphenated trace span flags := by
  have hdigits {part : List Char} (hpart : ∀ c ∈ part, IsHexDigit c) :
      ∀ c ∈ part, Text.isBlank c = false := fun c hc => (hpart c hc).not_blank
  refine Text.trimChars_eq_self ?_
  simp only [hyphenated, List.forall_mem_cons, List.forall_mem_append]
  exact ⟨by decide, by decide, by decide, hdigits htrace, by decide, hdigits hspan, by decide,
    hdigits hflags⟩

/-- The parts come back when such a text is cut at its hyphens. -/
theorem pieces_hyphenated :
    Text.pieces '-' (hyphenated trace span flags) = [['0', '0'], trace, span, flags] := by
  have hnone {part : List Char} (hpart : ∀ c ∈ part, IsHexDigit c) : '-' ∉ part :=
    fun hmem => (hpart _ hmem).ne_hyphen rfl
  show Text.pieces '-' (['0', '0'] ++ '-' :: (trace ++ '-' :: (span ++ '-' :: flags))) = _
  rw [Text.pieces_append_sep (by decide), Text.pieces_append_sep (hnone htrace),
    Text.pieces_append_sep (hnone hspan), Text.pieces_of_not_mem (hnone hflags)]

end

/-- A text that is cut into four parts is these, between hyphens. -/
theorem eq_hyphenated_of_pieces {text trace span flags : List Char}
    (h : Text.pieces '-' text = [['0', '0'], trace, span, flags]) :
    text = hyphenated trace span flags := by
  rw [← Text.intercalate_pieces '-' text, h]
  simp [hyphenated, List.intercalate_cons_cons]

/-- **Exactly the texts that spell a parent are accepted**, and it is what is read from them. -/
theorem Parent.parse?_eq_some_iff {raw : String} {parent : Parent} :
    Parent.parse? raw = some parent ↔ parent.SpelledBy raw := by
  constructor
  · intro h
    unfold Parent.parse? at h
    split at h
    · rename_i version trace span flags hpieces
      split_ifs at h with hparts
      obtain ⟨rfl, htrace, hspan, hflags⟩ := hparts
      obtain ⟨hlength, hdigits⟩ := isHex_iff.mp hflags
      cases h
      refine ⟨flags, ?_, isId_iff.mp htrace, isId_iff.mp hspan, hlength, hdigits, rfl⟩
      rw [String.toList_ofList, String.toList_ofList]
      exact eq_hyphenated_of_pieces hpieces
    · cases h
  · rintro ⟨flags, htext, htrace, hspan, hlength, hdigits, hsampled⟩
    have hpieces := pieces_hyphenated htrace.digits hspan.digits hdigits
    rw [← parent.traceId.ofList_toList] at htrace
    rw [← parent.spanId.ofList_toList] at hspan
    simp only [Parent.parse?, htext, hpieces, isId_iff.mpr htrace, isId_iff.mpr hspan,
      isHex_iff.mpr ⟨hlength, hdigits⟩, and_self, if_true, String.ofList_toList, ← hsampled]

end Trace

end GuardedGateway
