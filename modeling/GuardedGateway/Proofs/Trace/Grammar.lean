import GuardedGateway.Proofs.Text.Encoding
import GuardedGateway.Proofs.Trace.Traceparent
import Mathlib.Data.List.Induction

/-!
# The grammar of a traceparent

`Parent.Grammar` is the grammar as it is written down: the version `00`, an id of thirty-two digits,
one of sixteen, and two digits of flags, with hyphens between them.  Exactly the texts that are this
once they are trimmed are accepted (`Parent.accepts_exactly_the_grammar`).

Two things could come between the grammar and the parser.  The parts may be counted in characters or
in bytes; a digit is one byte, and no byte of another character is a digit, so this comes to the same
(`isHex_iff_bytes`).  And the flags are read as a number; two digits always denote one, of eight bits,
so nothing is refused at this point any more (`exists_hexNumber?`).
-/

namespace GuardedGateway

/-! ## Digits and the numbers they denote -/

namespace Text

/-- The number that hexadecimal digits denote; nothing if there is another character. -/
def hexNumber? (digits : List Char) : Option Nat :=
  digits.foldlM (fun number c => (hexDigitValue? c).map (16 * number + ·)) 0

theorem hexNumber?_append (digits : List Char) (c : Char) :
    hexNumber? (digits ++ [c]) =
      (hexNumber? digits).bind fun number => (hexDigitValue? c).map (16 * number + ·) := by
  rw [hexNumber?, List.foldlM_append]
  exact congrArg (Option.bind _) (funext fun _ => bind_pure _)

theorem exists_hexDigitValue? {c : Char} (h : IsHexDigit c) :
    ∃ value < 16, hexDigitValue? c = some value := by
  unfold hexDigitValue?
  split_ifs with hdecimal hletter
  · have hnine : c.toNat ≤ 57 := UInt32.le_iff_toNat_le.mp hdecimal.2
    exact ⟨_, by omega, rfl⟩
  · have hf : c.toNat ≤ 102 := UInt32.le_iff_toNat_le.mp hletter.2
    exact ⟨_, by omega, rfl⟩
  · exact absurd h (not_or.mpr ⟨hdecimal, hletter⟩)

/-! ## Digits as bytes -/

/-- The byte of a lower-case hexadecimal digit. -/
def IsHexByte (b : UInt8) : Prop :=
  (48 ≤ b ∧ b ≤ 57) ∨ (97 ≤ b ∧ b ≤ 102)

/-- A digit is one byte. -/
theorem IsHexDigit.utf8EncodeChar_eq {c : Char} (h : IsHexDigit c) :
    String.utf8EncodeChar c = [UInt8.ofNat c.toNat] := by
  have hbounds := h.toNat_bounds
  exact utf8EncodeChar_of_lt (by omega)

/-- The digits are the characters of which every byte is a digit. -/
theorem forall_isHexByte_iff {c : Char} :
    (∀ b ∈ String.utf8EncodeChar c, IsHexByte b) ↔ IsHexDigit c := by
  rcases Nat.lt_or_ge c.toNat 128 with hlow | hhigh
  · have hbyte : (UInt8.ofNat c.toNat).toNat = c.toNat :=
      UInt8.toNat_ofNat_of_lt' (hlow.trans (by decide))
    rw [utf8EncodeChar_of_lt hlow, List.forall_mem_singleton, isHexDigit_iff_toNat, IsHexByte,
      UInt8.le_iff_toNat_le, UInt8.le_iff_toNat_le, UInt8.le_iff_toNat_le, UInt8.le_iff_toNat_le,
      hbyte]
    rfl
  · refine iff_of_false (fun h => ?_) fun h => ?_
    · obtain ⟨b, hb⟩ := List.exists_mem_of_ne_nil _ (String.utf8EncodeChar_ne_nil (c := c))
      have hlarge := UInt8.le_iff_toNat_le.mp (le_of_mem_utf8EncodeChar hhigh hb)
      have hdigit := h b hb
      rw [IsHexByte, UInt8.le_iff_toNat_le, UInt8.le_iff_toNat_le, UInt8.le_iff_toNat_le,
        UInt8.le_iff_toNat_le] at hdigit
      simp only [UInt8.reduceToNat] at hlarge hdigit
      omega
    · have hbounds := h.toNat_bounds
      omega

end Text

namespace Trace

open Text (IsHexDigit IsHexByte)

/-- **The check of the digits may as well go byte by byte.** -/
theorem isHex_iff_bytes {width : Nat} {text : List Char} :
    isHex width text = true ↔
      (Text.bytes (.ofList text)).length = width ∧
        ∀ b ∈ Text.bytes (.ofList text), IsHexByte b := by
  rw [isHex_iff, Text.bytes_ofList, List.forall_mem_flatMap, and_comm, and_comm (b := ∀ c ∈ _, _)]
  simp only [Text.forall_isHexByte_iff]
  refine and_congr_right fun hdigits => ?_
  have hone : text.flatMap String.utf8EncodeChar = text.map fun c => UInt8.ofNat c.toNat := by
    rw [List.flatMap_def, List.map_congr_left fun c hc => (hdigits c hc).utf8EncodeChar_eq,
      ← List.flatMap_def, ← List.map_eq_flatMap]
  rw [hone, List.length_map]

/-- **Digits denote a number** that fits into their width, and its lowest bit is that of the last
digit. -/
theorem exists_hexNumber? {digits : List Char} (h : ∀ c ∈ digits, IsHexDigit c) :
    ∃ number < 16 ^ digits.length,
      Text.hexNumber? digits = some number ∧ isOdd digits = number.testBit 0 := by
  induction digits using List.reverseRecOn with
  | nil => exact ⟨0, by decide, rfl, rfl⟩
  | append_singleton digits c ih =>
    rw [List.forall_mem_append, List.forall_mem_singleton] at h
    obtain ⟨hdigits, hc⟩ := h
    obtain ⟨number, hlt, hnumber, -⟩ := ih hdigits
    obtain ⟨value, hsmall, hvalue⟩ := Text.exists_hexDigitValue? hc
    refine ⟨16 * number + value, ?_, ?_, ?_⟩
    · rw [List.length_append, List.length_singleton, Nat.pow_succ]
      omega
    · rw [Text.hexNumber?_append, hnumber, hvalue]
      rfl
    · have hparity : (16 * number + value) % 2 = value % 2 := by omega
      rw [isOdd, List.getLast?_concat, Option.bind_some, hvalue, Option.any_some,
        Nat.testBit_zero, hparity]
      rfl

/-! ## The grammar -/

/-- A text is the four parts of a `traceparent`, with hyphens between them. -/
structure Parent.Grammar (text trace span flags : String) : Prop where
  text_eq : text = "00-" ++ trace ++ "-" ++ span ++ "-" ++ flags
  trace : IsIdOf 32 trace
  span : IsIdOf 16 span
  length_flags : flags.toList.length = 2
  flags : ∀ c ∈ flags.toList, IsHexDigit c

/-- A parent is spelled by a text that is of the grammar once it is trimmed, and the number of its
flags says whether the trace is sampled. -/
theorem Parent.spelledBy_iff {parent : Parent} {raw : String} :
    parent.SpelledBy raw ↔
      ∃ flags number, Parent.Grammar (Text.trim raw) parent.traceId parent.spanId flags ∧
        Text.hexNumber? flags.toList = some number ∧ number < 256 ∧
        parent.sampled = number.testBit 0 := by
  have htext (flags : String) :
      Text.trim raw = "00-" ++ parent.traceId ++ "-" ++ parent.spanId ++ "-" ++ flags ↔
        Text.trimChars raw.toList =
          hyphenated parent.traceId.toList parent.spanId.toList flags.toList := by
    rw [← String.toList_inj, Text.toList_trim]
    simp [hyphenated]
  constructor
  · rintro ⟨flags, heq, htrace, hspan, hlength, hdigits, hsampled⟩
    obtain ⟨number, hlt, hnumber, hlowest⟩ := exists_hexNumber? hdigits
    rw [hlength] at hlt
    refine ⟨.ofList flags, number, ⟨?_, htrace, hspan, ?_, ?_⟩, ?_, hlt, hsampled.trans hlowest⟩
    · rw [htext, String.toList_ofList, heq]
    all_goals rwa [String.toList_ofList]
  · rintro ⟨flags, number, hgrammar, hnumber, -, hsampled⟩
    obtain ⟨denoted, -, hread, hlowest⟩ := exists_hexNumber? hgrammar.flags
    obtain rfl : denoted = number := Option.some.inj (hread.symm.trans hnumber)
    exact ⟨flags.toList, (htext flags).mp hgrammar.text_eq, hgrammar.trace, hgrammar.span,
      hgrammar.length_flags, hgrammar.flags, hsampled.trans hlowest.symm⟩

/-- **Exactly the grammar is accepted.**  What is read from a text are the ids in it and the lowest
bit of the number that its flags denote, a number of eight bits; and every text that is not of the
grammar once it is trimmed is refused.  It does not matter whether the digits are counted in
characters or in bytes. -/
theorem Parent.accepts_exactly_the_grammar (raw : String) :
    (∀ trace span sampled, Parent.parse? raw = some ⟨trace, span, sampled⟩ ↔
      ∃ flags number, Parent.Grammar (Text.trim raw) trace span flags ∧
        Text.hexNumber? flags.toList = some number ∧ number < 256 ∧
        sampled = number.testBit 0) ∧
      (Parent.parse? raw = none ↔
        ¬ ∃ trace span flags, Parent.Grammar (Text.trim raw) trace span flags) ∧
      ∀ width part, isHex width part = true ↔
        (Text.bytes (.ofList part)).length = width ∧
          ∀ b ∈ Text.bytes (.ofList part), IsHexByte b := by
  have haccepted (trace span : String) (sampled : Bool) :
      Parent.parse? raw = some ⟨trace, span, sampled⟩ ↔ _ :=
    Parent.parse?_eq_some_iff.trans Parent.spelledBy_iff
  refine ⟨haccepted, ?_, fun _ _ => isHex_iff_bytes⟩
  constructor
  · rintro hnone ⟨trace, span, flags, hgrammar⟩
    obtain ⟨number, hlt, hnumber, -⟩ := exists_hexNumber? hgrammar.flags
    rw [hgrammar.length_flags] at hlt
    have hsome := (haccepted trace span (number.testBit 0)).mpr
      ⟨flags, number, hgrammar, hnumber, hlt, rfl⟩
    rw [hnone] at hsome
    cases hsome
  · intro hnot
    rw [Option.eq_none_iff_forall_not_mem]
    rintro ⟨trace, span, sampled⟩ hsome
    obtain ⟨flags, -, hgrammar, -⟩ := (haccepted trace span sampled).mp hsome
    exact hnot ⟨trace, span, flags, hgrammar⟩

end Trace

end GuardedGateway
