import GuardedGateway.Guard.OutputBound
import GuardedGateway.Proofs.Json.Scalars
import Mathlib.Data.Nat.Log

/-!
# When the bound on a result bounds it

A result that is too long gives way to a marker, and nobody asks how long the marker is.  It has two
numbers in it, so its size is known: 52 bytes and the digits of the two (`size_truncationMarker`).
The size of a result is a number of 64 bits, with twenty digits at most, and the digits of a bound are
few compared with the bound.  So from 74 bytes on the marker is within the bound that it enforces,
and bounding it again does nothing; a bound of 73 bytes can already be exceeded.
-/

namespace GuardedGateway

/-! ## Decimal digits -/

namespace Text

/-- How many decimal digits a number is written with. -/
def decimalLength (n : Nat) : Nat :=
  Nat.log 10 n + 1

theorem length_digits (n : Nat) : (Json.digits n).length = decimalLength n := by
  induction n using Json.digits_induct with
  | one d h => rw [Json.digits_of_lt h, decimalLength, Nat.log_of_lt h, List.length_singleton]
  | more n h ih =>
    rw [Json.digits_of_le h, List.length_append, ih, decimalLength, decimalLength,
      Nat.log_of_one_lt_of_le (by decide) h, List.length_singleton]

/-- A number of 64 bits has at most twenty digits. -/
theorem decimalLength_le_twenty {n : Nat} (h : n < 2 ^ 64) : decimalLength n ≤ 20 := by
  have hpow : n < 10 ^ 20 := h.trans (by decide)
  have hlog : Nat.log 10 n < 20 := by
    rcases Nat.eq_zero_or_pos n with rfl | hpos
    · rw [Nat.log_zero_right]
      decide
    · exact Nat.log_lt_of_lt_pow hpos.ne' hpow
  rw [decimalLength]
  omega

/-- The digits of a number are few compared with the number. -/
theorem decimalLength_add_le {n : Nat} (h : 74 ≤ n) : decimalLength n + 72 ≤ n := by
  have htens : Nat.log 10 n = Nat.log 10 (n / 10) + 1 :=
    Nat.log_of_one_lt_of_le (by decide) (by omega)
  rw [decimalLength, htens]
  rcases Nat.lt_or_ge n 100 with hlt | hle
  · rw [Nat.log_of_lt (by omega)]
    omega
  · have hself : Nat.log 10 (n / 10) < n / 10 := Nat.log_lt_self 10 (by omega)
    omega

end Text

namespace Guard

open Text (decimalLength)

/-! ## The marker -/

/-- The size of a natural number is the number of its digits. -/
theorem size_ofNat (n : Nat) : (Json.ofNat n).size = decimalLength n := by
  rw [← Text.length_digits]
  rfl

/-- **The marker is 52 bytes and the digits of its two numbers.** -/
theorem size_truncationMarker (originalSize returnedSize : Nat) :
    (truncationMarker originalSize returnedSize).size =
      52 + decimalLength originalSize + decimalLength returnedSize := by
  have horiginal := size_ofNat originalSize
  have hreturned := size_ofNat returnedSize
  have htruncated : (Json.quoted "truncated" ++ ":" ++ "true").utf8ByteSize = 16 := by decide
  have hkeys : (Json.quoted "original_size" ++ ":").utf8ByteSize = 16 ∧
      (Json.quoted "returned_size" ++ ":").utf8ByteSize = 16 := by decide
  have hsigns : "\x7b".utf8ByteSize = 1 ∧ "\x7d".utf8ByteSize = 1 ∧ ",".utf8ByteSize = 1 := by
    decide
  obtain ⟨hopen, hclose, hcomma⟩ := hsigns
  rw [Json.size] at horiginal hreturned
  rw [truncationMarker, Json.size, Json.text, Json.fieldsText, Json.fieldsText, Json.fieldsText,
    Json.fieldText, Json.fieldText, Json.fieldText, Json.text]
  simp only [String.utf8ByteSize_append] at htruncated hkeys ⊢
  omega

/-- From 74 bytes on the marker is within the bound. -/
theorem size_truncationMarker_le {size maxBytes : Nat} (hsize : size < 2 ^ 64)
    (hmax : 74 ≤ maxBytes) : (truncationMarker size maxBytes).size ≤ maxBytes := by
  have hdigits := Text.decimalLength_le_twenty hsize
  have hbound := Text.decimalLength_add_le hmax
  rw [size_truncationMarker]
  omega

/-- Twenty digits are too many for a bound of 73 bytes. -/
example : (truncationMarker (10 ^ 19) 73).size = 74 := by decide +kernel

/-! ## The bound -/

/-- From 74 bytes on what is returned is within the bound. -/
theorem size_value_bound_le {v : Json} {maxBytes : Nat} (hsize : v.size < 2 ^ 64)
    (hmax : 74 ≤ maxBytes) : (bound maxBytes v).value.size ≤ maxBytes := by
  rcases Nat.lt_or_ge maxBytes v.size with hexceeds | hfits
  · rw [bound_of_exceeds (by omega) hexceeds]
    exact size_truncationMarker_le hsize hmax
  · rw [bound_of_fits (.inr hfits)]
    exact hfits

/-- **The bound bounds, from 74 bytes on.**  Without a bound, or within it, a value is returned as it
is.  Otherwise the marker takes its place, whose size is known, and as soon as the bound is 74 bytes
what is returned is within it, so that bounding it again does nothing. -/
theorem bound_holds_from_seventyFour (v : Json) (maxBytes : Nat) (hsize : v.size < 2 ^ 64) :
    (maxBytes = 0 ∨ v.size ≤ maxBytes → bound maxBytes v = ⟨v, false⟩) ∧
      (¬ (maxBytes = 0 ∨ v.size ≤ maxBytes) →
        (bound maxBytes v).truncated = true ∧
          (bound maxBytes v).value.size =
            52 + decimalLength v.size + decimalLength maxBytes) ∧
      (74 ≤ maxBytes →
        (bound maxBytes v).value.size ≤ maxBytes ∧
          bound maxBytes (bound maxBytes v).value = ⟨(bound maxBytes v).value, false⟩) := by
  refine ⟨bound_of_fits, fun hexceeds => ?_, fun hmax => ?_⟩
  · obtain ⟨hpos, hlt⟩ := not_or.mp hexceeds
    rw [bound_of_exceeds hpos (Nat.lt_of_not_le hlt)]
    exact ⟨rfl, size_truncationMarker v.size maxBytes⟩
  · have hwithin := size_value_bound_le hsize hmax
    exact ⟨hwithin, bound_of_fits (.inr hwithin)⟩

/-- A log of a hundred characters does not fit into 74 bytes, and the marker does. -/
theorem bound_holds_from_seventyFour_longLog :
    let log := Json.str (.ofList (List.replicate 100 'x'))
    log.size = 102 ∧ (bound 74 log).truncated = true ∧ (bound 74 log).value.size = 57 ∧
      bound 74 (bound 74 log).value = ⟨(bound 74 log).value, false⟩ := by
  intro log
  have hsize : log.size = 102 := by decide +kernel
  obtain ⟨-, hexceeds, hfrom⟩ := bound_holds_from_seventyFour log 74 (by rw [hsize]; decide)
  obtain ⟨htruncated, hmarker⟩ := hexceeds (by rw [hsize]; decide)
  rw [hsize] at hmarker
  exact ⟨hsize, htruncated, hmarker.trans (by decide), (hfrom (by decide)).2⟩

end Guard

end GuardedGateway
