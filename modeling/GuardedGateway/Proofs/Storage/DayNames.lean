import GuardedGateway.Proofs.Storage.FreshName

/-!
# Different days have different names

The name of a day is its year, its month and its number, and a year may have a sign and any number
of digits from four on.  Still nothing is lost: month and number have two digits each, so they can
be taken off the end (`text_injective`), and a sign is no digit, so a year with one is not taken
for a year without (`yearText_injective`).

Therefore a log that is laid aside on two days is not given one name for both
(`datedPath_injective`).
-/

namespace GuardedGateway

/-! ## Digits with zeros in front -/

namespace Text

/-- Zeros in front do not change what digits denote. -/
theorem ofDigitChars_padded (width n : Nat) : Nat.ofDigitChars 10 (padded width n) 0 = n := by
  rw [padded, Nat.ofDigitChars_append, Nat.ofDigitChars_replicate_zero, Nat.mul_zero,
    Nat.toString_eq_repr, Nat.toList_repr, Nat.ofDigitChars_ten_toDigits]

theorem padded_injective (width : Nat) : Function.Injective (padded width) := by
  intro m n h
  rw [← ofDigitChars_padded width m, h, ofDigitChars_padded]

/-- What has at most two digits is written with two. -/
theorem length_padded_two {n : Nat} (h : n < 100) : (padded 2 n).length = 2 := by
  have hdigits : (toString n).toList.length ≤ 2 := by
    rw [Nat.toString_eq_repr, Nat.toList_repr]
    exact (Nat.length_toDigits_le_iff (by decide) (by decide)).mpr h
  rw [padded, List.length_append, List.length_replicate]
  omega

end Text

/-! ## Days -/

namespace Calendar.Date

open Text (padded)

/-- A year with a sign does not look like one without. -/
theorem padded_ne_cons {sign : Char} (hsign : sign.isDigit = false) (width n : Nat)
    (digits : List Char) : padded width n ≠ sign :: digits := by
  intro h
  have hmem : sign ∈ padded width n := h ▸ List.mem_cons_self
  rw [Storage.isDigit_of_mem_padded hmem] at hsign
  cases hsign

/-- The sign of a year is no digit. -/
theorem isDigit_sign (year : Int) : (if year < 0 then '-' else '+').isDigit = false := by
  split <;> rfl

theorem yearText_injective : Function.Injective yearText := by
  intro a b h
  unfold yearText at h
  by_cases ha : 0 ≤ a ∧ a ≤ 9999 <;> by_cases hb : 0 ≤ b ∧ b ≤ 9999
  · rw [if_pos ha, if_pos hb] at h
    have hnat := Text.padded_injective 4 h
    omega
  · rw [if_pos ha, if_neg hb] at h
    exact absurd h (padded_ne_cons (isDigit_sign b) 4 _ _)
  · rw [if_neg ha, if_pos hb] at h
    exact absurd h.symm (padded_ne_cons (isDigit_sign a) 4 _ _)
  · rw [if_neg ha, if_neg hb] at h
    obtain ⟨hsign, hdigits⟩ := List.cons.inj h
    have hsame : a < 0 ↔ b < 0 := by
      by_cases hneg : a < 0 <;> by_cases hneg' : b < 0
      · exact iff_of_true hneg hneg'
      · rw [if_pos hneg, if_neg hneg'] at hsign
        exact absurd hsign (by decide)
      · rw [if_neg hneg, if_pos hneg'] at hsign
        exact absurd hsign (by decide)
      · exact iff_of_false hneg hneg'
    have habs := Text.padded_injective 4 hdigits
    omega

/-- Months and the numbers of days have at most two digits. -/
theorem lt_hundred (date : Date) : date.month < 100 ∧ date.day < 100 := by
  obtain ⟨-, ⟨-, hmonth⟩, -, hday⟩ := date.there
  have hdays : daysIn date.year date.month ≤ 31 := by
    unfold daysIn
    split
    · split <;> decide
    · split <;> decide
  omega

/-- **No two days are written alike.** -/
theorem text_injective : Function.Injective text := by
  intro a b h
  have hlength (n : Nat) (hn : n < 100) : ('-' :: padded 2 n).length = 3 := by
    rw [List.length_cons, Text.length_padded_two hn]
  obtain ⟨hfront, hday⟩ := List.append_inj' (String.ofList_injective h)
    ((hlength a.day a.lt_hundred.2).trans (hlength b.day b.lt_hundred.2).symm)
  obtain ⟨hyear, hmonth⟩ := List.append_inj' hfront
    ((hlength a.month a.lt_hundred.1).trans (hlength b.month b.lt_hundred.1).symm)
  obtain ⟨year, month, day, _⟩ := a
  obtain rfl := yearText_injective hyear
  obtain rfl := Text.padded_injective 2 (List.cons.inj hmonth).2
  obtain rfl := Text.padded_injective 2 (List.cons.inj hday).2
  rfl

end Calendar.Date

namespace Storage

/-- **A log has a name of its own for every day.** -/
theorem datedPath_injective (path : String) : Function.Injective (datedPath path) := by
  intro a b h
  rw [datedPath_eq, datedPath_eq] at h
  have hmark := (String.append_right_inj path).mp h
  exact Calendar.Date.text_injective ((String.append_right_inj ".").mp hmark)

end Storage

end GuardedGateway
