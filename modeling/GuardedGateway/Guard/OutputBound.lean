import GuardedGateway.Json.Printer

/-!
# Bounding the size of a result

A result whose text is longer than the bound is replaced whole by a marker that says how long it was
and what the bound is.  A bound of zero is no bound.  The marker is not measured: under a small
bound it is longer than what the bound allows.
-/

namespace GuardedGateway.Guard

/-- A value after bounding, and whether it had to be replaced. -/
structure Bounded where
  value : Json
  truncated : Bool

/-- The object that stands for a result that was too long. -/
def truncationMarker (originalSize returnedSize : Nat) : Json :=
  .obj [
    ("truncated", .bool true),
    ("original_size", .ofNat originalSize),
    ("returned_size", .ofNat returnedSize)]

/-- A value within `maxBytes` bytes of text, or the marker in its place. -/
def bound (maxBytes : Nat) (value : Json) : Bounded :=
  if maxBytes = 0 ∨ value.size ≤ maxBytes then ⟨value, false⟩
  else ⟨truncationMarker value.size maxBytes, true⟩

/-- Without a bound, or within it, a value stays as it is. -/
theorem bound_of_fits {maxBytes : Nat} {value : Json} (h : maxBytes = 0 ∨ value.size ≤ maxBytes) :
    bound maxBytes value = ⟨value, false⟩ := by
  rw [bound, if_pos h]

/-- Beyond the bound the marker takes its place. -/
theorem bound_of_exceeds {maxBytes : Nat} {value : Json} (hpos : maxBytes ≠ 0)
    (h : maxBytes < value.size) :
    bound maxBytes value = ⟨truncationMarker value.size maxBytes, true⟩ := by
  rw [bound, if_neg]
  rintro (hzero | hle)
  · exact hpos hzero
  · exact Nat.not_le_of_lt h hle

end GuardedGateway.Guard
