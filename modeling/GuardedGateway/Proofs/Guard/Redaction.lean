import GuardedGateway.Guard.OutputBound
import GuardedGateway.Guard.Redaction
import GuardedGateway.Proofs.Json.Containment

/-!
# Values without secrets

A value is `Scrubbed` when every object in it, at any depth, holds the marker under each of its
secret keys.  Redaction makes every value so (`scrubbed_redact`), and these are exactly the values
that it leaves as they are (`redact_eq_self_iff`); so it does nothing the second time.

Redacting before bounding is as good as redacting last: the marker that takes the place of a result
that is too long has no secret key itself (`scrubbed_bound`).
-/

namespace GuardedGateway.Guard

/-- Every object in a value, at any depth, holds the marker under each of its secret keys. -/
def Scrubbed (v : Json) : Prop :=
  ∀ fields, Json.Within (.obj fields) v →
    ∀ f ∈ fields, isSecretKey f.1 = true → f.2 = .str "[REDACTED]"

theorem scrubbed_arr_iff {items : List Json} :
    Scrubbed (.arr items) ↔ ∀ v ∈ items, Scrubbed v := by
  constructor
  · exact fun h v hv fields hwithin => h fields (.item hv hwithin)
  · intro h fields hwithin
    cases hwithin with
    | item hv hwithin => exact h _ hv fields hwithin

theorem scrubbed_obj_iff {fields : Fields} :
    Scrubbed (.obj fields) ↔
      ∀ f ∈ fields, (isSecretKey f.1 = true → f.2 = .str "[REDACTED]") ∧ Scrubbed f.2 := by
  constructor
  · exact fun h f hf => ⟨h fields .here f hf, fun inner hwithin => h inner (.member hf hwithin)⟩
  · intro h inner hwithin
    cases hwithin with
    | here => exact fun f hf => (h f hf).1
    | member hf hwithin => exact (h _ hf).2 inner hwithin

theorem redactField_of_secret {f : String × Json} (h : isSecretKey f.1 = true) :
    redactField f = (f.1, .str redacted) := by
  obtain ⟨key, v⟩ := f
  rw [redactField, if_pos h]

theorem redactField_of_not_secret {f : String × Json} (h : isSecretKey f.1 = false) :
    redactField f = (f.1, redact f.2) := by
  obtain ⟨key, v⟩ := f
  rw [redactField, if_neg (Bool.not_eq_true _ ▸ h)]

/-- **Redaction scrubs**: nothing secret is left, at any depth. -/
theorem scrubbed_redact (v : Json) : Scrubbed (redact v) := by
  induction v with
  | null => exact fun _ h => nomatch h
  | bool b => exact fun _ h => nomatch h
  | num n => exact fun _ h => nomatch h
  | str s => exact fun _ h => nomatch h
  | arr items ih =>
    rw [redact_arr, redactItems_eq_map, scrubbed_arr_iff]
    exact List.forall_mem_map.mpr ih
  | obj fields ih =>
    rw [redact_obj, redactFields_eq_map, scrubbed_obj_iff]
    refine List.forall_mem_map.mpr fun f hf => ?_
    cases hsecret : isSecretKey f.1 with
    | true =>
      rw [redactField_of_secret hsecret]
      exact ⟨fun _ => rfl, fun _ h => nomatch h⟩
    | false =>
      rw [redactField_of_not_secret hsecret]
      exact ⟨fun h => absurd h (Bool.eq_false_iff.mp hsecret), ih f hf⟩

/-- Redaction leaves a value as it is just when nothing secret is left in it. -/
theorem redact_eq_self_iff {v : Json} : redact v = v ↔ Scrubbed v := by
  constructor
  · exact fun h => h ▸ scrubbed_redact v
  · intro h
    induction v with
    | null => rfl
    | bool b => rfl
    | num n => rfl
    | str s => rfl
    | arr items ih =>
      have hitem : ∀ v ∈ items, redact v = v := fun v hv => ih v hv (scrubbed_arr_iff.mp h v hv)
      rw [redact_arr, redactItems_eq_map, List.map_congr_left hitem, List.map_id']
    | obj fields ih =>
      have hfield : ∀ f ∈ fields, redactField f = f := by
        intro f hf
        obtain ⟨hmarked, hscrubbed⟩ := scrubbed_obj_iff.mp h f hf
        cases hsecret : isSecretKey f.1 with
        | true =>
          rw [redactField_of_secret hsecret]
          exact Prod.ext rfl (hmarked hsecret).symm
        | false =>
          rw [redactField_of_not_secret hsecret]
          exact Prod.ext rfl (ih f hf hscrubbed)
      rw [redact_obj, redactFields_eq_map, List.map_congr_left hfield, List.map_id']

/-- Redaction does nothing the second time. -/
theorem redact_redact (v : Json) : redact (redact v) = redact v :=
  redact_eq_self_iff.mpr (scrubbed_redact v)

/-- No key of the marker of a truncated result is secret. -/
theorem scrubbed_truncationMarker (originalSize returnedSize : Nat) :
    Scrubbed (truncationMarker originalSize returnedSize) := by
  have hplain : ∀ key ∈ ["truncated", "original_size", "returned_size"],
      isSecretKey key = false := by decide
  refine scrubbed_obj_iff.mpr fun f hf => ⟨fun h => ?_, ?_⟩
  · have hkey : f.1 ∈ ["truncated", "original_size", "returned_size"] :=
      List.mem_map_of_mem (f := Prod.fst) hf
    exact absurd h (Bool.eq_false_iff.mp (hplain f.1 hkey))
  · simp only [List.mem_cons, List.not_mem_nil, or_false] at hf
    obtain rfl | rfl | rfl := hf
    all_goals exact fun _ h => nomatch h

/-- Bounding keeps a value without secrets. -/
theorem scrubbed_bound {v : Json} (h : Scrubbed v) (maxBytes : Nat) :
    Scrubbed (bound maxBytes v).value := by
  rw [bound]
  split
  · exact h
  · exact scrubbed_truncationMarker v.size maxBytes

end GuardedGateway.Guard
