import GuardedGateway.Proofs.Json.Members
import Mathlib.Data.List.DropRight

/-!
# Two ways to read a record

A record is read from bytes in one pass, or it is made of a value that has been read before.  The
two do not take the same texts: the first refuses a repeated member and skips an unknown one without
reading it, the second cannot tell a repeated member and has read every other.

Where both succeed, and the object has no unknown members, they come to the same
(`Record.ofFields_of_parse`).  A shape for which the two ways come to the same is `Faithful`.  The
members of an object are read in step, so that after each of them the record in the one way is what
the other makes of the members so far (`Record.members_in_step`).
-/

namespace GuardedGateway.Json

variable {α β σ : Type}

/-! ## Shapes -/

/-- What the shape reads from bytes is what it makes of the value that stands there. -/
def Shape.Faithful (shape : Shape α) : Prop :=
  ∀ {depth s a t v u}, shape.read depth s = .ok (a, t) → value depth s = .ok (v, u) →
    u = t ∧ shape.ofJson v = .ok a

/-- The field sets from bytes what it sets from the value that stands there. -/
def Field.Faithful (f : Field σ) : Prop :=
  ∀ {depth r s r' t v u}, f.read depth r s = .ok (r', t) → value depth s = .ok (v, u) →
    u = t ∧ f.ofJson r v = .ok r'

theorem skipSpace_of_eq {s r : Bytes} {b : UInt8} (h : skipSpace s = b :: r) :
    skipSpace (b :: r) = b :: r := by
  rw [← h]
  exact List.dropWhile_idempotent isSpace s

/-- For a value that is no list and no object, what reads lists and objects does not matter. -/
theorem valueWith_of_scalar (inner : Option (Reader Json)) {s r : Bytes} {b : UInt8}
    (h : skipSpace s = b :: r) (hlist : b ≠ 91) (hobject : b ≠ 123) :
    valueWith inner s = valueWith none (b :: r) := by
  simp only [valueWith, h, skipSpace_of_eq h, if_neg hlist, if_neg hobject]

theorem exists_valueWith (depth : Nat) : ∃ inner, value depth = valueWith inner := by
  cases depth with
  | zero => exact ⟨none, rfl⟩
  | succ depth => exact ⟨some (value depth), rfl⟩

namespace Shape

theorem faithful_scalar (expecting : String) (take : Json → Except Cause α) :
    (scalar expecting take).Faithful := by
  intro depth s a t v u hread hvalue
  obtain ⟨inner, hinner⟩ := exists_valueWith depth
  rw [hinner] at hvalue
  simp only [scalar] at hread
  split at hread
  · cases hread
  · rename_i b r hskip
    split at hread
    · exact absurd hread mismatch_ne_ok
    · rename_i hkind
      obtain ⟨hlist, hobject⟩ := not_or.mp hkind
      rw [valueWith_of_scalar inner hskip hlist hobject] at hvalue
      simp only [hvalue, bind, Except.bind] at hread
      split at hread
      · rename_i a' htake
        cases hread
        exact ⟨rfl, htake⟩
      · cases hread

theorem faithful_map {shape : Shape α} (h : shape.Faithful) (f : α → β) :
    (map f shape).Faithful := by
  intro depth s b t v u hread hvalue
  obtain ⟨⟨a, rest⟩, ha, hread⟩ := bind_eq_ok hread
  cases hread
  obtain ⟨hrest, hof⟩ := h ha hvalue
  refine ⟨hrest, ?_⟩
  show f <$> shape.ofJson v = _
  rw [hof]
  rfl

theorem faithful_object : object.Faithful := by
  intro depth s fields t v u hread hvalue
  simp only [object, inObject] at hread
  split at hread
  · rename_i r hskip
    cases depth with
    | zero => cases hread
    | succ depth =>
      have hobject : valueWith (some (value depth)) s = .ok (.obj fields, t) := by
        simp only [valueWith, hskip]
        simp only at hread
        simp [hread, bind, Except.bind, pure, Except.pure, isDigit]
      cases hobject.symm.trans hvalue
      exact ⟨rfl, rfl⟩
  · exact absurd hread mismatch_ne_ok

end Shape

theorem Field.faithful_optional {name : String} {shape : Shape α} {put : σ → α → σ}
    (h : shape.Faithful) : (optional name shape put).Faithful := by
  intro depth r s r' t v u hread hvalue
  obtain ⟨⟨a, rest⟩, ha, hread⟩ := bind_eq_ok hread
  cases hread
  obtain ⟨hrest, hof⟩ := h ha hvalue
  refine ⟨hrest, ?_⟩
  simp only [optional, hof]
  rfl

/-! ## Records -/

namespace Record

variable {record : Record σ}

/-- A member that has been put stays. -/
theorem mem_keys_of_members {inner : Reader Json} {count : Nat} {first : Bool} {acc fields : Fields}
    {s t : Bytes} (h : members (putMember inner) count first acc s = .ok (fields, t))
    {key : String} (hkey : key ∈ acc.keys) : key ∈ fields.keys := by
  refine members_gives (p := fun fields : Fields => key ∈ fields.keys) (fun other acc hacc => ?_)
    count first hkey s fields t h
  intro s next t hnext
  obtain ⟨_, -, hnext⟩ := bind_eq_ok hnext
  obtain ⟨⟨v, _⟩, -, hnext⟩ := bind_eq_ok hnext
  cases hnext
  exact Fields.mem_keys_put.mpr (.inr hacc)

/-- **The two ways go in step.**  When the record so far is what is made of the members so far, and
the names that have been read are their keys, it is so at the end. -/
theorem members_in_step (hfields : ∀ f ∈ record.fields, f.Faithful) {depth : Nat}
    {names names' : List String} {count : Nat} {first : Bool} {r r' : σ} {acc fields : Fields}
    {s t u : Bytes} (htyped : members (record.member depth) count first (r, names) s = .ok ((r', names'), t))
    (hplain : members (putMember (value depth)) count first acc s = .ok (fields, u))
    (hknown : ∀ key ∈ fields.keys, record.field? key ≠ none)
    (hfold : acc.foldlM record.take record.start = .ok r)
    (hnames : ∀ key, key ∈ names ↔ key ∈ acc.keys) :
    fields.foldlM record.take record.start = .ok r' ∧ ∀ key, key ∈ names' ↔ key ∈ fields.keys := by
  induction count generalizing first r names acc s with
  | zero => cases htyped
  | succ count ih =>
    obtain ⟨⟨next, s₁⟩, hnext, htyped⟩ := bind_eq_ok htyped
    obtain ⟨⟨next', s₁'⟩, hnext', hplain⟩ := bind_eq_ok hplain
    cases hnext.symm.trans hnext'
    cases next with
    | none =>
      obtain ⟨_, -, htyped⟩ := bind_eq_ok htyped
      obtain ⟨_, -, hplain⟩ := bind_eq_ok hplain
      cases htyped
      cases hplain
      exact ⟨hfold, hnames⟩
    | some key =>
      obtain ⟨⟨sofar, s₂⟩, hmember, htyped⟩ := bind_eq_ok htyped
      obtain ⟨⟨acc', s₂'⟩, hput, hplain⟩ := bind_eq_ok hplain
      obtain ⟨s₃, hcolon, hput⟩ := bind_eq_ok hput
      obtain ⟨⟨v, s₄⟩, hvalue, hput⟩ := bind_eq_ok hput
      cases hput
      have hkey : key ∈ fields.keys :=
        mem_keys_of_members hplain (Fields.mem_keys_put.mpr (.inl rfl))
      obtain ⟨f, hf⟩ := Option.ne_none_iff_exists'.mp (hknown key hkey)
      simp only [member, hf] at hmember
      split at hmember
      · cases hmember
      · rename_i hnew
        have hnew : key ∉ acc.keys := by simpa [hnames] using hnew
        obtain ⟨_, hcolon', hmember⟩ := bind_eq_ok hmember
        cases hcolon.symm.trans hcolon'
        obtain ⟨⟨r₁, s₅⟩, hread, hmember⟩ := bind_eq_ok hmember
        cases hmember
        obtain ⟨rfl, hof⟩ := hfields f (List.mem_of_find?_eq_some hf) hread hvalue
        refine ih htyped hplain ?_ ?_
        · rw [Fields.put_of_not_mem_keys hnew, List.foldlM_append, hfold]
          show List.foldlM record.take r [(key, v)] = _
          rw [List.foldlM_cons, take, hf]
          simp only [hof]
          rfl
        · intro other
          rw [List.mem_cons, Fields.mem_keys_put, hnames]

/-- Which field is missing depends on the names as a set. -/
theorem missing?_congr {names names' : List String} (h : ∀ name, name ∈ names ↔ name ∈ names') :
    record.missing? names = record.missing? names' := by
  have hcontains (name : String) : names.contains name = names'.contains name := by
    rw [Bool.eq_iff_iff, List.contains_iff_mem, List.contains_iff_mem, h]
  simp only [missing?, hcontains]

/-- **A record that is read from a text is what is made of the object that the text spells**, when
the object has no unknown members. -/
theorem ofFields_of_parse (hfields : ∀ f ∈ record.fields, f.Faithful) {text : Bytes} {r : σ}
    {fields : Fields} (hparse : record.shape.parse text = .ok r)
    (hread : Json.read text = .ok (.obj fields))
    (hknown : ∀ key ∈ fields.keys, record.field? key ≠ none) :
    record.ofFields fields = .ok r := by
  obtain ⟨t, htyped, -⟩ := exists_of_readWith hparse
  obtain ⟨u, hvalue, -⟩ := exists_of_readWith hread
  obtain ⟨inner, rest, hinner, hskip, hplain⟩ := exists_fieldsOf_of_valueWith hvalue
  cases hinner
  simp only [shape, hskip] at htyped
  simp only [Shape.inObject] at htyped
  obtain ⟨⟨⟨r', names⟩, t'⟩, hmembers, hmissing⟩ := bind_eq_ok htyped
  obtain ⟨hfold, hnames⟩ := members_in_step hfields hmembers hplain hknown rfl fun _ => Iff.rfl
  simp only at hmissing
  split at hmissing
  · cases hmissing
  · rename_i hnone
    cases hmissing
    rw [ofFields_eq, hfold]
    simp only [Except.bind, ← missing?_congr hnames, hnone]

end Record

end GuardedGateway.Json
