import GuardedGateway.Proofs.Json.RoundTrip
import GuardedGateway.Proofs.Json.TypedReading

/-!
# Records written as lists

A record may be written as the list of its fields.  From bytes every item is read by the field whose
turn it is; from a value the items are handed to the fields in turn.  A list has no unknown members
to be skipped and no members to be repeated, so here the two ways to read a record take the same
texts and come to the same (`Record.parse_eq_ok_iff`).

That the second way takes what the first takes is `Shape.Faithful`; the converse is
`Shape.Complete`.  Together they make a field `Exact`, and the items of a list are then read in step
(`Record.ofItems_in_step`), once for every list of fields that may be left.
-/

namespace GuardedGateway.Json

variable {α β σ : Type}

/-- What a value contains was read with one level less to spare. -/
theorem readAs_of_value {depth : Nat} {s u : Bytes} {v : Json} (h : value depth s = .ok (v, u)) :
    ∃ inner, ReadAs inner s v u ∧
      ∀ reader, inner = some reader → ∃ levels, depth = levels + 1 ∧ value levels = reader := by
  cases depth with
  | zero => exact ⟨none, readAs_of_valueWith h, nofun⟩
  | succ levels =>
    exact ⟨some (value levels), readAs_of_valueWith h, fun _ h => ⟨levels, rfl, Option.some.inj h⟩⟩

/-! ## Shapes -/

/-- The shape reads from bytes what it makes of the value that stands there. -/
def Shape.Complete (shape : Shape α) : Prop :=
  ∀ {depth s v u a}, value depth s = .ok (v, u) → shape.ofJson v = .ok a →
    shape.read depth s = .ok (a, u)

/-- The field sets from bytes what it sets from the value that stands there, and nothing else. -/
def Field.Exact (f : Field σ) : Prop :=
  ∀ {depth r s v u}, value depth s = .ok (v, u) →
    ∀ r' t, f.read depth r s = .ok (r', t) ↔ t = u ∧ f.ofJson r v = .ok r'

namespace Shape

/-- What takes no lists and no objects need not look behind a bracket or a brace. -/
theorem complete_scalar {expecting : String} {take : Json → Except Cause α}
    (hlist : ∀ items a, take (.arr items) ≠ .ok a)
    (hobject : ∀ fields a, take (.obj fields) ≠ .ok a) : (scalar expecting take).Complete := by
  intro depth s v u a hvalue htake
  obtain ⟨inner, hinner⟩ := exists_valueWith depth
  rw [hinner] at hvalue
  cases readAs_of_valueWith hvalue with
  | list => exact absurd htake (hlist _ a)
  | object => exact absurd htake (hobject _ a)
  | scalar hskip hbracket hbrace =>
    rw [valueWith_of_scalar inner hskip hbracket hbrace] at hvalue
    have htake : take v = .ok a := htake
    simp only [scalar, hskip, if_neg (not_or.mpr ⟨hbracket, hbrace⟩), hvalue, bind, Except.bind,
      htake]
    rfl

theorem complete_string : string.Complete := by
  refine complete_scalar (fun items a h => ?_) fun fields a h => ?_
  · cases h
  · cases h

theorem complete_integer (expecting : String) (low bound : Int) :
    (integer expecting low bound).Complete := by
  refine complete_scalar (fun items a h => ?_) fun fields a h => ?_
  · cases h
  · cases h

theorem complete_map {shape : Shape α} (h : shape.Complete) (f : α → β) :
    (map f shape).Complete := by
  intro depth s v u b hvalue hof
  have hof : f <$> shape.ofJson v = .ok b := hof
  cases ha : shape.ofJson v with
  | error cause =>
    rw [ha] at hof
    cases hof
  | ok a =>
    rw [ha] at hof
    cases hof
    simp only [map, h hvalue ha]
    rfl

theorem complete_object : object.Complete := by
  intro depth s v u fields hvalue hof
  obtain ⟨inner, hread, hinner⟩ := readAs_of_value hvalue
  cases hread with
  | list => cases hof
  | object hsome hskip hfields =>
    obtain ⟨levels, rfl, rfl⟩ := hinner _ hsome
    cases hof
    simp only [object, inObject, hskip]
    exact hfields
  | scalar _ _ _ hscalar =>
    cases v with
    | obj found => exact False.elim hscalar
    | _ => cases hof

theorem ofJson_object_eq_ok_iff {v : Json} {fields : Fields} :
    object.ofJson v = .ok fields ↔ v = .obj fields := by
  cases v <;> simp [object, wrong]

theorem ofJson_word_eq_ok_iff {v : Json} {n : Nat} :
    word.ofJson v = .ok n ↔ n < 2 ^ 64 ∧ v = .ofNat n := by
  have hsize : UInt64.size = 2 ^ 64 := rfl
  cases v with
  | num number =>
    cases number with
    | int m =>
      simp only [word, map, integer, scalar]
      split
      · rename_i hm
        show Except.ok m.toNat = Except.ok n ↔ _
        rw [Except.ok.injEq, ofNat, Json.num.injEq, Number.int.injEq]
        omega
      · rename_i hm
        refine iff_of_false (fun h => ?_) ?_
        · cases h
        rintro ⟨hn, hv⟩
        rw [ofNat, Json.num.injEq, Number.int.injEq] at hv
        omega
    | float x =>
      refine iff_of_false (fun h => ?_) fun h => ?_
      · cases h
      · cases h.2
  | _ =>
    refine iff_of_false (fun h => ?_) fun h => ?_
    · cases h
    · cases h.2

end Shape

theorem Field.exact_optional {name : String} {shape : Shape α} {put : σ → α → σ}
    (hfaithful : shape.Faithful) (hcomplete : shape.Complete) :
    (optional name shape put).Exact := by
  intro depth r s v u hvalue r' t
  constructor
  · intro hread
    have hfield : (optional name shape put).Faithful := faithful_optional hfaithful
    obtain ⟨hrest, hof⟩ := hfield hread hvalue
    exact ⟨hrest.symm, hof⟩
  · rintro ⟨rfl, hof⟩
    obtain ⟨a, ha, rfl⟩ := exists_of_ofJson_optional hof
    simp only [optional, hcomplete hvalue ha]
    rfl

theorem Field.exists_of_ofJson_needed {name : String} {shape : Shape α} {put : σ → α → σ}
    {r r' : σ} {v : Json} (h : (needed name shape put).ofJson r v = .ok r') :
    ∃ a, shape.ofJson v = .ok a ∧ r' = put r a := by
  have hoptional : (optional name shape put).ofJson r v = .ok r' := h
  exact exists_of_ofJson_optional hoptional

/-! ## Lists -/

/-- Where a list ends, and where it goes on. -/
theorem nextItem_cases {first more : Bool} {s s' : Bytes} (h : nextItem first s = .ok (more, s')) :
    (∃ r, more = false ∧ skipSpace s = 93 :: r ∧ s' = 93 :: r) ∨
      ∃ b r, more = true ∧ skipSpace s = b :: r ∧ b ≠ 93 := by
  unfold nextItem at h
  split at h
  · cases h
  · rename_i b r hskip
    split_ifs at h with hend hfirst hcomma
    · cases h
      exact .inl ⟨r, rfl, hend ▸ hskip, by rw [hend]⟩
    · cases h
      exact .inr ⟨b, r, rfl, hskip, hend⟩
    · split at h
      · cases h
      · split at h
        · cases h
        · cases h
          exact .inr ⟨b, r, rfl, hskip, hend⟩
    · cases h

theorem nextItem_end {s r : Bytes} (h : skipSpace s = 93 :: r) (first : Bool) :
    nextItem first s = .ok (false, 93 :: r) := by
  simp only [nextItem, h, if_true]

theorem closeList_end {s r : Bytes} (h : skipSpace s = 93 :: r) : closeList s = .ok r := by
  simp only [closeList, h, if_true]

/-- A list that goes on is not at its end. -/
theorem closeList_ne_ok {s r t : Bytes} {b : UInt8} (h : skipSpace s = b :: r) (hb : b ≠ 93) :
    closeList s ≠ .ok t := by
  intro hclose
  simp only [closeList, h, if_neg hb] at hclose
  split at hclose
  · split at hclose
    · cases hclose
    · cases hclose
  · cases hclose

namespace Record

variable {record : Record σ}

/-- The first value goes to the first field. -/
theorem ofValues_cons_eq_ok_iff {f : Field σ} {fields : List (Field σ)} {index : Nat} {r r' : σ}
    {v : Json} {vs : List Json} :
    record.ofValues (f :: fields) index r (v :: vs) = .ok r' ↔
      ∃ next, f.ofJson r v = .ok next ∧ record.ofValues fields (index + 1) next vs = .ok r' := by
  rw [ofValues]
  cases f.ofJson r v with
  | error cause =>
    refine iff_of_false (fun h => ?_) ?_
    · cases h
    · rintro ⟨next, hnext, -⟩
      cases hnext
  | ok next => simp [bind, Except.bind]

/-- At the end of a list the fields that are left get nothing. -/
theorem ofItems_end (depth : Nat) (fields : List (Field σ)) (index : Nat) (r r' : σ)
    {s t t' : Bytes} (h : skipSpace s = 93 :: t) :
    record.ofItems depth fields index r s = .ok (r', t') ↔
      t' = t ∧ record.ofValues fields index r [] = .ok r' := by
  induction fields generalizing index s with
  | nil =>
    simp only [ofItems, closeList_end h, ofValues, bind, Except.bind, pure, Except.pure,
      Except.ok.injEq, Prod.mk.injEq, eq_comm, and_comm]
  | cons f rest ih =>
    have hend : skipSpace (93 :: t) = 93 :: t := skipSpace_of_eq h
    simp only [ofItems, nextItem_end h, ofValues, bind, Except.bind, Bool.false_eq_true, if_false]
    split
    · refine iff_of_false (fun h => ?_) fun h => ?_
      · cases h
      · cases h.2
    · exact ih (index + 1) hend

/-- **The items go to the fields in step**, whichever fields are left for them. -/
theorem ofItems_in_step (hfields : ∀ f ∈ record.fields, f.Exact) {depth count : Nat} {first : Bool}
    {acc vs : List Json} {s t : Bytes}
    (hplain : items (consItem (value depth)) count first acc s = .ok (vs, t)) :
    ∃ later, vs.reverse = acc.reverse ++ later ∧
      ∀ fields ⊆ record.fields, ∀ index, (index == 0) = first → ∀ r r' t',
        record.ofItems depth fields index r s = .ok (r', t') ↔
          t' = t ∧ record.ofValues fields index r later = .ok r' := by
  induction count generalizing first acc s with
  | zero => cases hplain
  | succ count ih =>
    obtain ⟨⟨more, s₁⟩, hnext, hplain⟩ := bind_eq_ok hplain
    obtain ⟨rest, rfl, hskip, rfl⟩ | ⟨b, rest, rfl, hskip, hb⟩ := nextItem_cases hnext
    · obtain ⟨t₁, hclose, hplain⟩ := bind_eq_ok hplain
      have hend : skipSpace (93 :: rest) = 93 :: rest := skipSpace_of_eq hskip
      cases hclose.symm.trans (closeList_end hend)
      cases hplain
      refine ⟨[], (List.append_nil _).symm, fun fields _ index _ r r' t' => ?_⟩
      exact ofItems_end depth fields index r r' hskip
    · obtain ⟨⟨acc', s₂⟩, hitem, hplain⟩ := bind_eq_ok hplain
      obtain ⟨⟨v, s₃⟩, hvalue, hitem⟩ := bind_eq_ok hitem
      cases hitem
      obtain ⟨later, hlater, hstep⟩ := ih hplain
      refine ⟨v :: later, by rw [hlater, List.reverse_cons, List.append_assoc]; rfl, ?_⟩
      intro fields hsub index hindex r r' t'
      cases fields with
      | nil =>
        refine iff_of_false (fun h => ?_) fun h => ?_
        · obtain ⟨t₁, hclose, -⟩ := bind_eq_ok h
          exact closeList_ne_ok hskip hb hclose
        · cases h.2
      | cons f fields =>
        obtain ⟨hf, hsub⟩ := List.cons_subset.mp hsub
        have hexact (r' : σ) (t' : Bytes) : f.read depth r s₁ = .ok (r', t') ↔ _ :=
          hfields f hf hvalue r' t'
        have hturn : record.ofItems depth (f :: fields) index r s =
            f.read depth r s₁ >>= fun next =>
              record.ofItems depth fields (index + 1) next.1 next.2 := by
          rw [ofItems, hindex, hnext]
          rfl
        rw [hturn]
        cases hof : f.ofJson r v with
        | error cause =>
          refine iff_of_false (fun h => ?_) fun h => ?_
          · obtain ⟨⟨next, s₃⟩, hread, -⟩ := bind_eq_ok h
            cases hof.symm.trans ((hexact next s₃).mp hread).2
          · obtain ⟨next, hnext, -⟩ := ofValues_cons_eq_ok_iff.mp h.2
            cases hof.symm.trans hnext
        | ok next =>
          rw [(hexact next s₂).mpr ⟨rfl, hof⟩, ofValues, hof]
          exact hstep fields hsub (index + 1) rfl next r' t'

/-- A record is read from the items of a list exactly when it is made of their values. -/
theorem ofItems_eq_ok_iff (hfields : ∀ f ∈ record.fields, f.Exact) {depth : Nat} {vs : List Json}
    {s t : Bytes} (hlist : listOf (value depth) s = .ok (vs, t)) (r' : σ) (t' : Bytes) :
    record.ofItems depth record.fields 0 record.start s = .ok (r', t') ↔
      t' = t ∧ record.ofValues record.fields 0 record.start vs.reverse = .ok r' := by
  obtain ⟨later, hlater, hstep⟩ := ofItems_in_step hfields hlist
  rw [hlater, List.reverse_nil, List.nil_append]
  exact hstep _ (List.Subset.refl _) 0 rfl _ r' t'

/-- A value that is no object is read as a record exactly when the record is made of it. -/
theorem read_eq_ok_iff (hfields : ∀ f ∈ record.fields, f.Exact) {depth : Nat} {s u : Bytes}
    {v : Json} (hvalue : value depth s = .ok (v, u)) (hobject : ∀ fields, v ≠ .obj fields) (r : σ)
    (t : Bytes) :
    record.shape.read depth s = .ok (r, t) ↔ t = u ∧ record.shape.ofJson v = .ok r := by
  obtain ⟨inner, hread, hinner⟩ := readAs_of_value hvalue
  cases hread with
  | @list _ rest _ items hsome hskip hlist =>
    obtain ⟨levels, rfl, rfl⟩ := hinner _ hsome
    have hshape : record.shape.read (levels + 1) s =
        record.ofItems levels record.fields 0 record.start rest := by
      simp only [shape, hskip, Shape.inList, skipSpace_of_eq hskip]
    rw [hshape]
    exact ofItems_eq_ok_iff hfields hlist r t
  | object => exact absurd rfl (hobject _)
  | scalar hskip hbracket hbrace hscalar =>
    refine iff_of_false (fun h => ?_) fun h => ?_
    · simp only [shape] at h
      split at h
      · rename_i hlist
        exact hbracket (List.cons.inj (hskip.symm.trans hlist)).1
      · rw [hskip, Shape.inObject, skipSpace_of_eq hskip] at h
        split at h
        · rename_i hbrace'
          exact hbrace (List.cons.inj hbrace').1
        · exact mismatch_ne_ok h
    · cases v with
      | arr items => exact False.elim hscalar
      | obj fields => exact False.elim hscalar
      | _ => cases h.2

/-- A record is made of a value that is no object exactly when the value is a list and the record is
made of its items. -/
theorem ofJson_eq_ok_iff {v : Json} (hobject : ∀ fields, v ≠ .obj fields) (r : σ) :
    record.shape.ofJson v = .ok r ↔
      ∃ items, v = .arr items ∧ record.shape.ofJson (.arr items) = .ok r := by
  cases v with
  | arr items => simp only [arr.injEq, exists_eq_left']
  | obj fields => exact absurd rfl (hobject fields)
  | _ =>
    refine iff_of_false (fun h => ?_) ?_
    · cases h
    · rintro ⟨items, hv, -⟩
      cases hv

/-- **A text that is no object spells a record exactly when the record is made of its value.** -/
theorem parse_eq_ok_iff (hfields : ∀ f ∈ record.fields, f.Exact) {text : Bytes} {v : Json}
    (hread : Json.read text = .ok v) (hobject : ∀ fields, v ≠ .obj fields) (r : σ) :
    record.shape.parse text = .ok r ↔ record.shape.ofJson v = .ok r := by
  obtain ⟨u, hvalue, hfinish⟩ := exists_of_readWith hread
  have hexact := read_eq_ok_iff hfields hvalue hobject r
  constructor
  · intro hparse
    obtain ⟨t, htyped, -⟩ := exists_of_readWith hparse
    exact ((hexact t).mp htyped).2
  · intro hof
    have htyped := (hexact u).mpr ⟨rfl, hof⟩
    simp only [Shape.parse, readWith, htyped, hfinish, bind, Except.bind, pure, Except.pure]

end Record

end GuardedGateway.Json
