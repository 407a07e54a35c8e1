import GuardedGateway.Proofs.Json.Reading
import Mathlib.Tactic.SplitIfs

/-!
# What a record takes from an object

A record is built from the members of an object one after the other, in the order in which they were
written.  When their keys are distinct the order does not matter: what one field sets depends on the
member with its own name and on no other (`Record.Sets.exists_of_get?`), and there is a record as
soon as every known member has a value that its field takes and no needed member is missing
(`Record.exists_ofFields`).

The keys of an object that was read are distinct (`nodup_keys_of_read`), so this says what a typed
reader makes of any JSON text that is an object.
-/

namespace GuardedGateway

/-! ## Members of an object -/

/-- A key that does not occur has no value. -/
theorem Fields.get?_of_not_mem_keys {fields : Fields} {key : String} (h : key ∉ fields.keys) :
    fields.get? key = none := by
  induction fields with
  | nil => rfl
  | cons f rest ih =>
    obtain ⟨hne, hrest⟩ := not_or.mp (fun hor => h (List.mem_cons.mpr hor))
    rw [get?, if_neg (fun heq => hne heq.symm), ih hrest]

/-- A key has no value exactly when it does not occur. -/
theorem Fields.get?_eq_none_iff {fields : Fields} {key : String} :
    fields.get? key = none ↔ key ∉ fields.keys := by
  refine ⟨fun h hmem => ?_, Fields.get?_of_not_mem_keys⟩
  induction fields with
  | nil => exact List.not_mem_nil hmem
  | cons f rest ih =>
    rw [get?] at h
    split at h
    · cases h
    · rename_i hne
      obtain heq | hrest := List.mem_cons.mp hmem
      · exact hne heq.symm
      · exact ih h hrest

/-- A value is looked for in the first members, then in the others. -/
theorem Fields.get?_append (fields more : Fields) (key : String) :
    Fields.get? (fields ++ more) key = (fields.get? key).or (more.get? key) := by
  induction fields with
  | nil => rfl
  | cons f rest ih =>
    obtain ⟨name, value⟩ := f
    show (if name = key then some value else Fields.get? (rest ++ more) key) = _
    rw [ih, Fields.get?]
    split <;> rfl

theorem Fields.keys_append (fields more : Fields) :
    Fields.keys (fields ++ more) = fields.keys ++ more.keys :=
  List.map_append

/-- Under distinct keys a value is found exactly when its member is there. -/
theorem Fields.get?_eq_some_iff {fields : Fields} {key : String} {value : Json}
    (h : fields.keys.Nodup) : fields.get? key = some value ↔ (key, value) ∈ fields := by
  induction fields with
  | nil => exact iff_of_false nofun List.not_mem_nil
  | cons f rest ih =>
    obtain ⟨hnot, hrest⟩ := List.nodup_cons.mp h
    rw [List.mem_cons, get?]
    by_cases hkey : f.1 = key
    · have hgone : (key, value) ∉ rest := fun hmem => hnot (hkey ▸ List.mem_map_of_mem hmem)
      rw [if_pos hkey, or_iff_left hgone, Option.some.injEq]
      constructor
      · exact fun hvalue => Prod.ext hkey.symm hvalue.symm
      · exact fun heq => (congrArg Prod.snd heq).symm
    · have hne : (key, value) ≠ f := fun heq => hkey (heq ▸ rfl)
      rw [if_neg hkey, ih hrest, or_iff_right hne]

/-- A new key goes to the end. -/
theorem Fields.put_of_not_mem_keys {fields : Fields} {key : String} (h : key ∉ fields.keys)
    (value : Json) : fields.put key value = fields ++ [(key, value)] := by
  induction fields with
  | nil => rfl
  | cons f rest ih =>
    obtain ⟨hne, hrest⟩ := not_or.mp fun hor => h (List.mem_cons.mpr hor)
    rw [put, if_neg fun heq => hne heq.symm, ih hrest, List.cons_append]

/-- Setting a value adds its key and no other. -/
theorem Fields.mem_keys_put {fields : Fields} {key other : String} {value : Json} :
    other ∈ (fields.put key value).keys ↔ other = key ∨ other ∈ fields.keys := by
  by_cases hother : other = key
  · subst hother
    refine iff_of_true ?_ (.inl rfl)
    refine Decidable.not_not.mp fun hnot => ?_
    rw [← Fields.get?_eq_none_iff, get?_put_self] at hnot
    cases hnot
  · rw [or_iff_right hother, ← Decidable.not_iff_not, ← Fields.get?_eq_none_iff,
      ← Fields.get?_eq_none_iff, get?_put_of_ne fields value fun heq => hother heq.symm]

/-- Whether keys are distinct does not depend on the order of the members. -/
theorem Fields.nodup_keys_of_perm {fields others : Fields} (hperm : others.Perm fields)
    (h : fields.keys.Nodup) : others.keys.Nodup :=
  (hperm.map Prod.fst).nodup_iff.mpr h

theorem Fields.nodup_keys_filter {fields : Fields} (h : fields.keys.Nodup)
    (keep : String × Json → Bool) : (Fields.keys (fields.filter keep)).Nodup :=
  h.sublist (List.filter_sublist.map Prod.fst)

namespace Json

variable {α β σ : Type}

/-! ## Values that were read -/

/-- A value that is neither a list nor an object. -/
def IsScalar : Json → Prop
  | .arr _ => False
  | .obj _ => False
  | _ => True

/-- A value was read as a list behind its bracket, as an object behind its brace, or as neither. -/
inductive ReadAs (inner : Option (Reader Json)) (s : Bytes) : Json → Bytes → Prop where
  | list {reader : Reader Json} {r t : Bytes} {items : List Json} (hinner : inner = some reader)
      (hskip : skipSpace s = 91 :: r) (hlist : listOf reader r = .ok (items, t)) :
      ReadAs inner s (.arr items.reverse) t
  | object {reader : Reader Json} {r t : Bytes} {fields : Fields} (hinner : inner = some reader)
      (hskip : skipSpace s = 123 :: r) (hfields : fieldsOf reader r = .ok (fields, t)) :
      ReadAs inner s (.obj fields) t
  | scalar {b : UInt8} {r t : Bytes} {v : Json} (hskip : skipSpace s = b :: r) (hbracket : b ≠ 91)
      (hbrace : b ≠ 123) (hscalar : v.IsScalar) : ReadAs inner s v t

/-- The first byte tells how a value is read. -/
theorem readAs_of_valueWith {inner : Option (Reader Json)} {s t : Bytes} {v : Json}
    (h : valueWith inner s = .ok (v, t)) : ReadAs inner s v t := by
  unfold valueWith at h
  split at h
  · cases h
  · rename_i b r hskip
    split_ifs at h with hnull htrue hfalse hnumber hquote hbracket hbrace
    · obtain ⟨_, -, h⟩ := bind_eq_ok h
      cases h
      exact .scalar hskip (by rw [hnull]; decide) (by rw [hnull]; decide) trivial
    · obtain ⟨_, -, h⟩ := bind_eq_ok h
      cases h
      exact .scalar hskip (by rw [htrue]; decide) (by rw [htrue]; decide) trivial
    · obtain ⟨_, -, h⟩ := bind_eq_ok h
      cases h
      exact .scalar hskip (by rw [hfalse]; decide) (by rw [hfalse]; decide) trivial
    · obtain ⟨_, -, h⟩ := bind_eq_ok h
      cases h
      refine .scalar hskip ?_ ?_ trivial
      · rintro rfl
        exact absurd hnumber (by decide)
      · rintro rfl
        exact absurd hnumber (by decide)
    · obtain ⟨_, -, h⟩ := bind_eq_ok h
      cases h
      exact .scalar hskip (by rw [hquote]; decide) (by rw [hquote]; decide) trivial
    · cases inner with
      | none => cases h
      | some reader =>
        obtain ⟨⟨items, _⟩, hlist, h⟩ := bind_eq_ok h
        cases h
        exact .list rfl (hbracket ▸ hskip) hlist
    · cases inner with
      | none => cases h
      | some reader =>
        obtain ⟨⟨fields, _⟩, hfields, h⟩ := bind_eq_ok h
        cases h
        exact .object rfl (hbrace ▸ hskip) hfields
    · cases h

/-- An object is read after its brace, one level down. -/
theorem exists_fieldsOf_of_valueWith {inner : Option (Reader Json)} {s t : Bytes}
    {fields : Fields} (h : valueWith inner s = .ok (.obj fields, t)) :
    ∃ reader r, inner = some reader ∧ skipSpace s = 123 :: r ∧
      fieldsOf reader r = .ok (fields, t) := by
  cases readAs_of_valueWith h with
  | object hinner hskip hfields => exact ⟨_, _, hinner, hskip, hfields⟩
  | scalar _ _ _ hscalar => exact False.elim hscalar

/-- What `fieldsOf` does with each member. -/
def putMember (inner : Reader Json) (key : String) (acc : Fields) : Reader Fields := fun s => do
  let s ← colon s
  let (v, s) ← inner s
  return (Fields.put acc key v, s)

/-- What reads a whole text has read its value and then nothing but blanks. -/
theorem exists_of_readWith {reader : Reader α} {text : Bytes} {a : α}
    (h : readWith reader text = .ok a) : ∃ t, reader text = .ok (a, t) ∧ finish t = .ok () := by
  rw [readWith] at h
  split at h
  · rename_i found hfound
    cases h
    obtain ⟨⟨value, t⟩, hvalue, hfound⟩ := bind_eq_ok hfound
    obtain ⟨_, hfinish, hfound⟩ := bind_eq_ok hfound
    cases hfound
    exact ⟨t, hvalue, hfinish⟩
  · cases h

/-- The keys of an object that was read are distinct. -/
theorem nodup_keys_of_read {text : Bytes} {fields : Fields} (h : read text = .ok (.obj fields)) :
    fields.keys.Nodup := by
  obtain ⟨t, hvalue, -⟩ := exists_of_readWith h
  obtain ⟨inner, r, -, -, hfields⟩ := exists_fieldsOf_of_valueWith hvalue
  exact fieldsOf_gives_nodup_keys inner _ _ _ hfields

/-- A string is taken for itself, and nothing else is. -/
theorem Shape.ofJson_string_eq_ok_iff {v : Json} {text : String} :
    Shape.string.ofJson v = .ok text ↔ v = .str text := by
  cases v <;> simp [Shape.string, Shape.scalar, Shape.wrong]

/-! ## Fields -/

namespace Field

variable {name : String} {shape : Shape α} {put : σ → α → σ} {get : σ → β} {into : α → β}

/-- A field that takes values of one shape and puts what comes of them into a part of the record. -/
def Makes (f : Field σ) (shape : Shape α) (get : σ → β) (into : α → β) : Prop :=
  ∀ r v r', f.ofJson r v = .ok r' → ∃ a, shape.ofJson v = .ok a ∧ get r' = into a

/-- A field that does not touch a part of the record. -/
def Leaves (f : Field σ) (get : σ → β) : Prop :=
  ∀ r v r', f.ofJson r v = .ok r' → get r' = get r

theorem exists_of_ofJson_optional {r r' : σ} {v : Json}
    (h : (optional name shape put).ofJson r v = .ok r') :
    ∃ a, shape.ofJson v = .ok a ∧ r' = put r a := by
  cases ha : shape.ofJson v with
  | error cause =>
    simp only [optional, ha] at h
    cases h
  | ok a =>
    simp only [optional, ha] at h
    cases h
    exact ⟨a, rfl, rfl⟩

theorem makes_optional (h : ∀ r a, get (put r a) = into a) :
    (optional name shape put).Makes shape get into := by
  intro r v r' hread
  obtain ⟨a, ha, rfl⟩ := exists_of_ofJson_optional hread
  exact ⟨a, ha, h r a⟩

theorem leaves_optional (h : ∀ r a, get (put r a) = get r) :
    (optional name shape put).Leaves get := by
  intro r v r' hread
  obtain ⟨a, -, rfl⟩ := exists_of_ofJson_optional hread
  exact h r a

/-- A field that is needed reads like one that is not. -/
theorem makes_needed (h : ∀ r a, get (put r a) = into a) :
    (needed name shape put).Makes shape get into := by
  show (optional name shape put).Makes shape get into
  exact makes_optional h

theorem leaves_needed (h : ∀ r a, get (put r a) = get r) :
    (needed name shape put).Leaves get := by
  show (optional name shape put).Leaves get
  exact leaves_optional h

end Field

/-! ## Records -/

namespace Record

variable {record : Record σ} {name : String} {shape : Shape α} {get : σ → β} {into : α → β}

/-- Gives a record the value of a member, if it knows the member. -/
def take (record : Record σ) (r : σ) (field : String × Json) : Except Cause σ :=
  match record.field? field.1 with
  | some f => f.ofJson r field.2
  | none => .ok r

theorem ofFields_eq (record : Record σ) (fields : Fields) :
    record.ofFields fields = (fields.foldlM record.take record.start).bind fun r =>
      match record.missing? fields.keys with
      | some f => .error (.missingField f.name)
      | none => .ok r := rfl

/-- The part of a record that the field with this name sets.  The field takes values of one shape,
`into` says what it makes of them, and no other field touches the part. -/
structure Sets (record : Record σ) (name : String) (shape : Shape α) (get : σ → β) (into : α → β) :
    Prop where
  own : ∃ f, record.field? name = some f ∧ f.Makes shape get into
  other : ∀ f ∈ record.fields, f.name = name ∨ f.Leaves get

/-- A member with another key leaves the part as it is. -/
theorem Sets.take_of_ne (h : record.Sets name shape get into) {r r' : σ} {key : String} {v : Json}
    (hkey : key ≠ name) (htake : record.take r (key, v) = .ok r') : get r' = get r := by
  rw [take] at htake
  cases hfield : record.field? key with
  | none =>
    rw [hfield] at htake
    cases htake
    rfl
  | some f =>
    rw [hfield] at htake
    have hname : f.name = key := by simpa using List.find?_some hfield
    obtain heq | hleaves := h.other f (List.mem_of_find?_eq_some hfield)
    · exact absurd (hname.symm.trans heq) hkey
    · exact hleaves _ _ _ htake

/-- So do any number of members without the key. -/
theorem Sets.foldlM_of_not_mem (h : record.Sets name shape get into) {fields : Fields}
    (hnot : name ∉ fields.keys) {r r' : σ} (hfold : fields.foldlM record.take r = .ok r') :
    get r' = get r := by
  induction fields generalizing r with
  | nil =>
    cases hfold
    rfl
  | cons field rest ih =>
    obtain ⟨hne, hrest⟩ := not_or.mp fun hor => hnot (List.mem_cons.mpr hor)
    rw [List.foldlM_cons] at hfold
    cases htake : record.take r field with
    | error cause =>
      rw [htake] at hfold
      cases hfold
    | ok next =>
      rw [htake] at hfold
      exact (ih hrest hfold).trans (h.take_of_ne (fun heq => hne heq.symm) htake)

/-- **A part of a record is what its own member makes of it**, or what it was at the start when
there is no such member. -/
theorem Sets.of_foldlM (h : record.Sets name shape get into) {fields : Fields}
    (hkeys : fields.keys.Nodup) {r r' : σ} (hfold : fields.foldlM record.take r = .ok r') :
    match fields.get? name with
    | none => get r' = get r
    | some v => ∃ a, shape.ofJson v = .ok a ∧ get r' = into a := by
  induction fields generalizing r with
  | nil =>
    cases hfold
    rfl
  | cons field rest ih =>
    obtain ⟨key, v⟩ := field
    obtain ⟨hnot, hrest⟩ := List.nodup_cons.mp hkeys
    rw [List.foldlM_cons] at hfold
    cases htake : record.take r (key, v) with
    | error cause =>
      rw [htake] at hfold
      cases hfold
    | ok next =>
      rw [htake] at hfold
      rw [Fields.get?]
      by_cases hkey : key = name
      · subst hkey
        obtain ⟨f, hfield, hown⟩ := h.own
        rw [take, hfield] at htake
        obtain ⟨a, ha, hget⟩ := hown _ _ _ htake
        rw [if_pos rfl]
        exact ⟨a, ha, (h.foldlM_of_not_mem hnot hfold).trans hget⟩
      · rw [if_neg hkey]
        have hlater := ih hrest hfold
        rwa [h.take_of_ne hkey htake] at hlater

/-- The members of an object from which a record was made. -/
theorem foldlM_of_ofFields {fields : Fields} {r : σ} (h : record.ofFields fields = .ok r) :
    fields.foldlM record.take record.start = .ok r ∧ record.missing? fields.keys = none := by
  rw [ofFields_eq] at h
  cases hfold : fields.foldlM record.take record.start with
  | error cause =>
    rw [hfold] at h
    cases h
  | ok found =>
    simp only [hfold, Except.bind] at h
    split at h
    · cases h
    · rename_i hmissing
      cases h
      exact ⟨rfl, hmissing⟩

/-- Without its member, a part of a record is what it was at the start. -/
theorem Sets.get_eq_start (h : record.Sets name shape get into) {fields : Fields}
    (hkeys : fields.keys.Nodup) {r : σ} (hread : record.ofFields fields = .ok r)
    (hget : fields.get? name = none) : get r = get record.start := by
  have hpart := h.of_foldlM hkeys (foldlM_of_ofFields hread).1
  rwa [hget] at hpart

/-- A part of a record is what the field makes of its member. -/
theorem Sets.exists_of_get? (h : record.Sets name shape get into) {fields : Fields}
    (hkeys : fields.keys.Nodup) {r : σ} (hread : record.ofFields fields = .ok r) {v : Json}
    (hget : fields.get? name = some v) : ∃ a, shape.ofJson v = .ok a ∧ get r = into a := by
  have hpart := h.of_foldlM hkeys (foldlM_of_ofFields hread).1
  rwa [hget] at hpart

/-- A member that is needed is there. -/
theorem exists_get?_of_required {fields : Fields} {r : σ} (h : record.ofFields fields = .ok r)
    {f : Field σ} (hf : f ∈ record.fields) (hrequired : f.required = true) :
    ∃ v, fields.get? f.name = some v := by
  have hmissing := List.find?_eq_none.mp (foldlM_of_ofFields h).2 f hf
  rw [← Option.ne_none_iff_exists', ne_eq, Fields.get?_eq_none_iff, Decidable.not_not]
  simpa [hrequired] using hmissing

/-- There is a record when every known member has a value that its field takes, and no member that
is needed is missing. -/
theorem exists_ofFields {fields : Fields}
    (htakes : ∀ field ∈ fields, ∀ f, record.field? field.1 = some f →
      ∀ r, ∃ r', f.ofJson r field.2 = .ok r')
    (hmissing : record.missing? fields.keys = none) : ∃ r, record.ofFields fields = .ok r := by
  have hfold : ∀ r, ∃ r', fields.foldlM record.take r = .ok r' := by
    clear hmissing
    induction fields with
    | nil => exact fun r => ⟨r, rfl⟩
    | cons field rest ih =>
      intro r
      have hnext : ∃ next, record.take r field = .ok next := by
        rw [take]
        cases hfield : record.field? field.1 with
        | none => exact ⟨r, rfl⟩
        | some f => exact htakes field List.mem_cons_self f hfield r
      obtain ⟨next, hnext⟩ := hnext
      rw [List.foldlM_cons, hnext]
      exact ih (fun g hg => htakes g (List.mem_cons_of_mem field hg)) next
  obtain ⟨r, hr⟩ := hfold record.start
  refine ⟨r, ?_⟩
  simp only [ofFields_eq, hr, Except.bind, hmissing]

end Record

end Json

end GuardedGateway
