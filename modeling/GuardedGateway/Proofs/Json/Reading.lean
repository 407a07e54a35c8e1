import GuardedGateway.Json.Shape

/-!
# What a reader can give

A reader that succeeds has built its value step by step: an object from its members, a record from
its fields.  So what holds before the first step, and is kept by every step, holds of whatever is
read.  `Reader.Gives` states such a property, `members_gives` is the induction over the members of
an object, and `Record.keeps_of_parse` is what comes of it for a whole text.

The first thing it says about JSON itself is that the keys of an object that was read are distinct
(`fieldsOf_gives_nodup_keys`), since a repeated key takes the place of the earlier one.
-/

namespace GuardedGateway.Json

variable {α β σ : Type} {p : σ → Prop} {q : α → Prop}

/-- What reads one thing after another has read the first. -/
theorem bind_eq_ok {x : Except Stop α} {f : α → Except Stop β} {b : β} (h : x >>= f = .ok b) :
    ∃ a, x = .ok a ∧ f a = .ok b := by
  cases x with
  | error stop => cases h
  | ok a => exact ⟨a, rfl, h⟩

/-- Whatever a reader gives has a property. -/
def Reader.Gives (reader : Reader α) (q : α → Prop) : Prop :=
  ∀ s a t, reader s = .ok (a, t) → q a

/-! ## Objects -/

/-- What holds at the start, and is kept by every member, holds once all members are read. -/
theorem members_gives {member : String → σ → Reader σ}
    (hmember : ∀ key acc, p acc → (member key acc).Gives p) (count : Nat) (first : Bool)
    {start : σ} (hstart : p start) : (members member count first start).Gives p := by
  induction count generalizing first start with
  | zero => exact fun s a t h => nomatch h
  | succ count ih =>
    intro s a t h
    obtain ⟨⟨key, rest⟩, -, h⟩ := bind_eq_ok h
    cases key with
    | none =>
      obtain ⟨rest, -, h⟩ := bind_eq_ok h
      cases h
      exact hstart
    | some key =>
      obtain ⟨⟨next, rest⟩, hnext, h⟩ := bind_eq_ok h
      exact ih false (hmember key start hstart _ _ _ hnext) _ _ _ h

/-- So does what holds at the start, and is kept by every item of a list. -/
theorem items_gives {item : σ → Reader σ} (hitem : ∀ acc, p acc → (item acc).Gives p)
    (count : Nat) (first : Bool) {start : σ} (hstart : p start) :
    (items item count first start).Gives p := by
  induction count generalizing first start with
  | zero => exact fun s a t h => nomatch h
  | succ count ih =>
    intro s a t h
    obtain ⟨⟨more, rest⟩, -, h⟩ := bind_eq_ok h
    cases more with
    | false =>
      obtain ⟨rest, -, h⟩ := bind_eq_ok h
      cases h
      exact hstart
    | true =>
      obtain ⟨⟨next, rest⟩, hnext, h⟩ := bind_eq_ok h
      exact ih false (hitem start hstart _ _ _ hnext) _ _ _ h

/-- The keys of an object that was read are distinct. -/
theorem fieldsOf_gives_nodup_keys (inner : Reader Json) :
    (fieldsOf inner).Gives fun fields => fields.keys.Nodup := by
  have hempty : (Fields.keys []).Nodup := List.nodup_nil
  intro s
  refine members_gives (p := fun fields : Fields => fields.keys.Nodup)
    (fun key acc hacc => ?_) _ _ hempty s
  intro s next t h
  obtain ⟨s, -, h⟩ := bind_eq_ok h
  obtain ⟨⟨v, s⟩, -, h⟩ := bind_eq_ok h
  cases h
  exact Fields.nodup_keys_put key v hacc

/-! ## Shapes -/

/-- Where a value is refused for its type, nothing is given. -/
theorem mismatch_ne_ok {expecting : String} {s t : Bytes} {a : α} :
    Shape.mismatch expecting s ≠ .ok (a, t) := by
  intro h
  rw [Shape.mismatch] at h
  split at h
  · cases h
  · split at h
    · cases h
    · split at h
      · cases h
      · obtain ⟨⟨v, rest⟩, -, h⟩ := bind_eq_ok h
        cases h

theorem inObject_gives {expecting : String} {inner : Nat → Reader α}
    (hinner : ∀ depth, (inner depth).Gives q) (depth : Nat) :
    (Shape.inObject expecting inner depth).Gives q := by
  intro s a t h
  rw [Shape.inObject] at h
  split at h
  · cases depth with
    | zero => cases h
    | succ depth => exact hinner depth _ _ _ h
  · exact absurd h mismatch_ne_ok

theorem inList_gives {expecting : String} {inner : Nat → Reader α}
    (hinner : ∀ depth, (inner depth).Gives q) (depth : Nat) :
    (Shape.inList expecting inner depth).Gives q := by
  intro s a t h
  rw [Shape.inList] at h
  split at h
  · cases depth with
    | zero => cases h
    | succ depth => exact hinner depth _ _ _ h
  · exact absurd h mismatch_ne_ok

/-- What every item of a list keeps holds of all items that were read. -/
theorem listOf_gives {shape : Shape α} (hshape : ∀ depth, (shape.read depth).Gives q)
    (depth : Nat) : ((Shape.listOf shape).read depth).Gives fun as => ∀ a ∈ as, q a := by
  refine inList_gives (fun depth s as t h => ?_) depth
  obtain ⟨⟨found, rest⟩, hfound, h⟩ := bind_eq_ok h
  cases h
  have hall := items_gives (p := fun as : List α => ∀ a ∈ as, q a) (fun acc hacc => ?_) _ _
    (List.forall_mem_nil q) _ _ _ hfound
  · exact fun a ha => hall a (List.mem_reverse.mp ha)
  · intro s next t hnext
    obtain ⟨⟨a, _⟩, ha, hnext⟩ := bind_eq_ok hnext
    cases hnext
    exact List.forall_mem_cons.mpr ⟨hshape _ _ _ _ ha, hacc⟩

/-- A map that was read is in the order of its keys. -/
theorem mapOf_gives_increasing (shape : Shape α) (depth : Nat) :
    ((Shape.mapOf shape).read depth).Gives (Text.Increasing Prod.fst) := by
  refine inObject_gives (fun depth s => ?_) depth
  refine members_gives (p := Text.Increasing Prod.fst) (fun key acc hacc => ?_) _ _ .nil s
  intro s next t h
  obtain ⟨_, -, h⟩ := bind_eq_ok h
  obtain ⟨⟨a, _⟩, -, h⟩ := bind_eq_ok h
  cases h
  exact Text.increasing_insertBy Prod.fst (key, a) hacc

/-- An integer that was read is within its bounds. -/
theorem integer_gives (expecting : String) (low bound : Int) (depth : Nat) :
    ((Shape.integer expecting low bound).read depth).Gives fun n => low ≤ n ∧ n < bound := by
  intro s n t h
  simp only [Shape.integer, Shape.scalar] at h
  split at h
  · cases h
  · split at h
    · exact absurd h mismatch_ne_ok
    · obtain ⟨⟨v, _⟩, -, h⟩ := bind_eq_ok h
      simp only at h
      split at h
      · rename_i htake
        cases h
        split at htake
        · split at htake
          · rename_i hbounds
            cases htake
            exact hbounds
          · cases htake
        · cases htake
      · cases h

/-- A field keeps what every value of its shape keeps when it is put into the record. -/
theorem Field.optional_gives {name : String} {shape : Shape α} {put : σ → α → σ} {depth : Nat}
    {r : σ} (hshape : (shape.read depth).Gives q) (hput : ∀ a, q a → p (put r a)) :
    ((Field.optional name shape put).read depth r).Gives p := by
  intro s next t h
  obtain ⟨⟨a, rest⟩, ha, h⟩ := bind_eq_ok h
  cases h
  exact hput a (hshape _ _ _ ha)

/-- A field that does not touch what has a property keeps it, whatever its shape. -/
theorem Field.optional_gives_of_put {name : String} {shape : Shape α} {put : σ → α → σ}
    {depth : Nat} {r : σ} (hput : ∀ a, p (put r a)) : ((Field.optional name shape put).read depth r).Gives p :=
  optional_gives (q := fun _ => True) (fun _ _ _ _ => trivial) fun a _ => hput a

/-! ## Records -/

namespace Record

/-- A property that a record has before anything is read, and that each of its fields keeps. -/
structure Keeps (record : Record σ) (p : σ → Prop) : Prop where
  start : p record.start
  field : ∀ f ∈ record.fields, ∀ depth r, p r → (f.read depth r).Gives p

variable {record : Record σ}

theorem member_gives (h : record.Keeps p) (depth : Nat) (key : String) {sofar : Partly σ}
    (hsofar : p sofar.1) : (record.member depth key sofar).Gives fun next => p next.1 := by
  intro s next t hread
  rw [member] at hread
  split at hread
  · obtain ⟨_, -, hread⟩ := bind_eq_ok hread
    obtain ⟨_, -, hread⟩ := bind_eq_ok hread
    cases hread
    exact hsofar
  · rename_i f hfield
    split at hread
    · cases hread
    · obtain ⟨_, -, hread⟩ := bind_eq_ok hread
      obtain ⟨⟨r, _⟩, hr, hread⟩ := bind_eq_ok hread
      cases hread
      exact h.field f (List.mem_of_find?_eq_some hfield) depth _ hsofar _ _ _ hr

theorem ofMembers_gives (h : record.Keeps p) (depth : Nat) :
    (record.ofMembers depth).Gives p := by
  intro s r t hread
  obtain ⟨⟨sofar, _⟩, hsofar, hread⟩ := bind_eq_ok hread
  have hkept : p sofar.1 :=
    members_gives (p := fun next => p next.1)
      (fun key acc hacc => member_gives h depth key hacc) _ _ h.start _ _ _ hsofar
  simp only at hread
  split at hread
  · cases hread
  · cases hread
    exact hkept

theorem ofItems_gives (h : record.Keeps p) (depth : Nat) {fields : List (Field σ)}
    (hfields : ∀ f ∈ fields, f ∈ record.fields) (index : Nat) {r : σ} (hr : p r) :
    (record.ofItems depth fields index r).Gives p := by
  induction fields generalizing index r with
  | nil =>
    intro s next t hread
    obtain ⟨_, -, hread⟩ := bind_eq_ok hread
    cases hread
    exact hr
  | cons f rest ih =>
    have hrest := fun g hg => hfields g (List.mem_cons_of_mem f hg)
    intro s next t hread
    obtain ⟨⟨more, _⟩, -, hread⟩ := bind_eq_ok hread
    simp only at hread
    split at hread
    · obtain ⟨⟨r', _⟩, hr', hread⟩ := bind_eq_ok hread
      have hnext : p r' := h.field f (hfields f List.mem_cons_self) depth r hr _ _ _ hr'
      exact ih hrest _ hnext _ _ _ hread
    · split at hread
      · cases hread
      · exact ih hrest _ hr _ _ _ hread

theorem shape_gives (h : record.Keeps p) (depth : Nat) : (record.shape.read depth).Gives p := by
  intro s r t hread
  simp only [shape] at hread
  split at hread
  · have hitems := fun depth => ofItems_gives h depth (fun _ hf => hf) 0 h.start
    exact inList_gives hitems depth _ _ _ hread
  · exact inObject_gives (ofMembers_gives h) depth _ _ _ hread

/-- **What a record keeps** holds of every record that a text spells. -/
theorem keeps_of_parse (h : record.Keeps p) {text : Bytes} {r : σ}
    (hparse : record.shape.parse text = .ok r) : p r := by
  rw [Shape.parse, readWith] at hparse
  split at hparse
  · rename_i v hread
    cases hparse
    obtain ⟨⟨v, _⟩, hv, hread⟩ := bind_eq_ok hread
    obtain ⟨_, -, hread⟩ := bind_eq_ok hread
    cases hread
    exact shape_gives h _ _ _ _ hv
  · cases hparse

end Record

end GuardedGateway.Json
