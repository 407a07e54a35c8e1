import GuardedGateway.Text.Bytes

/-!
# Names in order

Sets of namespaces, label maps and tool tables are listed in the order of the bytes of their
names.  Strings are compared through `bytes`, their UTF-8 form, so the order is literally the
order of the bytes and inherits its laws from lists of bytes.

`insertBy` keeps a list strictly increasing in a key.  An entry with a key that is already there
replaces the old one, so the same function builds sets (the key is the element) and maps (the key
is the first component).
-/

namespace GuardedGateway

namespace Text

/-- Strict order of strings by their bytes. -/
def Before (a b : String) : Prop :=
  bytes a < bytes b

instance (a b : String) : Decidable (Before a b) :=
  inferInstanceAs (Decidable (bytes a < bytes b))

theorem Before.irrefl (a : String) : ¬ Before a a :=
  List.lt_irrefl _

theorem Before.trans {a b c : String} (hab : Before a b) (hbc : Before b c) : Before a c :=
  List.lt_trans hab hbc

/-- Of two different strings one comes first. -/
theorem before_or_before_of_ne {a b : String} (h : a ≠ b) : Before a b ∨ Before b a := by
  rcases Std.lt_trichotomy (bytes a) (bytes b) with hlt | heq | hgt
  · exact .inl hlt
  · exact absurd (bytes_injective heq) h
  · exact .inr hgt

variable {α : Type}

/-- Puts an entry at its place in a list that increases in `key`; an entry with the same key gives
way to it. -/
def insertBy (key : α → String) (a : α) : List α → List α
  | [] => [a]
  | x :: rest =>
    if key a = key x then a :: rest
    else if Before (key a) (key x) then a :: x :: rest
    else x :: insertBy key a rest

/-- Strictly increasing in `key`. -/
def Increasing (key : α → String) (l : List α) : Prop :=
  l.Pairwise fun x y => Before (key x) (key y)

/-- No key stands twice in a strictly increasing list. -/
theorem Increasing.nodup {key : α → String} {l : List α} (h : Increasing key l) :
    (l.map key).Nodup := by
  rw [List.Nodup, List.pairwise_map]
  refine List.Pairwise.imp (fun {x y} hbefore heq => ?_) h
  rw [heq] at hbefore
  exact Before.irrefl _ hbefore

/-- The keys after an insertion are the keys before it and the new one. -/
theorem exists_key_insertBy (key : α → String) (a : α) (l : List α) (k : String) :
    (∃ x ∈ insertBy key a l, key x = k) ↔ key a = k ∨ ∃ x ∈ l, key x = k := by
  induction l with
  | nil => simp [insertBy]
  | cons y rest ih =>
    unfold insertBy
    split
    · rename_i h
      simp only [List.mem_cons, exists_eq_or_imp, h]
      constructor
      · rintro (h' | h')
        · exact .inl h'
        · exact .inr (.inr h')
      · rintro (h' | h' | h')
        · exact .inl h'
        · exact .inl h'
        · exact .inr h'
    · split
      · simp only [List.mem_cons, exists_eq_or_imp]
      · simp only [List.mem_cons, exists_eq_or_imp, ih]
        constructor
        · rintro (h' | h' | h')
          · exact .inr (.inl h')
          · exact .inl h'
          · exact .inr (.inr h')
        · rintro (h' | h' | h')
          · exact .inr (.inl h')
          · exact .inl h'
          · exact .inr (.inr h')

/-- An insertion keeps a list increasing. -/
theorem increasing_insertBy (key : α → String) (a : α) {l : List α} (h : Increasing key l) :
    Increasing key (insertBy key a l) := by
  induction l with
  | nil => simp [insertBy, Increasing]
  | cons y rest ih =>
    have hy : ∀ x ∈ rest, Before (key y) (key x) := (List.pairwise_cons.mp h).1
    have hrest : Increasing key rest := (List.pairwise_cons.mp h).2
    unfold insertBy
    split
    · rename_i heq
      exact List.pairwise_cons.mpr ⟨fun x hx => heq ▸ hy x hx, hrest⟩
    · split
      · rename_i hlt
        refine List.pairwise_cons.mpr ⟨fun x hx => ?_, h⟩
        rcases List.mem_cons.mp hx with rfl | hx
        · exact hlt
        · exact hlt.trans (hy x hx)
      · rename_i hne hnlt
        refine List.pairwise_cons.mpr ⟨fun x hx => ?_, ih hrest⟩
        have hbefore : Before (key y) (key a) :=
          (before_or_before_of_ne hne).resolve_left hnlt
        rcases (exists_key_insertBy key a rest (key x)).mp ⟨x, hx, rfl⟩ with hk | ⟨z, hz, hk⟩
        · exact hk ▸ hbefore
        · exact hk ▸ hy z hz

/-- The entries of a list, increasing in `key`; of entries with one key the last stays. -/
def orderBy (key : α → String) (l : List α) : List α :=
  l.foldl (fun sorted a => insertBy key a sorted) []

theorem increasing_foldl_insertBy (key : α → String) (l : List α) {start : List α}
    (h : Increasing key start) :
    Increasing key (l.foldl (fun sorted a => insertBy key a sorted) start) := by
  induction l generalizing start with
  | nil => exact h
  | cons a rest ih => exact ih (increasing_insertBy key a h)

theorem increasing_orderBy (key : α → String) (l : List α) : Increasing key (orderBy key l) :=
  increasing_foldl_insertBy key l .nil

theorem exists_key_foldl_insertBy (key : α → String) (l start : List α) (k : String) :
    (∃ x ∈ l.foldl (fun sorted a => insertBy key a sorted) start, key x = k) ↔
      (∃ x ∈ l, key x = k) ∨ ∃ x ∈ start, key x = k := by
  induction l generalizing start with
  | nil => simp
  | cons a rest ih =>
    simp only [List.foldl_cons, ih, exists_key_insertBy, List.mem_cons, exists_eq_or_imp]
    constructor
    · rintro (h | h | h)
      · exact .inl (.inr h)
      · exact .inl (.inl h)
      · exact .inr h
    · rintro ((h | h) | h)
      · exact .inr (.inl h)
      · exact .inl h
      · exact .inr (.inr h)

/-- The keys of the ordered list are the keys of the list. -/
theorem exists_key_orderBy (key : α → String) (l : List α) (k : String) :
    (∃ x ∈ orderBy key l, key x = k) ↔ ∃ x ∈ l, key x = k := by
  simp [orderBy, exists_key_foldl_insertBy]

/-- A set of strings, as the increasing list of its members. -/
theorem mem_orderBy_id (l : List String) (k : String) : k ∈ orderBy id l ↔ k ∈ l := by
  have h := exists_key_orderBy id l k
  simpa using h

end Text

end GuardedGateway
