import GuardedGateway.Numeric.Binary64

/-!
# JSON values

A value keeps what a reader of the text can tell apart: whole numbers are separate from numbers
written with a fraction or an exponent, and an object is the list of its members in the order in
which they were written.  `Fields.put` is how an object grows: a new key goes to the end, a key that
is there already keeps its place and takes the new value, so the keys of an object are distinct.
-/

namespace GuardedGateway

/-- A number of a JSON text.  Whole numbers are kept from `-2 ^ 63` up to `2 ^ 64 - 1`. -/
inductive Json.Number where
  | int (value : Int)
  | float (value : Binary64)
  deriving DecidableEq, Repr, Inhabited

/-- A JSON value. -/
inductive Json where
  | null
  | bool (value : Bool)
  | num (value : Json.Number)
  | str (value : String)
  | arr (items : List Json)
  | obj (fields : List (String × Json))
  deriving Repr, Inhabited

/-- The members of an object, in order. -/
abbrev Fields := List (String × Json)

namespace Fields

/-- The value under a key. -/
def get? (fields : Fields) (key : String) : Option Json :=
  match fields with
  | [] => none
  | (k, v) :: rest => if k = key then some v else get? rest key

/-- The keys, in order. -/
def keys (fields : Fields) : List String :=
  fields.map Prod.fst

/-- Sets the value under a key, in its place or at the end. -/
def put (fields : Fields) (key : String) (value : Json) : Fields :=
  match fields with
  | [] => [(key, value)]
  | (k, v) :: rest => if k = key then (k, value) :: rest else (k, v) :: put rest key value

@[simp] theorem get?_nil (key : String) : get? [] key = none := rfl

@[simp] theorem get?_put_self (fields : Fields) (key : String) (value : Json) :
    (fields.put key value).get? key = some value := by
  induction fields with
  | nil => simp [put, get?]
  | cons f rest ih =>
    unfold put
    split
    · rename_i h; simp [get?, h]
    · rename_i h; simp [get?, h, ih]

theorem get?_put_of_ne (fields : Fields) {key other : String} (value : Json) (h : key ≠ other) :
    (fields.put key value).get? other = fields.get? other := by
  induction fields with
  | nil => simp [put, get?, h]
  | cons f rest ih =>
    unfold put
    split
    · rename_i hk; subst hk; simp [get?, h]
    · simp [get?, ih]

/-- Setting a value keeps the keys distinct. -/
theorem nodup_keys_put {fields : Fields} (key : String) (value : Json)
    (h : fields.keys.Nodup) : (fields.put key value).keys.Nodup := by
  have hmem : ∀ (l : Fields) (k : String), k ∈ (l.put key value).keys → k ∈ l.keys ∨ k = key := by
    intro l
    induction l with
    | nil => intro k hk; simp [put, keys] at hk; exact .inr hk
    | cons f rest ih =>
      intro k hk
      unfold put at hk
      split at hk
      · exact .inl hk
      · rcases List.mem_cons.mp hk with rfl | hk
        · exact .inl (List.mem_cons_self ..)
        · exact (ih k hk).imp (List.mem_cons_of_mem _) id
  induction fields with
  | nil => simp [put, keys]
  | cons f rest ih =>
    have hnot : f.1 ∉ keys rest := (List.nodup_cons.mp h).1
    have hrest : (keys rest).Nodup := (List.nodup_cons.mp h).2
    unfold put
    split
    · exact h
    · rename_i hne
      refine List.nodup_cons.mpr ⟨fun hk => ?_, ih hrest⟩
      rcases hmem rest f.1 hk with hk | hk
      · exact hnot hk
      · exact hne hk

end Fields

namespace Json

/-- A whole number. -/
def ofInt (n : Int) : Json :=
  .num (.int n)

/-- A natural number. -/
def ofNat (n : Nat) : Json :=
  .num (.int n)

/-- A list of strings. -/
def ofStrings (names : List String) : Json :=
  .arr (names.map .str)

/-- A string, or nothing. -/
def ofOption : Option String → Json
  | some s => .str s
  | none => .null

/-- The member of an object under a key. -/
def field? : Json → String → Option Json
  | .obj fields, key => Fields.get? fields key
  | _, _ => none

/-- The content of a string. -/
def text? : Json → Option String
  | .str s => some s
  | _ => none

/-- The content of a string that is not empty. -/
def nonEmptyText? (v : Json) : Option String :=
  v.text?.filter fun s => s != ""

mutual

/-- Whether two values are equal. -/
def same : Json → Json → Bool
  | .null, .null => true
  | .bool a, .bool b => a == b
  | .num a, .num b => a == b
  | .str a, .str b => a == b
  | .arr a, .arr b => sameItems a b
  | .obj a, .obj b => sameFields a b
  | _, _ => false
termination_by structural v => v

/-- Whether two lists of values are equal. -/
def sameItems : List Json → List Json → Bool
  | [], [] => true
  | v :: vs, w :: ws => same v w && sameItems vs ws
  | _, _ => false
termination_by structural vs => vs

/-- Whether two lists of members are equal. -/
def sameFields : List (String × Json) → List (String × Json) → Bool
  | [], [] => true
  | f :: fs, g :: gs => sameField f g && sameFields fs gs
  | _, _ => false
termination_by structural fs => fs

/-- Whether two members are equal. -/
def sameField : String × Json → String × Json → Bool
  | (k, v), (l, w) => k == l && same v w
termination_by structural f => f

end

end Json

end GuardedGateway
