import GuardedGateway.Json.Basic

/-!
# What a JSON value contains

A value is built from its parts: an array from its items, an object from the values of its members.
`Json.induct` is the induction over this structure, with one case for each kind of value, and
`Json.Within` says that a value stands somewhere in another, however deep.

Where it stands is said by a path.  A step into an object names the member by its place as well as by
its key, so the values at the ends of paths also tell in which order the members are written.
-/

namespace GuardedGateway.Json

/-- Induction over the structure of a value: a property of every scalar, and of an array or an
object whenever all its parts have it, is a property of every value. -/
@[elab_as_elim, induction_eliminator]
theorem induct {motive : Json → Prop} (null : motive .null) (bool : ∀ b, motive (.bool b))
    (num : ∀ n, motive (.num n)) (str : ∀ s, motive (.str s))
    (arr : ∀ items, (∀ v ∈ items, motive v) → motive (.arr items))
    (obj : ∀ fields : Fields, (∀ f ∈ fields, motive f.2) → motive (.obj fields)) :
    ∀ v, motive v
  | .null => null
  | .bool b => bool b
  | .num n => num n
  | .str s => str s
  | .arr items => arr items fun v _ => induct null bool num str arr obj v
  | .obj fields => obj fields fun f _ => induct null bool num str arr obj f.2
termination_by v => sizeOf v
decreasing_by
  · rename_i hv
    have hlt : sizeOf v < sizeOf items := List.sizeOf_lt_of_mem hv
    rw [Json.arr.sizeOf_spec]
    omega
  · rename_i hf
    have hlt : sizeOf f < sizeOf fields := List.sizeOf_lt_of_mem hf
    have hvalue : sizeOf f.2 < sizeOf f := by
      obtain ⟨key, v⟩ := f
      simp only [Prod.mk.sizeOf_spec]
      omega
    rw [Json.obj.sizeOf_spec]
    omega

/-- A value stands in another, at any depth. -/
inductive Within (w : Json) : Json → Prop
  | here : Within w w
  | item {items : List Json} {v : Json} : v ∈ items → Within w v → Within w (.arr items)
  | member {fields : Fields} {f : String × Json} :
    f ∈ fields → Within w f.2 → Within w (.obj fields)

/-! ## Paths -/

/-- A step from a value to one of its parts. -/
inductive Step where
  | item (place : Nat)
  | member (place : Nat) (key : String)
  deriving DecidableEq, Repr

/-- The part of a value that a step leads to. -/
def child? : Json → Step → Option Json
  | .arr items, .item place => items[place]?
  | .obj fields, .member place key =>
    fields[place]?.bind fun f => if f.1 = key then some f.2 else none
  | _, _ => none

/-- The value at the end of a path. -/
def at? (v : Json) : List Step → Option Json
  | [] => some v
  | step :: path => (v.child? step).bind fun part => part.at? path

@[simp] theorem at?_nil (v : Json) : v.at? [] = some v := rfl

theorem at?_cons (v : Json) (step : Step) (path : List Step) :
    v.at? (step :: path) = (v.child? step).bind fun part => part.at? path := rfl

/-- A path is followed one part after the other. -/
theorem at?_append (v : Json) (path more : List Step) :
    v.at? (path ++ more) = (v.at? path).bind fun part => part.at? more := by
  induction path generalizing v with
  | nil => rfl
  | cons step rest ih =>
    rw [List.cons_append, at?_cons, at?_cons, Option.bind_assoc]
    exact congrArg (v.child? step).bind (funext ih)

theorem at?_singleton (v : Json) (step : Step) : v.at? [step] = v.child? step := by
  rw [at?_cons]
  cases v.child? step <;> rfl

theorem child?_member_eq_some_iff {fields : Fields} {place : Nat} {key : String} {v : Json} :
    (Json.obj fields).child? (.member place key) = some v ↔ fields[place]? = some (key, v) := by
  rw [child?, Option.bind_eq_some_iff]
  constructor
  · rintro ⟨f, hplace, hvalue⟩
    obtain ⟨rfl, hsome⟩ := Option.ite_none_right_eq_some.mp hvalue
    obtain rfl := Option.some.inj hsome
    exact hplace
  · exact fun hplace => ⟨(key, v), hplace, if_pos rfl⟩

/-- Two values that are told apart in their parts alone: arrays of one length, objects with the same
keys in the same order, or one scalar. -/
def SameAtTop : Json → Json → Prop
  | .arr items, .arr others => items.length = others.length
  | .obj fields, .obj others => Fields.keys fields = Fields.keys others
  | v, w => v = w

end GuardedGateway.Json
