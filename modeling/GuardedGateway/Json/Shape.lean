import GuardedGateway.Json.Reader
import GuardedGateway.Text.Order

/-!
# Reading a value of a known shape

A body, a snapshot and a settings file are JSON of a known shape.  A `Shape` says how to read it in
two ways: from bytes, where an unknown member is skipped unread and a repeated one is refused, and
from a value that has been read already, where neither can be told.

## Records

A record is a starting value and a list of fields, each of which knows how to put what it reads into
the record.  So one list says what the members are called, in which order they stand when the record
is written as a list, which of them may be missing, and what is there when they are.

## Places

A refusal is placed where the reader stands when it is found: after a scalar of the wrong type,
before a list or an object where none may be, after a repeated key and the blanks behind it, and
after the closing bracket of a record that lacks a field.  A repeated key with nothing behind it but
the closing brace is refused after the brace.
-/

namespace GuardedGateway.Json

/-- How to read values of a type, from bytes with a number of levels to spare, and from a value. -/
structure Shape (α : Type) where
  expecting : String
  read : Nat → Reader α
  ofJson : Json → Except Cause α

namespace Shape

variable {α : Type}

/-- Refuses a value for its type. -/
def wrong (expecting : String) (v : Json) : Except Cause α :=
  .error (.wrongType (found v) expecting)

/-- Refuses the next value for its type. -/
def mismatch (expecting : String) : Reader α := fun s =>
  match skipSpace s with
  | [] => stopAfter .endInValue []
  | b :: r =>
    if b = 91 then stopHere (.wrongType .list expecting) (b :: r)
    else if b = 123 then stopHere (.wrongType .object expecting) (b :: r)
    else do
      let (v, t) ← valueWith none (b :: r)
      stopHere (.wrongType (found v) expecting) t

/-- A value that is neither a list nor an object. -/
def scalar (expecting : String) (take : Json → Except Cause α) : Shape α where
  expecting := expecting
  read _ s :=
    match skipSpace s with
    | [] => stopAfter .endInValue []
    | b :: r =>
      if b = 91 ∨ b = 123 then mismatch expecting (b :: r)
      else do
        let (v, t) ← valueWith none (b :: r)
        match take v with
        | .ok a => return (a, t)
        | .error cause => stopHere cause t
  ofJson := take

/-- A string. -/
def string : Shape String :=
  scalar "a string" fun
    | .str s => .ok s
    | v => wrong "a string" v

/-- A boolean. -/
def flag : Shape Bool :=
  scalar "a boolean" fun
    | .bool b => .ok b
    | v => wrong "a boolean" v

/-- An integer from `low` on and below `bound`. -/
def integer (expecting : String) (low bound : Int) : Shape Int :=
  scalar expecting fun
    | .num (.int n) =>
      if low ≤ n ∧ n < bound then .ok n else .error (.wrongValue (.int n) expecting)
    | v => wrong expecting v

/-- What a shape reads, under a function. -/
def map {β : Type} (f : α → β) (shape : Shape α) : Shape β where
  expecting := shape.expecting
  read depth s := do let (a, t) ← shape.read depth s; return (f a, t)
  ofJson v := f <$> shape.ofJson v

/-- A natural number of 64 bits. -/
def word : Shape Nat :=
  (integer "u64" 0 UInt64.size).map Int.toNat

/-- A size in memory: a natural number of 64 bits. -/
def size : Shape Nat :=
  (integer "usize" 0 UInt64.size).map Int.toNat

/-- An integer of 32 bits. -/
def int32 : Shape Int :=
  integer "i32" (-2147483648) 2147483648

/-- A string, or null in its place. -/
def optionalString : Shape (Option String) :=
  scalar "a string" fun
    | .str s => .ok (some s)
    | .null => .ok none
    | v => wrong "a string" v

/-- Any value. -/
def any : Shape Json where
  expecting := "any valid JSON value"
  read depth s := value depth s
  ofJson v := .ok v

/-- Reads what stands between the brackets of a list, or refuses the value. -/
def inList (expecting : String) (inner : Nat → Reader α) : Nat → Reader α := fun depth s =>
  match skipSpace s with
  | 91 :: r =>
    match depth with
    | 0 => stopAfter .nestedTooDeep (91 :: r)
    | depth + 1 => inner depth r
  | r => mismatch expecting r

/-- Reads what stands between the brackets of an object, or refuses the value. -/
def inObject (expecting : String) (inner : Nat → Reader α) : Nat → Reader α := fun depth s =>
  match skipSpace s with
  | 123 :: r =>
    match depth with
    | 0 => stopAfter .nestedTooDeep (123 :: r)
    | depth + 1 => inner depth r
  | r => mismatch expecting r

/-- An object with members of any name and value. -/
def object : Shape Fields where
  expecting := "a map"
  read := inObject "a map" fun depth => fieldsOf (value depth)
  ofJson
    | .obj fields => .ok fields
    | v => wrong "a map" v

/-- A list of values of one shape. -/
def listOf (shape : Shape α) : Shape (List α) where
  expecting := "a sequence"
  read := inList "a sequence" fun depth s => do
    let (items, t) ← items (fun acc s => do
      let (a, s) ← shape.read depth s
      return (a :: acc, s)) (s.length + 1) true [] s
    return (items.reverse, t)
  ofJson
    | .arr items => items.mapM shape.ofJson
    | v => wrong "a sequence" v

/-- An object whose members have values of one shape, in the order of their names.  Of members with
one name the last stays. -/
def mapOf (shape : Shape α) : Shape (List (String × α)) where
  expecting := "a map"
  read := inObject "a map" fun depth s =>
    members (fun key acc s => do
      let s ← colon s
      let (a, s) ← shape.read depth s
      return (Text.insertBy Prod.fst (key, a) acc, s)) (s.length + 1) true [] s
  ofJson
    | .obj fields => fields.foldlM (fun acc field => do
        return Text.insertBy Prod.fst (field.1, ← shape.ofJson field.2) acc) []
    | v => wrong "a map" v

/-- The value of this shape that a text spells. -/
def parse (shape : Shape α) (text : Bytes) : Except Fault α :=
  readWith (shape.read depthLimit) text

end Shape

/-- A member of a record of type `σ`. -/
structure Field (σ : Type) where
  name : String
  required : Bool
  read : Nat → σ → Reader σ
  ofJson : σ → Json → Except Cause σ

/-- A member that may be missing. -/
def Field.optional {σ α : Type} (name : String) (shape : Shape α) (put : σ → α → σ) : Field σ where
  name := name
  required := false
  read depth r s := do let (a, t) ← shape.read depth s; return (put r a, t)
  ofJson r v := do return put r (← shape.ofJson v)

/-- A member that must be there. -/
def Field.needed {σ α : Type} (name : String) (shape : Shape α) (put : σ → α → σ) : Field σ :=
  { Field.optional name shape put with required := true }

/-- A record: its name, what it holds before anything is read, and its members. -/
structure Record (σ : Type) where
  name : String
  start : σ
  fields : List (Field σ)

namespace Record

variable {σ : Type}

/-- What a refusal says was expected. -/
def expecting (record : Record σ) : String :=
  "struct " ++ record.name

/-- What a refusal says was expected of a list that is too short. -/
def expectingItems (record : Record σ) : String :=
  record.expecting ++ " with " ++ toString record.fields.length ++
    if record.fields.length = 1 then " element" else " elements"

def field? (record : Record σ) (name : String) : Option (Field σ) :=
  record.fields.find? fun f => f.name == name

/-- The first field that must be there and is not among the names. -/
def missing? (record : Record σ) (names : List String) : Option (Field σ) :=
  record.fields.find? fun f => f.required && !names.contains f.name

/-- A record under construction, and the names of the fields read so far. -/
abbrev Partly (σ : Type) := σ × List String

/-- Where a repeated key is refused: before what follows it, or after a closing brace. -/
def afterKey (s : Bytes) : Bytes :=
  match skipSpace s with
  | 125 :: r => r
  | r => r

/-- Reads the member with this key, from before its colon. -/
def member (record : Record σ) (depth : Nat) (key : String) (sofar : Partly σ) :
    Reader (Partly σ) := fun s =>
  match record.field? key with
  | none => do
    let s ← colon s
    let s ← skipValue s
    return (sofar, s)
  | some f =>
    if sofar.2.contains key then stopHere (.duplicateField key) (afterKey s)
    else do
      let s ← colon s
      let (r, s) ← f.read depth sofar.1 s
      return ((r, key :: sofar.2), s)

/-- Reads the members of an object; the opening brace has been consumed. -/
def ofMembers (record : Record σ) (depth : Nat) : Reader σ := fun s => do
  let (sofar, t) ← members (record.member depth) (s.length + 1) true (record.start, []) s
  match record.missing? sofar.2 with
  | some f => stopHere (.missingField f.name) t
  | none => return (sofar.1, t)

/-- Reads the items of a list, one for each field in order; the opening bracket has been consumed.
`index` counts the fields that have been passed. -/
def ofItems (record : Record σ) (depth : Nat) : List (Field σ) → Nat → σ → Reader σ
  | [], _, r, s => do
    let s ← closeList s
    return (r, s)
  | f :: rest, index, r, s => do
    let (more, s) ← nextItem (index == 0) s
    if more then
      let (r, s) ← f.read depth r s
      ofItems record depth rest (index + 1) r s
    else if f.required then stopHere (.wrongLength index record.expectingItems) (s.drop 1)
    else ofItems record depth rest (index + 1) r s

/-- The record with these members. -/
def ofFields (record : Record σ) (fields : Fields) : Except Cause σ := do
  let r ← fields.foldlM (fun r field =>
    match record.field? field.1 with
    | some f => f.ofJson r field.2
    | none => .ok r) record.start
  match record.missing? fields.keys with
  | some f => .error (.missingField f.name)
  | none => .ok r

/-- The record with these values, one for each field in order. -/
def ofValues (record : Record σ) : List (Field σ) → Nat → σ → List Json → Except Cause σ
  | [], _, r, [] => .ok r
  | [], index, _, v :: vs =>
    .error (.wrongLength (index + (v :: vs).length) "fewer elements in array")
  | f :: rest, index, r, [] =>
    if f.required then .error (.wrongLength index record.expectingItems)
    else ofValues record rest (index + 1) r []
  | f :: rest, index, r, v :: vs => do
    ofValues record rest (index + 1) (← f.ofJson r v) vs

/-- A record is written as an object, or as a list of its fields. -/
def shape (record : Record σ) : Shape σ where
  expecting := record.expecting
  read depth s :=
    match skipSpace s with
    | 91 :: r =>
      Shape.inList record.expecting (fun depth =>
        record.ofItems depth record.fields 0 record.start) depth (91 :: r)
    | r => Shape.inObject record.expecting record.ofMembers depth r
  ofJson
    | .obj fields => record.ofFields fields
    | .arr items => record.ofValues record.fields 0 record.start items
    | v => Shape.wrong record.expecting v

/-- A record whose list of fields may go on with values that are not looked at. -/
def openShape (record : Record σ) : Shape σ :=
  { record.shape with
    ofJson
      | .arr items => record.shape.ofJson (.arr (items.take record.fields.length))
      | v => record.shape.ofJson v }

end Record

end GuardedGateway.Json
