import GuardedGateway.Json.Basic

/-!
# TOML documents

A document is a tree of tables.  How a table came to be decides who may add to it later: one written
between braces is closed, one that only appeared in the middle of a header may still get a header of
its own, and one that appeared in a dotted key may be extended by dotted keys of the same section.

A settings file is data of a known shape, so a document is read through the values of JSON.  No
setting is a floating point number or a date: of the first only the kind is kept, and the second is
an object that no setting knows.
-/

namespace GuardedGateway.Toml

/-- How a table came to be. -/
inductive Origin where
  /-- Between braces. -/
  | inline
  /-- By its own header. -/
  | header
  /-- In the middle of a header. -/
  | implied
  /-- In the middle of a dotted key. -/
  | dotted
  deriving DecidableEq, Repr

/-- A value of a document. -/
inductive Node where
  | string (value : String)
  | integer (value : Int)
  | float
  | boolean (value : Bool)
  | datetime (text : String)
  | array (items : List Node)
  | table (origin : Origin) (entries : List (String × Node))
  /-- The tables of repeated headers, in order. -/
  | tables (elements : List Node)
  deriving Repr, Inhabited

/-- The entries of a table, in order. -/
abbrev Entries := List (String × Node)

/-! ## As JSON -/

mutual

/-- The value of JSON that a node stands for. -/
def Node.toJson : Node → Json
  | .string s => .str s
  | .integer n => .ofInt n
  | .float => .num (.float .zero)
  | .boolean b => .bool b
  | .datetime text => .obj [("datetime", .str text)]
  | .array items => .arr (itemsToJson items)
  | .table _ entries => .obj (entriesToJson entries)
  | .tables elements => .arr (itemsToJson elements)
termination_by structural n => n

/-- The values that a list of nodes stands for. -/
def itemsToJson : List Node → List Json
  | [] => []
  | n :: rest => n.toJson :: itemsToJson rest
termination_by structural ns => ns

/-- The members that the entries of a table stand for. -/
def entriesToJson : List (String × Node) → List (String × Json)
  | [] => []
  | e :: rest => entryToJson e :: entriesToJson rest
termination_by structural es => es

/-- The member that an entry of a table stands for. -/
def entryToJson : String × Node → String × Json
  | (key, n) => (key, n.toJson)
termination_by structural e => e

end

/-! ## Growing a table -/

namespace Entries

/-- Sets the node under a key, in its place or at the end. -/
def put (entries : Entries) (key : String) (node : Node) : Entries :=
  match entries with
  | [] => [(key, node)]
  | (k, n) :: rest => if k = key then (k, node) :: rest else (k, n) :: put rest key node

/-- Works on the table at the end of a path and puts the result in its place.  Tables on the way that
are not there yet are made; a table of repeated headers stands for its last element.  On the way of a
dotted key there are only tables that may be extended by one. -/
def descend {α : Type} (dotted : Bool) (work : Origin → Entries → Option (α × Entries)) :
    Origin → List String → Entries → Option (α × Entries)
  | origin, [], entries => work origin entries
  | _, key :: path, entries =>
    match entries.lookup key with
    | none => do
      let origin := if dotted then .dotted else .implied
      let (a, inner) ← descend dotted work origin path []
      return (a, entries.put key (.table origin inner))
    | some (.table origin inner) =>
      if origin = .inline ∨ (dotted ∧ origin = .header) then none
      else do
        let (a, inner) ← descend dotted work origin path inner
        return (a, entries.put key (.table origin inner))
    | some (.tables elements) =>
      match elements.getLast? with
      | some (.table origin inner) => do
        let (a, inner) ← descend dotted work origin path inner
        return (a, entries.put key (.tables (elements.dropLast ++ [.table origin inner])))
      | _ => none
    | some _ => none

/-- Adds what a dotted key assigns.  A key of one part goes into the table itself; a longer one goes
into a table that dotted keys made. -/
def assign (path : List String) (key : String) (node : Node) (entries : Entries) :
    Option Entries := do
  let place (origin : Origin) (inner : Entries) : Option (Unit × Entries) :=
    if !path.isEmpty && origin != .dotted then none
    else if (inner.lookup key).isSome then none
    else some ((), inner.put key node)
  let (_, entries) ← descend true place .header path entries
  return entries

end Entries

end GuardedGateway.Toml
