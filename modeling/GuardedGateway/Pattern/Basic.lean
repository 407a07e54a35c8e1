import GuardedGateway.Text.Alphanumeric

/-!
# Patterns

A pattern is a choice of branches, each a sequence of parts.  A part is a character, a class of
characters, a place that must be reached, a part again and again, a group, or a change of the flags
under which what follows is taken.

## Depth

How deep a pattern is nested is bounded, so that whatever walks through one needs little room.  Every
repetition, group and bracket is a level, and so is a sequence of more than one part, a choice of more
than one branch, and within brackets a list of more than one item and every operation on sets.
-/

namespace GuardedGateway.Pattern

/-- A character, and whether it was written as two hexadecimal digits and so may mean a byte. -/
structure Literal where
  char : Char
  isByte : Bool
  deriving DecidableEq, Repr

/-- A class of characters with a letter of its own. -/
inductive Shorthand where
  | digit
  | space
  | word
  deriving DecidableEq, Repr

/-- A class of ASCII characters with a name of its own. -/
inductive Posix where
  | alnum | alpha | ascii | blank | cntrl | digit | graph | lower | print | punct | space | upper
  | word | xdigit
  deriving DecidableEq, Repr

/-- The class with a name. -/
def Posix.ofChars? (name : List Char) : Option Posix :=
  match String.ofList name with
  | "alnum" => some .alnum
  | "alpha" => some .alpha
  | "ascii" => some .ascii
  | "blank" => some .blank
  | "cntrl" => some .cntrl
  | "digit" => some .digit
  | "graph" => some .graph
  | "lower" => some .lower
  | "print" => some .print
  | "punct" => some .punct
  | "space" => some .space
  | "upper" => some .upper
  | "word" => some .word
  | "xdigit" => some .xdigit
  | _ => none

/-- An operation on two sets of characters. -/
inductive SetOperation where
  | intersection
  | difference
  | symmetricDifference
  deriving DecidableEq, Repr

/-- What stands between brackets: the items before the first operation, and after each one those that
it is applied to.  Operations are applied from the left. -/
inductive Item where
  | literal (l : Literal)
  | range (low high : Literal)
  | shorthand (kind : Shorthand) (negated : Bool)
  | posix (kind : Posix) (negated : Bool)
  | bracket (negated : Bool) (first : List Item) (more : List (SetOperation × List Item))

/-- What a pattern can be told to do. -/
inductive Flag where
  | caseInsensitive
  | multiLine
  | dotMatchesNewline
  | swapGreed
  | unicode
  | anyLineEnd
  | verbose
  deriving DecidableEq, Repr

/-- The flag that a letter stands for. -/
def Flag.ofChar? : Char → Option Flag
  | 'i' => some .caseInsensitive
  | 'm' => some .multiLine
  | 's' => some .dotMatchesNewline
  | 'U' => some .swapGreed
  | 'u' => some .unicode
  | 'R' => some .anyLineEnd
  | 'x' => some .verbose
  | _ => none

/-- Flags that are set or cleared. -/
abbrev FlagChange := List (Flag × Bool)

/-- A part of a pattern. -/
inductive Part where
  | literal (l : Literal)
  | anything
  | edge
  | boundary
  | shorthand (kind : Shorthand) (negated : Bool)
  | bracket (negated : Bool) (first : List Item) (more : List (SetOperation × List Item))
  | flags (change : FlagChange)
  | group (name : Option String) (change : FlagChange) (branches : List (List Part))
  | repeated (part : Part)

/-- A pattern: its branches. -/
abbrev Branches := List (List Part)

/-! ## Depth -/

/-- A level for a list of more than one thing. -/
def level {α : Type} (xs : List α) : Nat :=
  if xs.length < 2 then 0 else 1

mutual

/-- How deep an item is nested. -/
def Item.depth : Item → Nat
  | .literal _ => 0
  | .range .. => 0
  | .shorthand .. => 0
  | .posix .. => 0
  | .bracket _ first more => 1 + operandsDepth (level first + itemsDepth first) more

/-- How deep the deepest of some items is nested. -/
def itemsDepth : List Item → Nat
  | [] => 0
  | item :: rest => max item.depth (itemsDepth rest)

/-- How deep a set is nested after some operations, given its depth before them. -/
def operandsDepth (left : Nat) : List (SetOperation × List Item) → Nat
  | [] => left
  | (_, items) :: rest => operandsDepth (1 + max left (level items + itemsDepth items)) rest

end

mutual

/-- How deep a part is nested. -/
def Part.depth : Part → Nat
  | .literal _ => 0
  | .anything => 0
  | .edge => 0
  | .boundary => 0
  | .shorthand .. => 0
  | .bracket negated first more => (Item.bracket negated first more).depth
  | .flags _ => 0
  | .group _ _ branches => 1 + level branches + branchesDepth branches
  | .repeated part => 1 + part.depth

/-- How deep the deepest of some parts is nested. -/
def partsDepth : List Part → Nat
  | [] => 0
  | part :: rest => max part.depth (partsDepth rest)

/-- How deep the deepest of some branches is nested. -/
def branchesDepth : List (List Part) → Nat
  | [] => 0
  | parts :: rest => max (level parts + partsDepth parts) (branchesDepth rest)

end

/-- How deep a pattern is nested. -/
def Branches.depth (branches : Branches) : Nat :=
  level branches + branchesDepth branches

/-! ## Names -/

mutual

/-- The names of the groups of a part. -/
def Part.names : Part → List String
  | .literal _ => []
  | .anything => []
  | .edge => []
  | .boundary => []
  | .shorthand .. => []
  | .bracket .. => []
  | .flags _ => []
  | .group name _ branches => name.toList ++ branchesNames branches
  | .repeated part => part.names

/-- The names of the groups of some parts. -/
def partsNames : List Part → List String
  | [] => []
  | part :: rest => part.names ++ partsNames rest

/-- The names of the groups of some branches. -/
def branchesNames : List (List Part) → List String
  | [] => []
  | parts :: rest => partsNames parts ++ branchesNames rest

end

end GuardedGateway.Pattern
