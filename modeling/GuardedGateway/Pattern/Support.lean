import GuardedGateway.Pattern.Reader

/-!
# Which patterns can be used

A pattern that can be read need not be one that can be used.  It is matched against text, so it must
not match a part of a character; and it is matched without tables of the standard for characters, so
it must not ask for what only they can tell.

## With the flag `unicode`

Characters are those of the standard.  A class with a letter of its own, the boundary of a word and
letters without regard to case would need the tables.  Without regard to case nothing with a
character in it can be used, whether or not the character has a case.

## Without the flag

Characters are bytes, and a class must keep to ASCII: a negated one never does, and neither does the
class of everything.  Outside brackets a character above ASCII still stands for its own bytes, unless
it is written as one byte.
-/

namespace GuardedGateway.Pattern

/-- The flags that decide whether a part can be used. -/
structure Flags where
  unicode : Bool
  caseInsensitive : Bool
  deriving DecidableEq, Repr

/-- The flags before any change. -/
def Flags.initial : Flags := ⟨true, false⟩

/-- The flags after a change. -/
def Flags.after (flags : Flags) (change : FlagChange) : Flags where
  unicode := change.setting .unicode flags.unicode
  caseInsensitive := change.setting .caseInsensitive flags.caseInsensitive

/-- Whether a character is one of ASCII. -/
def Literal.isAscii (l : Literal) : Bool :=
  l.char.toNat < 0x80

/-- Whether a character can be used outside brackets. -/
def Literal.isUsable (flags : Flags) (l : Literal) : Bool :=
  if flags.unicode then !flags.caseInsensitive else !l.isByte || l.isAscii

/-- Whether a class can be used that a letter stands for. -/
def isUsableShorthand (flags : Flags) (negated : Bool) : Bool :=
  !flags.unicode && !negated

mutual

/-- Whether an item between brackets can be used. -/
def Item.isUsable (flags : Flags) : Item → Bool
  | .literal l => if flags.unicode then !flags.caseInsensitive else l.isAscii
  | .range low high =>
    if flags.unicode then !flags.caseInsensitive else low.isAscii && high.isAscii
  | .shorthand _ negated => isUsableShorthand flags negated
  | .posix _ negated => if flags.unicode then !flags.caseInsensitive else !negated
  | .bracket negated first more =>
    (flags.unicode || !negated) && areUsableItems flags first && areUsableOperands flags more

/-- Whether some items can be used. -/
def areUsableItems (flags : Flags) : List Item → Bool
  | [] => true
  | item :: rest => item.isUsable flags && areUsableItems flags rest

/-- Whether the operands of some operations can be used. -/
def areUsableOperands (flags : Flags) : List (SetOperation × List Item) → Bool
  | [] => true
  | (_, items) :: rest => areUsableItems flags items && areUsableOperands flags rest

end

mutual

/-- The flags after a part, if it can be used. -/
def Part.use? (flags : Flags) : Part → Option Flags
  | .literal l => if l.isUsable flags then some flags else none
  | .anything => if flags.unicode then some flags else none
  | .edge => some flags
  | .boundary => if flags.unicode then none else some flags
  | .shorthand _ negated => if isUsableShorthand flags negated then some flags else none
  | .bracket negated first more =>
    if (Item.bracket negated first more).isUsable flags then some flags else none
  | .flags change => some (flags.after change)
  | .group _ change branches => (useBranches? (flags.after change) branches).map fun _ => flags
  | .repeated part => part.use? flags

/-- The flags after some parts, if they can be used. -/
def useParts? (flags : Flags) : List Part → Option Flags
  | [] => some flags
  | part :: rest =>
    match part.use? flags with
    | some next => useParts? next rest
    | none => none

/-- The flags after some branches, if they can be used.  What one branch changes holds in the next. -/
def useBranches? (flags : Flags) : List (List Part) → Option Flags
  | [] => some flags
  | parts :: rest =>
    match useParts? flags parts with
    | some next => useBranches? next rest
    | none => none

end

/-- Whether a text spells a pattern that can be used. -/
def isUsable (text : List Char) : Bool :=
  match read? text with
  | some branches => (useBranches? .initial branches).isSome
  | none => false

end GuardedGateway.Pattern
