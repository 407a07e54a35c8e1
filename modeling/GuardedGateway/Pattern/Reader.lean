import GuardedGateway.Pattern.Basic
import GuardedGateway.Text.Blank
import GuardedGateway.Text.Case
import GuardedGateway.Text.Hex

/-!
# Reading a pattern

Readers take the characters that are left and give what they read with the characters after it.

## What cannot be written

A pattern stands between braces, so it contains no closing one.  Whatever needs one has no reader
here: counted repetition, code points and places named between braces.  An opening brace outside
brackets, which would begin such a thing, is refused.

## Verbose text

Under the flag `verbose` blanks mean nothing, and neither does a comment from a number sign to the
end of its line.  The flag holds up to the end of the group in which it is set, so what reads the
parts of a group hands it on and what reads a group takes it back.
-/

namespace GuardedGateway.Pattern

/-- Reads something from the front of a text, if it is there. -/
abbrev Reader (α : Type) := List Char → Option (α × List Char)

/-! ## Blanks -/

/-- The text after blanks and comments; `comment` holds within a comment. -/
def skipRemarks (comment : Bool) : List Char → List Char
  | [] => []
  | c :: rest =>
    if comment then skipRemarks (c != '\n') rest
    else if Text.isBlank c then skipRemarks false rest
    else if c = '#' then skipRemarks true rest
    else c :: rest

/-- The text after what means nothing. -/
def skip (verbose : Bool) (s : List Char) : List Char :=
  if verbose then skipRemarks false s else s

/-- The text after what means nothing, if there is any. -/
def skipTo? (verbose : Bool) (s : List Char) : Option (List Char) :=
  match skip verbose s with
  | [] => none
  | next => some next

/-- The next character that counts.  Of a comment only the number sign is passed over. -/
def peek (verbose : Bool) (s : List Char) : Option Char :=
  let next := match s.dropWhile Text.isBlank with
    | '#' :: rest => (rest.dropWhile Text.isBlank).head?
    | rest => rest.head?
  if verbose then next <|> s.head? else s.head?

/-! ## Escapes -/

/-- What an escape stands for. -/
inductive Escape where
  | literal (l : Literal)
  | shorthand (kind : Shorthand) (negated : Bool)
  | edge
  | boundary

/-- A number of hexadecimal digits, after those that `n` stands for. -/
def hexNumber (verbose : Bool) : Nat → Nat → Reader Nat
  | 0, n, s => some (n, s)
  | count + 1, n, s =>
    match skip verbose s with
    | [] => none
    | c :: rest => do
      let d ← Text.hexDigitValue? (Text.lowerAscii c)
      hexNumber verbose count (n * 16 + d) rest

/-- A character by its number in hexadecimal digits. -/
def numbered (verbose : Bool) (count : Nat) (isByte : Bool) : Reader Escape := fun s => do
  let (n, rest) ← hexNumber verbose count 0 s
  if n.isValidChar then return (.literal ⟨Char.ofNat n, isByte⟩, rest) else none

/-- Whether a character stands for itself after a backslash: a sign of ASCII, but for the angles. -/
def isSign (c : Char) : Bool :=
  c.toNat < 0x80 && !c.isAlphanum && c != '<' && c != '>'

/-- An escape; the backslash has been consumed. -/
def escape (verbose : Bool) : Reader Escape
  | [] => none
  | c :: rest =>
    let single (n : Nat) : Escape := .literal ⟨Char.ofNat n, false⟩
    match c with
    | 'x' => numbered verbose 2 true rest
    | 'u' => numbered verbose 4 false rest
    | 'U' => numbered verbose 8 false rest
    | 'd' => some (.shorthand .digit false, rest)
    | 'D' => some (.shorthand .digit true, rest)
    | 's' => some (.shorthand .space false, rest)
    | 'S' => some (.shorthand .space true, rest)
    | 'w' => some (.shorthand .word false, rest)
    | 'W' => some (.shorthand .word true, rest)
    | 'a' => some (single 7, rest)
    | 't' => some (single 9, rest)
    | 'n' => some (single 10, rest)
    | 'v' => some (single 11, rest)
    | 'f' => some (single 12, rest)
    | 'r' => some (single 13, rest)
    | 'A' => some (.edge, rest)
    | 'z' => some (.edge, rest)
    | 'b' => some (.boundary, rest)
    | 'B' => some (.boundary, rest)
    | '<' => some (.boundary, rest)
    | '>' => some (.boundary, rest)
    | c => if isSign c then some (.literal ⟨c, false⟩, rest) else none

/-! ## Brackets -/

/-- A character or an escape between brackets. -/
def inBracket (verbose : Bool) : Reader Escape
  | [] => none
  | '\\' :: rest => escape verbose rest
  | c :: rest => some (.literal ⟨c, false⟩, rest)

/-- An escape as an item.  A place is none. -/
def Escape.item? : Escape → Option Item
  | .literal l => some (.literal l)
  | .shorthand kind negated => some (.shorthand kind negated)
  | .edge => none
  | .boundary => none

/-- A range of characters, if it is one. -/
def range? : Escape → Escape → Option Item
  | .literal low, .literal high =>
    if low.char.toNat ≤ high.char.toNat then some (.range low high) else none
  | _, _ => none

/-- One item that is not in brackets of its own: a range if a hyphen follows, unless the hyphen is
the last character or the first of an operation. -/
def singleItem (verbose : Bool) : Reader Item := fun s => do
  let (low, rest) ← inBracket verbose s
  match ← skipTo? verbose rest with
  | '-' :: after =>
    let next := peek verbose after
    if next = some ']' ∨ next = some '-' then return (← low.item?, '-' :: after)
    else
      let (high, rest) ← inBracket verbose (skip verbose after)
      return (← range? low high, rest)
  | rest => return (← low.item?, rest)

/-- A class by its name between colons; the bracket before the first one has been consumed. -/
def posixItem? : Reader Item
  | ':' :: rest =>
    let (negated, rest) := match rest with
      | '^' :: rest => (true, rest)
      | rest => (false, rest)
    match rest.dropWhile (· != ':') with
    | ':' :: ']' :: after =>
      (Posix.ofChars? (rest.takeWhile (· != ':'))).map fun kind => (.posix kind negated, after)
    | _ => none
  | _ => none

/-- Hyphens at the beginning, which stand for themselves. -/
def hyphens (verbose : Bool) : Nat → List Item → Reader (List Item)
  | 0, _, _ => none
  | fuel + 1, found, s => do
    match ← skipTo? verbose s with
    | '-' :: rest => hyphens verbose fuel (.literal ⟨'-', false⟩ :: found) rest
    | s => return (found, s)

/-- The items with which a bracket begins: hyphens, or a closing bracket, which otherwise would end
it. -/
def firstItems (verbose : Bool) : Reader (List Item) := fun s => do
  let (found, s) ← hyphens verbose (s.length + 1) [] s
  match found, s with
  | [], ']' :: rest => return ([.literal ⟨']', false⟩], ← skipTo? verbose rest)
  | found, s => return (found, s)

/-- The operands of a bracket: the items before the first operation, and those after each one. -/
abbrev Operands := List Item × List (SetOperation × List Item)

mutual

/-- A bracket; the opening one has been consumed. -/
def bracket (verbose : Bool) : Nat → Reader Item
  | 0, _ => none
  | fuel + 1, s => do
    let (negated, s) ← match ← skipTo? verbose s with
      | '^' :: rest => some (true, rest)
      | s => some (false, s)
    let (found, s) ← firstItems verbose s
    let ((first, more), s) ← operands verbose fuel found s
    return (.bracket negated first more, s)

/-- The rest of a bracket, after items that were found already; the closing bracket is consumed. -/
def operands (verbose : Bool) : Nat → List Item → Reader Operands
  | 0, _, _ => none
  | fuel + 1, found, s => do
    let next (operation : SetOperation) (rest : List Char) : Option (Operands × List Char) := do
      let ((first, more), s) ← operands verbose fuel [] rest
      return ((found.reverse, (operation, first) :: more), s)
    match ← skipTo? verbose s with
    | ']' :: rest => return ((found.reverse, []), rest)
    | '&' :: '&' :: rest => next .intersection rest
    | '-' :: '-' :: rest => next .difference rest
    | '~' :: '~' :: rest => next .symmetricDifference rest
    | '[' :: rest =>
      match posixItem? rest with
      | some (item, rest) => operands verbose fuel (item :: found) rest
      | none => do
        let (item, rest) ← bracket verbose fuel rest
        operands verbose fuel (item :: found) rest
    | s => do
      let (item, rest) ← singleItem verbose s
      operands verbose fuel (item :: found) rest

end

/-! ## Groups -/

/-- Flags up to a colon or a closing parenthesis, which is given too.  Those after a hyphen are
cleared; a hyphen stands at most once and not at the end, and a flag at most once. -/
def flagChange (on dangling : Bool) (found : FlagChange) : Reader (FlagChange × Char)
  | [] => none
  | c :: rest =>
    if c = ':' ∨ c = ')' then if dangling then none else some ((found.reverse, c), rest)
    else if c = '-' then if on then flagChange false true found rest else none
    else do
      let flag ← Flag.ofChar? c
      if found.any fun f => f.1 = flag then none
      else flagChange on false ((flag, on) :: found) rest

/-- Whether a character may begin the name of a group. -/
def canStartName (c : Char) : Bool :=
  c == '_' || Text.isAlphabetic c

/-- Whether a character may stand in the name of a group. -/
def canContinueName (c : Char) : Bool :=
  c == '_' || c == '.' || c == '[' || c == ']' || Text.isAlphanumeric c

/-- The name of a group, and the angle after it. -/
def groupName : Reader String := fun s =>
  match s.takeWhile (· != '>'), s.dropWhile (· != '>') with
  | first :: others, '>' :: rest =>
    if canStartName first && others.all canContinueName then
      some (String.ofList (first :: others), rest)
    else none
  | _, _ => none

/-- What a parenthesis opens: a group with its name and flags, or only a change of flags. -/
inductive Opening where
  | group (name : Option String) (change : FlagChange)
  | flags (change : FlagChange)

/-- What follows an opening parenthesis.  A look around a place is not a group. -/
def opening : Reader Opening
  | '?' :: '=' :: _ => none
  | '?' :: '!' :: _ => none
  | '?' :: '<' :: '=' :: _ => none
  | '?' :: '<' :: '!' :: _ => none
  | '?' :: 'P' :: '<' :: rest => do
    let (name, rest) ← groupName rest
    return (.group (some name) [], rest)
  | '?' :: '<' :: rest => do
    let (name, rest) ← groupName rest
    return (.group (some name) [], rest)
  | '?' :: rest => do
    let ((change, last), rest) ← flagChange true false [] rest
    if last = ':' then return (.group none change, rest)
    else if change = [] then none
    else return (.flags change, rest)
  | rest => some (.group none [], rest)

/-- Whether a flag is set after a change. -/
def FlagChange.setting (change : FlagChange) (flag : Flag) (before : Bool) : Bool :=
  (change.lookup flag).getD before

/-! ## Parts -/

/-- An escape as a part. -/
def Escape.part : Escape → Part
  | .literal l => .literal l
  | .shorthand kind negated => .shorthand kind negated
  | .edge => .edge
  | .boundary => .boundary

/-- Whether a part can be repeated.  A change of flags cannot. -/
def Part.isRepeatable : Part → Bool
  | .flags _ => false
  | _ => true

/-- The text after the mark that makes a repetition a short one. -/
def skipLazy : List Char → List Char
  | '?' :: rest => rest
  | rest => rest

/-- What has been read of a branch, the last part first. -/
abbrev Sofar := List Part

mutual

/-- The rest of a branch, and whether the text is verbose at its end. -/
def branch : Nat → Bool → Sofar → Reader (List Part × Bool)
  | 0, _, _, _ => none
  | fuel + 1, verbose, found, s =>
    match skip verbose s with
    | [] => some ((found.reverse, verbose), [])
    | '|' :: rest => some ((found.reverse, verbose), '|' :: rest)
    | ')' :: rest => some ((found.reverse, verbose), ')' :: rest)
    | '(' :: rest => do
      match ← opening (skip verbose rest) with
      | (.flags change, rest) =>
        branch fuel (change.setting .verbose verbose) (.flags change :: found) rest
      | (.group name change, rest) =>
        match ← branches fuel (change.setting .verbose verbose) rest with
        | (body, ')' :: rest) => branch fuel verbose (.group name change body :: found) rest
        | _ => none
    | '[' :: rest => do
      match ← bracket verbose (2 * rest.length + 2) rest with
      | (.bracket negated first more, rest) =>
        branch fuel verbose (.bracket negated first more :: found) rest
      | _ => none
    | '\x7b' :: _ => none
    | '.' :: rest => branch fuel verbose (.anything :: found) rest
    | '^' :: rest => branch fuel verbose (.edge :: found) rest
    | '$' :: rest => branch fuel verbose (.edge :: found) rest
    | '\\' :: rest => do
      let (found', rest) ← escape verbose rest
      branch fuel verbose (found'.part :: found) rest
    | c :: rest =>
      if c = '?' ∨ c = '*' ∨ c = '+' then
        match found with
        | part :: before =>
          if part.isRepeatable then branch fuel verbose (.repeated part :: before) (skipLazy rest)
          else none
        | [] => none
      else branch fuel verbose (.literal ⟨c, false⟩ :: found) rest

/-- The branches up to the end of a group or of the text. -/
def branches : Nat → Bool → Reader Branches
  | 0, _, _ => none
  | fuel + 1, verbose, s => do
    match ← branch fuel verbose [] s with
    | ((parts, verbose), '|' :: rest) =>
      let (more, rest) ← branches fuel verbose rest
      return (parts :: more, rest)
    | ((parts, _), rest) => return ([parts], rest)

end

/-- How deep a pattern may be nested. -/
def depthLimit : Nat := 250

/-- The pattern that a text spells.  No two groups have one name. -/
def read? (text : List Char) : Option Branches :=
  match branches (2 * text.length + 2) false text with
  | some (found, []) =>
    if found.depth ≤ depthLimit ∧ (branchesNames found).Nodup then some found else none
  | _ => none

end GuardedGateway.Pattern
