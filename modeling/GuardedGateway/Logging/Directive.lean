import GuardedGateway.Logging.Level
import GuardedGateway.Numeric.Reading
import GuardedGateway.Pattern.Support
import GuardedGateway.Text.Alphanumeric
import GuardedGateway.Text.Bytes
import GuardedGateway.Text.Pieces

/-!
# Directives

A directive says up to which level diagnostics are let through, and for whom: for a target, for what
happens inside a span with a name, for what carries a field, or for everybody.  It is written

    target[span{field=value}]=level

and every part of it may be missing.  A single word is a level if it names one, and else a target,
for which everything is let through.

## Blanks in front

Where the parts begin and end is found without the blanks around the text, and the parts are cut out
of the text with them.  So blanks in front move every cut towards the front by as many bytes as they
have.  A single word has nothing to cut and keeps its blanks.

## Precedence

The most specific directive that applies decides, so directives are kept in the order of `compare`:
a longer target is more specific than a shorter one, a span than none and a field than none.  What
remains equal is ordered by its text, and only to have one order.
-/

namespace GuardedGateway.Logging

/-- What a field is compared with. -/
inductive FieldValue where
  | flag (b : Bool)
  | number (x : Numeric.Value)
  | natural (n : Nat)
  | integer (n : Int)
  | pattern (text : String)
  deriving DecidableEq, Repr

namespace FieldValue

/-- The value that a text denotes.  What is neither a truth value nor a number must be a pattern that
can be used. -/
def ofChars? (text : List Char) : Option FieldValue :=
  if text = ['t', 'r', 'u', 'e'] then some (.flag true)
  else if text = ['f', 'a', 'l', 's', 'e'] then some (.flag false)
  else
    match Text.word? text, Text.int64? text, Numeric.Value.ofText? text with
    | some n, _, _ => some (.natural n)
    | none, some n, _ => some (.integer n)
    | none, none, some x => some (.number x)
    | none, none, none =>
      if Pattern.isUsable text then some (.pattern (String.ofList text)) else none

/-- The text of a value. -/
def text : FieldValue → String
  | .flag b => if b then "true" else "false"
  | .number x => x.plain
  | .natural n => toString n
  | .integer n => toString n
  | .pattern text => text

/-- The kinds of values in order. -/
def rank : FieldValue → Nat
  | .flag _ => 0
  | .number (.infinite true) => 1
  | .number (.finite _) => 2
  | .number (.infinite false) => 3
  | .number .notANumber => 4
  | .natural _ => 5
  | .integer _ => 6
  | .pattern _ => 7

/-- What orders values of one kind that are not patterns. -/
def weight : FieldValue → Int
  | .flag b => if b then 1 else 0
  | .number (.finite x) => if x.negative then -(x.scaled : Int) else x.scaled
  | .natural n => n
  | .integer n => n
  | _ => 0

/-- Values in order: by kind, then by size or text. -/
def compare (a b : FieldValue) : Ordering :=
  (Ord.compare a.rank b.rank).then
    ((Ord.compare a.weight b.weight).then
      (match a, b with
        | .pattern s, .pattern t => Ord.compare s t
        | _, _ => .eq))

end FieldValue

/-- A field that must be there, possibly with a value. -/
structure FieldMatch where
  name : String
  value : Option FieldValue
  deriving DecidableEq, Repr

namespace FieldMatch

/-- The field that a text asks for.  The value stands after the first equals sign; what stands after
a second one is not looked at. -/
def ofChars? (text : List Char) : Option FieldMatch :=
  match Text.pieces '=' text with
  | name :: value :: _ => (FieldValue.ofChars? value).map fun v => ⟨String.ofList name, some v⟩
  | _ => some ⟨String.ofList text, none⟩

/-- The text of a field. -/
def text (field : FieldMatch) : String :=
  match field.value with
  | some value => field.name ++ "=" ++ value.text
  | none => field.name

/-- Fields in order: one with a value comes after one without, then the names decide, then the
values. -/
def compare (a b : FieldMatch) : Ordering :=
  (Ord.compare a.value.isSome b.value.isSome).then
    ((Ord.compare a.name b.name).then
      (match a.value, b.value with
        | some x, some y => x.compare y
        | _, _ => .eq))

end FieldMatch

/-- A directive. -/
structure Directive where
  target : Option String
  span : Option String
  field : Option FieldMatch
  level : Level
  deriving DecidableEq, Repr

namespace Directive

/-! ## Reading -/

/-- The size of a text in bytes. -/
def size (text : List Char) : Nat :=
  (String.ofList text).utf8ByteSize

/-- A text with and without the blanks around it. -/
structure Source where
  full : List Char
  inner : List Char

namespace Source

/-- What is cut out of the full text, from where one rest of the inner text begins up to where
another does.  A cut through a character fails. -/
def between? (source : Source) (start stop : List Char) : Option (List Char) :=
  let position (rest : List Char) : Nat := size source.inner - size rest
  let bytes := Text.bytes (String.ofList source.full)
  (Text.ofBytes? ((bytes.take (position stop)).drop (position start))).map String.toList

/-- What is cut out of the full text, from where a rest of the inner text begins up to the end. -/
def from? (source : Source) (start : List Char) : Option (List Char) :=
  let bytes := Text.bytes (String.ofList source.full)
  (Text.ofBytes? (bytes.drop (size source.inner - size start))).map String.toList

end Source

/-- A directive with the level that its text ends in.  Nothing after the equals sign stands for
everything. -/
def withLevel? (source : Source) (target span : Option String) (field : Option FieldMatch)
    (rest : List Char) : Option Directive := do
  match ← source.from? rest with
  | [] => return ⟨target, span, field, .trace⟩
  | text => return ⟨target, span, field, ← Level.ofText? text⟩

/-- What follows the closing bracket: nothing, or a level. -/
def afterBracket? (source : Source) (target span : Option String) (field : Option FieldMatch) :
    List Char → Option Directive
  | [] => some ⟨target, span, field, .trace⟩
  | '=' :: rest => withLevel? source target span field rest
  | _ => none

/-- What follows the opening bracket: the name of a span, and a field between braces or none. -/
def inBracket? (source : Source) (target : Option String) (start : List Char) :
    Option Directive := do
  let stop := start.dropWhile fun c => c != ']' && c != '\x7b'
  let name := String.ofList (← source.between? start stop)
  match stop with
  | ']' :: rest => afterBracket? source target (some name) none rest
  | '\x7b' :: fieldStart =>
    let fieldStop := fieldStart.dropWhile (· != '\x7d')
    match fieldStop with
    | '\x7d' :: ']' :: rest =>
      match ← source.between? fieldStart fieldStop with
      | [] => none
      | text =>
        let field ← FieldMatch.ofChars? text
        afterBracket? source target (if name = "" then none else some name) (some field) rest
    | _ => none
  | _ => none

/-- Whether a directive may begin with this character, if not with a bracket. -/
def canStart (c : Char) : Bool :=
  c == '-' || c == ':' || c == '_' || Text.isAlphanumeric c

/-- A single word: a level, or a target for which everything is let through. -/
def ofWord (word : List Char) : Directive :=
  match Level.ofText? word with
  | some level => ⟨none, none, none, level⟩
  | none => ⟨some (String.ofList word), none, none, .trace⟩

/-- The directive that a text spells. -/
def ofChars? (text : List Char) : Option Directive :=
  let source : Source := ⟨text, Text.trimChars text⟩
  match source.inner with
  | [] => none
  | '[' :: rest => inBracket? source none rest
  | first :: others =>
    if canStart first then
      let stop := others.dropWhile fun c => c != '=' && c != '['
      let target? := (source.between? (first :: others) stop).map String.ofList
      match stop with
      | '=' :: rest => target?.bind fun target => withLevel? source (some target) none none rest
      | '[' :: rest => target?.bind fun target => inBracket? source (some target) rest
      | _ => some (ofWord text)
    else none

/-! ## Showing -/

/-- The part between brackets, if there is one. -/
def bracketText (directive : Directive) : String :=
  match directive.span, directive.field with
  | none, none => ""
  | span, none => "[" ++ span.getD "" ++ "]"
  | span, some field => "[" ++ span.getD "" ++ "\x7b" ++ field.text ++ "\x7d]"

/-- The text of a directive. -/
def text (directive : Directive) : String :=
  let scope := directive.target.getD "" ++ directive.bracketText
  let bare := directive.target.isNone && directive.span.isNone && directive.field.isNone
  if bare then directive.level.name else scope ++ "=" ++ directive.level.name

/-! ## Precedence -/

/-- An optional part in order: a missing one comes first. -/
def comparePart {α : Type} (cmp : α → α → Ordering) : Option α → Option α → Ordering
  | none, none => .eq
  | none, some _ => .lt
  | some _, none => .gt
  | some a, some b => cmp a b

/-- The bytes of a target. -/
def targetSize (directive : Directive) : Option Nat :=
  directive.target.map String.utf8ByteSize

/-- Directives by how specific they are, the least specific first. -/
def compareSpecificity (a b : Directive) : Ordering :=
  (comparePart Ord.compare a.targetSize b.targetSize).then
    ((Ord.compare a.span.isSome b.span.isSome).then
      ((Ord.compare a.field.isSome b.field.isSome).then
        ((comparePart Ord.compare a.target b.target).then
          ((comparePart Ord.compare a.span b.span).then
            (comparePart FieldMatch.compare a.field b.field)))))

/-- Directives in the order in which they are asked, the most specific first. -/
def compare (a b : Directive) : Ordering :=
  (compareSpecificity a b).swap

end Directive

end GuardedGateway.Logging
