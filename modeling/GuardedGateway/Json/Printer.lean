import GuardedGateway.Json.Basic
import GuardedGateway.Numeric.Shortest
import GuardedGateway.Text.Hex

/-!
# The compact text of a JSON value

No blanks, members in their order, and as little escaping as the grammar allows: the quote, the
backslash and the control characters below a space are escaped, everything else stands for itself.
Control characters with a short escape use it, the others are four hexadecimal digits in lower case.

The size of a result is the number of bytes of this text, so the output bound and the audit log
both rest on this one printer.
-/

namespace GuardedGateway

namespace Json

/-- How a character is written inside a string. -/
def escape (c : Char) : List Char :=
  if c = '"' then ['\\', '"']
  else if c = '\\' then ['\\', '\\']
  else if c = '\x08' then ['\\', 'b']
  else if c = '\x0c' then ['\\', 'f']
  else if c = '\n' then ['\\', 'n']
  else if c = '\r' then ['\\', 'r']
  else if c = '\t' then ['\\', 't']
  else if c.toNat < 0x20 then '\\' :: 'u' :: Text.hexPadded 4 c.toNat
  else [c]

/-- A string between quotes. -/
def quoted (s : String) : String :=
  "\"" ++ String.ofList (s.toList.flatMap escape) ++ "\""

/-- The text of a number. -/
def Number.text : Number → String
  | .int n => toString n
  | .float x => x.text

mutual

/-- The compact text of a value. -/
def text : Json → String
  | .null => "null"
  | .bool true => "true"
  | .bool false => "false"
  | .num n => n.text
  | .str s => quoted s
  | .arr items => "[" ++ itemsText items ++ "]"
  | .obj fields => "\x7b" ++ fieldsText fields ++ "\x7d"
termination_by structural v => v

/-- The texts of the items of an array, with commas between them. -/
def itemsText : List Json → String
  | [] => ""
  | [v] => text v
  | v :: w :: rest => text v ++ "," ++ itemsText (w :: rest)
termination_by structural vs => vs

/-- The texts of the members of an object, with commas between them. -/
def fieldsText : List (String × Json) → String
  | [] => ""
  | [f] => fieldText f
  | f :: g :: rest => fieldText f ++ "," ++ fieldsText (g :: rest)
termination_by structural fs => fs

/-- The text of a member. -/
def fieldText : String × Json → String
  | (key, value) => quoted key ++ ":" ++ text value
termination_by structural f => f

end

/-- The size of a value: the number of bytes of its text. -/
def size (v : Json) : Nat :=
  v.text.utf8ByteSize

end Json

end GuardedGateway
