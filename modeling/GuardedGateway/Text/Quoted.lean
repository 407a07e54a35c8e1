import GuardedGateway.Text.Visible
import GuardedGateway.Text.Hex

/-!
# Quoting a text in a message

A message that repeats what a person wrote puts it between quotes and shows what the eye would
miss: the quote and the backslash get a backslash, the usual controls their letter, and any other
character that does not show by itself is its code point in braces.
-/

namespace GuardedGateway.Text

/-- How a character is shown between quotes. -/
def shown (c : Char) : List Char :=
  if c = '"' then ['\\', '"']
  else if c = '\\' then ['\\', '\\']
  else if c = '\n' then ['\\', 'n']
  else if c = '\r' then ['\\', 'r']
  else if c = '\t' then ['\\', 't']
  else if c = '\x00' then ['\\', '0']
  else if isVisible c then [c]
  else "\\u\x7b".toList ++ hex c.toNat ++ ['\x7d']

/-- A text between quotes, with everything in it visible. -/
def quoted (s : String) : String :=
  "\"" ++ String.ofList (s.toList.flatMap shown) ++ "\""

end GuardedGateway.Text
