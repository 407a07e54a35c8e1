/-!
# The lower case of ASCII

Secret keys, header names and names of levels are told apart without regard to case, and only the
letters of ASCII have one.
-/

namespace GuardedGateway.Text

/-- Lower case for the ASCII letters; other characters stay. -/
def lowerAscii (c : Char) : Char :=
  if 'A' ≤ c ∧ c ≤ 'Z' then Char.ofNat (c.toNat + 32) else c

/-- A string with its ASCII letters in lower case. -/
def lower (s : String) : String :=
  String.ofList (s.toList.map lowerAscii)

end GuardedGateway.Text
