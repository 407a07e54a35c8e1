import GuardedGateway.Text.Hex
import GuardedGateway.Text.Number

/-!
# Socket addresses

An address to listen on is an IPv4 address and a port, or an IPv6 address in brackets and a port.
Names of hosts are no addresses.

The four numbers of an IPv4 address have no leading zeros; the port may have any.  An IPv6 address
has eight groups of up to four hexadecimal digits, or fewer around one `::`; its last two groups may
be written as an IPv4 address; and in the brackets it may carry the number of a scope after `%`.

Each reader consumes the front of a text, or refuses and consumes nothing.
-/

namespace GuardedGateway.Settings

/-- Consumes one given character. -/
def given (c : Char) : List Char → Option (List Char)
  | d :: rest => if d = c then some rest else none
  | [] => none

/-- Consumes decimal digits that denote a number below `bound`. -/
def decimal (bound : Nat) (text : List Char) : Option (List Char) := do
  let n ← Text.natOfDigits? (text.takeWhile fun c => (Text.digit? c).isSome)
  if n < bound then some (text.dropWhile fun c => (Text.digit? c).isSome) else none

/-- Consumes a number of an IPv4 address. -/
def octet (text : List Char) : Option (List Char) :=
  let digits := text.takeWhile fun c => (Text.digit? c).isSome
  if 3 < digits.length ∨ (1 < digits.length ∧ digits.head? = some '0') then none
  else decimal 256 text

/-- Consumes an IPv4 address. -/
def ipv4 (text : List Char) : Option (List Char) := do
  let text ← octet text
  let text ← octet (← given '.' text)
  let text ← octet (← given '.' text)
  octet (← given '.' text)

/-- Whether a character is a hexadecimal digit, in either case. -/
def isHexDigit (c : Char) : Bool :=
  (Text.hexDigitValue? c).isSome || ('A' ≤ c && c ≤ 'F')

/-- Consumes a group of an IPv6 address. -/
def hexGroup (text : List Char) : Option (List Char) :=
  let digits := text.takeWhile isHexDigit
  if digits.isEmpty ∨ 4 < digits.length then none else some (text.dropWhile isHexDigit)

/-- Consumes what separates a group from the one before it. -/
def separator (first : Bool) (text : List Char) : Option (List Char) :=
  if first then some text else given ':' text

/-- What could be read of a sequence of groups: their number, whether the last two were an IPv4
address, and the rest. -/
structure Groups where
  count : Nat
  embedded : Bool
  rest : List Char

/-- Consumes at most `room` groups.  An IPv4 address counts as two and is the last. -/
def hexGroups (room : Nat) (first : Bool) (count : Nat) (text : List Char) : Groups :=
  match room with
  | 0 => ⟨count, false, text⟩
  | room + 1 =>
    let address := if room = 0 then none else (separator first text).bind ipv4
    match address with
    | some rest => ⟨count + 2, true, rest⟩
    | none =>
      match (separator first text).bind hexGroup with
      | some rest => hexGroups room false (count + 1) rest
      | none => ⟨count, false, text⟩

/-- Consumes an IPv6 address. -/
def ipv6 (text : List Char) : Option (List Char) :=
  let front := hexGroups 8 true 0 text
  if front.count = 8 then some front.rest
  else if front.embedded then none
  else do
    let text ← given ':' (← given ':' front.rest)
    return (hexGroups (8 - (front.count + 1)) true 0 text).rest

/-- Consumes the number of a scope, if there is one. -/
def scopeId (text : List Char) : List Char :=
  ((given '%' text).bind (decimal UInt32.size)).getD text

/-- Consumes a port. -/
def port (text : List Char) : Option (List Char) := do
  decimal UInt16.size (← given ':' text)

/-- Consumes an IPv4 address with its port. -/
def socketV4 (text : List Char) : Option (List Char) := do
  port (← ipv4 text)

/-- Consumes an IPv6 address with its port. -/
def socketV6 (text : List Char) : Option (List Char) := do
  let text ← ipv6 (← given '[' text)
  port (← given ']' (scopeId text))

/-- Whether a text is a socket address. -/
def isSocketAddress (text : String) : Bool :=
  (socketV4 text.toList <|> socketV6 text.toList) == some []

end GuardedGateway.Settings
