import GuardedGateway.Numeric.Shortest
import GuardedGateway.Text.Case
import GuardedGateway.Text.Number

/-!
# Reading a number that somebody typed

Digits with at most one point among or around them and possibly an exponent, a sign in front, or one
of the words for infinity and for what is no number.  The value is the nearest one, rounded once,
and what is beyond the largest finite value is infinite.
-/

namespace GuardedGateway.Numeric

/-- A binary64 value that need not be finite. -/
inductive Value where
  | finite (x : Binary64)
  | infinite (negative : Bool)
  | notANumber
  deriving DecidableEq, Repr

namespace Value

/-- The text of a value in full. -/
def plain : Value → String
  | .finite x => x.plain
  | .infinite negative => if negative then "-inf" else "inf"
  | .notANumber => "NaN"

/-- The value nearest to `digits * 10 ^ exponent`.  Powers that decide the result by themselves are
not computed. -/
def ofDecimal (negative : Bool) (digits : Nat) (count : Nat) (exponent : Int) : Value :=
  let nearest := match exponent with
    | .ofNat k =>
      if 310 < k ∧ digits ≠ 0 then none
      else Binary64.nearest? (digits * Nat.pow 10 (min k 310)) 1
    | .negSucc k =>
      if 330 + count < k then some Binary64.zero else Binary64.nearest? digits (Nat.pow 10 (k + 1))
  match nearest with
  | some x => .finite (x.withSign negative)
  | none => .infinite negative

/-- A sign, and what follows it. -/
def sign : List Char → Bool × List Char
  | '-' :: rest => (true, rest)
  | '+' :: rest => (false, rest)
  | rest => (false, rest)

/-- The exponent that a text gives after its digits; an empty text gives none. -/
def exponent? : List Char → Option Int
  | [] => some 0
  | c :: rest =>
    if c = 'e' ∨ c = 'E' then
      let (negative, digits) := sign rest
      (Text.natOfDigits? digits).map fun n => if negative then -(n : Int) else n
    else none

/-- The value of a text without a sign. -/
def ofUnsigned? (negative : Bool) (text : List Char) : Option Value :=
  let isDigit (c : Char) : Bool := (Text.digit? c).isSome
  let whole := text.takeWhile isDigit
  let (decimals, rest) : List Char × List Char := match text.dropWhile isDigit with
    | '.' :: more => (more.takeWhile isDigit, more.dropWhile isDigit)
    | more => ([], more)
  let digits := whole ++ decimals
  match Text.natOfDigits? digits, exponent? rest with
  | some n, some exponent =>
    some (ofDecimal negative n digits.length (exponent - decimals.length))
  | _, _ => none

/-- The value that a text denotes. -/
def ofText? (text : List Char) : Option Value :=
  let (negative, rest) := sign text
  let word := String.ofList (rest.map Text.lowerAscii)
  if word = "inf" ∨ word = "infinity" then some (.infinite negative)
  else if word = "nan" then some .notANumber
  else ofUnsigned? negative rest

end Value

end GuardedGateway.Numeric
