/-!
# Decimal numbers in text

Digits are those of ASCII.  A setting or a header gives a number as digits with an optional sign
and nothing else, and what does not fit into its word is no number.
-/

namespace GuardedGateway.Text

/-- The value of a decimal digit. -/
def digit? (c : Char) : Option Nat :=
  if '0' ≤ c ∧ c ≤ '9' then some (c.toNat - 48) else none

/-- The number that digits denote; nothing for no digits or another character. -/
def natOfDigits? : List Char → Option Nat
  | [] => none
  | c :: rest => (c :: rest).foldlM (fun n d => (digit? d).map (n * 10 + ·)) 0

/-- A natural number below `bound`, possibly with a plus sign. -/
def natBelow? (bound : Nat) (text : List Char) : Option Nat :=
  let digits := match text with
    | '+' :: rest => rest
    | rest => rest
  (natOfDigits? digits).filter (· < bound)

/-- A natural number of 64 bits. -/
def word? (text : List Char) : Option Nat :=
  natBelow? UInt64.size text

/-- A signed number of 64 bits. -/
def int64? : List Char → Option Int
  | '-' :: rest => ((natOfDigits? rest).filter (· ≤ 1 <<< 63)).map fun n => -(n : Int)
  | rest => (natBelow? (1 <<< 63) rest).map Int.ofNat

/-- The digits of a number, with zeros in front up to a width. -/
def padded (width n : Nat) : List Char :=
  let digits := (toString n).toList
  List.replicate (width - digits.length) '0' ++ digits

end GuardedGateway.Text
