import GuardedGateway.Numeric.Binary64

/-!
# The fewest digits that read back

A binary64 value is written with the fewest significant digits for which no other value is nearer.
The decimals that read back as a value form an interval around it, reaching half way to either
neighbour; an end belongs to the interval exactly when the significand is even, because a tie goes
to the even one.  For one digit, two digits, and so on up to seventeen, `shortest` looks at the two
neighbours of the value on that decimal grid and takes the first that lies in the interval, the
nearer of the two when both do.  A value that lies half way between the two leaves a choice, which is
the printer's.

Two printers share these digits.  `Binary64.text` writes a point or an exponent as JSON does, and
takes the even digit on a tie.  `Binary64.plain` writes every digit and never an exponent, and takes
the larger digit on a tie.
-/

namespace GuardedGateway

/-- The number `digits * 10 ^ exponent`. -/
structure Decimal where
  digits : Nat
  exponent : Int
  deriving DecidableEq, Repr

/-- Which of two decimals stands for a value half way between them. -/
inductive Tie where
  | even
  | larger
  deriving DecidableEq, Repr

/-- Whether a tie goes to the smaller decimal, which has these digits. -/
def Tie.takesSmaller (tie : Tie) (digits : Nat) : Bool :=
  match tie with
  | .even => digits % 2 == 0
  | .larger => false

namespace Decimal

/-- Moves the zeros at the end of the digits into the exponent. -/
def stripZeros (digits : Nat) (exponent : Int) : Decimal :=
  if h : digits ≠ 0 ∧ digits % 10 = 0 then stripZeros (digits / 10) (exponent + 1)
  else ⟨digits, exponent⟩
termination_by digits
decreasing_by omega

end Decimal

namespace Binary64

/-- Whether `10 ^ k` is at most the value with this scaled magnitude. -/
def powerOfTenLe (k : Int) (scaled : Nat) : Bool :=
  match k with
  | .ofNat n => Nat.pow 10 n <<< 1074 ≤ scaled
  | .negSucc n => 1 <<< 1074 ≤ scaled * Nat.pow 10 (n + 1)

/-- The exponent of the leading decimal digit.  The binary exponent gives it up to one. -/
def leadingExponent (scaled : Nat) : Int :=
  let guess := ((scaled.log2 : Int) - 1074) * 1233 / 4096
  if powerOfTenLe (guess + 1) scaled then guess + 1
  else if powerOfTenLe guess scaled then guess
  else guess - 1

/-- The neighbour of the value on the grid of multiples of `10 ^ k` that reads back as the value,
if there is one.  Everything is measured in quarters of the smallest positive value, times the
power of ten that makes the grid integral. -/
def onGrid? (tie : Tie) (x : Binary64) (k : Int) : Option Nat :=
  let up := Nat.pow 10 (-k).toNat
  let unit := 4 * Nat.pow 10 k.toNat <<< 1074
  let gap := 1 <<< x.exponent
  let value := 4 * x.scaled * up
  let gapBelow := if x.significand = 1 <<< 52 ∧ 0 < x.exponent then gap else 2 * gap
  let low := (4 * x.scaled - gapBelow) * up
  let high := (4 * x.scaled + 2 * gap) * up
  let closed := x.significand % 2 = 0
  let inside (d : Nat) : Bool :=
    (low < d * unit ∨ (closed ∧ low = d * unit)) ∧ (d * unit < high ∨ (closed ∧ d * unit = high))
  let below := value / unit
  let above := below + 1
  match inside below && below != 0, inside above with
  | true, true =>
    let down := value - below * unit
    let upward := above * unit - value
    if down < upward ∨ (down = upward ∧ tie.takesSmaller below) then some below else some above
  | true, false => some below
  | false, true => some above
  | false, false => none

/-- The shortest decimal that reads back as the magnitude of the value. -/
def shortest (tie : Tie) (x : Binary64) : Decimal :=
  if x.isZero then ⟨0, 0⟩
  else
    let leading := leadingExponent x.scaled
    let grids := (List.range 17).map fun (n : Nat) => leading - (n : Int)
    let found := grids.findSome? fun k => (onGrid? tie x k).map fun d => Decimal.stripZeros d k
    found.getD ⟨0, 0⟩

/-- `n` zeros. -/
def zeros (n : Nat) : String :=
  String.ofList (List.replicate n '0')

/-- The digits with a point after the first `n`. -/
def pointAfter (n : Nat) (digits : String) : String :=
  String.ofList (digits.toList.take n) ++ "." ++ String.ofList (digits.toList.drop n)

/-- Positional notation, with `whole` after an integer. -/
def positional (whole : String) (d : Decimal) : String :=
  let digits := toString d.digits
  let count := digits.length
  match d.exponent with
  | .ofNat n => digits ++ zeros n ++ whole
  | .negSucc n =>
    if n + 1 < count then pointAfter (count - (n + 1)) digits
    else "0." ++ zeros (n + 1 - count) ++ digits

/-- One digit, a point if there are more, and a signed exponent. -/
def scientific (d : Decimal) (leading : Int) : String :=
  let digits := toString d.digits
  let mantissa := if digits.length = 1 then digits else pointAfter 1 digits
  mantissa ++ "e" ++ (if leading < 0 then toString leading else "+" ++ toString leading)

/-- The text of a value in JSON: positional from `1e-5` up to `1e16`, always with a point or an
exponent, and with the sign of a negative zero. -/
def text (x : Binary64) : String :=
  let d := x.shortest .even
  let leading := d.exponent + ((toString d.digits).length : Int) - 1
  let magnitude :=
    if x.isZero ∨ (-5 ≤ leading ∧ leading < 16) then positional ".0" d else scientific d leading
  if x.negative then "-" ++ magnitude else magnitude

/-- The text of a value in full: no exponent, and no point after an integer. -/
def plain (x : Binary64) : String :=
  let magnitude := positional "" (x.shortest .larger)
  if x.negative then "-" ++ magnitude else magnitude

end Binary64

end GuardedGateway
