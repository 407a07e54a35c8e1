/-!
# Finite binary64 numbers, exactly

JSON numbers with a fraction or an exponent are binary64 values.  A value is kept as a sign, a
significand and an exponent counted from the smallest positive value, so its magnitude is
`significand * 2 ^ exponent / 2 ^ 1074` and every operation below is arithmetic of natural
numbers.  Machine floats appear nowhere: their operations are opaque to a proof.

Powers of two are shifts, and powers of ten are `Nat.pow` by name.  Which power the operator stands
for depends on the algebra that is imported, and a definition should not.

## Rounding

`nearest?` rounds a quotient of natural numbers to the nearest value, a tie to the even
significand, and gives nothing where the result would be infinite.  The product and the quotient
of two values are their exact results rounded once, so `mul?` and `div` are two applications of it.

## Reading a decimal

`ofDecimal?` reads `digits * 10 ^ exponent` in two rounded steps: the digits become a value, and
that value is multiplied or divided by the value of the power of ten.  Two roundings are not one,
so the result can be one step away from the nearest value; the rule is the one the wire format
follows, and it is exact wherever both steps are.
-/

namespace GuardedGateway

/-- A finite binary64 value: `± significand * 2 ^ exponent / 2 ^ 1074`. -/
structure Binary64 where
  negative : Bool
  significand : Nat
  exponent : Nat
  deriving DecidableEq, Repr, Inhabited

namespace Binary64

/-- The magnitude in units of the smallest positive value. -/
def scaled (x : Binary64) : Nat :=
  x.significand <<< x.exponent

def zero : Binary64 := ⟨false, 0, 0⟩

def isZero (x : Binary64) : Bool :=
  x.significand == 0

/-- The value with the same magnitude and the given sign. -/
def withSign (negative : Bool) (x : Binary64) : Binary64 :=
  { x with negative }

/-- The number of binary places by which a quotient of this size must be shortened to leave a
significand of 53 bits. -/
def excessBits (quotient : Nat) : Nat :=
  quotient.log2 + 1 - 53

/-- The quotient rounded to the nearest integer, a tie to the even one. -/
def divNearestEven (a b : Nat) : Nat :=
  let q := a / b
  let twice := 2 * (a % b)
  if b < twice ∨ (b = twice ∧ q % 2 = 1) then q + 1 else q

/-- The value nearest to `num / den`, unless that is beyond the largest finite one. -/
def nearest? (num den : Nat) : Option Binary64 :=
  let scaledNum := num <<< 1074
  let exponent := excessBits (scaledNum / den)
  let significand := divNearestEven scaledNum (den <<< exponent)
  let rounded : Binary64 :=
    if significand = 1 <<< 53 then ⟨false, 1 <<< 52, exponent + 1⟩
    else ⟨false, significand, exponent⟩
  if 2045 < rounded.exponent then none else some rounded

/-- The product of two magnitudes, rounded once. -/
def mul? (x y : Binary64) : Option Binary64 :=
  nearest? (x.scaled * y.scaled) (1 <<< 2148)

/-- The quotient of two magnitudes, rounded once; the divisor is at least one. -/
def div (x y : Binary64) : Binary64 :=
  (nearest? x.scaled y.scaled).getD zero

/-- The value of a power of ten whose exponent is at most 308. -/
def powerOfTen (k : Nat) : Binary64 :=
  (nearest? (Nat.pow 10 k) 1).getD zero

/-- Divides by powers of ten, at most `10 ^ 308` at a time. -/
def divPowerOfTen (x : Binary64) (k : Nat) : Binary64 :=
  if k ≤ 308 then x.div (powerOfTen k)
  else if x.isZero then x
  else divPowerOfTen (x.div (powerOfTen 308)) (k - 308)
termination_by k

/-- The value of `digits * 10 ^ exponent`, unless it is beyond the largest finite one. -/
def ofDecimal? (negative : Bool) (digits : Nat) (exponent : Int) : Option Binary64 := do
  let x ← nearest? digits 1
  match exponent with
  | .negSucc n => some ((x.divPowerOfTen (n + 1)).withSign negative)
  | .ofNat k =>
    if k ≤ 308 then return (← x.mul? (powerOfTen k)).withSign negative
    else if x.isZero then return x.withSign negative
    else none

/-- The value of a natural number below `2 ^ 1023`. -/
def ofNat (n : Nat) : Binary64 :=
  (nearest? n 1).getD zero

/-- The integer part of the magnitude. -/
def floor (x : Binary64) : Nat :=
  x.scaled >>> 1074

end Binary64

end GuardedGateway
