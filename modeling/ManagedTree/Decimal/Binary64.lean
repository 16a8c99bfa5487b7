/-!
# Binary floating-point numbers

Finite numbers of 64-bit binary floating point as exact dyadic fractions, and the
one rounding rule from which reading and arithmetic are built: the nearest
number, and of two equally near ones the one with an even significand.
-/

namespace ManagedTree

/-- A finite binary floating-point number: `± significand * 2 ^ exponent`. -/
structure Binary64 where
  /-- The sign, which zero has too. -/
  negative : Bool
  /-- The significand, below `2 ^ 53`. -/
  significand : Nat
  /-- The exponent, from `-1074` to `971`. -/
  exponent : Int
deriving DecidableEq, Repr, Inhabited

namespace Binary64

-- Powers are the core library's in every importing context.
attribute [local instance (high)] instPowNat

/-- Zero with a sign. -/
def zero (negative : Bool) : Binary64 :=
  ⟨negative, 0, -1074⟩

/-- Whether a number is zero. -/
def isZero (number : Binary64) : Bool :=
  number.significand == 0

/-- The same number with the given sign. -/
def withSign (negative : Bool) (number : Binary64) : Binary64 :=
  { number with negative }

/-- The absolute value as a fraction of natural numbers. -/
def fraction (number : Binary64) : Nat × Nat :=
  if 0 ≤ number.exponent then
    (number.significand * 2 ^ number.exponent.toNat, 1)
  else
    (number.significand, 2 ^ (-number.exponent).toNat)

/-- The natural number nearest to a fraction, ties going to the even one. -/
def nearest (numerator denominator : Nat) : Nat :=
  let floor := numerator / denominator
  let twice := 2 * (numerator % denominator)
  if twice < denominator then floor
  else if denominator < twice then floor + 1
  else floor + floor % 2

/-- The nearest multiple of `2 ^ exponent` to a fraction, as the multiplier. -/
def multiple (numerator denominator : Nat) (exponent : Int) : Nat :=
  if 0 ≤ exponent then
    nearest numerator (denominator * 2 ^ exponent.toNat)
  else
    nearest (numerator * 2 ^ (-exponent).toNat) denominator

/-- The largest exponent at which a fraction keeps 53 significant bits, or the least
exponent there is. -/
def gridExponent (numerator denominator : Nat) : Int :=
  let guess : Int := (numerator.log2 : Int) - (denominator.log2 : Int) - 53
  let tight :=
    if 0 ≤ guess then
      2 ^ (53 : Nat) ≤ numerator / (denominator * 2 ^ guess.toNat)
    else
      2 ^ (53 : Nat) ≤ numerator * 2 ^ (-guess).toNat / denominator
  max (-1074) (if tight then guess + 1 else guess)

/-- The number nearest to a fraction, unless it lies beyond the largest one. -/
def ofFraction? (negative : Bool) (numerator denominator : Nat) : Option Binary64 :=
  if numerator = 0 then
    some (zero negative)
  else
    let exponent := gridExponent numerator denominator
    let rounded := multiple numerator denominator exponent
    let (significand, exponent) :=
      if rounded = 2 ^ (53 : Nat) then (2 ^ (52 : Nat), exponent + 1) else (rounded, exponent)
    if exponent ≤ 971 then some ⟨negative, significand, exponent⟩ else none

/-- The number nearest to a natural number. -/
def ofNat? (number : Nat) : Option Binary64 :=
  ofFraction? false number 1

/-- The number nearest to a power of ten. -/
def tenTo? (power : Nat) : Option Binary64 :=
  ofFraction? false (10 ^ power) 1

/-- The rounded product of two absolute values. -/
def product? (left right : Binary64) : Option Binary64 :=
  let (leftNumerator, leftDenominator) := left.fraction
  let (rightNumerator, rightDenominator) := right.fraction
  ofFraction? false (leftNumerator * rightNumerator) (leftDenominator * rightDenominator)

/-- The rounded quotient of two absolute values. -/
def quotient? (left right : Binary64) : Option Binary64 :=
  let (leftNumerator, leftDenominator) := left.fraction
  let (rightNumerator, rightDenominator) := right.fraction
  ofFraction? false (leftNumerator * rightDenominator) (leftDenominator * rightNumerator)

/-- The number nearest to `digits * 10 ^ power`.  A power that alone decides between
zero and overflow is not computed. -/
def ofDecimal? (negative : Bool) (digits : Nat) (power : Int) : Option Binary64 :=
  let magnitude := ((Nat.toDigits 10 digits).length : Int) + power
  if digits = 0 ∨ magnitude < -330 then
    some (zero negative)
  else if 330 < magnitude then
    none
  else if 0 ≤ power then
    ofFraction? negative (digits * 10 ^ power.toNat) 1
  else
    ofFraction? negative digits (10 ^ (-power).toNat)

/-- Whether two numbers are equal as numbers: the sign of zero does not count. -/
def same (left right : Binary64) : Bool :=
  left == right || (left.isZero && right.isZero)

example : ofFraction? false 1 10 = some ⟨false, 7205759403792794, -56⟩ := by decide +kernel
example : ofDecimal? false 5 (-324) = some ⟨false, 1, -1074⟩ := by decide +kernel
example : ofDecimal? false 1 400 = none := by decide +kernel

end Binary64
end ManagedTree
