import ManagedTree.Decimal.Binary64

/-!
# Shortest decimal texts

The decimal text of a binary floating-point number has the fewest digits that
read back as the number, and among those the digits nearest to it.  A layout
says which of two equally near ones they are and how they are written.
-/

namespace ManagedTree
namespace Binary64

-- Powers are the core library's in every importing context.
attribute [local instance (high)] instPowNat

/-- Decimal digits without trailing zeros, the first one not zero, and the power of
ten of the first digit: `d.ddd * 10 ^ power`. -/
structure Digits where
  /-- The digits, most significant first. -/
  digits : List Char
  /-- The decimal exponent of the first digit. -/
  power : Int
deriving DecidableEq, Repr

/-- The power of ten of the first digit of a positive fraction. -/
def leadingPower (numerator denominator : Nat) : Int :=
  if denominator ≤ numerator then
    ((Nat.toDigits 10 (numerator / denominator)).length : Int) - 1
  else
    let ceiling := (denominator + numerator - 1) / numerator
    0 - ((Nat.toDigits 10 (ceiling - 1)).length : Int)

/-- A number's exact value and the ends of the interval that rounds to it, all over
one denominator, and whether the ends themselves round to it. -/
structure Interval where
  /-- The lower end. -/
  low : Nat
  /-- The value. -/
  value : Nat
  /-- The upper end. -/
  high : Nat
  /-- The common denominator. -/
  denominator : Nat
  /-- Whether the ends belong to the interval. -/
  closed : Bool

/-- The interval of fractions that round to a positive number. -/
def interval (number : Binary64) : Interval :=
  let quarters := 4 * number.significand
  let below :=
    if number.significand = 2 ^ (52 : Nat) ∧ -1074 < number.exponent then 1 else 2
  let exponent := number.exponent - 2
  let scale := if 0 ≤ exponent then 2 ^ exponent.toNat else 1
  { low := (quarters - below) * scale
    value := quarters * scale
    high := (quarters + 2) * scale
    denominator := if 0 ≤ exponent then 1 else 2 ^ (-exponent).toNat
    closed := number.significand % 2 == 0 }

/-- Whether a point over the common denominator lies in the interval. -/
def Interval.contains (bounds : Interval) (point : Nat) : Bool :=
  if bounds.closed then
    bounds.low ≤ point && point ≤ bounds.high
  else
    bounds.low < point && point < bounds.high

/-- Which of two equally near points is taken. -/
inductive Tie where
  /-- The even one. -/
  | even
  /-- The greater one. -/
  | greater
deriving DecidableEq, Repr

/-- The point that is taken of one and the next, which are equally near. -/
def Tie.choose (tie : Tie) (below : Nat) : Nat :=
  match tie with
  | .even => below + below % 2
  | .greater => below + 1

/-- The multiple of `10 ^ step` in the interval that is nearest to the value, if one of
the value's two neighbours lies in it. -/
def onGrid? (tie : Tie) (bounds : Interval) (step : Int) : Option Nat :=
  let up := if 0 ≤ step then 1 else 10 ^ (-step).toNat
  let unit := if 0 ≤ step then bounds.denominator * 10 ^ step.toNat else bounds.denominator
  let value := bounds.value * up
  let below := value / unit
  let above := below + 1
  let scaled : Interval :=
    { bounds with low := bounds.low * up, value, high := bounds.high * up }
  match scaled.contains (below * unit), scaled.contains (above * unit) with
  | false, false => none
  | true, false => some below
  | false, true => some above
  | true, true =>
    let down := value - below * unit
    let rise := above * unit - value
    if down < rise then some below
    else if rise < down then some above
    else some (tie.choose below)

/-- The first grid, from coarse to fine, that has a point in the interval. -/
def firstGrid? (tie : Tie) (bounds : Interval) (power : Int) :
    Nat → Nat → Option (Nat × Int)
  | 0, _ => none
  | more + 1, count =>
    let step := power - (count : Int)
    match onGrid? tie bounds step with
    | some point => some (point, step)
    | none => firstGrid? tie bounds power more (count + 1)

/-- A text without its trailing zeros. -/
def dropTrailingZeros (digits : List Char) : List Char :=
  (digits.reverse.dropWhile (· == '0')).reverse

/-- The shortest digits of a number's absolute value. -/
def shortest (tie : Tie) (number : Binary64) : Digits :=
  if number.isZero then
    ⟨['0'], 0⟩
  else
    let bounds := number.interval
    let power := leadingPower bounds.value bounds.denominator
    match firstGrid? tie bounds power 17 0 with
    | some (point, step) =>
      let digits := Nat.toDigits 10 point
      ⟨dropTrailingZeros digits, step + (digits.length : Int) - 1⟩
    | none => ⟨['0'], 0⟩

/-- How the digits of a number are written. -/
structure Layout where
  /-- Which of two equally near shortest texts is written. -/
  tie : Tie
  /-- The least power of ten that is written without an exponent, if there is one. -/
  leastPower : Option Int
  /-- The greatest power of ten that is written without an exponent, if there is one. -/
  greatestPower : Option Int

/-- Whether a number whose first digit has the given power is written without an exponent. -/
def Layout.positional (layout : Layout) (power : Int) : Bool :=
  layout.leastPower.all (· ≤ power) && layout.greatestPower.all (power ≤ ·)

/-- Digits with a decimal point and at least one digit on both sides of it. -/
def pointed (shown : Digits) : List Char :=
  if shown.power < 0 then
    ['0', '.'] ++ List.replicate (-shown.power - 1).toNat '0' ++ shown.digits
  else
    let whole := shown.power.toNat + 1
    let padded := shown.digits ++ List.replicate (whole - shown.digits.length) '0'
    let tail := padded.drop whole
    padded.take whole ++ '.' :: (if tail.isEmpty then ['0'] else tail)

/-- Digits with one digit before the point and a signed exponent. -/
def exponential (shown : Digits) : List Char :=
  let mantissa :=
    match shown.digits with
    | [] => ['0']
    | [digit] => [digit]
    | digit :: rest => digit :: '.' :: rest
  let sign := if shown.power < 0 then '-' else '+'
  mantissa ++ 'e' :: sign :: Nat.toDigits 10 shown.power.natAbs

/-- The text of a number in a layout. -/
def text (layout : Layout) (number : Binary64) : List Char :=
  let shown := number.shortest layout.tie
  let sign := if number.negative then ['-'] else []
  sign ++ if layout.positional shown.power then pointed shown else exponential shown

/-- The number 751196839884912.25 lies between two equally near texts. -/
example : (shortest .even ⟨false, 6009574719079298, -3⟩).digits.getLast? = some '2' := by
  decide +kernel

example : (shortest .greater ⟨false, 6009574719079298, -3⟩).digits.getLast? = some '3' := by
  decide +kernel

end Binary64
end ManagedTree
