import ManagedTree.Settings.Document
import ManagedTree.Text.Pieces

/-!
# Scalars of settings documents

The values that are written without quotes and brackets: truth values, integers in
four bases, floating-point numbers, dates and times.  A literal may be well formed and
still have no value: an integer of more than 64 bits, one without the digits of its
base, or a number beyond the largest floating-point one.
-/

namespace ManagedTree
namespace Scalar

-- Powers are the core library's in every importing context.
attribute [local instance (high)] instPowNat

/-- The value of a digit in bases up to sixteen. -/
def digitValue (character : Char) : Nat :=
  if character.isDigit then character.toNat - '0'.toNat
  else if character.toNat < 'a'.toNat then character.toNat - 'A'.toNat + 10
  else character.toNat - 'a'.toNat + 10

/-- Whether a character is a digit in bases up to sixteen. -/
def isHexDigit (character : Char) : Bool :=
  character.isDigit || ('a' ≤ character && character ≤ 'f') || ('A' ≤ character && character ≤ 'F')

/-- Whether a character is a digit of a base. -/
def isDigitOf (base : Nat) (character : Char) : Bool :=
  isHexDigit character && digitValue character < base

/-- The natural number that digits spell in a base. -/
def natural (base : Nat) (digits : List Char) : Nat :=
  digits.foldl (fun number digit => number * base + digitValue digit) 0

/-- The digits of a numeral, in which an underscore may stand between two digits. -/
def digits? (base : Nat) (numeral : List Char) : Option (List Char) :=
  let (first, others) := Text.pieces '_' numeral
  if (first :: others).all fun piece => !piece.isEmpty && piece.all (isDigitOf base) then
    some (first :: others).flatten
  else
    none

/-- The digits of a decimal numeral without leading zeros. -/
def wholeDigits? (numeral : List Char) : Option (List Char) := do
  let digits ← digits? 10 numeral
  match digits with
  | '0' :: _ :: _ => none
  | _ => some digits

/-- A numeral's sign, and the numeral without it. -/
def signed : List Char → Bool × List Char
  | '-' :: rest => (true, rest)
  | '+' :: rest => (false, rest)
  | rest => (false, rest)

/-- The number with a sign. -/
def withSign (negative : Bool) (number : Nat) : Int :=
  if negative then -(number : Int) else number

/-- The texts before and after an exponent mark, if there is one. -/
def cutExponent (numeral : List Char) : List Char × Option (List Char) :=
  match Text.cut 'e' numeral with
  | some (front, exponent) => (front, some exponent)
  | none =>
    match Text.cut 'E' numeral with
    | some (front, exponent) => (front, some exponent)
    | none => (numeral, none)

/-- The power of ten that an exponent stands for. -/
def exponent? : Option (List Char) → Option Int
  | none => some 0
  | some numeral => do
    let (negative, rest) := signed numeral
    let digits ← digits? 10 rest
    some (withSign negative (natural 10 digits))

/-- The number that the digits before and after a point spell. -/
def real (negative : Bool) (whole fraction : List Char) (power : Int) : Setting :=
  match Binary64.ofDecimal? negative (natural 10 (whole ++ fraction)) (power - fraction.length) with
  | some number => .real (.finite number)
  | none => .valueless

/-- A decimal numeral with a fraction or an exponent. -/
def fractional? (negative : Bool) (numeral : List Char) : Option Setting := do
  let (front, exponent) := cutExponent numeral
  let power ← exponent? exponent
  match Text.cut '.' front with
  | some (whole, fraction) => do
    let whole ← wholeDigits? whole
    let fraction ← digits? 10 fraction
    some (real negative whole fraction power)
  | none => do
    let whole ← wholeDigits? front
    some (real negative whole [] power)

/-- Whether every underscore stands between two digits of some base, given whether a
digit stands before the numeral. -/
def isSeparated : Bool → List Char → Bool
  | _, [] => true
  | afterDigit, character :: rest =>
    if character = '_' then
      afterDigit && rest.head?.any isHexDigit && isSeparated false rest
    else
      isSeparated (isHexDigit character) rest

/-- The integer of 64 bits that a numeral spells in a base. -/
def integer (base : Nat) (negative : Bool) (numeral : List Char) : Setting :=
  let digits := numeral.filter (· ≠ '_')
  if !digits.isEmpty && digits.all (isDigitOf base) then
    let value := withSign negative (natural base digits)
    if -2 ^ (63 : Nat) ≤ value ∧ value < 2 ^ (63 : Nat) then .integer value else .valueless
  else
    .valueless

/-- A numeral in a base, perhaps without digits. -/
def based? (base : Nat) (numeral : List Char) : Option Setting :=
  if numeral.all (fun character => character == '_' || isDigitOf base character) &&
      isSeparated false numeral then
    some (integer base false numeral)
  else
    none

/-- A decimal numeral without a fraction and an exponent.  After an underscore it may go
on with other characters, and then it has no value. -/
def whole? (negative : Bool) (numeral : List Char) : Option Setting :=
  let rest := numeral.dropWhile Char.isDigit
  if numeral.head?.any Char.isDigit && rest.head?.all (· == '_') &&
      (numeral.head? != some '0' || numeral.length == 1) && isSeparated false numeral then
    some (integer 10 negative numeral)
  else
    none

/-- A decimal numeral. -/
def decimal? (negative : Bool) (numeral : List Char) : Option Setting :=
  if numeral.any fun character => character == '.' || character == 'e' || character == 'E' then
    fractional? negative numeral
  else
    whole? negative numeral

/-- A number. -/
def number? : List Char → Option Setting
  | '0' :: 'x' :: numeral => based? 16 numeral
  | '0' :: 'o' :: numeral => based? 8 numeral
  | '0' :: 'b' :: numeral => based? 2 numeral
  | literal =>
    match signed literal with
    | (negative, ['i', 'n', 'f']) => some (.real (.infinite negative))
    | (_, ['n', 'a', 'n']) => some (.real .undefined)
    | (negative, numeral) => decimal? negative numeral

/-! ## Dates and times -/

/-- The number of days of a month. -/
def daysOf (year month : Nat) : Nat :=
  let leap := year % 4 == 0 && (year % 100 != 0 || year % 400 == 0)
  if month = 2 then (if leap then 29 else 28)
  else if month = 4 ∨ month = 6 ∨ month = 9 ∨ month = 11 then 30
  else 31

/-- A natural number of exactly so many digits. -/
def fixed? (width : Nat) (numeral : List Char) : Option Nat :=
  if numeral.length = width ∧ numeral.all Char.isDigit then some (natural 10 numeral) else none

/-- Whether a text is a date, such as `1979-05-27`. -/
def isDate (literal : List Char) : Bool :=
  match Text.pieces '-' literal with
  | (year, [month, day]) =>
    match fixed? 4 year, fixed? 2 month, fixed? 2 day with
    | some year, some month, some day =>
      1 ≤ month && month ≤ 12 && 1 ≤ day && day ≤ daysOf year month
    | _, _, _ => false
  | _ => false

/-- Whether a text is a number of seconds, perhaps with a fraction. -/
def isSeconds (literal : List Char) : Bool :=
  let (whole, fraction) :=
    match Text.cut '.' literal with
    | some (whole, fraction) => (whole, fraction)
    | none => (literal, ['0'])
  (fixed? 2 whole).any (· ≤ 60) && !fraction.isEmpty && fraction.all Char.isDigit

/-- Whether a text is a time of the day, such as `07:32` or `07:32:00.5`. -/
def isTime (literal : List Char) : Bool :=
  match Text.pieces ':' literal with
  | (hour, minute :: seconds) =>
    (fixed? 2 hour).any (· ≤ 23) && (fixed? 2 minute).any (· ≤ 59) &&
      (match seconds with
        | [] => true
        | [seconds] => isSeconds seconds
        | _ => false)
  | _ => false

/-- Whether a text is a distance from universal time, such as `+01:00`. -/
def isOffset (literal : List Char) : Bool :=
  match literal with
  | ['Z'] | ['z'] => true
  | sign :: rest =>
    (sign == '+' || sign == '-') &&
      (match Text.pieces ':' rest with
        | (hour, [minute]) => (fixed? 2 hour).any (· ≤ 23) && (fixed? 2 minute).any (· ≤ 59)
        | _ => false)
  | [] => false

/-- Whether a character may start a distance from universal time. -/
def startsOffset (character : Char) : Bool :=
  character == 'Z' || character == 'z' || character == '+' || character == '-'

/-- Whether a text is a time of the day, perhaps with a distance from universal time. -/
def isZonedTime (literal : List Char) : Bool :=
  let time := literal.takeWhile fun character => !startsOffset character
  let offset := literal.drop time.length
  isTime time && (offset.isEmpty || isOffset offset)

/-- Whether a text is a date, a time or both. -/
def isMoment (literal : List Char) : Bool :=
  let date := literal.take 10
  if isDate date then
    match literal.drop 10 with
    | [] => true
    | separator :: time =>
      (separator == 'T' || separator == 't' || separator == ' ') && isZonedTime time
  else
    isTime literal

/-! ## Reading -/

/-- The characters that end a scalar. -/
def terminators : List Char :=
  [' ', '\t', '\n', '\r', '#', ',', '=', '[', ']', '\x7b', '\x7d']

/-- Whether a character may occur in a scalar. -/
def isScalarCharacter (character : Char) : Bool :=
  !terminators.contains character

/-- The value that a text denotes. -/
def ofText? (literal : List Char) : Option Setting :=
  if literal = ['t', 'r', 'u', 'e'] then some (.bool true)
  else if literal = ['f', 'a', 'l', 's', 'e'] then some (.bool false)
  else if isMoment literal then some .moment
  else number? literal

/-- The scalar that a text starts with, and the text after it.  A date goes on after a
space when a time follows. -/
def read (input : List Char) : Option (Setting × List Char) := do
  let literal := input.takeWhile isScalarCharacter
  let rest := input.drop literal.length
  match rest with
  | ' ' :: after =>
    let time := after.takeWhile isScalarCharacter
    if isDate literal && (time.take 1).all Char.isDigit && !time.isEmpty then
      let value ← ofText? (literal ++ ' ' :: time)
      some (value, after.drop time.length)
    else
      let value ← ofText? literal
      some (value, rest)
  | _ =>
    let value ← ofText? literal
    some (value, rest)

example : ofText? ['1', '_', '0'] matches some (.integer 10) := by decide +kernel
example : ofText? ['1', '_', 'a'] matches some .valueless := by decide +kernel
example : ofText? ['1', '_', 'q'] matches none := by decide +kernel
example : ofText? ['0', 'x'] matches some .valueless := by decide +kernel
example : ofText? ['0', '1'] matches none := by decide +kernel

end Scalar
end ManagedTree
