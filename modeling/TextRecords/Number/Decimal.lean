import TextRecords.Number.Integer

/-!
# Decimal numbers in text

Reading of decimal numbers with a fraction and an exponent, as doubles nearest to what is written.
-/

namespace TextRecords.Number

/-- A decimal number: the whole number that its digits write, times a power of ten. -/
structure Decimal where
  negative : Bool
  digits : Nat
  exponent : Int

namespace Decimal

/-- The number that a run of digits writes; no digits write zero. -/
def digitsValue (digits : List Char) : Nat :=
  digits.foldl (fun value c => value * 10 + (c.toNat - '0'.toNat)) 0

/-- The exponent part of a number: empty, or the letter `e` in either case before a signed
number. -/
def exponent? : List Char → Option Int
  | [] => some 0
  | 'e' :: rest | 'E' :: rest =>
    match rest with
    | '-' :: digits => (digits? decimalDigit? 10 digits).map fun n => -(n : Int)
    | '+' :: digits | digits => (digits? decimalDigit? 10 digits).map Int.ofNat
  | _ => none

/-- A number without sign: digits with at most one point among or around them, at least one digit,
then the exponent part. -/
def unsigned? (negative : Bool) (text : List Char) : Option Decimal :=
  let whole := text.takeWhile Char.isDigit
  let (fraction, rest) := match text.dropWhile Char.isDigit with
    | '.' :: rest => (rest.takeWhile Char.isDigit, rest.dropWhile Char.isDigit)
    | rest => ([], rest)
  if whole.isEmpty && fraction.isEmpty then none
  else (exponent? rest).map fun exponent =>
    ⟨negative, digitsValue (whole ++ fraction), exponent - fraction.length⟩

/-- A number with at most one sign. -/
def ofText? : List Char → Option Decimal
  | '-' :: rest => unsigned? true rest
  | '+' :: rest => unsigned? false rest
  | text => unsigned? false text

/-- The double nearest to a decimal number, ties to the even mantissa. A number of `n` digits before
its exponent is below `10 ^ n` times the power, so very large and very small exponents are decided
without computing the power. -/
def toFloat (number : Decimal) : Float :=
  let digitCount := (Nat.toDigits 10 number.digits).length
  let size := number.exponent + digitCount
  let magnitude : Float :=
    if number.digits = 0 || size < -400 then 0.0
    else if 400 < size then .ofBits 0x7ff0000000000000
    else .ofScientific number.digits (number.exponent < 0) number.exponent.natAbs
  if number.negative then -magnitude else magnitude

end Decimal

/-- The number that a text denotes between blanks: an integer, or a decimal number. Words that name
infinities or the absence of a number denote none. -/
def ofText? (text : String) : Option Float :=
  let trimmed := Text.trim text.toList
  match integer? trimmed with
  | some value => some (.ofInt value)
  | none => (Decimal.ofText? trimmed).map Decimal.toFloat

end TextRecords.Number
