import TextRecords.Number.Binary

/-!
# Shortest decimal digits

The fewest decimal digits that read back as a given double. The reals that round to a double form an
interval around it; among the decimals of the fewest digits inside this interval the one nearest to
the double is taken, and the upper one of two that are equally near.
-/

namespace TextRecords.Number

/-- Decimal digits `d₁ d₂ …` with the position of the point: the number `0.d₁d₂… · 10 ^ point`. -/
structure Digits where
  digits : List Char
  point : Int

/-- A positive real as a quotient of whole numbers, between the two ends of the interval of reals
that round to it, over the same denominator. -/
structure Interval where
  low : Nat
  value : Nat
  high : Nat
  denominator : Nat
  /-- Whether the two ends round to the value as well. -/
  closed : Bool

/-- The interval of the positive double `mantissa · 2 ^ exponent`. The gap below a power of two is
half the gap above it, except at the smallest exponent. -/
def Interval.ofBinary (mantissa : Nat) (exponent : Int) : Interval :=
  let scale := exponent - 2
  let up := 1 <<< scale.toNat
  let below := if mantissa = Binary.leadingBit && -1074 < exponent then 1 else 2
  ⟨(4 * mantissa - below) * up, 4 * mantissa * up, (4 * mantissa + 2) * up, 1 <<< (-scale).toNat,
    mantissa % 2 = 0⟩

/-- The number of digits before the point, negative when zeros follow it: the `point` for which the
value lies between `10 ^ (point - 1)` and `10 ^ point`. -/
def Interval.point (interval : Interval) : Int :=
  if interval.denominator ≤ interval.value then
    (Nat.toDigits 10 (interval.value / interval.denominator)).length
  else
    let zeros := (List.range 400).find? fun n =>
      interval.denominator ≤ interval.value * Nat.pow 10 (n + 1)
    Int.negOfNat (zeros.getD 400)

/-- Whether `digits · 10 ^ exponent` lies inside an interval. -/
def Interval.holds (interval : Interval) (digits : Nat) (exponent : Int) : Bool :=
  let candidate := digits * Nat.pow 10 exponent.toNat * interval.denominator
  let scale := Nat.pow 10 (-exponent).toNat
  if interval.closed then
    interval.low * scale ≤ candidate && candidate ≤ interval.high * scale
  else interval.low * scale < candidate && candidate < interval.high * scale

/-- The nearer of the two decimals of the form `n · 10 ^ exponent` around the value that lie inside
the interval. -/
def Interval.nearest? (interval : Interval) (exponent : Int) : Option Nat :=
  let value := interval.value * Nat.pow 10 (-exponent).toNat
  let unit := interval.denominator * Nat.pow 10 exponent.toNat
  let below := value / unit
  match interval.holds below exponent, interval.holds (below + 1) exponent with
  | true, true => some (if 2 * (value % unit) < unit then below else below + 1)
  | true, false => some below
  | false, true => some (below + 1)
  | false, false => none

/-- The digits of a whole number times a power of ten, without zeros at the end. -/
def Digits.ofNat (n : Nat) (exponent : Int) : Digits :=
  let digits := Nat.toDigits 10 n
  ⟨(digits.reverse.dropWhile (· == '0')).reverse, digits.length + exponent⟩

/-- The fewest digits that read back as a positive double. Seventeen always suffice. -/
def Digits.shortest (mantissa : Nat) (exponent : Int) : Digits :=
  let interval := Interval.ofBinary mantissa exponent
  let point := interval.point
  let found := (List.range 17).findSome? fun n =>
    (interval.nearest? (point - (n + 1 : Nat))).map fun digits =>
      Digits.ofNat digits (point - (n + 1 : Nat))
  found.getD ⟨['0'], 1⟩

/-- How a number is laid out. -/
structure Layout where
  /-- Whether a number whose point stands at this position is written without an exponent. -/
  positional : Int → Bool
  /-- Whether a whole number is written with a point and a zero. -/
  marksWhole : Bool

/-- Digits without an exponent. -/
def Layout.plain (layout : Layout) (number : Digits) : List Char :=
  let count : Int := number.digits.length
  if number.point ≤ 0 then
    ['0', '.'] ++ List.replicate (-number.point).toNat '0' ++ number.digits
  else if count ≤ number.point then
    number.digits ++ List.replicate (number.point - count).toNat '0' ++
      (if layout.marksWhole then ['.', '0'] else [])
  else
    number.digits.take number.point.toNat ++ '.' :: number.digits.drop number.point.toNat

/-- Digits with an exponent: one digit before the point, and no sign on a positive exponent. -/
def Layout.scientific (number : Digits) : List Char :=
  let fraction := match number.digits.drop 1 with
    | [] => []
    | digits => '.' :: digits
  number.digits.take 1 ++ fraction ++ 'e' :: (toString (number.point - 1)).toList

/-- The text of a double in a layout, with the fewest digits that read back as it. -/
def Layout.text (layout : Layout) (x : Float) : String :=
  let signed := fun (negative : Bool) (text : List Char) =>
    String.ofList (if negative then '-' :: text else text)
  match Binary.ofFloat x with
  | .nan => "NaN"
  | .infinite negative => signed negative ['i', 'n', 'f']
  | .finite negative 0 _ =>
    signed negative (if layout.marksWhole then ['0', '.', '0'] else ['0'])
  | .finite negative mantissa exponent =>
    let digits := Digits.shortest mantissa exponent
    signed negative
      (if layout.positional digits.point then layout.plain digits else Layout.scientific digits)

end TextRecords.Number
