/-!
# The exact value of a float

A finite double is a whole mantissa times a power of two. This module takes a double apart into
these two, builds one from them, and computes with the exact value where the floating point
operations do not suffice: whether a number is whole, and the remainder of a division.
-/

namespace TextRecords.Number

/-- What a double stands for: no number, an infinity, or plus or minus `mantissa · 2 ^ exponent`. -/
inductive Binary where
  | nan
  | infinite (negative : Bool)
  | finite (negative : Bool) (mantissa : Nat) (exponent : Int)

namespace Binary

/-- The weight of the bit that a normal number has before its fraction bits. -/
def leadingBit : Nat := 0x10000000000000

/-- The value of a double, read off its sign, exponent and fraction bits. -/
def ofFloat (x : Float) : Binary :=
  let bits := x.toBits.toNat
  let negative := bits >>> 63 == 1
  let biased : Nat := (bits >>> 52) % 0x800
  let fraction := bits % leadingBit
  if biased == 0x7ff then
    if fraction == 0 then infinite negative else nan
  else if biased == 0 then finite negative fraction (-1074)
  else finite negative (fraction + leadingBit) ((biased : Int) - 1075)

/-- The double `mantissa · 2 ^ exponent`, negated when `negative` holds, for a product that a double
holds exactly. -/
def encode (negative : Bool) (mantissa : Nat) (exponent : Int) : Float :=
  let sign := if negative then 1 <<< 63 else 0
  if mantissa = 0 then .ofBits (.ofNat sign)
  else
    let shift := min (52 - (Nat.log2 mantissa : Int)) (exponent + 1074)
    let whole := if 0 ≤ shift then mantissa <<< shift.toNat else mantissa >>> (-shift).toNat
    let biased := if whole < leadingBit then 0 else (exponent - shift + 1075).toNat
    .ofBits (.ofNat (sign + biased * leadingBit + whole % leadingBit))

/-- The integer that a value is, if it is one. -/
def integer? : Binary → Option Int
  | finite negative mantissa exponent =>
    let magnitude :=
      if 0 ≤ exponent then some (mantissa <<< exponent.toNat)
      else if mantissa % (1 <<< (-exponent).toNat) = 0 then some (mantissa >>> (-exponent).toNat)
      else none
    magnitude.map fun n => if negative then -(n : Int) else n
  | _ => none

/-- The remainder of a division that truncates its quotient: it has the sign of the dividend. Both
mantissas are brought to the smaller exponent, where the remainder of whole numbers is exact. -/
def remainder : Binary → Binary → Float
  | finite negative a p, finite _ b q =>
    if b = 0 then .ofBits 0x7ff8000000000000
    else
      let exponent := min p q
      let dividend := a <<< (p - exponent).toNat
      let divisor := b <<< (q - exponent).toNat
      encode negative (dividend % divisor) exponent
  | finite negative a p, infinite _ => encode negative a p
  | _, _ => .ofBits 0x7ff8000000000000

end Binary

end TextRecords.Number
