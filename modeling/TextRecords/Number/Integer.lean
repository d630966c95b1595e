import TextRecords.Text.Blank
import TextRecords.Text.Hex

/-!
# Whole numbers in text

Reading of whole numbers of 64 bits: counts, which have no sign but may have a plus, and integers,
which are decimal or hexadecimal. An integer may have a minus sign of its own before a number that
is itself signed. What does not fit in 64 bits any more when it is computed wraps around, as it does
where overflow is not checked.
-/

namespace TextRecords.Number

/-- The value of a decimal digit of ASCII. -/
def decimalDigit? (c : Char) : Option Nat :=
  if c.isDigit then some (c.toNat - '0'.toNat) else none

/-- The number that digits write in a base, given the value of its digits so far. -/
def extend? (digit? : Char → Option Nat) (base : Nat) (value : Nat) : List Char → Option Nat
  | [] => some value
  | c :: rest =>
    match digit? c with
    | some digit => extend? digit? base (value * base + digit) rest
    | none => none

/-- The number that a text of digits alone writes in a base; there is at least one digit. -/
def digits? (digit? : Char → Option Nat) (base : Nat) (text : List Char) : Option Nat :=
  if text.isEmpty then none else extend? digit? base 0 text

/-- The number of values of 64 bits, one more than the greatest number without a sign. -/
def wordCount : Nat := 0x10000000000000000

/-- The least integer of 64 bits. -/
def leastInteger : Int := -0x8000000000000000

/-- The greatest integer of 64 bits. -/
def greatestInteger : Int := 0x7fffffffffffffff

/-- A number of at most 64 bits in decimal digits, with a plus sign allowed. -/
def count? (text : List Char) : Option Nat :=
  let digits := match text with
    | '+' :: rest => rest
    | _ => text
  (digits? decimalDigit? 10 digits).filter (· < wordCount)

/-- Whether an integer fits in 64 bits with a sign. -/
def fits (value : Int) : Bool :=
  leastInteger ≤ value && value ≤ greatestInteger

/-- The integer that 64 bits hold of any integer: the one that fits and differs by a multiple of the
number of their values. -/
def wrapped (value : Int) : Int := value.bmod wordCount

/-- An integer of 64 bits in some base, with one sign allowed. -/
def signed? (digit? : Char → Option Nat) (base : Nat) (text : List Char) : Option Int :=
  let value := match text with
    | '-' :: rest => (digits? digit? base rest).map fun (n : Nat) => -(n : Int)
    | '+' :: rest => (digits? digit? base rest).map Int.ofNat
    | _ => (digits? digit? base text).map Int.ofNat
  value.filter fits

/-- A signed number, hexadecimal after `0x` or `0X` and decimal otherwise. -/
def based? (text : List Char) : Option Int :=
  match text with
  | '0' :: 'x' :: rest | '0' :: 'X' :: rest => signed? Text.hexDigit? 16 rest
  | _ => signed? decimalDigit? 10 text

/-- The integer that a text denotes between blanks: a signed number, or a minus sign and a signed
number, which it negates within 64 bits. -/
def integer? (text : List Char) : Option Int :=
  match Text.trim text with
  | '-' :: rest => (based? rest).map fun value => wrapped (-value)
  | trimmed => based? trimmed

end TextRecords.Number
