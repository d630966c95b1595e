/-!
# UTF-8

Decoding of bytes as UTF-8. A sequence that is no character is reported with the number of bytes
before it and the number of its bytes that a decoder may skip; no number is given when the input
ends inside a character.
-/

namespace TextRecords.Text

/-- Where bytes stop being UTF-8. -/
structure Utf8Fault where
  /-- The number of bytes before the sequence. -/
  validLength : Nat
  /-- The number of bytes of the sequence, unless the input ends in it. -/
  faultLength : Option Nat
deriving DecidableEq, Repr

/-- The fault in words. -/
def Utf8Fault.message (fault : Utf8Fault) : String :=
  match fault.faultLength with
  | some length => s!"invalid utf-8 sequence of {length} bytes from index {fault.validLength}"
  | none => s!"incomplete utf-8 byte sequence from index {fault.validLength}"

/-- Whether a byte continues a character. -/
def isContinuation (b : Nat) : Bool :=
  0x80 ≤ b && b ≤ 0xbf

/-- Whether `b` may follow `a`, which starts a character of two bytes or more: no character is
longer than it need be, none is a surrogate, and none lies above the last code point. -/
def mayFollow (a b : Nat) : Bool :=
  (if a == 0xe0 then 0xa0 else if a == 0xf0 then 0x90 else 0x80) ≤ b &&
    b ≤ (if a == 0xed then 0x9f else if a == 0xf4 then 0x8f else 0xbf)

/-- The number of bytes of the character that a byte starts. -/
def width? (a : Nat) : Option Nat :=
  if a < 0x80 then some 1
  else if 0xc2 ≤ a && a ≤ 0xdf then some 2
  else if 0xe0 ≤ a && a ≤ 0xef then some 3
  else if 0xf0 ≤ a && a ≤ 0xf4 then some 4
  else none

/-- How many of the bytes after the first belong to the character that `a` starts: all of `wanted`,
or fewer when one of them may not stand there or the bytes end. -/
def goodTail (a : Nat) (wanted : Nat) (bytes : List Nat) : Nat :=
  match bytes.take wanted with
  | [] => 0
  | b :: more => if mayFollow a b then 1 + (more.takeWhile isContinuation).length else 0

/-- The code point written by the bytes of one character. -/
def codePoint (a : Nat) (tail : List Nat) : Nat :=
  let lead := match tail.length with
    | 0 => a
    | 1 => a % 0x20
    | 2 => a % 0x10
    | _ => a % 0x08
  tail.foldl (fun code b => code * 0x40 + b % 0x40) lead

/-- The characters of bytes that start `index` bytes into the input; the next `skip` bytes belong to
the character before them. -/
def decodeFrom (index skip : Nat) : List Nat → Except Utf8Fault (List Char)
  | [] => .ok []
  | a :: rest =>
    match skip with
    | skip + 1 => decodeFrom (index + 1) skip rest
    | 0 =>
      match width? a with
      | none => .error ⟨index, some 1⟩
      | some width =>
        let good := goodTail a (width - 1) rest
        if good = width - 1 then
          (decodeFrom (index + 1) (width - 1) rest).map
            (Char.ofNat (codePoint a (rest.take (width - 1))) :: ·)
        else if rest.length ≤ good then .error ⟨index, none⟩
        else .error ⟨index, some (good + 1)⟩

/-- The text that bytes encode. -/
def decodeUtf8 (bytes : List UInt8) : Except Utf8Fault (List Char) :=
  decodeFrom 0 0 (bytes.map UInt8.toNat)

end TextRecords.Text
