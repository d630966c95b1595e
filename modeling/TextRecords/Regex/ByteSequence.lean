import TextRecords.Unicode.CharSet

/-!
# Byte sequences of character sets

The UTF-8 forms of a set of characters as a list of sequences of byte ranges. A sequence stands for
every choice of one byte from each of its ranges; the sequences of a set are in ascending order and
no form belongs to two of them.
-/

namespace TextRecords.Regex

open Unicode (CharSet codeAt)

/-- The bytes from `first` to `last`. -/
structure ByteRange where
  first : Nat
  last : Nat
  deriving DecidableEq

/-- The UTF-8 form of a code point. -/
def utf8Form (code : Nat) : List Nat :=
  if code < 0x80 then [code]
  else if code < 0x800 then [0xc0 + code / 0x40, 0x80 + code % 0x40]
  else if code < 0x10000 then
    [0xe0 + code / 0x1000, 0x80 + code / 0x40 % 0x40, 0x80 + code % 0x40]
  else
    [0xf0 + code / 0x40000, 0x80 + code / 0x1000 % 0x40, 0x80 + code / 0x40 % 0x40,
      0x80 + code % 0x40]

/-- The forms between two forms of the same length, as sequences. Where the leading bytes differ,
the forms with the first and with the last leading byte stand apart unless all of them belong. -/
def formsBetween : List Nat → List Nat → List (List ByteRange)
  | [a], [b] => [[⟨a, b⟩]]
  | a :: as, b :: bs =>
    if a = b then (formsBetween as bs).map (⟨a, a⟩ :: ·)
    else
      let lowest := as.map fun _ => 0x80
      let highest := bs.map fun _ => 0xbf
      let fromStart := as == lowest
      let toEnd := bs == highest
      let start := if fromStart then [] else (formsBetween as highest).map (⟨a, a⟩ :: ·)
      let final := if toEnd then [] else (formsBetween lowest bs).map (⟨b, b⟩ :: ·)
      let first := if fromStart then a else a + 1
      let last := if toEnd then b else b - 1
      let middle :=
        if first ≤ last then [⟨first, last⟩ :: as.map fun _ => ⟨0x80, 0xbf⟩] else []
      start ++ middle ++ final
  | _, _ => []
termination_by form => form.length
decreasing_by all_goals simp

/-- The ranges of code points with forms of one length, in ascending order. The surrogates, which
have none, lie between two of them. -/
def formRanges : List (Nat × Nat) :=
  [(0, 0x7f), (0x80, 0x7ff), (0x800, 0xd7ff), (0xe000, 0xffff), (0x10000, 0x10ffff)]

/-- The UTF-8 forms of the members of a set. -/
def byteSequences (set : CharSet) : List (List ByteRange) :=
  set.runs.flatMap fun (first, last) =>
    formRanges.flatMap fun (lowest, highest) =>
      let first := max lowest (codeAt first)
      let last := min highest (codeAt last)
      if first ≤ last then formsBetween (utf8Form first) (utf8Form last) else []

end TextRecords.Regex
