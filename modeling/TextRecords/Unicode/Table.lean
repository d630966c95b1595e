import TextRecords.Unicode.CharSet

/-!
# Tables of code points

Sets of characters and mappings between characters as the Unicode character database writes them:
`41-5a` is a range, `100-136/2` a range in steps of two, since upper and lower case letters often
alternate, and `b5` a single code point. A mapping gives each range the image of its first member,
as in `41-5a>61`.
-/

namespace TextRecords.Unicode

/-- The code points `first`, `first + step`, … up to `last`. -/
structure CodeRange where
  first : Nat
  last : Nat
  step : Nat

namespace CodeRange

/-- Whether a code point belongs to a range. -/
def contains (range : CodeRange) (code : Nat) : Bool :=
  range.first ≤ code && code ≤ range.last && (code - range.first) % range.step == 0

/-- A range in its written form. -/
def ofText (text : List Char) : CodeRange :=
  let step := match (text.dropWhile (· != '/')).drop 1 with
    | [] => 1
    | digits => Text.hexValue digits
  match Text.splitWhen (· == '-') (text.takeWhile (· != '/')) with
  | [first, last] => ⟨Text.hexValue first, Text.hexValue last, step⟩
  | single => ⟨Text.hexValue single.flatten, Text.hexValue single.flatten, step⟩

/-- The code points of a range in ascending order. -/
def codes (range : CodeRange) : List Nat :=
  (List.range ((range.last - range.first) / range.step + 1)).map fun index =>
    range.first + index * range.step

/-- The half-open intervals of ranks that make up a range. -/
def intervals (range : CodeRange) : List (Nat × Nat) :=
  if range.step = 1 then [(rank range.first, rank range.last + 1)]
  else range.codes.map fun code => (rank code, rank code + 1)

end CodeRange

/-- The set of characters that a table lists. -/
def CharSet.ofTable (table : String) : CharSet :=
  .ofIntervals ((Text.words table.toList).flatMap fun word => (CodeRange.ofText word).intervals)

/-- A mapping of characters: the members of each range go, in order, to consecutive images. -/
structure CharMap where
  entries : List (CodeRange × Nat)

namespace CharMap

/-- A mapping in its written form. -/
def ofTable (table : String) : CharMap :=
  ⟨(Text.words table.toList).map fun entry =>
    (CodeRange.ofText (entry.takeWhile (· != '>')),
      Text.hexValue ((entry.dropWhile (· != '>')).drop 1))⟩

/-- The image of a character; a character outside the mapping is its own image. -/
def apply (map : CharMap) (c : Char) : Char :=
  match map.entries.find? (·.1.contains c.toNat) with
  | some (range, target) => Char.ofNat (target + (c.toNat - range.first))
  | none => c

/-- The code points that a mapping moves, each with its image. -/
def pairs (map : CharMap) : List (Nat × Nat) :=
  map.entries.flatMap fun (range, target) =>
    range.codes.map fun code => (code, target + (code - range.first))

end CharMap

end TextRecords.Unicode
