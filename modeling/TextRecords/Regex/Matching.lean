import TextRecords.Regex.Syntax

/-!
# Matching

Whether a regular expression matches somewhere in a text. An expression maps the positions at which
a match may start to the positions at which it may end; only the existence of a match is asked for,
so the order in which alternatives and repetitions would be tried plays no part.
-/

namespace TextRecords.Regex

/-- The character before a position. -/
def before? (text : Array Char) (position : Nat) : Option Char :=
  if position = 0 then none else text[position - 1]?

/-- Whether an assertion holds at a position of a text. -/
def Look.holds (text : Array Char) (position : Nat) : Look → Bool
  | textStart => position == 0
  | textEnd => position == text.size
  | lineStart => position == 0 || before? text position == some '\n'
  | lineEnd => position == text.size || text[position]? == some '\n'
  | anyLineStart =>
    position == 0 || before? text position == some '\n' ||
      (before? text position == some '\r' && text[position]? != some '\n')
  | anyLineEnd =>
    position == text.size || text[position]? == some '\r' ||
      (text[position]? == some '\n' && before? text position != some '\r')
  | wordBoundary words => wordBefore words != wordAfter words
  | notWordBoundary words => wordBefore words == wordAfter words
  | wordStart words => !wordBefore words && wordAfter words
  | wordEnd words => wordBefore words && !wordAfter words
  | wordStartHalf words => !wordBefore words
  | wordEndHalf words => !wordAfter words
where
  wordBefore (words : WordClass) : Bool := (before? text position).any words.members.contains
  wordAfter (words : WordClass) : Bool := text[position]?.any words.members.contains

/-- The union of two ascending lists of positions. -/
def mergePositions : List Nat → List Nat → List Nat
  | [], ys => ys
  | xs, [] => xs
  | x :: xs, y :: ys =>
    if x < y then x :: mergePositions xs (y :: ys)
    else if y < x then y :: mergePositions (x :: xs) ys
    else x :: mergePositions xs ys
termination_by xs ys => xs.length + ys.length

/-- The positions reached by exactly `count` steps. -/
def stepExactly (step : List Nat → List Nat) : Nat → List Nat → List Nat
  | 0, positions => positions
  | count + 1, positions =>
    if positions.isEmpty then [] else stepExactly step count (step positions)

/-- The positions reached by at most `count` steps; a round that adds none ends the search. -/
def stepAtMost (step : List Nat → List Nat) : Nat → List Nat → List Nat
  | 0, positions => positions
  | count + 1, positions =>
    let more := mergePositions positions (step positions)
    if more == positions then positions else stepAtMost step count more

/-- Whether characters stand in a text from a position on. -/
def standsAt (text : Array Char) (chars : List Char) (position : Nat) : Bool :=
  match chars with
  | [] => true
  | c :: more => text[position]? == some c && standsAt text more (position + 1)

/-- The positions at which a match of the expression that starts at one of the given positions can
end. Both lists ascend. A text of `n` characters has `n + 1` positions, so `n + 1` rounds of an
unbounded repetition reach all that can be reached. -/
def Node.ends (text : Array Char) : Node → List Nat → List Nat
  | empty, positions => positions
  | .text chars, positions => positions.filterMap fun position =>
    if standsAt text chars position then some (position + chars.length) else none
  | one set, positions => positions.filterMap fun position =>
    if text[position]?.any set.contains then some (position + 1) else none
  | look assertion, positions => positions.filter fun position => assertion.holds text position
  | sequence first rest, positions => rest.ends text (first.ends text positions)
  | choice first rest, positions =>
    mergePositions (first.ends text positions) (rest.ends text positions)
  | group _ node, positions => node.ends text positions
  | repeated node least most _, positions =>
    let rounds := match most with
      | some most => min (most - least) (text.size + 1)
      | none => text.size + 1
    stepAtMost (node.ends text) rounds (stepExactly (node.ends text) least positions)

/-- Whether a regular expression matches some part of a text. -/
def isMatch (regex : Regex) (text : String) : Bool :=
  let characters := text.toList.toArray
  !(regex.root.ends characters (List.range (characters.size + 1))).isEmpty

end TextRecords.Regex
