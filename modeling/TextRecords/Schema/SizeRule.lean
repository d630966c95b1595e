import TextRecords.Number.Integer

/-!
# Limits on the number of records

A size rule compares the number of records of a set with a given number.
-/

namespace TextRecords

/-- How a size rule compares. -/
inductive SizeComparison where
  | below
  | atMost
  | exactly
  | above
  | atLeast
deriving DecidableEq, Repr

/-- A limit on the number of records of a set. -/
structure SizeRule where
  comparison : SizeComparison
  count : Nat
deriving DecidableEq, Repr

namespace SizeRule

/-- The comparison that a text starts with, and the rest. A text without one sets an upper limit. -/
def comparisonOf : List Char → SizeComparison × List Char
  | '<' :: '=' :: rest => (.atMost, rest)
  | '>' :: '=' :: rest => (.atLeast, rest)
  | '<' :: rest => (.below, rest)
  | '>' :: rest => (.above, rest)
  | '=' :: rest => (.exactly, rest)
  | rest => (.atMost, rest)

/-- The rule that a text denotes: a comparison, which may be left out, and a number. -/
def ofText? (text : List Char) : Option SizeRule :=
  let (comparison, rest) := comparisonOf (Text.trim text)
  (Number.count? (Text.trim rest)).map fun count => ⟨comparison, count⟩

/-- The greatest number of records, if the rule sets one. -/
def greatest? (rule : SizeRule) : Option Nat :=
  match rule.comparison with
  | .below => some (rule.count - 1)
  | .atMost | .exactly => some rule.count
  | .above | .atLeast => none

/-- The least number of records, if the rule sets one. The one after the last number of 64 bits
wraps around to zero, as it does where overflow is not checked. -/
def least? (rule : SizeRule) : Option Nat :=
  match rule.comparison with
  | .above => some ((rule.count + 1) % Number.wordCount)
  | .atLeast | .exactly => some rule.count
  | .below | .atMost => none

/-- Whether a set may have so many records: neither fewer than the least number nor more than the
greatest. -/
def allows (rule : SizeRule) (records : Nat) : Bool :=
  rule.least?.all (· ≤ records) && rule.greatest?.all (records ≤ ·)

end SizeRule

end TextRecords
