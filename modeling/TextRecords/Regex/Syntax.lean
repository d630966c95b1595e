import TextRecords.Unicode.Case

/-!
# Regular expressions

The abstract syntax of regular expressions: assertions about a position, and expressions built from
texts and sets of characters. All flags are resolved before this syntax is reached, so the tree
alone says what an expression matches.
-/

namespace TextRecords.Regex

open Unicode (CharSet)

/-- Where a character counts as part of a word. -/
inductive WordClass where
  | unicode
  | ascii
  deriving DecidableEq

/-- The characters that are part of a word: letters, marks, decimal digits, connector punctuation
and the two joiners. -/
def WordClass.members : WordClass → CharSet
  | unicode =>
    Unicode.Property.alphabetic ∪
      Unicode.Category.union (.decimalNumber :: .connectorPunctuation :: Unicode.Category.marks) ∪
      Unicode.Property.joinControl
  | ascii => .ofTable "30-39 41-5a 5f 61-7a"

/-- An assertion about a position between two characters. -/
inductive Look where
  | textStart
  | textEnd
  | lineStart
  | lineEnd
  /-- The start of a line that a carriage return, a newline or both in this order end. -/
  | anyLineStart
  /-- The end of such a line. -/
  | anyLineEnd
  | wordBoundary (words : WordClass)
  | notWordBoundary (words : WordClass)
  | wordStart (words : WordClass)
  | wordEnd (words : WordClass)
  /-- No word character stands before the position. -/
  | wordStartHalf (words : WordClass)
  /-- No word character stands after the position. -/
  | wordEndHalf (words : WordClass)
  deriving DecidableEq

/-- A regular expression. -/
inductive Node where
  | empty
  /-- A text of one character or more, as it stands. -/
  | text (chars : List Char)
  /-- A character of a set. -/
  | one (set : CharSet)
  | look (assertion : Look)
  | sequence (first rest : Node)
  | choice (first rest : Node)
  /-- At least `least` and at most `most` copies; without a bound when `most` is absent. A lazy
  repetition prefers few copies. -/
  | repeated (node : Node) (least : Nat) (most : Option Nat) (isLazy : Bool)
  /-- A group whose match is remembered by its number. -/
  | group (number : Nat) (node : Node)
  deriving DecidableEq

end TextRecords.Regex

/-- A compiled regular expression with its source text. -/
structure TextRecords.Regex where
  source : String
  root : TextRecords.Regex.Node
