/-!
# Cutting text into pieces

Texts are worked on as lists of characters. This module cuts a list at its separators, joins lines
with newlines, and measures the UTF-8 length of a text.
-/

namespace TextRecords.Text

/-- The piece before the first separator, and the pieces after it. Every separator ends one piece
and starts the next, so two neighbouring separators enclose an empty piece. -/
def cut {α : Type} (separates : α → Bool) : List α → List α × List (List α)
  | [] => ([], [])
  | a :: rest =>
    let (piece, pieces) := cut separates rest
    if separates a then ([], piece :: pieces) else (a :: piece, pieces)

/-- The pieces of a list between its separators: always one more than there are separators. -/
def splitWhen {α : Type} (separates : α → Bool) (list : List α) : List (List α) :=
  (cut separates list).1 :: (cut separates list).2

/-- The pieces of a text between its newlines. -/
def segments (text : List Char) : List (List Char) :=
  splitWhen (· == '\n') text

/-- Lines joined by newlines, with none at the end. -/
def joinLines (lines : List (List Char)) : List Char :=
  List.intercalate ['\n'] lines

/-- Lines each ended by a newline. -/
def endLines (lines : List (List Char)) : List Char :=
  lines.flatMap (· ++ ['\n'])

/-- The number of bytes a text takes in UTF-8. -/
def byteLength : List Char → Nat
  | [] => 0
  | c :: rest => c.utf8Size + byteLength rest

/-- The text after a leading `lead`, if it starts with it. -/
def after? (lead : List Char) (text : List Char) : Option (List Char) :=
  if lead.isPrefixOf text then some (text.drop lead.length) else none

/-- A text without its last character when that is `c`. -/
def dropFinal (c : Char) (text : List Char) : List Char :=
  if text.getLast? = some c then text.dropLast else text

/-- How many copies of `c` end a text. -/
def trailing (c : Char) (text : List Char) : Nat :=
  (text.reverse.takeWhile (· == c)).length

/-- A text without the copies of `c` that end it. -/
def dropTrailing (c : Char) (text : List Char) : List Char :=
  (text.reverse.dropWhile (· == c)).reverse

/-- Whether `part` occurs in a text as a run of neighbouring characters. -/
def occursIn (part : List Char) : List Char → Bool
  | [] => part.isEmpty
  | c :: rest => part.isPrefixOf (c :: rest) || occursIn part rest

end TextRecords.Text
