import TextRecords.Record.Basic

/-!
# Records as text

A record is written item by item. Every line of a comment starts with a number sign.
-/

namespace TextRecords

/-- The lines of a written comment. -/
def commentLines (text : String) : List (List Char) :=
  (Text.segments text.toList).map ('#' :: ·)

/-- The lines of a written item. -/
def Item.lines : Item → List (List Char)
  | field f => f.lines
  | comment text => commentLines text

namespace Record

/-- The lines of a written record. -/
def lines (record : Record) : List (List Char) :=
  record.items.flatMap Item.lines

/-- A written record, with a newline after every line. -/
def text (record : Record) : String :=
  .ofList (Text.endLines record.lines)

end Record

end TextRecords
