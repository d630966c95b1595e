import TextRecords.Text.Blank

/-!
# Lines of a record text

A text is cut into lines at its newlines; a carriage return before a newline, or at the end of the
text, belongs to the line end. Blank lines separate the blocks of a text.
-/

namespace TextRecords.Document

/-- A line of a text, without its end. -/
structure Line where
  /-- The number of the line, counted from one. -/
  number : Nat
  /-- The number of bytes before the line. -/
  offset : Nat
  text : List Char
deriving DecidableEq, Repr

/-- Whether a line has only blanks. -/
def Line.isBlank (line : Line) : Bool :=
  line.text.all Text.isBlank

/-- The lines that start at a line number and a byte offset, given with their carriage returns. -/
def linesFrom (number offset : Nat) : List (List Char) → List Line
  | [] => []
  | text :: rest =>
    ⟨number, offset, Text.dropFinal '\r' text⟩ ::
      linesFrom (number + 1) (offset + Text.byteLength text + 1) rest

/-- The lines of a text. -/
def lines (text : List Char) : List Line :=
  linesFrom 1 0 (Text.segments text)

/-- The runs of lines between blank lines. -/
def blocks (lines : List Line) : List (List Line) :=
  (Text.splitWhen Line.isBlank lines).filter (!·.isEmpty)

end TextRecords.Document
