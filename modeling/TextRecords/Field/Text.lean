import TextRecords.Field.Basic

/-!
# Fields as text

A field is written as its name, a colon and the first line of its value; every further line of the
value follows on a line of its own after a plus sign. A blank separates the colon or the plus sign
from the text, and an empty line of the value has nothing after them.

A backslash at the end of a line joins the next line to it, so the backslashes that end a line of a
value are doubled when it is written, and halved when it is read.
-/

namespace TextRecords

namespace Text

/-- A line of a value as it is written: the backslashes that end it are doubled. -/
def encodeLineEnd (line : List Char) : List Char :=
  line ++ List.replicate (trailing '\\' line) '\\'

/-- A written line of a value, and whether the next line joins it. Two backslashes at the end stand
for one. One that is left over joins the next line when `joins` is set, and stands for itself
otherwise. -/
def decodeLineEnd (joins : Bool) (line : List Char) : List Char × Bool :=
  let run := trailing '\\' line
  let continues := run % 2 == 1 && joins
  let literal := if run % 2 == 1 && !joins then run / 2 + 1 else run / 2
  (dropTrailing '\\' line ++ List.replicate literal '\\', continues)

/-- What follows the colon or the plus sign before a line of a value. -/
def valueTail (line : List Char) : List Char :=
  if line.isEmpty then [] else ' ' :: encodeLineEnd line

/-- A text without one space or tab that starts it. -/
def dropOneBlank : List Char → List Char
  | ' ' :: rest => rest
  | '\t' :: rest => rest
  | text => text

end Text

/-- What is wrong with a line that should start a field. -/
inductive FieldFault where
  /-- The line does not start with a name and a colon. -/
  | malformed (line : String)
  /-- The name starts with a digit. -/
  | invalidName (name : String)
deriving DecidableEq, Repr

/-- The fault in words. -/
def FieldFault.message : FieldFault → String
  | malformed line => s!"malformed field line '{line}'"
  | invalidName name => s!"invalid field name '{name}'"

namespace Field

/-- The lines of a written field. -/
def lines (field : Field) : List (List Char) :=
  let (first, others) := Text.cut (· == '\n') field.value.toList
  (field.name.toList ++ ':' :: Text.valueTail first) ::
    others.map fun line => '+' :: Text.valueTail line

/-- A written field, its lines joined by newlines. -/
def text (field : Field) : String :=
  .ofList (Text.joinLines field.lines)

/-- The field that a line starts. The end of the line is not decoded. -/
def ofLine (line : List Char) : Except FieldFault Field :=
  let name := line.takeWhile isNameChar
  match name, line.dropWhile isNameChar with
  | _ :: _, ':' :: value =>
    if isFieldName name then .ok ⟨.ofList name, .ofList (Text.dropOneBlank value)⟩
    else .error (.invalidName (.ofList name))
  | _, _ => .error (.malformed (.ofList line))

/-- The text of a line that continues a value, after its plus sign and blank. -/
def continuation? : List Char → Option (List Char)
  | '+' :: rest => some (Text.dropOneBlank rest)
  | _ => none

/-- The field that a text denotes: a line that starts a field, and lines that continue its value.
A backslash that ends a line stands for itself, since no further line could join it. -/
def ofText? (text : List Char) : Option Field := do
  let (first, others) := Text.cut (· == '\n') text
  let field ← (ofLine first).toOption
  let others ← others.mapM continuation?
  let decoded := (field.value.toList :: others).map fun line => (Text.decodeLineEnd false line).1
  return { field with value := .ofList (Text.joinLines decoded) }

end Field

end TextRecords
