import TextRecords.Document.Line
import TextRecords.Fault

/-!
# Blocks of a record text

The lines of a block are the fields and comments of a record. `Block.items` reads them. A line that
starts with a number sign is a comment, and joins a comment line before it; a line that starts with
a plus sign continues the value of the field before it; any other line starts a field. A line that
follows a joining backslash is taken as it is, whatever it starts with.
-/

namespace TextRecords.Document

/-- The items of the lines of a block that have been read. -/
structure Block where
  /-- The finished items, the last one first. -/
  items : List Item := []
  /-- The field whose value goes on in the next line. -/
  joined : Option Field := none
deriving DecidableEq, Repr

namespace Block

/-- A block with a field after its finished items. -/
def settle (items : List Item) (field : Field) (joins : Bool) : Block :=
  if joins then ⟨items, some field⟩ else ⟨.field field :: items, none⟩

/-- A field with a line added to its value. -/
def extendValue (field : Field) (text : List Char) : Field :=
  { field with value := field.value ++ .ofList text }

/-- A block with one more line that starts with no joined field. -/
def addLine (joins : Bool) (items : List Item) (line : List Char) : Except ReadFault Block :=
  match line with
  | '#' :: text =>
    match items with
    | .comment before :: rest =>
      .ok ⟨.comment (before ++ .ofList ('\n' :: text)) :: rest, none⟩
    | items => .ok ⟨.comment (.ofList text) :: items, none⟩
  | '+' :: text =>
    match items with
    | .field field :: rest =>
      let (value, goesOn) := Text.decodeLineEnd joins (Text.dropOneBlank text)
      .ok (settle rest (extendValue field ('\n' :: value)) goesOn)
    | _ => .error .strayContinuation
  | line =>
    match Field.ofLine line with
    | .error fault => .error (.badField fault)
    | .ok field =>
      let (value, goesOn) := Text.decodeLineEnd joins field.value.toList
      .ok (settle items ⟨field.name, .ofList value⟩ goesOn)

/-- A block with one more line. -/
def add (joins : Bool) (block : Block) (line : Line) : Except Fault Block :=
  match block.joined with
  | some field =>
    let (value, goesOn) := Text.decodeLineEnd joins line.text
    .ok (settle block.items (extendValue field value) goesOn)
  | none => (addLine joins block.items line.text).mapError (.read line.number)

/-- The items of a block, of which the last line is given for the report of a fault. -/
def finish (block : Block) (last : Option Line) : Except Fault (List Item) :=
  match block.joined with
  | some _ => .error (.read ((last.map Line.number).getD 0) .unterminatedValue)
  | none => .ok block.items.reverse

/-- The items that the lines of a block denote. -/
def itemsOf (joins : Bool) (lines : List Line) : Except Fault (List Item) := do
  let block ← lines.foldlM (add joins) {}
  block.finish lines.getLast?

end Block

end TextRecords.Document
