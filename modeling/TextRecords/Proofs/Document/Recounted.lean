import TextRecords.Proofs.Document.Assembly
import TextRecords.Proofs.Document.Line

/-!
# Reading lines that are counted otherwise

The numbers and the offsets of lines have no part in what is read but for the places of the records
and the line that a fault is reported with. So a text whose lines are counted otherwise is read as
the same database with other places, or with the same fault on another line
(`Database.recounted_ofText`). Texts whose lines agree up to the counting are read alike.
-/

namespace TextRecords

/-- A place whose line and offset are counted otherwise. -/
def Location.recounted (number offset : Nat → Nat) (place : Location) : Location :=
  ⟨number place.line, offset place.offset⟩

/-- A fault that is reported with its line counted otherwise. -/
def Fault.recounted (number : Nat → Nat) : Fault → Fault
  | read line fault => read (number line) fault
  | encoding line fault => encoding (number line) fault
  | fault => fault

/-- A database whose records stand at places that are counted otherwise. -/
def Database.recounted (number offset : Nat → Nat) (db : Database) : Database :=
  db.relocated (Option.map (Location.recounted number offset))

namespace Document

/-- A line whose number and offset are counted otherwise. -/
def Line.recounted (number offset : Nat → Nat) (line : Line) : Line :=
  ⟨number line.number, offset line.offset, line.text⟩

variable (number offset : Nat → Nat)

/-- A fault that is reported with a line, counted otherwise. -/
theorem mapError_recounted_read {α : Type} (result : Except ReadFault α) (line : Nat) :
    (result.mapError (.read line)).mapError (Fault.recounted number) =
      result.mapError (.read (number line)) := by
  cases result <;> rfl

/-- The blocks of lines that are counted otherwise. -/
theorem blocks_map_recounted (lines : List Line) :
    blocks (lines.map (Line.recounted number offset)) =
      (blocks lines).map (List.map (Line.recounted number offset)) := by
  have hempty : (fun block : List Line =>
      !(block.map (Line.recounted number offset)).isEmpty) = (!·.isEmpty) := by
    funext block
    cases block <;> rfl
  rw [blocks, Text.splitWhen_map, List.filter_map, Function.comp_def, hempty]
  rfl

/-- A line is added to a block wherever it stands. -/
theorem Block.add_recounted (joins : Bool) (block : Block) (line : Line) :
    (Block.add joins block line).mapError (Fault.recounted number) =
      Block.add joins block (line.recounted number offset) := by
  obtain ⟨items, joined⟩ := block
  cases joined with
  | some field => rfl
  | none => exact mapError_recounted_read _ _ _

/-- Lines are added to a block wherever they stand. -/
theorem Block.foldlM_recounted (joins : Bool) (block : Block) (lines : List Line) :
    (lines.foldlM (Block.add joins) block).mapError (Fault.recounted number) =
      (lines.map (Line.recounted number offset)).foldlM (Block.add joins) block := by
  have hstep : ∀ block line, ((Block.add joins block line).map id).mapError
      (Fault.recounted number) = Block.add joins (id block) (line.recounted number offset) := by
    intro block line
    rw [Except.map_id, id, id, Block.add_recounted]
  have hfold := map_foldlM_seen hstep block lines
  rwa [Except.map_id, id] at hfold

/-- The items of lines that are counted otherwise. -/
theorem Block.itemsOf_recounted (joins : Bool) (lines : List Line) :
    (Block.itemsOf joins lines).mapError (Fault.recounted number) =
      Block.itemsOf joins (lines.map (Line.recounted number offset)) := by
  rw [Block.itemsOf, Block.itemsOf, ← Block.foldlM_recounted number offset]
  cases hread : lines.foldlM (Block.add joins) {} with
  | error fault => rfl
  | ok block =>
    obtain ⟨items, joined⟩ := block
    cases joined with
    | none => rfl
    | some field =>
      -- A value goes on behind the last line, and there is one: without lines, no value does.
      cases hlast : lines.getLast? with
      | none =>
        rw [List.getLast?_eq_none_iff.1 hlast] at hread
        cases hread
      | some last =>
        have hmoved : (lines.map (Line.recounted number offset)).getLast? =
            some (last.recounted number offset) := by rw [List.getLast?_map, hlast, Option.map_some]
        rw [hmoved]
        rfl

/-- An assembly whose records stand at places that are counted otherwise. -/
def Assembly.recounted (number offset : Nat → Nat) (assembly : Assembly) : Assembly :=
  assembly.relocated (Option.map (Location.recounted number offset))

/-- A block is added wherever its lines stand. -/
theorem addBlock_recounted (joins : Bool) (assembly : Assembly) (block : List Line) :
    ((addBlock joins assembly block).map (Assembly.recounted number offset)).mapError
        (Fault.recounted number) =
      addBlock joins (assembly.recounted number offset)
        (block.map (Line.recounted number offset)) := by
  cases block with
  | nil => rfl
  | cons first rest =>
    have hitems := Block.itemsOf_recounted number offset joins (first :: rest)
    rw [List.map_cons] at hitems
    simp only [addBlock, List.map_cons, ← hitems]
    cases Block.itemsOf joins (first :: rest) with
    | error fault => rfl
    | ok items =>
      have hadd : (assembly.add ⟨items, some ⟨first.number, first.offset⟩⟩).map
          (Assembly.recounted number offset) = (assembly.recounted number offset).add
            ⟨items, some ⟨number first.number, offset first.offset⟩⟩ :=
        Assembly.map_relocated_add _ rfl _ _
      simp only [Except.mapError, bind, Except.bind, Line.recounted, ← hadd]
      cases assembly.add ⟨items, some ⟨first.number, first.offset⟩⟩ <;> rfl

end Document

open Document

/-- A text is read as its blocks with the lines counted otherwise are, with the places of the
database, or the line of the fault, counted so. -/
theorem Database.recounted_ofText (number offset : Nat → Nat) (config : Config)
    (text : List Char) :
    ((ofText config text).map (recounted number offset)).mapError (Fault.recounted number) =
      (((Document.blocks (lines text)).map (List.map (Line.recounted number offset))).foldlM
        (addBlock config.joinsLines) {}).map Assembly.database := by
  have hfold := map_foldlM_seen (addBlock_recounted number offset config.joinsLines) {}
    (Document.blocks (lines text))
  have hempty : Assembly.recounted number offset {} = {} := rfl
  rw [← hempty, ← hfold, ofText]
  cases (Document.blocks (lines text)).foldlM (addBlock config.joinsLines) {} <;> rfl

/-- Texts whose blocks have the same lines up to the counting are read alike up to it. -/
theorem Database.recounted_ofText_congr {number offset : Nat → Nat} (config : Config)
    {text other : List Char}
    (h : (Document.blocks (lines other)).map (List.map (Line.recounted number offset)) =
      (Document.blocks (lines text)).map (List.map (Line.recounted number offset))) :
    ((ofText config other).map (recounted number offset)).mapError (Fault.recounted number) =
      ((ofText config text).map (recounted number offset)).mapError (Fault.recounted number) := by
  rw [recounted_ofText, recounted_ofText, h]

end TextRecords
