import Mathlib.Data.List.Forall2
import TextRecords.Proofs.Document.Assembly

/-!
# Reading a written database

A database is written as blocks, each the lines of some items: its parts. Items that form a
canonical part are read back from their lines, so the text of a database with canonical parts is
read as what the parts assemble (`unplaced_ofText_text`).
-/

namespace TextRecords

/-- Whether an item is read back from its lines: a field has a proper name, and no line of its value
or of a comment ends in a carriage return. -/
def Item.IsCanonical : Item → Prop
  | .field f => f.isNamed = true ∧ Text.NoReturnEnds f.value.toList
  | .comment text => Text.NoReturnEnds text.toList

instance : (item : Item) → Decidable item.IsCanonical
  | .field f => inferInstanceAs (Decidable (f.isNamed = true ∧ Text.NoReturnEnds f.value.toList))
  | .comment text => inferInstanceAs (Decidable (Text.NoReturnEnds text.toList))

/-- The items of an entry. -/
def Entry.items : Entry → List Item
  | .record r => r.items
  | .comment text => [.comment text]

/-- The items of the blocks that a set is written as. -/
def RecordSet.parts (set : RecordSet) : List (List Item) :=
  (set.descriptor.map Record.items).toList ++ set.entries.map Entry.items

/-- The items of the blocks that a database is written as. -/
def Database.parts (db : Database) : List (List Item) :=
  db.prologue.map (fun text => [.comment text]) ++ db.sets.flatMap RecordSet.parts

/-- The items of a block that are read back from its lines. -/
structure Document.IsCanonicalPart (items : List Item) : Prop where
  ne_nil : items ≠ []
  canonical : ∀ item ∈ items, item.IsCanonical
  /-- No two comments are neighbours. -/
  apart : items.IsChain (Item.apart · · = true)

instance (items : List Item) : Decidable (Document.IsCanonicalPart items) :=
  decidable_of_iff
    (items ≠ [] ∧ (∀ item ∈ items, item.IsCanonical) ∧ items.IsChain (Item.apart · · = true))
    ⟨fun h => ⟨h.1, h.2.1, h.2.2⟩, fun h => ⟨h.1, h.2, h.3⟩⟩

/-- A comment by itself is a canonical part. -/
theorem Document.isCanonicalPart_comment {text : String} (h : Text.NoReturnEnds text.toList) :
    IsCanonicalPart [.comment text] where
  ne_nil := List.cons_ne_nil _ _
  canonical := by
    intro item hitem
    rw [List.mem_singleton.1 hitem]
    exact h
  apart := .singleton _

/-- An item that is read back has a proper name. -/
theorem Item.IsCanonical.isNamed {item : Item} (h : item.IsCanonical) : item.isNamed = true := by
  cases item with
  | field field => exact h.1
  | comment text => rfl

/-- An item is written as at least one line. -/
theorem Item.lines_ne_nil (item : Item) : item.lines ≠ [] := by
  cases item with
  | field field => exact List.cons_ne_nil _ _
  | comment text =>
    rw [Item.lines, commentLines, Ne, List.map_eq_nil_iff]
    exact Text.segments_ne_nil _

/-- The lines of a comment are block lines. -/
theorem isBlockLine_of_mem_commentLines {text : String} (h : Text.NoReturnEnds text.toList) :
    ∀ line ∈ commentLines text, Document.IsBlockLine line := by
  intro line hline
  obtain ⟨segment, hsegment, rfl⟩ := List.mem_map.1 hline
  refine .of_head rfl ?_ ?_
  · rw [List.mem_cons, not_or]
    exact ⟨by decide, Text.newline_notMem_of_mem_segments hsegment⟩
  · cases segment with
    | nil => decide
    | cons c rest =>
      rw [List.getLast?_cons_cons]
      exact h _ hsegment

/-- The lines of an item that is read back are block lines. -/
theorem Item.IsCanonical.isBlockLine {item : Item} (h : item.IsCanonical) :
    ∀ line ∈ item.lines, Document.IsBlockLine line := by
  cases item with
  | field field => exact Field.isBlockLine_of_mem_lines h.1 h.2
  | comment text => exact isBlockLine_of_mem_commentLines h

/-- The lines of an entry are those of its items. -/
theorem Entry.lines_eq (entry : Entry) : entry.lines = entry.items.flatMap Item.lines := by
  cases entry with
  | record record => rfl
  | comment text => simp [Entry.lines, Entry.items, Item.lines]

/-- The blocks of a set are the lines of its parts. -/
theorem RecordSet.blocks_eq (set : RecordSet) :
    set.blocks = set.parts.map (·.flatMap Item.lines) := by
  have hentries : set.entries.map Entry.lines =
      (set.entries.map Entry.items).map (·.flatMap Item.lines) := by
    rw [List.map_map]
    exact List.map_congr_left fun entry _ => entry.lines_eq
  rw [blocks, parts, List.map_append, hentries]
  cases set.descriptor with
  | none => rfl
  | some descriptor => rfl

/-- The blocks of a database are the lines of its parts. -/
theorem Database.blocks_eq (db : Database) :
    db.blocks = db.parts.map (·.flatMap Item.lines) := by
  have hprologue : db.prologue.map commentLines =
      (db.prologue.map fun text => [Item.comment text]).map (·.flatMap Item.lines) := by
    rw [List.map_map]
    exact List.map_congr_left fun text _ => (Entry.comment text).lines_eq
  have hsets : db.sets.flatMap RecordSet.blocks =
      (db.sets.flatMap RecordSet.parts).map (·.flatMap Item.lines) := by
    rw [List.map_flatMap]
    exact congrArg (db.sets.flatMap ·) (funext RecordSet.blocks_eq)
  rw [blocks, parts, List.map_append, hprologue, hsets]

namespace Document

/-- The lines of a canonical part make a block. -/
theorem IsCanonicalPart.flatMap_lines {items : List Item} (h : IsCanonicalPart items) :
    items.flatMap Item.lines ≠ [] ∧ ∀ line ∈ items.flatMap Item.lines, IsBlockLine line := by
  constructor
  · obtain ⟨item, rest, rfl⟩ := List.exists_cons_of_ne_nil h.ne_nil
    rw [List.flatMap_cons, Ne, List.append_eq_nil_iff]
    exact fun hnil => item.lines_ne_nil hnil.1
  · intro line hline
    obtain ⟨item, hitem, hline⟩ := List.mem_flatMap.1 hline
    exact (h.canonical item hitem).isBlockLine line hline

/-- Blocks of lines whose texts are those of canonical parts denote these parts. -/
theorem forall₂_itemsOf (joins : Bool) {blocks : List (List Line)} {parts : List (List Item)}
    (h : ∀ part ∈ parts, IsCanonicalPart part)
    (hblocks : blocks.map (List.map Line.text) = parts.map (·.flatMap Item.lines)) :
    List.Forall₂ (fun lines items => lines ≠ [] ∧ Block.itemsOf joins lines = .ok items)
      blocks parts := by
  induction parts generalizing blocks with
  | nil =>
    rw [List.map_eq_nil_iff.1 hblocks]
    exact .nil
  | cons part rest ih =>
    obtain ⟨lines, others, rfl, hlines, hothers⟩ := List.map_eq_cons_iff.1 hblocks
    rw [List.forall_mem_cons] at h
    refine .cons ⟨?_, ?_⟩ (ih h.2 hothers)
    · rintro rfl
      exact h.1.flatMap_lines.1 hlines.symm
    · exact Block.itemsOf_lines joins (fun item hitem => (h.1.canonical item hitem).isNamed)
        h.1.apart hlines

end Document

/-- The text of a database with canonical parts is read as what the parts assemble, except for the
places of its records. -/
theorem Database.unplaced_ofText_text (config : Config) {db : Database}
    (h : ∀ part ∈ db.parts, Document.IsCanonicalPart part) :
    (ofText config db.text.toList).toOption.map unplaced =
      (db.parts.foldlM Document.Assembly.addItems {}).toOption.map (·.database) := by
  have hlines : ∀ block ∈ db.parts.map (·.flatMap Item.lines),
      block ≠ [] ∧ ∀ line ∈ block, Document.IsBlockLine line :=
    List.forall_mem_map.2 fun part hpart => (h part hpart).flatMap_lines
  have hblocks := Document.blocks_endLines (fun block hblock => (hlines block hblock).1)
    (fun block hblock => (hlines block hblock).2)
  have hread := Document.foldlM_addBlock (Document.forall₂_itemsOf config.joinsLines h hblocks) {}
  rw [text, textOfBlocks, String.toList_ofList, blocks_eq, ofText]
  cases hfold : (Document.blocks (Document.lines (Text.endLines (List.intercalate [[]]
      (db.parts.map (·.flatMap Item.lines)))))).foldlM (Document.addBlock config.joinsLines) {} with
  | error fault =>
    rw [hfold] at hread
    exact congrArg (Option.map (·.database)) hread
  | ok assembly =>
    rw [hfold] at hread
    exact congrArg (Option.map (·.database)) hread

end TextRecords
