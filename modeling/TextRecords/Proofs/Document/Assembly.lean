import TextRecords.Document.Text
import TextRecords.Proofs.Document.Block
import TextRecords.Proofs.Fallible

/-!
# Assembling a database without regard to places

Where a record stands in a text plays no part in the assembly of a database: adding a block commutes
with every change of the places (`Assembly.map_relocated_add`), so with forgetting them. What the
blocks of a text assemble is decided by the items that they denote, except for the places
(`foldlM_addBlock`).
-/

namespace TextRecords

/-- A record at another place. -/
def Record.relocated (move : Option Location → Option Location) (record : Record) : Record :=
  { record with location := move record.location }

/-- An entry with its record at another place. -/
def Entry.relocated (move : Option Location → Option Location) : Entry → Entry
  | record r => record (r.relocated move)
  | comment text => comment text

/-- A set with its records at other places. -/
def RecordSet.relocated (move : Option Location → Option Location) (set : RecordSet) : RecordSet :=
  ⟨set.descriptor.map (Record.relocated move), set.entries.map (Entry.relocated move)⟩

/-- A database with its records at other places. -/
def Database.relocated (move : Option Location → Option Location) (db : Database) : Database :=
  { db with sets := db.sets.map (RecordSet.relocated move) }

section Relocated

variable (move : Option Location → Option Location)

/-- Where the descriptor stands has no part in what a set declares. -/
theorem RecordSet.typeName_relocated (set : RecordSet) :
    (set.relocated move).typeName = set.typeName := by
  cases set with
  | mk descriptor entries =>
    cases descriptor with
    | none => rfl
    | some descriptor => rfl

/-- The set of a type is found at the same position, wherever the records stand. -/
theorem Database.typePosition?_relocated (db : Database) (type : String) :
    (db.relocated move).typePosition? type = db.typePosition? type := by
  simp only [typePosition?, relocated, List.findIdx?_map, Function.comp_def,
    RecordSet.typeName_relocated]

/-- The set of a type is found wherever the records stand. -/
theorem Database.setOfType?_relocated (db : Database) (type : String) :
    (db.relocated move).setOfType? type = (db.setOfType? type).map (RecordSet.relocated move) := by
  simp only [setOfType?, relocated, List.find?_map, Function.comp_def, RecordSet.typeName_relocated]

/-- Without the places, it does not matter where the records stood. -/
theorem Database.unplaced_relocated (db : Database) :
    (db.relocated move).unplaced = db.unplaced := by
  have hentry : Entry.unplaced ∘ Entry.relocated move = Entry.unplaced := by
    funext entry
    cases entry <;> rfl
  have hset : RecordSet.unplaced ∘ RecordSet.relocated move = RecordSet.unplaced := by
    funext set
    simp only [Function.comp_apply, RecordSet.unplaced, RecordSet.relocated, Option.map_map,
      List.map_map, hentry]
    rfl
  simp only [unplaced, relocated, List.map_map, hset]

/-- Putting a set in place of another commutes with moving the records. -/
theorem Database.relocated_replaceSet (db : Database) (position : Nat) (set : RecordSet) :
    (db.replaceSet position set).relocated move =
      (db.relocated move).replaceSet position (set.relocated move) := by
  simp [relocated, replaceSet]

end Relocated

/-- Where the descriptor stands has no part in what a set declares. -/
@[simp]
theorem RecordSet.typeName_unplaced (set : RecordSet) : set.unplaced.typeName = set.typeName :=
  set.typeName_relocated fun _ => none

/-- The set of a type is found at the same position without the places. -/
theorem Database.typePosition?_unplaced (db : Database) (type : String) :
    db.unplaced.typePosition? type = db.typePosition? type :=
  db.typePosition?_relocated (fun _ => none) type

/-- The set of a type is found without the places. -/
theorem Database.setOfType?_unplaced (db : Database) (type : String) :
    db.unplaced.setOfType? type = (db.setOfType? type).map RecordSet.unplaced :=
  db.setOfType?_relocated (fun _ => none) type

namespace Document

variable (move : Option Location → Option Location)

/-- Merging an item into a descriptor has no regard to its place. -/
theorem map_relocated_mergeItem (type : String) (merged : Record) (item : Item) :
    (mergeItem type merged item).map (Record.relocated move) =
      mergeItem type (merged.relocated move) item := by
  have hholds : ∀ name value, (merged.relocated move).holds name value = merged.holds name value :=
    fun _ _ => rfl
  have hhas : ∀ name, (merged.relocated move).has name = merged.has name := fun _ => rfl
  cases item with
  | comment text => rfl
  | field field =>
    simp only [mergeItem, hholds, hhas]
    split
    · rfl
    · split <;> rfl

namespace Assembly

/-- An assembly with its records at other places. -/
def relocated (move : Option Location → Option Location) (assembly : Assembly) : Assembly :=
  { assembly with database := assembly.database.relocated move }

/-- An assembly without the places of its records. -/
def unplaced (assembly : Assembly) : Assembly :=
  { assembly with database := assembly.database.unplaced }

/-- An assembly holds sets wherever the records of the sets stand. -/
theorem isEmpty_sets_relocated (assembly : Assembly) :
    (assembly.relocated move).database.sets.isEmpty = assembly.database.sets.isEmpty :=
  List.isEmpty_map

/-- Changing the current set commutes with moving the records. -/
theorem map_relocated_modify (sets : List RecordSet) (position : Nat) (entry : Entry) :
    (sets.modify position (·.push entry)).map (RecordSet.relocated move) =
      (sets.map (RecordSet.relocated move)).modify position (·.push (entry.relocated move)) := by
  induction sets generalizing position with
  | nil => simp
  | cons set rest ih =>
    cases position with
    | zero => simp [RecordSet.push, RecordSet.relocated]
    | succ position => simp [ih]

/-- Adding a comment commutes with moving the records. -/
theorem relocated_addComment (assembly : Assembly) (text : String) :
    (assembly.addComment text).relocated move = (assembly.relocated move).addComment text := by
  simp only [addComment, isEmpty_sets_relocated]
  split
  · rfl
  · simp only [relocated, Database.relocated, map_relocated_modify]
    rfl

/-- Adding a record commutes with moving the records. -/
theorem relocated_addRecord (assembly : Assembly) (record : Record) :
    (assembly.addRecord record).relocated move =
      (assembly.relocated move).addRecord (record.relocated move) := by
  simp only [addRecord, isEmpty_sets_relocated]
  split
  · simp [relocated, Database.relocated, RecordSet.relocated, Entry.relocated]
  · simp only [relocated, Database.relocated, map_relocated_modify]
    rfl

/-- Adding a descriptor commutes with moving the records, if a descriptor that stands nowhere stays
so. -/
theorem map_relocated_addDescriptor (hnone : move none = none) (assembly : Assembly) (type : String)
    (descriptor : Record) :
    (assembly.addDescriptor type descriptor).map (relocated move) =
      (assembly.relocated move).addDescriptor type (descriptor.relocated move) := by
  have hposition : (assembly.relocated move).database.typePosition? type =
      assembly.database.typePosition? type := Database.typePosition?_relocated move _ _
  have hset : (assembly.relocated move).database.setOfType? type =
      (assembly.database.setOfType? type).map (RecordSet.relocated move) :=
    Database.setOfType?_relocated move _ _
  simp only [addDescriptor, hposition, hset]
  cases assembly.database.typePosition? type with
  | none => simp [Except.map, relocated, Database.relocated, RecordSet.relocated, Database.size]
  | some position =>
    cases assembly.database.setOfType? type with
    | none => simp [Except.map, relocated, Database.relocated, RecordSet.relocated, Database.size]
    | some set =>
      have hexisting : (set.relocated move).descriptor.getD ⟨[], none⟩ =
          (set.descriptor.getD ⟨[], none⟩).relocated move := by
        cases set with
        | mk descriptor entries =>
          cases descriptor with
          | none => rw [Record.relocated, Option.getD_none, hnone]; rfl
          | some descriptor => rfl
      -- A repeated descriptor is merged into the one before it, item by item.
      have hmerge := map_foldlM_except (map_relocated_mergeItem move type)
        (set.descriptor.getD ⟨[], none⟩) descriptor.items
      simp only [Option.map_some, mergeDescriptor, hexisting]
      rw [show (descriptor.relocated move).items = descriptor.items from rfl, ← hmerge]
      cases descriptor.items.foldlM (mergeItem type) (set.descriptor.getD ⟨[], none⟩) with
      | error fault => rfl
      | ok merged =>
        simp only [Except.map, relocated, Database.relocated_replaceSet]
        rfl

/-- Adding a block commutes with moving the records. -/
theorem map_relocated_add (hnone : move none = none) (assembly : Assembly) (block : Record) :
    (assembly.add block).map (relocated move) =
      (assembly.relocated move).add (block.relocated move) := by
  have hfields : (block.relocated move).fields = block.fields := rfl
  have hcomments : (block.relocated move).comments = block.comments := rfl
  simp only [add, hfields, hcomments]
  cases block.fields.head? with
  | none => exact congrArg Except.ok (relocated_addComment move _ _)
  | some field =>
    simp only
    split
    · cases Text.firstWord? field.value.toList with
      | none => rfl
      | some type => exact map_relocated_addDescriptor move hnone _ _ _
    · exact congrArg Except.ok (relocated_addRecord move _ _)

/-- Adding a block commutes with forgetting the places. -/
theorem map_unplaced_add (assembly : Assembly) (block : Record) :
    (assembly.add block).map unplaced = assembly.unplaced.add block.unplaced :=
  map_relocated_add (fun _ => none) rfl assembly block

/-- An assembly with a block of items added that stands nowhere. -/
def addItems (assembly : Assembly) (items : List Item) : Except ReadFault Assembly :=
  assembly.add ⟨items, none⟩

end Assembly

/-- A block whose lines denote some items adds these items at the place of its first line. -/
theorem toOption_addBlock {joins : Bool} {first : Line} {rest : List Line} {items : List Item}
    (h : Block.itemsOf joins (first :: rest) = .ok items) (assembly : Assembly) :
    (addBlock joins assembly (first :: rest)).toOption =
      (assembly.add ⟨items, some ⟨first.number, first.offset⟩⟩).toOption := by
  simp only [addBlock, h, bind, Except.bind]
  cases assembly.add ⟨items, some ⟨first.number, first.offset⟩⟩ <;> rfl

/-- A block whose lines denote some items adds these items, except for their place. -/
theorem addBlock_of_itemsOf {joins : Bool} {lines : List Line} {items : List Item}
    (hne : lines ≠ []) (h : Block.itemsOf joins lines = .ok items) (assembly : Assembly) :
    ((addBlock joins assembly lines).toOption.map Assembly.unplaced) =
      (assembly.unplaced.addItems items).toOption := by
  obtain ⟨first, rest, rfl⟩ := List.exists_cons_of_ne_nil hne
  have hadd := assembly.map_unplaced_add ⟨items, some ⟨first.number, first.offset⟩⟩
  have hitems : assembly.unplaced.addItems items =
      assembly.unplaced.add (Record.unplaced ⟨items, some ⟨first.number, first.offset⟩⟩) := rfl
  rw [toOption_addBlock h, hitems, ← hadd]
  cases assembly.add ⟨items, some ⟨first.number, first.offset⟩⟩ <;> rfl

/-- What blocks of lines assemble is decided by the items that they denote. -/
theorem foldlM_addBlock {joins : Bool} {blocks : List (List Line)} {parts : List (List Item)}
    (h : List.Forall₂ (fun lines items => lines ≠ [] ∧ Block.itemsOf joins lines = .ok items)
      blocks parts) (assembly : Assembly) :
    (blocks.foldlM (addBlock joins) assembly).toOption.map Assembly.unplaced =
      (parts.foldlM Assembly.addItems assembly.unplaced).toOption := by
  -- The folds stop at the same block, or both go on with assemblies that differ in places alone.
  induction h generalizing assembly with
  | nil => rfl
  | @cons lines items _ _ hblock _ ih =>
    have hadd := addBlock_of_itemsOf hblock.1 hblock.2 assembly
    rw [List.foldlM_cons, List.foldlM_cons]
    cases hread : addBlock joins assembly lines with
    | error fault =>
      rw [hread] at hadd
      cases hitems : assembly.unplaced.addItems items with
      | error fault => rfl
      | ok added =>
        rw [hitems] at hadd
        exact absurd hadd nofun
    | ok read =>
      rw [hread] at hadd
      cases hitems : assembly.unplaced.addItems items with
      | error fault =>
        rw [hitems] at hadd
        exact absurd hadd nofun
      | ok added =>
        rw [hitems] at hadd
        have hadded : added = read.unplaced := (Option.some.inj hadd).symm
        rw [hadded]
        exact ih read

end Document

end TextRecords
