import TextRecords.Record.Text
import TextRecords.Schema.Basic

/-!
# Record sets

A record set is a descriptor, which may be absent, and the records that follow it, with the comments
that stand between them. Positions count the records alone.
-/

namespace TextRecords

/-- A record or a comment of a set. -/
inductive Entry where
  | record (record : Record)
  | comment (text : String)
deriving DecidableEq, Repr

namespace Entry

/-- The record that an entry is, if it is one. -/
def record? : Entry → Option Record
  | record r => some r
  | comment _ => none

/-- The comment that an entry is, if it is one. -/
def comment? : Entry → Option String
  | record _ => none
  | comment text => some text

/-- The lines of a written entry. -/
def lines : Entry → List (List Char)
  | record r => r.lines
  | comment text => commentLines text

/-- An entry without the place of its record. -/
def unplaced : Entry → Entry
  | record r => record r.unplaced
  | comment text => comment text

/-- The entries with those that stand for the record at a position put in its place. -/
def substitute (replacement : Record → List Entry) : Nat → List Entry → List Entry
  | _, [] => []
  | position, comment text :: rest => comment text :: substitute replacement position rest
  | 0, record r :: rest => replacement r ++ rest
  | position + 1, record r :: rest => record r :: substitute replacement position rest

end Entry

/-- A descriptor with its records. -/
structure RecordSet where
  descriptor : Option Record := none
  entries : List Entry := []
deriving DecidableEq, Repr

namespace RecordSet

/-- A set with a descriptor that declares a type and nothing else. -/
def typed (name : String) : RecordSet :=
  { descriptor := some ⟨[.field ⟨"%rec", name⟩], none⟩ }

/-- What the descriptor of a set declares; nothing without one. -/
def schema (set : RecordSet) : Schema :=
  match set.descriptor with
  | some descriptor => .ofDescriptor descriptor
  | none => {}

/-- The type of a set, if its descriptor declares one. -/
def typeName (set : RecordSet) : Option String :=
  set.schema.typeName

/-- The records of a set. -/
def records (set : RecordSet) : List Record :=
  set.entries.filterMap Entry.record?

/-- The comments between the records of a set. -/
def comments (set : RecordSet) : List String :=
  set.entries.filterMap Entry.comment?

/-- The number of records. -/
def size (set : RecordSet) : Nat :=
  set.records.length

/-- The record at a position. -/
def record? (set : RecordSet) (position : Nat) : Option Record :=
  set.records[position]?

/-- A set with an entry after all others. -/
def push (set : RecordSet) (entry : Entry) : RecordSet :=
  { set with entries := set.entries ++ [entry] }

/-- A set with a record put before the one at a position, or after all entries when there is
none. -/
def insertAt (set : RecordSet) (position : Nat) (record : Record) : RecordSet :=
  if position < set.size then
    { set with
      entries := Entry.substitute (fun next => [.record record, .record next]) position
        set.entries }
  else set.push (.record record)

/-- A set with a record put before the one at a position, or after all entries without a
position. -/
def insertBefore (set : RecordSet) (position : Option Nat) (record : Record) : RecordSet :=
  match position with
  | some position => set.insertAt position record
  | none => set.push (.record record)

/-- A set with an entry in place of the record at a position. -/
def replaceAt (set : RecordSet) (position : Nat) (entry : Entry) : RecordSet :=
  { set with entries := Entry.substitute (fun _ => [entry]) position set.entries }

/-- A set without the record at a position. -/
def removeAt (set : RecordSet) (position : Nat) : RecordSet :=
  { set with entries := Entry.substitute (fun _ => []) position set.entries }

/-- A set without the record at a position, in whose place a comment may keep its text. -/
def retireAt (set : RecordSet) (commentsOut : Bool) (position : Nat) : RecordSet :=
  if commentsOut then
    { set with
      entries := Entry.substitute
        (fun record => [.comment (.ofList (Text.joinLines record.lines))]) position set.entries }
  else set.removeAt position

/-- A set with the record at a position changed. -/
def modifyAt (set : RecordSet) (position : Nat) (change : Record → Record) : RecordSet :=
  { set with
    entries := Entry.substitute (fun record => [.record (change record)]) position set.entries }

/-- A set with the same descriptor and no entries. -/
def emptied (set : RecordSet) : RecordSet :=
  { set with entries := [] }

/-- A set without the places of its records. -/
def unplaced (set : RecordSet) : RecordSet :=
  ⟨set.descriptor.map Record.unplaced, set.entries.map Entry.unplaced⟩

/-- The blocks of lines that a set is written as: its descriptor, then its entries. -/
def blocks (set : RecordSet) : List (List (List Char)) :=
  (set.descriptor.map Record.lines).toList ++ set.entries.map Entry.lines

end RecordSet

/-- Blocks of lines as text, with one empty line between any two. -/
def textOfBlocks (blocks : List (List (List Char))) : String :=
  .ofList (Text.endLines (List.intercalate [[]] blocks))

/-- A written set. -/
def RecordSet.text (set : RecordSet) : String :=
  textOfBlocks set.blocks

end TextRecords
