import TextRecords.Positions
import TextRecords.RecordSet.Basic
import TextRecords.Sampler
import TextRecords.Selection.Value

/-!
# Filters

A filter says which records of which set an operation is about. What it leaves out restricts
nothing.
-/

namespace TextRecords

/-- Which records of which set an operation is about. -/
structure Filter where
  type : Option String := none
  /-- The position of a single record. The other restrictions on records are not regarded then. -/
  position : Option Nat := none
  selection : Option Selection := none
  /-- A text that occurs in the written record. -/
  part : Option String := none
  /-- How many of the records to draw at random. -/
  sampleSize : Option Nat := none
  seed : Option Nat := none
  caseless : Bool := false

namespace Filter

/-- Whether a filter admits every record. -/
def isUnrestricted (filter : Filter) : Bool :=
  filter.position.isNone && filter.selection.isNone && filter.part.isNone &&
    filter.sampleSize.isNone

/-- Whether a text occurs in a written record, with letter case or without. -/
def mentions (caseless : Bool) (part : String) (record : Record) : Bool :=
  if caseless then
    Text.occursIn (Unicode.lowercased part).toList (Unicode.lowercased record.text).toList
  else Text.occursIn part.toList record.text.toList

/-- Whether a record has the part and is picked by the selection that a filter asks for. -/
def admits (filter : Filter) (record : Record) : Bool :=
  filter.part.all (mentions filter.caseless · record) &&
    filter.selection.all (·.picks filter.caseless record)

/-- The positions of the records that a filter admits, before a sample is drawn. -/
def matching (filter : Filter) (set : RecordSet) : List Nat :=
  match filter.position with
  | some position => if position < set.size then [position] else []
  | none => positionsOf filter.admits set.records

/-- A sample of what a filter admits, if it asks for one. -/
def sample {α : Type} (filter : Filter) (sampler : Sampler) (list : List α) : List α :=
  match filter.position, filter.sampleSize with
  | none, some count => sampler.sample filter.seed count list
  | _, _ => list

/-- The positions of the records that a filter selects. -/
def targets (filter : Filter) (sampler : Sampler) (set : RecordSet) : List Nat :=
  filter.sample sampler (filter.matching set)

end Filter

end TextRecords
