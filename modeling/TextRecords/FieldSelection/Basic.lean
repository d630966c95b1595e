import TextRecords.Number.Integer
import TextRecords.Positions
import TextRecords.Record.Text

/-!
# Field selections

A field selection is a list of selectors. A selector picks occurrences of a field by its name: all
of them, one by its number or a range of numbers, counted from zero. It may give the picked fields
another name in a projection. A selector may also pick fields that are commented out, which are the
comments that read as a field.
-/

namespace TextRecords

/-- The occurrences of a name that a selector picks. -/
inductive Occurrences where
  | all
  | one (number : Nat)
  /-- The numbers between two bounds, which belong to the range. -/
  | range (first last : Nat)
deriving DecidableEq, Repr

/-- Whether an occurrence is picked. -/
def Occurrences.contains : Occurrences → Nat → Bool
  | all, _ => true
  | one number, n => n == number
  | range first last, n => first ≤ n && n ≤ last

/-- The picked ones of all occurrences. -/
def Occurrences.pick {α : Type} (occurrences : Occurrences) (all : List α) : List α :=
  elementsAt occurrences.contains all

/-- A selector of fields. -/
structure Selector where
  name : String
  occurrences : Occurrences
  /-- The name of the picked fields in projections. -/
  newName : Option String
  /-- Whether it picks fields that are commented out. -/
  commented : Bool
deriving DecidableEq, Repr

/-- The name that the picked fields have in projections. -/
def Selector.outputName (selector : Selector) : String :=
  selector.newName.getD selector.name

/-- A list of selectors with the text that it was read from. -/
structure FieldSelection where
  source : String
  selectors : List Selector
deriving DecidableEq, Repr

/-- The fields of a record that are commented out. -/
def Record.commentedFields (record : Record) : List Field :=
  record.comments.filterMap fun text => Field.ofText? text.toList

/-- A field that is commented out. -/
def Item.commentOut (field : Field) : Item :=
  comment field.text

namespace Selector

/-- The items of a projection that a selector contributes. -/
def project (selector : Selector) (record : Record) : List Item :=
  let named := fun value => (⟨selector.outputName, value⟩ : Field)
  if selector.commented then
    (selector.occurrences.pick
      (record.commentedFields.filter (·.name == selector.name))).map fun field =>
        .commentOut (named field.value)
  else
    (selector.occurrences.pick (record.values selector.name)).map fun value => .field (named value)

/-- The first value that a selector picks. -/
def value? (selector : Selector) (record : Record) : Option String :=
  (selector.occurrences.pick (record.values selector.name)).head?

end Selector

namespace FieldSelection

/-- The names of the selectors, each once. -/
def names (selection : FieldSelection) : List String :=
  (selection.selectors.map Selector.name).eraseDups

/-- The picked fields of a record, selector by selector. -/
def project (selection : FieldSelection) (record : Record) : Record :=
  { record with items := selection.selectors.flatMap (·.project record) }

/-- The first value of every selector, by which records are sorted and grouped. -/
def key (selection : FieldSelection) (record : Record) : List (Option String) :=
  selection.selectors.map (·.value? record)

end FieldSelection

end TextRecords
