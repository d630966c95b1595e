import TextRecords.Database.Target
import TextRecords.FieldSelection.Action

/-!
# Changes of fields

An action is applied to the selected fields of every record that a filter selects. A record whose
changed form is rejected stays as it is.
-/

namespace TextRecords

/-- Fields to change. -/
structure FieldChange where
  filter : Filter := {}
  fields : FieldSelection
  action : SetAction

namespace FieldChange

/-- A batch with the fields of the record at a position changed. -/
def changeOne (change : FieldChange) (batch : Batch) (position : Nat) : Batch :=
  match batch.set.record? position with
  | none => batch
  | some record => (batch.replace position (change.fields.apply change.action record)).1

/-- The change of a set. -/
def ofSet (change : FieldChange) (sampler : Sampler) (set : RecordSet) :
    Except Fault Report × RecordSet :=
  let batch := (change.filter.targets sampler set).foldl change.changeOne (Batch.start set)
  (.ok batch.finish, batch.set)

end FieldChange

/-- Changing fields. -/
def Database.setFields (db : Database) (sampler : Sampler) (change : FieldChange) :
    Outcome Report :=
  match change.action.validated with
  | .error fault => ⟨.error (.argument fault), db⟩
  | .ok _ => db.updateTarget change.filter (change.ofSet sampler)

end TextRecords
