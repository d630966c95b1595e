import TextRecords.Batch
import TextRecords.Database.Basic
import TextRecords.Filter

/-!
# The set that a change is about

A change to a database is a change to one of its sets, the one that its filter resolves to. Without
a set there is nothing to change, and the report is empty.
-/

namespace TextRecords

/-- A change to the set that a filter resolves to. -/
def Database.updateTarget (db : Database) (filter : Filter)
    (update : RecordSet → Except Fault Report × RecordSet) : Outcome Report :=
  match db.resolve filter.type with
  | .error fault => ⟨.error fault, db⟩
  | .ok none => ⟨.ok {}, db⟩
  | .ok (some position) =>
    match db.set? position with
    | none => ⟨.ok {}, db⟩
    | some set =>
      let (result, set) := update set
      ⟨result, db.replaceSet position set⟩

end TextRecords
