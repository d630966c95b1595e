import TextRecords.Database.Target

/-!
# Deletion of records

The records that a filter selects are removed, or turned into comments that hold their text. When an
untyped set is left without records, its comments go to the prologue, where they would be read from
the written database.
-/

namespace TextRecords

/-- Records to delete. -/
structure Deletion where
  filter : Filter := {}
  /-- Whether the records are turned into comments. -/
  commentsOut : Bool := false

/-- The deletion from a set. -/
def Deletion.fromSet (deletion : Deletion) (sampler : Sampler) (set : RecordSet) :
    Except Fault Report × RecordSet :=
  let batch := (Batch.start set).remove (deletion.filter.targets sampler set) deletion.commentsOut
  (.ok batch.finish, batch.set)

namespace Database

/-- A database with the comments of a first set that has neither descriptor nor records moved to the
prologue. -/
def foldUntyped (db : Database) : Database :=
  match db.sets with
  | [] => db
  | set :: rest =>
    if set.descriptor.isNone && set.records.isEmpty then
      { prologue := db.prologue ++ set.comments, sets := rest }
    else db

/-- Deleting records. -/
def delete (db : Database) (sampler : Sampler) (deletion : Deletion) : Outcome Report :=
  let outcome := db.updateTarget deletion.filter (deletion.fromSet sampler)
  match outcome.result with
  | .ok _ => { outcome with database := outcome.database.foldUntyped }
  | .error _ => outcome

end Database

end TextRecords
