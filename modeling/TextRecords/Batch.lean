import TextRecords.Fault
import TextRecords.RecordSet.Basic

/-!
# Batches of changes

A batch changes the records of one set, one after another. Every change is checked against the set
as it stands, and one that would break a rule of the set is rejected: an insertion by an objection,
the other changes by an entry in the report of the batch. Changes that were made before stay.

A batch keeps the key values in use, so that no change brings in a key that another record holds.
-/

namespace TextRecords

/-- A rejected change. -/
structure Failure where
  /-- The position of the record. -/
  position : Nat
  objection : Objection
deriving DecidableEq, Repr

/-- How many records a batch changed, and the changes it rejected. -/
structure Report where
  changed : Nat := 0
  failures : List Failure := []
deriving DecidableEq, Repr

/-- Whether no change was rejected. -/
def Report.isComplete (report : Report) : Bool :=
  report.failures.isEmpty

/-- A record set under change. -/
structure Batch where
  set : RecordSet
  /-- The key values in use, each as often as it is held. -/
  keys : List String
  report : Report := {}
deriving DecidableEq, Repr

namespace Batch

/-- A batch on a set, before any change. -/
def start (set : RecordSet) : Batch where
  set
  keys := match set.schema.key with
    | some key => set.records.flatMap (·.values key)
    | none => []

/-- The key of a record, if the set has keys and the record one. -/
def key? (batch : Batch) (record : Record) : Option String :=
  batch.set.schema.key.bind record.first?

/-- The key values without those of a record that goes. -/
def keysWithout (batch : Batch) (record : Record) : List String :=
  match batch.key? record with
  | some key => batch.keys.erase key
  | none => batch.keys

/-- Key values with that of a record that comes. -/
def keysWith (batch : Batch) (keys : List String) (record : Record) : List String :=
  (batch.key? record).toList ++ keys

/-- A batch with its set changed by one record. -/
def commit (batch : Batch) (set : RecordSet) (keys : List String) : Batch :=
  { set, keys, report := { batch.report with changed := batch.report.changed + 1 } }

/-- A batch with a change rejected. -/
def reject (batch : Batch) (position : Nat) (objection : Objection) : Batch :=
  { batch with
    report := { batch.report with failures := batch.report.failures ++ [⟨position, objection⟩] } }

/-- What speaks against an insertion: a rule that the record breaks, a key that is in use, or the
greatest number of records. -/
def insertionObjection? (batch : Batch) (record : Record) : Option Objection :=
  let schema := batch.set.schema
  match schema.violations record with
  | violation :: _ => some (.violation violation)
  | [] =>
    match (batch.key? record).filter batch.keys.contains with
    | some key => some (.duplicateKey key)
    | none =>
      match schema.size.bind SizeRule.greatest? with
      | some greatest =>
        if greatest < batch.set.size + 1 then some (.tooManyRecords greatest) else none
      | none => none

/-- The insertion of a record before a position, or at the end without one, and the batch
afterwards. -/
def insert (batch : Batch) (position : Option Nat) (record : Record) :
    Except Objection Unit × Batch :=
  match batch.insertionObjection? record with
  | some objection => (.error objection, batch)
  | none =>
    (.ok (), batch.commit (batch.set.insertBefore position record)
      (batch.keysWith batch.keys record))

/-- What speaks against a replacement: a rule that the new record breaks and the old one does not,
or a key that another record holds. -/
def replacementObjection? (batch : Batch) (old new : Record) : Option Objection :=
  let schema := batch.set.schema
  let before := (schema.violations old).map Violation.message
  match (schema.violations new).find? (!before.contains ·.message) with
  | some violation => some (.violation violation)
  | none =>
    ((batch.key? new).filter (batch.keysWithout old).contains).map .duplicateKey

/-- A batch with the record at a position replaced, and whether it was. -/
def replace (batch : Batch) (position : Nat) (record : Record) : Batch × Bool :=
  match batch.set.record? position with
  | none => (batch, false)
  | some old =>
    if old.unplaced = record.unplaced then (batch, false)
    else
      match batch.replacementObjection? old record with
      | some objection => (batch.reject position objection, false)
      | none =>
        (batch.commit (batch.set.replaceAt position (.record record))
          (batch.keysWith (batch.keysWithout old) record), true)

/-- The least number of records that the set may have. -/
def least (batch : Batch) : Nat :=
  (batch.set.schema.size.bind SizeRule.least?).getD 0

/-- A batch with the record at a position removed, or turned into a comment. -/
def removeOne (commentsOut : Bool) (batch : Batch) (position : Nat) : Batch :=
  match batch.set.record? position with
  | none => batch
  | some record =>
    if batch.set.size ≤ batch.least then batch.reject position (.tooFewRecords batch.least)
    else batch.commit (batch.set.retireAt commentsOut position) (batch.keysWithout record)

/-- Positions from the highest to the lowest, each once. -/
def descending (positions : List Nat) : List Nat :=
  positions.eraseDups.mergeSort fun a b => b ≤ a

/-- A batch with the records at some positions removed, or turned into comments. The last record
goes first, so that the positions of the others stay valid. -/
def remove (batch : Batch) (positions : List Nat) (commentsOut : Bool) : Batch :=
  (descending positions).foldl (removeOne commentsOut) batch

/-- The report of a batch, with the rejected changes in the order of their positions. -/
def finish (batch : Batch) : Report :=
  { batch.report with
    failures := batch.report.failures.mergeSort fun a b => a.position ≤ b.position }

end Batch

end TextRecords
