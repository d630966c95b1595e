import Mathlib.Data.List.Perm.Basic
import TextRecords.Proofs.Batch.Step
import TextRecords.Proofs.Schema.Admission

/-!
# The keys of a batch

The table of keys starts with every value of the key field and then follows the first values alone.
So it always holds the first keys of the records and, on top of them, the further values that were
there at the start: this surplus never changes (`Step.tracks`). In a set whose records have one key
each there is no surplus, and the table is exact; in any set it covers the keys of the records.

`collisions_rejected` draws the consequence for a set that may be inconsistent from the start: a
record that is let in, or put in the place of another, shares its key with no other record.
-/

namespace TextRecords

namespace RecordSet

/-- The keys of the records of a set. -/
def heldKeys (set : RecordSet) : List String :=
  set.schema.keysOf set.records

/-- The values of the key field behind the first one of each record. -/
def surplusKeys (set : RecordSet) : List String :=
  match set.schema.key with
  | some key => set.records.flatMap fun record => (record.values key).tail
  | none => []

/-- The record at a position is the only one of the set with its first value of a field. -/
def IsSole (set : RecordSet) (key : String) (position : Nat) (record : Record) : Prop :=
  set.record? position = some record ∧
    ∀ place ≠ position, ∀ held ∈ set.record? place, held.first? key ≠ record.first? key

/-- A record among others that have another first value of a field is the only one with its own. -/
theorem isSole_of_records {set : RecordSet} {before after : List Record} {record : Record}
    (hrecords : set.records = before ++ record :: after) {key : String}
    (h : ∀ held ∈ before ++ after, held.first? key ≠ record.first? key) :
    set.IsSole key before.length record := by
  constructor
  · rw [record?, hrecords, List.getElem?_append_right (Nat.le_refl _), Nat.sub_self]
    rfl
  · intro place hplace held hheld
    rw [record?, hrecords] at hheld
    rcases Nat.lt_or_gt_of_ne hplace with hlt | hgt
    · rw [List.getElem?_append_left hlt] at hheld
      exact h held (List.mem_append_left _ (List.mem_of_getElem? hheld))
    · -- Behind the record, positions count it as well.
      obtain ⟨gap, rfl⟩ := Nat.exists_eq_add_of_lt hgt
      have hskip : before.length + gap + 1 - before.length = gap + 1 := by omega
      rw [List.getElem?_append_right (Nat.le_of_lt hgt), hskip, List.getElem?_cons_succ] at hheld
      exact h held (List.mem_append_right _ (List.mem_of_getElem? hheld))

end RecordSet

namespace Batch

/-- The table of a batch holds the keys of the records and a surplus. -/
def Tracks (surplus : List String) (batch : Batch) : Prop :=
  batch.keys.Perm (surplus ++ batch.set.heldKeys)

/-- The table of a new batch has the further values of the key field as its surplus. -/
theorem tracks_start (set : RecordSet) : (start set).Tracks set.surplusKeys := by
  cases hkey : set.schema.key with
  | none =>
    have hheld : set.heldKeys = [] := Schema.keysOf_of_key_eq_none hkey
    simp only [Tracks, start, RecordSet.surplusKeys, hkey, hheld, List.append_nil]
    exact List.Perm.refl _
  | some key =>
    -- The values of a record are its key and its part of the surplus.
    have hvalues : ∀ record ∈ set.records,
        record.values key = (record.first? key).toList ++ (record.values key).tail := by
      intro record _
      unfold Record.first? Record.value?
      cases record.values key with
      | nil => rfl
      | cons value rest => rfl
    have hheld : set.heldKeys = set.records.flatMap fun record => (record.first? key).toList := by
      rw [RecordSet.heldKeys, Schema.keysOf, List.filterMap_eq_flatMap_toList]
      exact List.flatMap_congr fun record _ => by rw [Schema.keyOf?_eq hkey]
    simp only [Tracks, start, RecordSet.surplusKeys, hkey, hheld]
    rw [List.flatMap_congr hvalues]
    exact (List.flatMap_append_perm set.records _ _).symm.trans List.perm_append_comm

section Step

variable {surplus keys : List String} {batch : Batch} {before after : List Record}

/-- The table holds the keys of the records on both sides of a position. -/
theorem Tracks.keysAround (h : batch.Tracks surplus) (position : Nat) :
    batch.keys.Perm (surplus ++ batch.set.schema.keysOf
      (batch.set.records.take position ++ batch.set.records.drop position)) := by
  rw [List.take_append_drop]
  exact h

/-- The table without the key of a record that goes holds the keys of the others. -/
theorem Tracks.keysWithout (h : batch.Tracks surplus) {old : Record}
    (hrecords : batch.set.records = before ++ old :: after) :
    (batch.keysWithout old).Perm (surplus ++ batch.set.schema.keysOf (before ++ after)) := by
  have hold : batch.key? old = batch.set.schema.keyOf? old := rfl
  -- The key of the record is in the table, so erasing it takes one copy and touches no other key.
  have hall : batch.keys.Perm ((batch.set.schema.keyOf? old).toList ++
      (surplus ++ batch.set.schema.keysOf (before ++ after))) := by
    rw [Tracks, RecordSet.heldKeys, hrecords] at h
    have hfront := h.trans ((Schema.keysOf_middle_perm old).append_left surplus)
    exact hfront.trans (List.perm_append_comm_assoc _ _ _)
  rw [Batch.keysWithout, hold]
  cases hkey : batch.set.schema.keyOf? old with
  | none => rwa [hkey] at hall
  | some key =>
    rw [hkey] at hall
    have herased := hall.erase key
    rwa [Option.toList_some, List.singleton_append, List.erase_cons_head] at herased

/-- A table with the key of a record that comes holds its key and those of the others. -/
theorem perm_keysWith
    (h : keys.Perm (surplus ++ batch.set.schema.keysOf (before ++ after))) {set : RecordSet}
    {new : Record} (hschema : set.schema = batch.set.schema)
    (hrecords : set.records = before ++ new :: after) :
    (batch.keysWith keys new).Perm (surplus ++ set.heldKeys) := by
  have hnew : batch.key? new = batch.set.schema.keyOf? new := rfl
  rw [keysWith, hnew, RecordSet.heldKeys, hschema, hrecords]
  have hfront := (h.append_left (batch.set.schema.keyOf? new).toList).trans
    (List.perm_append_comm_assoc _ surplus _)
  exact hfront.trans ((Schema.keysOf_middle_perm new).symm.append_left surplus)

/-- A step keeps the surplus of the table. -/
theorem Step.tracks {next : Batch} (hstep : Step batch next) (h : batch.Tracks surplus) :
    next.Tracks surplus := by
  cases hstep with
  | keep hset hkeys => rwa [Tracks, hset, hkeys]
  | @insert position record _ =>
    exact perm_keysWith (h.keysAround (batch.set.insertionPoint position))
      (RecordSet.schema_insertBefore position record)
      (RecordSet.records_insertBefore position record)
  | @replace position old new hold _ =>
    exact perm_keysWith (h.keysWithout (RecordSet.records_eq_of_record? hold)) rfl
      (RecordSet.records_replaceAt hold new)
  | @retire position old commentsOut hold _ =>
    have hschema : (batch.set.retireAt commentsOut position).schema = batch.set.schema :=
      RecordSet.schema_retireAt commentsOut position
    have hkeys := h.keysWithout (RecordSet.records_eq_of_record? hold)
    rw [← RecordSet.records_retireAt hold commentsOut, ← hschema] at hkeys
    exact hkeys

end Step

/-- Staged changes keep the surplus of the table. -/
theorem tracks_stageAll (set : RecordSet) (changes : List Change) :
    ((start set).stageAll changes).Tracks set.surplusKeys :=
  (reaches_stageAll (start set) changes).preserves (fun hstep => hstep.tracks) (tracks_start set)

/-- The table of keys covers the keys of the records. -/
theorem Tracks.covers {surplus : List String} {batch : Batch} (h : batch.Tracks surplus)
    {key : String} (hkey : batch.set.schema.key = some key) (value : String) :
    batch.set.records.countP (fun record => record.first? key = some value) ≤
      batch.keys.count value := by
  have hheld : batch.set.heldKeys.count value =
      batch.set.records.countP (fun record => record.first? key = some value) := by
    rw [RecordSet.heldKeys, Schema.keysOf, List.count, List.countP_filterMap]
    refine List.countP_congr fun record _ => ?_
    rw [Schema.keyOf?_eq hkey]
    cases record.first? key <;> simp
  -- What the table has beyond the keys of the records is the surplus.
  rw [List.Perm.count_eq h, List.count_append, hheld]
  exact Nat.le_add_left _ _

/-- A record that comes among others whose table does not have its key is alone with it. -/
theorem isSole_of_notMem {surplus keys : List String} {schema : Schema}
    {before after : List Record} (hkeys : keys.Perm (surplus ++ schema.keysOf (before ++ after)))
    {key value : String} (hkey : schema.key = some key) {record : Record}
    (hvalue : record.first? key = some value) (hfree : value ∉ keys) {set : RecordSet}
    (hrecords : set.records = before ++ record :: after) :
    set.IsSole key before.length record := by
  refine RecordSet.isSole_of_records hrecords fun held hmem hsame => ?_
  have hholds : schema.keyOf? held = some value := by
    rw [Schema.keyOf?_eq hkey, hsame, hvalue]
  have hheld : value ∈ schema.keysOf (before ++ after) :=
    List.mem_filterMap.2 ⟨held, hmem, hholds⟩
  exact hfree (hkeys.mem_iff.2 (List.mem_append_right _ hheld))

/-- A record with a key that is inserted is the only one with it. -/
theorem Tracks.isSole_insert {surplus : List String} {batch : Batch} (h : batch.Tracks surplus)
    {key value : String} (hkey : batch.set.schema.key = some key) {position : Option Nat}
    {record : Record} (hvalue : record.first? key = some value)
    (haccepted : (batch.insert position record).1 = .ok ()) :
    (batch.insert position record).2.set.IsSole key (batch.set.insertionPoint position)
      record := by
  obtain ⟨hobjection, hafter⟩ := insert_of_ok haccepted
  obtain ⟨-, hfree, -⟩ := insertionObjection?_eq_none_iff.1 hobjection
  have hheld : value ∈ batch.key? record := (Schema.keyOf?_eq hkey record).trans hvalue
  have hsole := isSole_of_notMem (h.keysAround (batch.set.insertionPoint position)) hkey hvalue
    (hfree value hheld) (RecordSet.records_insertBefore position record)
  rw [List.length_take, Nat.min_eq_left (RecordSet.insertionPoint_le position)] at hsole
  rw [hafter]
  exact hsole

/-- A record with a key that is put in the place of another is the only one with it. -/
theorem Tracks.isSole_replace {surplus : List String} {batch : Batch} (h : batch.Tracks surplus)
    {key value : String} (hkey : batch.set.schema.key = some key) {position : Nat}
    {record : Record} (hvalue : record.first? key = some value)
    (haccepted : (batch.replace position record).2 = true) :
    (batch.replace position record).1.set.IsSole key position record := by
  obtain ⟨old, hold, hobjection, hafter⟩ := replace_of_true haccepted
  -- The check looks at the table without the old key, so the record may keep the key it had.
  obtain ⟨-, hfree⟩ := replacementObjection?_eq_none_iff.1 hobjection
  have hheld : value ∈ batch.key? record := (Schema.keyOf?_eq hkey record).trans hvalue
  have hsole := isSole_of_notMem (h.keysWithout (RecordSet.records_eq_of_record? hold)) hkey hvalue
    (hfree value hheld) (RecordSet.records_replaceAt hold record)
  have hlt : position < batch.set.records.length := (List.getElem?_eq_some_iff.1 hold).1
  rw [List.length_take, Nat.min_eq_left (Nat.le_of_lt hlt)] at hsole
  rw [hafter]
  exact hsole

/-- In any state that is reached on a set with a key field, even an inconsistent one, the table
covers the keys of the records, and a record with a key that is inserted or put in the place of
another shares its key with no other record. -/
theorem collisions_rejected (set : RecordSet) {key : String} (hkey : set.schema.key = some key)
    (changes : List Change) :
    let batch := (start set).stageAll changes
    (∀ value, batch.set.records.countP (fun record => record.first? key = some value) ≤
      batch.keys.count value) ∧
    (∀ position record, (record.first? key).isSome → (batch.insert position record).1 = .ok () →
      (batch.insert position record).2.set.IsSole key (batch.set.insertionPoint position)
        record) ∧
    (∀ position record, (record.first? key).isSome → (batch.replace position record).2 = true →
      (batch.replace position record).1.set.IsSole key position record) := by
  intro batch
  have htracks : batch.Tracks set.surplusKeys := tracks_stageAll set changes
  have hbatch : batch.set.schema.key = some key := by
    rw [(reaches_stageAll (start set) changes).schema_eq, ← hkey]
    rfl
  refine ⟨htracks.covers hbatch, fun position record hsome haccepted => ?_,
    fun position record hsome haccepted => ?_⟩
  · obtain ⟨value, hvalue⟩ := Option.isSome_iff_exists.1 hsome
    exact htracks.isSole_insert hbatch hvalue haccepted
  · obtain ⟨value, hvalue⟩ := Option.isSome_iff_exists.1 hsome
    exact htracks.isSole_replace hbatch hvalue haccepted

/-- Four books of which two share a key, one has two and one has none. -/
def clashingSpecimen : RecordSet where
  descriptor := some ⟨[.field ⟨"%rec", "Book"⟩, .field ⟨"%key", "Id"⟩], none⟩
  entries :=
    [.record ⟨[.field ⟨"Id", "1"⟩], none⟩,
      .comment "two books with one key",
      .record ⟨[.field ⟨"Id", "1"⟩], none⟩,
      .record ⟨[.field ⟨"Id", "2"⟩, .field ⟨"Id", "3"⟩], none⟩,
      .record ⟨[.field ⟨"Title", "Emma"⟩], none⟩]

/-- Among the clashing books one is commented out, one is refused, and a new key is let in. -/
theorem collisions_rejected_clashingSpecimen :
    let batch := (start clashingSpecimen).stageAll
      [.remove [0] true, .insert none ⟨[.field ⟨"Id", "3"⟩], none⟩]
    let record : Record := ⟨[.field ⟨"Id", "4"⟩], none⟩
    clashingSpecimen.schema.key = some "Id" ∧ batch.keys = ["1", "2", "3"] ∧
      (batch.insert (some 1) record).2.set.IsSole "Id" (batch.set.insertionPoint (some 1)) record ∧
      (batch.replace 2 record).1.set.IsSole "Id" 2 record := by
  intro batch record
  have hkey : clashingSpecimen.schema.key = some "Id" := by decide
  obtain ⟨-, hinsert, hreplace⟩ := collisions_rejected clashingSpecimen hkey
    [.remove [0] true, .insert none ⟨[.field ⟨"Id", "3"⟩], none⟩]
  exact ⟨hkey, by decide +kernel, hinsert (some 1) record (by decide) (by decide +kernel),
    hreplace 2 record (by decide) (by decide +kernel)⟩

end Batch

end TextRecords
