import Mathlib.Data.List.Basic
import TextRecords.RecordSet.Basic

/-!
# The records of a changed set

Inserting, replacing and retiring a record change the list of records at one position and nothing
else: comments stay where they are, and so does the descriptor. The records afterwards are given as
those before the position, what stands there now, and those after it; a replacement also leaves
every comment at its place among the entries (`Entry.map_comment?_substitute`).
-/

namespace TextRecords

/-- The record at a position divides the entries into those before it and those behind it, between
which stands what is put in its place. -/
theorem Entry.exists_around {position : Nat} {entries : List Entry} {old : Record}
    (h : (entries.filterMap Entry.record?)[position]? = some old) :
    ∃ before behind, entries = before ++ .record old :: behind ∧
      (before.filterMap Entry.record?).length = position ∧
      ∀ replacement, Entry.substitute replacement position entries =
        before ++ replacement old ++ behind := by
  -- Comments do not count, so the position goes down at records alone.
  induction entries generalizing position with
  | nil => exact absurd h nofun
  | cons entry rest ih =>
    cases entry with
    | comment text =>
      obtain ⟨before, behind, rfl, hlength, hsubstitute⟩ := ih h
      refine ⟨.comment text :: before, behind, rfl, hlength, fun replacement => ?_⟩
      rw [List.cons_append, Entry.substitute, hsubstitute]
      rfl
    | record record =>
      cases position with
      | zero =>
        obtain rfl : record = old := Option.some.inj h
        exact ⟨[], rest, rfl, rfl, fun _ => rfl⟩
      | succ position =>
        have hrest : (rest.filterMap Entry.record?)[position]? = some old := h
        obtain ⟨before, behind, rfl, hlength, hsubstitute⟩ := ih hrest
        refine ⟨.record record :: before, behind, rfl, congrArg Nat.succ hlength,
          fun replacement => ?_⟩
        rw [List.cons_append, Entry.substitute, hsubstitute]
        rfl

/-- Entries in place of a record, seen through the records. -/
theorem Entry.filterMap_record?_substitute (replacement : Record → List Entry) {position : Nat}
    {entries : List Entry} {old : Record}
    (h : (entries.filterMap Entry.record?)[position]? = some old) :
    (Entry.substitute replacement position entries).filterMap Entry.record? =
      (entries.filterMap Entry.record?).take position ++
        ((replacement old).filterMap Entry.record? ++
          (entries.filterMap Entry.record?).drop (position + 1)) := by
  obtain ⟨before, behind, rfl, rfl, hsubstitute⟩ := Entry.exists_around h
  have hrecords : (before ++ .record old :: behind).filterMap Entry.record? =
      before.filterMap Entry.record? ++ old :: behind.filterMap Entry.record? :=
    List.filterMap_append
  rw [hsubstitute, hrecords, List.filterMap_append, List.filterMap_append, List.append_assoc,
    List.take_left, List.drop_length_add_append, List.drop_one, List.tail_cons]

/-- A record in place of a record leaves the comments where they are. -/
theorem Entry.map_comment?_substitute (new : Record) (position : Nat) (entries : List Entry) :
    (Entry.substitute (fun _ => [.record new]) position entries).map Entry.comment? =
      entries.map Entry.comment? := by
  induction entries generalizing position with
  | nil => rfl
  | cons entry rest ih =>
    cases entry with
    | comment text => exact congrArg (some text :: ·) (ih position)
    | record record =>
      cases position with
      | zero => rfl
      | succ position =>
        unfold Entry.substitute
        exact congrArg (none :: ·) (ih position)

/-- Nothing in place of a record leaves the comments as they are. -/
theorem Entry.filterMap_comment?_substitute_nil (position : Nat) (entries : List Entry) :
    (Entry.substitute (fun _ => []) position entries).filterMap Entry.comment? =
      entries.filterMap Entry.comment? := by
  induction entries generalizing position with
  | nil => rfl
  | cons entry rest ih =>
    cases entry with
    | comment text => exact congrArg (text :: ·) (ih position)
    | record record =>
      cases position with
      | zero => rfl
      | succ position => exact ih position

/-- An entry after a substitution is one from before, or stands for a record from before. -/
theorem Entry.mem_substitute {replacement : Record → List Entry} {position : Nat}
    {entries : List Entry} {entry : Entry} (h : entry ∈ substitute replacement position entries) :
    entry ∈ entries ∨ ∃ record, .record record ∈ entries ∧ entry ∈ replacement record := by
  induction entries generalizing position with
  | nil => exact .inl h
  | cons first rest ih =>
    have hrest : ∀ position, entry ∈ substitute replacement position rest →
        entry ∈ first :: rest ∨
          ∃ record, .record record ∈ first :: rest ∧ entry ∈ replacement record := by
      intro position hmem
      exact (ih hmem).imp (List.mem_cons_of_mem _) fun ⟨old, hold, hentry⟩ =>
        ⟨old, List.mem_cons_of_mem _ hold, hentry⟩
    cases first with
    | comment text =>
      rcases List.mem_cons.1 h with rfl | hmem
      · exact .inl List.mem_cons_self
      · exact hrest position hmem
    | record record =>
      cases position with
      | zero =>
        rcases List.mem_append.1 h with hmem | hmem
        · exact .inr ⟨record, List.mem_cons_self, hmem⟩
        · exact .inl (List.mem_cons_of_mem _ hmem)
      | succ position =>
        rcases List.mem_cons.1 h with rfl | hmem
        · exact .inl List.mem_cons_self
        · exact hrest position hmem

/-- Entries with nothing in place of a record are a part of the entries in their order. -/
theorem Entry.substitute_nil_sublist (position : Nat) (entries : List Entry) :
    (Entry.substitute (fun _ => []) position entries).Sublist entries := by
  induction entries generalizing position with
  | nil => exact List.Sublist.refl _
  | cons entry rest ih =>
    cases entry with
    | comment text => exact (ih position).cons_cons _
    | record record =>
      cases position with
      | zero => exact List.sublist_cons_self _ _
      | succ position => exact (ih position).cons_cons _

namespace RecordSet

variable (set : RecordSet)

/-- The position that a record gets when it is inserted before another, or at the end. -/
def insertionPoint (position : Option Nat) : Nat :=
  min (position.getD set.size) set.size

variable {set}

/-- A record of a set is one of its entries. -/
theorem mem_records_iff {record : Record} :
    record ∈ set.records ↔ .record record ∈ set.entries := by
  rw [records, List.mem_filterMap]
  refine ⟨fun ⟨entry, hentry, hrecord⟩ => ?_, fun h => ⟨_, h, rfl⟩⟩
  cases entry with
  | record other =>
    obtain rfl : other = record := Option.some.inj hrecord
    exact hentry
  | comment text => exact absurd hrecord nofun

/-- A comment of a set is one of its entries. -/
theorem mem_comments_iff {text : String} :
    text ∈ set.comments ↔ .comment text ∈ set.entries := by
  rw [comments, List.mem_filterMap]
  refine ⟨fun ⟨entry, hentry, htext⟩ => ?_, fun h => ⟨_, h, rfl⟩⟩
  cases entry with
  | record record => exact absurd htext nofun
  | comment other =>
    obtain rfl : other = text := Option.some.inj htext
    exact hentry

/-- A record is inserted among the records or behind them. -/
theorem insertionPoint_le (position : Option Nat) :
    set.insertionPoint position ≤ set.records.length :=
  Nat.min_le_right _ _

/-- The records around a position. -/
theorem records_eq_of_record? {position : Nat} {old : Record}
    (h : set.record? position = some old) :
    set.records = set.records.take position ++ old :: set.records.drop (position + 1) := by
  obtain ⟨hlt, hget⟩ := List.getElem?_eq_some_iff.1 h
  rw [← hget, List.getElem_cons_drop, List.take_append_drop]

/-- The records of a set as one of them and the others. -/
theorem records_perm_of_record? {position : Nat} {old : Record}
    (h : set.record? position = some old) :
    set.records.Perm (old :: (set.records.take position ++ set.records.drop (position + 1))) := by
  have hperm : (set.records.take position ++ old :: set.records.drop (position + 1)).Perm
      (old :: (set.records.take position ++ set.records.drop (position + 1))) := List.perm_middle
  rwa [← records_eq_of_record? h] at hperm

/-- The records after an insertion. -/
theorem records_insertBefore (position : Option Nat) (record : Record) :
    (set.insertBefore position record).records =
      set.records.take (set.insertionPoint position) ++
        record :: set.records.drop (set.insertionPoint position) := by
  -- At the end nothing stands behind the record.
  have hpush : (set.push (.record record)).records =
      set.records.take set.size ++ record :: set.records.drop set.size := by
    rw [size, List.take_length, List.drop_length, records, push, List.filterMap_append]
    rfl
  cases position with
  | none => rw [insertionPoint, Option.getD_none, Nat.min_self, insertBefore, hpush]
  | some position =>
    rw [insertionPoint, Option.getD_some, insertBefore, insertAt]
    split
    · next hlt =>
      have hget : set.records[position]? = some set.records[position] :=
        List.getElem?_eq_getElem hlt
      have hnext : set.records.drop position =
          set.records[position] :: set.records.drop (position + 1) :=
        (List.getElem_cons_drop hlt).symm
      rw [Nat.min_eq_left (Nat.le_of_lt hlt), hnext]
      exact Entry.filterMap_record?_substitute _ hget
    · next hge => rw [Nat.min_eq_right (Nat.le_of_not_lt hge), hpush]

/-- The records after a replacement. -/
theorem records_replaceAt {position : Nat} {old : Record} (h : set.record? position = some old)
    (new : Record) :
    (set.replaceAt position (.record new)).records =
      set.records.take position ++ new :: set.records.drop (position + 1) :=
  Entry.filterMap_record?_substitute _ h

/-- The record at a position after a replacement. -/
theorem record?_replaceAt {position : Nat} {old : Record} (h : set.record? position = some old)
    (new : Record) (place : Nat) :
    (set.replaceAt position (.record new)).record? place =
      if place = position then some new else set.record? place := by
  have hlt : position < set.records.length := (List.getElem?_eq_some_iff.1 h).1
  have hrecords :
      (set.replaceAt position (.record new)).records = set.records.set position new := by
    rw [records_replaceAt h, List.set_eq_take_append_cons_drop, if_pos hlt]
  rw [record?, hrecords, List.getElem?_set, if_pos hlt, record?]
  simp only [eq_comm]

/-- The records after one is retired. -/
theorem records_retireAt {position : Nat} {old : Record} (h : set.record? position = some old)
    (commentsOut : Bool) :
    (set.retireAt commentsOut position).records =
      set.records.take position ++ set.records.drop (position + 1) := by
  unfold retireAt
  split
  · exact Entry.filterMap_record?_substitute _ h
  · exact Entry.filterMap_record?_substitute _ h

/-- Retiring a record leaves one record less. -/
theorem size_retireAt {position : Nat} (h : position < set.size) (commentsOut : Bool) :
    (set.retireAt commentsOut position).size + 1 = set.size := by
  have hrecord : set.record? position = some set.records[position] := List.getElem?_eq_getElem h
  rw [size] at h
  rw [size, records_retireAt hrecord, List.length_append, List.length_take, List.length_drop, size]
  omega

/-- An insertion keeps the descriptor. -/
@[simp]
theorem descriptor_insertBefore (position : Option Nat) (record : Record) :
    (set.insertBefore position record).descriptor = set.descriptor := by
  cases position with
  | none => rfl
  | some position =>
    rw [insertBefore, insertAt]
    split <;> rfl

/-- Retiring a record keeps the descriptor. -/
@[simp]
theorem descriptor_retireAt (commentsOut : Bool) (position : Nat) :
    (set.retireAt commentsOut position).descriptor = set.descriptor := by
  unfold retireAt
  split <;> rfl

/-- Sets with one descriptor have one schema. -/
theorem schema_congr {other : RecordSet} (h : other.descriptor = set.descriptor) :
    other.schema = set.schema := by
  rw [schema, h, schema]

/-- An insertion keeps the schema. -/
@[simp]
theorem schema_insertBefore (position : Option Nat) (record : Record) :
    (set.insertBefore position record).schema = set.schema :=
  schema_congr (descriptor_insertBefore position record)

/-- A replacement keeps the schema. -/
@[simp]
theorem schema_replaceAt (position : Nat) (entry : Entry) :
    (set.replaceAt position entry).schema = set.schema := rfl

/-- Retiring a record keeps the schema. -/
@[simp]
theorem schema_retireAt (commentsOut : Bool) (position : Nat) :
    (set.retireAt commentsOut position).schema = set.schema :=
  schema_congr (descriptor_retireAt commentsOut position)

end RecordSet

end TextRecords
