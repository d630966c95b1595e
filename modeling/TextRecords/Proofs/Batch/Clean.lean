import TextRecords.Proofs.Batch.Keys
import TextRecords.Proofs.RecordSet.Findings

/-!
# Batches on clean sets

On a set without findings the table of a batch holds the keys of the records and nothing else
(`Batch.isClean_start`), and every step keeps it so (`Batch.Step.isClean`). In such a batch the
checks of single changes are exact: nothing speaks against a change exactly when the set that it
comes to has no findings. `Batch.stage_of_produces` states this for staged changes.
-/

namespace TextRecords.Batch

/-- The set has no findings, and the table holds the keys of its records. -/
structure IsClean (batch : Batch) : Prop where
  admits : batch.set.schema.Admits batch.set.records
  tracks : batch.Tracks []

/-- A batch on a set without findings is clean. -/
theorem isClean_start {set : RecordSet} (h : set.schema.Admits set.records) :
    (start set).IsClean where
  admits := h
  tracks := by
    -- A record that breaks no rule has its key field once, and nothing behind the first value.
    have hsurplus : set.surplusKeys = [] := by
      unfold RecordSet.surplusKeys
      split
      · next key hkey =>
        refine List.flatMap_eq_nil_iff.2 fun record hmem => ?_
        have hlength := Schema.length_values_of_violations_eq_nil hkey (h.violations record hmem)
        rw [← List.length_eq_zero_iff, List.length_tail, hlength]
      · rfl
    rw [← hsurplus]
    exact tracks_start set

variable {batch : Batch}

/-- Nothing speaks against an insertion into a clean set exactly when the set stays clean. -/
theorem IsClean.insertionObjection?_eq_none_iff (h : batch.IsClean) (position : Option Nat)
    (record : Record) :
    batch.insertionObjection? record = none ↔
      (batch.set.insertBefore position record).recordFindings = [] := by
  have hkeys : ∀ key, key ∈ batch.keys ↔ key ∈ batch.set.schema.keysOf batch.set.records :=
    fun key => h.tracks.mem_iff
  rw [RecordSet.recordFindings_eq_nil_iff, RecordSet.schema_insertBefore,
    RecordSet.records_insertBefore, Schema.admits_perm_iff List.perm_middle, List.take_append_drop,
    Schema.admits_cons_iff h.admits, Batch.insertionObjection?_eq_none_iff]
  simp only [hkeys]
  rfl

/-- Nothing speaks against a replacement in a clean set exactly when the set stays clean. -/
theorem IsClean.replacementObjection?_eq_none_iff (h : batch.IsClean) {position : Nat}
    {old : Record} (hold : batch.set.record? position = some old) (new : Record) :
    batch.replacementObjection? old new = none ↔
      (batch.set.replaceAt position (.record new)).recordFindings = [] := by
  have hadmits := h.admits.perm (RecordSet.records_perm_of_record? hold)
  have hkeys : ∀ key, key ∈ batch.keysWithout old ↔ key ∈ batch.set.schema.keysOf
      (batch.set.records.take position ++ batch.set.records.drop (position + 1)) :=
    fun key => (h.tracks.keysWithout (RecordSet.records_eq_of_record? hold)).mem_iff
  -- The old record breaks no rule, so a rule that the new one breaks counts as a new violation.
  have hviolations : batch.set.schema.violations old = [] :=
    hadmits.violations old List.mem_cons_self
  rw [RecordSet.recordFindings_eq_nil_iff, RecordSet.schema_replaceAt,
    RecordSet.records_replaceAt hold, Schema.admits_perm_iff List.perm_middle,
    Schema.admits_exchange_iff hadmits, Batch.replacementObjection?_eq_none_iff, hviolations]
  simp only [hkeys, List.map_nil, List.not_mem_nil, imp_false, List.eq_nil_iff_forall_not_mem]
  rfl

/-- A record of a clean set may go exactly when the set stays clean. -/
theorem IsClean.least_lt_iff (h : batch.IsClean) {position : Nat} {old : Record}
    (hold : batch.set.record? position = some old) (commentsOut : Bool) :
    batch.least < batch.set.size ↔
      (batch.set.retireAt commentsOut position).recordFindings = [] := by
  have hperm := RecordSet.records_perm_of_record? hold
  have hsize : batch.set.size =
      (batch.set.records.take position ++ batch.set.records.drop (position + 1)).length + 1 :=
    hperm.length_eq
  rw [RecordSet.recordFindings_eq_nil_iff, RecordSet.schema_retireAt,
    RecordSet.records_retireAt hold, Schema.admits_others_iff (h.admits.perm hperm), least, hsize]
  cases batch.set.schema.size.bind SizeRule.least? with
  | none => simp
  | some least =>
    simp only [Option.getD_some, Option.mem_def, Option.some.injEq, forall_eq', Nat.lt_succ_iff]

/-- A step keeps a clean batch clean. -/
theorem Step.isClean {next : Batch} (hstep : Step batch next) (h : batch.IsClean) :
    next.IsClean := by
  -- Each step carries the check that let it through, and the check says that the set stays clean.
  refine ⟨?_, hstep.tracks h.tracks⟩
  cases hstep with
  | keep hset _ =>
    rw [hset]
    exact h.admits
  | insert position hobjection =>
    have hclean := (h.insertionObjection?_eq_none_iff position _).1 hobjection
    exact RecordSet.recordFindings_eq_nil_iff.1 hclean
  | replace hold hobjection =>
    have hclean := (h.replacementObjection?_eq_none_iff hold _).1 hobjection
    exact RecordSet.recordFindings_eq_nil_iff.1 hclean
  | retire commentsOut hold hleast =>
    have hclean := (h.least_lt_iff hold commentsOut).1 hleast
    exact RecordSet.recordFindings_eq_nil_iff.1 hclean

/-- Steps from a clean batch reach clean batches alone. -/
theorem Reaches.isClean {next : Batch} (hreaches : Reaches batch next) (h : batch.IsClean) :
    next.IsClean :=
  hreaches.preserves (fun hstep => hstep.isClean) h

/-- A change of a single record of a set, and the set that it comes to. -/
inductive Produces (set : RecordSet) : Change → RecordSet → Prop where
  | insert (position : Option Nat) (record : Record) :
      Produces set (.insert position record) (set.insertBefore position record)
  | replace {position : Nat} {old new : Record} (hold : set.record? position = some old)
      (hdiffers : old.unplaced ≠ new.unplaced) :
      Produces set (.replace position new) (set.replaceAt position (.record new))
  | remove {position : Nat} {old : Record} (hold : set.record? position = some old)
      (commentsOut : Bool) :
      Produces set (.remove [position] commentsOut) (set.retireAt commentsOut position)

/-- A change is made and counted, and the batch afterwards has the set that it comes to. -/
def Makes (batch after : Batch) (next : RecordSet) : Prop :=
  after.set = next ∧ after.report.changed = batch.report.changed + 1

/-- A change is not made. -/
def Leaves (batch after : Batch) : Prop :=
  after.set = batch.set ∧ after.report.changed = batch.report.changed

/-- Removing at a single position removes one record. -/
theorem remove_singleton (batch : Batch) (position : Nat) (commentsOut : Bool) :
    batch.remove [position] commentsOut = removeOne commentsOut batch position := by
  have hpositions : descending [position] = [position] := by
    simp [descending, List.eraseDups_cons]
  rw [remove, hpositions, List.foldl_cons, List.foldl_nil]

/-- On a clean batch a change is made when the set that it comes to has no findings, and otherwise
the set stays as it is. -/
theorem stage_of_produces (h : batch.IsClean) {change : Change} {next : RecordSet}
    (hnext : Produces batch.set change next) :
    (next.recordFindings = [] → batch.Makes (batch.stage change) next) ∧
      (next.recordFindings ≠ [] → batch.Leaves (batch.stage change)) := by
  cases hnext with
  | insert position record =>
    rw [ne_eq, ← h.insertionObjection?_eq_none_iff position record, stage, insert]
    cases batch.insertionObjection? record with
    | none => exact ⟨fun _ => ⟨rfl, rfl⟩, fun hobjection => absurd rfl hobjection⟩
    | some objection => exact ⟨nofun, fun _ => ⟨rfl, rfl⟩⟩
  | @replace position old new hold hdiffers =>
    rw [ne_eq, ← h.replacementObjection?_eq_none_iff hold new, stage, replace]
    simp only [hold, if_neg hdiffers]
    cases batch.replacementObjection? old new with
    | none => exact ⟨fun _ => ⟨rfl, rfl⟩, fun hobjection => absurd rfl hobjection⟩
    | some objection => exact ⟨nofun, fun _ => ⟨rfl, rfl⟩⟩
  | @remove position old hold commentsOut =>
    rw [ne_eq, ← h.least_lt_iff hold commentsOut, stage, remove_singleton, removeOne]
    simp only [hold]
    by_cases hleast : batch.set.size ≤ batch.least
    · rw [if_pos hleast]
      exact ⟨fun hlt => absurd hleast (Nat.not_le.2 hlt), fun _ => ⟨rfl, rfl⟩⟩
    · rw [if_neg hleast]
      exact ⟨fun _ => ⟨rfl, rfl⟩, fun hlt => absurd (Nat.not_le.1 hleast) hlt⟩

end TextRecords.Batch
