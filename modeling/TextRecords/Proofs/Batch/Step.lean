import Mathlib.Logic.Relation
import TextRecords.Batch
import TextRecords.Proofs.RecordSet.Edits

/-!
# Runs of a batch

`Batch.Step` says all that one change of a single record can do to a batch: nothing to its records
and keys, or one of three commitments, each under the check that let it through. Every staged change
is a run of such steps (`reaches_stageAll`), so what a step preserves holds after any sequence of
changes (`Reaches.preserves`).
-/

namespace TextRecords.Batch

/-- A change that is staged on a batch. -/
inductive Change where
  | insert (position : Option Nat) (record : Record)
  | replace (position : Nat) (record : Record)
  | remove (positions : List Nat) (commentsOut : Bool)
deriving DecidableEq, Repr

/-- A batch after a change is staged. -/
def stage (batch : Batch) : Change → Batch
  | .insert position record => (batch.insert position record).2
  | .replace position record => (batch.replace position record).1
  | .remove positions commentsOut => batch.remove positions commentsOut

/-- A batch after changes are staged one after another. -/
def stageAll (batch : Batch) (changes : List Change) : Batch :=
  changes.foldl stage batch

/-- Nothing speaks against an insertion exactly when the record breaks no rule, brings no key that
is in use, and leaves the set within its greatest number of records. -/
theorem insertionObjection?_eq_none_iff {batch : Batch} {record : Record} :
    batch.insertionObjection? record = none ↔
      batch.set.schema.violations record = [] ∧
      (∀ key ∈ batch.key? record, key ∉ batch.keys) ∧
      ∀ greatest ∈ batch.set.schema.size.bind SizeRule.greatest?, batch.set.size < greatest := by
  rw [insertionObjection?]
  cases hviolations : batch.set.schema.violations record with
  | cons violation rest => simp
  | nil =>
    cases hkey : (batch.key? record).filter batch.keys.contains with
    | some key =>
      obtain ⟨hheld, hused⟩ := Option.filter_eq_some_iff.1 hkey
      have huse : key ∈ batch.keys := List.contains_iff_mem.1 hused
      simp only [reduceCtorEq, true_and, false_iff, not_and]
      exact fun hfree => absurd huse (hfree key hheld)
    | none =>
      have hfree : ∀ key ∈ batch.key? record, key ∉ batch.keys := by
        intro key hheld huse
        exact Option.filter_eq_none_iff.1 hkey key hheld (List.contains_iff_mem.2 huse)
      cases hgreatest : batch.set.schema.size.bind SizeRule.greatest? with
      | none => simpa using hfree
      | some greatest =>
        simp only [ite_eq_right_iff, reduceCtorEq, imp_false, true_and, Option.mem_def,
          Option.some.injEq, forall_eq']
        exact ⟨fun h => ⟨hfree, by omega⟩, fun h => by omega⟩

/-- Nothing speaks against a replacement exactly when the new record breaks no rule that the old one
keeps, and brings no key that another record has in use. -/
theorem replacementObjection?_eq_none_iff {batch : Batch} {old new : Record} :
    batch.replacementObjection? old new = none ↔
      (∀ violation ∈ batch.set.schema.violations new,
        violation.message ∈ (batch.set.schema.violations old).map Violation.message) ∧
      ∀ key ∈ batch.key? new, key ∉ batch.keysWithout old := by
  rw [replacementObjection?]
  split
  · next violation hfind =>
    have hmem := List.mem_of_find?_eq_some hfind
    have hnew := List.find?_some hfind
    simp only [reduceCtorEq, false_iff, not_and]
    intro hknown
    simp [hknown violation hmem] at hnew
  · next hfind =>
    have hknown : ∀ violation ∈ batch.set.schema.violations new,
        violation.message ∈ (batch.set.schema.violations old).map Violation.message := by
      intro violation hmem
      have hold := List.find?_eq_none.1 hfind violation hmem
      simpa using hold
    rw [Option.map_eq_none_iff, Option.filter_eq_none_iff]
    simp only [List.contains_iff_mem]
    exact ⟨fun hfree => ⟨hknown, hfree⟩, And.right⟩

/-- An insertion that succeeds meets no objection and is committed. -/
theorem insert_of_ok {batch : Batch} {position : Option Nat} {record : Record}
    (h : (batch.insert position record).1 = .ok ()) :
    batch.insertionObjection? record = none ∧
      (batch.insert position record).2 = batch.commit (batch.set.insertBefore position record)
        (batch.keysWith batch.keys record) := by
  unfold insert at h ⊢
  cases hobjection : batch.insertionObjection? record with
  | some objection =>
    rw [hobjection] at h
    exact absurd h nofun
  | none => exact ⟨rfl, rfl⟩

/-- An insertion that fails leaves the batch as it is. -/
theorem insert_of_error {batch : Batch} {position : Option Nat} {record : Record}
    {objection : Objection} (h : (batch.insert position record).1 = .error objection) :
    (batch.insert position record).2 = batch := by
  unfold insert at h ⊢
  cases hobjection : batch.insertionObjection? record with
  | some other => rfl
  | none =>
    rw [hobjection] at h
    exact absurd h nofun

/-- A replacement that is made meets no objection and is committed. -/
theorem replace_of_true {batch : Batch} {position : Nat} {new : Record}
    (h : (batch.replace position new).2 = true) :
    ∃ old, batch.set.record? position = some old ∧
      batch.replacementObjection? old new = none ∧
      (batch.replace position new).1 = batch.commit (batch.set.replaceAt position (.record new))
        (batch.keysWith (batch.keysWithout old) new) := by
  unfold replace at h ⊢
  cases hold : batch.set.record? position with
  | none =>
    rw [hold] at h
    exact absurd h nofun
  | some old =>
    simp only [hold] at h ⊢
    by_cases hsame : old.unplaced = new.unplaced
    · rw [if_pos hsame] at h
      exact absurd h nofun
    · rw [if_neg hsame] at h ⊢
      cases hobjection : batch.replacementObjection? old new with
      | some objection =>
        rw [hobjection] at h
        exact absurd h nofun
      | none => exact ⟨old, rfl, hobjection, rfl⟩

/-- What a change of a single record does to a batch. -/
inductive Step (batch : Batch) : Batch → Prop where
  /-- The change is rejected, or there is nothing to change. -/
  | keep {after : Batch} (hset : after.set = batch.set) (hkeys : after.keys = batch.keys) :
      Step batch after
  | insert (position : Option Nat) {record : Record}
      (h : batch.insertionObjection? record = none) :
      Step batch (batch.commit (batch.set.insertBefore position record)
        (batch.keysWith batch.keys record))
  | replace {position : Nat} {old new : Record} (hold : batch.set.record? position = some old)
      (h : batch.replacementObjection? old new = none) :
      Step batch (batch.commit (batch.set.replaceAt position (.record new))
        (batch.keysWith (batch.keysWithout old) new))
  | retire {position : Nat} {old : Record} (commentsOut : Bool)
      (hold : batch.set.record? position = some old) (h : batch.least < batch.set.size) :
      Step batch (batch.commit (batch.set.retireAt commentsOut position) (batch.keysWithout old))

/-- An insertion is a step. -/
theorem step_insert (batch : Batch) (position : Option Nat) (record : Record) :
    Step batch (batch.insert position record).2 := by
  unfold insert
  split
  · exact .keep rfl rfl
  · next h => exact .insert position h

/-- A replacement is a step. -/
theorem step_replace (batch : Batch) (position : Nat) (record : Record) :
    Step batch (batch.replace position record).1 := by
  unfold replace
  split
  · exact .keep rfl rfl
  · next old hold =>
    split
    · exact .keep rfl rfl
    · split
      · exact .keep rfl rfl
      · next h => exact .replace hold h

/-- Removing one record is a step. -/
theorem step_removeOne (commentsOut : Bool) (batch : Batch) (position : Nat) :
    Step batch (removeOne commentsOut batch position) := by
  unfold removeOne
  split
  · exact .keep rfl rfl
  · next old hold =>
    split
    · exact .keep rfl rfl
    · next h => exact .retire commentsOut hold (Nat.lt_of_not_le h)

/-- A batch is reached from another by steps. -/
def Reaches : Batch → Batch → Prop :=
  Relation.ReflTransGen Step

/-- What every step preserves is preserved by steps one after another. -/
theorem Reaches.preserves {P : Batch → Prop} (hstep : ∀ {batch after}, Step batch after → P batch →
    P after) {batch after : Batch} (h : Reaches batch after) (hbatch : P batch) : P after := by
  induction h with
  | refl => exact hbatch
  | tail _ hlast ih => exact hstep hlast ih

/-- A fold of steps reaches its result. -/
theorem reaches_foldl {α : Type} {f : Batch → α → Batch} (h : ∀ batch a, Reaches batch (f batch a))
    (batch : Batch) (list : List α) : Reaches batch (list.foldl f batch) := by
  induction list generalizing batch with
  | nil => exact .refl
  | cons a rest ih => exact (h batch a).trans (ih (f batch a))

/-- Removing records is a run of steps. -/
theorem reaches_remove (batch : Batch) (positions : List Nat) (commentsOut : Bool) :
    Reaches batch (batch.remove positions commentsOut) :=
  reaches_foldl (fun batch position => .single (step_removeOne commentsOut batch position)) _ _

/-- A staged change is a run of steps. -/
theorem reaches_stage (batch : Batch) (change : Change) : Reaches batch (batch.stage change) := by
  cases change with
  | insert position record => exact .single (step_insert batch position record)
  | replace position record => exact .single (step_replace batch position record)
  | remove positions commentsOut => exact reaches_remove batch positions commentsOut

/-- Staged changes are a run of steps. -/
theorem reaches_stageAll (batch : Batch) (changes : List Change) :
    Reaches batch (batch.stageAll changes) :=
  reaches_foldl reaches_stage batch changes

/-- A step keeps the descriptor of the set. -/
theorem Step.descriptor_eq {batch after : Batch} (h : Step batch after) :
    after.set.descriptor = batch.set.descriptor := by
  cases h with
  | keep hset _ => rw [hset]
  | insert position _ => exact RecordSet.descriptor_insertBefore position _
  | replace _ _ => rfl
  | retire commentsOut _ _ => exact RecordSet.descriptor_retireAt commentsOut _

/-- A step keeps the schema of the set. -/
theorem Step.schema_eq {batch after : Batch} (h : Step batch after) :
    after.set.schema = batch.set.schema :=
  RecordSet.schema_congr h.descriptor_eq

/-- A run of steps keeps the schema of the set. -/
theorem Reaches.schema_eq {batch after : Batch} (h : Reaches batch after) :
    after.set.schema = batch.set.schema :=
  h.preserves (P := fun other => other.set.schema = batch.set.schema)
    (fun hstep hbefore => hstep.schema_eq.trans hbefore) rfl

end TextRecords.Batch
