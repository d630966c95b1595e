import TextRecords.Database.Deletion
import TextRecords.Database.FieldChange
import TextRecords.Database.Insertion
import TextRecords.Proofs.Batch.Step

/-!
# Counted changes

The report of a batch counts every change of its set: a change leaves the set and the count as they
are, or it counts one more (`Batch.Counts`). So do changes one after another (`Batch.counts_foldl`),
and a report of none means that the set is the same (`RecordSet.eq_of_replaceSelected`,
`Deletion.eq_of_fromSet`, `FieldChange.eq_of_ofSet`). Replacements that are counted leave a set with
records, since they put one of them into the place of another.
-/

namespace TextRecords

namespace Batch

/-- A batch after changes of which all are counted: its set and its count are the same, or it counts
more and leaves a set that has some property. -/
inductive Counts (P : RecordSet → Prop) (batch after : Batch) : Prop
  | kept (hset : after.set = batch.set) (hchanged : after.report.changed = batch.report.changed)
  | counted (hlt : batch.report.changed < after.report.changed) (h : P after.set)

variable {P : RecordSet → Prop} {batch middle after : Batch}

/-- Changes that are counted, one after another. -/
theorem Counts.trans (hfirst : Counts P batch middle) (hsecond : Counts P middle after) :
    Counts P batch after := by
  cases hfirst with
  | kept hset hchanged =>
    cases hsecond with
    | kept hnext hsame => exact .kept (hnext.trans hset) (hsame.trans hchanged)
    | counted hlt hafter => exact .counted (hchanged ▸ hlt) hafter
  | counted hlt hmiddle =>
    cases hsecond with
    | kept hnext hsame => exact .counted (hsame.symm ▸ hlt) (hnext.symm ▸ hmiddle)
    | counted hmore hafter => exact .counted (Nat.lt_trans hlt hmore) hafter

/-- Steps that count their changes do so one after another. -/
theorem counts_foldl {α : Type} {step : Batch → α → Batch}
    (h : ∀ batch a, Counts P batch (step batch a)) (batch : Batch) (list : List α) :
    Counts P batch (list.foldl step batch) := by
  induction list generalizing batch with
  | nil => exact .kept rfl rfl
  | cons a rest ih => exact (h batch a).trans (ih (step batch a))

/-- A committed change is counted. -/
theorem counts_commit {set : RecordSet} (h : P set) (keys : List String) :
    Counts P batch (batch.commit set keys) :=
  .counted (Nat.lt_succ_self _) h

/-- A replacement is counted, and leaves a set with records. -/
theorem counts_replace (batch : Batch) (position : Nat) (record : Record) :
    Counts (·.records ≠ []) batch (batch.replace position record).1 := by
  unfold replace
  split
  · exact .kept rfl rfl
  · next old hold =>
    split
    · exact .kept rfl rfl
    · split
      · exact .kept rfl rfl
      · refine counts_commit ?_ _
        rw [RecordSet.records_replaceAt hold record]
        exact List.append_ne_nil_of_right_ne_nil _ (List.cons_ne_nil _ _)

/-- A record that goes is counted. -/
theorem counts_removeOne (commentsOut : Bool) (batch : Batch) (position : Nat) :
    Counts (fun _ => True) batch (removeOne commentsOut batch position) := by
  unfold removeOne
  split
  · exact .kept rfl rfl
  · split
    · exact .kept rfl rfl
    · exact counts_commit trivial _

/-- What is left of a set is the same when nothing is counted, and has the property of the counted
changes otherwise. -/
theorem Counts.eq_or_of_start {set : RecordSet} (h : Counts P (start set) after) :
    (after.report.changed = 0 → after.set = set) ∧ (after.set = set ∨ P after.set) := by
  cases h with
  | kept hset _ => exact ⟨fun _ => hset, .inl hset⟩
  | counted hlt hafter =>
    have hpos : 0 < after.report.changed := hlt
    exact ⟨fun hzero => absurd hzero (Nat.ne_of_gt hpos), .inr hafter⟩

end Batch

variable {set next : RecordSet} {report : Report}

/-- Replacements that report no change leave the set as it is, and others leave one with records. -/
theorem RecordSet.eq_of_replaceSelected {record : Record} {positions : List Nat}
    (h : set.replaceSelected record positions = (.ok report, next)) :
    (report.changed = 0 → next = set) ∧ (next = set ∨ next.records ≠ []) := by
  have hcounts := Batch.counts_foldl (P := (·.records ≠ []))
    (fun batch position => batch.counts_replace position record) (Batch.start set) positions
  obtain ⟨hreport, rfl⟩ := Prod.mk.inj h
  obtain rfl := Except.ok.inj hreport
  exact hcounts.eq_or_of_start

/-- A change of fields that reports no change leaves the set as it is, and any other one leaves a
set with records. -/
theorem FieldChange.eq_of_ofSet {change : FieldChange} {sampler : Sampler}
    (h : change.ofSet sampler set = (.ok report, next)) :
    (report.changed = 0 → next = set) ∧ (next = set ∨ next.records ≠ []) := by
  have hone : ∀ batch position,
      Batch.Counts (·.records ≠ []) batch (change.changeOne batch position) := by
    intro batch position
    unfold changeOne
    split
    · exact .kept rfl rfl
    · exact batch.counts_replace position _
  have hcounts := Batch.counts_foldl hone (Batch.start set) (change.filter.targets sampler set)
  obtain ⟨hreport, rfl⟩ := Prod.mk.inj h
  obtain rfl := Except.ok.inj hreport
  exact hcounts.eq_or_of_start

/-- A deletion that reports no change leaves the set as it is. -/
theorem Deletion.eq_of_fromSet {deletion : Deletion} {sampler : Sampler}
    (h : deletion.fromSet sampler set = (.ok report, next)) (hchanged : report.changed = 0) :
    next = set := by
  have hcounts := Batch.counts_foldl (Batch.counts_removeOne deletion.commentsOut)
    (Batch.start set) (Batch.descending (deletion.filter.targets sampler set))
  obtain ⟨hreport, rfl⟩ := Prod.mk.inj h
  obtain rfl := Except.ok.inj hreport
  exact hcounts.eq_or_of_start.1 hchanged

end TextRecords
