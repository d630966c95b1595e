import TextRecords.Proofs.Batch.Clean
import TextRecords.Proofs.Database.Edits

/-!
# Databases that stay clean

The checks of single changes and the check of a whole database are written apart. `checks_agree`
shows that they come to the same: on a set without findings a batch makes exactly the changes that
leave the set without findings. So no run of operations on the records of a database that has no
findings leads to one that has.
-/

namespace TextRecords

/-- What a batch leaves of a set without findings has none. -/
theorem RecordSet.Becomes.recordFindings_eq_nil {set next : RecordSet} (h : set.Becomes next)
    (hset : set.recordFindings = []) : next.recordFindings = [] := by
  obtain ⟨batch, hreaches, rfl⟩ := h
  have hstart := Batch.isClean_start (recordFindings_eq_nil_iff.1 hset)
  exact recordFindings_eq_nil_iff.2 (hreaches.isClean hstart).admits

namespace Database

variable {db : Database} {filter : Filter}

/-- A change to the set of a filter that goes through a batch brings no findings. -/
theorem findings_updateTarget {update : RecordSet → Except Fault Report × RecordSet}
    (hupdate : ∀ set : RecordSet, set.Becomes (update set).2) (h : db.findings {} = []) :
    (db.updateTarget filter update).database.findings {} = [] := by
  rcases updateTarget_cases db filter update with ⟨fault, heq⟩ | heq | ⟨position, set, hset, heq⟩
  · rw [heq]
    exact h
  · rw [heq]
    exact h
  · rw [heq]
    rw [findings_eq_nil_iff] at h ⊢
    intro other hmem
    -- All sets but the one in question stay where they were.
    rcases List.mem_or_eq_of_mem_set hmem with hother | rfl
    · exact h other hother
    · exact (hupdate set).recordFindings_eq_nil (h set (List.mem_of_getElem? hset))

/-- A set without descriptor and records has no findings. -/
theorem findings_withUntypedSet (h : db.findings {} = []) :
    (db.withUntypedSet filter).findings {} = [] := by
  by_cases hempty : db.sets = [] ∧ filter.type = none
  · -- The only set is the new one, which has neither records nor rules.
    rw [withUntypedSet_of_isEmpty hempty.1 hempty.2, findings_eq_nil_iff]
    exact List.forall_mem_singleton.2 rfl
  · rwa [withUntypedSet_of_not hempty]

/-- Moving comments to the prologue brings no findings. -/
theorem findings_foldUntyped (h : db.findings {} = []) : db.foldUntyped.findings {} = [] := by
  rw [findings_eq_nil_iff] at h ⊢
  unfold foldUntyped
  split
  · exact h
  · next set rest hsets =>
    rw [hsets] at h
    split
    · exact fun other hmem => h other (List.mem_cons_of_mem _ hmem)
    · rw [hsets]
      exact h

/-- An operation on the records of a database without findings brings none. -/
theorem findings_edit (edit : Edit) (h : db.findings {} = []) :
    (db.edit edit).database.findings {} = [] := by
  cases edit with
  | insert sampler generator insertion =>
    rw [Database.edit, insert]
    split
    · exact h
    · exact findings_updateTarget (insertion.becomes_intoSet sampler generator)
        (findings_withUntypedSet h)
  | delete sampler deletion =>
    have hdeleted : (db.updateTarget deletion.filter (deletion.fromSet sampler)).database.findings
        {} = [] := findings_updateTarget (deletion.becomes_fromSet sampler) h
    rw [Database.edit, delete]
    split
    · exact findings_foldUntyped hdeleted
    · exact hdeleted
  | setFields sampler change =>
    rw [Database.edit, setFields]
    split
    · exact h
    · exact findings_updateTarget (change.becomes_ofSet sampler) h

/-- Operations on the records of a database without findings bring none. -/
theorem findings_editAll (edits : List Edit) (h : db.findings {} = []) :
    (db.editAll edits).findings {} = [] := by
  induction edits generalizing db with
  | nil => exact h
  | cons edit rest ih => exact ih (findings_edit edit h)

end Database

/-- After any staged changes of a set without findings, the set has none, and any further change of
a single record is made when the set that it comes to has none and is not made otherwise. After any
operations on the records of a database without findings, the database has none. -/
theorem checks_agree :
    (∀ set : RecordSet, set.recordFindings = [] → ∀ changes : List Batch.Change,
      let batch := (Batch.start set).stageAll changes
      batch.set.recordFindings = [] ∧
        ∀ change next, Batch.Produces batch.set change next →
          (next.recordFindings = [] → batch.Makes (batch.stage change) next) ∧
            (next.recordFindings ≠ [] → batch.Leaves (batch.stage change))) ∧
    ∀ db : Database, db.findings {} = [] → ∀ edits, (db.editAll edits).findings {} = [] := by
  refine ⟨fun set hset changes => ?_, fun db hdb edits => Database.findings_editAll edits hdb⟩
  intro batch
  have hstart : (Batch.start set).IsClean :=
    Batch.isClean_start (RecordSet.recordFindings_eq_nil_iff.1 hset)
  have hclean : batch.IsClean := (Batch.reaches_stageAll _ changes).isClean hstart
  exact ⟨RecordSet.recordFindings_eq_nil_iff.2 hclean.admits,
    fun change next hnext => Batch.stage_of_produces hclean hnext⟩

/-- The books have no findings: a new key is let in, a key that is in use is refused, a record is
commented out, and an insertion and a deletion bring no findings. -/
theorem checks_agree_booksSpecimen :
    let db := Database.booksSpecimen
    let set := db.sets.headD {}
    let second : Record := ⟨[.field ⟨"Id", "2"⟩], none⟩
    let third : Record := ⟨[.field ⟨"Id", "3"⟩], none⟩
    let batch := (Batch.start set).stageAll [.insert none second, .replace 0 second]
    set.recordFindings = [] ∧ db.findings {} = [] ∧
      batch.Makes (batch.stage (.insert (some 1) third)) (batch.set.insertBefore (some 1) third) ∧
      batch.Leaves (batch.stage (.replace 0 second)) ∧
      batch.Makes (batch.stage (.remove [0] true)) (batch.set.retireAt true 0) ∧
      (db.editAll [.insert .first ⟨fun _ => "", ""⟩ { record := second },
        .delete .first {}]).findings {} = [] := by
  intro db set second third batch
  have hset : set.recordFindings = [] := by decide +kernel
  have hdb : db.findings {} = [] := by decide +kernel
  have hfirst : batch.set.record? 0 = some ⟨[.field ⟨"Id", "1"⟩], some ⟨4, 22⟩⟩ := by
    decide +kernel
  obtain ⟨hchanges, hedits⟩ := checks_agree
  obtain ⟨-, hchange⟩ := hchanges set hset [.insert none second, .replace 0 second]
  refine ⟨hset, hdb, ?_, ?_, ?_, hedits db hdb _⟩
  · exact (hchange _ _ (.insert (some 1) third)).1 (by decide +kernel)
  · exact (hchange _ _ (.replace hfirst (by decide))).2 (by decide +kernel)
  · exact (hchange _ _ (.remove hfirst true)).1 (by decide +kernel)

end TextRecords
