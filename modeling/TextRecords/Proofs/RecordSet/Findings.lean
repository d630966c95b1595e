import Mathlib.Data.List.Nodup
import TextRecords.Proofs.RecordSet.FirstUses

/-!
# Sets without findings

The check of a set looks at every record and at the records before it; a set passes exactly when its
schema admits its records (`RecordSet.recordFindings_eq_nil_iff`). With the default options a
database passes when every set does (`Database.findings_eq_nil_iff`).
-/

namespace TextRecords

/-- The key of a record is no duplicate exactly when no record before it has the key. -/
theorem Schema.duplicateKey?_eq_none_iff {schema : Schema} {earlier : List Record}
    {record : Record} :
    schema.duplicateKey? earlier record = none ↔
      ∀ key ∈ schema.keyOf? record, ∀ other ∈ earlier, schema.keyOf? other ≠ some key := by
  simp only [Schema.duplicateKey?, Option.bind_eq_none_iff, Option.map_eq_none_iff,
    List.findIdx?_eq_none_iff, beq_eq_false_iff_ne, Option.mem_def]

namespace RecordSet

variable {set : RecordSet}

/-- No key is a duplicate exactly when the keys of the records are distinct. -/
theorem duplicateKeys_eq_none_iff :
    (∀ position record, set.record? position = some record →
      set.schema.duplicateKey? (set.records.take position) record = none) ↔
      (set.schema.keysOf set.records).Nodup := by
  rw [Schema.keysOf, List.Nodup, List.pairwise_filterMap, List.pairwise_iff_getElem]
  simp only [Schema.duplicateKey?_eq_none_iff]
  -- Of two records with one key, the check of the later one finds the earlier one.
  constructor
  · intro h place position hplace hposition hlt value hvalue other hother hsame
    have hearlier : set.records[place] ∈ set.records.take position :=
      List.mem_take_iff_getElem.2 ⟨place, by omega, rfl⟩
    exact h position _ (List.getElem?_eq_getElem hposition) other hother _ hearlier
      (hsame ▸ hvalue)
  · intro h position record hrecord value hvalue earlier hearlier hsame
    obtain ⟨hposition, rfl⟩ := List.getElem?_eq_some_iff.1 hrecord
    obtain ⟨place, hplace, rfl⟩ := List.mem_take_iff_getElem.1 hearlier
    exact h place position (by omega) hposition (by omega) value hsame value hvalue rfl

/-- Nothing is found about a record when it breaks no rule and no record before it has its key. -/
theorem findingsOf_eq_nil_iff {position : Nat} {record : Record} :
    set.findingsOf position record = [] ↔ set.schema.violations record = [] ∧
      set.schema.duplicateKey? (set.records.take position) record = none := by
  rw [findingsOf, List.map_eq_nil_iff, List.append_eq_nil_iff, List.map_eq_nil_iff,
    Option.toList_eq_nil_iff]

/-- A set has no findings exactly when its schema admits its records. -/
theorem recordFindings_eq_nil_iff :
    set.recordFindings = [] ↔ set.schema.Admits set.records := by
  have hsize : (set.schema.size.toList.filter fun size => !size.allows set.size) = [] ↔
      ∀ rule ∈ set.schema.size, rule.allows set.records.length = true := by
    simp [List.filter_eq_nil_iff, RecordSet.size]
  rw [recordFindings_eq]
  simp only [List.append_eq_nil_iff, List.flatMap_eq_nil_iff, List.map_eq_nil_iff,
    findingsOf_eq_nil_iff, Prod.forall, List.mem_zipIdx_iff_getElem?]
  constructor
  · rintro ⟨hrecords, hnumber⟩
    refine ⟨fun record hmem => ?_, duplicateKeys_eq_none_iff.1 fun position record hrecord =>
      (hrecords record position hrecord).2, hsize.1 hnumber⟩
    obtain ⟨position, hrecord⟩ := List.mem_iff_getElem?.1 hmem
    exact (hrecords record position hrecord).1
  · rintro ⟨hviolations, hkeys, hnumber⟩
    refine ⟨fun record position hrecord => ⟨?_, ?_⟩, hsize.2 hnumber⟩
    · exact hviolations record (List.mem_of_getElem? hrecord)
    · exact duplicateKeys_eq_none_iff.2 hkeys position record hrecord

end RecordSet

/-- With the default options, a database has no findings exactly when its sets have none about their
records. -/
theorem Database.findings_eq_nil_iff {db : Database} :
    db.findings {} = [] ↔ ∀ set ∈ db.sets, set.recordFindings = [] := by
  rw [findings, List.flatMap_eq_nil_iff]
  simp [findingsIn]

end TextRecords
