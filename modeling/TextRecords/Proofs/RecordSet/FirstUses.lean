import Mathlib.Data.List.Basic
import TextRecords.Database.Integrity
import TextRecords.Proofs.Schema.Admission

/-!
# The first uses of keys

The check of a set goes through its records once and notes where each key was used first. A step
notes the key of one more record (`FirstUses.Tracks.noting`), so what is noted when a record is
reached are the first uses among the records before it. The findings about a record are therefore
told by these records alone (`RecordSet.findingsOf`), and those of the whole pass are the findings
about each record, one after another (`RecordSet.recordFindings_eq`).
-/

namespace TextRecords

/-- The first uses that are noted are those of some records. -/
def FirstUses.Tracks (firsts : FirstUses) (schema : Schema) (records : List Record) : Prop :=
  ∀ key, firsts[key]? = records.findIdx? (schema.keyOf? · == some key)

namespace FirstUses.Tracks

variable {firsts : FirstUses} {schema : Schema} {records : List Record}

/-- Nothing is noted before the first record. -/
theorem empty : Tracks ∅ schema [] :=
  fun _ => Std.TreeMap.getElem?_emptyc

/-- A step notes the first uses among one more record. -/
theorem noting (h : firsts.Tracks schema records) (record : Record) :
    (firsts.noting records.length (schema.keyOf? record)).Tracks schema (records ++ [record]) := by
  intro key
  have hbehind : (records ++ [record]).findIdx? (schema.keyOf? · == some key) =
      (firsts[key]?).or
        (if schema.keyOf? record = some key then some records.length else none) := by
    rw [List.findIdx?_append, List.findIdx?_singleton, h key]
    simp only [beq_iff_eq]
    split <;> simp
  rw [hbehind]
  cases hkey : schema.keyOf? record with
  | none => simp [FirstUses.noting]
  | some used =>
    rw [FirstUses.noting, Std.TreeMap.getElem?_insertIfNew]
    simp only [Std.compare_eq_iff_eq, Option.some.injEq]
    by_cases hused : used = key
    · -- The key of the record is noted with its position, unless an earlier record has it.
      subst hused
      cases hfirst : firsts[used]? with
      | none => simp [Std.TreeMap.mem_iff_isSome_getElem?, hfirst]
      | some first => simp [Std.TreeMap.mem_iff_isSome_getElem?, hfirst]
    · simp [hused]

end FirstUses.Tracks

/-- The duplicate key of a record, if one of the records before it has its key. The first of them is
named. -/
def Schema.duplicateKey? (schema : Schema) (earlier : List Record) (record : Record) :
    Option Defect :=
  (schema.keyOf? record).bind fun key =>
    (earlier.findIdx? (schema.keyOf? · == some key)).map (Defect.duplicateKey key)

namespace RecordSet

variable {set : RecordSet}

/-- What is found about the record at a position: the rules that it breaks, and a key that a record
before it has. -/
def findingsOf (set : RecordSet) (position : Nat) (record : Record) : List Finding :=
  ((set.schema.violations record).map Defect.violation ++
    (set.schema.duplicateKey? (set.records.take position) record).toList).map
      (set.findingAt position record)

/-- Where the first uses among the records before are noted, the pass finds what there is about each
further record. -/
theorem findingsFrom_eq {firsts : FirstUses} {before rest : List Record}
    (hfirsts : firsts.Tracks set.schema before) (hrecords : set.records = before ++ rest) :
    set.findingsFrom set.schema firsts before.length rest =
      (rest.zipIdx before.length).flatMap fun pair => set.findingsOf pair.2 pair.1 := by
  induction rest generalizing firsts before with
  | nil => rfl
  | cons record rest ih =>
    have hbefore : set.records.take before.length = before := by rw [hrecords, List.take_left]
    have hduplicate : ((set.schema.keyOf? record).bind fun key =>
        firsts[key]?.map (Defect.duplicateKey key)) =
          set.schema.duplicateKey? (set.records.take before.length) record := by
      rw [hbefore, Schema.duplicateKey?]
      simp only [hfirsts _]
    have hnext := ih (hfirsts.noting record) (by rw [hrecords, List.append_assoc]; rfl)
    rw [List.length_append, List.length_singleton] at hnext
    rw [findingsFrom, List.zipIdx_cons, List.flatMap_cons, ← hnext, findingsOf, ← hduplicate]
    rfl

/-- The findings about a set are those about its records, in their order, and one about their number
if it is not allowed. -/
theorem recordFindings_eq : set.recordFindings =
    (set.records.zipIdx.flatMap fun pair => set.findingsOf pair.2 pair.1) ++
      (set.schema.size.toList.filter fun size => !size.allows set.size).map
        fun _ => set.finding (.size set.size) := by
  have hpass : set.findingsFrom set.schema ∅ 0 set.records =
      set.records.zipIdx.flatMap fun pair => set.findingsOf pair.2 pair.1 :=
    findingsFrom_eq FirstUses.Tracks.empty (List.nil_append set.records).symm
  rw [recordFindings, hpass]

end RecordSet

end TextRecords
