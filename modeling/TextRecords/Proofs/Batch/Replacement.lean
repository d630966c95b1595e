import TextRecords.Proofs.Batch.Keys
import TextRecords.Proofs.Record.Fields

/-!
# What rejects a replacement

A replacement is made when the new record breaks no rule that the old one keeps, and its key is not
in use by the table of the batch. On a new batch the table holds every value of the key field, so
the key of the new record must differ from all key values of the other records, and from those of
the old record behind its first one (`Batch.replace_start_iff`). Where no record has its key field
more than once, these are the keys of the other records.

In a set whose records repeat the key field, a replacement may be rejected though no other record
has its key (`Batch.replace_rejects_ownValue`).
-/

namespace TextRecords

/-- Whether a record breaks no rule but those that another record breaks as well, as they are told
in words. -/
def Schema.BreaksNoMore (schema : Schema) (old new : Record) : Prop :=
  ∀ violation ∈ schema.violations new,
    violation.message ∈ (schema.violations old).map Violation.message

instance (schema : Schema) (old new : Record) : Decidable (schema.BreaksNoMore old new) :=
  inferInstanceAs (Decidable (∀ violation ∈ schema.violations new, _))

namespace RecordSet

/-- The records of a set at all positions but one. -/
def others (set : RecordSet) (position : Nat) : List Record :=
  set.records.eraseIdx position

/-- Whether the key of a record, if it has one, is not the key of any record that stands at another
position of a set. -/
def KeyIsFree (set : RecordSet) (position : Nat) (new : Record) : Prop :=
  ∀ key ∈ set.schema.key, ∀ value ∈ new.first? key,
    ∀ other ∈ set.others position, other.first? key ≠ some value

instance (set : RecordSet) (position : Nat) (new : Record) :
    Decidable (set.KeyIsFree position new) :=
  inferInstanceAs (Decidable (∀ key ∈ set.schema.key, ∀ value ∈ new.first? key,
    ∀ other ∈ set.others position, _))

/-- Whether the key of a record, if it has one, is not a value of the key field of any record that
stands at another position of a set, nor one of the old record behind the first. -/
def ValueIsFree (set : RecordSet) (position : Nat) (old new : Record) : Prop :=
  ∀ key ∈ set.schema.key, ∀ value ∈ new.first? key,
    value ∉ (old.values key).tail ∧ ∀ other ∈ set.others position, value ∉ other.values key

instance (set : RecordSet) (position : Nat) (old new : Record) :
    Decidable (set.ValueIsFree position old new) :=
  inferInstanceAs (Decidable (∀ key ∈ set.schema.key, ∀ value ∈ new.first? key, _ ∧ _))

variable {set : RecordSet} {position : Nat} {old new : Record}

/-- The other records are those before a position and those after it. -/
theorem others_eq :
    set.others position = set.records.take position ++ set.records.drop (position + 1) :=
  List.eraseIdx_eq_take_drop_succ _ _

/-- The surplus are the values of the key field behind the first one of some record. -/
theorem mem_surplusKeys_iff {key : String} (hkey : set.schema.key = some key) {value : String} :
    value ∈ set.surplusKeys ↔ ∃ record ∈ set.records, value ∈ (record.values key).tail := by
  have hsurplus : set.surplusKeys = set.records.flatMap fun record => (record.values key).tail := by
    simp only [surplusKeys, hkey]
  rw [hsurplus, List.mem_flatMap]

/-- In a set whose records do not repeat the key field, a value of it is free when the key is. -/
theorem valueIsFree_iff_keyIsFree (hold : set.record? position = some old)
    (honce : ∀ key ∈ set.schema.key, ∀ record ∈ set.records, (record.values key).length ≤ 1) :
    set.ValueIsFree position old new ↔ set.KeyIsFree position new := by
  -- Nothing comes behind the first value, so the values are the keys.
  have htail : ∀ key ∈ set.schema.key, ∀ record ∈ set.records, (record.values key).tail = [] := by
    intro key hkey record hrecord
    have hlength := honce key hkey record hrecord
    rw [← List.length_eq_zero_iff, List.length_tail]
    omega
  have hvalues : ∀ key ∈ set.schema.key, ∀ other ∈ set.others position, ∀ value,
      value ∈ other.values key ↔ other.first? key = some value := by
    intro key hkey other hother value
    have hmem : other ∈ set.records := List.mem_of_mem_eraseIdx hother
    rw [Record.mem_values_iff, htail key hkey other hmem]
    simp only [List.not_mem_nil, or_false]
  have hmem : old ∈ set.records := List.mem_of_getElem? hold
  constructor
  · intro hfree key hkey value hvalue other hother hsame
    obtain ⟨-, hothers⟩ := hfree key hkey value hvalue
    exact hothers other hother ((hvalues key hkey other hother value).2 hsame)
  · intro hfree key hkey value hvalue
    refine ⟨?_, fun other hother hheld => ?_⟩
    · rw [htail key hkey old hmem]
      exact List.not_mem_nil
    · have hsame := (hvalues key hkey other hother value).1 hheld
      exact hfree key hkey value hvalue other hother hsame

end RecordSet

namespace Batch

variable {set : RecordSet} {position : Nat} {old new : Record}

/-- The table of a new batch without the key of a record holds the further values of that record and
all values of the others. -/
theorem mem_keysWithout_start_iff (hold : set.record? position = some old) {key : String}
    (hkey : set.schema.key = some key) {value : String} :
    value ∈ (start set).keysWithout old ↔
      value ∈ (old.values key).tail ∨ ∃ other ∈ set.others position, value ∈ other.values key := by
  -- The table consists of the surplus, with the further values of all records, and of the keys of
  -- the other records.
  have hparts : value ∈ (start set).keysWithout old ↔
      value ∈ set.surplusKeys ∨ value ∈ set.schema.keysOf (set.others position) := by
    have hperm := (tracks_start set).keysWithout (RecordSet.records_eq_of_record? hold)
    rw [hperm.mem_iff, List.mem_append, RecordSet.others_eq]
    rfl
  have hsurplus : value ∈ set.surplusKeys ↔ value ∈ (old.values key).tail ∨
      ∃ other ∈ set.others position, value ∈ (other.values key).tail := by
    have hperm : set.records.Perm (old :: set.others position) := by
      rw [RecordSet.others_eq]
      exact RecordSet.records_perm_of_record? hold
    rw [RecordSet.mem_surplusKeys_iff hkey]
    simp only [hperm.mem_iff, List.mem_cons, exists_eq_or_imp]
  have hkeys : value ∈ set.schema.keysOf (set.others position) ↔
      ∃ other ∈ set.others position, other.first? key = some value := by
    rw [Schema.keysOf, List.mem_filterMap]
    simp only [Schema.keyOf?_eq hkey]
  have hvalues : (∃ other ∈ set.others position, value ∈ other.values key) ↔
      (∃ other ∈ set.others position, other.first? key = some value) ∨
        ∃ other ∈ set.others position, value ∈ (other.values key).tail := by
    simp only [Record.mem_values_iff, and_or_left, exists_or]
  rw [hvalues, hparts, hsurplus, hkeys, or_assoc]
  exact or_congr_right or_comm

/-- No key speaks against a replacement on a new batch exactly when the key of the new record is
free. -/
theorem key_notMem_keysWithout_start_iff (hold : set.record? position = some old) :
    (∀ value ∈ (start set).key? new, value ∉ (start set).keysWithout old) ↔
      set.ValueIsFree position old new := by
  unfold RecordSet.ValueIsFree
  cases hkey : set.schema.key with
  | none =>
    have hnone : (start set).key? new = none := by rw [key?, start, hkey, Option.bind_none]
    rw [hnone]
    exact iff_of_true (fun _ hvalue => absurd hvalue (Option.not_mem_none _))
      fun _ hkey => absurd hkey (Option.not_mem_none _)
  | some key =>
    have hsome : (start set).key? new = new.first? key := by
      rw [key?, start, hkey, Option.bind_some]
    rw [hsome]
    simp only [mem_keysWithout_start_iff hold hkey, Option.mem_def, Option.some.injEq, forall_eq',
      not_or, not_exists, not_and]

/-- A replacement by a record with other content is made exactly when nothing speaks against it. -/
theorem replace_eq_true_iff {batch : Batch} (hold : batch.set.record? position = some old)
    (hdiffers : old.unplaced ≠ new.unplaced) :
    (batch.replace position new).2 = true ↔ batch.replacementObjection? old new = none := by
  unfold replace
  simp only [hold, if_neg hdiffers]
  cases batch.replacementObjection? old new with
  | none => exact iff_of_true rfl rfl
  | some objection => exact iff_of_false nofun nofun

/-- On a new batch, a replacement by a record with other content is made exactly when the new record
breaks no rule that the old one keeps, and its key is none of the values of the key field of the
other records, nor of those of the old record behind its first one. Where no record has its key
field more than once, the condition on the key is that no other record has it as its key. -/
theorem replace_start_iff (hold : set.record? position = some old)
    (hdiffers : old.unplaced ≠ new.unplaced) :
    (((start set).replace position new).2 = true ↔
        set.schema.BreaksNoMore old new ∧ set.ValueIsFree position old new) ∧
      ((∀ key ∈ set.schema.key, ∀ record ∈ set.records, (record.values key).length ≤ 1) →
        (((start set).replace position new).2 = true ↔
          set.schema.BreaksNoMore old new ∧ set.KeyIsFree position new)) := by
  have hexact : ((start set).replace position new).2 = true ↔
      set.schema.BreaksNoMore old new ∧ set.ValueIsFree position old new := by
    have hstart : (start set).set.record? position = some old := hold
    rw [replace_eq_true_iff hstart hdiffers, replacementObjection?_eq_none_iff,
      key_notMem_keysWithout_start_iff hold]
    rfl
  refine ⟨hexact, fun honce => ?_⟩
  rw [hexact, RecordSet.valueIsFree_iff_keyIsFree hold honce]

/-- Among the clashing books, the one without a key may get a new one, but not the further value of
another book. In a set of two books with one key each, they may not come to have the same. -/
theorem replace_start_iff_clashingSpecimen :
    let emma : Record := ⟨[.field ⟨"Title", "Emma"⟩], none⟩
    let emmaFour : Record := ⟨[.field ⟨"Id", "4"⟩, .field ⟨"Title", "Emma"⟩], none⟩
    let emmaThree : Record := ⟨[.field ⟨"Id", "3"⟩, .field ⟨"Title", "Emma"⟩], none⟩
    let two : RecordSet := { clashingSpecimen with
      entries := [.record ⟨[.field ⟨"Id", "3"⟩], none⟩, .record emma] }
    clashingSpecimen.record? 3 = some emma ∧ emma.unplaced ≠ emmaFour.unplaced ∧
      emma.unplaced ≠ emmaThree.unplaced ∧
      ((start clashingSpecimen).replace 3 emmaFour).2 = true ∧
      ((start clashingSpecimen).replace 3 emmaThree).2 = false ∧
      (∀ key ∈ two.schema.key, ∀ record ∈ two.records, (record.values key).length ≤ 1) ∧
      ((start two).replace 1 emmaThree).2 = false := by
  intro emma emmaFour emmaThree two
  have hold : clashingSpecimen.record? 3 = some emma := by decide +kernel
  have holdTwo : two.record? 1 = some emma := by decide +kernel
  have hfour : emma.unplaced ≠ emmaFour.unplaced := by decide
  have hthree : emma.unplaced ≠ emmaThree.unplaced := by decide
  have honce : ∀ key ∈ two.schema.key, ∀ record ∈ two.records,
      (record.values key).length ≤ 1 := by decide +kernel
  have hmade : ((start clashingSpecimen).replace 3 emmaFour).2 = true :=
    (replace_start_iff hold hfour).1.2 (by decide +kernel)
  have hrejected : ((start clashingSpecimen).replace 3 emmaThree).2 ≠ true := fun h =>
    absurd ((replace_start_iff hold hthree).1.1 h) (by decide +kernel)
  have hrejectedTwo : ((start two).replace 1 emmaThree).2 ≠ true := fun h =>
    absurd (((replace_start_iff holdTwo hthree).2 honce).1 h) (by decide +kernel)
  exact ⟨hold, hfour, hthree, hmade, Bool.eq_false_iff.2 hrejected, honce,
    Bool.eq_false_iff.2 hrejectedTwo⟩

/-- A book that has its key field twice may not keep the second value alone. The replacement is
rejected for a duplicate key, though the set has no other record. -/
theorem replace_rejects_ownValue :
    let old : Record := ⟨[.field ⟨"id", "1"⟩, .field ⟨"id", "2"⟩], none⟩
    let new : Record := ⟨[.field ⟨"id", "2"⟩], none⟩
    let set : RecordSet :=
      { descriptor := some ⟨[.field ⟨"%rec", "T"⟩, .field ⟨"%key", "id"⟩], none⟩
        entries := [.record old] }
    set.record? 0 = some old ∧ old.unplaced ≠ new.unplaced ∧ set.schema.BreaksNoMore old new ∧
      set.KeyIsFree 0 new ∧ ((start set).replace 0 new).2 = false ∧
      ((start set).replace 0 new).1.finish.failures = [⟨0, .duplicateKey "2"⟩] := by
  decide +kernel

end Batch

end TextRecords
