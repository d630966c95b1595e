import Mathlib.Data.List.Nodup
import TextRecords.Schema.Basic

/-!
# The records that a schema admits

A schema admits a list of records when none of them breaks a rule, no two of them have one key, and
their number is allowed. The order of the records does not matter (`Schema.admits_perm_iff`). Next
to admitted records, what one more, one less or one other record needs is told by that record, by
the keys of the others and by their number (`Schema.admits_cons_iff`, `Schema.admits_others_iff`,
`Schema.admits_exchange_iff`).
-/

namespace TextRecords

namespace SizeRule

variable {rule : SizeRule} {number : Nat}

/-- A rule allows the numbers from its least to its greatest. -/
theorem allows_iff :
    rule.allows number = true ↔
      (∀ least ∈ rule.least?, least ≤ number) ∧ ∀ greatest ∈ rule.greatest?, number ≤ greatest := by
  rw [allows, Bool.and_eq_true]
  cases rule.least? <;> cases rule.greatest? <;> simp

/-- A rule that allows a number allows the next one below its greatest. -/
theorem allows_succ_iff (h : rule.allows number = true) :
    rule.allows (number + 1) = true ↔ ∀ greatest ∈ rule.greatest?, number < greatest := by
  obtain ⟨hleast, -⟩ := allows_iff.1 h
  rw [allows_iff]
  exact ⟨And.right, fun hgreatest =>
    ⟨fun least hmem => Nat.le_succ_of_le (hleast least hmem), hgreatest⟩⟩

/-- A rule that allows a number allows the one before it from its least on. -/
theorem allows_of_succ_iff (h : rule.allows (number + 1) = true) :
    rule.allows number = true ↔ ∀ least ∈ rule.least?, least ≤ number := by
  obtain ⟨-, hgreatest⟩ := allows_iff.1 h
  rw [allows_iff]
  exact ⟨And.left, fun hleast =>
    ⟨hleast, fun greatest hmem => Nat.le_of_succ_le (hgreatest greatest hmem)⟩⟩

end SizeRule

namespace Schema

/-- The key of a record, if the schema declares one and the record has it. -/
def keyOf? (schema : Schema) (record : Record) : Option String :=
  schema.key.bind record.first?

/-- The keys of records. -/
def keysOf (schema : Schema) (records : List Record) : List String :=
  records.filterMap schema.keyOf?

/-- None of the records breaks a rule, no two have one key, and their number is allowed. -/
structure Admits (schema : Schema) (records : List Record) : Prop where
  violations : ∀ record ∈ records, schema.violations record = []
  keys : (schema.keysOf records).Nodup
  size : ∀ rule ∈ schema.size, rule.allows records.length = true

variable {schema : Schema} {records others : List Record}

/-- The key of a record under a schema with a key is the first value of that field. -/
theorem keyOf?_eq {key : String} (hkey : schema.key = some key) (record : Record) :
    schema.keyOf? record = record.first? key := by
  rw [keyOf?, hkey, Option.bind_some]

/-- Without a key field, records have no keys. -/
theorem keysOf_of_key_eq_none (hkey : schema.key = none) : schema.keysOf records = [] := by
  rw [keysOf, List.filterMap_eq_nil_iff]
  intro record _
  rw [keyOf?, hkey, Option.bind_none]

/-- The keys of a record and others. -/
theorem keysOf_cons (record : Record) :
    schema.keysOf (record :: records) =
      (schema.keyOf? record).toList ++ schema.keysOf records := by
  rw [keysOf, List.filterMap_cons]
  cases schema.keyOf? record <;> rfl

/-- Records in another order have the same keys. -/
theorem keysOf_perm (h : records.Perm others) :
    (schema.keysOf records).Perm (schema.keysOf others) :=
  h.filterMap schema.keyOf?

/-- The keys of a record between others are its key and theirs. -/
theorem keysOf_middle_perm {before after : List Record} (record : Record) :
    (schema.keysOf (before ++ record :: after)).Perm
      ((schema.keyOf? record).toList ++ schema.keysOf (before ++ after)) := by
  rw [← keysOf_cons]
  exact keysOf_perm List.perm_middle

/-- The keys of a record and others are distinct when those of the others are and the record brings
none of them. -/
theorem nodup_keysOf_cons {record : Record} (h : (schema.keysOf records).Nodup) :
    (schema.keysOf (record :: records)).Nodup ↔
      ∀ key ∈ schema.keyOf? record, key ∉ schema.keysOf records := by
  rw [keysOf_cons]
  cases schema.keyOf? record with
  | none => simpa using h
  | some key => simp [h]

/-- Without declarations there is no rule to break. -/
theorem violations_of_empty (record : Record) : ({} : Schema).violations record = [] := by
  simp [violations, keyViolations, permits, typeViolation?, fieldType?]

/-- A record that breaks no rule has one value of the key field. -/
theorem length_values_of_violations_eq_nil {key : String} (hkey : schema.key = some key)
    {record : Record} (h : schema.violations record = []) : (record.values key).length = 1 := by
  have hviolations : schema.keyViolations record = [] := by
    simp only [violations, List.append_eq_nil_iff] at h
    exact h.1.1.1.1.2
  simp only [keyViolations, hkey] at hviolations
  split at hviolations
  · exact absurd hviolations nofun
  · next hcount => exact hcount
  · exact absurd hviolations nofun

/-- A schema admits records in any order. -/
theorem Admits.perm (h : schema.Admits records) (hperm : records.Perm others) :
    schema.Admits others where
  violations record hmem := h.violations record (hperm.mem_iff.2 hmem)
  keys := (keysOf_perm hperm).nodup_iff.1 h.keys
  size rule hrule := hperm.length_eq ▸ h.size rule hrule

/-- Whether a schema admits records does not depend on their order. -/
theorem admits_perm_iff (hperm : records.Perm others) :
    schema.Admits records ↔ schema.Admits others :=
  ⟨fun h => h.perm hperm, fun h => h.perm hperm.symm⟩

/-- The others of an admitted record have distinct keys. -/
theorem Admits.keys_others {record : Record} (h : schema.Admits (record :: others)) :
    (schema.keysOf others).Nodup := by
  have hall := h.keys
  rw [keysOf_cons] at hall
  exact hall.of_append_right

/-- One more record is admitted when it breaks no rule, brings no key of another one, and stays
within the greatest number of records. -/
theorem admits_cons_iff {record : Record} (h : schema.Admits records) :
    schema.Admits (record :: records) ↔
      schema.violations record = [] ∧
      (∀ key ∈ schema.keyOf? record, key ∉ schema.keysOf records) ∧
      ∀ greatest ∈ schema.size.bind SizeRule.greatest?, records.length < greatest := by
  -- The number was allowed before, so only the greatest number can stand in the way.
  have hsize : (∀ rule ∈ schema.size, rule.allows (records.length + 1) = true) ↔
      ∀ greatest ∈ schema.size.bind SizeRule.greatest?, records.length < greatest := by
    cases hrule : schema.size with
    | none => simp
    | some rule =>
      have hallowed := h.size rule hrule
      simpa using SizeRule.allows_succ_iff hallowed
  constructor
  · intro hafter
    exact ⟨hafter.violations record List.mem_cons_self, (nodup_keysOf_cons h.keys).1 hafter.keys,
      hsize.1 hafter.size⟩
  · rintro ⟨hviolations, hkeys, hgreatest⟩
    exact ⟨List.forall_mem_cons.2 ⟨hviolations, h.violations⟩, (nodup_keysOf_cons h.keys).2 hkeys,
      hsize.2 hgreatest⟩

/-- The others of a record are admitted without it when they are not too few. -/
theorem admits_others_iff {record : Record} (h : schema.Admits (record :: others)) :
    schema.Admits others ↔
      ∀ least ∈ schema.size.bind SizeRule.least?, least ≤ others.length := by
  -- The number was allowed before, so only the least number can stand in the way.
  have hsize : (∀ rule ∈ schema.size, rule.allows others.length = true) ↔
      ∀ least ∈ schema.size.bind SizeRule.least?, least ≤ others.length := by
    cases hrule : schema.size with
    | none => simp
    | some rule =>
      have hallowed := h.size rule hrule
      simpa using SizeRule.allows_of_succ_iff hallowed
  constructor
  · intro hafter
    exact hsize.1 hafter.size
  · intro hleast
    exact ⟨fun other hmem => h.violations other (List.mem_cons_of_mem _ hmem), h.keys_others,
      hsize.2 hleast⟩

/-- Another record is admitted in the place of one when it breaks no rule and brings no key of the
others. -/
theorem admits_exchange_iff {old new : Record} (h : schema.Admits (old :: others)) :
    schema.Admits (new :: others) ↔
      schema.violations new = [] ∧ ∀ key ∈ schema.keyOf? new, key ∉ schema.keysOf others := by
  constructor
  · intro hafter
    exact ⟨hafter.violations new List.mem_cons_self,
      (nodup_keysOf_cons h.keys_others).1 hafter.keys⟩
  · rintro ⟨hviolations, hfree⟩
    have hothers : ∀ other ∈ others, schema.violations other = [] :=
      fun other hmem => h.violations other (List.mem_cons_of_mem _ hmem)
    exact ⟨List.forall_mem_cons.2 ⟨hviolations, hothers⟩, (nodup_keysOf_cons h.keys_others).2 hfree,
      h.size⟩

end Schema

end TextRecords
