import Mathlib.Data.List.Basic
import TextRecords.Proofs.RecordSet.FirstUses

/-!
# Findings about references

The check of references goes through all declarations of types, and the type of a field is the last
one that is declared for it. So a reference may be found wrong that its field no longer has: one
that a later declaration overrides (`Schema.IsOverridden`). What is found wrong with a reference of
a field to a type is that no set has the type or that a value is no key of it
(`Database.IsFaulty`), and this is found for each reference that is declared
(`Database.exists_reference?_iff`). The findings follow the types of the fields exactly when no
reference that is overridden is faulty (`Database.findings_follow_types_iff`).
-/

namespace TextRecords

/-- The field and the type of the reference that a defect is found in. -/
def Defect.reference? : Defect → Option (String × String)
  | unknownTarget field type | dangling _ field type => some (field, type)
  | _ => none

namespace Schema

variable {schema : Schema} {field type : String}

/-- A field is declared as a reference to a type, and its last declaration is another one. -/
def IsOverridden (schema : Schema) (field type : String) : Prop :=
  ∃ before between rule behind,
    schema.types = before ++ ⟨field, .reference type⟩ :: (between ++ rule :: behind) ∧
      rule.field = field ∧ rule.type ≠ .reference type ∧ ∀ later ∈ behind, later.field ≠ field

/-- The type of a field is that of its last declaration. -/
theorem fieldType?_eq_some_iff {declared : FieldType} :
    schema.fieldType? field = some declared ↔
      ∃ before behind, schema.types = before ++ ⟨field, declared⟩ :: behind ∧
        ∀ later ∈ behind, later.field ≠ field := by
  have hother : ∀ rule : TypeRule, (!(rule.field == field)) = true ↔ rule.field ≠ field :=
    fun rule => by rw [Bool.not_eq_true', beq_eq_false_iff_ne]
  rw [fieldType?, Option.map_eq_some_iff]
  constructor
  · rintro ⟨rule, hrule, rfl⟩
    obtain ⟨hfield, behind, before, hsplit, hbehind⟩ := List.find?_eq_some_iff_append.1 hrule
    obtain rfl := beq_iff_eq.1 hfield
    have hreversed := congrArg List.reverse hsplit
    rw [List.reverse_reverse, List.reverse_append, List.reverse_cons, List.append_assoc,
      List.singleton_append] at hreversed
    exact ⟨_, _, hreversed, fun later hlater =>
      (hother later).1 (hbehind later (List.mem_reverse.1 hlater))⟩
  · rintro ⟨before, behind, hsplit, hbehind⟩
    refine ⟨⟨field, declared⟩, List.find?_eq_some_iff_append.2
      ⟨BEq.rfl, behind.reverse, before.reverse, ?_, fun later hlater => ?_⟩, rfl⟩
    · rw [hsplit, List.reverse_append, List.reverse_cons, List.append_assoc, List.singleton_append]
    · exact (hother later).2 (hbehind later (List.mem_reverse.1 hlater))

end Schema

/-- What is found in the records of a set is not about references. -/
theorem RecordSet.reference?_of_mem_recordFindings {set : RecordSet} {finding : Finding}
    (h : finding ∈ set.recordFindings) : finding.defect.reference? = none := by
  rw [recordFindings_eq, List.mem_append, List.mem_flatMap] at h
  obtain ⟨⟨record, position⟩, -, hdefects⟩ | hsize := h
  · obtain ⟨defect, hdefect, rfl⟩ := List.mem_map.1 hdefects
    rw [List.mem_append, List.mem_map, Option.mem_toList] at hdefect
    obtain ⟨violation, -, rfl⟩ | hduplicate := hdefect
    · rfl
    · obtain ⟨key, -, hfirst⟩ := Option.bind_eq_some_iff.1 hduplicate
      obtain ⟨first, -, rfl⟩ := Option.map_eq_some_iff.1 hfirst
      rfl
  · obtain ⟨size, -, rfl⟩ := List.mem_map.1 hsize
    rfl

namespace Database

variable {db : Database} {options : CheckOptions} {set : RecordSet} {schema : Schema}
  {field type : String}

/-- The references of a schema are the declarations of fields as references. -/
theorem mem_references_iff :
    (field, type) ∈ references schema ↔ ⟨field, .reference type⟩ ∈ schema.types := by
  rw [references, List.mem_filterMap]
  constructor
  · rintro ⟨⟨name, declared⟩, hmem, hrule⟩
    cases declared with
    | reference target =>
      obtain ⟨rfl, rfl⟩ := Prod.mk.inj (Option.some.inj hrule)
      exact hmem
    | _ => cases hrule
  · exact fun hmem => ⟨_, hmem, rfl⟩

/-- The type that a field is declared to refer to is one of the references of the schema. -/
theorem mem_references_of_fieldType? (h : schema.fieldType? field = some (.reference type)) :
    (field, type) ∈ references schema := by
  obtain ⟨before, behind, hsplit, -⟩ := Schema.fieldType?_eq_some_iff.1 h
  rw [mem_references_iff, hsplit]
  exact List.mem_append_right before List.mem_cons_self

/-- A reference of the schema is overridden unless its field has the type. -/
theorem isOverridden_iff :
    schema.IsOverridden field type ↔
      (field, type) ∈ references schema ∧ schema.fieldType? field ≠ some (.reference type) := by
  constructor
  · rintro ⟨before, between, ⟨name, declared⟩, behind, hsplit, rfl, hdeclared, hbehind⟩
    have hlast : schema.fieldType? name = some declared :=
      Schema.fieldType?_eq_some_iff.2
        ⟨before ++ ⟨name, .reference type⟩ :: between, behind, by
          rw [hsplit, List.append_assoc, List.cons_append], hbehind⟩
    rw [mem_references_iff, hsplit, hlast]
    exact ⟨List.mem_append_right before List.mem_cons_self,
      fun heq => hdeclared (Option.some.inj heq)⟩
  · rintro ⟨hmem, hne⟩
    rw [mem_references_iff] at hmem
    -- The field is declared, so it has the type of its last declaration.
    obtain ⟨declared, hdeclared⟩ : ∃ declared, schema.fieldType? field = some declared := by
      have hfound : (schema.types.reverse.find? (·.field == field)).isSome :=
        List.find?_isSome.2 ⟨_, List.mem_reverse.2 hmem, BEq.rfl⟩
      rwa [← Option.isSome_map, ← Schema.fieldType?, Option.isSome_iff_exists] at hfound
    obtain ⟨before, behind, hsplit, hbehind⟩ := Schema.fieldType?_eq_some_iff.1 hdeclared
    -- The reference stands before the last declaration: it is not that one, and none is behind it.
    rw [hsplit, List.mem_append, List.mem_cons] at hmem
    obtain hmem | heq | hmem := hmem
    · obtain ⟨front, between, rfl⟩ := List.append_of_mem hmem
      refine ⟨front, between, ⟨field, declared⟩, behind, ?_, rfl, fun heq => hne ?_, hbehind⟩
      · rw [hsplit, List.append_assoc, List.cons_append]
      · exact hdeclared.trans (congrArg some heq)
    · exact absurd (hdeclared.trans (congrArg (some ·.type) heq.symm)) hne
    · exact absurd rfl (hbehind _ hmem)

/-- There is a set of a type when one is found for it. -/
theorem isSome_setOfType? (db : Database) (type : String) :
    (db.setOfType? type).isSome = db.hasType type := by
  rw [Bool.eq_iff_iff, setOfType?, List.find?_isSome, hasType, List.any_eq_true]

/-- Some set has the type that a field refers to, with a key, and a value of the field is the key of
none of its records. -/
def Dangles (db : Database) (set : RecordSet) (field type : String) : Prop :=
  ∃ target key, db.setOfType? type = some target ∧ target.schema.key = some key ∧
    ∃ record ∈ set.records, ∃ value ∈ record.values field,
      ∀ referred ∈ target.records, referred.first? key ≠ some value

/-- The check finds that no set has the type that a field refers to, or that a value of the field
leads to no record. It looks for the first when it goes through descriptors or references, for the
second when it goes through references. -/
def IsFaulty (db : Database) (options : CheckOptions) (set : RecordSet) (field type : String) :
    Prop :=
  db.hasType type = false ∧ (options.descriptors = true ∨ options.references = true) ∨
    db.Dangles set field type ∧ options.references = true

/-- In a descriptor, the references are found wrong of which no set has the type. -/
theorem exists_reference?_descriptorFindings :
    (∃ finding ∈ db.descriptorFindings set, finding.defect.reference? = some (field, type)) ↔
      (field, type) ∈ references set.schema ∧ db.hasType type = false := by
  have hunknown : (field, type) ∈ (references set.schema).filter (fun pair => !db.hasType pair.2) ↔
      (field, type) ∈ references set.schema ∧ db.hasType type = false := by
    rw [List.mem_filter, Bool.not_eq_true']
  rw [← hunknown]
  unfold descriptorFindings
  constructor
  · rintro ⟨finding, hfinding, hreference⟩
    obtain ⟨defect, hdefect, rfl⟩ := List.mem_map.1 hfinding
    rw [List.mem_append, List.mem_append, List.mem_map, List.mem_map, List.mem_map] at hdefect
    obtain (⟨problem, -, rfl⟩ | ⟨name, -, rfl⟩) | ⟨pair, hpair, rfl⟩ := hdefect
    · cases hreference
    · cases hreference
    · rwa [← Option.some.inj hreference]
  · intro hmem
    exact ⟨_, List.mem_map_of_mem (List.mem_append_right _ (List.mem_map_of_mem hmem)), rfl⟩

/-- A value is not among the keys of records when none of them has it as its key. -/
theorem not_contains_first?_iff {records : List Record} {key value : String} :
    (!(records.filterMap (·.first? key)).contains value) = true ↔
      ∀ record ∈ records, record.first? key ≠ some value := by
  rw [Bool.not_eq_true', ← Bool.not_eq_true, List.contains_iff_mem, List.mem_filterMap]
  exact not_exists.trans (forall_congr' fun record => not_and)

/-- What is found about the references of a field to a type is that no set has the type, unless this
is found with the descriptors, or that a value leads to no record. -/
theorem exists_reference?_referenceFindings {name target : String} :
    (∃ finding ∈ db.referenceFindings options set name target,
      finding.defect.reference? = some (field, type)) ↔
      (name, target) = (field, type) ∧
        (db.hasType type = false ∧ options.descriptors = false ∨ db.Dangles set field type) := by
  unfold referenceFindings
  constructor
  · rintro ⟨finding, hfinding, hreference⟩
    split at hfinding
    · next hnone =>
      split at hfinding
      · cases hfinding
      · next hdescriptors =>
        obtain rfl := List.mem_singleton.1 hfinding
        obtain ⟨rfl, rfl⟩ := Prod.mk.inj (Option.some.inj hreference)
        rw [Bool.not_eq_true] at hdescriptors
        exact ⟨rfl, .inl ⟨by rw [← isSome_setOfType?, hnone]; rfl, hdescriptors⟩⟩
    · next referred htarget =>
      split at hfinding
      · obtain rfl := List.mem_singleton.1 hfinding
        cases hreference
      · next key hkey =>
        obtain ⟨⟨record, position⟩, hrecord, hvalues⟩ := List.mem_flatMap.1 hfinding
        obtain ⟨value, hvalue, rfl⟩ := List.mem_map.1 hvalues
        obtain ⟨rfl, rfl⟩ := Prod.mk.inj (Option.some.inj hreference)
        obtain ⟨hvalue, hunknown⟩ := List.mem_filter.1 hvalue
        exact ⟨rfl, .inr ⟨referred, key, htarget, hkey, record,
          List.fst_mem_of_mem_zipIdx hrecord, value, hvalue,
          not_contains_first?_iff.1 hunknown⟩⟩
  · rintro ⟨heq, hfaulty⟩
    obtain ⟨rfl, rfl⟩ := Prod.mk.inj heq
    obtain ⟨hnone, hdescriptors⟩ | ⟨referred, key, htarget, hkey, hdangling⟩ := hfaulty
    · rw [← isSome_setOfType?, Option.isSome_eq_false_iff, Option.isNone_iff_eq_none] at hnone
      rw [hnone, hdescriptors]
      exact ⟨_, List.mem_singleton_self _, rfl⟩
    · obtain ⟨record, hrecord, value, hvalue, hunknown⟩ := hdangling
      obtain ⟨position, hposition⟩ := List.mem_iff_getElem?.1 hrecord
      simp only [htarget, hkey]
      exact ⟨_, List.mem_flatMap.2 ⟨(record, position), List.mem_zipIdx_iff_getElem?.2 hposition,
        List.mem_map_of_mem (List.mem_filter.2
          ⟨hvalue, not_contains_first?_iff.2 hunknown⟩)⟩, rfl⟩

/-- The check finds those references of a set wrong that are declared and faulty. -/
theorem exists_reference?_iff :
    (∃ finding ∈ db.findingsIn options set, finding.defect.reference? = some (field, type)) ↔
      (field, type) ∈ references set.schema ∧ db.IsFaulty options set field type := by
  have hrecords : ¬∃ finding ∈ set.recordFindings,
      finding.defect.reference? = some (field, type) := by
    rintro ⟨finding, hfinding, hreference⟩
    rw [RecordSet.reference?_of_mem_recordFindings hfinding] at hreference
    cases hreference
  have hdeclared : (∃ finding ∈ (references set.schema).flatMap fun pair =>
        db.referenceFindings options set pair.1 pair.2,
      finding.defect.reference? = some (field, type)) ↔
        (field, type) ∈ references set.schema ∧
          (db.hasType type = false ∧ options.descriptors = false ∨ db.Dangles set field type) := by
    constructor
    · rintro ⟨finding, hfinding, hreference⟩
      obtain ⟨⟨name, target⟩, hmem, hfinding⟩ := List.mem_flatMap.1 hfinding
      obtain ⟨heq, hfaulty⟩ :=
        exists_reference?_referenceFindings.1 ⟨finding, hfinding, hreference⟩
      exact ⟨heq ▸ hmem, hfaulty⟩
    · rintro ⟨hmem, hfaulty⟩
      obtain ⟨finding, hfinding, hreference⟩ :=
        exists_reference?_referenceFindings.2 ⟨rfl, hfaulty⟩
      exact ⟨finding, List.mem_flatMap.2 ⟨_, hmem, hfinding⟩, hreference⟩
  unfold findingsIn IsFaulty
  simp only [List.mem_append, or_and_right, exists_or, List.mem_ite_nil_right, and_assoc,
    exists_and_left, exists_reference?_descriptorFindings, hdeclared, hrecords, or_false]
  -- A type that no set has is found with the descriptors if these are checked, else with the
  -- references.
  cases options.descriptors <;> tauto

/-- The findings about references follow the types of the fields exactly when no reference that a
later declaration overrides is faulty. -/
theorem findings_follow_types_iff (db : Database) (options : CheckOptions) :
    (∀ set ∈ db.sets, ∀ finding ∈ db.findingsIn options set, ∀ field type,
      finding.defect.reference? = some (field, type) →
        set.schema.fieldType? field = some (.reference type)) ↔
      ∀ set ∈ db.sets, ∀ field type, set.schema.IsOverridden field type →
        ¬db.IsFaulty options set field type := by
  refine forall_congr' fun set => imp_congr_right fun _ => ?_
  constructor
  · intro h field type hoverridden hfaulty
    rw [isOverridden_iff] at hoverridden
    obtain ⟨finding, hfinding, hreference⟩ := exists_reference?_iff.2 ⟨hoverridden.1, hfaulty⟩
    exact hoverridden.2 (h finding hfinding field type hreference)
  · intro h finding hfinding field type hreference
    obtain ⟨hmem, hfaulty⟩ := exists_reference?_iff.1 ⟨finding, hfinding, hreference⟩
    by_contra hne
    exact h field type (isOverridden_iff.2 ⟨hmem, hne⟩) hfaulty

/-- A value is found to lead to no record although its field is, by its last declaration, a line of
text. -/
theorem findings_of_overridden :
    let book : RecordSet :=
      { descriptor := some ⟨[.field ⟨"%rec", "Book"⟩, .field ⟨"%type", "author rec Author"⟩,
          .field ⟨"%type", "author line"⟩], none⟩
        entries := [.record ⟨[.field ⟨"author", "nobody"⟩], none⟩] }
    let author : RecordSet :=
      { descriptor := some ⟨[.field ⟨"%rec", "Author"⟩, .field ⟨"%key", "id"⟩], none⟩
        entries := [.record ⟨[.field ⟨"id", "a1"⟩], none⟩] }
    let db : Database := { sets := [book, author] }
    book ∈ db.sets ∧ book.schema.fieldType? "author" = some .line ∧
      ∃ finding ∈ db.findingsIn { references := true } book,
        finding.defect = .dangling "nobody" "author" "Author" := by
  intro book author db
  have hfindings : db.findingsIn { references := true } book =
      [⟨some "Book", some 0, none, .dangling "nobody" "author" "Author"⟩] := by decide +kernel
  exact ⟨List.mem_cons_self, by rfl, _, hfindings ▸ List.mem_singleton_self _, rfl⟩

end Database

end TextRecords
