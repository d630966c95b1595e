import TextRecords.Proofs.Database.FieldsInText
import TextRecords.Proofs.Number.Integer
import TextRecords.Proofs.Record.Fields
import TextRecords.Proofs.Schema.Automatic

/-!
# What an insertion leaves in the text

An insertion that succeeds puts the record, completed by its automatic fields, into the set of its
filter (`Insertion.eq_of_intoSet`), or into an untyped set that it creates in a database without
sets (`Database.insert_cases`). A record that may be inserted and is read back from its lines stays
so with automatic fields in front, unless the first of these declares a type
(`RecordSet.isData_completed_iff`).

So an insertion leaves a database that is read back from its text, if it was before, with two
exceptions (`Database.isStable_insert_iff`): the comments of a database without sets would be read
as comments of the new set, and a record that starts with the declaration of a type as a descriptor.
-/

namespace TextRecords

/-- A source of values of which no line ends in a carriage return. -/
structure Generator.IsPlain (generator : Generator) : Prop where
  uuid : ∀ number, Text.NoReturnEnds (generator.uuid number).toList
  now : ∀ number, Text.NoReturnEnds (generator.now.time number).toList

/-- A record that may be inserted has fields, all of them with field names that belong to no
descriptor. -/
theorem Record.fields_of_insertionFault? {record : Record} (h : record.insertionFault? = none) :
    record.fields ≠ [] ∧ ∀ field ∈ record.fields, field.isNamed = true ∧ field.isMeta = false := by
  unfold insertionFault? at h
  split at h
  · cases h
  · next hne =>
    refine ⟨fun hnil => hne (List.isEmpty_iff.2 hnil), fun field hfield => ?_⟩
    have hfind := List.find?_eq_none.1 (Option.map_eq_none_iff.1 h) field hfield
    simpa using hfind

/-- A field that belongs to no descriptor does not declare a type. -/
theorem Field.name_ne_typeMarker {field : Field} (h : field.isMeta = false) :
    field.name ≠ Document.typeMarker := by
  intro hname
  rw [isMeta, hname] at h
  exact absurd h (by decide)

namespace RecordSet

variable {set : RecordSet} {generator : Generator} {record : Record}

/-- A record with the automatic fields that it lacks in front of its own. -/
def completed (set : RecordSet) (generator : Generator) (record : Record) : Record :=
  { record with items := (set.generatedFields generator record).map Item.field ++ record.items }

/-- The fields of a completed record. -/
theorem fields_completed :
    (set.completed generator record).fields =
      set.generatedFields generator record ++ record.fields := by
  rw [Record.fields, completed, List.filterMap_append, Item.filterMap_field?_map, Record.fields]

/-- An insertion that succeeds puts the completed record into the set and reports one change. -/
theorem insertGenerated_eq_ok {position : Option Nat} {report : Report} {next : RecordSet}
    (h : set.insertGenerated generator record position = (.ok report, next)) :
    report = ⟨1, []⟩ ∧ next = set.insertBefore position (set.completed generator record) := by
  rw [insertGenerated, Batch.insert] at h
  cases hobjection : (Batch.start set).insertionObjection? (set.completed generator record) with
  | some objection =>
    rw [completed] at hobjection
    rw [hobjection] at h
    cases (Prod.mk.inj h).1
  | none =>
    rw [completed] at hobjection
    rw [hobjection] at h
    obtain ⟨hreport, hnext⟩ := Prod.mk.inj h
    rw [← Except.ok.inj hreport, ← hnext]
    exact ⟨congrArg (Report.mk 1) List.mergeSort_nil, rfl⟩

/-- A plain source generates fields that are read back from their lines. -/
theorem isCanonical_of_mem_generatedFields (hgenerator : generator.IsPlain) {field : Field}
    (h : field ∈ set.generatedFields generator record) : (Item.field field).IsCanonical := by
  obtain ⟨⟨name, number⟩, hpair, hfield⟩ := List.mem_filterMap.1 h
  have hauto : name ∈ set.schema.auto := by
    obtain ⟨-, -, hname⟩ := List.mem_zipIdx hpair
    exact List.mem_of_mem_filter (hname ▸ List.getElem_mem _)
  have hname : isFieldName name.toList = true := by
    rw [schema] at hauto
    split at hauto
    · exact Schema.isFieldName_of_mem_auto hauto
    · exact absurd hauto List.not_mem_nil
  dsimp only at hfield
  unfold generated? at hfield
  split at hfield
  · obtain rfl := Option.some.inj hfield
    exact ⟨hname, hgenerator.uuid number⟩
  · obtain rfl := Option.some.inj hfield
    exact ⟨hname, hgenerator.now number⟩
  · split at hfield
    · obtain rfl := Option.some.inj hfield
      exact ⟨hname, Text.noReturnEnds_of_notMem (Number.return_notMem_toString _)⟩
    · cases hfield
  · cases hfield

/-- The automatic fields in front of a record that may be inserted make it a descriptor exactly when
the first of them declares a type. -/
theorem isData_completed_iff (h : record.insertionFault? = none) :
    (set.completed generator record).isData = true ↔
      ∀ field ∈ (set.generatedFields generator record).head?, field.name ≠ Document.typeMarker := by
  obtain ⟨hne, hfields⟩ := record.fields_of_insertionFault? h
  rw [Record.isData, fields_completed]
  cases set.generatedFields generator record with
  | nil =>
    obtain ⟨first, rest, hcons⟩ := List.exists_cons_of_ne_nil hne
    have hfirst := hfields first (hcons ▸ List.mem_cons_self)
    rw [List.nil_append, hcons, List.head?_cons, Option.any_some, bne_iff_ne]
    exact ⟨fun _ field hfield => absurd hfield (Option.not_mem_none field),
      fun _ => Field.name_ne_typeMarker hfirst.2⟩
  | cons first rest =>
    rw [List.cons_append, List.head?_cons, Option.any_some, bne_iff_ne, List.head?_cons]
    exact ⟨fun hname field hfield => Option.some.inj hfield ▸ hname, fun hall => hall first rfl⟩

/-- A record that may be inserted and is read back from its lines stays so when it is completed,
except for its first field. -/
theorem isCanonicalPart_completed (hgenerator : generator.IsPlain)
    (h : record.insertionFault? = none) (hapart : record.items.IsChain (Item.apart · · = true))
    (hwithin : ∀ item ∈ record.items, item.Within 0) :
    Document.IsCanonicalPart (set.completed generator record).items where
  ne_nil := by
    intro hnil
    have hfields : (set.completed generator record).fields = [] := by rw [Record.fields, hnil]; rfl
    rw [fields_completed, List.append_eq_nil_iff] at hfields
    exact (record.fields_of_insertionFault? h).1 hfields.2
  canonical := by
    intro item hitem
    rcases List.mem_append.1 hitem with hgenerated | hown
    · obtain ⟨field, hfield, rfl⟩ := List.mem_map.1 hgenerated
      exact isCanonical_of_mem_generatedFields hgenerator hfield
    · refine Item.isCanonical_iff.2 ⟨?_, hwithin item hown⟩
      cases item with
      | comment text => rfl
      | field field =>
        have hfield : field ∈ record.fields := List.mem_filterMap.2 ⟨_, hown, rfl⟩
        exact ((record.fields_of_insertionFault? h).2 field hfield).1
  apart := by
    have hbefore : ∀ field : Field, ∀ after : Item, (Item.field field).apart after = true :=
      fun _ _ => rfl
    rw [completed, List.isChain_append]
    refine ⟨List.Pairwise.isChain (List.pairwise_map.2 ?_), hapart, fun before hmem after _ => ?_⟩
    · exact List.pairwise_of_forall fun field other => hbefore field (.field other)
    · obtain ⟨field, -, rfl⟩ := List.mem_map.1 (List.mem_of_mem_getLast? hmem)
      exact hbefore field after

/-- An entry of a set with a record inserted is that record or one from before. -/
theorem mem_entries_insertBefore {position : Option Nat} {entry : Entry}
    (h : entry ∈ (set.insertBefore position record).entries) :
    entry ∈ set.entries ∨ entry = .record record := by
  have hpush : entry ∈ (set.push (.record record)).entries →
      entry ∈ set.entries ∨ entry = .record record := by
    intro hmem
    rwa [push, List.mem_append, List.mem_singleton] at hmem
  cases position with
  | none => exact hpush h
  | some position =>
    rw [insertBefore, insertAt] at h
    split at h
    · rcases Entry.mem_substitute h with hold | ⟨next, hnext, hmem⟩
      · exact .inl hold
      · rcases List.mem_cons.1 hmem with rfl | hmem
        · exact .inr rfl
        · rw [List.mem_singleton.1 hmem]
          exact .inl hnext
    · exact hpush h

/-- The inserted record is one of the set afterwards. -/
theorem mem_records_insertBefore (position : Option Nat) :
    record ∈ (set.insertBefore position record).records := by
  rw [records_insertBefore, List.mem_append]
  exact .inr List.mem_cons_self

/-- A canonical set with a record inserted that is read back from its lines is canonical exactly
when the record is none of a descriptor. -/
theorem IsCanonical.insertBefore_iff (h : set.IsCanonical)
    (hpart : Document.IsCanonicalPart record.items) (position : Option Nat) :
    (set.insertBefore position record).IsCanonical ↔ record.isData = true := by
  constructor
  · exact fun hnext => (hnext.records record (mem_records_insertBefore position)).2
  · intro hdata
    refine ⟨?_, fun other hother => ?_, fun text htext => ?_⟩
    · rw [descriptor_insertBefore]
      exact h.descriptor
    · rcases mem_entries_insertBefore (mem_records_iff.1 hother) with hold | hnew
      · exact h.records other (mem_records_iff.2 hold)
      · obtain rfl := Entry.record.inj hnew
        exact ⟨hpart, hdata⟩
    · rcases mem_entries_insertBefore (mem_comments_iff.1 htext) with hold | hnew
      · exact h.comments text (mem_comments_iff.2 hold)
      · cases hnew

/-- A canonical set with a completed record inserted is canonical exactly when the first automatic
field of the record, if it gets any, does not declare a type. -/
theorem IsCanonical.insertBefore_completed_iff (h : set.IsCanonical)
    (hgenerator : generator.IsPlain) (hfault : record.insertionFault? = none)
    (hapart : record.items.IsChain (Item.apart · · = true))
    (hwithin : ∀ item ∈ record.items, item.Within 0) (position : Option Nat) :
    (set.insertBefore position (set.completed generator record)).IsCanonical ↔
      ∀ field ∈ (set.generatedFields generator record).head?, field.name ≠ Document.typeMarker := by
  rw [← isData_completed_iff hfault]
  exact h.insertBefore_iff (isCanonicalPart_completed hgenerator hfault hapart hwithin) position

end RecordSet

/-- An insertion into a set that succeeds and replaces nothing changes one record: it puts the
completed one into the set. -/
theorem Insertion.eq_of_intoSet {insertion : Insertion} {sampler : Sampler} {generator : Generator}
    {set next : RecordSet} {report : Report}
    (h : insertion.intoSet sampler generator set = (.ok report, next))
    (hinserts : insertion.replaces = false ∨ insertion.filter.isUnrestricted = true) :
    report.changed = 1 ∧ ∃ position,
      next = set.insertBefore position (set.completed generator insertion.record) := by
  unfold intoSet at h
  split at h
  · obtain ⟨hreport, hnext⟩ := RecordSet.insertGenerated_eq_ok h
    exact ⟨congrArg Report.changed hreport, none, hnext⟩
  · next hrestricted =>
    have hreplaces : insertion.replaces = false := hinserts.resolve_right hrestricted
    rw [hreplaces] at h
    obtain ⟨hreport, hnext⟩ := RecordSet.insertGenerated_eq_ok h
    exact ⟨congrArg Report.changed hreport, _, hnext⟩

namespace Database

variable {db after : Database} {sampler : Sampler} {generator : Generator} {insertion : Insertion}
  {report : Report}

/-- An insertion that succeeds, of a record that may be inserted, creates the untyped set in a
database without sets. In any other it goes into the set of its filter. -/
theorem insert_cases (h : db.insert sampler generator insertion = ⟨.ok report, after⟩) :
    insertion.record.insertionFault? = none ∧
      ((db.sets = [] ∧ insertion.filter.type = none ∧ ∃ next,
        insertion.intoSet sampler generator {} = (.ok report, next) ∧
        after = ⟨db.prologue, [next]⟩) ∨
      ∃ position set next, db.resolve insertion.filter.type = .ok (some position) ∧
        db.set? position = some set ∧
        insertion.intoSet sampler generator set = (.ok report, next) ∧
        after = db.replaceSet position next) := by
  rw [insert] at h
  cases hfault : insertion.record.insertionFault? with
  | some fault =>
    rw [hfault] at h
    cases (Outcome.mk.inj h).1
  | none =>
    rw [hfault] at h
    dsimp only at h
    refine ⟨rfl, ?_⟩
    by_cases hempty : db.sets = [] ∧ insertion.filter.type = none
    · obtain ⟨hsets, htype⟩ := hempty
      rw [withUntypedSet_of_isEmpty hsets htype, updateTarget_untyped _ htype] at h
      obtain ⟨hreport, hafter⟩ := Outcome.mk.inj h
      exact .inl ⟨hsets, htype, _, Prod.ext hreport rfl, hafter.symm⟩
    · rw [withUntypedSet_of_not hempty] at h
      rcases updateTarget_eq_ok h with ⟨hsets, -, -⟩ | hset
      · -- A type that is asked for is not found among no sets, and no type makes the set.
        cases htype : insertion.filter.type with
        | none => exact absurd ⟨hsets, htype⟩ hempty
        | some type =>
          have herror : db.resolve (some type) = .error (.unknownType type) := by
            rw [resolve, typePosition?, hsets, List.findIdx?_nil]
          rw [updateTarget, htype, herror] at h
          cases (Outcome.mk.inj h).1
      · exact .inr hset

/-- A canonical set without a descriptor that has records makes a canonical database by itself
exactly when no comments precede it. -/
theorem isCanonical_singleton_iff {set : RecordSet} (hset : set.IsCanonical)
    (hnone : set.descriptor = none) (hrecords : set.records ≠ []) (prologue : List String) :
    Database.IsCanonical ⟨prologue, [set]⟩ ↔ prologue = [] := by
  constructor
  · exact fun h => (h.untyped set rfl hnone).2
  · rintro rfl
    have hassembled := isAssembled_of_records hset.isAssembled hnone hrecords
    exact ⟨List.forall_mem_nil _, List.forall_mem_singleton.2 hset, hassembled.types,
      hassembled.untypedFirst, hassembled.untyped⟩

/-- A record without comments that run together and without carriage returns at the end of a line
is inserted. Then a database is read back from its text, if it was before, exactly when it had sets
or no comments, and the first automatic field of the record, if it gets any, does not declare a
type. -/
theorem isStable_insert_iff (hstable : db.IsStable) (hgenerator : generator.IsPlain)
    (hinserts : insertion.replaces = false)
    (hapart : insertion.record.items.IsChain (Item.apart · · = true))
    (hwithin : ∀ item ∈ insertion.record.items, item.Within 0)
    (h : db.insert sampler generator insertion = ⟨.ok report, after⟩) :
    after.IsStable ↔
      (db.sets = [] → db.prologue = []) ∧
      ∀ position set, db.resolve insertion.filter.type = .ok (some position) →
        db.set? position = some set →
        ∀ field ∈ (set.generatedFields generator insertion.record).head?,
          field.name ≠ Document.typeMarker := by
  have hcanonical := isStable_iff_isCanonical.1 hstable
  rw [isStable_iff_isCanonical]
  obtain ⟨hfault, ⟨hsets, htype, next, hinto, rfl⟩ |
    ⟨position, set, next, hresolve, hset, hinto, rfl⟩⟩ := insert_cases h
  · obtain ⟨-, place, rfl⟩ := Insertion.eq_of_intoSet hinto (.inl hinserts)
    -- The new set declares nothing, so it holds the record as it is.
    have hempty : ({} : RecordSet).IsCanonical := by decide
    have hnext := (hempty.insertBefore_completed_iff hgenerator hfault hapart hwithin place).2
      fun field hfield => absurd hfield (Option.not_mem_none field)
    rw [isCanonical_singleton_iff hnext (RecordSet.descriptor_insertBefore place _)
      (List.ne_nil_of_mem (RecordSet.mem_records_insertBefore place))]
    refine ⟨fun hprologue => ⟨fun _ => hprologue, fun position set _ hset => ?_⟩,
      fun h => h.1 hsets⟩
    rw [set?, hsets] at hset
    cases hset
  · obtain ⟨-, place, rfl⟩ := Insertion.eq_of_intoSet hinto (.inl hinserts)
    have hmem : set ∈ db.sets := List.mem_of_getElem? hset
    rw [hcanonical.replaceSet_iff hset (RecordSet.descriptor_insertBefore place _)
      fun _ => List.ne_nil_of_mem (RecordSet.mem_records_insertBefore place),
      (hcanonical.sets set hmem).insertBefore_completed_iff hgenerator hfault hapart hwithin]
    refine ⟨fun hfirst => ⟨fun hsets => ?_, fun other found hother hfound => ?_⟩,
      fun h => h.2 position set hresolve hset⟩
    · rw [hsets] at hmem
      exact absurd hmem List.not_mem_nil
    · obtain rfl : position = other := Option.some.inj (Except.ok.inj (hresolve.symm.trans hother))
      obtain rfl : set = found := Option.some.inj (hset.symm.trans hfound)
      exact hfirst

/-- A set whose records are numbered, with a comment before it and one behind its record. -/
def numberedSpecimen : Database where
  prologue := ["all of it"]
  sets :=
    [{ descriptor := some ⟨[.field ⟨"%rec", "T"⟩, .field ⟨"%type", "Id int"⟩,
        .field ⟨"%auto", "Id"⟩], none⟩
       entries := [.record ⟨[.field ⟨"Id", "7"⟩], none⟩, .comment "the end"] }]

/-- A record that is inserted before the first one gets the next number, and is read back. -/
theorem isStable_insert_iff_numberedSpecimen :
    let generator : Generator := ⟨fun _ => "", ""⟩
    let record : Record := ⟨[.comment "new", .field ⟨"Name", "x"⟩], none⟩
    let insertion : Insertion := { filter := { position := some 0 }, record }
    let outcome := numberedSpecimen.insert .first generator insertion
    numberedSpecimen.IsStable ∧ generator.IsPlain ∧ insertion.replaces = false ∧
      record.items.IsChain (Item.apart · · = true) ∧ (∀ item ∈ record.items, item.Within 0) ∧
      outcome.result = .ok ⟨1, []⟩ ∧
      outcome.database.sets.map RecordSet.records =
        [[⟨.field ⟨"Id", "8"⟩ :: record.items, none⟩, ⟨[.field ⟨"Id", "7"⟩], none⟩]] ∧
      outcome.database.IsStable := by
  intro generator record insertion outcome
  have hstable : numberedSpecimen.IsStable := isStable_iff_isCanonical.2 (by decide)
  have hempty : Text.NoReturnEnds "".toList := by decide
  have hgenerator : generator.IsPlain := ⟨fun _ => hempty, fun _ => hempty⟩
  have hapart : record.items.IsChain (Item.apart · · = true) := by decide
  have hcanonical : ∀ item ∈ record.items, item.IsCanonical := by decide
  have hwithin : ∀ item ∈ record.items, item.Within 0 :=
    fun item hitem => (Item.isCanonical_iff.1 (hcanonical item hitem)).2
  have hresult : outcome.result = .ok ⟨1, []⟩ := toOption_eq_some_iff.1 (by decide +kernel)
  have houtcome : outcome = ⟨.ok ⟨1, []⟩, outcome.database⟩ := by rw [← hresult]
  have hiff := isStable_insert_iff hstable hgenerator rfl hapart hwithin houtcome
  have hresolve : numberedSpecimen.resolve none = .ok (some 0) :=
    toOption_eq_some_iff.1 (by decide +kernel)
  refine ⟨hstable, hgenerator, rfl, hapart, hwithin, hresult, by decide +kernel, hiff.2 ⟨nofun, ?_⟩⟩
  intro position set hposition hset field hfield
  obtain rfl : 0 = position := Option.some.inj (Except.ok.inj (hresolve.symm.trans hposition))
  obtain rfl : numberedSpecimen.sets.headD {} = set := Option.some.inj hset
  have hfields : (numberedSpecimen.sets.headD {}).generatedFields generator record =
      [⟨"Id", "8"⟩] := by decide +kernel
  rw [hfields] at hfield
  obtain rfl : ⟨"Id", "8"⟩ = field := Option.some.inj hfield
  decide

/-- The comments of a database without sets are read as comments of the set that the first record
makes. -/
theorem not_isStable_insertedBehindPrologue :
    let db : Database := { prologue := [" c"] }
    let generator : Generator := ⟨fun _ => "", ""⟩
    let record : Record := ⟨[.field ⟨"a", "1"⟩], none⟩
    let outcome := db.insert .first generator { record }
    db.IsStable ∧ generator.IsPlain ∧ record.IsAssembled ∧
      (∀ item ∈ record.items, item.IsCanonical) ∧
      outcome.result = .ok ⟨1, []⟩ ∧
      outcome.database = ⟨[" c"], [{ entries := [.record record] }]⟩ ∧
      ¬ outcome.database.IsStable := by
  intro db generator record outcome
  have hempty : Text.NoReturnEnds "".toList := by decide
  have hafter : outcome.database = ⟨[" c"], [{ entries := [.record record] }]⟩ := by
    decide +kernel
  refine ⟨isStable_iff_isCanonical.2 (by decide), ⟨fun _ => hempty, fun _ => hempty⟩, by decide,
    by decide, toOption_eq_some_iff.1 (by decide +kernel), hafter, ?_⟩
  rw [hafter, isStable_iff_isCanonical]
  decide

end Database

end TextRecords
