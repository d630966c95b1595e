import TextRecords.Proofs.Database.References
import TextRecords.Proofs.Query.Stages
import TextRecords.Proofs.Record.Fields

/-!
# Checked references are followed

When the check of references finds nothing in a database, every value of a field that is declared as
a reference is the key of a record (`Database.exists_target_of_findings`). The check goes through
all declarations and all values, and a join regards the last declaration and the first value alone,
so a join by the field is prepared and leads to a record wherever there is a reference
(`Database.prepare_of_findings`).

A query that joins by such a field then finds one record for each one that it matches and that has
the field, and drops none as dangling (`Database.query_follows_checked_references`). Only sorting
them can fail, when there are many and their order is not transitive (`Query.CanSort`). A query for
the descriptor alone joins nothing: it finds no records, also where there are references to follow
(`Database.query_descriptorOnly_not_joined`).
-/

namespace TextRecords

namespace Join

variable {join : Join} {record : Record}

/-- A record joined with the one that it refers to, or as it is if it refers to none. -/
def followed (join : Join) (record : Record) : Record :=
  (join.apply record).record?.getD record

/-- A record without the field of a join has no reference. -/
theorem apply_of_not_has (h : record.has join.field = false) :
    join.apply record = .noReference := by
  rw [← Record.isSome_first?, Option.isSome_eq_false_iff, Option.isNone_iff_eq_none] at h
  rw [apply, h]

/-- A record whose values of the field of a join are all keys is merged if it has the field. -/
theorem apply_of_has (h : record.has join.field = true)
    (htarget : ∀ value ∈ record.values join.field, (join.target? value).isSome) :
    join.apply record = .merged (join.followed record) := by
  -- The join follows the first value of the field, which is one of its values.
  rw [← Record.isSome_first?] at h
  obtain ⟨value, hvalue⟩ := Option.isSome_iff_exists.1 h
  obtain ⟨target, htarget⟩ :=
    Option.isSome_iff_exists.1 (htarget value (Record.mem_values_iff.2 (.inl hvalue)))
  simp only [followed, apply, hvalue, htarget, Joined.record?, Option.getD_some]

/-- Records whose references are all keys are joined where they have references, and none of them
dangles. -/
theorem map_apply {records : List Record}
    (htarget : ∀ record ∈ records, ∀ value ∈ record.values join.field,
      (join.target? value).isSome) :
    (records.map join.apply).filterMap Joined.record? =
        (records.filter (·.has join.field)).map join.followed ∧
      (records.map join.apply).count .dangling = 0 := by
  induction records with
  | nil => exact ⟨rfl, rfl⟩
  | cons record rest ih =>
    rw [List.forall_mem_cons] at htarget
    obtain ⟨hmerged, hcount⟩ := ih htarget.2
    cases hhas : record.has join.field with
    | false =>
      have hrecord : (join.apply record).record? = none := by rw [apply_of_not_has hhas]; rfl
      have hdangling : join.apply record ≠ .dangling := by rw [apply_of_not_has hhas]; exact nofun
      rw [List.map_cons, List.filterMap_cons_none hrecord, List.count_cons_of_ne hdangling,
        List.filter_cons_of_neg (by simp [hhas])]
      exact ⟨hmerged, hcount⟩
    | true =>
      have hrecord : (join.apply record).record? = some (join.followed record) := by
        rw [apply_of_has hhas htarget.1]
        rfl
      have hdangling : join.apply record ≠ .dangling := by
        rw [apply_of_has hhas htarget.1]
        exact nofun
      have hkept : (record :: rest).filter (·.has join.field) =
          record :: rest.filter (·.has join.field) := List.filter_cons_of_pos hhas
      rw [List.map_cons, List.filterMap_cons_some hrecord, List.count_cons_of_ne hdangling, hkept,
        List.map_cons, hmerged]
      exact ⟨rfl, hcount⟩

end Join

namespace Database

variable {db : Database} {options : CheckOptions} {set : RecordSet} {field type : String}

/-- When nothing is found about the references in a field, the type that they lead to has a key. -/
theorem exists_key_of_referenceFindings {target : RecordSet}
    (h : db.referenceFindings options set field type = [])
    (htarget : db.setOfType? type = some target) : ∃ key, target.schema.key = some key := by
  simp only [referenceFindings, htarget] at h
  split at h
  · cases h
  · next key hkey => exact ⟨key, hkey⟩

/-- When no reference is found wrong, the type that a field refers to has a set with a key, and the
values of the field are keys of its records. -/
theorem exists_target_of_findings (hreferences : options.references = true)
    (hclean : db.findings options = []) (hset : set ∈ db.sets)
    (htype : set.schema.fieldType? field = some (.reference type)) :
    ∃ target key, db.setOfType? type = some target ∧ target.schema.key = some key ∧
      ∀ record ∈ set.records, ∀ value ∈ record.values field,
        ∃ referred ∈ target.records, referred.first? key = some value := by
  have hmem := mem_references_of_fieldType? htype
  have hfindings : db.findingsIn options set = [] := List.flatMap_eq_nil_iff.1 hclean set hset
  have hsound : ¬db.IsFaulty options set field type := fun hfaulty => by
    obtain ⟨finding, hfinding, -⟩ := exists_reference?_iff.2 ⟨hmem, hfaulty⟩
    exact absurd (hfindings ▸ hfinding) List.not_mem_nil
  rw [IsFaulty, not_or] at hsound
  have hsome : (db.setOfType? type).isSome := by
    by_contra hnone
    rw [isSome_setOfType?, Bool.not_eq_true] at hnone
    exact hsound.1 ⟨hnone, .inr hreferences⟩
  obtain ⟨target, htarget⟩ := Option.isSome_iff_exists.1 hsome
  rw [findingsIn, List.append_eq_nil_iff, if_pos hreferences, List.flatMap_eq_nil_iff] at hfindings
  obtain ⟨key, hkey⟩ := exists_key_of_referenceFindings (hfindings.2 (field, type) hmem) htarget
  refine ⟨target, key, htarget, hkey, fun record hrecord value hvalue => ?_⟩
  by_contra hdangling
  have hnone : ∀ referred ∈ target.records, referred.first? key ≠ some value :=
    fun referred hreferred hfirst => hdangling ⟨referred, hreferred, hfirst⟩
  exact hsound.2 ⟨⟨target, key, htarget, hkey, record, hrecord, value, hvalue, hnone⟩, hreferences⟩

/-- When no reference is found wrong, the join by a field that is declared as a reference is
prepared, and it leads to a record from every value of the field. -/
theorem prepare_of_findings (hreferences : options.references = true)
    (hclean : db.findings options = []) (hset : set ∈ db.sets)
    (htype : set.schema.fieldType? field = some (.reference type)) (showsConfidential : Bool) :
    ∃ join, Join.prepare db set field showsConfidential = .ok join ∧ join.field = field ∧
      ∀ record ∈ set.records, ∀ value ∈ record.values field, (join.target? value).isSome := by
  obtain ⟨target, key, htarget, hkey, hvalues⟩ :=
    exists_target_of_findings hreferences hclean hset htype
  refine ⟨_, Join.prepare_eq_ok htype htarget hkey showsConfidential, rfl,
    fun record hrecord value hvalue => ?_⟩
  obtain ⟨referred, hreferred, hfirst⟩ := hvalues record hrecord value hvalue
  exact List.find?_isSome.2 ⟨referred, hreferred, beq_iff_eq.2 hfirst⟩

end Database

namespace Query

variable {query : Query} {db : Database} {set : RecordSet}

/-- The records of a set that the filter of a query picks. -/
def matched (query : Query) (set : RecordSet) : List Record :=
  (query.filter.matching set).filterMap set.record?

/-- What a filter picks are records of the set. -/
theorem mem_records_of_mem_matched {record : Record} (h : record ∈ query.matched set) :
    record ∈ set.records := by
  obtain ⟨position, -, hrecord⟩ := List.mem_filterMap.1 h
  exact List.mem_of_getElem? hrecord

/-- A join that leads to a record from every reference keeps the records with references and drops
none of them as dangling. -/
theorem joined_of_prepare {field : String} {join : Join} {records : List Record}
    (hjoin : query.join = some field)
    (hprepare : Join.prepare db set field query.password.isSome = .ok join)
    (hfield : join.field = field)
    (htarget : ∀ record ∈ records, ∀ value ∈ record.values field, (join.target? value).isSome) :
    query.joined db set records =
      .ok ((records.filter (·.has field)).map join.followed, 0) := by
  subst hfield
  obtain ⟨hmerged, hcount⟩ := Join.map_apply htarget
  simp only [joined, hjoin, hprepare, hmerged, hcount]

end Query

namespace Database

variable {db : Database} {query : Query} {options : CheckOptions} {position : Nat}
  {set : RecordSet} {field type : String}

/-- When the check of references finds nothing, the join by a field which is declared as a reference
is prepared, and it merges each record that has the field. A query with this join that neither draws
a sample nor makes groups drops no record as dangling. If it asks for the descriptor alone, it
returns the set with its descriptor and no records. Otherwise it returns when the merged records can
be sorted, and whatever it returns are these records, as they are shown. -/
theorem query_follows_checked_references (sampler : Sampler)
    (hreferences : options.references = true) (hclean : db.findings options = [])
    (hresolve : db.resolve query.filter.type = .ok (some position))
    (hset : db.set? position = some set)
    (htype : set.schema.fieldType? field = some (.reference type))
    (hjoin : query.join = some field) (hsample : query.filter.sampleSize = none)
    (hgroup : query.groupBy = none) :
    ∃ join, Join.prepare db set field query.password.isSome = .ok join ∧
      (∀ record ∈ query.matched set, record.has field = true →
        join.apply record = .merged (join.followed record)) ∧
      (query.descriptorOnly = true → ∃ result, db.query sampler query = .ok result ∧
        result.skipped = 0 ∧ result.set = set.emptied ∧ result.set.records = []) ∧
      (query.descriptorOnly = false →
        (query.CanSort set.schema (((query.matched set).filter (·.has field)).map join.followed) →
          ∃ result, db.query sampler query = .ok result) ∧
        ∀ result, db.query sampler query = .ok result → result.skipped = 0 ∧
          result.set.records.Perm (((query.matched set).filter (·.has field)).map fun record =>
            query.shown set.schema (join.followed record))) := by
  obtain ⟨join, hprepare, hfield, htarget⟩ := prepare_of_findings hreferences hclean
    (List.mem_of_getElem? hset) htype query.password.isSome
  have hmatched : ∀ record ∈ query.matched set, ∀ value ∈ record.values field,
      (join.target? value).isSome :=
    fun record hrecord => htarget record (Query.mem_records_of_mem_matched hrecord)
  refine ⟨join, hprepare, fun record hrecord hhas => ?_, fun halone => ?_, fun hrecords => ?_⟩
  · subst hfield
    exact Join.apply_of_has hhas (hmatched record hrecord)
  · exact ⟨_, query_eq_emptied sampler hresolve hset halone, rfl, rfl, rfl⟩
  · let joined := (((query.matched set).filter (·.has field)).map join.followed, 0)
    have hjoined : query.joined db set (query.matched set) = .ok joined :=
      Query.joined_of_prepare hjoin hprepare hfield hmatched
    rw [query_eq_found sampler hresolve hset hrecords hjoined]
    refine ⟨fun _ => ⟨_, rfl⟩, fun result hresult => ?_⟩
    obtain rfl := Except.ok.inj hresult
    have hfound : (query.found sampler set joined).set.records.Perm _ :=
      Query.records_found_perm hgroup joined
    rw [query.filter.sample_eq_self sampler hsample, List.map_map] at hfound
    exact ⟨rfl, hfound⟩

/-- Two books, of which the second one has no author, and the author of the first one. -/
def shelfSpecimen : Database where
  sets := [
    { descriptor := some ⟨[.field ⟨"%rec", "Book"⟩, .field ⟨"%type", "author rec Author"⟩], none⟩
      entries := [.record ⟨[.field ⟨"title", "Go"⟩, .field ⟨"author", "a1"⟩], none⟩,
        .record ⟨[.field ⟨"title", "Runes"⟩], none⟩] },
    { descriptor := some ⟨[.field ⟨"%rec", "Author"⟩, .field ⟨"%key", "id"⟩], none⟩
      entries := [.record ⟨[.field ⟨"id", "a1"⟩, .field ⟨"name", "Ann"⟩], none⟩] }]

/-- The author of a book is found, and the book without one is left out. -/
theorem query_follows_checked_references_shelfSpecimen :
    let query : Query := { filter := { type := some "Book" }, join := some "author" }
    shelfSpecimen.findings { references := true } = [] ∧
      ∃ result, shelfSpecimen.query .first query = .ok result ∧ result.skipped = 0 ∧
        result.set.records.length = 1 := by
  intro query
  have hclean : shelfSpecimen.findings { references := true } = [] := by decide +kernel
  obtain ⟨set, hset⟩ : ∃ set, shelfSpecimen.set? 0 = some set := ⟨_, rfl⟩
  have hresolve : shelfSpecimen.resolve query.filter.type = .ok (some 0) := by rfl
  have htype : set.schema.fieldType? "author" = some (.reference "Author") := by
    rw [← Option.some.inj hset]
    rfl
  have hnumber : ((query.matched set).filter (·.has "author")).length = 1 := by
    rw [← Option.some.inj hset]
    decide +kernel
  obtain ⟨join, -, -, -, hfollows⟩ :=
    query_follows_checked_references .first rfl hclean hresolve hset htype rfl rfl rfl
  obtain ⟨hreturns, hrecords⟩ := hfollows rfl
  have hsortable : query.CanSort set.schema
      (((query.matched set).filter (·.has "author")).map join.followed) := by
    refine fun _ _ => .inl ?_
    rw [List.length_map, hnumber]
    decide
  obtain ⟨result, hresult⟩ := hreturns hsortable
  obtain ⟨hskipped, hperm⟩ := hrecords result hresult
  exact ⟨hclean, result, hresult, hskipped, by rw [hperm.length_eq, List.length_map, hnumber]⟩

/-- The same query for the descriptor alone finds no record, though a record that it matches has an
author who is known. -/
theorem query_descriptorOnly_not_joined :
    let query : Query :=
      { filter := { type := some "Book" }, join := some "author", descriptorOnly := true }
    ∃ set, shelfSpecimen.findings { references := true } = [] ∧
      shelfSpecimen.resolve query.filter.type = .ok (some 0) ∧ shelfSpecimen.set? 0 = some set ∧
      set.schema.fieldType? "author" = some (.reference "Author") ∧
      ∃ result, shelfSpecimen.query .first query = .ok result ∧
        ((query.matched set).filter (·.has "author")).length = 1 ∧
        result.set.records.length = 0 := by
  intro query
  exact ⟨_, by decide +kernel, rfl, rfl, by rfl, _, rfl, by decide +kernel, by decide +kernel⟩

end Database

end TextRecords
