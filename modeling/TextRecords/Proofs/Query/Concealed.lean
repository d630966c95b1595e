import TextRecords.Proofs.Query.Blanked

/-!
# Fields that a query conceals

A query without a password does not show the confidential fields of the queried set. It may consult
them all the same: to follow references, to group and to sort (`Query.consults`). It conceals the
others. Without a selection and a part of the text, records that differ in the values of concealed
fields come out of every stage of the query alike up to these fields, and they come out of the last
stage alike (`Query.onSet_blanked`).
-/

namespace TextRecords

/-- Whether one of the selectors picks occurrences of a name. -/
def FieldSelection.regards (selection : FieldSelection) (name : String) : Bool :=
  selection.selectors.any (·.name == name)

namespace Query

/-- Whether a query follows references by the values of a field of the queried set: by those of the
reference itself and, if it leads to the same set, by the keys. -/
def follows (query : Query) (schema : Schema) (name : String) : Bool :=
  query.join.any fun field =>
    match schema.fieldType? field with
    | some (.reference type) =>
      name == field || (schema.typeName == some type && schema.key == some name)
    | _ => false

/-- Whether what a query does with a record of the queried set depends on the values of a field, its
selection and the part of the text that it asks for aside. -/
def consults (query : Query) (schema : Schema) (name : String) : Bool :=
  query.follows schema name || query.groupBy.any (·.regards name) ||
    (query.order? schema).any (·.regards name)

/-- Whether a field of the queried set is confidential and not consulted. -/
def conceals (query : Query) (schema : Schema) (name : String) : Bool :=
  schema.isConfidential name && !query.consults schema name

section Stages

variable {query : Query} {schema : Schema} {sampler : Sampler} {set : RecordSet} {db : Database}

/-- A consulted field is not concealed. -/
theorem conceals_of_consults {name : String} (h : query.consults schema name = true) :
    query.conceals schema name = false := by
  unfold conceals
  rw [h]
  exact Bool.and_false _

/-- A concealed field is confidential. -/
theorem isConfidential_of_conceals {name : String} (h : query.conceals schema name = true) :
    schema.isConfidential name = true :=
  (Bool.and_eq_true_iff.1 h).1

/-- Redacting concealed fields keeps the values that a query groups and sorts by. -/
theorem key_redacted_of_consults {selection : FieldSelection}
    (h : ∀ name, selection.regards name = true → query.consults schema name = true)
    (record : Record) :
    selection.key (record.redacted (query.conceals schema)) = selection.key record := by
  refine FieldSelection.key_redacted (fun selector hselector => ?_) record
  refine conceals_of_consults (h _ ?_)
  exact List.any_eq_true.2 ⟨selector, hselector, beq_self_eq_true _⟩

/-- Concealed fields are not shown. -/
theorem shown_redacted (hpassword : query.password = none) (record : Record) :
    query.shown schema (record.redacted (query.conceals schema)) = query.shown schema record := by
  have hredacted : (record.redacted (query.conceals schema)).redacted schema.isConfidential =
      record.redacted schema.isConfidential :=
    Record.redacted_redacted fun _ => isConfidential_of_conceals
  unfold shown
  simp only [hpassword, Option.isNone_none, if_true, hredacted]

/-- What a query makes of records does not depend on concealed fields. -/
theorem found_redacted (hpassword : query.password = none) (records : List Record)
    (skipped : Nat) :
    query.found sampler set (records.map (·.redacted (query.conceals set.schema)), skipped) =
      query.found sampler set (records, skipped) := by
  have hgroup : ∀ selection ∈ query.groupBy, ∀ record : Record,
      selection.key (record.redacted (query.conceals set.schema)) = selection.key record := by
    refine fun selection hselection => key_redacted_of_consults fun name hname => ?_
    simp [consults, Option.mem_def.1 hselection, hname]
  have hsort : ∀ selection ∈ query.order? set.schema, ∀ record : Record,
      selection.key (record.redacted (query.conceals set.schema)) = selection.key record := by
    refine fun selection hselection => key_redacted_of_consults fun name hname => ?_
    simp [consults, Option.mem_def.1 hselection, hname]
  unfold found
  dsimp only
  rw [Filter.sample_map, grouped_map hgroup Group.merge_redacted, sorted_map hsort, List.map_map,
    List.map_map]
  simp only [Function.comp_def, Group.map, shown_redacted hpassword]

/-- Redacting concealed fields beforehand makes no difference to joined records without them. -/
theorem joined_redacted (records : List Record) :
    (query.joined db set (records.map (·.redacted (query.conceals set.schema)))).map
        (Prod.map (List.map (·.redacted (query.conceals set.schema))) id) =
      (query.joined db set records).map
        (Prod.map (List.map (·.redacted (query.conceals set.schema))) id) := by
  unfold joined
  cases hjoin : query.join with
  | none =>
    have htwice (record : Record) :
        (record.redacted (query.conceals set.schema)).redacted (query.conceals set.schema) =
          record.redacted (query.conceals set.schema) := Record.redacted_redacted fun _ => id
    dsimp only [Except.map, Prod.map]
    rw [List.map_map]
    simp only [Function.comp_def, htwice]
  | some field =>
    cases hprepare : Join.prepare db set field query.password.isSome with
    | error fault => simp only [hprepare, Except.map]
    | ok join =>
      obtain ⟨rfl, type, htype⟩ := Join.of_prepare hprepare
      have hfollows : query.follows set.schema join.field = true := by
        simp [follows, hjoin, htype]
      have hfield : query.conceals set.schema join.field = false :=
        conceals_of_consults (by simp [consults, hfollows])
      have hresults :
          ((records.map (·.redacted (query.conceals set.schema))).map join.apply).map
              (Joined.map (·.redacted (query.conceals set.schema))) =
            (records.map join.apply).map (Joined.map (·.redacted (query.conceals set.schema))) := by
        rw [List.map_map, List.map_map, List.map_map]
        exact List.map_congr_left fun record _ => join.apply_redacted hfield record
      simp only [hprepare, Except.map, Prod.map]
      rw [← Joined.filterMap_record?_map, ← Joined.filterMap_record?_map, hresults,
        ← Joined.count_dangling_map, hresults, Joined.count_dangling_map]

/-- Blanking concealed fields makes no difference to joined records without them. -/
theorem joined_blanked (records : List Record) :
    (query.joined db set (records.map (Record.blanked (query.conceals set.schema)))).map
        (Prod.map (List.map (·.redacted (query.conceals set.schema))) id) =
      (query.joined db set records).map
        (Prod.map (List.map (·.redacted (query.conceals set.schema))) id) := by
  have hrecords : (records.map (Record.blanked (query.conceals set.schema))).map
        (·.redacted (query.conceals set.schema)) =
      records.map (·.redacted (query.conceals set.schema)) := by
    rw [List.map_map]
    exact List.map_congr_left fun record _ => record.redacted_blanked _
  rw [← joined_redacted, hrecords, joined_redacted]

/-- A filter admits the same positions with values blanked, unless it asks for a selection or for a
part of the text. -/
theorem matching_blanked {filter : Filter} {hides : String → Bool}
    (hselection : filter.selection = none) (hpart : filter.part = none) :
    filter.matching (set.blanked hides) = filter.matching set := by
  have hadmits : filter.admits = fun _ => true := by
    funext record
    unfold Filter.admits
    rw [hselection, hpart]
    rfl
  apply Filter.matching_congr
  rw [RecordSet.records_blanked, List.map_map, hadmits]
  rfl

/-- A join is prepared to the same effect with the concealed fields of the queried set blanked. -/
theorem prepare_blankedAt_concealed {position : Nat} {field : String}
    (hset : db.set? position = some set) (hpassword : query.password = none)
    (hfield : field ∈ query.join) :
    (Join.prepare (db.blankedAt position (query.conceals set.schema)) set field
        query.password.isSome).map Join.apply =
      (Join.prepare db set field query.password.isSome).map Join.apply := by
  refine Join.prepare_blankedAt fun type target htype hposition htarget name hname => ?_
  -- The join leads to the queried set itself, so the query consults the keys.
  obtain ⟨found, hfound, hget, htypeName⟩ := Database.set?_of_typePosition? hposition
  obtain rfl : found = target := Option.some.inj (hfound.symm.trans htarget)
  obtain rfl : found = set := Option.some.inj (hget.symm.trans hset)
  refine ⟨by rw [hpassword]; rfl, isConfidential_of_conceals hname, fun hkey => ?_⟩
  have hdeclared : found.schema.typeName = some type := htypeName
  have hfollows : query.follows found.schema name = true := by
    simp [follows, Option.mem_def.1 hfield, htype, hdeclared, hkey]
  rw [conceals_of_consults (by simp [consults, hfollows])] at hname
  exact absurd hname Bool.false_ne_true

/-- Blanking concealed fields of the queried set makes no difference to the results. -/
theorem onSet_blanked {position : Nat} (hset : db.set? position = some set)
    (hpassword : query.password = none) (hselection : query.filter.selection = none)
    (hpart : query.filter.part = none) :
    query.onSet sampler (db.blankedAt position (query.conceals set.schema))
        (set.blanked (query.conceals set.schema)) =
      query.onSet sampler db set := by
  have hmatched :
      (query.filter.matching set).filterMap
          (set.blanked (query.conceals set.schema)).record? =
        ((query.filter.matching set).filterMap set.record?).map
          (Record.blanked (query.conceals set.schema)) := by
    rw [List.map_filterMap]
    exact List.filterMap_congr fun other _ => RecordSet.record?_blanked other
  have hprepare : ∀ field ∈ query.join, _ := fun field hfield =>
    prepare_blankedAt_concealed hset hpassword hfield
  -- Joined records are the same only without the concealed fields, which the results do not show.
  have hfound (joined : Except Fault (List Record × Nat)) :
      (joined.map (Prod.map (List.map (·.redacted (query.conceals set.schema))) id)).map
          (query.found sampler set) =
        joined.map (query.found sampler set) := by
    cases joined with
    | error fault => rfl
    | ok joined => exact congrArg Except.ok (found_redacted hpassword joined.1 joined.2)
  rw [onSet_eq, onSet_eq, matching_blanked hselection hpart, hmatched]
  split
  · rfl
  · generalize (query.filter.matching set).filterMap set.record? = records
    calc
      _ = (query.joined (db.blankedAt position (query.conceals set.schema)) set
            (records.map (Record.blanked (query.conceals set.schema)))).map
            (query.found sampler set) := rfl
      _ = (query.joined db set
            (records.map (Record.blanked (query.conceals set.schema)))).map
            (query.found sampler set) := by rw [joined_congr _ hprepare]
      _ = (query.joined db set records).map (query.found sampler set) := by
        rw [← hfound, joined_blanked, hfound]

end Stages

end Query

end TextRecords
