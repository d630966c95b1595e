import TextRecords.Proofs.Database.FieldsInText
import TextRecords.Proofs.FieldSelection.Untouched
import TextRecords.Proofs.Selection.Leaves

/-!
# Selections and changes of fields

A selection depends on the fields that it names and on nothing else of a record. So it matches the
same positions before and after a change of fields that spares these names, whichever records the
change is about, and whether it succeeds or not (`Selection.depends_on_names`).
-/

namespace TextRecords

namespace FieldChange.Performs

variable {change : FieldChange} {positions : List Nat} {before after : RecordSet} {report : Report}

/-- A change that spares the names of a selection leaves the positions that it matches. -/
theorem matching_eq (h : change.Performs positions before after report) {selection : Selection}
    (hspares : ∀ name ∈ selection.root.names, change.fields.Spares change.action name)
    {filter : Filter} (hselection : filter.selection = some selection)
    (hpart : filter.part = none) : filter.matching after = filter.matching before := by
  refine Filter.matching_congr (h.map_records fun record => ?_)
  have hvalue : selection.root.value filter.caseless (change.result record) =
      selection.root.value filter.caseless record :=
    selection.root.value_congr filter.caseless fun name hname =>
      FieldSelection.values_apply (hspares name hname) record
  rw [Filter.admits, Filter.admits, hselection, hpart]
  exact congrArg Selection.Value.holds hvalue

end FieldChange.Performs

/-- A change of fields leaves a set as it is or performs on it. -/
theorem Database.set?_setFields_cases (db : Database) (sampler : Sampler) (change : FieldChange)
    (position : Nat) :
    (db.setFields sampler change).database.set? position = db.set? position ∨
      ∃ set next report, db.set? position = some set ∧
        (db.setFields sampler change).database.set? position = some next ∧
        change.Performs (change.filter.targets sampler set) set next report := by
  cases hresult : (db.setFields sampler change).result with
  | error fault =>
    have hedit : (db.edit (.setFields sampler change)).result = .error fault := hresult
    have hsame : (db.setFields sampler change).database = db := edit_of_error hedit
    rw [hsame]
    exact .inl rfl
  | ok report =>
    have houtcome : db.setFields sampler change =
        ⟨.ok report, (db.setFields sampler change).database⟩ := by rw [← hresult]
    rcases setFields_cases houtcome with ⟨-, hsame⟩ | ⟨place, set, next, hset, hnext, hperforms⟩
    · rw [hsame]
      exact .inl rfl
    · rw [hnext]
      by_cases hplace : place = position
      · subst hplace
        exact .inr ⟨set, next, report, hset,
          List.getElem?_set_self (List.getElem?_eq_some_iff.1 hset).1, hperforms⟩
      · exact .inl (List.getElem?_set_ne hplace)

/-- A selection depends on the fields that it names. Records with the same values of these names
give its expression the same value, whatever else they have; and after a change of fields that has
nothing to do with the names, every set has the same positions of records that the selection picks
as before. -/
theorem Selection.depends_on_names (selection : Selection) :
    (∀ (caseless : Bool) (record other : Record),
      (∀ name ∈ selection.root.names, record.values name = other.values name) →
      selection.root.value caseless record = selection.root.value caseless other) ∧
    ∀ (db : Database) (sampler : Sampler) (change : FieldChange),
      (∀ name ∈ selection.root.names, change.fields.Spares change.action name) →
      ∀ filter : Filter, filter.selection = some selection → filter.part = none →
        ∀ position, ((db.setFields sampler change).database.set? position).map filter.matching =
          (db.set? position).map filter.matching := by
  refine ⟨fun caseless record other h => selection.root.value_congr caseless h, ?_⟩
  intro db sampler change hspares filter hselection hpart position
  rcases db.set?_setFields_cases sampler change position with
    hsame | ⟨set, next, report, hset, hnext, hperforms⟩
  · rw [hsame]
  · rw [hset, hnext, Option.map_some, Option.map_some,
      hperforms.matching_eq hspares hselection hpart]

/-- A comment that reads as a field of the name, and a field that is renamed to another name. -/
theorem Selection.depends_on_names_fieldsSpecimen :
    let selection : Selection :=
      ⟨"b = \"2\"", .compare .equal (.field "b" none) (.string "2")⟩
    let filter : Filter := { selection := some selection }
    let record : Record := { items := [.field ⟨"a", "1"⟩, .field ⟨"b", "2"⟩] }
    let other : Record := { items := [.field ⟨"b", "2"⟩, .comment "b: 3"] }
    let change : FieldChange :=
      { fields := ⟨"a", [⟨"a", .all, none, false⟩]⟩, action := .rename "c" }
    let outcome := Database.fieldsSpecimen.setFields .first change
    (∀ name ∈ selection.root.names, record.values name = other.values name) ∧
      selection.root.value true record = selection.root.value true other ∧
      (∀ name ∈ selection.root.names, change.fields.Spares change.action name) ∧
      outcome.result = .ok ⟨1, []⟩ ∧ (outcome.database.set? 0).map filter.matching = some [0] := by
  intro selection filter record other change outcome
  obtain ⟨hvalue, hmatching⟩ := selection.depends_on_names
  have hvalues : ∀ name ∈ selection.root.names, record.values name = other.values name := by
    decide
  have hspares : ∀ name ∈ selection.root.names, change.fields.Spares change.action name := by
    decide
  exact ⟨hvalues, hvalue true record other hvalues, hspares,
    toOption_eq_some_iff.1 (by decide +kernel),
    (hmatching _ .first change hspares filter rfl rfl 0).trans (by decide +kernel)⟩

end TextRecords
