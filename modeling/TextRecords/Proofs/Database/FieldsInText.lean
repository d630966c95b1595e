import TextRecords.Proofs.Database.Deletion
import TextRecords.Proofs.Database.FieldChange
import TextRecords.Proofs.FieldSelection.Items

/-!
# What a change of fields leaves in the text

A change of fields puts records with other items in the places of records, and leaves everything
else alone (`FieldChange.Performs.mem_records`). The items are read back from their lines, since the
selection and the action are read from texts. So a database that was read back from its text before
is so afterwards exactly when each of its records still stands in the text as one
(`Database.isStable_setFields_iff`).

Setting values and adding fields never breaks a record, and renaming fields does only when it
declares a type. Erasing the fields of a record may leave none, and commenting out two neighbouring
fields leaves two comments that are read as one (`Database.not_isStable_neighboursCommented`).
-/

namespace TextRecords

/-- The entries that are no comments are the records. -/
theorem RecordSet.size_eq_count (set : RecordSet) :
    set.size = (set.entries.map Entry.comment?).count none := by
  rw [size, records]
  induction set.entries with
  | nil => rfl
  | cons entry rest ih =>
    cases entry with
    | record record =>
      have hrecord : (Entry.record record).record? = some record := rfl
      have hcomment : (Entry.record record).comment? = none := rfl
      rw [List.filterMap_cons_some hrecord, List.length_cons, List.map_cons, hcomment,
        List.count_cons_self, ih]
    | comment text =>
      have hrecord : (Entry.comment text).record? = none := rfl
      have hcomment : (Entry.comment text).comment? = some text := rfl
      rw [List.filterMap_cons_none hrecord, List.map_cons, hcomment,
        List.count_cons_of_ne (Option.some_ne_none text), ih]

/-- The comments of a set are those among its entries. -/
theorem RecordSet.comments_eq (set : RecordSet) :
    set.comments = (set.entries.map Entry.comment?).filterMap id := by
  rw [List.filterMap_map]
  rfl

/-- The records of a canonical set stand in the text as such. -/
theorem RecordSet.IsCanonical.isAssembled_of_mem {set : RecordSet} (h : set.IsCanonical)
    {record : Record} (hrecord : record ∈ set.records) : record.IsAssembled := by
  obtain ⟨hpart, hdata⟩ := h.records record hrecord
  exact ⟨hpart.apart, hdata⟩

namespace FieldChange.Performs

variable {change : FieldChange} {positions : List Nat} {before after : RecordSet} {report : Report}

/-- A change of fields leaves as many records as there were. -/
theorem size_eq (h : change.Performs positions before after report) : after.size = before.size := by
  rw [RecordSet.size_eq_count, h.layout, ← RecordSet.size_eq_count]

/-- A change of fields leaves the comments between records. -/
theorem comments_eq (h : change.Performs positions before after report) :
    after.comments = before.comments := by
  rw [RecordSet.comments_eq, h.layout, ← RecordSet.comments_eq]

/-- The record at a position after a change of fields is the one from before, or what the change
makes of it. -/
theorem record?_cases (h : change.Performs positions before after report) (position : Nat) :
    after.record? position = before.record? position ∨ ∃ old,
      before.record? position = some old ∧ after.record? position = some (change.result old) := by
  by_cases hmem : position ∈ positions
  · cases hold : before.record? position with
    | none =>
      -- There is none afterwards, since there are as many records as before.
      have hle : before.size ≤ position := List.getElem?_eq_none_iff.1 hold
      exact .inl (List.getElem?_eq_none (h.size_eq.trans_le hle))
    | some old =>
      obtain ⟨next, hnext, hverdict⟩ := h.selected position hmem old hold
      rw [hnext]
      generalize report.positions.count position = count at hverdict
      cases hverdict with
      | unaltered _ => exact .inl rfl
      | made _ => exact .inr ⟨old, rfl, rfl⟩
      | rejected _ _ => exact .inl rfl
  · exact .inl (h.others position hmem)

/-- A record after a change of fields is one from before, or what the change makes of one. -/
theorem mem_records (h : change.Performs positions before after report) {record : Record}
    (hrecord : record ∈ after.records) :
    record ∈ before.records ∨ ∃ old ∈ before.records, record = change.result old := by
  obtain ⟨position, hlt, hget⟩ := List.mem_iff_getElem.1 hrecord
  have hnow : after.record? position = some record := hget ▸ List.getElem?_eq_getElem hlt
  rcases h.record?_cases position with hsame | ⟨old, hold, hmade⟩
  · exact .inl (List.mem_of_getElem? (hsame.symm.trans hnow))
  · exact .inr ⟨old, List.mem_of_getElem? hold, Option.some.inj (hnow.symm.trans hmade)⟩

/-- What a change of fields keeps in a record is kept record by record. -/
theorem map_records {α : Type} (h : change.Performs positions before after report)
    {f : Record → α} (hkeeps : ∀ record, f (change.result record) = f record) :
    after.records.map f = before.records.map f := by
  refine List.ext_getElem? fun position => ?_
  rw [List.getElem?_map, List.getElem?_map]
  rcases h.record?_cases position with hsame | ⟨old, hold, hmade⟩
  · exact congrArg (Option.map f) hsame
  · rw [RecordSet.record?] at hold hmade
    rw [hold, hmade, Option.map_some, Option.map_some, hkeeps]

/-- A canonical set stays canonical exactly when its records stand in the text as before, if the
change brings in no names and values that are not read back. -/
theorem isCanonical_iff (h : change.Performs positions before after report)
    (hbefore : before.IsCanonical) (haction : change.action.IsPlain)
    (hnames : ∀ selector ∈ change.fields.selectors, isFieldName selector.name.toList = true) :
    after.IsCanonical ↔ ∀ record ∈ after.records, record.IsAssembled := by
  constructor
  · exact fun hafter record => hafter.isAssembled_of_mem
  · intro hassembled
    refine ⟨?_, fun record hrecord => ?_, ?_⟩
    · rw [h.descriptor]
      exact hbefore.descriptor
    · have hitems : ∀ item ∈ record.items, item.IsCanonical := by
        rcases h.mem_records hrecord with hold | ⟨old, hold, rfl⟩
        · exact (hbefore.records record hold).1.canonical
        · exact FieldSelection.isCanonical_apply haction hnames
            (hbefore.records old hold).1.canonical
      obtain ⟨hapart, hdata⟩ := hassembled record hrecord
      exact ⟨⟨Record.items_ne_nil_of_isData hdata, hitems, hapart⟩, hdata⟩
    · rw [h.comments_eq]
      exact hbefore.comments

/-- A change that keeps the form of records leaves them standing in the text as before. -/
theorem isAssembled_of_mem_records (h : change.Performs positions before after report)
    (hbefore : before.IsCanonical) (hkeeps : change.action.keepsForm change.fields = true)
    {record : Record} (hrecord : record ∈ after.records) : record.IsAssembled := by
  rcases h.mem_records hrecord with hmem | ⟨old, hmem, rfl⟩
  · exact hbefore.isAssembled_of_mem hmem
  · exact FieldSelection.isAssembled_apply hkeeps (hbefore.isAssembled_of_mem hmem)

end FieldChange.Performs

namespace Database

variable {db after : Database} {sampler : Sampler} {change : FieldChange} {report : Report}

/-- A set without a descriptor has records in a canonical database. -/
theorem IsCanonical.records_ne_nil (h : db.IsCanonical) {set : RecordSet} (hset : set ∈ db.sets)
    (hnone : set.descriptor = none) : set.records ≠ [] := by
  obtain ⟨prologue, sets⟩ := db
  cases sets with
  | nil => exact absurd hset List.not_mem_nil
  | cons first rest =>
    rcases List.mem_cons.1 hset with rfl | hrest
    · exact (h.untyped set rfl hnone).1
    · have hsome := h.untypedFirst set hrest
      rw [hnone] at hsome
      cases hsome

/-- A canonical database with another set that has the same descriptor, and records if that is none,
is canonical exactly when the set is. -/
theorem IsCanonical.replaceSet_iff (h : db.IsCanonical) {position : Nat} {set next : RecordSet}
    (hset : db.set? position = some set) (hdescriptor : next.descriptor = set.descriptor)
    (hrecords : next.descriptor = none → next.records ≠ []) :
    (db.replaceSet position next).IsCanonical ↔ next.IsCanonical := by
  constructor
  · exact fun hafter => hafter.sets next (List.mem_set (List.getElem?_eq_some_iff.1 hset).1 next)
  · exact fun hnext => h.replaceSet hset hnext hdescriptor hrecords

/-- A change of fields that succeeds does nothing in a database without sets. In any other it
performs on the set of its filter. -/
theorem setFields_cases (h : db.setFields sampler change = ⟨.ok report, after⟩) :
    (db.sets = [] ∧ after = db) ∨
      ∃ position set next, db.set? position = some set ∧ after = db.replaceSet position next ∧
        change.Performs (change.filter.targets sampler set) set next report := by
  have hresult : (db.setFields sampler change).result = .ok report := by rw [h]
  obtain ⟨hvalid, target, hresolve⟩ := valid_of_setFields hresult
  cases target with
  | none =>
    rw [setFields_of_resolve_none sampler hvalid hresolve] at h
    exact .inl ⟨sets_eq_nil_of_resolve hresolve, (Outcome.mk.inj h).2.symm⟩
  | some position =>
    obtain ⟨set, hset⟩ := exists_set_of_resolve hresolve
    obtain ⟨made, next, heq, hperforms⟩ := setFields_of_resolve sampler hvalid hresolve hset
    rw [heq] at h
    obtain ⟨hmade, hafter⟩ := Outcome.mk.inj h
    obtain rfl : made = report := Except.ok.inj hmade
    exact .inr ⟨position, set, next, hset, hafter.symm, hperforms⟩

/-- After a change of fields, with a selection and an action that are read from texts without
carriage returns, a database is read back from its text, if it was before, exactly when every record
of it still has fields, the first of which does not declare a type, and no neighbouring comments.
That is so whenever the action neither erases fields nor comments them out, names none as the
declaration of a type, and adds no comments. -/
theorem isStable_setFields_iff (hstable : db.IsStable) {source name : String}
    {argument : Option String} (hfields : FieldSelection.ofText source = .ok change.fields)
    (haction : SetAction.ofText name argument = .ok change.action)
    (hreturn : ∀ value ∈ argument, '\r' ∉ value.toList)
    (h : db.setFields sampler change = ⟨.ok report, after⟩) :
    (after.IsStable ↔ ∀ set ∈ after.sets, ∀ record ∈ set.records, record.IsAssembled) ∧
      (change.action.keepsForm change.fields = true → after.IsStable) := by
  have hcanonical := isStable_iff_isCanonical.1 hstable
  have hplain := SetAction.isPlain_of_ofText haction hreturn
  have hnames := FieldSelection.isFieldName_of_ofText hfields
  rcases setFields_cases h with ⟨hsets, rfl⟩ | ⟨position, set, next, hset, rfl, hperforms⟩
  · refine ⟨⟨fun _ other hother => ?_, fun _ => hstable⟩, fun _ => hstable⟩
    rw [hsets] at hother
    exact absurd hother List.not_mem_nil
  · have hmem : set ∈ db.sets := List.mem_of_getElem? hset
    have hbefore := hcanonical.sets set hmem
    -- The untyped set keeps its records, however many of their fields it loses.
    have hrecords : next.descriptor = none → next.records ≠ [] := by
      intro hnone
      rw [hperforms.descriptor] at hnone
      have hne := hcanonical.records_ne_nil hmem hnone
      rw [← List.length_pos_iff] at hne ⊢
      exact hne.trans_eq hperforms.size_eq.symm
    have hiff : (db.replaceSet position next).IsStable ↔
        ∀ record ∈ next.records, record.IsAssembled := by
      rw [isStable_iff_isCanonical, hcanonical.replaceSet_iff hset hperforms.descriptor hrecords]
      exact hperforms.isCanonical_iff hbefore hplain hnames
    refine ⟨⟨fun hafter other hother record => ?_, fun hassembled => ?_⟩, fun hkeeps => ?_⟩
    · exact ((isStable_iff_isCanonical.1 hafter).sets other hother).isAssembled_of_mem
    · have hmemNext : next ∈ (db.replaceSet position next).sets :=
        List.mem_set (List.getElem?_eq_some_iff.1 hset).1 next
      exact hiff.2 (hassembled next hmemNext)
    · exact hiff.2 fun record => hperforms.isAssembled_of_mem_records hbefore hkeeps

/-- A record of three fields. -/
def fieldsSpecimen : Database where
  sets := [{ entries :=
    [.record ⟨[.field ⟨"a", "1"⟩, .field ⟨"b", "2"⟩, .field ⟨"c", "3"⟩], none⟩] }]

/-- Two fields with another one between them may be commented out. -/
theorem isStable_setFields_iff_fieldsSpecimen :
    let change : FieldChange :=
      { fields := ⟨"a,c", [⟨"a", .all, none, false⟩, ⟨"c", .all, none, false⟩]⟩
        action := .comment }
    let outcome := fieldsSpecimen.setFields .first change
    fieldsSpecimen.IsStable ∧ FieldSelection.ofText "a,c" = .ok change.fields ∧
      SetAction.ofText "comment" none = .ok change.action ∧ outcome.result = .ok ⟨1, []⟩ ∧
      outcome.database.IsStable := by
  intro change outcome
  have hstable : fieldsSpecimen.IsStable := isStable_iff_isCanonical.2 (by decide)
  have hfields : FieldSelection.ofText "a,c" = .ok change.fields :=
    toOption_eq_some_iff.1 (by decide +kernel)
  have haction : SetAction.ofText "comment" none = .ok change.action := rfl
  have hresult : outcome.result = .ok ⟨1, []⟩ := toOption_eq_some_iff.1 (by decide +kernel)
  have houtcome : outcome = ⟨.ok ⟨1, []⟩, outcome.database⟩ := by rw [← hresult]
  have hiff := (isStable_setFields_iff hstable hfields haction nofun houtcome).1
  exact ⟨hstable, hfields, haction, hresult, hiff.2 (by decide +kernel)⟩

/-- Two neighbouring fields that are commented out are not read back: their comments are read as
one. -/
theorem not_isStable_neighboursCommented :
    let change : FieldChange :=
      { fields := ⟨"a,b", [⟨"a", .all, none, false⟩, ⟨"b", .all, none, false⟩]⟩
        action := .comment }
    let outcome := fieldsSpecimen.setFields .first change
    fieldsSpecimen.IsStable ∧ FieldSelection.ofText "a,b" = .ok change.fields ∧
      SetAction.ofText "comment" none = .ok change.action ∧ outcome.result = .ok ⟨1, []⟩ ∧
      ¬ outcome.database.IsStable := by
  intro change outcome
  refine ⟨isStable_iff_isCanonical.2 (by decide), toOption_eq_some_iff.1 (by decide +kernel), rfl,
    toOption_eq_some_iff.1 (by decide +kernel), ?_⟩
  rw [isStable_iff_isCanonical]
  decide +kernel

end Database

end TextRecords
