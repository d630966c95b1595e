import Mathlib.Data.List.Induction
import TextRecords.Proofs.Database.Edits
import TextRecords.Proofs.Fallible
import TextRecords.Proofs.Filter.Targets

/-!
# What a change of fields does

A change of fields goes through the selected records in ascending order. A record whose content the
action leaves as it is stays out of the report; any other one is given its new content, or that is
rejected and reported, which takes a rule that it breaks or a key that it has
(`FieldChange.Verdict`).

`FieldChange.Performs` says what the set and the report of a batch are after the positions of a
list. One more position keeps it (`Performs.changeOne`), so it holds after all of them
(`performs_foldl`), and `Database.setFields_performs` says it of the database.
-/

namespace TextRecords

/-- The positions of the rejected records, in the order of the report. -/
def Report.positions (report : Report) : List Nat :=
  report.failures.map Failure.position

/-- Validation returns the action that it is given. -/
theorem SetAction.eq_of_validated {action valid : SetAction}
    (h : action.validated = .ok valid) : valid = action := by
  unfold validated at h
  split at h
  · split at h
    · exact (Except.ok.inj h).symm
    · exact absurd h nofun
  · exact (Except.ok.inj h).symm

/-- New content of a record is contested when it breaks a rule that the old content keeps, or when
it has a key, which another record may hold. -/
def Schema.Contests (schema : Schema) (old new : Record) : Prop :=
  (∃ violation ∈ schema.violations new,
    violation.message ∉ (schema.violations old).map Violation.message) ∨
  (schema.key.bind new.first?).isSome = true

/-- A batch objects to contested content alone. -/
theorem Batch.contests_of_replacementObjection? {batch : Batch} {old new : Record}
    {objection : Objection} (h : batch.replacementObjection? old new = some objection) :
    batch.set.schema.Contests old new := by
  by_contra hcontests
  obtain ⟨hknown, hkey⟩ := not_or.1 hcontests
  have hnone : batch.replacementObjection? old new = none := by
    refine replacementObjection?_eq_none_iff.2 ⟨fun violation hmem => ?_, fun key hheld => ?_⟩
    · by_contra hnew
      exact hknown ⟨violation, hmem, hnew⟩
    · exact absurd (Option.isSome_of_eq_some hheld) hkey
  rw [h] at hnone
  cases hnone

namespace FieldChange

variable (change : FieldChange)

/-- What a change makes of a record. -/
def result (record : Record) : Record :=
  change.fields.apply change.action record

/-- Whether a change gives a record other content. -/
def alters (record : Record) : Bool :=
  (change.result record).items != record.items

/-- What becomes of a selected record, and how often its position is reported. -/
inductive Verdict (schema : Schema) (record : Record) : Record → Nat → Prop
  | unaltered (h : change.alters record = false) : Verdict schema record record 0
  | made (h : change.alters record = true) : Verdict schema record (change.result record) 0
  | rejected (h : change.alters record = true)
      (hcontests : schema.Contests record (change.result record)) : Verdict schema record record 1

/-- What a change does to a set when it goes through some positions, and what it reports. -/
structure Performs (positions : List Nat) (before after : RecordSet) (report : Report) : Prop where
  descriptor : after.descriptor = before.descriptor
  /-- There are as many entries as before, and the comments among them are the same. -/
  layout : after.entries.map Entry.comment? = before.entries.map Entry.comment?
  others : ∀ position ∉ positions, after.record? position = before.record? position
  selected : ∀ position ∈ positions, ∀ record ∈ before.record? position,
    ∃ next, after.record? position = some next ∧
      change.Verdict before.schema record next (report.positions.count position)
  ascending : report.positions.Pairwise (· < ·)
  reported : ∀ position ∈ report.positions, position ∈ positions
  total : report.changed + report.failures.length =
    positions.countP fun position => (before.record? position).any change.alters

variable {change}

/-- A record keeps its content exactly when it equals what the change makes of it, places apart. -/
theorem alters_eq_false_iff {record : Record} :
    change.alters record = false ↔ record.unplaced = (change.result record).unplaced := by
  rw [alters, bne_eq_false_iff_eq]
  simp only [Record.unplaced, Record.mk.injEq, and_true, eq_comm]

/-- All that a change can do at the position of a record. -/
theorem changeOne_cases {batch : Batch} {position : Nat} {record : Record}
    (h : batch.set.record? position = some record) :
    (change.alters record = false ∧ change.changeOne batch position = batch) ∨
      (change.alters record = true ∧ batch.set.schema.Contests record (change.result record) ∧
        ∃ objection, change.changeOne batch position = batch.reject position objection) ∨
      (change.alters record = true ∧
        ∃ keys, change.changeOne batch position =
          batch.commit (batch.set.replaceAt position (.record (change.result record))) keys) := by
  have hone : change.changeOne batch position =
      (batch.replace position (change.result record)).1 := by
    rw [FieldChange.changeOne, h]
    rfl
  rw [hone, Batch.replace, h]
  -- A batch leaves a record alone that differs from the new one in its place at most.
  by_cases hsame : record.unplaced = (change.result record).unplaced
  · refine .inl ⟨alters_eq_false_iff.2 hsame, ?_⟩
    simp only [if_pos hsame]
  · have halters : change.alters record = true := by
      rw [← Bool.not_eq_false]
      exact fun hfalse => hsame (alters_eq_false_iff.1 hfalse)
    simp only [if_neg hsame]
    cases hobjection : batch.replacementObjection? record (change.result record) with
    | some objection =>
      have hcontests := Batch.contests_of_replacementObjection? hobjection
      exact .inr (.inl ⟨halters, hcontests, objection, rfl⟩)
    | none => exact .inr (.inr ⟨halters, _, rfl⟩)

/-- A change that goes through no positions does nothing. -/
theorem performs_nil (set : RecordSet) : change.Performs [] set set {} where
  descriptor := rfl
  layout := rfl
  others _ _ := rfl
  selected _ hmem := absurd hmem List.not_mem_nil
  ascending := List.Pairwise.nil
  reported _ hmem := absurd hmem List.not_mem_nil
  total := rfl

namespace Performs

variable {positions : List Nat} {before middle after : RecordSet} {report next : Report}

/-- A position behind all that the change has gone through is not reported. -/
theorem count_eq_zero (h : change.Performs positions before middle report) {position : Nat}
    (hlast : ∀ earlier ∈ positions, earlier < position) : report.positions.count position = 0 := by
  rw [List.count_eq_zero]
  exact fun hmem => Nat.lt_irrefl position (hlast position (h.reported position hmem))

/-- A change that goes through one more position, behind all others, and changes nothing elsewhere
performs on all of them. -/
theorem extend (h : change.Performs positions before middle report) {position : Nat}
    (hlast : ∀ earlier ∈ positions, earlier < position)
    (hdescriptor : after.descriptor = middle.descriptor)
    (hlayout : after.entries.map Entry.comment? = middle.entries.map Entry.comment?)
    (hothers : ∀ place ≠ position, after.record? place = middle.record? place)
    (hselected : ∀ record ∈ before.record? position, ∃ new, after.record? position = some new ∧
      change.Verdict before.schema record new (next.positions.count position))
    (hreported : next.positions = report.positions ∨
      next.positions = report.positions ++ [position])
    (htotal : next.changed + next.failures.length = report.changed + report.failures.length +
      if (before.record? position).any change.alters then 1 else 0) :
    change.Performs (positions ++ [position]) before after next where
  descriptor := hdescriptor.trans h.descriptor
  layout := hlayout.trans h.layout
  others := by
    intro place hplace
    rw [List.mem_append, List.mem_singleton, not_or] at hplace
    rw [hothers place hplace.2, h.others place hplace.1]
  selected := by
    intro place hplace record hrecord
    rw [List.mem_append, List.mem_singleton] at hplace
    rcases hplace with hplace | rfl
    · -- The verdict on an earlier position stands: neither its record nor its count changes.
      have hne : place ≠ position := Nat.ne_of_lt (hlast place hplace)
      have hcount : next.positions.count place = report.positions.count place := by
        rcases hreported with hsame | hmore
        · rw [hsame]
        · rw [hmore, List.count_append, List.count_singleton, beq_eq_false_iff_ne.2 hne.symm]
          rfl
      rw [hothers place hne, hcount]
      exact h.selected place hplace record hrecord
    · exact hselected record hrecord
  ascending := by
    rcases hreported with hsame | hmore
    · rw [hsame]
      exact h.ascending
    · rw [hmore, List.pairwise_append]
      refine ⟨h.ascending, List.pairwise_singleton _ _, fun place hplace last hmem => ?_⟩
      rw [List.mem_singleton.1 hmem]
      exact hlast place (h.reported place hplace)
  reported := by
    intro place hplace
    rw [List.mem_append]
    rcases hreported with hsame | hmore
    · exact .inl (h.reported place (hsame ▸ hplace))
    · rw [hmore, List.mem_append] at hplace
      exact hplace.imp_left (h.reported place)
  total := by
    rw [htotal, h.total, List.countP_append, List.countP_singleton]

/-- A change that goes through one more position, behind all others, performs on all of them. -/
theorem changeOne {batch : Batch} (h : change.Performs positions before batch.set batch.report)
    {position : Nat} (hlast : ∀ earlier ∈ positions, earlier < position) :
    change.Performs (positions ++ [position]) before (change.changeOne batch position).set
      (change.changeOne batch position).report := by
  have hnotMem : position ∉ positions := fun hmem => Nat.lt_irrefl _ (hlast position hmem)
  -- Nothing has happened at this position so far.
  have hfresh : batch.set.record? position = before.record? position := h.others position hnotMem
  have hcount := h.count_eq_zero hlast
  cases hrecord : before.record? position with
  | none =>
    -- A position that is that of no record is passed over.
    have hkeep : change.changeOne batch position = batch := by
      rw [FieldChange.changeOne, hfresh, hrecord]
    rw [hkeep]
    refine h.extend hlast rfl rfl (fun _ _ => rfl) ?_ (.inl rfl) ?_
    · rw [hrecord]
      exact nofun
    · rw [hrecord]
      rfl
  | some record =>
    have hheld : batch.set.record? position = some record := hfresh.trans hrecord
    rcases change.changeOne_cases hheld with
      ⟨halters, hkeep⟩ | ⟨halters, hcontests, objection, hreject⟩ | ⟨halters, keys, hcommit⟩
    · rw [hkeep]
      refine h.extend hlast rfl rfl (fun _ _ => rfl) ?_ (.inl rfl) ?_
      · intro other hother
        obtain rfl : record = other := Option.some.inj (hrecord.symm.trans hother)
        rw [hcount]
        exact ⟨record, hheld, .unaltered halters⟩
      · rw [hrecord, Option.any_some, halters]
        rfl
    · rw [hreject]
      have hpositions : (batch.reject position objection).report.positions =
          batch.report.positions ++ [position] := List.map_append
      refine h.extend hlast rfl rfl (fun _ _ => rfl) ?_ (.inr hpositions) ?_
      · intro other hother
        obtain rfl : record = other := Option.some.inj (hrecord.symm.trans hother)
        rw [hpositions, List.count_append, hcount, List.count_singleton_self]
        rw [RecordSet.schema_congr h.descriptor] at hcontests
        exact ⟨record, hheld, .rejected halters hcontests⟩
      · rw [hrecord, Option.any_some, halters, if_pos rfl, Nat.add_assoc]
        exact congrArg _ List.length_append
    · rw [hcommit]
      have hplaces := RecordSet.record?_replaceAt hheld (change.result record)
      refine h.extend hlast rfl (Entry.map_comment?_substitute _ _ _) ?_ ?_ (.inl rfl) ?_
      · intro place hplace
        exact (hplaces place).trans (if_neg hplace)
      · intro other hother
        obtain rfl : record = other := Option.some.inj (hrecord.symm.trans hother)
        have hmade := (hplaces position).trans (if_pos rfl)
        refine ⟨change.result record, hmade, ?_⟩
        rw [show (batch.commit _ keys).report.positions = batch.report.positions from rfl, hcount]
        exact .made halters
      · rw [hrecord, Option.any_some, halters, if_pos rfl, Nat.add_right_comm]
        rfl

end Performs

/-- A change that goes through ascending positions performs on them. -/
theorem performs_foldl (set : RecordSet) {positions : List Nat}
    (h : positions.Pairwise (· < ·)) :
    change.Performs positions set (positions.foldl change.changeOne (Batch.start set)).set
      (positions.foldl change.changeOne (Batch.start set)).report := by
  -- The induction goes from the front, since each verdict depends on the changes before it.
  induction positions using List.reverseRecOn with
  | nil => exact performs_nil set
  | append_singleton positions position ih =>
    obtain ⟨hfront, -, hlast⟩ := List.pairwise_append.1 h
    rw [List.foldl_append, List.foldl_cons, List.foldl_nil]
    exact (ih hfront).changeOne fun earlier hearlier =>
      hlast earlier hearlier position List.mem_cons_self

/-- Failures at ascending positions are reported as they are. -/
theorem finish_eq_report {batch : Batch} (h : batch.report.positions.Pairwise (· < ·)) :
    batch.finish = batch.report := by
  have hle : batch.report.failures.Pairwise fun a b => decide (a.position ≤ b.position) = true := by
    refine (List.pairwise_map.1 h).imp fun hlt => ?_
    exact decide_eq_true (Nat.le_of_lt hlt)
  rw [Batch.finish, List.mergeSort_of_pairwise hle]

/-- A change of a set succeeds and performs on the positions that its filter selects. -/
theorem performs_ofSet (sampler : Sampler) (set : RecordSet) :
    ∃ report, (change.ofSet sampler set).1 = .ok report ∧
      change.Performs (change.filter.targets sampler set) set (change.ofSet sampler set).2
        report := by
  have hperforms := change.performs_foldl set
    (change.filter.pairwise_targets sampler set)
  refine ⟨_, rfl, ?_⟩
  -- The failures are in order already, so the batch finishes with the report that it has.
  rw [finish_eq_report hperforms.ascending]
  exact hperforms

end FieldChange

namespace Database

variable {db : Database}

variable (sampler : Sampler) {change : FieldChange}

/-- A valid change of fields in the set that its filter resolves to. -/
theorem setFields_of_resolve (hvalid : change.action.validated = .ok change.action)
    {position : Nat} {set : RecordSet}
    (hresolve : db.resolve change.filter.type = .ok (some position))
    (hset : db.set? position = some set) :
    ∃ report after, db.setFields sampler change = ⟨.ok report, db.replaceSet position after⟩ ∧
      change.Performs (change.filter.targets sampler set) set after report := by
  obtain ⟨report, hreport, hperforms⟩ := change.performs_ofSet sampler set
  refine ⟨report, _, ?_, hperforms⟩
  rw [setFields, hvalid]
  simp only [updateTarget, hresolve, hset, hreport]

/-- A valid change of fields whose filter resolves to no set. -/
theorem setFields_of_resolve_none (hvalid : change.action.validated = .ok change.action)
    (hresolve : db.resolve change.filter.type = .ok none) :
    db.setFields sampler change = ⟨.ok {}, db⟩ := by
  rw [setFields, hvalid]
  simp only [updateTarget, hresolve]

variable {sampler} in
/-- A change of fields that succeeds has a valid action and a type that resolves. -/
theorem valid_of_setFields {report : Report}
    (h : (db.setFields sampler change).result = .ok report) :
    change.action.validated = .ok change.action ∧
      ∃ target, db.resolve change.filter.type = .ok target := by
  rw [setFields] at h
  cases hvalid : change.action.validated with
  | error fault =>
    rw [hvalid] at h
    cases h
  | ok action =>
    rw [hvalid] at h
    refine ⟨congrArg Except.ok (SetAction.eq_of_validated hvalid), ?_⟩
    cases hresolve : db.resolve change.filter.type with
    | ok target => exact ⟨target, rfl⟩
    | error fault =>
      simp only [updateTarget, hresolve] at h
      cases h

/-- Changing fields succeeds exactly when the action is valid and the type of the filter, if it asks
for one, is there. A change that succeeds does nothing in a database without sets. In any other it
leaves all sets but the one of the filter alone, and performs on the positions of records that the
filter selected there before. -/
theorem setFields_performs (db : Database) (sampler : Sampler) (change : FieldChange) :
    ((∃ report, (db.setFields sampler change).result = .ok report) ↔
      change.action.validated = .ok change.action ∧
        ∃ target, db.resolve change.filter.type = .ok target) ∧
    ∀ report, (db.setFields sampler change).result = .ok report →
      (db.sets = [] ∧ (db.setFields sampler change).database = db ∧ report = {}) ∨
      ∃ position set after,
        db.resolve change.filter.type = .ok (some position) ∧ db.set? position = some set ∧
        (db.setFields sampler change).database = db.replaceSet position after ∧
        (∀ place ∈ change.filter.targets sampler set, place < set.size) ∧
        change.Performs (change.filter.targets sampler set) set after report := by
  constructor
  · refine ⟨fun ⟨report, h⟩ => valid_of_setFields h, fun ⟨hvalid, target, hresolve⟩ => ?_⟩
    cases target with
    | none => exact ⟨{}, by rw [setFields_of_resolve_none sampler hvalid hresolve]⟩
    | some position =>
      obtain ⟨set, hset⟩ := exists_set_of_resolve hresolve
      obtain ⟨report, after, heq, -⟩ := setFields_of_resolve sampler hvalid hresolve
        hset
      exact ⟨report, by rw [heq]⟩
  · intro report h
    obtain ⟨hvalid, target, hresolve⟩ := valid_of_setFields h
    cases target with
    | none =>
      have heq := setFields_of_resolve_none sampler hvalid hresolve
      rw [heq] at h ⊢
      exact .inl ⟨sets_eq_nil_of_resolve hresolve, rfl, (Except.ok.inj h).symm⟩
    | some position =>
      obtain ⟨set, hset⟩ := exists_set_of_resolve hresolve
      obtain ⟨made, after, heq, hperforms⟩ := setFields_of_resolve sampler hvalid
        hresolve hset
      rw [heq] at h ⊢
      obtain rfl : made = report := Except.ok.inj h
      exact .inr ⟨position, set, after, hresolve, hset, rfl,
        fun _ => change.filter.lt_size_of_mem_targets sampler set, hperforms⟩

/-- Two books, a comment and a note in one set. -/
def mixedSpecimen : Database where
  sets :=
    [{ descriptor := some ⟨[.field ⟨"%rec", "Book"⟩, .field ⟨"%key", "Id"⟩], none⟩
       entries :=
        [.record ⟨[.field ⟨"Id", "1"⟩], none⟩,
          .comment "both get one key",
          .record ⟨[.field ⟨"Id", "2"⟩], none⟩,
          .record ⟨[.field ⟨"Note", "3"⟩], none⟩] }]

/-- Giving all books one key changes the first, is rejected for the second, and does nothing to the
note. -/
theorem setFields_performs_mixedSpecimen :
    let db := mixedSpecimen
    let change : FieldChange :=
      { fields := ⟨"Id", [⟨"Id", .all, none, false⟩]⟩, action := .set "7" }
    let report : Report := ⟨1, [⟨1, .duplicateKey "7"⟩]⟩
    (db.setFields .first change).result = .ok report ∧
      ∃ set after, db.set? 0 = some set ∧
        (db.setFields .first change).database = db.replaceSet 0 after ∧
        change.filter.targets .first set = [0, 1, 2] ∧
        change.Performs [0, 1, 2] set after report := by
  intro db change report
  have hresult : (db.setFields .first change).result = .ok report :=
    toOption_eq_some_iff.1 (by decide +kernel)
  obtain ⟨-, hperforms⟩ := setFields_performs db .first change
  rcases hperforms report hresult with
    ⟨hnil, -⟩ | ⟨position, set, after, hresolve, hset, hdb, -, h⟩
  · exact absurd hnil nofun
  · have hzero : db.resolve none = .ok (some 0) := toOption_eq_some_iff.1 (by decide +kernel)
    obtain rfl : position = 0 := Option.some.inj (Except.ok.inj (hresolve.symm.trans hzero))
    obtain rfl : db.sets.headD {} = set := Option.some.inj hset
    have htargets : change.filter.targets .first (db.sets.headD {}) = [0, 1, 2] := by
      decide +kernel
    rw [htargets] at h
    exact ⟨hresult, _, after, rfl, hdb, htargets, h⟩

end Database

end TextRecords
