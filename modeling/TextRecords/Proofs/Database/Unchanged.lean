import TextRecords.Proofs.Batch.Counted
import TextRecords.Proofs.Database.Insertion

/-!
# Operations that report no change

`Database.Edit.Makes` says all that an operation on records can make of a database when it
succeeds. It keeps a database settled (`Database.IsSettled.of_makes`): sets but the first have
descriptors, and a first set without one has records, or it is the only set and has no entries at
all. A database that is read from a text is settled (`Database.isSettled_of_ofText`), so every one
that operations make of it is (`Database.IsSettled.of_editAll`).

In a settled database, an operation that reports no change makes none, with one exception
(`Database.edit_eq_iff_not_toggles`): replacing records in a database without sets leaves an untyped
set without entries, and deleting records removes it again. The text of the database is the same
with that set and without it.
-/

namespace TextRecords

/-- An insertion into a set that succeeds and reports no change replaces records, but none of this
set. In any other case there are records in the set afterwards. -/
theorem Insertion.eq_of_intoSet_unchanged {insertion : Insertion} {sampler : Sampler}
    {generator : Generator} {set next : RecordSet} {report : Report}
    (h : insertion.intoSet sampler generator set = (.ok report, next)) :
    (report.changed = 0 → insertion.replaces = true ∧ insertion.filter.isUnrestricted = false ∧
      next = set) ∧ (next = set ∨ next.records ≠ []) := by
  by_cases hinserts : insertion.replaces = false ∨ insertion.filter.isUnrestricted = true
  · obtain ⟨hone, position, rfl⟩ := eq_of_intoSet h hinserts
    refine ⟨fun hzero => ?_,
      .inr (List.ne_nil_of_mem (RecordSet.mem_records_insertBefore position))⟩
    rw [hone] at hzero
    cases hzero
  · obtain ⟨hreplaces, hrestricted⟩ := not_or.1 hinserts
    rw [Bool.not_eq_false] at hreplaces
    rw [Bool.not_eq_true] at hrestricted
    rw [intoSet, hrestricted, hreplaces] at h
    obtain ⟨hsame, hrecords⟩ := RecordSet.eq_of_replaceSelected h
    exact ⟨fun hzero => ⟨hreplaces, hrestricted, hsame hzero⟩, hrecords⟩

namespace Database

namespace Edit

/-- What an operation that succeeds, with some report, makes of a database. -/
inductive Makes (db : Database) (report : Report) : Edit → Database → Prop
  /-- The untyped set is created, and the insertion goes into it. -/
  | created {sampler : Sampler} {generator : Generator} {insertion : Insertion} {next : RecordSet}
      (hsets : db.sets = []) (htype : insertion.filter.type = none)
      (h : insertion.intoSet sampler generator {} = (.ok report, next)) :
      Makes db report (.insert sampler generator insertion) ⟨db.prologue, [next]⟩
  | inserted {sampler : Sampler} {generator : Generator} {insertion : Insertion} {position : Nat}
      {set next : RecordSet} (hset : db.set? position = some set)
      (h : insertion.intoSet sampler generator set = (.ok report, next)) :
      Makes db report (.insert sampler generator insertion) (db.replaceSet position next)
  | nothingDeleted {sampler : Sampler} {deletion : Deletion} (hsets : db.sets = []) :
      Makes db report (.delete sampler deletion) db
  | deleted {sampler : Sampler} {deletion : Deletion} {position : Nat} {set next : RecordSet}
      (hset : db.set? position = some set)
      (h : deletion.fromSet sampler set = (.ok report, next)) :
      Makes db report (.delete sampler deletion) (db.replaceSet position next).foldUntyped
  | nothingChanged {sampler : Sampler} {change : FieldChange} (hsets : db.sets = []) :
      Makes db report (.setFields sampler change) db
  | changed {sampler : Sampler} {change : FieldChange} {position : Nat} {set next : RecordSet}
      (hset : db.set? position = some set) (h : change.ofSet sampler set = (.ok report, next)) :
      Makes db report (.setFields sampler change) (db.replaceSet position next)

/-- Whether an operation creates the untyped set and leaves it without entries, or removes such a
set. -/
def Toggles (db : Database) : Edit → Prop
  | .insert _ _ insertion => db.sets = [] ∧ insertion.filter.type = none ∧
    insertion.filter.isUnrestricted = false ∧ insertion.replaces = true
  | .delete _ _ => db.sets = [{}]
  | .setFields _ _ => False

end Edit

variable {db after : Database} {edit : Edit} {report : Report}

/-- Comments are moved to the prologue after a deletion that succeeds. -/
theorem delete_eq_ok {sampler : Sampler} {deletion : Deletion}
    (h : db.delete sampler deletion = ⟨.ok report, after⟩) :
    ∃ middle, db.updateTarget deletion.filter (deletion.fromSet sampler) = ⟨.ok report, middle⟩ ∧
      after = middle.foldUntyped := by
  rw [delete] at h
  cases hupdate : db.updateTarget deletion.filter (deletion.fromSet sampler) with
  | mk result middle =>
    rw [hupdate] at h
    cases result with
    | error fault => cases (Outcome.mk.inj h).1
    | ok made =>
      obtain ⟨hreport, hafter⟩ := Outcome.mk.inj h
      obtain rfl : made = report := Except.ok.inj hreport
      exact ⟨middle, rfl, hafter.symm⟩

/-- A database without sets has no comments to move. -/
theorem foldUntyped_of_sets_nil (h : db.sets = []) : db.foldUntyped = db := by
  rw [foldUntyped, h]

/-- An operation that succeeds makes what it can. -/
theorem makes_of_edit (h : db.edit edit = ⟨.ok report, after⟩) : edit.Makes db report after := by
  cases edit with
  | insert sampler generator insertion =>
    obtain ⟨-, ⟨hsets, htype, next, hinto, rfl⟩ | ⟨position, set, next, -, hset, hinto, rfl⟩⟩ :=
      insert_cases h
    · exact .created hsets htype hinto
    · exact .inserted hset hinto
  | delete sampler deletion =>
    obtain ⟨middle, hupdate, rfl⟩ := delete_eq_ok h
    rcases updateTarget_eq_ok hupdate with ⟨hsets, rfl, -⟩ |
      ⟨position, set, next, -, hset, hfrom, rfl⟩
    · rw [foldUntyped_of_sets_nil hsets]
      exact .nothingDeleted hsets
    · exact .deleted hset hfrom
  | setFields sampler change =>
    rw [Database.edit, setFields] at h
    split at h
    · cases (Outcome.mk.inj h).1
    · rcases updateTarget_eq_ok h with ⟨hsets, rfl, -⟩ | ⟨position, set, next, -, hset, hof, rfl⟩
      · exact .nothingChanged hsets
      · exact .changed hset hof

/-- A database of which only the first set may lack a descriptor, and in which that set has records,
or stands alone and has no entries. -/
structure IsSettled (db : Database) : Prop where
  untypedFirst : ∀ set ∈ db.sets.tail, set.descriptor.isSome
  untyped : ∀ set ∈ db.sets.head?, set.descriptor = none → set.records ≠ [] ∨ db.sets = [{}]

/-- A database that is read from a text is settled. -/
theorem isSettled_of_ofText {config : Config} {text : List Char} (h : ofText config text = .ok db) :
    db.IsSettled := by
  have hassembled := isAssembled_of_unplaced (isAssembled_unplaced_of_ofText h)
  exact ⟨hassembled.untypedFirst, fun set hset hnone => .inl (hassembled.untyped set hset hnone).1⟩

namespace IsSettled

/-- Another set with a descriptor as before leaves it at the first set alone to lack one. -/
theorem untypedFirst_replaceSet (h : db.IsSettled) {position : Nat} {set next : RecordSet}
    (hset : db.set? position = some set) (hdescriptor : next.descriptor = set.descriptor) :
    ∀ other ∈ (db.replaceSet position next).sets.tail, other.descriptor.isSome := by
  intro other hother
  obtain ⟨prologue, sets⟩ := db
  cases sets with
  | nil => cases hset
  | cons first rest =>
    cases position with
    | zero => exact h.untypedFirst other hother
    | succ position =>
      rcases List.mem_or_eq_of_mem_set hother with hrest | rfl
      · exact h.untypedFirst other hrest
      · rw [hdescriptor]
        exact h.untypedFirst set (List.mem_of_getElem? hset)

/-- Another set with the same descriptor leaves a database settled, if it has records. -/
theorem replaceSet (h : db.IsSettled) {position : Nat} {set next : RecordSet}
    (hset : db.set? position = some set) (hdescriptor : next.descriptor = set.descriptor)
    (hrecords : next = set ∨ next.records ≠ []) : (db.replaceSet position next).IsSettled := by
  rcases hrecords with rfl | hrecords
  · rw [replaceSet_self hset]
    exact h
  · refine ⟨h.untypedFirst_replaceSet hset hdescriptor, fun other hother hnone => .inl ?_⟩
    obtain ⟨prologue, sets⟩ := db
    cases sets with
    | nil => cases hset
    | cons first rest =>
      cases position with
      | zero =>
        obtain rfl : next = other := Option.some.inj hother
        exact hrecords
      | succ position =>
        -- The first set is not the only one, so it has records if it lacks a descriptor.
        obtain rfl : first = other := Option.some.inj hother
        refine (h.untyped first rfl hnone).resolve_right fun halone => ?_
        obtain rfl : rest = [] := (List.cons.inj halone).2
        cases hset

/-- Once the comments of an untyped set without records are moved, there is no such set. -/
theorem foldUntyped (h : ∀ set ∈ db.sets.tail, set.descriptor.isSome) :
    db.foldUntyped.IsSettled := by
  obtain ⟨prologue, sets⟩ := db
  cases sets with
  | nil => exact ⟨List.forall_mem_nil _, nofun⟩
  | cons first rest =>
    have hrest : ∀ set ∈ rest, set.descriptor.isSome := h
    by_cases hempty : (first.descriptor.isNone && first.records.isEmpty) = true
    · have hfold : Database.foldUntyped ⟨prologue, first :: rest⟩ =
          ⟨prologue ++ first.comments, rest⟩ := if_pos hempty
      rw [hfold]
      refine ⟨fun set hset => hrest set (List.mem_of_mem_tail hset), fun set hset hnone => ?_⟩
      have hsome := hrest set (List.mem_of_mem_head? hset)
      rw [hnone] at hsome
      cases hsome
    · have hfold : Database.foldUntyped ⟨prologue, first :: rest⟩ = ⟨prologue, first :: rest⟩ :=
        if_neg hempty
      rw [hfold]
      refine ⟨hrest, fun set hset hnone => .inl fun hnil => hempty ?_⟩
      obtain rfl : first = set := Option.some.inj hset
      rw [hnone, hnil]
      rfl

/-- Operations that succeed leave a settled database settled. -/
theorem of_makes (h : db.IsSettled) (hmakes : edit.Makes db report after) : after.IsSettled := by
  cases hmakes with
  | @created sampler generator insertion next hsets htype hinto =>
    refine ⟨List.forall_mem_nil _, fun set hset hnone => ?_⟩
    obtain rfl : next = set := Option.some.inj hset
    rcases (Insertion.eq_of_intoSet_unchanged hinto).2 with rfl | hrecords
    · exact .inr rfl
    · exact .inl hrecords
  | @inserted sampler generator insertion position set next hset hinto =>
    have hbecomes := insertion.becomes_intoSet sampler generator set
    rw [hinto] at hbecomes
    exact h.replaceSet hset hbecomes.descriptor_eq (Insertion.eq_of_intoSet_unchanged hinto).2
  | nothingDeleted hsets => exact h
  | @deleted sampler deletion position set next hset hfrom =>
    have hbecomes := deletion.becomes_fromSet sampler set
    rw [hfrom] at hbecomes
    exact foldUntyped (h.untypedFirst_replaceSet hset hbecomes.descriptor_eq)
  | nothingChanged hsets => exact h
  | @changed sampler change position set next hset hof =>
    have hbecomes := change.becomes_ofSet sampler set
    rw [hof] at hbecomes
    exact h.replaceSet hset hbecomes.descriptor_eq (FieldChange.eq_of_ofSet hof).2

/-- Operations leave a settled database settled, whether they succeed or fail. -/
theorem of_edit (h : db.IsSettled) (edit : Edit) : (db.edit edit).database.IsSettled := by
  cases hresult : (db.edit edit).result with
  | error fault =>
    rw [edit_of_error hresult]
    exact h
  | ok report =>
    have houtcome : db.edit edit = ⟨.ok report, (db.edit edit).database⟩ := by rw [← hresult]
    exact h.of_makes (makes_of_edit houtcome)

/-- Operations one after another leave a settled database settled. -/
theorem of_editAll (h : db.IsSettled) (edits : List Edit) : (db.editAll edits).IsSettled := by
  induction edits generalizing db with
  | nil => exact h
  | cons edit rest ih => exact ih (h.of_edit edit)

/-- In a settled database there are no comments to move, unless it has a set without entries. -/
theorem foldUntyped_eq (h : db.IsSettled) :
    db.foldUntyped = if db.sets = [{}] then ⟨db.prologue, []⟩ else db := by
  obtain ⟨prologue, sets⟩ := db
  cases sets with
  | nil => rfl
  | cons first rest =>
    split
    · next halone =>
      obtain ⟨rfl, rfl⟩ := List.cons.inj halone
      have hcomments : prologue ++ ({} : RecordSet).comments = prologue := List.append_nil prologue
      exact congrArg (Database.mk · []) hcomments
    · next hmore =>
      refine if_neg fun hempty => hmore ?_
      rw [Bool.and_eq_true, Option.isNone_iff_eq_none, List.isEmpty_iff] at hempty
      exact (h.untyped first rfl hempty.1).resolve_left fun hne => hne hempty.2

end IsSettled

/-- A database with an untyped set without entries, if it has no set, and without any otherwise. -/
def toggled (db : Database) : Database :=
  { db with sets := if db.sets.isEmpty then [{}] else [] }

/-- An untyped set without entries is not written. -/
theorem text_toggled (h : db.sets = [] ∨ db.sets = [{}]) : db.toggled.text = db.text := by
  have hblocks : db.toggled.blocks = db.blocks := by
    obtain ⟨prologue, sets⟩ := db
    rcases h with rfl | rfl
    · rfl
    · rfl
  rw [text, hblocks, text]

/-- With an untyped set or without, the databases differ. -/
theorem toggled_ne (db : Database) : db.toggled ≠ db := by
  intro heq
  have hsets : (if db.sets.isEmpty then [{}] else []) = db.sets := congrArg Database.sets heq
  split at hsets
  · next hempty =>
    rw [← hsets] at hempty
    cases hempty
  · next hne => exact hne (hsets ▸ rfl)

/-- An operation that reports no change leaves a settled database as it is, except for an untyped
set without entries. -/
theorem eq_of_makes (h : db.IsSettled) (hmakes : edit.Makes db report after)
    (hchanged : report.changed = 0) :
    (edit.Toggles db → (db.sets = [] ∨ db.sets = [{}]) ∧ after = db.toggled) ∧
      (¬ edit.Toggles db → after = db) := by
  cases hmakes with
  | @created sampler generator insertion next hsets htype hinto =>
    obtain ⟨hreplaces, hrestricted, rfl⟩ :=
      (Insertion.eq_of_intoSet_unchanged hinto).1 hchanged
    refine ⟨fun _ => ⟨.inl hsets, ?_⟩, fun hnot => ?_⟩
    · rw [toggled, hsets]
      rfl
    · exact absurd ⟨hsets, htype, hrestricted, hreplaces⟩ hnot
  | @inserted sampler generator insertion position set next hset hinto =>
    obtain ⟨-, -, rfl⟩ := (Insertion.eq_of_intoSet_unchanged hinto).1 hchanged
    refine ⟨fun htoggles => ?_, fun _ => replaceSet_self hset⟩
    rw [set?, htoggles.1] at hset
    cases hset
  | nothingDeleted hsets =>
    refine ⟨fun htoggles => ?_, fun _ => rfl⟩
    have halone : db.sets = [{}] := htoggles
    rw [hsets] at halone
    cases halone
  | @deleted sampler deletion position set next hset hfrom =>
    obtain rfl := Deletion.eq_of_fromSet hfrom hchanged
    rw [replaceSet_self hset, h.foldUntyped_eq]
    refine ⟨fun htoggles => ⟨.inr htoggles, ?_⟩, fun hnot => if_neg hnot⟩
    have halone : db.sets = [{}] := htoggles
    rw [if_pos halone, toggled, halone]
    rfl
  | nothingChanged hsets => exact ⟨False.elim, fun _ => rfl⟩
  | @changed sampler change position set next hset hof =>
    obtain rfl := (FieldChange.eq_of_ofSet hof).1 hchanged
    exact ⟨False.elim, fun _ => replaceSet_self hset⟩

/-- An operation on a database that operations made of a read one reports no change. Then it leaves
the database exactly as it is, unless it is a replacement in a database without sets, which leaves
an untyped set without entries behind, or a deletion where there is such a set, which removes it.
The text of the database is the same in any case. -/
theorem edit_eq_iff_not_toggles {config : Config} {text : List Char} {start : Database}
    (hstart : ofText config text = .ok start) (edits : List Edit)
    (h : (start.editAll edits).edit edit = ⟨.ok report, after⟩) (hchanged : report.changed = 0) :
    (after = start.editAll edits ↔ ¬ edit.Toggles (start.editAll edits)) ∧
      (edit.Toggles (start.editAll edits) → after = (start.editAll edits).toggled) ∧
      after.text = (start.editAll edits).text := by
  have hsettled := (isSettled_of_ofText hstart).of_editAll edits
  obtain ⟨htoggles, hkept⟩ := eq_of_makes hsettled (makes_of_edit h) hchanged
  refine ⟨⟨fun hsame htoggle => ?_, hkept⟩, fun htoggle => (htoggles htoggle).2, ?_⟩
  · rw [(htoggles htoggle).2] at hsame
    exact toggled_ne _ hsame
  · by_cases htoggle : edit.Toggles (start.editAll edits)
    · obtain ⟨hsets, heq⟩ := htoggles htoggle
      rw [heq, text_toggled hsets]
    · rw [hkept htoggle]

/-- Setting the values that the records have, after the first record was deleted, reports no change
and makes none. -/
theorem edit_eq_iff_not_toggles_sameValues :
    let start : Database := ⟨[], [{ entries :=
      [.record ⟨[.field ⟨"a", "1"⟩], some ⟨1, 0⟩⟩, .record ⟨[.field ⟨"a", "2"⟩], some ⟨3, 6⟩⟩] }]⟩
    let edits : List Edit := [.delete .first { filter := { position := some 0 } }]
    let edit : Edit := .setFields .first
      { fields := ⟨"a", [⟨"a", .all, none, false⟩]⟩, action := .set "2" }
    ofText {} "a: 1\n\na: 2\n".toList = .ok start ∧
      ((start.editAll edits).edit edit).result = .ok ⟨0, []⟩ ∧
      ((start.editAll edits).edit edit).database = start.editAll edits := by
  intro start edits edit
  have hstart : ofText {} "a: 1\n\na: 2\n".toList = .ok start :=
    toOption_eq_some_iff.1 (by decide +kernel)
  have hresult : ((start.editAll edits).edit edit).result = .ok ⟨0, []⟩ :=
    toOption_eq_some_iff.1 (by decide +kernel)
  have houtcome : (start.editAll edits).edit edit =
      ⟨.ok ⟨0, []⟩, ((start.editAll edits).edit edit).database⟩ := by rw [← hresult]
  have hiff := (edit_eq_iff_not_toggles hstart edits houtcome rfl).1
  exact ⟨hstart, hresult, hiff.2 not_false⟩

/-- Replacing records in an empty database reports no change, but leaves an untyped set behind. -/
theorem edit_ne_of_unchanged :
    let edit : Edit := .insert .first ⟨fun _ => "", ""⟩
      { filter := { part := some "x" }, record := ⟨[.field ⟨"a", "1"⟩], none⟩, replaces := true }
    let start : Database := {}
    ofText {} [] = .ok start ∧ ((start.editAll []).edit edit).result = .ok ⟨0, []⟩ ∧
      ((start.editAll []).edit edit).database ≠ start.editAll [] := by
  intro edit start
  exact ⟨rfl, toOption_eq_some_iff.1 (by decide +kernel), by decide +kernel⟩

end Database

end TextRecords
