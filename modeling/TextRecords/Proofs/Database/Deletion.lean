import TextRecords.Proofs.Batch.Removal
import TextRecords.Proofs.Database.Edits
import TextRecords.Proofs.Document.Stable
import TextRecords.Proofs.Filter.Targets

/-!
# What a deletion leaves in the text

A deletion leaves a database that is read back from its text, if it was before
(`Database.delete_persists`): the sets stay canonical record by record
(`RecordSet.IsCanonical.retireAt`), and where the untyped set loses its last record, its comments go
where they are read (`Database.IsCanonical.foldUntyped_replaceSet`).

A record that is commented out is kept as the text of a comment. Read by itself, that text is the
record (`Record.exists_read_joined`). What a deletion does to the set of its filter, and what it
reports, is `Deletion.Performs`.
-/

namespace TextRecords

namespace Record

/-- The text of a record by itself is read as an untyped set that holds the record. -/
theorem exists_read_joined {record : Record} (hpart : Document.IsCanonicalPart record.items)
    (hdata : record.isData = true) (config : Config) :
    ∃ read, Database.ofText config record.joined.toList = .ok read ∧
      read.unplaced = ⟨[], [{ entries := [.record record.unplaced] }]⟩ := by
  let db : Database := ⟨[], [{ entries := [.record record] }]⟩
  have hassembled : db.IsAssembled := by
    refine Database.isAssembled_of_records ⟨nofun, ?_⟩ rfl (List.cons_ne_nil _ _)
    exact List.forall_mem_singleton.2 ⟨hpart.apart, hdata⟩
  have hitems : ∀ part ∈ db.parts, ∀ item ∈ part, item.IsCanonical :=
    List.forall_mem_singleton.2 hpart.canonical
  have hne : record.lines ≠ [] := hpart.flatMap_lines.1
  -- The text of a database that holds the record alone has one newline more.
  have htext : db.text.toList = record.joined.toList ++ ['\n'] := by
    have hblocks : db.blocks = [record.lines] := rfl
    rw [Database.text, textOfBlocks, hblocks, List.intercalate_singleton, String.toList_ofList,
      joined, String.toList_ofList, Text.endLines_eq hne]
  obtain ⟨read, hread, hunplaced⟩ := hassembled.exists_read hitems config
  refine ⟨read, ?_, hunplaced⟩
  rw [htext, Database.ofText, Document.blocks_lines_append_newline] at hread
  exact hread

/-- No line of the text of a canonical record ends in a carriage return. -/
theorem noReturnEnds_joined {record : Record} (hpart : Document.IsCanonicalPart record.items) :
    Text.NoReturnEnds record.joined.toList := by
  obtain ⟨hne, hlines⟩ : record.lines ≠ [] ∧ ∀ line ∈ record.lines, Document.IsBlockLine line :=
    hpart.flatMap_lines
  rw [Text.NoReturnEnds, joined, String.toList_ofList,
    Text.segments_joinLines hne fun line hline => (hlines line hline).newline_notMem]
  exact fun line hline => (hlines line hline).getLast?_ne

end Record

/-- A canonical set with a record retired is canonical. -/
theorem RecordSet.IsCanonical.retireAt {set : RecordSet} (h : set.IsCanonical) (commentsOut : Bool)
    (position : Nat) : (set.retireAt commentsOut position).IsCanonical where
  descriptor := by
    rw [descriptor_retireAt]
    exact h.descriptor
  records := by
    intro record hrecord
    rcases mem_entries_retireAt (mem_records_iff.1 hrecord) with hold | ⟨other, -, hcomment⟩
    · exact h.records record (mem_records_iff.2 hold)
    · exact absurd hcomment nofun
  comments := by
    intro text htext
    rcases mem_entries_retireAt (mem_comments_iff.1 htext) with hold | ⟨record, hrecord, hcomment⟩
    · exact h.comments text (mem_comments_iff.2 hold)
    · obtain rfl : text = record.joined := Entry.comment.inj hcomment
      exact Record.noReturnEnds_joined (h.records record (mem_records_iff.2 hrecord)).1

/-- A canonical set with several records retired is canonical. -/
theorem RecordSet.IsCanonical.retireAll {set : RecordSet} (h : set.IsCanonical) (commentsOut : Bool)
    (positions : List Nat) : (set.retireAll commentsOut positions).IsCanonical :=
  retireAll_preserves (fun _ position hset => hset.retireAt commentsOut position) h positions

namespace Deletion

variable (deletion : Deletion)

/-- What a deletion does to a set when it keeps the records at some of the selected positions and
gives up those at others, and what it reports. -/
structure Performs (kept gone : List Nat) (before after : RecordSet) (report : Report) : Prop where
  descriptor : after.descriptor = before.descriptor
  /-- Records go as long as the set has more of them than it must have. -/
  count : gone.length = min (kept ++ gone).length (before.size - (Batch.start before).least)
  records : after.records = elementsAt (fun position => !gone.contains position) before.records
  /-- Records that are erased leave nothing, and the comments stay. -/
  erased : deletion.commentsOut = false →
    after.entries.Sublist before.entries ∧ after.comments = before.comments
  /-- Records that are commented out leave comments in their places, and no other entry changes. -/
  retired : deletion.commentsOut = true → List.Forall₂ Entry.Retires before.entries after.entries
  reported : report = Report.ofRemoval (Batch.start before).least kept gone

/-- The records at ascending positions that are retired from the highest on, and the others kept. -/
theorem performs_retireAll {kept gone : List Nat} {set : RecordSet}
    (hascending : (kept ++ gone).Pairwise (· < ·))
    (hlt : ∀ position ∈ kept ++ gone, position < set.size)
    (hcount : gone.length = min (kept ++ gone).length (set.size - (Batch.start set).least)) :
    deletion.Performs kept gone set (set.retireAll deletion.commentsOut gone.reverse)
      (Report.ofRemoval (Batch.start set).least kept gone) where
  descriptor := RecordSet.retireAll_preserves (P := (·.descriptor = set.descriptor))
    (fun after position h => (after.descriptor_retireAt _ position).trans h) rfl _
  count := hcount
  records := by
    have hdescending := List.pairwise_reverse.2 (List.pairwise_append.1 hascending).2.1
    rw [RecordSet.records_retireAll hdescending fun position hposition =>
      hlt position (List.mem_append_right kept (List.mem_reverse.1 hposition))]
    simp only [List.contains_reverse]
  erased herases := by
    rw [herases]
    refine RecordSet.retireAll_preserves (P := fun after =>
      after.entries.Sublist set.entries ∧ after.comments = set.comments)
      (fun after position h => ?_) ⟨List.Sublist.refl _, rfl⟩ _
    exact ⟨(Entry.substitute_nil_sublist position after.entries).trans h.1,
      (Entry.filterMap_comment?_substitute_nil position after.entries).trans h.2⟩
  retired hcomments := by
    rw [hcomments]
    refine RecordSet.retireAll_preserves
      (P := fun after => List.Forall₂ Entry.Retires set.entries after.entries)
      (fun after position h => ?_) (List.forall₂_same.2 fun _ _ => .inl rfl) _
    exact Entry.forall₂_retires_substitute h position
  reported := rfl

/-- A deletion from a set succeeds. It retires records at the last of the positions that its filter
selects, and performs on all of them. -/
theorem performs_fromSet (sampler : Sampler) (set : RecordSet) :
    ∃ kept gone report, deletion.filter.targets sampler set = kept ++ gone ∧
      deletion.fromSet sampler set =
        (.ok report, set.retireAll deletion.commentsOut gone.reverse) ∧
      deletion.Performs kept gone set (set.retireAll deletion.commentsOut gone.reverse) report := by
  have hascending := deletion.filter.pairwise_targets sampler set
  have hlt : ∀ position ∈ deletion.filter.targets sampler set, position < set.size :=
    fun _ => deletion.filter.lt_size_of_mem_targets sampler set
  obtain ⟨kept, gone, hsplit, hcount, hset, hreport⟩ :=
    Batch.remove_start deletion.commentsOut set hascending hlt fun _ => Iff.rfl
  have hfrom : deletion.fromSet sampler set =
      (.ok (Report.ofRemoval (Batch.start set).least kept gone),
        set.retireAll deletion.commentsOut gone.reverse) := by
    rw [fromSet, hset, hreport]
  rw [hsplit] at hascending hlt hcount
  exact ⟨kept, gone, _, hsplit, hfrom, deletion.performs_retireAll hascending hlt hcount⟩

end Deletion

namespace Database

variable {db : Database}

/-- In a canonical database no untyped set is without records, so no comments are moved. -/
theorem IsCanonical.foldUntyped_eq (h : db.IsCanonical) : db.foldUntyped = db := by
  obtain ⟨prologue, sets⟩ := db
  cases sets with
  | nil => rfl
  | cons first rest =>
    refine if_neg ?_
    rw [Bool.and_eq_true, Option.isNone_iff_eq_none, List.isEmpty_iff]
    rintro ⟨hdescriptor, hrecords⟩
    exact (h.untyped first rfl hdescriptor).1 hrecords

/-- Another canonical set with the same descriptor in place of one leaves a database canonical, if
it does not leave the untyped set without records. -/
theorem IsCanonical.replaceSet (h : db.IsCanonical) {position : Nat} {set next : RecordSet}
    (hset : db.set? position = some set) (hnext : next.IsCanonical)
    (hdescriptor : next.descriptor = set.descriptor)
    (hrecords : next.descriptor = none → next.records ≠ []) :
    (db.replaceSet position next).IsCanonical := by
  have htype : next.declaredType? = set.declaredType? := by
    rw [RecordSet.declaredType?, hdescriptor, RecordSet.declaredType?]
  have hassembled := (isCanonical_iff.1 h).1.replaceSet hset hnext.isAssembled htype
    fun hnone _ => hrecords hnone
  refine ⟨h.prologue, fun other hother => ?_, hassembled.types, hassembled.untypedFirst,
    hassembled.untyped⟩
  rcases List.mem_or_eq_of_mem_set hother with hother | rfl
  · exact h.sets other hother
  · exact hnext

/-- The sets after a first one without a descriptor are canonical behind any comments. -/
theorem IsCanonical.of_untyped {prologue : List String} {first : RecordSet} {rest : List RecordSet}
    (h : IsCanonical ⟨prologue, first :: rest⟩) (hfirst : first.descriptor = none)
    {comments : List String} (hcomments : ∀ text ∈ comments, Text.NoReturnEnds text.toList) :
    IsCanonical ⟨comments, rest⟩ where
  prologue := hcomments
  sets set hset := h.sets set (List.mem_cons_of_mem _ hset)
  types := by
    have htypes := h.types
    rwa [List.filterMap_cons_none] at htypes
    rw [RecordSet.declaredType?, hfirst, Option.bind_none]
  untypedFirst set hset := h.untypedFirst set (List.mem_of_mem_tail hset)
  untyped set hset hnone := by
    have hsome := h.untypedFirst set (List.mem_of_mem_head? hset)
    rw [hnone] at hsome
    cases hsome

/-- Another canonical set with the same descriptor in place of one leaves a database canonical, once
the comments of an untyped set without records are moved to the prologue. -/
theorem IsCanonical.foldUntyped_replaceSet (h : db.IsCanonical) {position : Nat}
    {set next : RecordSet} (hset : db.set? position = some set) (hnext : next.IsCanonical)
    (hdescriptor : next.descriptor = set.descriptor) :
    (db.replaceSet position next).foldUntyped.IsCanonical := by
  -- The comments are moved exactly when the set would be lost in the text.
  by_cases hempty : next.descriptor = none ∧ next.records = []
  · obtain ⟨hnone, hrecords⟩ := hempty
    obtain ⟨prologue, sets⟩ := db
    cases sets with
    | nil => exact absurd hset nofun
    | cons first rest =>
      cases position with
      | zero =>
        obtain rfl : first = set := Option.some.inj hset
        rw [hnone] at hdescriptor
        have hprologue : prologue = [] := (h.untyped first rfl hdescriptor.symm).2
        have hfold : (Database.replaceSet ⟨prologue, first :: rest⟩ 0 next).foldUntyped =
            ⟨prologue ++ next.comments, rest⟩ := by
          refine if_pos ?_
          rw [hnone, hrecords]
          rfl
        rw [hfold, hprologue, List.nil_append]
        exact h.of_untyped hdescriptor.symm hnext.comments
      | succ position =>
        have hsome := h.untypedFirst set (List.mem_of_getElem? hset)
        rw [← hdescriptor, hnone] at hsome
        exact absurd hsome nofun
  · have hcanonical := h.replaceSet hset hnext hdescriptor fun hnone hrecords =>
      hempty ⟨hnone, hrecords⟩
    rwa [hcanonical.foldUntyped_eq]

/-- A deletion that succeeds does nothing in a database without sets. In any other it performs on
the set of its filter, and the comments of an untyped set without records are moved. -/
theorem delete_cases {sampler : Sampler} {deletion : Deletion} {report : Report}
    (h : (db.delete sampler deletion).result = .ok report) :
    (db.sets = [] ∧ (db.delete sampler deletion).database = db ∧ report = {}) ∨
      ∃ position set kept gone, db.resolve deletion.filter.type = .ok (some position) ∧
        db.set? position = some set ∧
        deletion.filter.targets sampler set = kept ++ gone ∧
        (db.delete sampler deletion).database =
          (db.replaceSet position
            (set.retireAll deletion.commentsOut gone.reverse)).foldUntyped ∧
        deletion.Performs kept gone set (set.retireAll deletion.commentsOut gone.reverse)
          report := by
  rw [delete, updateTarget] at h ⊢
  cases hresolve : db.resolve deletion.filter.type with
  | error fault =>
    rw [hresolve] at h
    cases h
  | ok target =>
    cases target with
    | none =>
      rw [hresolve] at h
      obtain ⟨prologue, sets⟩ := db
      obtain rfl : sets = [] := sets_eq_nil_of_resolve hresolve
      exact .inl ⟨rfl, rfl, (Except.ok.inj h).symm⟩
    | some position =>
      obtain ⟨set, hset⟩ := exists_set_of_resolve hresolve
      obtain ⟨kept, gone, made, htargets, hmade, hperforms⟩ := deletion.performs_fromSet sampler set
      simp only [hresolve, hset, hmade] at h ⊢
      obtain rfl : made = report := Except.ok.inj h
      exact .inr ⟨position, set, kept, gone, rfl, hset, htargets, rfl, hperforms⟩

/-- A deletion that succeeds leaves a database that is read back from its text if it was before. Of
the positions that its filter selects it gives up the last ones, as many as the set can do without,
and reports the others. The text of every record there, which a comment keeps when the record is
commented out, is read by itself as an untyped set that holds the record. -/
theorem delete_persists {sampler : Sampler} {deletion : Deletion} (hstable : db.IsStable)
    {report : Report} (h : (db.delete sampler deletion).result = .ok report) :
    (db.delete sampler deletion).database.IsStable ∧
      ((db.sets = [] ∧ (db.delete sampler deletion).database = db ∧ report = {}) ∨
        ∃ position set after kept gone, db.resolve deletion.filter.type = .ok (some position) ∧
          db.set? position = some set ∧
          (db.delete sampler deletion).database = (db.replaceSet position after).foldUntyped ∧
          deletion.filter.targets sampler set = kept ++ gone ∧
          deletion.Performs kept gone set after report ∧
          ∀ record ∈ set.records, ∀ config : Config, ∃ read,
            ofText config record.joined.toList = .ok read ∧
              read.unplaced = ⟨[], [{ entries := [.record record.unplaced] }]⟩) := by
  have hcanonical := isStable_iff_isCanonical.1 hstable
  rw [isStable_iff_isCanonical]
  rcases delete_cases h with ⟨hsets, hdb, hreport⟩ |
    ⟨position, set, kept, gone, hresolve, hset, htargets, hdb, hperforms⟩
  · rw [hdb]
    exact ⟨hcanonical, .inl ⟨hsets, rfl, hreport⟩⟩
  · have hcanonicalSet := hcanonical.sets set (List.mem_of_getElem? hset)
    refine ⟨?_, .inr ⟨position, set, _, kept, gone, hresolve, hset, hdb, htargets, hperforms, ?_⟩⟩
    · rw [hdb]
      exact hcanonical.foldUntyped_replaceSet hset
        (hcanonicalSet.retireAll deletion.commentsOut gone.reverse) hperforms.descriptor
    · intro record hrecord config
      obtain ⟨hpart, hdata⟩ := hcanonicalSet.records record hrecord
      exact record.exists_read_joined hpart hdata config

/-- Commenting out the only record of the untyped set moves its comments, and the one that holds the
record, to the prologue. -/
theorem delete_persists_specimen :
    let deletion : Deletion := { commentsOut := true }
    let after := (specimen.delete .first deletion).database
    specimen.IsStable ∧ (specimen.delete .first deletion).result = .ok ⟨1, []⟩ ∧
      after.prologue.length = 3 ∧ after.sets.length = 1 ∧ after.IsStable := by
  intro deletion after
  have hstable : specimen.IsStable := isStable_iff_isCanonical.2 (by decide)
  have hresult : (specimen.delete .first deletion).result = .ok ⟨1, []⟩ :=
    toOption_eq_some_iff.1 (by decide +kernel)
  exact ⟨hstable, hresult, by decide +kernel, by decide +kernel,
    (delete_persists hstable hresult).1⟩

end Database

end TextRecords
