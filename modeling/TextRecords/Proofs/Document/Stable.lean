import Mathlib.Algebra.Order.BigOperators.Group.List
import Mathlib.Algebra.Order.Group.Nat
import TextRecords.Proofs.Document.Additions
import TextRecords.Proofs.Document.Gathered

/-!
# Databases that are read back

A database is stable when it is read back from its text. Each time a text is read, a line end takes
one carriage return with it (`Database.within_of_ofText`), so no line of a stable database ends in
one (`Database.IsStable.within_zero`), and its descriptors keep their comments apart, or they would
be gathered. The stable databases are the canonical ones (`Database.isStable_iff_isCanonical`).

A database that is read from a text need not be stable. It is when no line of the text ends in two
carriage returns, if no type is declared twice (`Database.isStable_iff_returns_le_one`). A text
without carriage returns may declare types more than once; what is read from it is stable unless a
merge made neighbours of two comments (`Database.exists_read_of_returnless`).
-/

namespace TextRecords

/-- A database that is read back from its text, except for the places of its records. -/
def Database.IsStable (db : Database) : Prop :=
  ∃ read, ofText {} db.text.toList = .ok read ∧ read.unplaced = db.unplaced

namespace Item

/-- The lines of an item with a proper name hold no newlines. -/
theorem newline_notMem_of_mem_lines {item : Item} (h : item.isNamed = true) :
    ∀ line ∈ item.lines, '\n' ∉ line := by
  cases item with
  | field field =>
    obtain ⟨first, others, hsegments⟩ := List.exists_cons_of_ne_nil
      (Text.segments_ne_nil field.value.toList)
    have hplain : ∀ line ∈ first :: others, '\n' ∉ line := by
      rw [← hsegments]
      exact fun line hline => Text.newline_notMem_of_mem_segments hline
    rw [List.forall_mem_cons] at hplain
    rw [lines, Field.lines_eq hsegments, List.forall_mem_cons, List.forall_mem_map]
    exact ⟨Field.newline_notMem_headLine h hplain.1,
      fun line hline => Field.newline_notMem_nextLine (hplain.2 line hline)⟩
  | comment text =>
    rw [lines, commentLines, List.forall_mem_map]
    intro line hline
    rw [List.mem_cons, not_or]
    exact ⟨by decide, Text.newline_notMem_of_mem_segments hline⟩

/-- The lines of an item end in as many carriage returns as those of its value or text. -/
theorem map_returns_lines (item : Item) :
    item.lines.map Text.returns = item.contents.map Text.returns := by
  cases item with
  | field field =>
    obtain ⟨first, others, hsegments⟩ := List.exists_cons_of_ne_nil
      (Text.segments_ne_nil field.value.toList)
    have hhead : Text.returns (Field.headLine field.name.toList first) = Text.returns first :=
      (Text.returns_append_cons (by decide) _ _).trans (Text.returns_valueTail first)
    have hnext : ∀ line, Text.returns (Field.nextLine line) = Text.returns line := fun line =>
      (Text.returns_cons (by decide) _).trans (Text.returns_valueTail line)
    rw [lines, Field.lines_eq hsegments, contents, hsegments, List.map_cons, List.map_cons, hhead,
      List.map_map]
    exact congrArg _ (List.map_congr_left fun line _ => hnext line)
  | comment text =>
    rw [lines, commentLines, contents, List.map_map]
    exact List.map_congr_left fun line _ => Text.returns_cons (by decide) line

/-- An item is within a bound when its lines are. -/
theorem within_iff {item : Item} {bound : Nat} :
    item.Within bound ↔ ∀ line ∈ item.lines, Text.returns line ≤ bound := by
  have hcontents : item.Within bound ↔ ∀ count ∈ item.contents.map Text.returns, count ≤ bound := by
    rw [List.forall_mem_map]
    rfl
  rw [hcontents, ← map_returns_lines, List.forall_mem_map]

end Item

namespace Database

variable {db : Database}

/-- The segments of the text of a database are the lines of its parts and empty lines. -/
theorem mem_segments_text (hnames : ∀ part ∈ db.parts, ∀ item ∈ part, item.isNamed = true)
    {line : List Char} (h : line ∈ Text.segments db.text.toList) :
    line = [] ∨ ∃ part ∈ db.parts, ∃ item ∈ part, line ∈ item.lines := by
  have hlines : ∀ line ∈ List.intercalate [[]] db.blocks,
      line = [] ∨ ∃ part ∈ db.parts, ∃ item ∈ part, line ∈ item.lines := by
    intro line hline
    rcases Text.mem_of_mem_intercalate hline with hempty | ⟨block, hblock, hline⟩
    · exact .inl (List.mem_singleton.1 hempty)
    · rw [blocks_eq, List.mem_map] at hblock
      obtain ⟨part, hpart, rfl⟩ := hblock
      exact .inr ⟨part, hpart, List.mem_flatMap.1 hline⟩
  have hplain : ∀ line ∈ List.intercalate [[]] db.blocks, '\n' ∉ line := by
    intro line hline
    rcases hlines line hline with rfl | ⟨part, hpart, item, hitem, hline⟩
    · exact List.not_mem_nil
    · exact Item.newline_notMem_of_mem_lines (hnames part hpart item hitem) line hline
  rw [text, textOfBlocks, String.toList_ofList, Text.segments_endLines hplain,
    List.mem_append, List.mem_singleton] at h
  exact h.elim (hlines line) .inl

/-- The lines of the text of a database end in no more carriage returns than those of its items. -/
theorem returns_le_of_mem_segments_text {bound : Nat}
    (h : ∀ part ∈ db.parts, ∀ item ∈ part, item.isNamed = true ∧ item.Within bound)
    {line : List Char} (hline : line ∈ Text.segments db.text.toList) :
    Text.returns line ≤ bound := by
  rcases mem_segments_text (fun part hpart item hitem => (h part hpart item hitem).1) hline with
    rfl | ⟨part, hpart, item, hitem, hmem⟩
  · exact Nat.zero_le _
  · exact Item.within_iff.1 (h part hpart item hitem).2 line hmem

/-- Databases that differ in places alone have the same parts. -/
theorem parts_congr {read : Database} (h : read.unplaced = db.unplaced) :
    read.parts = db.parts := by
  rw [← parts_unplaced, h, parts_unplaced]

/-- The fields of a database that is read from a text have proper names. -/
theorem isNamed_of_ofText {config : Config} {text : List Char} (h : ofText config text = .ok db) :
    ∀ part ∈ db.parts, ∀ item ∈ part, item.isNamed = true :=
  forall_items_of_ofText h fun _ hpart => (Document.isPart_of_mem_parts hpart).named

/-- The items of a database that is read from a text end no line in more carriage returns than the
lines of the text do, less one. -/
theorem within_of_ofText {config : Config} {text : List Char} (h : ofText config text = .ok db)
    {bound : Nat} (hlines : ∀ line ∈ Text.segments text, Text.returns line ≤ bound + 1) :
    ∀ part ∈ db.parts, ∀ item ∈ part, item.Within bound :=
  forall_items_of_ofText h ((Document.within_parts_iff h).2 fun line hline _ => hlines line hline)

namespace IsStable

/-- A stable database is assembled. -/
theorem isAssembled (h : db.IsStable) : db.IsAssembled := by
  obtain ⟨read, hread, hunplaced⟩ := h
  have hassembled := isAssembled_unplaced_of_ofText hread
  rw [hunplaced] at hassembled
  exact isAssembled_of_unplaced hassembled

/-- The fields of a stable database have proper names. -/
theorem isNamed (h : db.IsStable) : ∀ part ∈ db.parts, ∀ item ∈ part, item.isNamed = true := by
  obtain ⟨read, hread, hunplaced⟩ := h
  rw [← parts_congr hunplaced]
  exact isNamed_of_ofText hread

/-- If the items of a stable database end no line in more carriage returns than some number, then
in no more than one less: one is lost with the line end. -/
theorem within_of_within_succ (h : db.IsStable) {bound : Nat}
    (hwithin : ∀ part ∈ db.parts, ∀ item ∈ part, item.Within (bound + 1)) :
    ∀ part ∈ db.parts, ∀ item ∈ part, item.Within bound := by
  have hnames := h.isNamed
  obtain ⟨read, hread, hunplaced⟩ := h
  rw [← parts_congr hunplaced]
  exact within_of_ofText hread fun line => returns_le_of_mem_segments_text
    fun part hpart item hitem => ⟨hnames part hpart item hitem, hwithin part hpart item hitem⟩

/-- No item of a stable database ends a line in a carriage return. -/
theorem within_zero (h : db.IsStable) : ∀ part ∈ db.parts, ∀ item ∈ part, item.Within 0 := by
  -- There is some bound, since the text is finite, and every reading lowers it by one.
  have hsome : ∃ bound, ∀ part ∈ db.parts, ∀ item ∈ part, item.Within bound := by
    obtain ⟨read, hread, hunplaced⟩ := h
    rw [← parts_congr hunplaced]
    let counts := (Text.segments db.text.toList).map Text.returns
    refine ⟨counts.sum, within_of_ofText hread fun line hline => ?_⟩
    have hcount : Text.returns line ∈ counts := List.mem_map_of_mem hline
    exact Nat.le_succ_of_le (List.le_sum_of_mem hcount)
  obtain ⟨bound, hbound⟩ := hsome
  induction bound with
  | zero => exact hbound
  | succ bound ih => exact ih (h.within_of_within_succ hbound)

end IsStable

/-- A database is read back from its text exactly when it is canonical. -/
theorem isStable_iff_isCanonical : db.IsStable ↔ db.IsCanonical := by
  constructor
  · intro h
    have hitems : ∀ part ∈ db.parts, ∀ item ∈ part, item.IsCanonical := fun part hpart item hitem =>
      Item.isCanonical_iff.2 ⟨h.isNamed part hpart item hitem, h.within_zero part hpart item hitem⟩
    refine isCanonical_iff.2 ⟨h.isAssembled, hitems, unplaced_gathered_eq_iff.1 ?_⟩
    -- The text is read with all comments gathered, and it is read as the database.
    obtain ⟨gathered, hgathered, hunplaced⟩ := h.isAssembled.exists_read hitems {}
    obtain ⟨read, hread, hsame⟩ := h
    obtain rfl : gathered = read := Except.ok.inj (hgathered.symm.trans hread)
    rw [← hunplaced, hsame]
  · intro h
    obtain ⟨hassembled, hitems, hapart⟩ := isCanonical_iff.1 h
    obtain ⟨read, hread, hunplaced⟩ := hassembled.exists_read hitems {}
    exact ⟨read, hread, hunplaced.trans (unplaced_gathered_eq_iff.2 hapart)⟩

section OfText

variable {config : Config} {text : List Char}

/-- A database that is read from a text in which no type is declared twice is read back from its own
text exactly when no line of the text that is not blank ends in more than one carriage return. A
reader takes one of them for part of the line end, and there is no other way to write it. -/
theorem isStable_iff_returns_le_one (h : ofText config text = .ok db)
    (hdeclared : (Document.declaredTypes config.joinsLines text).Nodup) :
    db.IsStable ↔
      ∀ line ∈ Text.segments text, line.all Text.isBlank = false → Text.returns line ≤ 1 := by
  have hparts := parts_of_ofText h hdeclared
  have hpart : ∀ part ∈ db.parts, Document.IsPart part := by
    rw [hparts]
    exact fun part => Document.isPart_of_mem_parts
  rw [isStable_iff_isCanonical, isCanonical_iff, ← Document.within_parts_iff h, ← hparts]
  constructor
  · rintro ⟨-, hitems, -⟩ part hmem item hitem
    exact (Item.isCanonical_iff.1 (hitems part hmem item hitem)).2
  · intro hwithin
    refine ⟨isAssembled_of_unplaced (isAssembled_unplaced_of_ofText h),
      fun part hmem item hitem => Item.isCanonical_iff.2
        ⟨(hpart part hmem).named item hitem, hwithin part hmem item hitem⟩,
      fun set hset descriptor hdescriptor => ?_⟩
    have hmem := mem_parts_of_mem_sets hset (RecordSet.mem_parts_of_mem_descriptor hdescriptor)
    exact (hpart _ hmem).apart

/-- A text with carriage returns before its newlines is read as a database that is read back. -/
theorem isStable_iff_returns_le_one_lineEnds :
    let text := "#x\r\n\r\nPath: C:\\\\\r\n+ D:\\\r\nE:\r\n".toList
    (Document.declaredTypes true text).Nodup ∧
      ∃ db, ofText {} text = .ok db ∧ db.IsStable := by
  intro text
  have hdeclared : (Document.declaredTypes true text).Nodup := by decide +kernel
  have hsome : (ofText {} text).toOption.isSome := by decide +kernel
  obtain ⟨db, hdb⟩ := Option.isSome_iff_exists.1 hsome
  have h : ofText {} text = .ok db := toOption_eq_some_iff.1 hdb
  exact ⟨hdeclared, db, h, (isStable_iff_returns_le_one h hdeclared).2 (by decide +kernel)⟩

/-- A value whose line ends in a carriage return besides that of the line end is not read back. -/
theorem not_isStable_twoReturns :
    let text := "a: 1\r\r\n".toList
    (Document.declaredTypes true text).Nodup ∧
      ∃ db, ofText {} text = .ok db ∧ ¬ db.IsStable := by
  intro text
  let db : Database := ⟨[], [{ entries := [.record ⟨[.field ⟨"a", "1\r"⟩], some ⟨1, 0⟩⟩] }]⟩
  have h : ofText {} text = .ok db := toOption_eq_some_iff.1 (by decide +kernel)
  refine ⟨by decide +kernel, db, h, ?_⟩
  rw [isStable_iff_isCanonical]
  decide +kernel

/-- A database that is read from a text without carriage returns is read from its own text with the
comments of its descriptors gathered. So it is read back exactly when no two comments are neighbours
in a descriptor, which they may become where a field between them is dropped by a merge. -/
theorem exists_read_of_returnless (h : ofText config text = .ok db) (hreturn : '\r' ∉ text) :
    (∀ reader : Config, ∃ read, ofText reader db.text.toList = .ok read ∧
      read.unplaced = db.gathered.unplaced) ∧
    (db.IsStable ↔ ∀ set ∈ db.sets, ∀ descriptor ∈ set.descriptor,
      descriptor.items.IsChain (Item.apart · · = true)) := by
  have hassembled := isAssembled_of_unplaced (isAssembled_unplaced_of_ofText h)
  have hwithin : ∀ part ∈ db.parts, ∀ item ∈ part, item.Within 0 := by
    refine within_of_ofText h fun line hline => ?_
    have hline : '\r' ∉ line := fun hmem => hreturn (Text.mem_of_mem_segments hline hmem)
    rw [Text.returns_of_notMem hline]
    exact Nat.zero_le _
  have hitems : ∀ part ∈ db.parts, ∀ item ∈ part, item.IsCanonical :=
    fun part hpart item hitem => Item.isCanonical_iff.2
      ⟨isNamed_of_ofText h part hpart item hitem, hwithin part hpart item hitem⟩
  refine ⟨hassembled.exists_read hitems, ?_⟩
  rw [isStable_iff_isCanonical, isCanonical_iff]
  exact ⟨fun hcanonical => hcanonical.2.2, fun hapart => ⟨hassembled, hitems, hapart⟩⟩

/-- A descriptor that is merged from two is read back when a field keeps the comments apart. -/
theorem exists_read_of_returnless_keyed :
    let text := "%rec: T\n#a\n\n%rec: T\n%key: Id\n#b\n".toList
    '\r' ∉ text ∧ ∃ db, ofText {} text = .ok db ∧ db.IsStable := by
  intro text
  let descriptor : Record := ⟨[.field ⟨"%rec", "T"⟩, .comment "a", .field ⟨"%key", "Id"⟩,
    .comment "b"], some ⟨1, 0⟩⟩
  let db : Database := ⟨[], [{ descriptor := some descriptor }]⟩
  have h : ofText {} text = .ok db := toOption_eq_some_iff.1 (by decide +kernel)
  have hreturn : '\r' ∉ text := by decide +kernel
  refine ⟨hreturn, db, h, (exists_read_of_returnless h hreturn).2.2 ?_⟩
  decide +kernel

/-- Two comments that a merge leaves as neighbours are not read back. -/
theorem not_isStable_mergedComments :
    let text := "%rec: T\n#a\n\n%rec: T\n#b\n".toList
    '\r' ∉ text ∧ ∃ db, ofText {} text = .ok db ∧ ¬ db.IsStable := by
  intro text
  let descriptor : Record := ⟨[.field ⟨"%rec", "T"⟩, .comment "a", .comment "b"], some ⟨1, 0⟩⟩
  let db : Database := ⟨[], [{ descriptor := some descriptor }]⟩
  have h : ofText {} text = .ok db := toOption_eq_some_iff.1 (by decide +kernel)
  refine ⟨by decide +kernel, db, h, ?_⟩
  rw [isStable_iff_isCanonical]
  decide +kernel

end OfText

end Database

end TextRecords
