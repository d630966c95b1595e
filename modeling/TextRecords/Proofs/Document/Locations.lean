import TextRecords.Proofs.Document.Held
import TextRecords.Proofs.Lists

/-!
# Where records stand

Every record of a database that is read from a text has its place: the line where the block starts
that the record was read from, counted in lines and in bytes. Read by itself, the block gives the
record. No record of the text is lost or read twice, and the records of a set stand in the order in
which they were read (`Database.ofText_locations`).

A block is a run of lines of the text (`exists_of_mem_blocks`), and its first line has the place of
the run, where its record is found again (`standsIn_of_placed?`). Blocks that are assembled add
their records to what is held (`holds_of_foldlM`).
-/

namespace TextRecords

/-- A text up to its first blank line. -/
def Text.untilBlankLine (text : List Char) : List Char :=
  text.take (endLines ((segments text).takeWhile (!·.all isBlank))).length

namespace Document

/-- A block of lines read as a record at the place of its first line. -/
def placed? (joins : Bool) (block : List Line) : Option Record :=
  block.head?.bind fun first =>
    (Block.itemsOf joins block).toOption.map (⟨·, some ⟨first.number, first.offset⟩⟩)

/-- The record of lines that start with a number and an offset. -/
theorem placed?_linesFrom {joins : Bool} {number offset : Nat} {texts : List (List Char)}
    (hne : texts ≠ []) :
    placed? joins (linesFrom number offset texts) =
      (Block.itemsOf joins (linesFrom number offset texts)).toOption.map
        (⟨·, some ⟨number, offset⟩⟩) := by
  cases texts with
  | nil => exact absurd rfl hne
  | cons text rest => rfl

/-- A block that is added is added as it is read. -/
theorem toOption_addBlock_of_placed? {joins : Bool} {block : List Line} {record : Record}
    (h : placed? joins block = some record) (assembly : Assembly) :
    (addBlock joins assembly block).toOption = (assembly.add record).toOption := by
  cases block with
  | nil => cases h
  | cons first rest =>
    obtain ⟨items, hitems, rfl⟩ := Option.map_eq_some_iff.1 h
    exact toOption_addBlock (toOption_eq_some_iff.1 hitems) assembly

/-- Lines in front of others are those of the texts in front of the others. -/
theorem exists_of_linesFrom_eq_append {number offset : Nat} {texts : List (List Char)}
    {before after : List Line} (h : linesFrom number offset texts = before ++ after) :
    ∃ front rest, texts = front ++ rest ∧ before = linesFrom number offset front ∧
      after = linesFrom (number + front.length)
        (offset + Text.byteLength (Text.endLines front)) rest := by
  refine ⟨texts.take before.length, texts.drop before.length,
    (List.take_append_drop _ _).symm, ?_⟩
  have hlength : before.length ≤ texts.length := by
    rw [← length_linesFrom number offset texts, h, List.length_append]
    exact Nat.le_add_right _ _
  rw [← List.take_append_drop before.length texts, linesFrom_append] at h
  refine ⟨(List.append_inj h ?_).1.symm, (List.append_inj h ?_).2.symm⟩ <;>
    rw [length_linesFrom, List.length_take_of_le hlength]

/-- A line is as blank as its text. -/
theorem forall_isBlank_linesFrom {blank : Bool} {number offset : Nat} {texts : List (List Char)} :
    (∀ line ∈ linesFrom number offset texts, line.isBlank = blank) ↔
      ∀ text ∈ texts, text.all Text.isBlank = blank := by
  have hmap : (linesFrom number offset texts).map Line.isBlank =
      texts.map fun text => text.all Text.isBlank := by
    have htexts := congrArg (List.map fun text => text.all Text.isBlank)
      (map_text_linesFrom number offset texts)
    simp only [List.map_map, Function.comp_def, Text.all_isBlank_dropFinal] at htexts
    exact htexts
  rw [← List.forall_mem_map (P := (· = blank)), hmap, List.forall_mem_map]

/-- A block of a text is a run of its lines that are not blank, with a blank one or nothing
behind. -/
theorem exists_of_mem_blocks {text : List Char} {block : List Line}
    (h : block ∈ blocks (lines text)) :
    ∃ front run rest, Text.segments text = front ++ (run ++ rest) ∧
      block = linesFrom (1 + front.length) (0 + Text.byteLength (Text.endLines front)) run ∧
      (∀ line ∈ run, line.all Text.isBlank = false) ∧
      ∀ line ∈ rest.head?, line.all Text.isBlank = true := by
  have hpiece := (List.mem_filter.1 h).1
  obtain ⟨before, after, hlines, hafter⟩ := Text.exists_append_of_mem_splitWhen _ hpiece
  obtain ⟨front, behind, hfront, -, hbehind⟩ := exists_of_linesFrom_eq_append hlines
  obtain ⟨run, rest, rfl, hrun, hrest⟩ := exists_of_linesFrom_eq_append hbehind.symm
  refine ⟨front, run, rest, hfront, hrun, ?_, ?_⟩
  · rw [← forall_isBlank_linesFrom, ← hrun]
    exact Text.not_separates_of_mem_splitWhen _ _ block hpiece
  · cases rest with
    | nil => exact nofun
    | cons line rest =>
      rintro _ ⟨⟩
      rw [hrest] at hafter
      have hblank : (Text.dropFinal '\r' line).all Text.isBlank = true := hafter _ rfl
      rwa [Text.all_isBlank_dropFinal] at hblank

/-- Lines that are not blank are one block. -/
theorem blocks_eq_singleton {lines : List Line} (hne : lines ≠ [])
    (h : ∀ line ∈ lines, line.isBlank = false) : blocks lines = [lines] := by
  rw [blocks, Text.splitWhen_eq_splitOnP, List.splitOnP_eq_singleton h, List.filter_cons_of_pos]
  · rfl
  · rw [List.isEmpty_eq_false_iff.2 hne, Bool.not_false]

/-- Texts of lines that are not blank make one block. -/
theorem blocks_linesFrom {number offset : Nat} {run : List (List Char)} (hne : run ≠ [])
    (hrun : ∀ line ∈ run, line.all Text.isBlank = false) :
    blocks (linesFrom number offset run) = [linesFrom number offset run] := by
  refine blocks_eq_singleton ?_ (forall_isBlank_linesFrom.2 hrun)
  rw [← List.length_pos_iff, length_linesFrom, List.length_pos_iff]
  exact hne

/-- A text of one block, which is read as the items of a record, is a database of that record. -/
theorem ofText_of_blocks {config : Config} {text : List Char} {run : List (List Char)}
    {items : List Item} (hblocks : blocks (lines text) = [linesFrom 1 0 run]) (hne : run ≠ [])
    (hitems : Block.itemsOf config.joinsLines (linesFrom 1 0 run) = .ok items)
    (hdata : Record.isData ⟨items, some ⟨1, 0⟩⟩ = true) :
    Database.ofText config text =
      .ok ⟨[], [{ entries := [.record ⟨items, some ⟨1, 0⟩⟩] }]⟩ := by
  have hplaced : placed? config.joinsLines (linesFrom 1 0 run) = some ⟨items, some ⟨1, 0⟩⟩ := by
    rw [placed?_linesFrom hne, hitems]
    rfl
  have hadd := toOption_addBlock_of_placed? hplaced {}
  rw [Assembly.add_of_isData {} hdata] at hadd
  rw [Database.ofText, hblocks, List.foldlM_cons, toOption_eq_some_iff.1 hadd]
  rfl

/-- A text that starts with a run of lines, up to the blank one that is behind them. -/
theorem blocks_untilBlankLine {text : List Char} {run rest : List (List Char)}
    (hsegments : Text.segments text = run ++ rest) (hne : run ≠ [])
    (hrun : ∀ line ∈ run, line.all Text.isBlank = false)
    (hrest : ∀ line ∈ rest.head?, line.all Text.isBlank = true) :
    blocks (lines (Text.untilBlankLine text)) = [linesFrom 1 0 run] := by
  have hplain : ∀ line ∈ run ++ rest, '\n' ∉ line := by
    rw [← hsegments]
    exact fun line hline => Text.newline_notMem_of_mem_segments hline
  rw [List.forall_mem_append] at hplain
  have hone : blocks (linesFrom 1 0 run) = [linesFrom 1 0 run] := blocks_linesFrom hne hrun
  have htake : (run ++ rest).takeWhile (!·.all Text.isBlank) = run := by
    refine (span_append (fun line hline => ?_) fun line hline => ?_).1
    · rw [hrun line hline, Bool.not_false]
    · rw [hrest line hline, Bool.not_true]
  have htext : text = Text.joinLines (run ++ rest) := by
    rw [← hsegments, Text.joinLines_segments]
  rw [Text.untilBlankLine, hsegments, htake]
  cases rest with
  | nil =>
    -- The run goes on to the end of the text, and its last line is not ended.
    rw [List.append_nil] at htext
    rw [List.take_of_length_le, lines, htext, Text.segments_joinLines hne hplain.1, hone]
    rw [htext, Text.endLines_eq hne, List.length_append]
    exact Nat.le_add_right _ _
  | cons blank rest =>
    rw [Text.joinLines_append run (List.cons_ne_nil blank rest)] at htext
    rw [htext, List.take_left, lines, Text.segments_endLines hplain.1, linesFrom_append, linesFrom,
      linesFrom, blocks_append_cons _ [] rfl, hone]
    rfl

/-- A record that stands in a text where its place says: at the start of a line of the text, with
so many bytes before it, and as many newlines as lines. Read by itself, the text from there up to
the first blank line gives the record and nothing else. -/
def StandsIn (config : Config) (text : List Char) (record : Record) : Prop :=
  ∃ before after, text = before ++ after ∧ Text.IsEnded before ∧
    record.location = some ⟨before.count '\n' + 1, Text.byteLength before⟩ ∧
    Database.ofText config (Text.untilBlankLine after) =
      .ok ⟨[], [{ entries := [.record { record with location := some ⟨1, 0⟩ }] }]⟩

/-- The record of a block stands in the text where the block does. -/
theorem standsIn_of_placed? {config : Config} {text : List Char} {block : List Line}
    {record : Record} (hblock : block ∈ blocks (lines text))
    (hplaced : placed? config.joinsLines block = some record) (hdata : record.isData = true) :
    StandsIn config text record := by
  have hnonempty := ne_nil_of_mem_blocks hblock
  obtain ⟨front, run, rest, hsegments, rfl, hrun, hrest⟩ := exists_of_mem_blocks hblock
  have hne : run ≠ [] := by
    rintro rfl
    exact hnonempty rfl
  rw [placed?_linesFrom hne] at hplaced
  obtain ⟨items, hitems, rfl⟩ := Option.map_eq_some_iff.1 hplaced
  rw [toOption_eq_some_iff] at hitems
  have hplain : ∀ line ∈ front ++ (run ++ rest), '\n' ∉ line := by
    rw [← hsegments]
    exact fun line hline => Text.newline_notMem_of_mem_segments hline
  rw [List.forall_mem_append] at hplain
  have hbehind : run ++ rest ≠ [] := List.append_ne_nil_of_left_ne_nil hne rest
  refine ⟨Text.endLines front, Text.joinLines (run ++ rest), ?_, Text.isEnded_endLines front,
    ?_, ?_⟩
  · rw [← Text.joinLines_append front hbehind, ← hsegments, Text.joinLines_segments]
  · rw [Text.count_newline_endLines hplain.1, Nat.add_comm, Nat.zero_add]
  · -- The block is read from the slice as it is from the text, with its lines counted anew.
    have hread : Block.itemsOf config.joinsLines (linesFrom 1 0 run) = .ok items := by
      refine Block.itemsOf_congr ?_ hitems
      rw [map_text_linesFrom, map_text_linesFrom]
    exact ofText_of_blocks (blocks_untilBlankLine (Text.segments_joinLines hbehind hplain.2) hne
      hrun hrest) hne hread hdata

/-- A block that is added can be read. -/
theorem exists_placed?_of_addBlock {joins : Bool} {assembly next : Assembly} {block : List Line}
    (hne : block ≠ []) (h : addBlock joins assembly block = .ok next) :
    ∃ record, placed? joins block = some record := by
  obtain ⟨first, rest, rfl⟩ := List.exists_cons_of_ne_nil hne
  obtain ⟨items, hitems, -⟩ := bind_eq_ok_iff.1 h
  refine ⟨⟨items, some ⟨first.number, first.offset⟩⟩, ?_⟩
  rw [placed?, List.head?_cons, Option.bind_some, hitems]
  rfl

/-- The records of a text, in order. -/
def placedRecords (joins : Bool) (text : List Char) : List Record :=
  ((blocks (lines text)).filterMap (placed? joins)).filter Record.isData

/-- Blocks that are assembled add their records. -/
theorem holds_of_foldlM {joins : Bool} {blocks : List (List Line)}
    (hne : ∀ block ∈ blocks, block ≠ []) {start last : Assembly} {records : List Record}
    (h : blocks.foldlM (addBlock joins) start = .ok last) (hstart : start.Holds records) :
    last.Holds (records ++ (blocks.filterMap (placed? joins)).filter Record.isData) := by
  induction blocks generalizing start records with
  | nil =>
    rw [List.filterMap_nil, List.filter_nil, List.append_nil, ← Except.ok.inj h]
    exact hstart
  | cons block rest ih =>
    rw [List.forall_mem_cons] at hne
    obtain ⟨next, hnext, hrest⟩ := foldlM_cons_eq_ok_iff.1 h
    obtain ⟨record, hplaced⟩ := exists_placed?_of_addBlock hne.1 hnext
    have hadd := toOption_addBlock_of_placed? hplaced start
    rw [hnext] at hadd
    have hholds := ih hne.2 hrest (hstart.add (toOption_eq_some_iff.1 hadd.symm))
    rwa [List.append_assoc, ← List.filter_append, List.singleton_append,
      ← List.filterMap_cons_some hplaced] at hholds

/-- The records of a text stand one behind the other. -/
theorem pairwise_location_placedRecords (joins : Bool) (text : List Char) :
    ((placedRecords joins text).filterMap Record.location).Pairwise (·.offset < ·.offset) := by
  -- The lines of a block are behind all lines of the blocks before it, so its first line is.
  have hblocks : (blocks (lines text)).Pairwise fun before after =>
      ∀ line ∈ before, ∀ other ∈ after, line.offset < other.offset := by
    have hlines := (pairwise_offset_linesFrom 1 0 (Text.segments text)).filter (!·.isBlank)
    rw [← lines, ← flatten_blocks] at hlines
    exact (List.pairwise_flatten.1 hlines).2
  have hfirst : ∀ {block record place}, placed? joins block = some record →
      record.location = some place → ∃ line ∈ block, line.offset = place.offset := by
    intro block record place hplaced hplace
    obtain ⟨first, hhead, hrecord⟩ := Option.bind_eq_some_iff.1 hplaced
    obtain ⟨items, -, rfl⟩ := Option.map_eq_some_iff.1 hrecord
    obtain rfl := Option.some.inj hplace
    exact ⟨first, List.mem_of_mem_head? hhead, rfl⟩
  refine List.pairwise_filterMap.2 (List.Pairwise.filter _ ?_)
  refine List.pairwise_filterMap.2 (hblocks.imp ?_)
  intro before after hbefore record hrecord other hother place hplace next hnext
  obtain ⟨line, hline, hlineOffset⟩ := hfirst hrecord hplace
  obtain ⟨behind, hbehind, hbehindOffset⟩ := hfirst hother hnext
  rw [← hlineOffset, ← hbehindOffset]
  exact hbefore line hline behind hbehind

/-- The records of a text are its parts that are records. -/
theorem length_placedRecords (joins : Bool) (text : List Char) :
    (placedRecords joins text).length =
      (parts joins text).countP fun items => Record.isData ⟨items, none⟩ := by
  have hitems : ((blocks (lines text)).filterMap (placed? joins)).map Record.items =
      parts joins text := by
    rw [List.map_filterMap, parts]
    refine List.filterMap_congr fun block hblock => ?_
    obtain ⟨first, rest, rfl⟩ := List.exists_cons_of_ne_nil (ne_nil_of_mem_blocks hblock)
    rw [placed?, List.head?_cons, Option.bind_some, Option.map_map]
    exact Option.map_id'
  rw [placedRecords, ← List.countP_eq_length_filter, ← hitems, List.countP_map]
  rfl

end Document

namespace Database

open Document (StandsIn placedRecords)

/-- The records of all sets are counted. -/
theorem recordCount_eq (db : Database) :
    db.recordCount = (db.sets.flatMap RecordSet.records).length := by
  have hfold : ∀ (sets : List RecordSet) (count : Nat),
      (sets.map RecordSet.statistics).foldl (fun count set => count + set.records) count =
        count + (sets.flatMap RecordSet.records).length := by
    intro sets
    induction sets with
    | nil => exact fun _ => rfl
    | cons set rest ih =>
      intro count
      rw [List.map_cons, List.foldl_cons, ih, List.flatMap_cons, List.length_append,
        ← Nat.add_assoc]
      rfl
  rw [recordCount, statistics, hfold, Nat.zero_add]

variable {config : Config} {text : List Char} {db : Database}

/-- A text that is read gives every record of the text once, in order within each set. -/
theorem holds_of_ofText (h : ofText config text = .ok db) :
    ∃ current, Document.Assembly.Holds ⟨db, current⟩ (placedRecords config.joinsLines text) := by
  obtain ⟨current, hfold⟩ := Document.foldlM_of_ofText h
  exact ⟨current, Document.holds_of_foldlM (fun block => Document.ne_nil_of_mem_blocks) hfold
    .empty⟩

/-- Locations are right. Every record of a database that is read from a text stands in the text
where its place says; within each set the records stand one behind the other; and there are as many
records as there are blocks of the text that have a field and do not start with the field that
declares a type. -/
theorem ofText_locations (h : ofText config text = .ok db) :
    (∀ set ∈ db.sets, ∀ record ∈ set.records, StandsIn config text record) ∧
      (∀ set ∈ db.sets,
        (set.records.filterMap Record.location).Pairwise (·.offset < ·.offset)) ∧
      db.recordCount = (Document.parts config.joinsLines text).countP
        fun items => Record.isData ⟨items, none⟩ := by
  obtain ⟨current, hholds⟩ := holds_of_ofText h
  refine ⟨fun set hset record hrecord => ?_, fun set hset => ?_, ?_⟩
  · obtain ⟨hplaced, hdata⟩ := List.mem_filter.1 ((hholds.sublist set hset).subset hrecord)
    obtain ⟨block, hblock, hplaced⟩ := List.mem_filterMap.1 hplaced
    exact Document.standsIn_of_placed? hblock hplaced hdata
  · exact (Document.pairwise_location_placedRecords config.joinsLines text).sublist
      ((hholds.sublist set hset).filterMap _)
  · rw [recordCount_eq, hholds.perm.length_eq, Document.length_placedRecords]

/-- Records of a set that is opened again, with a carriage return and wide characters before
them. -/
theorem ofText_locations_reopenedSet :
    let text := "%rec: A\r\n\u3000\nn: é\n+ü\n\n%rec: B\n\nn: 1\n\n%rec: A\n%key: n\n\nn: 2".toList
    let db : Database := ⟨[], [
      ⟨some ⟨[.field ⟨"%rec", "A"⟩, .field ⟨"%key", "n"⟩], some ⟨1, 0⟩⟩,
        [.record ⟨[.field ⟨"n", "é\nü"⟩], some ⟨3, 13⟩⟩,
          .record ⟨[.field ⟨"n", "2"⟩], some ⟨13, 56⟩⟩]⟩,
      ⟨some ⟨[.field ⟨"%rec", "B"⟩], some ⟨6, 24⟩⟩,
        [.record ⟨[.field ⟨"n", "1"⟩], some ⟨8, 33⟩⟩]⟩]⟩
    ofText {} text = .ok db ∧
      (∀ set ∈ db.sets, ∀ record ∈ set.records, StandsIn {} text record) ∧
      (∀ set ∈ db.sets,
        (set.records.filterMap Record.location).Pairwise (·.offset < ·.offset)) ∧
      db.recordCount = 3 := by
  intro text db
  have h : ofText {} text = .ok db := toOption_eq_some_iff.1 (by decide +kernel)
  obtain ⟨hstands, hordered, hcount⟩ := ofText_locations h
  exact ⟨h, hstands, hordered, hcount.trans (by decide +kernel)⟩

end Database

end TextRecords
