import TextRecords.Proofs.Document.Items
import TextRecords.Proofs.Document.RoundTrip

/-!
# The parts of a text

The parts of a text are the items of its blocks (`Document.parts`). A text that is read is assembled
from its parts alone, except for the places of its records (`foldlM_parts_of_ofText`). The parts are
such as blocks may denote (`isPart_of_mem_parts`). They end no line in more carriage returns than
the lines of the text that are not blank do, less the one that belongs to a line end
(`within_parts_iff`).
-/

namespace TextRecords.Document

/-- The items of the blocks of a text, as far as they can be read. -/
def parts (joins : Bool) (text : List Char) : List (List Item) :=
  (blocks (lines text)).filterMap fun block => (Block.itemsOf joins block).toOption

/-- The types that the descriptors of a text declare, block by block. -/
def declaredTypes (joins : Bool) (text : List Char) : List String :=
  (parts joins text).filterMap fun items => Record.declaredType? ⟨items, none⟩

/-- The blocks of lines are made of the lines that are not blank. -/
theorem flatten_blocks (lines : List Line) :
    (blocks lines).flatten = lines.filter (!·.isBlank) := by
  rw [blocks, List.flatten_filter_not_isEmpty, Text.flatten_splitWhen]

/-- No block is empty. -/
theorem ne_nil_of_mem_blocks {lines block : List Line} (h : block ∈ blocks lines) : block ≠ [] := by
  have hne := (List.mem_filter.1 h).2
  simpa using hne

/-- The lines are the segments without the carriage returns that belong to line ends. -/
theorem map_text_lines_eq (text : List Char) :
    (lines text).map Line.text = (Text.segments text).map (Text.dropFinal '\r') :=
  map_text_linesFrom 1 0 _

/-- The lines of a block hold no newlines and are not blank. -/
theorem of_mem_blocks {text : List Char} {block : List Line} (hblock : block ∈ blocks (lines text))
    {line : Line} (hline : line ∈ block) : '\n' ∉ line.text ∧ line.isBlank = false := by
  have hflatten : line ∈ (blocks (lines text)).flatten := List.mem_flatten.2 ⟨block, hblock, hline⟩
  rw [flatten_blocks, List.mem_filter, Bool.not_eq_true'] at hflatten
  have htext : line.text ∈ (Text.segments text).map (Text.dropFinal '\r') := by
    rw [← map_text_lines_eq]
    exact List.mem_map_of_mem hflatten.1
  obtain ⟨segment, hsegment, heq⟩ := List.mem_map.1 htext
  rw [← heq]
  exact ⟨Text.newline_notMem_dropFinal (Text.newline_notMem_of_mem_segments hsegment), hflatten.2⟩

/-- The lines of blocks are the lines of the text that are not blank, without their ends. -/
theorem returns_blocks_iff {text : List Char} {bound : Nat} :
    (∀ block ∈ blocks (lines text), ∀ line ∈ block, Text.returns line.text ≤ bound) ↔
      ∀ line ∈ Text.segments text, line.all Text.isBlank = false →
        Text.returns line ≤ bound + 1 := by
  have hlines : (∀ block ∈ blocks (lines text), ∀ line ∈ block, Text.returns line.text ≤ bound) ↔
      ∀ line ∈ (lines text).map Line.text, line.all Text.isBlank = false →
        Text.returns line ≤ bound := by
    rw [← List.forall_mem_flatten, flatten_blocks, List.forall_mem_map]
    simp only [List.mem_filter, Bool.not_eq_true', and_imp, Line.isBlank]
  rw [hlines, map_text_lines_eq, List.forall_mem_map]
  simp only [Text.all_isBlank_dropFinal, Text.returns_dropFinal, Nat.sub_le_iff_le_add]

/-- The parts of a text are the items that its blocks denote. -/
theorem mem_parts_iff {joins : Bool} {text : List Char} {items : List Item} :
    items ∈ parts joins text ↔
      ∃ block ∈ blocks (lines text), Block.itemsOf joins block = .ok items := by
  simp only [parts, List.mem_filterMap, toOption_eq_some_iff]

/-- The parts of a text are such as blocks may denote. -/
theorem isPart_of_mem_parts {joins : Bool} {text : List Char} {items : List Item}
    (h : items ∈ parts joins text) : IsPart items := by
  obtain ⟨block, hblock, hitems⟩ := mem_parts_iff.1 h
  exact Block.isPart_of_itemsOf (ne_nil_of_mem_blocks hblock) hitems

/-- Blocks that are assembled denote items. -/
theorem exists_itemsOf_of_foldlM {joins : Bool} {blocks : List (List Line)}
    (hne : ∀ block ∈ blocks, block ≠ []) {start last : Assembly}
    (h : blocks.foldlM (addBlock joins) start = .ok last) :
    ∀ block ∈ blocks, ∃ items, Block.itemsOf joins block = .ok items := by
  induction blocks generalizing start with
  | nil => exact List.forall_mem_nil _
  | cons block rest ih =>
    rw [List.forall_mem_cons] at hne ⊢
    obtain ⟨next, hnext, hrest⟩ := foldlM_cons_eq_ok_iff.1 h
    refine ⟨?_, ih hne.2 hrest⟩
    obtain ⟨first, others, rfl⟩ := List.exists_cons_of_ne_nil hne.1
    obtain ⟨items, hitems, -⟩ := bind_eq_ok_iff.1 hnext
    exact ⟨items, hitems⟩

/-- The items that blocks denote, block by block. -/
theorem forall₂_filterMap_itemsOf {joins : Bool} {blocks : List (List Line)}
    (h : ∀ block ∈ blocks, block ≠ [] ∧ ∃ items, Block.itemsOf joins block = .ok items) :
    List.Forall₂ (fun lines items => lines ≠ [] ∧ Block.itemsOf joins lines = .ok items) blocks
      (blocks.filterMap fun block => (Block.itemsOf joins block).toOption) := by
  induction blocks with
  | nil => exact .nil
  | cons block rest ih =>
    rw [List.forall_mem_cons] at h
    obtain ⟨hne, items, hitems⟩ := h.1
    rw [List.filterMap_cons, toOption_eq_some_iff.2 hitems]
    exact .cons ⟨hne, hitems⟩ (ih h.2)

section OfText

variable {config : Config} {text : List Char} {db : Database}

/-- A text that is read is assembled from its blocks. -/
theorem foldlM_of_ofText (h : Database.ofText config text = .ok db) :
    ∃ current, (blocks (lines text)).foldlM (addBlock config.joinsLines) {} =
      .ok ⟨db, current⟩ := by
  obtain ⟨assembly, hfold, hdatabase⟩ := bind_eq_ok_iff.1 h
  obtain rfl : assembly.database = db := Except.ok.inj hdatabase
  exact ⟨assembly.current, hfold⟩

/-- The blocks of a text that is read denote items. -/
theorem exists_itemsOf_of_ofText (h : Database.ofText config text = .ok db) :
    ∀ block ∈ blocks (lines text),
      ∃ items, Block.itemsOf config.joinsLines block = .ok items := by
  obtain ⟨current, hfold⟩ := foldlM_of_ofText h
  exact exists_itemsOf_of_foldlM (fun block => ne_nil_of_mem_blocks) hfold

/-- A text that is read is assembled from its parts, except for the places of its records. -/
theorem foldlM_parts_of_ofText (h : Database.ofText config text = .ok db) :
    ∃ current, (parts config.joinsLines text).foldlM Assembly.addItems {} =
      .ok ⟨db.unplaced, current⟩ := by
  obtain ⟨current, hfold⟩ := foldlM_of_ofText h
  have hparts := foldlM_addBlock (forall₂_filterMap_itemsOf fun block hblock =>
    ⟨ne_nil_of_mem_blocks hblock, exists_itemsOf_of_ofText h block hblock⟩) {}
  rw [hfold] at hparts
  exact ⟨current, toOption_eq_some_iff.1 hparts.symm⟩

/-- A text whose blocks all denote items is read as what its parts assemble, except for the places
of its records. -/
theorem exists_ofText_of_foldlM_parts
    (hitems : ∀ block ∈ blocks (lines text),
      ∃ items, Block.itemsOf config.joinsLines block = .ok items)
    {last : Assembly} (h : (parts config.joinsLines text).foldlM Assembly.addItems {} = .ok last) :
    ∃ read, Database.ofText config text = .ok read ∧ read.unplaced = last.database := by
  have hparts := foldlM_addBlock (forall₂_filterMap_itemsOf fun block hblock =>
    ⟨ne_nil_of_mem_blocks hblock, hitems block hblock⟩) {}
  have hlast : (parts config.joinsLines text).foldlM Assembly.addItems (Assembly.unplaced {}) =
      .ok last := h
  rw [← parts, hlast] at hparts
  obtain ⟨assembly, hfold, rfl⟩ := Option.map_eq_some_iff.1 hparts
  refine ⟨assembly.database, ?_, rfl⟩
  rw [Database.ofText, toOption_eq_some_iff.1 hfold]
  rfl

/-- The parts of a text that is read end no line in more carriage returns than the lines of the text
that are not blank do, less the one that belongs to a line end. -/
theorem within_parts_iff (h : Database.ofText config text = .ok db) {bound : Nat} :
    (∀ part ∈ parts config.joinsLines text, ∀ item ∈ part, item.Within bound) ↔
      ∀ line ∈ Text.segments text, line.all Text.isBlank = false →
        Text.returns line ≤ bound + 1 := by
  rw [← returns_blocks_iff]
  constructor
  · intro hparts block hblock
    obtain ⟨items, hitems⟩ := exists_itemsOf_of_ofText h block hblock
    exact (Block.within_iff_of_itemsOf (fun line => of_mem_blocks hblock) hitems).1
      (hparts items (mem_parts_iff.2 ⟨block, hblock, hitems⟩))
  · intro hwithin items hitems
    obtain ⟨block, hblock, hread⟩ := mem_parts_iff.1 hitems
    exact (Block.within_iff_of_itemsOf (fun line => of_mem_blocks hblock) hread).2
      (hwithin block hblock)

end OfText

end TextRecords.Document
