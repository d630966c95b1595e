import TextRecords.Document.Line
import TextRecords.Proofs.Text.Cut

/-!
# Lines and blocks of a written text

A line stands in a block as it is written when it holds no newline, does not end in a carriage
return and is not blank (`IsBlockLine`). Blocks of such lines, with an empty line between any two,
are the blocks of the text that they make (`blocks_endLines`), whatever numbers and offsets the
reading gives to their lines. An empty line between two texts keeps their blocks apart
(`exists_blocks_lines_append`).

Lines are counted one after another, in numbers and in bytes (`linesFrom_append`), so every line has
a greater offset than those before it (`pairwise_offset_linesFrom`).
-/

namespace TextRecords

/-- No line of a text ends in a carriage return, which a reader would take for part of the line
end. -/
def Text.NoReturnEnds (text : List Char) : Prop :=
  ∀ line ∈ Text.segments text, line.getLast? ≠ some '\r'

instance (text : List Char) : Decidable (Text.NoReturnEnds text) :=
  inferInstanceAs (Decidable (∀ line ∈ Text.segments text, line.getLast? ≠ some '\r'))

namespace Document

/-- A line that stands in a block as it is written. -/
structure IsBlockLine (line : List Char) : Prop where
  newline_notMem : '\n' ∉ line
  getLast?_ne : line.getLast? ≠ some '\r'
  not_blank : line.all Text.isBlank = false

/-- A line that starts with a visible character is a block line if what follows it is whole. -/
theorem IsBlockLine.of_head {c : Char} {rest : List Char} (hc : Text.isBlank c = false)
    (hnewline : '\n' ∉ c :: rest) (hreturn : (c :: rest).getLast? ≠ some '\r') :
    IsBlockLine (c :: rest) where
  newline_notMem := hnewline
  getLast?_ne := hreturn
  not_blank := by rw [List.all_cons, hc, Bool.false_and]

/-- Lines lose the carriage returns that end them. -/
theorem map_text_linesFrom (number offset : Nat) (texts : List (List Char)) :
    (linesFrom number offset texts).map Line.text = texts.map (Text.dropFinal '\r') := by
  induction texts generalizing number offset with
  | nil => rfl
  | cons text rest ih => rw [linesFrom, List.map_cons, ih, List.map_cons]

/-- The blocks of lines are decided by their texts. -/
theorem map_text_blocks (lines : List Line) :
    (blocks lines).map (List.map Line.text) =
      (Text.splitWhen (fun text => text.all Text.isBlank) (lines.map Line.text)).filter
        (!·.isEmpty) := by
  have hempty : (fun block : List Line => !(block.map Line.text).isEmpty) = (!·.isEmpty) := by
    funext block
    cases block <;> rfl
  rw [Text.splitWhen_map, List.filter_map, Function.comp_def, hempty]
  rfl

/-- Lines are numbered and placed one after another. -/
theorem linesFrom_append (number offset : Nat) (texts more : List (List Char)) :
    linesFrom number offset (texts ++ more) = linesFrom number offset texts ++
      linesFrom (number + texts.length) (offset + Text.byteLength (Text.endLines texts)) more := by
  induction texts generalizing number offset with
  | nil => rfl
  | cons text rest ih =>
    have hnumber : number + (text :: rest).length = number + 1 + rest.length := by
      rw [List.length_cons, Nat.add_comm rest.length, Nat.add_assoc]
    have hoffset : offset + Text.byteLength (Text.endLines (text :: rest)) =
        offset + Text.byteLength text + 1 + Text.byteLength (Text.endLines rest) := by
      rw [Text.byteLength_endLines_cons]
      simp only [Nat.add_assoc]
    rw [List.cons_append, linesFrom, ih, hnumber, hoffset, linesFrom, List.cons_append]

/-- Lines are as many as their texts. -/
theorem length_linesFrom (number offset : Nat) (texts : List (List Char)) :
    (linesFrom number offset texts).length = texts.length := by
  rw [← List.length_map Line.text, map_text_linesFrom, List.length_map]

/-- No line has a smaller number than the first one. -/
theorem le_number_of_mem_linesFrom {number offset : Nat} {texts : List (List Char)} {line : Line}
    (h : line ∈ linesFrom number offset texts) : number ≤ line.number := by
  induction texts generalizing number offset with
  | nil => cases h
  | cons text rest ih =>
    rcases List.mem_cons.1 h with rfl | hrest
    · exact Nat.le_refl _
    · exact Nat.le_of_succ_le (ih hrest)

/-- No line has a smaller offset than the first one. -/
theorem le_offset_of_mem_linesFrom {number offset : Nat} {texts : List (List Char)} {line : Line}
    (h : line ∈ linesFrom number offset texts) : offset ≤ line.offset := by
  induction texts generalizing number offset with
  | nil => cases h
  | cons text rest ih =>
    rcases List.mem_cons.1 h with rfl | hrest
    · exact Nat.le_refl _
    · exact Nat.le_trans (Nat.le_add_right offset (Text.byteLength text + 1)) (ih hrest)

/-- Every line has a greater offset than the lines before it. -/
theorem pairwise_offset_linesFrom (number offset : Nat) (texts : List (List Char)) :
    (linesFrom number offset texts).Pairwise (·.offset < ·.offset) := by
  induction texts generalizing number offset with
  | nil => exact .nil
  | cons text rest ih =>
    refine List.pairwise_cons.2 ⟨fun line hline => ?_, ih _ _⟩
    exact Nat.lt_of_lt_of_le (Nat.lt_succ_of_le (Nat.le_add_right offset _))
      (le_offset_of_mem_linesFrom hline)

/-- The blocks of lines with a blank one among them are those before it and those behind it. -/
theorem blocks_append_cons (before after : List Line) {line : Line} (hblank : line.isBlank = true) :
    blocks (before ++ line :: after) = blocks before ++ blocks after :=
  Text.filter_splitWhen_append_cons _ before after hblank

/-- The lines of two texts with a newline between them. -/
theorem exists_lines_append_newline (text rest : List Char) :
    ∃ offset, lines (text ++ '\n' :: rest) =
      lines text ++ linesFrom ((lines text).length + 1) offset (Text.segments rest) := by
  refine ⟨0 + Text.byteLength (Text.endLines (Text.segments text)), ?_⟩
  rw [lines, Text.segments_append_newline, linesFrom_append, lines, length_linesFrom, Nat.add_comm]

/-- A newline at the end of a text changes none of its blocks. -/
theorem blocks_lines_append_newline (text : List Char) :
    blocks (lines (text ++ ['\n'])) = blocks (lines text) := by
  obtain ⟨offset, hlines⟩ := exists_lines_append_newline text []
  -- The line behind the newline is blank, and there are no lines behind it.
  rw [hlines, show Text.segments [] = [[]] from rfl, linesFrom, linesFrom,
    blocks_append_cons (lines text) [] rfl]
  exact List.append_nil _

/-- The blocks of two texts with an empty line between them are those of the first one, and blocks
with the texts of those of the second one, whose lines are numbered behind all lines of the
first. -/
theorem exists_blocks_lines_append (text rest : List Char) :
    ∃ more, blocks (lines (text ++ '\n' :: '\n' :: rest)) = blocks (lines text) ++ blocks more ∧
      (blocks more).map (List.map Line.text) = (blocks (lines rest)).map (List.map Line.text) ∧
      ∀ line ∈ more, (lines text).length < line.number := by
  obtain ⟨offset, hlines⟩ := exists_lines_append_newline text ('\n' :: rest)
  have hsegments : Text.segments ('\n' :: rest) = [] :: Text.segments rest :=
    Text.segments_append_newline [] rest
  rw [hsegments, linesFrom] at hlines
  have hblocks := congrArg blocks hlines
  rw [blocks_append_cons _ _ rfl] at hblocks
  refine ⟨_, hblocks, ?_, fun line hline => ?_⟩
  · rw [map_text_blocks, map_text_blocks, map_text_linesFrom, lines, map_text_linesFrom]
  · exact Nat.lt_of_succ_le (Nat.le_of_succ_le (le_number_of_mem_linesFrom hline))

/-- Block lines that are ended by newlines are read as they are. -/
theorem map_text_lines {texts : List (List Char)} (h : ∀ text ∈ texts, '\n' ∉ text)
    (hreturn : ∀ text ∈ texts, text.getLast? ≠ some '\r') :
    (lines (Text.endLines texts)).map Line.text = texts ++ [[]] := by
  have hkept : ∀ text ∈ texts ++ [[]], Text.dropFinal '\r' text = text := by
    intro text hmem
    rw [Text.dropFinal, if_neg]
    rcases List.mem_append.1 hmem with hmem | hmem
    · exact hreturn text hmem
    · rw [List.mem_singleton.1 hmem]
      exact nofun
  rw [lines, map_text_linesFrom, Text.segments_endLines h, List.map_congr_left hkept, List.map_id']

/-- Blocks of block lines are read back from the text that they make. -/
theorem blocks_endLines {texts : List (List (List Char))}
    (hne : ∀ block ∈ texts, block ≠ []) (h : ∀ block ∈ texts, ∀ line ∈ block, IsBlockLine line) :
    (blocks (lines (Text.endLines (List.intercalate [[]] texts)))).map (List.map Line.text) =
      texts := by
  -- The lines between the blocks are empty; all others are block lines.
  have hmem : ∀ line ∈ List.intercalate [[]] texts, line = [] ∨ IsBlockLine line := by
    intro line hline
    rcases Text.mem_of_mem_intercalate hline with hline | ⟨block, hblock, hline⟩
    · exact .inl (List.mem_singleton.1 hline)
    · exact .inr (h block hblock line hline)
  have hnewline : ∀ line ∈ List.intercalate [[]] texts, '\n' ∉ line := by
    intro line hline
    rcases hmem line hline with rfl | hblock
    · exact List.not_mem_nil
    · exact hblock.newline_notMem
  have hreturn : ∀ line ∈ List.intercalate [[]] texts, line.getLast? ≠ some '\r' := by
    intro line hline
    rcases hmem line hline with rfl | hblock
    · exact nofun
    · exact hblock.getLast?_ne
  -- The blank lines are where the blocks are cut, and none of them stands inside a block.
  rw [map_text_blocks, map_text_lines hnewline hreturn]
  exact Text.filter_splitWhen_intercalate _ rfl hne fun block hblock line hline =>
    (h block hblock line hline).not_blank

end Document

end TextRecords
