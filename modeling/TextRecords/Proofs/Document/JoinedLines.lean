import TextRecords.Proofs.Document.Locations

/-!
# Values on joined lines

A backslash at the end of a line joins the next line to it. So a value that is cut into pieces,
each on a line of its own, is put together again, whatever the pieces are: the backslashes that end
a piece are doubled, and the one behind them joins (`Database.ofText_joinedText`). A piece that
looks like a comment, a continuation or a field is taken as it is, and so is an empty one. Only the
last line, which nothing is joined to, must have something that is not blank.

Joined lines are read as their pieces (`decodeLineEnd_joiningLine`), one behind the other
(`reads_joinedLines`). The line of a field opens its value as if the value had been empty before
(`Reads.opened`), so the first piece is no different from the others.
-/

namespace TextRecords

namespace Text

/-- The line of a piece that the next line is joined to: the backslashes that end the piece are
doubled, and one more joins. -/
def joiningLine (piece : List Char) : List Char :=
  encodeLineEnd piece ++ ['\\']

/-- Pieces of a value, each on a line of its own that is joined to the one before. -/
def joinedText (pieces : List (List Char)) : List Char :=
  List.intercalate ['\\', '\n'] (pieces.map encodeLineEnd)

/-- The backslashes that end a piece come in twos, so the one behind them joins. -/
theorem decodeLineEnd_joiningLine (piece : List Char) :
    decodeLineEnd true (joiningLine piece) = (piece, true) := by
  have hrun : trailing '\\' (joiningLine piece) = 2 * trailing '\\' piece + 1 := by
    have hone := trailing_append_replicate '\\' (encodeLineEnd piece) 1
    rw [List.replicate_one] at hone
    rw [joiningLine, hone, encodeLineEnd, trailing_append_replicate]
    omega
  have hfront : dropTrailing '\\' (joiningLine piece) = dropTrailing '\\' piece := by
    have hone := dropTrailing_append_replicate_self '\\' (encodeLineEnd piece) 1
    rw [List.replicate_one] at hone
    rw [joiningLine, hone, encodeLineEnd, dropTrailing_append_replicate_self]
  have hodd : (2 * trailing '\\' piece + 1) % 2 = 1 := by omega
  have hhalf : (2 * trailing '\\' piece + 1) / 2 = trailing '\\' piece := by omega
  simp only [decodeLineEnd, hrun, hfront, hodd, hhalf]
  exact Prod.ext (dropTrailing_append_replicate '\\' piece) rfl

/-- The lines of joined pieces: all but the last join. -/
theorem joinedText_concat (pieces : List (List Char)) (last : List Char) :
    joinedText (pieces ++ [last]) = joinLines (pieces.map joiningLine ++ [encodeLineEnd last]) := by
  induction pieces with
  | nil => rfl
  | cons piece rest ih =>
    rw [joinedText, joinLines] at ih ⊢
    rw [List.cons_append, List.map_cons, List.intercalate_cons_of_ne_nil (by simp), ih,
      List.map_cons, List.cons_append, List.intercalate_cons_of_ne_nil (by simp), joiningLine]
    simp only [List.append_assoc]
    rfl

end Text

namespace Document

namespace Block

/-- A line that a value goes on in. -/
theorem Reads.joined {joins : Bool} (items : List Item) (field : Field) {line text : List Char}
    {goesOn : Bool} (h : Text.decodeLineEnd joins line = (text, goesOn)) :
    Reads joins ⟨items, some field⟩ [line] (settle items (extendValue field text) goesOn) := by
  intro lines hlines
  obtain ⟨line, rfl, rfl⟩ := List.map_eq_singleton_iff.1 hlines
  simp only [List.foldlM_cons, List.foldlM_nil, add, h]
  rfl

/-- A value goes on to the end of its last line. -/
theorem reads_joinedLines (items : List Item) (field : Field) (pieces : List (List Char))
    (last : List Char) :
    Reads true ⟨items, some field⟩ (pieces.map Text.joiningLine ++ [Text.encodeLineEnd last])
      ⟨.field (extendValue field (pieces ++ [last]).flatten) :: items, none⟩ := by
  -- Each line leaves the value open for the next one, with its piece behind those before.
  induction pieces generalizing field with
  | nil =>
    have hlast := Reads.joined items field (Text.decodeLineEnd_encodeLineEnd true last)
    rwa [List.nil_append, List.flatten_singleton]
  | cons piece rest ih =>
    have hpiece := Reads.joined items field (Text.decodeLineEnd_joiningLine piece)
    have hboth : extendValue (extendValue field piece) (rest ++ [last]).flatten =
        extendValue field (piece :: (rest ++ [last])).flatten := by
      simp [extendValue, String.append_assoc, ← String.ofList_append]
    rw [List.cons_append, ← hboth]
    exact hpiece.append (ih _)

/-- The line of a field opens its value as if it went on from an empty one. -/
theorem Reads.opened {joins : Bool} {items : List Item} {name : String}
    (hname : isFieldName name.toList = true) {line : List Char} {others : List (List Char)}
    {finish : Block} (h : Reads joins ⟨items, some ⟨name, ""⟩⟩ (line :: others) finish) :
    Reads joins ⟨items, none⟩ ((name.toList ++ ':' :: ' ' :: line) :: others) finish := by
  intro lines hlines
  obtain ⟨first, rest, rfl, hfirst, hrest⟩ := List.map_eq_cons_iff.1 hlines
  have hadd : add joins ⟨items, none⟩ first =
      add joins ⟨items, some ⟨name, ""⟩⟩ { first with text := line } := by
    simp only [add, hfirst, addLine_append joins items hname, Text.dropOneBlank,
      String.ofList_toList, extendValue, String.empty_append]
    rfl
  rw [List.foldlM_cons, hadd]
  exact h ({ first with text := line } :: rest) (congrArg (line :: ·) hrest)

end Block

/-- A line that joins ends in a backslash, so it stands in a block. -/
theorem isBlockLine_joiningLine {piece : List Char} (h : '\n' ∉ piece) :
    IsBlockLine (Text.joiningLine piece) where
  newline_notMem := by simp [Text.joiningLine, Text.encodeLineEnd, h]
  getLast?_ne := by simp [Text.joiningLine]
  not_blank := by
    rw [Text.joiningLine, List.all_append, Bool.and_eq_false_iff]
    exact .inr (by decide)

/-- The lines of joined pieces: the first one goes on behind a name, whatever it is, and the others
stand in a block. -/
theorem exists_joinedLines {pieces : List (List Char)} {last : List Char}
    (hplain : ∀ piece ∈ pieces ++ [last], '\n' ∉ piece) (hreturn : last.getLast? ≠ some '\r')
    (hblank : pieces ≠ [] → last.all Text.isBlank = false) :
    ∃ first others, pieces.map Text.joiningLine ++ [Text.encodeLineEnd last] = first :: others ∧
      '\n' ∉ first ∧ first.getLast? ≠ some '\r' ∧ ∀ line ∈ others, IsBlockLine line := by
  rw [List.forall_mem_append, List.forall_mem_singleton] at hplain
  obtain ⟨hpieces, hlast⟩ := hplain
  have hlastLine := Text.newline_notMem_encodeLineEnd hlast
  have hlastEnd := Text.getLast?_encodeLineEnd_ne hreturn
  cases pieces with
  | nil => exact ⟨_, [], rfl, hlastLine, hlastEnd, List.forall_mem_nil _⟩
  | cons piece rest =>
    rw [List.forall_mem_cons] at hpieces
    have hpiece := isBlockLine_joiningLine hpieces.1
    have hvisible : (Text.encodeLineEnd last).all Text.isBlank = false := by
      rw [Text.encodeLineEnd, List.all_append, hblank (List.cons_ne_nil _ _), Bool.false_and]
    refine ⟨_, rest.map Text.joiningLine ++ [Text.encodeLineEnd last], rfl,
      hpiece.newline_notMem, hpiece.getLast?_ne, ?_⟩
    rw [List.forall_mem_append, List.forall_mem_map, List.forall_mem_singleton]
    exact ⟨fun other hother => isBlockLine_joiningLine (hpieces.2 other hother),
      hlastLine, hlastEnd, hvisible⟩

end Document

namespace Database

/-- Lines of one block, which are read as the items of a record, are a database of that record. -/
theorem ofText_joinLines (config : Config) {run : List (List Char)} (hne : run ≠ [])
    (hrun : ∀ line ∈ run, Document.IsBlockLine line) {items : List Item}
    (hread : Document.Block.Reads config.joinsLines {} run ⟨items, none⟩)
    (hdata : Record.isData ⟨items.reverse, some ⟨1, 0⟩⟩ = true) :
    ofText config (Text.joinLines run) =
      .ok ⟨[], [{ entries := [.record ⟨items.reverse, some ⟨1, 0⟩⟩] }]⟩ := by
  have hsegments : Text.segments (Text.joinLines run) = run :=
    Text.segments_joinLines hne fun line hline => (hrun line hline).newline_notMem
  have hblocks : Document.blocks (Document.lines (Text.joinLines run)) =
      [Document.linesFrom 1 0 run] := by
    rw [Document.lines, hsegments]
    exact Document.blocks_linesFrom hne fun line hline => (hrun line hline).not_blank
  -- No line ends in a carriage return, so none is shortened.
  have htexts : (Document.linesFrom 1 0 run).map Document.Line.text = run := by
    rw [Document.map_text_linesFrom]
    refine (List.map_congr_left fun line hline => ?_).trans (List.map_id run)
    exact if_neg (hrun line hline).getLast?_ne
  exact Document.ofText_of_blocks hblocks hne (hread.itemsOf_eq htexts) hdata

/-- Joined lines put a value together again. Behind a proper name that declares no type, a colon and
a blank, pieces on lines that are joined are read as one record with one field, whose value is the
pieces one behind the other. No piece may have a newline, the last one may not end in a carriage
return, and if it stands on a line of its own it may not be blank. -/
theorem ofText_joinedText {name : String} (hname : isFieldName name.toList = true)
    (htype : name ≠ "%rec") {pieces : List (List Char)} {last : List Char}
    (hplain : ∀ piece ∈ pieces ++ [last], '\n' ∉ piece) (hreturn : last.getLast? ≠ some '\r')
    (hblank : pieces ≠ [] → last.all Text.isBlank = false) :
    ofText {} (name.toList ++ ':' :: ' ' :: Text.joinedText (pieces ++ [last])) =
      .ok ⟨[], [{ entries := [.record
        ⟨[.field ⟨name, .ofList (pieces ++ [last]).flatten⟩], some ⟨1, 0⟩⟩] }]⟩ := by
  obtain ⟨first, others, hlines, hnewline, hend, hothers⟩ :=
    Document.exists_joinedLines hplain hreturn hblank
  have htext : name.toList ++ ':' :: ' ' :: Text.joinedText (pieces ++ [last]) =
      Text.joinLines ((name.toList ++ ':' :: ' ' :: first) :: others) := by
    rw [Text.joinedText_concat, hlines, Text.joinLines_cons, Text.joinLines_cons,
      List.append_assoc]
    rfl
  have hopened : Document.IsBlockLine (name.toList ++ ':' :: ' ' :: first) := by
    refine Field.isBlockLine_append hname ?_ ?_
    · rw [List.mem_cons, not_or]
      exact ⟨by decide, hnewline⟩
    · cases first with
      | nil => decide
      | cons c first => rwa [List.getLast?_cons_cons]
  have hread : Document.Block.Reads true {} ((name.toList ++ ':' :: ' ' :: first) :: others)
      ⟨[.field ⟨name, .ofList (pieces ++ [last]).flatten⟩], none⟩ := by
    have hjoined := Document.Block.reads_joinedLines [] ⟨name, ""⟩ pieces last
    rw [hlines, Document.Block.extendValue, String.empty_append] at hjoined
    exact hjoined.opened hname
  have hdata : Record.isData
      ⟨[.field ⟨name, .ofList (pieces ++ [last]).flatten⟩], some ⟨1, 0⟩⟩ = true :=
    bne_iff_ne.2 htype
  rw [htext]
  exact ofText_joinLines {} (List.cons_ne_nil _ _) (List.forall_mem_cons.2 ⟨hopened, hothers⟩)
    hread hdata

/-- Pieces that end in backslashes, that are empty, and that look like a comment and like a
continuation. -/
theorem ofText_joinedText_lookalikes :
    let pieces := ["x\\".toList, [], "# \r".toList, "+ b: 1".toList]
    let last := "y\\\\".toList
    let text := "%a: x\\\\\\\n\\\n# \r\\\n+ b: 1\\\ny\\\\\\\\".toList
    isFieldName "%a".toList = true ∧ "%a" ≠ "%rec" ∧ (∀ piece ∈ pieces ++ [last], '\n' ∉ piece) ∧
      last.getLast? ≠ some '\r' ∧ last.all Text.isBlank = false ∧
      ofText {} text = .ok ⟨[], [{ entries := [.record
        ⟨[.field ⟨"%a", "x\\# \r+ b: 1y\\\\"⟩], some ⟨1, 0⟩⟩] }]⟩ := by
  intro pieces last text
  have hname : isFieldName "%a".toList = true := by decide
  have hplain : ∀ piece ∈ pieces ++ [last], '\n' ∉ piece := by decide
  have hreturn : last.getLast? ≠ some '\r' := by decide
  have hblank : last.all Text.isBlank = false := by decide
  have htext : text = "%a".toList ++ ':' :: ' ' :: Text.joinedText (pieces ++ [last]) := by
    decide +kernel
  have hvalue : "x\\# \r+ b: 1y\\\\" = String.ofList (pieces ++ [last]).flatten := by
    decide +kernel
  rw [htext, hvalue]
  exact ⟨hname, by decide, hplain, hreturn, hblank,
    ofText_joinedText hname (by decide) hplain hreturn fun _ => hblank⟩

end Database

end TextRecords
