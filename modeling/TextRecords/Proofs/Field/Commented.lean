import TextRecords.FieldSelection.Action
import TextRecords.Proofs.Document.Items
import TextRecords.Proofs.Document.Text

/-!
# Fields that are commented out

A field that is commented out is the text of a comment. A comment of which no line ends in a
carriage return denotes a field of which the same is true, if it denotes one
(`Field.isCanonical_of_ofText?`), and such a field is commented out as such a comment
(`Item.isCanonical_commentOut`). So fields may be commented out, changed there and brought back
without a carriage return getting to the end of a line.
-/

namespace TextRecords

namespace Text

/-- Joined lines end in the carriage returns that each of them ends in. -/
theorem noReturnEnds_joinLines {lines : List (List Char)} (hne : lines ≠ [])
    (h : ∀ line ∈ lines, '\n' ∉ line ∧ returns line ≤ 0) : NoReturnEnds (joinLines lines) := by
  rw [noReturnEnds_iff, segments_joinLines hne fun line hline => (h line hline).1]
  exact fun line hline => (h line hline).2

/-- A text without carriage returns has none at the end of a line. -/
theorem noReturnEnds_of_notMem {text : List Char} (h : '\r' ∉ text) : NoReturnEnds text := by
  rw [noReturnEnds_iff]
  intro line hline
  have hreturn : '\r' ∉ line := fun hmem => h (mem_of_mem_segments hline hmem)
  rw [returns_of_notMem hreturn]

/-- When no line joins the next one, the end of a line is read with its carriage returns, and
without newlines. -/
theorem returns_decodeLineEnd_false {line : List Char} (h : '\n' ∉ line ∧ returns line ≤ 0) :
    '\n' ∉ (decodeLineEnd false line).1 ∧ returns (decodeLineEnd false line).1 ≤ 0 := by
  have hjoins : (decodeLineEnd false line).2 = false := by
    rw [decodeLineEnd]
    exact Bool.and_false _
  have hdecode : decodeLineEnd false line = ((decodeLineEnd false line).1, false) :=
    Prod.ext rfl hjoins
  exact ⟨newline_notMem_decodeLineEnd hdecode h.1, (returns_of_decodeLineEnd hdecode).trans_le h.2⟩

end Text

namespace Field

/-- The value of a field stands at the end of the line that starts it, and ends as the line does. -/
theorem returns_value_of_ofLine {line : List Char} {field : Field} (h : ofLine line = .ok field)
    (hline : '\n' ∉ line ∧ Text.returns line ≤ 0) :
    '\n' ∉ field.value.toList ∧ Text.returns field.value.toList ≤ 0 := by
  obtain ⟨-, value, rfl, hvalue⟩ := eq_of_ofLine h
  rw [List.mem_append, List.mem_cons, not_or, not_or,
    Text.returns_append_cons (by decide)] at hline
  rw [hvalue, Text.returns_dropOneBlank]
  exact ⟨Text.newline_notMem_dropOneBlank hline.1.2.2, hline.2⟩

/-- A line that continues a value ends as the continued text does. -/
theorem returns_of_continuation? {line text : List Char} (h : continuation? line = some text)
    (hline : '\n' ∉ line ∧ Text.returns line ≤ 0) : '\n' ∉ text ∧ Text.returns text ≤ 0 := by
  unfold continuation? at h
  split at h
  · obtain rfl := Option.some.inj h
    rw [List.mem_cons, not_or, Text.returns_cons (by decide)] at hline
    rw [Text.returns_dropOneBlank]
    exact ⟨Text.newline_notMem_dropOneBlank hline.1.2, hline.2⟩
  · cases h

/-- The field that a text denotes has a proper name. -/
theorem isNamed_of_ofText? {text : List Char} {field : Field} (h : ofText? text = some field) :
    field.isNamed = true := by
  rw [ofText?] at h
  obtain ⟨start, hstart, h⟩ := Option.bind_eq_some_iff.1 h
  obtain ⟨others, -, h⟩ := Option.bind_eq_some_iff.1 h
  obtain rfl := Option.some.inj h
  exact (eq_of_ofLine (toOption_eq_some_iff.1 hstart)).1

/-- A text of which no line ends in a carriage return denotes a field that is read back from its
lines, if it denotes one. -/
theorem isCanonical_of_ofText? {text : List Char} {field : Field} (h : ofText? text = some field)
    (htext : Text.NoReturnEnds text) : (Item.field field).IsCanonical := by
  have hlines : ∀ line ∈ Text.segments text, '\n' ∉ line ∧ Text.returns line ≤ 0 :=
    fun line hline => ⟨Text.newline_notMem_of_mem_segments hline,
      Text.noReturnEnds_iff.1 htext line hline⟩
  have hnamed := isNamed_of_ofText? h
  rw [ofText?] at h
  obtain ⟨start, hstart, h⟩ := Option.bind_eq_some_iff.1 h
  obtain ⟨others, hothers, h⟩ := Option.bind_eq_some_iff.1 h
  obtain rfl := Option.some.inj h
  have hfirst := toOption_eq_some_iff.1 hstart
  rw [Text.segments, Text.splitWhen, List.forall_mem_cons] at hlines
  refine ⟨hnamed, ?_⟩
  -- Each line of the value ends as the line of the text does that it is read from.
  rw [String.toList_ofList]
  refine Text.noReturnEnds_joinLines (List.cons_ne_nil _ _) ?_
  rw [List.forall_mem_map, List.forall_mem_cons]
  refine ⟨Text.returns_decodeLineEnd_false (returns_value_of_ofLine hfirst hlines.1),
    fun next hnext => Text.returns_decodeLineEnd_false ?_⟩
  obtain ⟨line, hline, hcontinuation⟩ := exists_of_mem_mapM_some hothers hnext
  exact returns_of_continuation? hcontinuation (hlines.2 line hline)

/-- A written field has lines. -/
theorem lines_ne_nil (field : Field) : field.lines ≠ [] :=
  List.cons_ne_nil _ _

end Field

namespace Item

/-- A field that is read back is commented out as a comment that is read back. -/
theorem isCanonical_commentOut {field : Field} (h : (Item.field field).IsCanonical) :
    (commentOut field).IsCanonical := by
  have hlines := Field.isBlockLine_of_mem_lines h.1 h.2
  rw [commentOut, IsCanonical, Field.text, String.toList_ofList]
  refine Text.noReturnEnds_joinLines field.lines_ne_nil fun line hline => ?_
  have hreturns : Text.returns line = 0 :=
    Text.trailing_eq_zero_iff.2 (hlines line hline).getLast?_ne
  exact ⟨(hlines line hline).newline_notMem, hreturns.le⟩

/-- The field that an item holds is read back from its lines if the item is. -/
theorem isCanonical_of_held? {item : Item} {held : Field} {commented : Bool}
    (h : item.held? = some (held, commented)) (hitem : item.IsCanonical) :
    (Item.field held).IsCanonical := by
  cases item with
  | field other =>
    rw [← (held?_field_eq_some_iff.1 h).1]
    exact hitem
  | comment text => exact Field.isCanonical_of_ofText? (held?_comment_eq_some_iff.1 h).1 hitem

end Item

end TextRecords
