import TextRecords.Proofs.Document.Line
import TextRecords.Proofs.Text.LineEnd

/-!
# Fields and their lines

The line that starts a written field is read as that field with the first line of its value
(`ofLine_headLine`). The lines of a field with a proper name are block lines when no line of the
value ends in a carriage return (`isBlockLine_of_mem_lines`). The text of a field with a proper name
denotes the field, also when lines of its value end so (`ofText?_text`).
-/

namespace TextRecords

/-- A character that starts names may stand in names. -/
theorem isNameChar_of_isNameStart {c : Char} (h : isNameStart c = true) : isNameChar c = true := by
  simp only [isNameStart, Bool.or_eq_true] at h
  simp only [isNameChar, Char.isAlphanum, Bool.or_eq_true]
  tauto

/-- The letters lie in one range. -/
theorem toNat_of_isAlpha {c : Char} (h : c.isAlpha = true) : 65 ≤ c.toNat ∧ c.toNat ≤ 122 := by
  rcases Bool.or_eq_true_iff.1 h with hupper | hlower
  · obtain ⟨hfirst, hlast⟩ : 'A'.val ≤ c.val ∧ c.val ≤ 'Z'.val := of_decide_eq_true hupper
    rw [UInt32.le_iff_toNat_le] at hfirst hlast
    exact ⟨hfirst, le_trans hlast (by decide)⟩
  · obtain ⟨hfirst, hlast⟩ := Bool.and_eq_true_iff.1 hlower
    have hfirst : 'a'.val ≤ c.val := of_decide_eq_true hfirst
    have hlast : c.val ≤ 'z'.val := of_decide_eq_true hlast
    rw [UInt32.le_iff_toNat_le] at hfirst hlast
    exact ⟨le_trans (by decide) hfirst, hlast⟩

/-- A character that starts names is visible. -/
theorem isBlank_of_isNameStart {c : Char} (h : isNameStart c = true) : Text.isBlank c = false := by
  have hrange : c.toNat = 37 ∨ (65 ≤ c.toNat ∧ c.toNat ≤ 122) := by
    simp only [isNameStart, Bool.or_eq_true, beq_iff_eq] at h
    rcases h with (halpha | rfl) | rfl
    · exact .inr (toNat_of_isAlpha halpha)
    · exact .inl rfl
    · exact .inr (by decide)
  simp only [Text.isBlank, Bool.or_eq_false_iff, Bool.and_eq_false_iff, decide_eq_false_iff_not,
    beq_eq_false_iff_ne]
  omega

/-- A name is not empty, and its characters are name characters. -/
theorem exists_cons_of_isFieldName {name : List Char} (h : isFieldName name = true) :
    ∃ c rest, name = c :: rest ∧ isNameStart c = true ∧ ∀ d ∈ name, isNameChar d = true := by
  cases name with
  | nil => exact absurd h Bool.false_ne_true
  | cons c rest =>
    rw [isFieldName, Bool.and_eq_true, List.all_eq_true] at h
    refine ⟨c, rest, rfl, h.1, ?_⟩
    rw [List.forall_mem_cons]
    exact ⟨isNameChar_of_isNameStart h.1, h.2⟩

namespace Field

/-- The line that starts a field of some name and first value line. -/
def headLine (name line : List Char) : List Char :=
  name ++ ':' :: Text.valueTail line

/-- A line that continues a value. -/
def nextLine (line : List Char) : List Char :=
  '+' :: Text.valueTail line

/-- The lines of a field by the segments of its value. -/
theorem lines_eq {field : Field} {first : List Char} {others : List (List Char)}
    (h : Text.segments field.value.toList = first :: others) :
    field.lines = headLine field.name.toList first :: others.map nextLine := by
  simp only [Text.segments, Text.splitWhen, List.cons.injEq] at h
  have hcut : Text.cut (· == '\n') field.value.toList = (first, others) := Prod.ext h.1 h.2
  rw [lines, hcut]
  rfl

/-- A line that starts with a name and a colon is read as the name, with what stands behind the
colon and its blank. -/
theorem ofLine_append {name : List Char} (h : isFieldName name = true) (tail : List Char) :
    ofLine (name ++ ':' :: tail) = .ok ⟨.ofList name, .ofList (Text.dropOneBlank tail)⟩ := by
  obtain ⟨c, rest, hname, -, hchars⟩ := exists_cons_of_isFieldName h
  -- The colon is no name character, so the name ends right before it.
  have htake : (name ++ ':' :: tail).takeWhile isNameChar = name := by
    rw [List.takeWhile_append_of_pos hchars, List.takeWhile_cons_of_neg (by decide),
      List.append_nil]
  have hdrop : (name ++ ':' :: tail).dropWhile isNameChar = ':' :: tail := by
    rw [List.dropWhile_append_of_pos hchars, List.dropWhile_cons_of_neg (by decide)]
  rw [ofLine, htake, hdrop, hname]
  simp only
  rw [← hname, if_pos h]

/-- The line that starts a field is read as its name and its first line, with the end as it is
written. -/
theorem ofLine_headLine {name : List Char} (h : isFieldName name = true) (line : List Char) :
    ofLine (headLine name line) = .ok ⟨.ofList name, .ofList (Text.encodeLineEnd line)⟩ := by
  rw [headLine, ofLine_append h, Text.dropOneBlank_valueTail]

/-- A line that starts with a name and a colon holds no newline if none stands behind the colon. -/
theorem newline_notMem_append {name tail : List Char} (h : isFieldName name = true)
    (htail : '\n' ∉ tail) : '\n' ∉ name ++ ':' :: tail := by
  obtain ⟨c, rest, -, -, hchars⟩ := exists_cons_of_isFieldName h
  rw [List.mem_append, List.mem_cons]
  rintro (hmem | hmem | hmem)
  · exact absurd (hchars _ hmem) (by decide)
  · exact absurd hmem (by decide)
  · exact htail hmem

/-- A line that starts a field holds no newline if the line of the value holds none. -/
theorem newline_notMem_headLine {name line : List Char} (h : isFieldName name = true)
    (hline : '\n' ∉ line) : '\n' ∉ headLine name line :=
  newline_notMem_append h (Text.newline_notMem_valueTail hline)

/-- A line that continues a value holds no newline if the line of the value holds none. -/
theorem newline_notMem_nextLine {line : List Char} (h : '\n' ∉ line) : '\n' ∉ nextLine line := by
  rw [nextLine, List.mem_cons, not_or]
  exact ⟨by decide, Text.newline_notMem_valueTail h⟩

/-- A line that starts with a name and a colon is a block line if what follows is whole. -/
theorem isBlockLine_append {name tail : List Char} (h : isFieldName name = true)
    (hnewline : '\n' ∉ tail) (hreturn : tail.getLast? ≠ some '\r') :
    Document.IsBlockLine (name ++ ':' :: tail) := by
  have hplain := newline_notMem_append h hnewline
  obtain ⟨c, rest, hname, hc, -⟩ := exists_cons_of_isFieldName h
  have hlast : (name ++ ':' :: tail).getLast? ≠ some '\r' := by
    rw [List.getLast?_append_cons]
    cases tail with
    | nil => decide
    | cons d tail => rwa [List.getLast?_cons_cons]
  rw [hname, List.cons_append] at hplain hlast ⊢
  exact .of_head (isBlank_of_isNameStart hc) hplain hlast

/-- A line that starts a field is a block line. -/
theorem isBlockLine_headLine {name line : List Char} (h : isFieldName name = true)
    (hnewline : '\n' ∉ line) (hreturn : line.getLast? ≠ some '\r') :
    Document.IsBlockLine (headLine name line) := by
  have hnone : ([] : List Char).getLast? ≠ some '\r' := nofun
  exact isBlockLine_append h (Text.newline_notMem_valueTail hnewline)
    (Text.getLast?_append_valueTail (by decide) hnone hreturn)

/-- A line that continues a value is a block line. -/
theorem isBlockLine_nextLine {line : List Char} (hnewline : '\n' ∉ line)
    (hreturn : line.getLast? ≠ some '\r') : Document.IsBlockLine (nextLine line) := by
  have hplus : ['+'].getLast? ≠ some '\r' := by decide
  exact .of_head rfl (newline_notMem_nextLine hnewline)
    (Text.getLast?_append_valueTail (by decide) hplus hreturn)

/-- The lines of a field with a proper name are block lines. -/
theorem isBlockLine_of_mem_lines {field : Field} (hname : field.isNamed = true)
    (hvalue : Text.NoReturnEnds field.value.toList) :
    ∀ line ∈ field.lines, Document.IsBlockLine line := by
  obtain ⟨first, others, hsegments⟩ := List.exists_cons_of_ne_nil
    (Text.segments_ne_nil field.value.toList)
  have hplain : ∀ line ∈ first :: others, '\n' ∉ line ∧ line.getLast? ≠ some '\r' := by
    rw [← hsegments]
    exact fun line hline => ⟨Text.newline_notMem_of_mem_segments hline, hvalue line hline⟩
  rw [List.forall_mem_cons] at hplain
  rw [lines_eq hsegments, List.forall_mem_cons, List.forall_mem_map]
  exact ⟨isBlockLine_headLine hname hplain.1.1 hplain.1.2, fun line hline =>
    isBlockLine_nextLine (hplain.2 line hline).1 (hplain.2 line hline).2⟩

/-- A written line that continues a value is read as the line, with the end as it is written. -/
theorem continuation?_nextLine (line : List Char) :
    continuation? (nextLine line) = some (Text.encodeLineEnd line) :=
  congrArg some (Text.dropOneBlank_valueTail line)

/-- The text of a field with a proper name denotes the field, whatever its value is. -/
theorem ofText?_text {field : Field} (h : field.isNamed = true) :
    ofText? field.text.toList = some field := by
  obtain ⟨first, others, hsegments⟩ := List.exists_cons_of_ne_nil
    (Text.segments_ne_nil field.value.toList)
  have hplain : ∀ line ∈ first :: others, '\n' ∉ line := by
    rw [← hsegments]
    exact fun line hline => Text.newline_notMem_of_mem_segments hline
  rw [List.forall_mem_cons] at hplain
  have hlines : field.lines = headLine field.name.toList first :: others.map nextLine :=
    lines_eq hsegments
  -- The text is cut into the lines that were joined, since they hold no newlines.
  have hcut : Text.cut (· == '\n') field.text.toList =
      (headLine field.name.toList first, others.map nextLine) := by
    have hwritten : Text.segments field.text.toList =
        headLine field.name.toList first :: others.map nextLine := by
      rw [text, String.toList_ofList, hlines]
      refine Text.segments_joinLines (List.cons_ne_nil _ _) ?_
      rw [List.forall_mem_cons, List.forall_mem_map]
      exact ⟨newline_notMem_headLine h hplain.1,
        fun line hline => newline_notMem_nextLine (hplain.2 line hline)⟩
    rw [Text.segments, Text.splitWhen, List.cons.injEq] at hwritten
    exact Prod.ext hwritten.1 hwritten.2
  have hothers : (others.map nextLine).mapM continuation? =
      some (others.map Text.encodeLineEnd) := by
    have hnext : continuation? ∘ nextLine = fun line => pure (Text.encodeLineEnd line) :=
      funext continuation?_nextLine
    rw [List.mapM_map, hnext]
    exact List.mapM_pure
  -- Every line end is read back as it was before it was written.
  have hvalue : Text.joinLines ((Text.encodeLineEnd first :: others.map Text.encodeLineEnd).map
      fun line => (Text.decodeLineEnd false line).1) = field.value.toList := by
    rw [← List.map_cons, List.map_map, ← Text.joinLines_segments field.value.toList, hsegments]
    refine congrArg Text.joinLines ((List.map_congr_left fun line _ => ?_).trans (List.map_id _))
    exact congrArg Prod.fst (Text.decodeLineEnd_encodeLineEnd false line)
  rw [ofText?, hcut]
  dsimp only
  rw [ofLine_headLine h, hothers]
  simp only [Except.toOption, Option.bind_eq_bind, Option.bind_some, String.toList_ofList, hvalue,
    String.ofList_toList]
  rfl

end Field

end TextRecords
