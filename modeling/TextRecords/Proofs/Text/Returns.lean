import TextRecords.Proofs.Document.Line
import TextRecords.Proofs.Text.LineEnd

/-!
# Carriage returns at the end of a line

One carriage return at the end of a line belongs to the line end when a text is read
(`returns_dropFinal`). Apart from it, reading and writing keep the number of carriage returns that
end a line of a value: doubled or halved backslashes end a line in none
(`returns_encodeLineEnd`, `returns_of_decodeLineEnd`), and a joined line that is not blank ends the
value by itself (`returns_append_of_decodeLineEnd`).
-/

namespace TextRecords.Text

/-- How many carriage returns end a line. -/
def returns (line : List Char) : Nat :=
  trailing '\r' line

/-- The copies of a character that end a text are those behind any other character. -/
theorem trailing_append_of_mem {c d : Char} (hne : d ≠ c) {line : List Char} (hd : d ∈ line)
    (text : List Char) : trailing c (text ++ line) = trailing c line := by
  have hlength : (line.reverse.takeWhile (· == c)).length ≠ line.reverse.length := by
    intro heq
    have hall := List.takeWhile_eq_self_iff.1 ((List.takeWhile_sublist _).eq_of_length heq)
    exact hne (by simpa using hall d (List.mem_reverse.2 hd))
  rw [trailing, List.reverse_append, List.takeWhile_append, if_neg hlength, trailing]

/-- The copies of a character that end a text are those behind another character. -/
theorem trailing_append_cons {c d : Char} (hne : d ≠ c) (text line : List Char) :
    trailing c (text ++ d :: line) = trailing c line := by
  rw [trailing, List.reverse_append, List.reverse_cons, List.append_assoc, List.takeWhile_append]
  split
  · next hall =>
    rw [List.singleton_append, List.takeWhile_cons_of_neg (by simpa using hne), List.append_nil,
      trailing, hall]
  · rw [trailing]

/-- No copy of a character ends a text that ends otherwise. -/
theorem trailing_eq_zero_iff {c : Char} {text : List Char} :
    trailing c text = 0 ↔ text.getLast? ≠ some c := by
  rw [trailing, ← List.head?_reverse]
  cases text.reverse with
  | nil => simp
  | cons d rest =>
    by_cases hd : d = c
    · simp [hd]
    · simp [hd]

/-- No carriage return ends a line that holds none. -/
theorem returns_of_notMem {line : List Char} (h : '\r' ∉ line) : returns line = 0 :=
  trailing_eq_zero_iff.2 fun hlast => h (List.mem_of_getLast? hlast)

/-- What stands behind a character that is no carriage return ends a line. -/
theorem returns_append_cons {c : Char} (h : c ≠ '\r') (text line : List Char) :
    returns (text ++ c :: line) = returns line :=
  trailing_append_cons h text line

/-- A character in front that is no carriage return does not change the end of a line. -/
theorem returns_cons {c : Char} (h : c ≠ '\r') (line : List Char) :
    returns (c :: line) = returns line :=
  returns_append_cons h [] line

/-- No line ends in a carriage return exactly when none ends in more than zero. -/
theorem noReturnEnds_iff {text : List Char} :
    NoReturnEnds text ↔ ∀ line ∈ segments text, returns line ≤ 0 := by
  simp only [NoReturnEnds, Nat.le_zero, returns, trailing_eq_zero_iff]

/-- The line end takes one carriage return away. -/
theorem returns_dropFinal (line : List Char) :
    returns (dropFinal '\r' line) = returns line - 1 := by
  unfold dropFinal
  split
  · next h =>
    -- The one that is dropped stands behind all others that end the line.
    obtain ⟨front, rfl⟩ := List.getLast?_eq_some_iff.1 h
    have hone := trailing_append_replicate '\r' front 1
    rw [List.replicate_one] at hone
    rw [List.dropLast_concat, returns, returns, hone, Nat.add_sub_cancel_left]
  · next h => rw [returns, trailing_eq_zero_iff.2 h]

/-- A carriage return is blank, so a line is as blank without its end. -/
theorem all_isBlank_dropFinal (line : List Char) :
    (dropFinal '\r' line).all isBlank = line.all isBlank := by
  unfold dropFinal
  split
  · next h =>
    obtain ⟨front, rfl⟩ := List.getLast?_eq_some_iff.1 h
    have hreturn : isBlank '\r' = true := rfl
    rw [List.dropLast_concat, List.all_append, List.all_cons, hreturn, List.all_nil,
      Bool.and_true, Bool.and_true]
  · rfl

/-- The blank before a line of a value does not change its end. -/
theorem returns_dropOneBlank (line : List Char) : returns (dropOneBlank line) = returns line := by
  unfold dropOneBlank
  split
  · exact (returns_cons (by decide) _).symm
  · exact (returns_cons (by decide) _).symm
  · rfl

/-- A line that backslashes end is ended by no carriage return. -/
theorem returns_append_backslashes (text : List Char) (n : Nat) :
    returns (text ++ List.replicate (n + 1) '\\') = 0 := by
  rw [List.replicate_succ', ← List.append_assoc]
  exact returns_append_cons (by decide) _ []

/-- A text without backslashes at its end is left as it is by dropping them. -/
theorem dropTrailing_of_trailing_eq_zero {c : Char} {text : List Char} (h : trailing c text = 0) :
    dropTrailing c text = text := by
  have hsplit := dropTrailing_append_replicate c text
  rwa [h, List.replicate_zero, List.append_nil] at hsplit

/-- A line that backslashes end has no carriage return at its end. -/
theorem returns_of_trailing_ne_zero {line : List Char} (h : trailing '\\' line ≠ 0) :
    returns line = 0 := by
  obtain ⟨run, hrun⟩ := Nat.exists_eq_succ_of_ne_zero h
  rw [← dropTrailing_append_replicate '\\' line, hrun, returns_append_backslashes]

/-- Writing the end of a line keeps its carriage returns. -/
theorem returns_encodeLineEnd (line : List Char) : returns (encodeLineEnd line) = returns line := by
  unfold encodeLineEnd
  cases hrun : trailing '\\' line with
  | zero => rw [List.replicate_zero, List.append_nil]
  | succ run =>
    have hne : trailing '\\' line ≠ 0 := by
      rw [hrun]
      exact Nat.succ_ne_zero run
    rw [returns_append_backslashes, returns_of_trailing_ne_zero hne]

/-- Writing the end of a line adds no carriage return at its end. -/
theorem getLast?_encodeLineEnd_ne {line : List Char} (h : line.getLast? ≠ some '\r') :
    (encodeLineEnd line).getLast? ≠ some '\r' := by
  rw [← trailing_eq_zero_iff] at h ⊢
  exact (returns_encodeLineEnd line).trans h

/-- What stands behind the colon or the plus sign keeps the carriage returns of the line. -/
theorem returns_valueTail (line : List Char) : returns (valueTail line) = returns line := by
  unfold valueTail
  split
  · next h => rw [List.isEmpty_iff.1 h]
  · rw [← returns_encodeLineEnd line]
    exact returns_cons (by decide) _

/-- A line that joins the next one has no carriage return at its end. -/
theorem returns_of_joins {joins : Bool} {line text : List Char}
    (h : decodeLineEnd joins line = (text, true)) : returns line = 0 := by
  refine returns_of_trailing_ne_zero fun hrun => ?_
  -- Without backslashes at its end, the line joins nothing.
  have hfalse : (decodeLineEnd joins line).2 = false := by
    simp only [decodeLineEnd, hrun, Nat.zero_mod]
    rfl
  rw [h] at hfalse
  cases hfalse

/-- A line that joins nothing is read as it is, or with fewer backslashes at its end, but one at
least. -/
theorem decodeLineEnd_of_not_joins {joins : Bool} {line text : List Char}
    (h : decodeLineEnd joins line = (text, false)) :
    text = line ∨ trailing '\\' line ≠ 0 ∧ ∃ front, text = front ++ ['\\'] := by
  rw [decodeLineEnd] at h
  obtain ⟨htext, hjoins⟩ := Prod.mk.inj h
  by_cases hrun : trailing '\\' line = 0
  · refine .inl ?_
    rw [← htext, hrun, dropTrailing_of_trailing_eq_zero hrun]
    simp
  · refine .inr ⟨hrun, ?_⟩
    have hliteral : (if (trailing '\\' line % 2 == 1 && !joins) = true then
        trailing '\\' line / 2 + 1 else trailing '\\' line / 2) ≠ 0 := by
      split
      · exact Nat.succ_ne_zero _
      · next hkept =>
        -- An odd run would join the next line or be kept, so the run is even and not empty.
        have heven : trailing '\\' line % 2 ≠ 1 := by
          intro hodd
          cases joins with
          | true => simp [hodd] at hjoins
          | false => simp [hodd] at hkept
        omega
    obtain ⟨literal, heq⟩ := Nat.exists_eq_succ_of_ne_zero hliteral
    rw [heq, List.replicate_succ', ← List.append_assoc] at htext
    exact ⟨_, htext.symm⟩

/-- A line that joins nothing is read with its carriage returns. -/
theorem returns_of_decodeLineEnd {joins : Bool} {line text : List Char}
    (h : decodeLineEnd joins line = (text, false)) : returns text = returns line := by
  rcases decodeLineEnd_of_not_joins h with rfl | ⟨hrun, front, rfl⟩
  · rfl
  · rw [returns_of_trailing_ne_zero hrun]
    exact returns_append_cons (by decide) front []

/-- A line that joins nothing ends any text that it goes on with as it ends itself, unless it is
blank. -/
theorem returns_append_of_decodeLineEnd {joins : Bool} {line text : List Char}
    (h : decodeLineEnd joins line = (text, false)) (hblank : line.all isBlank = false)
    (before : List Char) : returns (before ++ text) = returns line := by
  rcases decodeLineEnd_of_not_joins h with rfl | ⟨hrun, front, rfl⟩
  · -- Some character of the line is not blank, and the carriage returns at its end stand behind it.
    obtain ⟨c, hmem, hc⟩ := List.all_eq_false.1 hblank
    refine trailing_append_of_mem ?_ hmem before
    rintro rfl
    exact hc rfl
  · rw [returns_of_trailing_ne_zero hrun, ← List.append_assoc]
    exact returns_append_cons (by decide) _ []

end TextRecords.Text
