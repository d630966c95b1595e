import Mathlib.Data.List.Basic
import Mathlib.Data.List.TakeWhile
import TextRecords.Field.Text

/-!
# The ends of value lines

The backslashes that end a line are doubled when it is written. A line that was written so is read
back with none joined to the next, whether backslashes join lines or not
(`decodeLineEnd_encodeLineEnd`), and stands behind its colon or plus sign so that the one blank
dropped there is the one that was put in (`dropOneBlank_valueTail`).
-/

namespace TextRecords.Text

/-- A text is its part before the trailing copies of a character, and the copies. -/
theorem dropTrailing_append_replicate (c : Char) (text : List Char) :
    dropTrailing c text ++ List.replicate (trailing c text) c = text := by
  have hrun : text.reverse.takeWhile (· == c) = List.replicate (trailing c text) c := by
    rw [List.eq_replicate_iff]
    exact ⟨rfl, fun d hd => by simpa using List.mem_takeWhile_imp hd⟩
  have hsplit : text.reverse.takeWhile (· == c) ++ text.reverse.dropWhile (· == c) = text.reverse :=
    List.takeWhile_append_dropWhile
  rw [← List.reverse_inj, List.reverse_append, List.reverse_replicate, ← hrun, dropTrailing,
    List.reverse_reverse, hsplit]

/-- Copies of a character at the end of a text add to those that end it. -/
theorem trailing_append_replicate (c : Char) (text : List Char) (n : Nat) :
    trailing c (text ++ List.replicate n c) = n + trailing c text := by
  rw [trailing, List.reverse_append, List.reverse_replicate,
    List.takeWhile_append_of_pos (by simp +contextual), List.length_append, List.length_replicate,
    trailing]

/-- Copies of a character at the end of a text go with those that end it. -/
theorem dropTrailing_append_replicate_self (c : Char) (text : List Char) (n : Nat) :
    dropTrailing c (text ++ List.replicate n c) = dropTrailing c text := by
  rw [dropTrailing, List.reverse_append, List.reverse_replicate,
    List.dropWhile_append_of_pos (by simp +contextual), dropTrailing]

/-- A line end that is written is read back, and joins nothing. -/
theorem decodeLineEnd_encodeLineEnd (joins : Bool) (line : List Char) :
    decodeLineEnd joins (encodeLineEnd line) = (line, false) := by
  have hrun : trailing '\\' (encodeLineEnd line) = 2 * trailing '\\' line := by
    rw [encodeLineEnd, trailing_append_replicate]
    omega
  -- The run is even, so no backslash is left over to join the line to the next.
  have heven : 2 * trailing '\\' line % 2 = 0 := Nat.mul_mod_right _ _
  have hhalf : 2 * trailing '\\' line / 2 = trailing '\\' line := by omega
  simp only [decodeLineEnd, hrun, heven, hhalf]
  rw [encodeLineEnd, dropTrailing_append_replicate_self]
  simp [dropTrailing_append_replicate]

/-- The blank that is dropped before a line of a value is the one that was written. -/
theorem dropOneBlank_valueTail (line : List Char) :
    dropOneBlank (valueTail line) = encodeLineEnd line := by
  cases line with
  | nil => rfl
  | cons c rest => rfl

/-- Writing the end of a line adds no newline. -/
theorem newline_notMem_encodeLineEnd {line : List Char} (h : '\n' ∉ line) :
    '\n' ∉ encodeLineEnd line := by
  simp [encodeLineEnd, h]

/-- What stands behind the colon or the plus sign holds no newline if the line holds none. -/
theorem newline_notMem_valueTail {line : List Char} (h : '\n' ∉ line) :
    '\n' ∉ valueTail line := by
  unfold valueTail
  split
  · exact List.not_mem_nil
  · rw [List.mem_cons, not_or]
    exact ⟨by decide, newline_notMem_encodeLineEnd h⟩

/-- A written line of a value ends as the line does, or in a backslash or in what stands before
it. -/
theorem getLast?_append_valueTail {c : Char} (hc : c ≠ '\\') {start line : List Char}
    (hstart : start.getLast? ≠ some c) (hline : line.getLast? ≠ some c) :
    (start ++ valueTail line).getLast? ≠ some c := by
  unfold valueTail
  split
  · rwa [List.append_nil]
  · next hne =>
    have hne : line ≠ [] := by simpa using hne
    -- The last character is one of the added backslashes, or else the last one of the line.
    rw [encodeLineEnd, List.append_cons, ← List.append_assoc, List.getLast?_append]
    cases trailing '\\' line with
    | zero =>
      rw [List.replicate_zero, List.getLast?_nil, Option.none_or,
        List.getLast?_append_of_ne_nil _ hne]
      exact hline
    | succ n => simpa [List.getLast?_replicate] using Ne.symm hc

end TextRecords.Text
