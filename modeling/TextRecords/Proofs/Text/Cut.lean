import Mathlib.Data.List.Basic
import TextRecords.Text.Split

/-!
# Pieces and the text they make

Cutting a list at its separators is the library's `List.splitOnP` (`splitWhen_eq_splitOnP`), so the
laws of the library apply: the segments of a text joined by newlines are the text
(`joinLines_segments`), and lines without newlines are found again in the text that they make
(`segments_joinLines`, `segments_endLines`). `splitWhen_intercalate` is the same for lists that are
joined by a separating element, as the blocks of a record text are by an empty line.

Where a line starts, the text before it is made of whole lines (`IsEnded`): it has as many newlines
as lines (`count_newline_endLines`), and what stands behind it has its own segments
(`IsEnded.exists_segments_append`).
-/

namespace TextRecords.Text

variable {α β : Type}

/-- Cutting at separators is the library's split. -/
theorem splitWhen_eq_splitOnP (separates : α → Bool) (list : List α) :
    splitWhen separates list = list.splitOnP separates := by
  induction list with
  | nil => rfl
  | cons a rest ih =>
    rw [List.splitOnP_cons_eq_if_modifyHead, ← ih]
    simp only [splitWhen, cut]
    split <;> rfl

/-- The segments of a text are its pieces between newlines, by the library's split. -/
theorem segments_eq_splitOn (text : List Char) : segments text = text.splitOn '\n' :=
  splitWhen_eq_splitOnP _ text

/-- A text has at least one segment. -/
theorem segments_ne_nil (text : List Char) : segments text ≠ [] :=
  List.cons_ne_nil _ _

/-- Cutting commutes with a map of the elements. -/
theorem splitWhen_map (separates : β → Bool) (f : α → β) (list : List α) :
    splitWhen separates (list.map f) =
      (splitWhen (fun a => separates (f a)) list).map (List.map f) := by
  induction list with
  | nil => rfl
  | cons a rest ih =>
    simp only [splitWhen, List.map_cons, List.cons.injEq] at ih ⊢
    simp only [cut]
    split
    · simp [ih]
    · simp [ih]

/-- No separator is left in a piece. -/
theorem not_separates_of_mem_splitWhen (separates : α → Bool) (list : List α) :
    ∀ piece ∈ splitWhen separates list, ∀ a ∈ piece, separates a = false := by
  induction list with
  | nil => simp [splitWhen, cut]
  | cons a rest ih =>
    simp only [splitWhen, List.forall_mem_cons] at ih
    simp only [splitWhen, cut]
    split
    · simpa [splitWhen] using ih
    · next h => simpa [splitWhen, h] using ih

/-- No newline is left in a segment. -/
theorem newline_notMem_of_mem_segments {text line : List Char} (h : line ∈ segments text) :
    '\n' ∉ line := fun hmem => by
  have := not_separates_of_mem_splitWhen _ text line h '\n' hmem
  simp at this

/-- A text is its segments joined by newlines. -/
theorem joinLines_segments (text : List Char) : joinLines (segments text) = text := by
  rw [segments_eq_splitOn, joinLines, List.intercalate_splitOn]

/-- Lines joined by newlines are the segments of the text that they make. -/
theorem segments_joinLines {lines : List (List Char)} (hne : lines ≠ [])
    (h : ∀ line ∈ lines, '\n' ∉ line) : segments (joinLines lines) = lines := by
  rw [segments_eq_splitOn, joinLines, List.splitOn_intercalate '\n' h hne]

/-- Lines that are ended by newlines are the segments of the text that they make, with an empty
segment after the last newline. -/
theorem segments_endLines {lines : List (List Char)} (h : ∀ line ∈ lines, '\n' ∉ line) :
    segments (endLines lines) = lines ++ [[]] := by
  induction lines with
  | nil => rfl
  | cons line rest ih =>
    rw [List.forall_mem_cons] at h
    have hcons : endLines (line :: rest) = line ++ '\n' :: endLines rest := by
      simp [endLines]
    rw [hcons, segments_eq_splitOn, List.splitOn_append_cons_self_of_not_mem h.1,
      ← segments_eq_splitOn, ih h.2, List.cons_append]

/-- A piece of a list stands in it with a separator, or nothing, behind it. -/
theorem exists_append_of_mem_splitWhen (separates : α → Bool) {list piece : List α}
    (h : piece ∈ splitWhen separates list) :
    ∃ before after, list = before ++ (piece ++ after) ∧ ∀ a ∈ after.head?, separates a = true := by
  suffices hcut : (∃ after, list = (cut separates list).1 ++ after ∧
      ∀ a ∈ after.head?, separates a = true) ∧ ∀ piece ∈ (cut separates list).2,
      ∃ before after, list = before ++ (piece ++ after) ∧
        ∀ a ∈ after.head?, separates a = true by
    rcases List.mem_cons.1 h with rfl | hrest
    · obtain ⟨after, hlist, hafter⟩ := hcut.1
      exact ⟨[], after, hlist, hafter⟩
    · exact hcut.2 piece hrest
  clear h
  induction list with
  | nil => exact ⟨⟨[], rfl, nofun⟩, List.forall_mem_nil _⟩
  | cons a rest ih =>
    obtain ⟨⟨after, hrest, hafter⟩, hothers⟩ := ih
    have hlater : ∀ piece ∈ (cut separates rest).2, ∃ before after,
        a :: rest = before ++ (piece ++ after) ∧ ∀ a ∈ after.head?, separates a = true := by
      intro piece hpiece
      obtain ⟨before, after, heq, hhead⟩ := hothers piece hpiece
      exact ⟨a :: before, after, congrArg (a :: ·) heq, hhead⟩
    simp only [cut]
    split
    · next hseparates =>
      refine ⟨⟨a :: rest, rfl, fun b hb => ?_⟩, List.forall_mem_cons.2 ⟨?_, hlater⟩⟩
      · rwa [← Option.some.inj hb]
      · exact ⟨[a], after, congrArg (a :: ·) hrest, hafter⟩
    · exact ⟨⟨after, congrArg (a :: ·) hrest, hafter⟩, hlater⟩

/-- A text without newlines is its only segment. -/
theorem segments_of_notMem {line : List Char} (h : '\n' ∉ line) : segments line = [line] := by
  rw [segments_eq_splitOn, List.splitOn_eq_singleton h]

/-- The segments on both sides of a newline. -/
theorem segments_append_newline (text rest : List Char) :
    segments (text ++ '\n' :: rest) = segments text ++ segments rest := by
  simp only [segments_eq_splitOn, List.splitOn_append_cons_self]

/-- Whether a line starts behind a text. -/
def IsEnded (text : List Char) : Prop :=
  text = [] ∨ text.getLast? = some '\n'

instance (text : List Char) : Decidable (IsEnded text) :=
  inferInstanceAs (Decidable (_ ∨ _))

/-- Whether a line ends before a text. -/
def EndsLine (text : List Char) : Prop :=
  text = [] ∨ text.head? = some '\n'

instance (text : List Char) : Decidable (EndsLine text) :=
  inferInstanceAs (Decidable (_ ∨ _))

/-- What stands behind whole lines has its own segments. -/
theorem IsEnded.exists_segments_append {text : List Char} (h : IsEnded text) :
    ∃ front, ∀ rest, segments (text ++ rest) = front ++ segments rest := by
  rcases h with rfl | hlast
  · exact ⟨[], fun _ => rfl⟩
  · obtain ⟨front, rfl⟩ := List.getLast?_eq_some_iff.1 hlast
    refine ⟨segments front, fun rest => ?_⟩
    rw [List.append_assoc, List.singleton_append, segments_append_newline]

/-- A line that ends before a text is a segment by itself. -/
theorem EndsLine.exists_segments_append {rest : List Char} (h : EndsLine rest) :
    ∃ behind, ∀ line, '\n' ∉ line → segments (line ++ rest) = line :: behind := by
  rcases h with rfl | hhead
  · refine ⟨[], fun line hline => ?_⟩
    rw [List.append_nil, segments_of_notMem hline]
  · obtain ⟨rest, rfl⟩ := List.head?_eq_some_iff.1 hhead
    refine ⟨segments rest, fun line hline => ?_⟩
    rw [segments_append_newline, segments_of_notMem hline, List.singleton_append]

/-- What follows joined lines goes on with the last of them. -/
theorem joinLines_concat_append (lines : List (List Char)) (last rest : List Char) :
    joinLines (lines ++ [last]) ++ rest = joinLines (lines ++ [last ++ rest]) := by
  induction lines with
  | nil => simp [joinLines]
  | cons line lines ih =>
    have hne : ∀ end_ : List Char, lines ++ [end_] ≠ [] := fun _ => by simp
    unfold joinLines at ih ⊢
    rw [List.cons_append, List.cons_append, List.intercalate_cons_of_ne_nil (hne _),
      List.intercalate_cons_of_ne_nil (hne _), List.append_assoc, List.append_assoc,
      List.append_assoc, ih]

/-- A text without newlines goes on with the last segment of the text before it. -/
theorem segments_append {text rest : List Char} {lines : List (List Char)} {last : List Char}
    (hsegments : segments text = lines ++ [last]) (h : '\n' ∉ rest) :
    segments (text ++ rest) = lines ++ [last ++ rest] := by
  have hplain : ∀ line ∈ lines ++ [last], '\n' ∉ line := by
    rw [← hsegments]
    exact fun line hline => newline_notMem_of_mem_segments hline
  rw [List.forall_mem_append, List.forall_mem_singleton] at hplain
  have htext : text ++ rest = joinLines (lines ++ [last ++ rest]) := by
    rw [← joinLines_concat_append, ← hsegments, joinLines_segments]
  rw [htext, segments_joinLines (by simp)]
  rw [List.forall_mem_append, List.forall_mem_singleton, List.mem_append, not_or]
  exact ⟨hplain.1, hplain.2, h⟩

/-- The pieces of a list together are the list without its separators. -/
theorem flatten_splitWhen (separates : α → Bool) (list : List α) :
    (splitWhen separates list).flatten = list.filter (!separates ·) := by
  induction list with
  | nil => rfl
  | cons a rest ih =>
    simp only [splitWhen, List.flatten_cons] at ih ⊢
    simp only [cut]
    split
    · next h => simp [h, ih]
    · next h => simp [h, ih]

/-- A character of a segment is one of the text. -/
theorem mem_of_mem_segments {text line : List Char} (hline : line ∈ segments text) {c : Char}
    (hc : c ∈ line) : c ∈ text := by
  have hflatten : c ∈ (segments text).flatten := List.mem_flatten.2 ⟨line, hline, hc⟩
  rw [segments, flatten_splitWhen] at hflatten
  exact List.mem_of_mem_filter hflatten

/-- The first line of joined lines with the others behind it. -/
theorem joinLines_cons (line : List Char) (rest : List (List Char)) :
    joinLines (line :: rest) = line ++ rest.flatMap ('\n' :: ·) := by
  induction rest generalizing line with
  | nil => simp [joinLines]
  | cons next rest ih =>
    rw [joinLines, List.intercalate_cons_cons, ← joinLines, ih]
    simp

/-- Ended lines are joined lines with a newline at the end. -/
theorem endLines_eq {lines : List (List Char)} (hne : lines ≠ []) :
    endLines lines = joinLines lines ++ ['\n'] := by
  obtain ⟨line, rest, rfl⟩ := List.exists_cons_of_ne_nil hne
  induction rest generalizing line with
  | nil => simp [endLines, joinLines]
  | cons next rest ih =>
    have hrest := ih next (List.cons_ne_nil _ _)
    rw [endLines] at hrest ⊢
    rw [List.flatMap_cons, hrest, joinLines, joinLines, List.intercalate_cons_cons]
    simp only [List.append_assoc]

/-- Lines in front of joined ones are ended. -/
theorem joinLines_append (lines : List (List Char)) {more : List (List Char)} (hne : more ≠ []) :
    joinLines (lines ++ more) = endLines lines ++ joinLines more := by
  induction lines with
  | nil => rfl
  | cons line rest ih =>
    rw [List.cons_append, joinLines, List.intercalate_cons_of_ne_nil
      (List.append_ne_nil_of_right_ne_nil rest hne), ← joinLines, ih, endLines, endLines,
      List.flatMap_cons, List.append_assoc, List.append_assoc, List.append_assoc]

/-- A line starts behind ended lines. -/
theorem isEnded_endLines (lines : List (List Char)) : IsEnded (endLines lines) := by
  rcases lines.eq_nil_or_concat' with rfl | ⟨front, line, rfl⟩
  · exact .inl rfl
  · refine .inr ?_
    rw [endLines, List.flatMap_append, List.flatMap_singleton, ← List.append_assoc,
      List.getLast?_concat]

/-- Ended lines have as many newlines as they are. -/
theorem count_newline_endLines {lines : List (List Char)} (h : ∀ line ∈ lines, '\n' ∉ line) :
    (endLines lines).count '\n' = lines.length := by
  induction lines with
  | nil => rfl
  | cons line rest ih =>
    rw [List.forall_mem_cons] at h
    rw [endLines, List.flatMap_cons, List.count_append, List.count_append,
      List.count_eq_zero_of_not_mem h.1, ← endLines, ih h.2, List.length_cons, Nat.add_comm]
    rfl

/-- The bytes of a text are those of its parts. -/
theorem byteLength_append (text rest : List Char) :
    byteLength (text ++ rest) = byteLength text + byteLength rest := by
  induction text with
  | nil => rw [List.nil_append, byteLength, Nat.zero_add]
  | cons c text ih => rw [List.cons_append, byteLength, byteLength, ih, Nat.add_assoc]

/-- The bytes of ended lines, line by line. -/
theorem byteLength_endLines_cons (line : List Char) (rest : List (List Char)) :
    byteLength (endLines (line :: rest)) = byteLength line + 1 + byteLength (endLines rest) := by
  rw [endLines, List.flatMap_cons, byteLength_append, byteLength_append, ← endLines]
  rfl

/-- An element of joined lists comes from the separator or from one of the lists. -/
theorem mem_of_mem_intercalate {separator : List α} {pieces : List (List α)} {a : α}
    (h : a ∈ List.intercalate separator pieces) : a ∈ separator ∨ ∃ piece ∈ pieces, a ∈ piece := by
  induction pieces with
  | nil => simp at h
  | cons piece rest ih =>
    cases rest with
    | nil => exact .inr ⟨piece, List.mem_cons_self, by simpa using h⟩
    | cons next rest =>
      rw [List.intercalate_cons_cons, List.mem_append, List.mem_append] at h
      rcases h with (h | h) | h
      · exact .inr ⟨piece, List.mem_cons_self, h⟩
      · exact .inl h
      · rcases ih h with h | ⟨found, hfound, h⟩
        · exact .inl h
        · exact .inr ⟨found, List.mem_cons_of_mem _ hfound, h⟩

/-- Lists joined by a separating element are the pieces of what they make. -/
theorem splitWhen_intercalate (separates : α → Bool) {separator : α}
    (hseparator : separates separator = true) {pieces : List (List α)} (hne : pieces ≠ [])
    (h : ∀ piece ∈ pieces, ∀ a ∈ piece, separates a = false) :
    splitWhen separates (List.intercalate [separator] pieces) = pieces := by
  rw [splitWhen_eq_splitOnP]
  induction pieces with
  | nil => exact absurd rfl hne
  | cons piece rest ih =>
    rw [List.forall_mem_cons] at h
    cases rest with
    | nil => rw [List.intercalate_singleton, List.splitOnP_eq_singleton h.1]
    | cons next rest =>
      rw [List.intercalate_cons_cons, List.append_assoc, List.singleton_append,
        List.splitOnP_append_cons_of_forall_mem h.1 _ hseparator, ih (List.cons_ne_nil _ _) h.2]

/-- The pieces on both sides of a separator that are not empty. -/
theorem filter_splitWhen_append_cons (separates : α → Bool) (before after : List α) {separator : α}
    (hseparator : separates separator = true) :
    (splitWhen separates (before ++ separator :: after)).filter (!·.isEmpty) =
      (splitWhen separates before).filter (!·.isEmpty) ++
        (splitWhen separates after).filter (!·.isEmpty) := by
  simp only [splitWhen_eq_splitOnP]
  rw [List.splitOnP_append_cons before after hseparator, List.filter_append]

/-- A separator at the end adds an empty piece. -/
theorem splitWhen_concat (separates : α → Bool) {separator : α}
    (hseparator : separates separator = true) (list : List α) :
    splitWhen separates (list ++ [separator]) = splitWhen separates list ++ [[]] := by
  simp only [splitWhen_eq_splitOnP]
  rw [List.splitOnP_append_cons list [] hseparator, List.splitOnP_nil]

/-- The pieces of lists that are joined by a separating element and ended by it, when none of the
lists is empty. -/
theorem filter_splitWhen_intercalate (separates : α → Bool) {separator : α}
    (hseparator : separates separator = true) {pieces : List (List α)}
    (hne : ∀ piece ∈ pieces, piece ≠ [])
    (h : ∀ piece ∈ pieces, ∀ a ∈ piece, separates a = false) :
    (splitWhen separates (List.intercalate [separator] pieces ++ [separator])).filter
      (!·.isEmpty) = pieces := by
  -- The separator at the end leaves one empty piece behind, which the filter drops.
  rw [splitWhen_concat separates hseparator, List.filter_append]
  cases pieces with
  | nil => rfl
  | cons piece rest =>
    rw [splitWhen_intercalate separates hseparator (List.cons_ne_nil _ _) h]
    have hfilter : (piece :: rest).filter (!·.isEmpty) = piece :: rest := by
      rw [List.filter_eq_self]
      intro piece hmem
      simpa using hne piece hmem
    rw [hfilter]
    simp

end TextRecords.Text
