import TextRecords.FieldSelection.Text
import TextRecords.Proofs.Lists
import TextRecords.Proofs.Number.Digits

/-!
# Selectors as they are written

The written form of a selector is read back from its text, whatever follows that cannot go on with
it (`Selector.written?_text`), and what is read is a sound written form
(`Selector.isSound_of_written?`). A selector is written in one way, and is the one that its written
form stands for (`Selector.ofWritten_written`); every selector that a sound written form stands for
is a proper one (`Selector.isProper_of_ofWritten`).
-/

namespace TextRecords

namespace Occurrences

/-- Occurrences as a subscript; none for all of them. -/
def text : Occurrences → List Char
  | all => []
  | one number => '[' :: (Nat.toDigits 10 number ++ [']'])
  | range first last => '[' :: (Nat.toDigits 10 first ++ '-' :: (Nat.toDigits 10 last ++ [']']))

/-- Whether the numbers of a subscript have 64 bits. -/
def IsBounded : Occurrences → Prop
  | all => True
  | one number => number < Number.wordCount
  | range first last => first < Number.wordCount ∧ last < Number.wordCount

/-- Whether numbers have 64 bits, and a range is not empty. -/
def IsProper : Occurrences → Prop
  | all => True
  | one number => number < Number.wordCount
  | range first last => first ≤ last ∧ last < Number.wordCount

instance : (occurrences : Occurrences) → Decidable occurrences.IsProper
  | all => inferInstanceAs (Decidable True)
  | one number => inferInstanceAs (Decidable (number < Number.wordCount))
  | range first last => inferInstanceAs (Decidable (first ≤ last ∧ last < Number.wordCount))

/-- The numbers of a proper subscript have 64 bits. -/
theorem IsProper.isBounded {occurrences : Occurrences} (h : occurrences.IsProper) :
    occurrences.IsBounded := by
  cases occurrences with
  | all => trivial
  | one number => exact h
  | range first last => exact ⟨Nat.lt_of_le_of_lt h.1 h.2, h.2⟩

end Occurrences

namespace Selector

/-- The text of a written selector. -/
def Written.text (written : Written) : List Char :=
  written.name ++ (written.occurrences.text ++
    match written.newName with
    | some newName => ':' :: newName
    | none => [])

/-- The written form of a selector. -/
def written (selector : Selector) : Written where
  name := selector.name.toList ++ if selector.commented then ['%'] else []
  occurrences := selector.occurrences
  newName := selector.newName.map String.toList

/-- A text of name characters, at least one. -/
def IsWord (word : List Char) : Prop :=
  word ≠ [] ∧ ∀ c ∈ word, isNameChar c = true

/-- A selector is written with words and numbers of 64 bits. -/
structure Written.IsSound (written : Written) : Prop where
  name : IsWord written.name
  occurrences : written.occurrences.IsBounded
  newName : ∀ newName ∈ written.newName, IsWord newName

/-- A selector that can be written: its names are field names, its subscript is proper, and the
percent sign that ends the written name of a selector of commented out fields is told from one that
belongs to the name. -/
structure IsProper (selector : Selector) : Prop where
  name : isFieldName selector.name.toList = true
  newName : ∀ newName ∈ selector.newName, isFieldName newName.toList = true
  occurrences : selector.occurrences.IsProper
  plain : selector.commented = false → selector.name.toList.getLast? = some '%' →
    selector.name.toList.head? = some '%'
  commented : selector.commented = true → selector.name.toList.head? ≠ some '%'

instance (selector : Selector) : Decidable selector.IsProper :=
  decidable_of_iff
    (isFieldName selector.name.toList = true ∧
      (∀ newName ∈ selector.newName, isFieldName newName.toList = true) ∧
      selector.occurrences.IsProper ∧
      (selector.commented = false → selector.name.toList.getLast? = some '%' →
        selector.name.toList.head? = some '%') ∧
      (selector.commented = true → selector.name.toList.head? ≠ some '%'))
    ⟨fun h => ⟨h.1, h.2.1, h.2.2.1, h.2.2.2.1, h.2.2.2.2⟩, fun h => ⟨h.1, h.2, h.3, h.4, h.5⟩⟩

/-- A text with which no selector goes on: it starts with no name character, bracket or colon. -/
def Ends (rest : List Char) : Prop :=
  ∀ c ∈ rest.head?, isNameChar c = false ∧ c ≠ '[' ∧ c ≠ ':'

/-- A field name is a word. -/
theorem isWord_of_isFieldName {name : List Char} (h : isFieldName name = true) : IsWord name := by
  cases name with
  | nil => cases h
  | cons c rest =>
    rw [isFieldName, Bool.and_eq_true, List.all_eq_true] at h
    have hc : isNameChar c = true := by
      have hstart := h.1
      simp only [isNameStart, Bool.or_eq_true] at hstart
      simp only [isNameChar, Char.isAlphanum, Bool.or_eq_true]
      tauto
    exact ⟨List.cons_ne_nil c rest, List.forall_mem_cons.2 ⟨hc, h.2⟩⟩

section Read

variable {text rest : List Char}

/-- A word is read up to a character that is in no name. -/
theorem name?_append {word : List Char} (hword : IsWord word)
    (hrest : ∀ c ∈ rest.head?, isNameChar c = false) :
    name? (word ++ rest) = some (word, rest) := by
  obtain ⟨htake, hdrop⟩ := span_append hword.2 hrest
  obtain ⟨c, others, rfl⟩ := List.exists_cons_of_ne_nil hword.1
  rw [name?, htake, hdrop]

/-- What is read as a name is a word. -/
theorem isWord_of_name? {word : List Char} (h : name? text = some (word, rest)) : IsWord word := by
  unfold name? at h
  split at h
  · cases h
  · next hne =>
    obtain ⟨rfl, -⟩ := Prod.mk.inj (Option.some.inj h)
    exact ⟨hne, fun c hc => List.mem_takeWhile_imp hc⟩

/-- The digits of a number of 64 bits are read up to a character that is no digit. -/
theorem index?_append {number : Nat} (hnumber : number < Number.wordCount)
    (hrest : ∀ c ∈ rest.head?, c.isDigit = false) :
    index? (Nat.toDigits 10 number ++ rest) = some (number, rest) := by
  have hdigits : ∀ c ∈ Nat.toDigits 10 number, c.isDigit = true := fun c hc =>
    Number.isDigit_of_mem_toDigits hc
  obtain ⟨htake, hdrop⟩ := span_append hdigits hrest
  rw [index?, htake, hdrop, Number.digits?_toDigits]
  exact if_pos hnumber

/-- A number that is read has 64 bits. -/
theorem lt_of_index? {number : Nat} (h : index? text = some (number, rest)) :
    number < Number.wordCount := by
  obtain ⟨value, -, h⟩ := Option.bind_eq_some_iff.1 h
  split at h
  · next hlt =>
    obtain ⟨rfl, -⟩ := Prod.mk.inj (Option.some.inj h)
    exact hlt
  · cases h

/-- No digit is a blank. -/
theorem skip_toDigits (number : Nat) (rest : List Char) :
    skip (Nat.toDigits 10 number ++ rest) = Nat.toDigits 10 number ++ rest := by
  obtain ⟨c, others, hdigits⟩ := List.exists_cons_of_ne_nil
    (Nat.toDigits_ne_nil (n := number) (b := 10))
  have hc : c.isDigit = true :=
    Number.isDigit_of_mem_toDigits (hdigits ▸ List.mem_cons_self)
  have hspace : ¬isSpace c = true := by
    intro hspace
    simp only [isSpace, Bool.or_eq_true, beq_iff_eq] at hspace
    rcases hspace with ((rfl | rfl) | rfl) | rfl <;> exact absurd hc (by decide)
  rw [hdigits, List.cons_append, skip, List.dropWhile_cons_of_neg hspace]

/-- A subscript is read back. -/
theorem subscript?_append {occurrences : Occurrences} (h : occurrences.IsBounded)
    (hrest : ∀ c ∈ rest.head?, c ≠ '[') :
    subscript? (occurrences.text ++ rest) = some (occurrences, rest) := by
  have hclose : ∀ c ∈ (']' :: rest).head?, c.isDigit = false := by
    rintro _ ⟨⟩
    rfl
  cases occurrences with
  | all =>
    cases rest with
    | nil => rfl
    | cons c rest =>
      have hc := hrest c rfl
      rw [Occurrences.text, List.nil_append, subscript?]
      rintro more ⟨⟩
      exact hc rfl
  | one number =>
    rw [Occurrences.text, List.cons_append, List.append_assoc, List.singleton_append, subscript?,
      skip_toDigits, index?_append h hclose]
    rfl
  | range first last =>
    have hhyphen : ∀ c ∈ ('-' :: (Nat.toDigits 10 last ++ ']' :: rest)).head?,
        c.isDigit = false := by
      rintro _ ⟨⟩
      rfl
    have hskip : skip ('-' :: (Nat.toDigits 10 last ++ ']' :: rest)) =
        '-' :: (Nat.toDigits 10 last ++ ']' :: rest) := rfl
    have htext : (Occurrences.range first last).text ++ rest =
        '[' :: (Nat.toDigits 10 first ++ '-' :: (Nat.toDigits 10 last ++ ']' :: rest)) := by
      simp [Occurrences.text]
    rw [htext, subscript?, skip_toDigits, index?_append h.1 hhyphen]
    simp only [Option.bind_eq_bind, Option.bind_some, hskip]
    rw [skip_toDigits, index?_append h.2 hclose]
    rfl

/-- The numbers of a subscript that is read have 64 bits. -/
theorem isBounded_of_subscript? {occurrences : Occurrences}
    (h : subscript? text = some (occurrences, rest)) : occurrences.IsBounded := by
  unfold subscript? at h
  split at h
  · obtain ⟨⟨first, afterFirst⟩, hfirst, h⟩ := Option.bind_eq_some_iff.1 h
    dsimp only at h
    split at h
    · obtain ⟨rfl, -⟩ := Prod.mk.inj (Option.some.inj h)
      exact lt_of_index? hfirst
    · obtain ⟨⟨last, afterLast⟩, hlast, h⟩ := Option.bind_eq_some_iff.1 h
      dsimp only at h
      split at h
      · obtain ⟨rfl, -⟩ := Prod.mk.inj (Option.some.inj h)
        exact ⟨lt_of_index? hfirst, lt_of_index? hlast⟩
      · cases h
    · cases h
  · obtain ⟨rfl, -⟩ := Prod.mk.inj (Option.some.inj h)
    trivial

/-- The text of a sound written selector is read as the selector, if what follows cannot go on with
it. -/
theorem written?_text {written : Written} (h : written.IsSound) (hrest : Ends rest) :
    written? (written.text ++ rest) = some (written, rest) := by
  obtain ⟨name, occurrences, newName⟩ := written
  -- The name ends before the bracket of the subscript, the colon, or the rest.
  cases newName with
  | none =>
    have hname : ∀ c ∈ (occurrences.text ++ rest).head?, isNameChar c = false := by
      cases occurrences with
      | all => exact fun c hc => (hrest c hc).1
      | one number => rintro _ ⟨⟩; rfl
      | range first last => rintro _ ⟨⟩; rfl
    have hnewName : newName? rest = some (none, rest) := by
      cases rest with
      | nil => rfl
      | cons c rest =>
        have hc := (hrest c rfl).2.2
        rw [newName?]
        rintro more ⟨⟩
        exact hc rfl
    rw [Written.text, List.append_nil, List.append_assoc, written?, name?_append h.name hname]
    simp only [Option.bind_eq_bind, Option.bind_some]
    rw [subscript?_append h.occurrences fun c hc => (hrest c hc).2.1]
    simp only [Option.bind_some, hnewName]
    rfl
  | some newName =>
    have hname : ∀ c ∈ (occurrences.text ++ ':' :: (newName ++ rest)).head?,
        isNameChar c = false := by
      cases occurrences with
      | all => rintro _ ⟨⟩; rfl
      | one number => rintro _ ⟨⟩; rfl
      | range first last => rintro _ ⟨⟩; rfl
    have hcolon : ∀ c ∈ (':' :: (newName ++ rest)).head?, c ≠ '[' := by
      rintro _ ⟨⟩
      decide
    have htext : Written.text ⟨name, occurrences, some newName⟩ ++ rest =
        name ++ (occurrences.text ++ ':' :: (newName ++ rest)) := by
      simp [Written.text]
    rw [htext, written?, name?_append h.name hname]
    simp only [Option.bind_eq_bind, Option.bind_some]
    rw [subscript?_append h.occurrences hcolon]
    simp only [Option.bind_some, newName?]
    rw [name?_append (h.newName newName rfl) fun c hc => (hrest c hc).1]
    rfl

/-- What is read as a selector is written with words and numbers of 64 bits. -/
theorem isSound_of_written? {written : Written} (h : written? text = some (written, rest)) :
    written.IsSound := by
  obtain ⟨⟨name, afterName⟩, hname, h⟩ := Option.bind_eq_some_iff.1 h
  obtain ⟨⟨occurrences, afterOccurrences⟩, hoccurrences, h⟩ := Option.bind_eq_some_iff.1 h
  obtain ⟨⟨newName, afterNewName⟩, hnewName, h⟩ := Option.bind_eq_some_iff.1 h
  obtain ⟨rfl, -⟩ := Prod.mk.inj (Option.some.inj h)
  refine ⟨isWord_of_name? hname, isBounded_of_subscript? hoccurrences, ?_⟩
  rintro word ⟨⟩
  unfold newName? at hnewName
  split at hnewName
  · obtain ⟨⟨other, afterOther⟩, hother, heq⟩ := Option.map_eq_some_iff.1 hnewName
    obtain ⟨hword, -⟩ := Prod.mk.inj heq
    rw [← Option.some.inj hword]
    exact isWord_of_name? hother
  · cases hnewName

end Read

/-- A percent sign behind a name that starts with none is for commented out fields. -/
theorem target_concat {name : List Char} (hne : name ≠ []) (hhead : name.head? ≠ some '%') :
    target (name ++ ['%']) = (name, true) := by
  have hshorter : Text.dropFinal '%' (name ++ ['%']) = name := by
    rw [Text.dropFinal, if_pos List.getLast?_concat, List.dropLast_concat]
  rw [target, hshorter, if_pos]
  simp [hne, hhead]

/-- A percent sign that ends a name belongs to it when the name starts with one as well. -/
theorem target_of_head {name : List Char}
    (h : name.getLast? = some '%' → name.head? = some '%') : target name = (name, false) := by
  rw [target, if_neg]
  unfold Text.dropFinal
  split
  · next hlast =>
    have hhead := h hlast
    obtain ⟨front, rfl⟩ := List.getLast?_eq_some_iff.1 hlast
    rw [List.dropLast_concat]
    cases front with
    | nil => simp
    | cons c front => simpa using hhead
  · simp

/-- A written name is for commented out fields or for plain ones. -/
theorem target_cases (name : List Char) :
    (∃ field, name = field ++ ['%'] ∧ field.head? ≠ some '%' ∧ target name = (field, true)) ∨
      (name.getLast? = some '%' → name.head? = some '%') ∧ target name = (name, false) := by
  by_cases h : name.getLast? = some '%' → name.head? = some '%'
  · exact .inr ⟨h, target_of_head h⟩
  · rw [Classical.not_imp] at h
    obtain ⟨hlast, hhead⟩ := h
    obtain ⟨field, rfl⟩ := List.getLast?_eq_some_iff.1 hlast
    have hne : field ≠ [] := by
      rintro rfl
      exact hhead rfl
    rw [List.head?_append_of_ne_nil _ hne] at hhead
    exact .inl ⟨field, rfl, hhead, target_concat hne hhead⟩

/-- The written form of a proper selector has the name and the kind of the selector for its
target. -/
theorem target_written {selector : Selector} (h : selector.IsProper) :
    target selector.written.name = (selector.name.toList, selector.commented) := by
  unfold written
  dsimp only
  cases hcommented : selector.commented with
  | false =>
    rw [if_neg Bool.false_ne_true, List.append_nil]
    exact target_of_head (h.plain hcommented)
  | true =>
    rw [if_pos rfl]
    exact target_concat (isWord_of_isFieldName h.name).1 (h.commented hcommented)

/-- The written form of a proper selector is sound. -/
theorem IsProper.isSound_written {selector : Selector} (h : selector.IsProper) :
    selector.written.IsSound := by
  obtain ⟨hne, hchars⟩ := isWord_of_isFieldName h.name
  refine ⟨⟨List.append_ne_nil_of_left_ne_nil hne _, ?_⟩, h.occurrences.isBounded, ?_⟩
  · refine List.forall_mem_append.2 ⟨hchars, ?_⟩
    cases selector.commented with
    | false => exact List.forall_mem_nil _
    | true => exact List.forall_mem_singleton.2 rfl
  · intro word hword
    obtain ⟨newName, hnewName, rfl⟩ := Option.map_eq_some_iff.1 hword
    exact isWord_of_isFieldName (h.newName newName hnewName)

/-- A proper selector is the one that its written form stands for. -/
theorem ofWritten_written {selector : Selector} (h : selector.IsProper) :
    ofWritten selector.written = .ok selector := by
  have htarget := target_written h
  have hname := h.name
  have halias : selector.written.newName.filter (!isFieldName ·) = none := by
    rw [Option.filter_eq_none_iff]
    intro word hword
    obtain ⟨newName, hnewName, rfl⟩ := Option.map_eq_some_iff.1 hword
    simp [h.newName newName hnewName]
  have hnames : selector.written.newName.map String.ofList = selector.newName := by
    rw [written, Option.map_map]
    simp
  have hoccurrences := h.occurrences
  obtain ⟨name, occurrences, newName, commented⟩ := selector
  rw [ofWritten, htarget]
  simp only [hname, halias, hnames, String.ofList_toList]
  cases occurrences with
  | all => rfl
  | one number => rfl
  | range first last => exact if_pos hoccurrences.1

/-- What a written form stands for has its target, its subscript and its alias, and both names are
field names. -/
theorem of_ofWritten {written : Written} {selector : Selector}
    (h : ofWritten written = .ok selector) :
    selector = ⟨.ofList (target written.name).1, written.occurrences,
        written.newName.map String.ofList, (target written.name).2⟩ ∧
      isFieldName (target written.name).1 = true ∧
      (∀ newName ∈ written.newName, isFieldName newName = true) ∧
      ∀ first last, written.occurrences = .range first last → first ≤ last := by
  unfold ofWritten at h
  dsimp only at h
  split at h
  · cases h
  · next hname =>
    rw [Bool.not_eq_true, Bool.not_eq_false'] at hname
    split at h
    · cases h
    · next halias =>
      have hnewName : ∀ newName ∈ written.newName, isFieldName newName = true := by
        intro newName hmem
        simpa using Option.filter_eq_none_iff.1 halias newName hmem
      split at h
      · next first last hrange =>
        split at h
        · next hle =>
          rw [hrange]
          refine ⟨(Except.ok.inj h).symm, hname, hnewName, ?_⟩
          rintro _ _ ⟨⟩
          exact hle
        · cases h
      · next hother =>
        refine ⟨(Except.ok.inj h).symm, hname, hnewName, fun first last hrange => ?_⟩
        exact absurd hrange (hother first last)

/-- A selector that a sound written form stands for is a proper one. -/
theorem isProper_of_ofWritten {written : Written} {selector : Selector} (hsound : written.IsSound)
    (h : ofWritten written = .ok selector) : selector.IsProper := by
  obtain ⟨rfl, hname, hnewName, hrange⟩ := of_ofWritten h
  have hoccurrences : written.occurrences.IsProper := by
    have hbounded := hsound.occurrences
    cases hnumbers : written.occurrences with
    | all => trivial
    | one number =>
      rw [hnumbers] at hbounded
      exact hbounded
    | range first last =>
      rw [hnumbers] at hbounded
      exact ⟨hrange first last hnumbers, hbounded.2⟩
  refine ⟨by rwa [String.toList_ofList], ?_, hoccurrences, ?_, ?_⟩
  · intro output houtput
    obtain ⟨newName, hmem, rfl⟩ := Option.map_eq_some_iff.1 houtput
    rw [String.toList_ofList]
    exact hnewName newName hmem
  · rw [String.toList_ofList]
    intro hcommented
    rcases target_cases written.name with ⟨field, -, -, htarget⟩ | ⟨hhead, htarget⟩
    · rw [htarget] at hcommented
      cases hcommented
    · rw [htarget]
      exact hhead
  · rw [String.toList_ofList]
    intro hcommented
    rcases target_cases written.name with ⟨field, -, hhead, htarget⟩ | ⟨-, htarget⟩
    · rw [htarget]
      exact hhead
    · rw [htarget] at hcommented
      cases hcommented

end Selector

end TextRecords
