import TextRecords.FieldSelection.Basic

/-!
# Field selections in text

Selectors are separated by a comma, with blanks around it or without, or by blanks. A selector is a
name, a subscript in brackets if it has one, and an alias after a colon if it has one. The subscript
is a number or two numbers joined by a hyphen; blanks may stand between its parts. A name that ends
in a percent sign picks the fields of the shorter name that are commented out.

Only spaces, tabs and the two characters that end lines are blanks here.
-/

namespace TextRecords

namespace Selector

/-- Whether a character is a blank of field selections. -/
def isSpace (c : Char) : Bool :=
  c == ' ' || c == '\t' || c == '\r' || c == '\n'

/-- A text without the blanks that start it. -/
def skip (text : List Char) : List Char :=
  text.dropWhile isSpace

/-- A selector as it is written. -/
structure Written where
  name : List Char
  occurrences : Occurrences
  newName : Option (List Char)

/-- The number of 64 bits that starts a text, and the rest. -/
def index? (text : List Char) : Option (Nat × List Char) := do
  let number ← Number.digits? Number.decimalDigit? 10 (text.takeWhile Char.isDigit)
  if number < Number.wordCount then some (number, text.dropWhile Char.isDigit) else none

/-- The subscript that starts a text, and the rest. Without a bracket all occurrences are meant. -/
def subscript? : List Char → Option (Occurrences × List Char)
  | '[' :: text => do
    let (first, rest) ← index? (skip text)
    match skip rest with
    | ']' :: rest => some (.one first, rest)
    | '-' :: rest =>
      let (last, rest) ← index? (skip rest)
      match skip rest with
      | ']' :: rest => some (.range first last, rest)
      | _ => none
    | _ => none
  | text => some (.all, text)

/-- The name that starts a text, and the rest. -/
def name? (text : List Char) : Option (List Char × List Char) :=
  match text.takeWhile isNameChar with
  | [] => none
  | name => some (name, text.dropWhile isNameChar)

/-- The alias that starts a text after a colon, if there is one, and the rest. -/
def newName? : List Char → Option (Option (List Char) × List Char)
  | ':' :: text => (name? text).map fun (newName, rest) => (some newName, rest)
  | text => some (none, text)

/-- The selector that starts a text, and the rest. -/
def written? (text : List Char) : Option (Written × List Char) := do
  let (name, rest) ← name? text
  let (occurrences, rest) ← subscript? rest
  let (newName, rest) ← newName? rest
  return (⟨name, occurrences, newName⟩, rest)

/-- Blanks that are skipped make a text no longer. -/
theorem skip_length_le (text : List Char) : (skip text).length ≤ text.length :=
  (List.dropWhile_sublist isSpace).length_le

/-- A name takes at least one character. -/
theorem name?_shorter {text name rest : List Char} (h : name? text = some (name, rest)) :
    rest.length < text.length := by
  unfold name? at h
  split at h
  · cases h
  · next hname =>
    cases h
    have := congrArg List.length (List.takeWhile_append_dropWhile (p := isNameChar) (l := text))
    rw [List.length_append] at this
    have := List.length_pos_iff.2 hname
    omega

/-- What is left behind a number is no longer than the text. -/
theorem index?_length_le {text rest : List Char} {number : Nat}
    (h : index? text = some (number, rest)) : rest.length ≤ text.length := by
  simp only [index?, Option.bind_eq_bind, Option.bind_eq_some_iff] at h
  obtain ⟨_, _, h⟩ := h
  split at h
  · cases h
    exact (List.dropWhile_sublist _).length_le
  · cases h

/-- What is left behind a subscript, which may be left out, is no longer than the text. -/
theorem subscript?_length_le {text rest : List Char} {occurrences : Occurrences}
    (h : subscript? text = some (occurrences, rest)) : rest.length ≤ text.length := by
  unfold subscript? at h
  split at h
  · next text =>
    simp only [Option.bind_eq_bind, Option.bind_eq_some_iff] at h
    obtain ⟨⟨first, afterFirst⟩, hfirst, h⟩ := h
    have hle := index?_length_le hfirst
    have := skip_length_le text
    have hskip := skip_length_le afterFirst
    simp only at h
    split at h
    · next heq =>
      cases h
      rw [heq] at hskip
      simp only [List.length_cons] at hskip ⊢
      omega
    · next afterHyphen heq =>
      obtain ⟨⟨last, afterLast⟩, hlast, h⟩ := Option.bind_eq_some_iff.1 h
      have := index?_length_le hlast
      have := skip_length_le afterHyphen
      have hskipLast := skip_length_le afterLast
      rw [heq] at hskip
      simp only at h
      split at h
      · next heqLast =>
        cases h
        rw [heqLast] at hskipLast
        simp only [List.length_cons] at hskip hskipLast ⊢
        omega
      · cases h
    · cases h
  · cases h
    exact Nat.le_refl _

/-- What is left behind a new name, which may be left out, is no longer than the text. -/
theorem newName?_length_le {text rest : List Char} {newName : Option (List Char)}
    (h : newName? text = some (newName, rest)) : rest.length ≤ text.length := by
  unfold newName? at h
  split at h
  · obtain ⟨⟨_, _⟩, hname, h⟩ := Option.map_eq_some_iff.1 h
    cases h
    have := name?_shorter hname
    simp only [List.length_cons]
    omega
  · cases h
    exact Nat.le_refl _

/-- A selector takes at least one character. -/
theorem written?_shorter {text rest : List Char} {written : Written}
    (h : written? text = some (written, rest)) : rest.length < text.length := by
  simp only [written?, Option.bind_eq_bind, Option.bind_eq_some_iff] at h
  obtain ⟨⟨_, _⟩, hname, ⟨_, _⟩, hsubscript, ⟨_, _⟩, hnewName, h⟩ := h
  cases h
  have := name?_shorter hname
  have := subscript?_length_le hsubscript
  have := newName?_length_le hnewName
  simp only at *
  omega

/-- The selectors of a text, all of it. -/
def writtenList? (text : List Char) : Option (List Written) :=
  match _first : written? (skip text) with
  | none => none
  | some (written, rest) =>
    match _gap : skip rest with
    | [] => some [written]
    | ',' :: more => (writtenList? more).map (written :: ·)
    | _ =>
      if (skip rest).length < rest.length then (writtenList? rest).map (written :: ·) else none
termination_by text.length
decreasing_by
  · have := written?_shorter _first
    have := skip_length_le text
    have hgap := skip_length_le rest
    rw [_gap, List.length_cons] at hgap
    omega
  · have := written?_shorter _first
    have := skip_length_le text
    omega

end Selector

/-- What is wrong with a selector. -/
inductive SelectorFault where
  | invalidName (name : String)
  | invalidAlias (name : String)
  | emptyRange (first last : Nat) (name : String)
deriving DecidableEq, Repr

/-- The fault in words. -/
def SelectorFault.message : SelectorFault → String
  | invalidName name => s!"invalid field name '{name}'"
  | invalidAlias name => s!"invalid alias '{name}'"
  | emptyRange first last name => s!"empty range [{first}-{last}] on '{name}'"

/-- Why a text is no field selection. -/
inductive FieldSelectionFault where
  | malformed (source : String)
  | selector (fault : SelectorFault) (source : String)
deriving DecidableEq, Repr

/-- The fault in words. -/
def FieldSelectionFault.message : FieldSelectionFault → String
  | malformed source => s!"malformed field expression '{source}'"
  | selector fault source => s!"{fault.message} in '{source}'"

namespace Selector

/-- The field that a written name selects, and whether it selects it commented out. The percent sign
at the end of a name of declarations belongs to the name. -/
def target (name : List Char) : List Char × Bool :=
  let shorter := Text.dropFinal '%' name
  if shorter.length < name.length && !shorter.isEmpty && shorter.head? != some '%' then
    (shorter, true)
  else (name, false)

/-- The selector that is written, if its names are field names and its range is not empty. -/
def ofWritten (written : Written) : Except SelectorFault Selector :=
  let (name, commented) := target written.name
  let build := fun occurrences =>
    Except.ok ⟨.ofList name, occurrences, written.newName.map String.ofList, commented⟩
  if !isFieldName name then .error (.invalidName (.ofList name))
  else
    match written.newName.filter (!isFieldName ·) with
    | some newName => .error (.invalidAlias (.ofList newName))
    | none =>
      match written.occurrences with
      | .range first last =>
        if first ≤ last then build (.range first last)
        else .error (.emptyRange first last (.ofList name))
      | occurrences => build occurrences

end Selector

/-- The field selection that a text denotes. -/
def FieldSelection.ofText (source : String) : Except FieldSelectionFault FieldSelection :=
  match Selector.writtenList? source.toList with
  | none => .error (.malformed source)
  | some list =>
    match list.mapM Selector.ofWritten with
    | .ok selectors => .ok ⟨source, selectors⟩
    | .error fault => .error (.selector fault source)

end TextRecords
