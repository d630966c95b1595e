import TextRecords.Proofs.Fallible
import TextRecords.Proofs.FieldSelection.Written

/-!
# Field selections in text

Selectors are listed in a text one after another, with a comma and blanks or with blanks alone
between them and with blanks around them (`Selector.IsText`). Such a text is read as these selectors
if they can be written, and every text that is read gives selectors that can be written; so a field
selection and its texts correspond (`FieldSelection.ofText_listed`).
-/

namespace TextRecords

namespace Selector

/-- Blanks, or none. -/
def IsBlank (text : List Char) : Prop :=
  ∀ c ∈ text, isSpace c = true

instance (text : List Char) : Decidable (IsBlank text) :=
  List.decidableBAll _ text

/-- What separates two selectors: a comma, with or without blanks around it, or blanks. -/
inductive IsGap : List Char → Prop
  | comma {before after : List Char} (hbefore : IsBlank before) (hafter : IsBlank after) :
      IsGap (before ++ ',' :: after)
  | blanks {blanks : List Char} (hne : blanks ≠ []) (h : IsBlank blanks) : IsGap blanks

/-- Selectors one after another, with a gap between any two. -/
inductive IsListed : List Selector → List Char → Prop
  | last (selector : Selector) : IsListed [selector] selector.written.text
  | more (selector : Selector) {rest : List Selector} {gap text : List Char} (hgap : IsGap gap)
      (hrest : IsListed rest text) :
      IsListed (selector :: rest) (selector.written.text ++ (gap ++ text))

/-- A text that lists selectors, with or without blanks around them. -/
def IsText (selectors : List Selector) (text : List Char) : Prop :=
  ∃ before listed after, IsBlank before ∧ IsListed selectors listed ∧ IsBlank after ∧
    text = before ++ (listed ++ after)

/-- Blanks in front are skipped. -/
theorem skip_append {blanks : List Char} (h : IsBlank blanks) (rest : List Char) :
    skip (blanks ++ rest) = skip rest :=
  List.dropWhile_append_of_pos h

/-- Nothing is left of blanks that are skipped. -/
theorem skip_eq_nil {blanks : List Char} (h : IsBlank blanks) : skip blanks = [] :=
  List.dropWhile_eq_nil_iff.2 h

/-- A blank goes on with no selector. -/
theorem ends_of_isSpace {c : Char} (h : isSpace c = true) :
    isNameChar c = false ∧ c ≠ '[' ∧ c ≠ ':' := by
  simp only [isSpace, Bool.or_eq_true, beq_iff_eq] at h
  rcases h with ((rfl | rfl) | rfl) | rfl <;> decide

/-- Blanks go on with no selector. -/
theorem ends_of_isBlank {blanks : List Char} (h : IsBlank blanks) : Ends blanks :=
  fun c hc => ends_of_isSpace (h c (List.mem_of_head? hc))

/-- What separates two selectors goes on with none of them. -/
theorem IsGap.ends {gap : List Char} (h : IsGap gap) (rest : List Char) : Ends (gap ++ rest) := by
  cases h with
  | @comma before after hbefore hafter =>
    cases before with
    | nil =>
      rintro _ ⟨⟩
      decide
    | cons c before =>
      rintro _ ⟨⟩
      exact ends_of_isSpace (hbefore c List.mem_cons_self)
  | blanks hne h =>
    obtain ⟨c, others, rfl⟩ := List.exists_cons_of_ne_nil hne
    rintro _ ⟨⟩
    exact ends_of_isSpace (h c List.mem_cons_self)

/-- A written selector starts with a character of its name. -/
theorem Written.IsSound.exists_text_eq {written : Written} (h : written.IsSound) :
    ∃ c rest, written.text = c :: rest ∧ isNameChar c = true := by
  obtain ⟨c, others, hname⟩ := List.exists_cons_of_ne_nil h.name.1
  have hc : isNameChar c = true := h.name.2 c (hname ▸ List.mem_cons_self)
  exact ⟨c, _, by rw [Written.text, hname, List.cons_append], hc⟩

/-- A character of a name is no blank and no comma. -/
theorem of_isNameChar {c : Char} (h : isNameChar c = true) : isSpace c = false ∧ c ≠ ',' := by
  constructor
  · rw [← Bool.not_eq_true]
    intro hspace
    rw [(ends_of_isSpace hspace).1] at h
    cases h
  · rintro rfl
    cases h

/-- Nothing is skipped of a text that starts with a character of a name. -/
theorem skip_cons {c : Char} (h : isNameChar c = true) (rest : List Char) :
    skip (c :: rest) = c :: rest :=
  List.dropWhile_cons_of_neg (by simp [of_isNameChar h])

/-- Selectors that are listed start with a character of a name. -/
theorem IsListed.exists_eq {selectors : List Selector} {text : List Char}
    (h : IsListed selectors text) (hproper : ∀ selector ∈ selectors, selector.IsProper) :
    ∃ c rest, text = c :: rest ∧ isNameChar c = true := by
  cases h with
  | last selector => exact (hproper selector List.mem_cons_self).isSound_written.exists_text_eq
  | more selector hgap hrest =>
    obtain ⟨c, others, htext, hc⟩ :=
      (hproper selector List.mem_cons_self).isSound_written.exists_text_eq
    exact ⟨c, _, by rw [htext, List.cons_append], hc⟩

section Step

variable {text rest more : List Char} {first : Written}

/-- A selector with nothing behind it but blanks is the last one. -/
theorem writtenList?_last (hfirst : written? (skip text) = some (first, rest))
    (hgap : skip rest = []) : writtenList? text = some [first] := by
  rw [writtenList?]
  split
  · next h => cases h.symm.trans hfirst
  · next h =>
    cases h.symm.trans hfirst
    split
    · rfl
    · next h => cases h.symm.trans hgap
    · next hne _ => exact absurd hgap hne

/-- Behind a comma the list goes on. -/
theorem writtenList?_comma (hfirst : written? (skip text) = some (first, rest))
    (hgap : skip rest = ',' :: more) :
    writtenList? text = (writtenList? more).map (first :: ·) := by
  rw [writtenList?]
  split
  · next h => cases h.symm.trans hfirst
  · next h =>
    cases h.symm.trans hfirst
    split
    · next h => cases h.symm.trans hgap
    · next h =>
      cases h.symm.trans hgap
      rfl
    · next hne => exact absurd hgap (hne more)

/-- Behind blanks the list goes on. -/
theorem writtenList?_blanks (hfirst : written? (skip text) = some (first, rest))
    (hne : skip rest ≠ []) (hcomma : ∀ more, skip rest ≠ ',' :: more)
    (hlt : (skip rest).length < rest.length) :
    writtenList? text = (writtenList? rest).map (first :: ·) := by
  rw [writtenList?]
  split
  · next h => cases h.symm.trans hfirst
  · next h =>
    cases h.symm.trans hfirst
    split
    · next h => exact absurd h hne
    · next more h => exact absurd h (hcomma more)
    · rw [if_pos hlt]

end Step

/-- Selectors that are listed are read as their written forms, with blanks around them or
without. -/
theorem IsListed.writtenList?_eq {selectors : List Selector} {listed : List Char}
    (h : IsListed selectors listed) (hproper : ∀ selector ∈ selectors, selector.IsProper)
    {before after : List Char} (hbefore : IsBlank before) (hafter : IsBlank after) :
    writtenList? (before ++ (listed ++ after)) = some (selectors.map written) := by
  -- A selector is read behind the blanks in front of it, up to the gap behind it.
  have hfirst : ∀ (selector : Selector) (blanks rest : List Char), selector.IsProper →
      IsBlank blanks → Ends rest →
      written? (skip (blanks ++ (selector.written.text ++ rest))) =
        some (selector.written, rest) := by
    intro selector blanks rest hselector hblanks hrest
    obtain ⟨c, others, htext, hc⟩ := hselector.isSound_written.exists_text_eq
    have hskip : skip (selector.written.text ++ rest) = selector.written.text ++ rest := by
      rw [htext, List.cons_append, skip_cons hc]
    rw [skip_append hblanks, hskip, written?_text hselector.isSound_written hrest]
  induction h generalizing before with
  | last selector =>
    exact writtenList?_last (hfirst selector before after (hproper selector List.mem_cons_self)
      hbefore (ends_of_isBlank hafter)) (skip_eq_nil hafter)
  | @more selector rest gap text hgap hrest ih =>
    rw [List.forall_mem_cons] at hproper
    obtain ⟨c, others, htext, hc⟩ := hrest.exists_eq hproper.2
    have hskip : skip (text ++ after) = text ++ after := by
      rw [htext, List.cons_append, skip_cons hc]
    have hread := hfirst selector before (gap ++ (text ++ after)) hproper.1 hbefore (hgap.ends _)
    rw [List.append_assoc, List.append_assoc, List.map_cons]
    cases hgap with
    | @comma front back hfront hback =>
      have hcomma : skip (front ++ ',' :: back ++ (text ++ after)) =
          ',' :: (back ++ (text ++ after)) := by
        rw [List.append_assoc, skip_append hfront]
        rfl
      rw [writtenList?_comma hread hcomma, ih hproper.2 hback]
      rfl
    | blanks hne hblanks =>
      have hblank : skip (gap ++ (text ++ after)) = text ++ after := by
        rw [skip_append hblanks, hskip]
      rw [writtenList?_blanks hread, ih hproper.2 hblanks]
      · rfl
      · rw [hblank, htext]
        exact List.cons_ne_nil _ _
      · rw [hblank, htext]
        rintro more heq
        exact (of_isNameChar hc).2 (List.cons.inj heq).1
      · have hpos := List.length_pos_iff.2 hne
        rw [hblank]
        simp only [List.length_append]
        omega

/-- The selectors of a text that is read are at least one, and each is written with words and
numbers of 64 bits. -/
theorem isSound_of_writtenList? {text : List Char} {list : List Written}
    (h : writtenList? text = some list) : list ≠ [] ∧ ∀ written ∈ list, written.IsSound := by
  fun_induction writtenList? text generalizing list with
  | case1 => cases h
  | case2 text written rest hfirst hgap =>
    obtain rfl := Option.some.inj h
    exact ⟨List.cons_ne_nil _ _, List.forall_mem_singleton.2 (isSound_of_written? hfirst)⟩
  | case3 text written rest hfirst more hgap ih =>
    obtain ⟨others, hothers, rfl⟩ := Option.map_eq_some_iff.1 h
    exact ⟨List.cons_ne_nil _ _,
      List.forall_mem_cons.2 ⟨isSound_of_written? hfirst, (ih hothers).2⟩⟩
  | case4 text written rest hfirst hne hcomma hlt ih =>
    obtain ⟨others, hothers, rfl⟩ := Option.map_eq_some_iff.1 h
    exact ⟨List.cons_ne_nil _ _,
      List.forall_mem_cons.2 ⟨isSound_of_written? hfirst, (ih hothers).2⟩⟩
  | case5 => cases h

/-- The written forms of proper selectors stand for these. -/
theorem mapM_ofWritten {selectors : List Selector}
    (hproper : ∀ selector ∈ selectors, selector.IsProper) :
    (selectors.map written).mapM ofWritten = .ok selectors := by
  induction selectors with
  | nil => rfl
  | cons selector rest ih =>
    rw [List.forall_mem_cons] at hproper
    rw [List.map_cons, List.mapM_cons, ofWritten_written hproper.1, ih hproper.2]
    rfl

/-- Selectors with a comma between any two. -/
def listText (selectors : List Selector) : List Char :=
  List.intercalate [','] (selectors.map fun selector => selector.written.text)

/-- A list of selectors can be written with commas alone. -/
theorem isListed_listText {selectors : List Selector} (hne : selectors ≠ []) :
    IsListed selectors (listText selectors) := by
  obtain ⟨selector, rest, rfl⟩ := List.exists_cons_of_ne_nil hne
  induction rest generalizing selector with
  | nil =>
    have htext : listText [selector] = selector.written.text := List.intercalate_singleton
    rw [htext]
    exact .last selector
  | cons next rest ih =>
    have hgap : IsGap ([] ++ ',' :: []) := .comma (List.forall_mem_nil _) (List.forall_mem_nil _)
    have htext : listText (selector :: next :: rest) =
        selector.written.text ++ ([] ++ [','] ++ listText (next :: rest)) := by
      simp [listText, List.intercalate_cons_cons]
    rw [htext]
    exact .more selector hgap (ih next (List.cons_ne_nil _ _))

end Selector

namespace FieldSelection

open Selector

/-- A text that lists proper selectors is read as these. -/
theorem ofText_of_isText {selectors : List Selector}
    (hproper : ∀ selector ∈ selectors, selector.IsProper) {text : List Char}
    (h : IsText selectors text) :
    ofText (.ofList text) = .ok ⟨.ofList text, selectors⟩ := by
  obtain ⟨before, listed, after, hbefore, hlisted, hafter, rfl⟩ := h
  rw [ofText, String.toList_ofList, hlisted.writtenList?_eq hproper hbefore hafter]
  dsimp only
  rw [mapM_ofWritten hproper]

/-- The selectors of a text that is read are proper, at least one. -/
theorem of_ofText {source : String} {selection : FieldSelection}
    (h : ofText source = .ok selection) :
    selection.source = source ∧ selection.selectors ≠ [] ∧
      ∀ selector ∈ selection.selectors, selector.IsProper := by
  unfold ofText at h
  split at h
  · cases h
  · next list hlist =>
    split at h
    · next selectors hselectors =>
      obtain rfl := Except.ok.inj h
      obtain ⟨hne, hsound⟩ := isSound_of_writtenList? hlist
      refine ⟨rfl, ?_, fun selector hselector => ?_⟩
      · rintro rfl
        obtain ⟨first, others, rfl⟩ := List.exists_cons_of_ne_nil hne
        rw [List.mapM_cons] at hselectors
        obtain ⟨_, -, hselectors⟩ := bind_eq_ok_iff.1 hselectors
        obtain ⟨_, -, hselectors⟩ := bind_eq_ok_iff.1 hselectors
        cases hselectors
      · obtain ⟨written, hwritten, hread⟩ := exists_of_mem_mapM_ok hselectors hselector
        exact isProper_of_ofWritten (hsound written hwritten) hread
    · cases h

/-- Field selections and their texts correspond. Proper selectors that are listed in a text, in any
way that tells them apart, are read from it. What is read from a text are proper selectors, at least
one; they can be written, and every text that lists them is read as the same ones. -/
theorem ofText_listed :
    (∀ (selectors : List Selector) (text : List Char),
      (∀ selector ∈ selectors, selector.IsProper) → IsText selectors text →
        ofText (.ofList text) = .ok ⟨.ofList text, selectors⟩) ∧
    ∀ (source : String) (selection : FieldSelection), ofText source = .ok selection →
      selection.source = source ∧ selection.selectors ≠ [] ∧
        (∀ selector ∈ selection.selectors, selector.IsProper) ∧
        IsText selection.selectors (listText selection.selectors) ∧
        ∀ text, IsText selection.selectors text →
          ofText (.ofList text) = .ok ⟨.ofList text, selection.selectors⟩ := by
  refine ⟨fun selectors text hproper => ofText_of_isText hproper, fun source selection h => ?_⟩
  obtain ⟨hsource, hne, hproper⟩ := of_ofText h
  have hlisted : IsText selection.selectors (listText selection.selectors) :=
    ⟨[], _, [], List.forall_mem_nil _, isListed_listText hne, List.forall_mem_nil _, by simp⟩
  exact ⟨hsource, hne, hproper, hlisted, fun text => ofText_of_isText hproper⟩

/-- Selectors with blanks and a comma between them and all parts that they may have, and a number
with zeros in front. -/
theorem ofText_listed_blanks :
    let selectors : List Selector := [⟨"a", .range 0 1, some "x", true⟩,
      ⟨"%rec%", .all, none, false⟩, ⟨"b", .one 2, none, false⟩]
    let text := " a%[0-1]:x ,\t%rec%  b[2]\n".toList
    (∀ selector ∈ selectors, selector.IsProper) ∧ IsText selectors text ∧
      ofText (.ofList text) = .ok ⟨.ofList text, selectors⟩ ∧
      ofText "c[ 007 ]" = .ok ⟨"c[ 007 ]", [⟨"c", .one 7, none, false⟩]⟩ ∧
      ofText (.ofList (listText [⟨"c", .one 7, none, false⟩])) =
        .ok ⟨"c[7]", [⟨"c", .one 7, none, false⟩]⟩ := by
  intro selectors text
  have hproper : ∀ selector ∈ selectors, selector.IsProper := by decide +kernel
  have hcomma : IsGap (" ".toList ++ ',' :: "\t".toList) :=
    .comma (by decide) (by decide)
  have hblanks : IsGap "  ".toList := .blanks (by decide) (by decide)
  have htext : IsText selectors text :=
    ⟨" ".toList, _, "\n".toList, by decide,
      .more _ hcomma (.more _ hblanks (.last _)), by decide, by decide +kernel⟩
  have hread : ofText "c[ 007 ]" = .ok ⟨"c[ 007 ]", [⟨"c", .one 7, none, false⟩]⟩ :=
    toOption_eq_some_iff.1 (by decide +kernel)
  obtain ⟨-, -, -, hlisted, hagain⟩ := ofText_listed.2 _ _ hread
  exact ⟨hproper, htext, ofText_listed.1 selectors text hproper htext, hread, hagain _ hlisted⟩

end FieldSelection

end TextRecords
