import Mathlib
import TextRecords.Proofs.Filter.Targets
import TextRecords.Proofs.Selection.Grammar
import TextRecords.Proofs.Selection.Tokens

/-!
# Composed selections

The selections are the texts whose tokens are derived by the grammar (`Selection.ofText_eq_ok_iff`).
A conditional in brackets is a unary expression, so the operators of conditions join selections in
brackets, whatever these contain. The texts that are made in this way are selections, and they pick
the records that both of two selections pick, those that one of them picks, and those that a
selection does not pick (`Selection.ofText_composed`).
-/

namespace TextRecords.Selection

namespace Derivation

variable (first second : Derivation .conditional)

/-- A unary expression as an operand of conditions. -/
def ofUnary (only : Derivation .unary) : Derivation (.binary .comparison) :=
  .operand (.operand (.operand (.operand only)))

/-- Two conditionals in brackets with an operator for conjunctions between them. -/
def both : Derivation .conditional :=
  .implication (.operand (.operand (.operation (by decide) (.operand (ofUnary (.brackets first)))
    .and .and .and (ofUnary (.brackets second)))))

/-- Two conditionals in brackets with an operator for disjunctions between them. -/
def either : Derivation .conditional :=
  .implication (.operand (.operation (by decide) (.operand (.operand (ofUnary (.brackets first))))
    .or .or .or (.operand (ofUnary (.brackets second)))))

/-- A conditional in brackets behind an exclamation mark. -/
def neither : Derivation .conditional :=
  .implication (.operand (.operand (.operand (ofUnary (.not (.brackets first))))))

/-- The tokens of a conjunction are those of the conditionals, in brackets and with its operator. -/
theorem tokens_both : (first.both second).tokens =
    .symbol .openParen :: (first.tokens ++ .symbol .closeParen :: .symbol .and ::
      .symbol .openParen :: (second.tokens ++ [.symbol .closeParen])) := by
  simp only [both, ofUnary, tokens, List.cons_append, List.append_assoc, List.nil_append]

/-- The tokens of a disjunction are those of the conditionals, in brackets and with its operator. -/
theorem tokens_either : (first.either second).tokens =
    .symbol .openParen :: (first.tokens ++ .symbol .closeParen :: .symbol .or ::
      .symbol .openParen :: (second.tokens ++ [.symbol .closeParen])) := by
  simp only [either, ofUnary, tokens, List.cons_append, List.append_assoc, List.nil_append]

/-- A derivation has tokens. -/
theorem tokens_ne_nil {phrase : Phrase} (d : Derivation phrase) : d.tokens ≠ [] :=
  List.ne_nil_of_length_pos d.reads.length_lt

end Derivation

/-- A text is a selection when its tokens are derived by the grammar, and the derivation gives the
expression. -/
theorem ofText_eq_ok_iff {source : String} {selection : Selection} :
    ofText source = .ok selection ↔
      selection.source = source ∧ ∃ d : Derivation .conditional,
        HasTokens source.toList d.tokens ∧ d.expr = selection.root := by
  unfold ofText
  constructor
  · intro h
    split at h
    · cases h
    · cases h
    · next read _ hread =>
      split at h
      · cases h
      · next root hroot =>
        cases h
        obtain ⟨d, rfl, rfl⟩ := ofTokens_eq_ok_iff_derived.1 hroot
        exact ⟨rfl, d, tokens_eq_ok_iff.1 hread, rfl⟩
  · rintro ⟨rfl, d, htokens, hexpr⟩
    have hroot := ofTokens_eq_ok_iff_derived.2 ⟨d, rfl, hexpr⟩
    rw [tokens_eq_ok_iff.2 htokens]
    split
    · next heq => cases heq
    · next heq => exact absurd (Except.ok.inj heq) d.tokens_ne_nil
    · next heq =>
      cases heq
      rw [hroot]

/-- A text in brackets with another one behind it has the tokens of both and of the brackets. -/
theorem HasTokens.brackets {text more : List Char} {inner behind : List Token}
    (h : HasTokens text inner) (hmore : HasTokens more behind) :
    HasTokens ('(' :: (text ++ ')' :: more))
      (.symbol .openParen :: (inner ++ .symbol .closeParen :: behind)) :=
  .token rfl (h.append hmore)

/-- Two texts in brackets with a doubled character between them, which is a symbol, have the tokens
of both, of the brackets and of the symbol. -/
theorem HasTokens.joined {text more : List Char} {before behind : List Token} {c : Char}
    {symbol : Symbol} (h : HasTokens text before) (hmore : HasTokens more behind)
    (hsymbol : ∀ rest, lexeme (Text.trimStart (' ' :: c :: c :: rest)) =
      .token (.symbol symbol) rest) :
    HasTokens ('(' :: (text ++ ')' :: ' ' :: c :: c :: ' ' :: '(' :: (more ++ [')'])))
      (.symbol .openParen :: (before ++ .symbol .closeParen :: .symbol symbol ::
        .symbol .openParen :: (behind ++ [.symbol .closeParen]))) := by
  have hend : HasTokens [] [] := .blank rfl
  have hspace : HasTokens (' ' :: '(' :: (more ++ [')']))
      (.symbol .openParen :: (behind ++ [.symbol .closeParen])) := .token rfl (hmore.append hend)
  exact h.brackets (.token (hsymbol _) hspace)

variable {first second : String} {a b : Selection}

/-- Two selections in brackets with an operator for conjunctions between them are a selection. -/
theorem ofText_both (ha : ofText first = .ok a) (hb : ofText second = .ok b) :
    ofText ("(" ++ first ++ ") && (" ++ second ++ ")") =
      .ok ⟨"(" ++ first ++ ") && (" ++ second ++ ")", .and a.root b.root⟩ := by
  obtain ⟨-, da, hatokens, haexpr⟩ := ofText_eq_ok_iff.1 ha
  obtain ⟨-, db, hbtokens, hbexpr⟩ := ofText_eq_ok_iff.1 hb
  refine ofText_eq_ok_iff.2 ⟨rfl, da.both db, ?_, by rw [← haexpr, ← hbexpr]; rfl⟩
  have htext : ("(" ++ first ++ ") && (" ++ second ++ ")").toList =
      '(' :: (first.toList ++ ')' :: ' ' :: '&' :: '&' :: ' ' ::
        '(' :: (second.toList ++ [')'])) := by
    simp only [String.toList_append, List.append_assoc]
    rfl
  rw [htext, Derivation.tokens_both]
  exact hatokens.joined hbtokens fun _ => rfl

/-- Two selections in brackets with an operator for disjunctions between them are a selection. -/
theorem ofText_either (ha : ofText first = .ok a) (hb : ofText second = .ok b) :
    ofText ("(" ++ first ++ ") || (" ++ second ++ ")") =
      .ok ⟨"(" ++ first ++ ") || (" ++ second ++ ")", .or a.root b.root⟩ := by
  obtain ⟨-, da, hatokens, haexpr⟩ := ofText_eq_ok_iff.1 ha
  obtain ⟨-, db, hbtokens, hbexpr⟩ := ofText_eq_ok_iff.1 hb
  refine ofText_eq_ok_iff.2 ⟨rfl, da.either db, ?_, by rw [← haexpr, ← hbexpr]; rfl⟩
  have htext : ("(" ++ first ++ ") || (" ++ second ++ ")").toList =
      '(' :: (first.toList ++ ')' :: ' ' :: '|' :: '|' :: ' ' ::
        '(' :: (second.toList ++ [')'])) := by
    simp only [String.toList_append, List.append_assoc]
    rfl
  rw [htext, Derivation.tokens_either]
  exact hatokens.joined hbtokens fun _ => rfl

/-- A selection in brackets behind an exclamation mark is a selection. -/
theorem ofText_neither (ha : ofText first = .ok a) :
    ofText ("!(" ++ first ++ ")") = .ok ⟨"!(" ++ first ++ ")", .not a.root⟩ := by
  obtain ⟨-, da, hatokens, haexpr⟩ := ofText_eq_ok_iff.1 ha
  refine ofText_eq_ok_iff.2 ⟨rfl, da.neither, ?_, by rw [← haexpr]; rfl⟩
  have htext : ("!(" ++ first ++ ")").toList = '!' :: '(' :: (first.toList ++ [')']) := by
    simp only [String.toList_append, List.append_assoc]
    rfl
  have hend : HasTokens [] [] := .blank rfl
  rw [htext]
  exact .token rfl (hatokens.brackets hend)

section Picks

variable {source : String} {caseless : Bool} {record : Record}

/-- A conjunction picks what both sides pick. -/
theorem picks_and : (⟨source, .and a.root b.root⟩ : Selection).picks caseless record =
    (a.picks caseless record && b.picks caseless record) :=
  rfl

/-- A disjunction picks what a side picks. -/
theorem picks_or : (⟨source, .or a.root b.root⟩ : Selection).picks caseless record =
    (a.picks caseless record || b.picks caseless record) :=
  rfl

/-- A negation picks what its operand does not pick. -/
theorem picks_not : (⟨source, .not a.root⟩ : Selection).picks caseless record =
    !a.picks caseless record :=
  rfl

end Picks

/-- A filter for a selection and no more admits the positions that the selection picks. -/
theorem mem_matching_selection_iff {filter : Filter} {set : RecordSet} {position : Nat}
    {selection : Selection} (hposition : filter.position = none) (hpart : filter.part = none) :
    position ∈ { filter with selection := some selection }.matching set ↔
      ∃ record, set.record? position = some record ∧ selection.picks filter.caseless record := by
  refine (Filter.mem_matching_iff { filter with selection := some selection } set
    hposition).trans ?_
  unfold Filter.admits
  simp only [hpart, Option.all_none, Option.all_some, Bool.true_and]

/-- Selections in brackets are put together by the operators of conditions to selections. These pick
the positions that both pick, those that either picks and those that one does not pick, of every
set, with letter case or without. -/
theorem ofText_composed (ha : ofText first = .ok a) (hb : ofText second = .ok b) :
    ∃ both either neither : Selection,
      ofText ("(" ++ first ++ ") && (" ++ second ++ ")") = .ok both ∧
      ofText ("(" ++ first ++ ") || (" ++ second ++ ")") = .ok either ∧
      ofText ("!(" ++ first ++ ")") = .ok neither ∧
      ∀ (set : RecordSet) (filter : Filter), filter.position = none → filter.part = none →
        let picked (selection : Selection) : List Nat :=
          { filter with selection := some selection }.matching set
        (∀ selection, (picked selection).Pairwise (· < ·)) ∧
        (∀ position, position ∈ picked both ↔ position ∈ picked a ∧ position ∈ picked b) ∧
        (∀ position, position ∈ picked either ↔ position ∈ picked a ∨ position ∈ picked b) ∧
        ∀ position, position ∈ picked neither ↔ position < set.size ∧ position ∉ picked a := by
  refine ⟨_, _, _, ofText_both ha hb, ofText_either ha hb, ofText_neither ha, ?_⟩
  intro set filter hposition hpart picked
  have hpicked (selection : Selection) (position : Nat) : position ∈ picked selection ↔
      ∃ record, set.record? position = some record ∧ selection.picks filter.caseless record :=
    mem_matching_selection_iff hposition hpart
  have hsize (position : Nat) :
      position < set.size ↔ ∃ record, set.record? position = some record :=
    ⟨fun hlt => ⟨_, List.getElem?_eq_getElem hlt⟩,
      fun ⟨_, hrecord⟩ => (List.getElem?_eq_some_iff.1 hrecord).1⟩
  refine ⟨fun selection => Filter.pairwise_matching _ set, fun position => ?_, fun position => ?_,
    fun position => ?_⟩
  · rw [hpicked, hpicked, hpicked]
    cases set.record? position with
    | none => simp
    | some record => simp [picks_and]
  · rw [hpicked, hpicked, hpicked]
    cases set.record? position with
    | none => simp
    | some record => simp [picks_or]
  · rw [hpicked, hpicked, hsize]
    cases set.record? position with
    | none => simp
    | some record => simp [picks_not]

/-- A set in which a field may be a closing bracket and a name may end in a percent sign. -/
def bracketSpecimen : RecordSet where
  entries :=
    [.record ⟨[.field ⟨"a", ")"⟩], none⟩, .comment "",
      .record ⟨[.field ⟨"a", ")"⟩, .field ⟨"b", ""⟩], none⟩,
      .record ⟨[.field ⟨"c%", "1"⟩], none⟩, .record ⟨[.comment "a: )"], none⟩]

/-- A string that is a closing bracket does not end the brackets around it, and an operator in
brackets does not take an operand from outside. -/
theorem ofText_composed_bracketSpecimen :
    ∃ a b both either neither : Selection,
      ofText "a = ')'" = .ok a ∧ ofText "b || c%" = .ok b ∧
      ofText "(a = ')') && (b || c%)" = .ok both ∧ ofText "(a = ')') || (b || c%)" = .ok either ∧
      ofText "!(a = ')')" = .ok neither ∧
      ∀ position,
        (position ∈ { selection := some both : Filter }.matching bracketSpecimen ↔
          position = 1) ∧
        (position ∈ { selection := some either : Filter }.matching bracketSpecimen ↔
          position < 3) ∧
        (position ∈ { selection := some neither : Filter }.matching bracketSpecimen ↔
          position = 2 ∨ position = 3) := by
  have ha : ofText "a = ')'" =
      .ok ⟨"a = ')'", .compare .equal (.field "a" none) (.string ")")⟩ := by cbv
  have hb : ofText "b || c%" = .ok ⟨"b || c%", .or (.field "b" none) (.field "c%" none)⟩ := by cbv
  obtain ⟨both, either, neither, hboth, heither, hneither, hall⟩ := ofText_composed ha hb
  refine ⟨_, _, both, either, neither, ha, hb, hboth, heither, hneither, fun position => ?_⟩
  obtain ⟨-, hand, hor, hnot⟩ := hall bracketSpecimen {} rfl rfl
  have hpa : { selection := some ⟨"a = ')'", .compare .equal (.field "a" none) (.string ")")⟩ :
      Filter }.matching bracketSpecimen = [0, 1] := by decide +kernel
  have hpb : { selection := some ⟨"b || c%", .or (.field "b" none) (.field "c%" none)⟩ :
      Filter }.matching bracketSpecimen = [1, 2] := by decide +kernel
  have hsize : bracketSpecimen.size = 4 := rfl
  refine ⟨(hand position).trans ?_, (hor position).trans ?_, (hnot position).trans ?_⟩
  all_goals
    dsimp only
    simp only [hpa, hpb, hsize, List.mem_cons, List.not_mem_nil, or_false]
    omega

end TextRecords.Selection
