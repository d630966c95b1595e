import TextRecords.Proofs.Fallible
import TextRecords.Proofs.Selection.Derivation

/-!
# What the readers of selections read

A phrase of the grammar is a conditional, an expression with the operators of a level, or a unary
expression. `Reads` says which expression a reader takes from the start of some tokens and which
tokens it leaves; `Continues` says the same of the operators of a level behind a left operand.

For every phrase there is one equivalence that says all that its reader can do. Reading is a
function of the tokens (`Reads.unique`), takes at least one token (`Reads.length_lt`) and
stops before a token that the phrase does not go on with (`continues_iff_of_forall_ne`).
-/

namespace TextRecords.Selection

/-- The reader of a phrase. -/
def Phrase.read : (phrase : Phrase) → (tokens : List Token) → Reading tokens
  | .conditional => expression
  | .binary level => Selection.binary level
  | .unary => Selection.unary

/-- Whether the reader of a phrase takes an expression from some tokens and leaves the rest. -/
def Reads (phrase : Phrase) (tokens : List Token) (whole : Expr) (rest : List Token) : Prop :=
  ∃ shorter, phrase.read tokens = .ok (whole, ⟨rest, shorter⟩)

/-- Whether the operators of a level behind a left operand make it a whole and leave the rest. -/
def Continues (level : Level) (left : Expr) (tokens : List Token) (whole : Expr)
    (rest : List Token) : Prop :=
  ∃ shorter, operators level left tokens = .ok (whole, ⟨rest, shorter⟩)

variable {phrase : Phrase} {level : Level} {tokens more rest other : List Token}
  {left whole whole' : Expr} {symbol : Symbol} {build build' : Expr → Expr → Expr}

/-- What is read is determined by the tokens. -/
theorem Reads.unique (h : Reads phrase tokens whole rest) (h' : Reads phrase tokens whole' other) :
    whole = whole' ∧ rest = other := by
  obtain ⟨_, h⟩ := h
  obtain ⟨_, h'⟩ := h'
  cases h.symm.trans h'
  exact ⟨rfl, rfl⟩

/-- Reading takes at least one token. -/
theorem Reads.length_lt (h : Reads phrase tokens whole rest) : rest.length < tokens.length :=
  h.choose

/-- Tokens are an expression when a conditional is read that leaves none of them. -/
theorem ofTokens_eq_ok_iff :
    Expr.ofTokens tokens = .ok whole ↔ Reads .conditional tokens whole [] := by
  unfold Expr.ofTokens Reads Phrase.read
  constructor
  · intro h
    obtain ⟨⟨first, rest, shorter⟩, hfirst, h⟩ := bind_eq_ok_iff.1 h
    cases rest with
    | nil =>
      cases h
      exact ⟨shorter, hfirst⟩
    | cons token more => cases h
  · rintro ⟨shorter, h⟩
    exact bind_eq_ok_iff.2 ⟨_, h, rfl⟩

/-! ## Conditionals -/

/-- A conditional is an implication, or one with two conditionals behind a question mark. -/
theorem reads_conditional_iff :
    Reads .conditional tokens whole rest ↔
      (Reads (.binary .implication) tokens whole rest ∧
        ∀ more, rest ≠ .symbol .question :: more) ∨
      ∃ condition consequence alternative first second,
        Reads (.binary .implication) tokens condition (.symbol .question :: first) ∧
        Reads .conditional first consequence (.symbol .colon :: second) ∧
        Reads .conditional second alternative rest ∧
        whole = .conditional condition consequence alternative := by
  unfold Reads Phrase.read
  dsimp only
  rw [expression]
  constructor
  · rintro ⟨shorter, h⟩
    obtain ⟨⟨condition, afterCondition, _⟩, hcondition, h⟩ := bind_eq_ok_iff.1 h
    dsimp only at h
    split at h
    · obtain ⟨⟨consequence, afterConsequence, _⟩, hconsequence, h⟩ := bind_eq_ok_iff.1 h
      dsimp only at h
      split at h
      · obtain ⟨⟨alternative, last, _⟩, halternative, h⟩ := bind_eq_ok_iff.1 h
        cases h
        exact .inr ⟨condition, consequence, alternative, _, _, ⟨_, hcondition⟩, ⟨_, hconsequence⟩,
          ⟨_, halternative⟩, rfl⟩
      · cases h
    · next hnot =>
      cases h
      refine .inl ⟨⟨_, hcondition⟩, ?_⟩
      rintro more rfl
      exact hnot more shorter rfl HEq.rfl
  · rintro (⟨⟨shorter, h⟩, hnot⟩ |
      ⟨condition, consequence, alternative, first, second, ⟨hfirst, hcondition⟩,
        ⟨hsecond, hconsequence⟩, ⟨hrest, halternative⟩, rfl⟩)
    · refine ⟨shorter, bind_eq_ok_iff.2 ⟨_, h, ?_⟩⟩
      dsimp only
      split
      · next more _ => exact absurd rfl (hnot more)
      · rfl
    · rw [List.length_cons] at hfirst hsecond
      refine ⟨by omega, bind_eq_ok_iff.2 ⟨_, hcondition, ?_⟩⟩
      refine bind_eq_ok_iff.2 ⟨_, hconsequence, ?_⟩
      exact bind_eq_ok_iff.2 ⟨_, halternative, rfl⟩

/-! ## Operators -/

/-- What the reader looks up for a symbol at a level is what the grammar lists for the two. -/
theorem Level.operator?_eq_some_iff :
    level.operator? symbol = some build ↔ level.Operator symbol build := by
  constructor
  · intro h
    unfold Level.operator? at h
    split at h <;> cases h <;> constructor
  · rintro ⟨⟩ <;> rfl

/-- An operator of a level makes one thing of its operands. -/
theorem Level.Operator.unique (h : level.Operator symbol build)
    (h' : level.Operator symbol build') : build = build' :=
  Option.some.inj
    ((Level.operator?_eq_some_iff.2 h).symm.trans (Level.operator?_eq_some_iff.2 h'))

/-- The operands of a level have the reader that the level calls. -/
theorem operand_eq : operand level tokens = level.operands.read tokens := by
  cases level with
  | _ => rw [operand]; rfl

/-- An expression with the operators of a level is an operand, gone on with. -/
theorem reads_binary_iff :
    Reads (.binary level) tokens whole rest ↔
      ∃ left more, Reads level.operands tokens left more ∧
        Continues level left more whole rest := by
  unfold Reads Continues
  rw [Phrase.read, Selection.binary, operand_eq]
  constructor
  · rintro ⟨shorter, h⟩
    obtain ⟨⟨left, more, _⟩, hleft, h⟩ := bind_eq_ok_iff.1 h
    obtain ⟨⟨_, _, _⟩, hoperators, h⟩ := bind_eq_ok_iff.1 h
    cases h
    exact ⟨left, more, ⟨_, hleft⟩, _, hoperators⟩
  · rintro ⟨left, more, ⟨shorter, hleft⟩, _, hoperators⟩
    refine ⟨by omega, bind_eq_ok_iff.2 ⟨_, hleft, ?_⟩⟩
    exact bind_eq_ok_iff.2 ⟨_, hoperators, rfl⟩

/-- An operator of a level that chains takes an operand and goes on with the two as its left
operand. -/
theorem continues_operator_iff (hlevel : level ≠ .comparison)
    (hoperator : level.Operator symbol build) :
    Continues level left (.symbol symbol :: tokens) whole rest ↔
      ∃ right more, Reads level.operands tokens right more ∧
        Continues level (build left right) more whole rest := by
  unfold Reads Continues
  rw [operators, Level.operator?_eq_some_iff.2 hoperator, operand_eq]
  dsimp only
  constructor
  · rintro ⟨_, h⟩
    obtain ⟨⟨right, more, _⟩, hright, h⟩ := bind_eq_ok_iff.1 h
    rw [if_neg hlevel] at h
    obtain ⟨⟨_, _, _⟩, hoperators, h⟩ := bind_eq_ok_iff.1 h
    cases h
    exact ⟨right, more, ⟨_, hright⟩, _, hoperators⟩
  · rintro ⟨right, more, ⟨shorter, hright⟩, hle, hoperators⟩
    refine ⟨by rw [List.length_cons]; omega, bind_eq_ok_iff.2 ⟨_, hright, ?_⟩⟩
    rw [if_neg hlevel]
    exact bind_eq_ok_iff.2 ⟨_, hoperators, rfl⟩

/-- A comparison takes an operand and goes on no further. -/
theorem continues_comparison_iff (hoperator : Level.comparison.Operator symbol build) :
    Continues .comparison left (.symbol symbol :: tokens) whole rest ↔
      ∃ right, Reads (.binary .concatenation) tokens right rest ∧ whole = build left right := by
  unfold Reads Continues
  rw [operators, Level.operator?_eq_some_iff.2 hoperator, operand_eq]
  dsimp only
  constructor
  · rintro ⟨_, h⟩
    obtain ⟨⟨right, more, _⟩, hright, h⟩ := bind_eq_ok_iff.1 h
    rw [if_pos rfl] at h
    cases h
    exact ⟨right, ⟨_, hright⟩, rfl⟩
  · rintro ⟨right, ⟨shorter, hright⟩, rfl⟩
    refine ⟨by rw [List.length_cons]; omega, bind_eq_ok_iff.2 ⟨_, hright, ?_⟩⟩
    rw [if_pos rfl]
    rfl

/-- A tilde takes the text of a pattern and goes on no further. -/
theorem continues_like_iff :
    Continues .comparison left (.symbol .like :: tokens) whole rest ↔
      ∃ source pattern, tokens = .string source :: rest ∧
        Pattern.ofText? source = some pattern ∧ whole = .like left pattern := by
  unfold Continues
  rw [operators]
  dsimp only [Level.operator?]
  rw [if_pos ⟨rfl, rfl⟩]
  constructor
  · rintro ⟨_, h⟩
    obtain ⟨⟨_, _, _⟩, htail, h⟩ := bind_eq_ok_iff.1 h
    cases h
    unfold patternTail at htail
    split at htail
    · split at htail
      · next pattern hpattern =>
        cases htail
        exact ⟨_, pattern, rfl, hpattern, rfl⟩
      · cases htail
    · cases htail
  · rintro ⟨source, pattern, rfl, hpattern, rfl⟩
    refine ⟨by simp only [List.length_cons]; omega, bind_eq_ok_iff.2 ⟨⟨_, rest, ?_⟩, ?_, rfl⟩⟩
    · rw [List.length_cons]
      omega
    · rw [patternTail, hpattern]

/-! ## Where a phrase stops -/

/-- The place of a phrase between the tightest and the loosest. -/
def Phrase.rank : Phrase → Nat
  | .conditional => 8
  | .binary level => level.rank
  | .unary => 0

/-- The rank of the phrase that goes on with a symbol behind its first operand. A symbol that no
phrase goes on with has a rank above all of them. -/
def Symbol.rank : Symbol → Nat
  | question => 8
  | implies => 7
  | or => 6
  | and => 5
  | equal | notEqual | less | greater | atMost | atLeast | like => 4
  | concat => 3
  | plus | minus => 2
  | times | divide | percent => 1
  | openBracket => 0
  | not | openParen | closeParen | closeBracket | colon | count => 9

/-- Whether a phrase that ends before some tokens cannot go on with them. -/
def Stops (phrase : Phrase) : List Token → Prop
  | .symbol symbol :: _ => phrase.rank < symbol.rank
  | _ => True

/-- The operands of a level are tighter than it. -/
theorem Level.rank_operands_lt (level : Level) : level.operands.rank < level.rank := by
  cases level <;> decide

/-- The operators of a level have its rank. -/
theorem Level.Operator.rank_eq (h : level.Operator symbol build) : symbol.rank = level.rank := by
  cases h <;> rfl

/-- A symbol of the rank of a level is one of its operators, or the tilde of comparisons. -/
theorem Level.operator_of_rank_eq (h : symbol.rank = level.rank) :
    (∃ build, level.Operator symbol build) ∨ level = .comparison ∧ symbol = .like := by
  cases level <;> cases symbol <;>
    first | exact .inl ⟨_, by constructor⟩ | exact .inr ⟨rfl, rfl⟩ | cases h

/-- What stops a phrase stops a tighter one. -/
theorem Stops.mono {tighter : Phrase} (h : Stops phrase tokens) (hle : tighter.rank ≤ phrase.rank) :
    Stops tighter tokens := by
  unfold Stops at *
  split at h
  · omega
  · trivial

/-- The operators of a level leave tokens that start with none of them. -/
theorem continues_iff_of_forall_ne
    (h : ∀ symbol more, tokens = .symbol symbol :: more → symbol.rank ≠ level.rank) :
    Continues level left tokens whole rest ↔ whole = left ∧ rest = tokens := by
  have hleft : operators level left tokens = .ok (left, ⟨tokens, Nat.le_refl _⟩) := by
    rw [operators.eq_def]
    split
    · next symbol more =>
      have hne := h symbol more rfl
      have hnone : level.operator? symbol = none :=
        Option.eq_none_iff_forall_ne_some.2 fun build hbuild =>
          hne (Level.operator?_eq_some_iff.1 hbuild).rank_eq
      have hlike : ¬ (level = .comparison ∧ symbol = .like) := by
        rintro ⟨rfl, rfl⟩
        exact hne rfl
      rw [hnone]
      dsimp only
      rw [if_neg hlike]
      rfl
    · rfl
  unfold Continues
  rw [hleft]
  constructor
  · rintro ⟨_, h⟩
    cases h
    exact ⟨rfl, rfl⟩
  · rintro ⟨rfl, rfl⟩
    exact ⟨Nat.le_refl _, rfl⟩

/-- The operators of a level leave all tokens, or these start with one of its rank. -/
theorem Continues.cases (h : Continues level left tokens whole rest) :
    (whole = left ∧ rest = tokens) ∨
      ∃ symbol more, tokens = .symbol symbol :: more ∧ symbol.rank = level.rank := by
  by_cases hstart : ∃ symbol more, tokens = .symbol symbol :: more ∧ symbol.rank = level.rank
  · exact .inr hstart
  · have hne := fun symbol more htokens hrank => hstart ⟨symbol, more, htokens, hrank⟩
    exact .inl ((continues_iff_of_forall_ne hne).1 h)

/-! ## Unary expressions -/

/-- An exclamation mark negates a unary expression. -/
theorem reads_not_iff :
    Reads .unary (.symbol .not :: tokens) whole rest ↔
      ∃ operand, Reads .unary tokens operand rest ∧ whole = .not operand := by
  unfold Reads
  rw [Phrase.read, unary]
  constructor
  · rintro ⟨_, h⟩
    obtain ⟨⟨operand, _, _⟩, hoperand, h⟩ := bind_eq_ok_iff.1 h
    cases h
    exact ⟨operand, ⟨_, hoperand⟩, rfl⟩
  · rintro ⟨operand, ⟨shorter, hoperand⟩, rfl⟩
    exact ⟨by rw [List.length_cons]; omega, bind_eq_ok_iff.2 ⟨_, hoperand, rfl⟩⟩

/-- A hyphen gives the negative of a unary expression. -/
theorem reads_minus_iff :
    Reads .unary (.symbol .minus :: tokens) whole rest ↔
      ∃ operand, Reads .unary tokens operand rest ∧ whole = operand.negated := by
  unfold Reads
  rw [Phrase.read, unary]
  constructor
  · rintro ⟨_, h⟩
    obtain ⟨⟨operand, _, _⟩, hoperand, h⟩ := bind_eq_ok_iff.1 h
    cases h
    exact ⟨operand, ⟨_, hoperand⟩, rfl⟩
  · rintro ⟨operand, ⟨shorter, hoperand⟩, rfl⟩
    exact ⟨by rw [List.length_cons]; omega, bind_eq_ok_iff.2 ⟨_, hoperand, rfl⟩⟩

/-- A number sign counts the fields of a name. -/
theorem reads_count_iff :
    Reads .unary (.symbol .count :: tokens) whole rest ↔
      ∃ name, tokens = .name name :: rest ∧ whole = .count name := by
  unfold Reads
  rw [Phrase.read]
  constructor
  · rintro ⟨_, h⟩
    by_cases hname : ∃ name more, tokens = .name name :: more
    · obtain ⟨name, more, rfl⟩ := hname
      rw [unary] at h
      cases h
      exact ⟨name, rfl, rfl⟩
    · rw [unary] at h
      · cases h
      · exact fun name more heq => hname ⟨name, more, heq⟩
  · rintro ⟨name, rfl, rfl⟩
    exact ⟨by simp only [List.length_cons]; omega, by rw [unary]; rfl⟩

/-- A number stands for itself. -/
theorem reads_number_iff {value : Float} :
    Reads .unary (.number value :: tokens) whole rest ↔ rest = tokens ∧ whole = .number value := by
  unfold Reads
  rw [Phrase.read, unary]
  constructor
  · rintro ⟨_, h⟩
    cases h
    exact ⟨rfl, rfl⟩
  · rintro ⟨rfl, rfl⟩
    exact ⟨by rw [List.length_cons]; omega, rfl⟩

/-- A string stands for itself. -/
theorem reads_string_iff {value : String} :
    Reads .unary (.string value :: tokens) whole rest ↔ rest = tokens ∧ whole = .string value := by
  unfold Reads
  rw [Phrase.read, unary]
  constructor
  · rintro ⟨_, h⟩
    cases h
    exact ⟨rfl, rfl⟩
  · rintro ⟨rfl, rfl⟩
    exact ⟨by rw [List.length_cons]; omega, rfl⟩

/-- A field goes on after its name with a subscript or ends there. -/
theorem fieldTail_eq_ok_iff {name : String} :
    (∃ shorter, fieldTail name tokens = .ok (whole, ⟨rest, shorter⟩)) ↔
      (rest = tokens ∧ whole = .field name none ∧ ∀ more, tokens ≠ .symbol .openBracket :: more) ∨
      ∃ value occurrence,
        tokens = .symbol .openBracket :: .number value :: .symbol .closeBracket :: rest ∧
        subscript? value = some occurrence ∧ whole = .field name (some occurrence) := by
  fun_cases fieldTail name tokens with
  | case1 value occurrence more hoccurrence =>
    rw [fieldTail, hoccurrence]
    constructor
    · rintro ⟨_, h⟩
      cases h
      exact .inr ⟨value, occurrence, rfl, hoccurrence, rfl⟩
    · rintro (⟨-, -, hnot⟩ | ⟨other, number, htokens, hnumber, rfl⟩)
      · exact absurd rfl (hnot _)
      · cases htokens
        cases hoccurrence.symm.trans hnumber
        exact ⟨by simp only [List.length_cons]; omega, rfl⟩
  | case2 value occurrence more hclose hoccurrence =>
    refine iff_of_false ?_ ?_
    · rintro ⟨_, h⟩
      rw [fieldTail, hoccurrence] at h
      cases more with
      | nil => cases h
      | cons token more =>
        cases token with
        | symbol symbol => cases symbol <;> first | exact hclose _ rfl | cases h
        | _ => cases h
    · rintro (⟨-, -, hnot⟩ | ⟨other, number, htokens, -, -⟩)
      · exact hnot _ rfl
      · cases htokens
        exact hclose _ rfl
  | case3 value more hnone =>
    refine iff_of_false ?_ ?_
    · rintro ⟨_, h⟩
      rw [fieldTail, hnone] at h
      cases h
    · rintro (⟨-, -, hnot⟩ | ⟨other, number, htokens, hnumber, -⟩)
      · exact hnot _ rfl
      · cases htokens
        cases hnone.symm.trans hnumber
  | case4 more hnumber =>
    refine iff_of_false ?_ ?_
    · rintro ⟨_, h⟩
      rw [fieldTail] at h
      · cases h
      · exact hnumber
    · rintro (⟨-, -, hnot⟩ | ⟨other, number, htokens, -, -⟩)
      · exact hnot _ rfl
      · cases htokens
        exact hnumber _ _ rfl
  | case5 _ hnumber hnot =>
    rw [fieldTail]
    · constructor
      · rintro ⟨_, h⟩
        cases h
        exact .inl ⟨rfl, rfl, hnot⟩
      · rintro (⟨rfl, rfl, -⟩ | ⟨other, number, htokens, -, -⟩)
        · exact ⟨Nat.le_refl _, rfl⟩
        · exact absurd htokens (hnot _)
    · exact hnumber
    · exact hnot

/-- A name stands for its field, of which a subscript picks one value. -/
theorem reads_name_iff {name : String} :
    Reads .unary (.name name :: tokens) whole rest ↔
      (rest = tokens ∧ whole = .field name none ∧ ∀ more, tokens ≠ .symbol .openBracket :: more) ∨
      ∃ value occurrence,
        tokens = .symbol .openBracket :: .number value :: .symbol .closeBracket :: rest ∧
        subscript? value = some occurrence ∧ whole = .field name (some occurrence) := by
  unfold Reads
  rw [Phrase.read, unary, ← fieldTail_eq_ok_iff]
  constructor
  · rintro ⟨_, h⟩
    obtain ⟨⟨field, _, _⟩, hfield, h⟩ := bind_eq_ok_iff.1 h
    cases h
    exact ⟨_, hfield⟩
  · rintro ⟨shorter, hfield⟩
    exact ⟨by rw [List.length_cons]; omega, bind_eq_ok_iff.2 ⟨_, hfield, rfl⟩⟩

/-- Brackets enclose a conditional. -/
theorem reads_openParen_iff :
    Reads .unary (.symbol .openParen :: tokens) whole rest ↔
      Reads .conditional tokens whole (.symbol .closeParen :: rest) := by
  unfold Reads
  rw [Phrase.read, Phrase.read, unary]
  constructor
  · rintro ⟨_, h⟩
    obtain ⟨⟨inner, _, _⟩, hinner, h⟩ := bind_eq_ok_iff.1 h
    dsimp only at h
    split at h
    · cases h
      exact ⟨_, hinner⟩
    · cases h
  · rintro ⟨shorter, hinner⟩
    rw [List.length_cons] at shorter
    exact ⟨by rw [List.length_cons]; omega, bind_eq_ok_iff.2 ⟨_, hinner, rfl⟩⟩

end TextRecords.Selection
