import TextRecords.Proofs.Selection.Reading

/-!
# Reading and deriving agree

What a reader takes from the start of some tokens is derived from the tokens that it takes
(`Phrase.isSound`). Conversely a reader that meets the tokens of a derivation reads its expression,
if the phrase does not go on with the tokens behind them (`Derivation.reads`). The proof is an
induction on the derivation, and what carries it through the operators that associate to the left
is that such a reader goes on behind the derivation as behind a left operand (`Derivation.Resumes`).

Since reading is a function, tokens are split in one way into those of a derivation and others
(`Derivation.tokens_split`), and so no tokens have two derivations (`Derivation.eq_of_tokens_eq`).
Together this is that tokens are read exactly when the grammar derives them, as the expression of
their only derivation (`ofTokens_eq_ok_iff_derived_uniquely`).
-/

namespace TextRecords.Selection

variable {phrase : Phrase} {level : Level} {tokens more rest other : List Token}
  {left whole : Expr} {symbol : Symbol} {build : Expr → Expr → Expr}

/-- A subscript is a whole number that is not negative, up to the greatest of 64 bits. -/
theorem subscript?_eq_some_iff {value : Float} {occurrence : Nat} :
    subscript? value = some occurrence ↔
      ∃ number : Nat, (Number.Binary.ofFloat value).integer? = some (number : Int) ∧
        occurrence = min number (Number.wordCount - 1) := by
  unfold subscript?
  split
  · next number hnumber =>
    constructor
    · intro h
      cases h
      exact ⟨number, hnumber, rfl⟩
    · rintro ⟨whole, hwhole, rfl⟩
      cases hnumber.symm.trans hwhole
      rfl
  · next hnot =>
    refine iff_of_false nofun ?_
    rintro ⟨number, hnumber, -⟩
    exact hnot number hnumber

/-! ## What is read is derived -/

/-- Whether what the reader of a phrase takes from some tokens is derived from those taken. -/
def Phrase.IsSound (phrase : Phrase) (tokens : List Token) : Prop :=
  ∀ {whole : Expr} {rest : List Token}, Reads phrase tokens whole rest →
    ∃ d : Derivation phrase, d.tokens ++ rest = tokens ∧ d.expr = whole

/-- A conditional is derived when an implication is, and conditionals from fewer tokens are. -/
theorem isSound_conditional (honly : (Phrase.binary .implication).IsSound tokens)
    (hfewer : ∀ more : List Token, more.length < tokens.length → Phrase.conditional.IsSound more) :
    Phrase.conditional.IsSound tokens := by
  intro whole rest h
  rcases reads_conditional_iff.1 h with ⟨honlyReads, -⟩ |
    ⟨condition, consequence, alternative, first, second, hcondition, hconsequence, halternative,
      rfl⟩
  · obtain ⟨d, htokens, hexpr⟩ := honly honlyReads
    exact ⟨.implication d, htokens, hexpr⟩
  · have hfirst := hcondition.length_lt
    have hsecond := hconsequence.length_lt
    rw [List.length_cons] at hfirst hsecond
    obtain ⟨c, rfl, rfl⟩ := honly hcondition
    obtain ⟨a, rfl, rfl⟩ := hfewer first (by omega) hconsequence
    obtain ⟨b, rfl, rfl⟩ := hfewer second (by omega) halternative
    refine ⟨.conditional c a b, ?_, rfl⟩
    simp only [Derivation.tokens, List.append_assoc, List.cons_append]

/-- The operators of a level that chains, behind a derivation, are derived together with it. -/
theorem exists_operation (hlevel : level ≠ .comparison) {n : Nat}
    (hoperands : ∀ more : List Token, more.length < n → level.operands.IsSound more)
    (d : Derivation (.binary level)) (hlength : tokens.length ≤ n)
    (h : Continues level d.expr tokens whole rest) :
    ∃ d' : Derivation (.binary level), d'.tokens ++ rest = d.tokens ++ tokens ∧
      d'.expr = whole := by
  -- Every operator takes tokens, and what is derived so far becomes the left operand of the next.
  induction hn : tokens.length using Nat.strongRecOn generalizing tokens d with
  | ind length ih =>
    rcases h.cases with ⟨rfl, rfl⟩ | ⟨symbol, afterSymbol, rfl, hrank⟩
    · exact ⟨d, rfl, rfl⟩
    · rcases Level.operator_of_rank_eq hrank with ⟨build, hbuild⟩ | ⟨hcomparison, -⟩
      · obtain ⟨right, more, hright, hmore⟩ := (continues_operator_iff hlevel hbuild).1 h
        have hlt := hright.length_lt
        rw [List.length_cons] at hn hlength
        obtain ⟨r, rfl, rfl⟩ := hoperands afterSymbol (by omega) hright
        obtain ⟨d', htokens, hexpr⟩ := ih more.length (by omega)
          (.operation hlevel d symbol build hbuild r) (by omega) hmore rfl
        refine ⟨d', ?_, hexpr⟩
        rw [htokens]
        simp only [Derivation.tokens, List.append_assoc, List.cons_append]
      · exact absurd hcomparison hlevel

/-- A comparison behind its left operand is derived. -/
theorem exists_comparison (hoperands : ∀ more : List Token, more.length < tokens.length →
      (Phrase.binary .concatenation).IsSound more)
    (d : Derivation (.binary .concatenation)) (h : Continues .comparison d.expr tokens whole rest) :
    ∃ d' : Derivation (.binary .comparison), d'.tokens ++ rest = d.tokens ++ tokens ∧
      d'.expr = whole := by
  rcases h.cases with ⟨rfl, rfl⟩ | ⟨symbol, afterSymbol, rfl, hrank⟩
  · exact ⟨.operand d, rfl, rfl⟩
  · rcases Level.operator_of_rank_eq hrank with ⟨build, hbuild⟩ | ⟨-, rfl⟩
    · obtain ⟨right, hright, rfl⟩ := (continues_comparison_iff hbuild).1 h
      obtain ⟨r, rfl, rfl⟩ := hoperands afterSymbol (by rw [List.length_cons]; omega) hright
      refine ⟨.comparison d symbol build hbuild r, ?_, rfl⟩
      simp only [Derivation.tokens, List.append_assoc, List.cons_append]
    · obtain ⟨source, pattern, rfl, hpattern, rfl⟩ := continues_like_iff.1 h
      refine ⟨.like d source pattern hpattern, ?_, rfl⟩
      simp only [Derivation.tokens, List.append_assoc, List.cons_append, List.nil_append]

/-- An expression with the operators of a level is derived when its operands are. -/
theorem isSound_binary (hfirst : level.operands.IsSound tokens)
    (hfewer : ∀ more : List Token, more.length < tokens.length → level.operands.IsSound more) :
    (Phrase.binary level).IsSound tokens := by
  intro whole rest h
  obtain ⟨left, more, hleft, hmore⟩ := reads_binary_iff.1 h
  have hlt := hleft.length_lt
  obtain ⟨first, rfl, rfl⟩ := hfirst hleft
  by_cases hlevel : level = .comparison
  · subst hlevel
    exact exists_comparison (fun more hshorter => hfewer more (by omega)) first hmore
  · exact exists_operation hlevel (n := more.length) (fun more hshorter => hfewer more (by omega))
      (.operand first) (Nat.le_refl _) hmore

/-- A unary expression is derived when all that is read from fewer tokens is. -/
theorem isSound_unary (hfewer : ∀ (phrase : Phrase) (more : List Token),
      more.length < tokens.length → phrase.IsSound more) :
    Phrase.unary.IsSound tokens := by
  intro whole rest h
  fun_cases unary tokens with
  | case1 more =>
    obtain ⟨operand, hoperand, rfl⟩ := reads_not_iff.1 h
    obtain ⟨d, rfl, rfl⟩ := hfewer .unary more (Nat.lt_succ_self _) hoperand
    exact ⟨.not d, rfl, rfl⟩
  | case2 more =>
    obtain ⟨operand, hoperand, rfl⟩ := reads_minus_iff.1 h
    obtain ⟨d, rfl, rfl⟩ := hfewer .unary more (Nat.lt_succ_self _) hoperand
    exact ⟨.minus d, rfl, rfl⟩
  | case3 name more =>
    obtain ⟨name, hname, rfl⟩ := reads_count_iff.1 h
    rw [hname]
    exact ⟨.count name, rfl, rfl⟩
  | case4 more hnot =>
    obtain ⟨name, hname, rfl⟩ := reads_count_iff.1 h
    exact absurd hname (hnot name rest)
  | case5 value more =>
    obtain ⟨rfl, rfl⟩ := reads_number_iff.1 h
    exact ⟨.number value, rfl, rfl⟩
  | case6 value more =>
    obtain ⟨rfl, rfl⟩ := reads_string_iff.1 h
    exact ⟨.string value, rfl, rfl⟩
  | case7 name more =>
    rcases reads_name_iff.1 h with ⟨rfl, rfl, -⟩ | ⟨value, occurrence, rfl, hoccurrence, rfl⟩
    · exact ⟨.name name, rfl, rfl⟩
    · obtain ⟨number, hnumber, rfl⟩ := subscript?_eq_some_iff.1 hoccurrence
      exact ⟨.subscripted name value number hnumber, rfl, rfl⟩
  | case8 more =>
    obtain ⟨d, rfl, rfl⟩ := hfewer .conditional more (Nat.lt_succ_self _) (reads_openParen_iff.1 h)
    refine ⟨.brackets d, ?_, rfl⟩
    simp only [Derivation.tokens, List.append_assoc, List.cons_append, List.nil_append]
  | case9 =>
    obtain ⟨_, h⟩ := h
    rw [Phrase.read, unary] at h
    · cases h
    all_goals assumption

/-- What is read is derived from the tokens that are taken. -/
theorem Phrase.isSound : (phrase : Phrase) → (tokens : List Token) → phrase.IsSound tokens
  | .conditional, tokens =>
    isSound_conditional (Phrase.isSound (.binary .implication) tokens)
      fun more _ => Phrase.isSound .conditional more
  | .binary level, tokens =>
    isSound_binary (Phrase.isSound level.operands tokens)
      fun more _ => Phrase.isSound level.operands more
  | .unary, _ => isSound_unary fun phrase more _ => Phrase.isSound phrase more
termination_by phrase tokens => (tokens.length, phrase.rank)
decreasing_by
  all_goals first
    | exact Prod.Lex.left _ _ ‹_›
    | exact Prod.Lex.right _ (by decide)
    | exact Prod.Lex.right _ (Level.rank_operands_lt level)

/-! ## What is derived is read -/

/-- A symbol above the rank of a phrase stops it. -/
theorem stops_symbol (h : phrase.rank < symbol.rank) : Stops phrase (.symbol symbol :: tokens) :=
  h

/-- An operator of a level stops its operands. -/
theorem stops_operands (h : symbol.rank = level.rank) :
    Stops level.operands (.symbol symbol :: tokens) :=
  stops_symbol (h ▸ level.rank_operands_lt)

/-- A conditional is the loosest phrase. -/
theorem Phrase.rank_le (phrase : Phrase) : phrase.rank ≤ Phrase.conditional.rank := by
  cases phrase with
  | conditional => exact Nat.le_refl _
  | binary level => cases level <;> decide
  | unary => exact Nat.zero_le _

/-- The end of the tokens stops every phrase. -/
theorem stops_nil : Stops phrase [] :=
  trivial

namespace Derivation

/-- Whether a reader that meets the tokens of a derivation reads its expression, wherever the phrase
stops. -/
def IsRead (d : Derivation phrase) : Prop :=
  ∀ rest : List Token, Stops phrase rest → Reads phrase (d.tokens ++ rest) d.expr rest

/-- Whether a reader that meets the tokens of a derivation with the operators of a level goes on
behind them as the operators do behind a left operand. -/
def Resumes (level : Level) (d : Derivation phrase) : Prop :=
  ∀ (rest last : List Token) (whole : Expr), Stops level.operands rest →
    (Reads (.binary level) (d.tokens ++ rest) whole last ↔ Continues level d.expr rest whole last)

/-- An operand alone is gone on with. -/
theorem resumes_operand {only : Derivation level.operands} (h : only.IsRead) :
    (operand only).Resumes level := by
  intro rest last whole hstops
  rw [reads_binary_iff]
  constructor
  · rintro ⟨left, more, hleft, hmore⟩
    obtain ⟨rfl, rfl⟩ := hleft.unique (h rest hstops)
    exact hmore
  · exact fun hmore => ⟨_, _, h rest hstops, hmore⟩

/-- An operation is gone on with when its left operand is. -/
theorem resumes_operation (chains : level ≠ .comparison)
    (operator : level.Operator symbol build) {left : Derivation (.binary level)}
    {right : Derivation level.operands} (hleft : left.Resumes level) (hright : right.IsRead) :
    (operation chains left symbol build operator right).Resumes level := by
  intro rest last whole hstops
  have hsymbol : Stops level.operands (.symbol symbol :: (right.tokens ++ rest)) :=
    stops_operands operator.rank_eq
  simp only [tokens, expr, List.append_assoc, List.cons_append]
  rw [hleft _ _ _ hsymbol, continues_operator_iff chains operator]
  constructor
  · rintro ⟨other, more, hother, hmore⟩
    obtain ⟨rfl, rfl⟩ := hother.unique (hright rest hstops)
    exact hmore
  · exact fun hmore => ⟨_, _, hright rest hstops, hmore⟩

/-- What is gone on with is read where the phrase stops. -/
theorem Resumes.isRead {d : Derivation (.binary level)} (h : d.Resumes level) : d.IsRead := by
  intro rest hstops
  rw [h _ _ _ (hstops.mono (Nat.le_of_lt level.rank_operands_lt))]
  refine (continues_iff_of_forall_ne ?_).2 ⟨rfl, rfl⟩
  rintro symbol more rfl
  exact Nat.ne_of_gt hstops

/-- A reader that meets the tokens of a derivation reads its expression, and goes on behind an
operation as behind a left operand. -/
theorem isRead_and_resumes (d : Derivation phrase) :
    d.IsRead ∧ ∀ level ≠ .comparison, phrase = .binary level → d.Resumes level := by
  -- That the left operand is read does not suffice for an operation: reading it alone would go on
  -- with the operator. So the induction carries that it is resumed as well.
  induction d with
  | implication only ih =>
    refine ⟨fun rest hstops => ?_, nofun⟩
    refine reads_conditional_iff.2 (.inl ⟨ih.1 rest (hstops.mono (Phrase.rank_le _)), ?_⟩)
    rintro more rfl
    exact Nat.lt_irrefl _ hstops
  | conditional condition consequence alternative ihcondition ihconsequence ihalternative =>
    refine ⟨fun rest hstops => ?_, nofun⟩
    simp only [tokens, List.append_assoc, List.cons_append]
    exact reads_conditional_iff.2 (.inr ⟨_, _, _, _, _, ihcondition.1 _ (stops_symbol (by decide)),
      ihconsequence.1 _ (stops_symbol (by decide)), ihalternative.1 rest hstops, rfl⟩)
  | operand only ih =>
    have hresumes := resumes_operand ih.1
    refine ⟨hresumes.isRead, ?_⟩
    rintro level - heq
    cases heq
    exact hresumes
  | operation chains left symbol build operator right ihleft ihright =>
    have hresumes := resumes_operation chains operator (ihleft.2 _ chains rfl) ihright.1
    refine ⟨hresumes.isRead, ?_⟩
    rintro level - heq
    cases heq
    exact hresumes
  | comparison left symbol build operator right ihleft ihright =>
    refine ⟨fun rest hstops => ?_, fun _ hlevel heq => absurd (Phrase.binary.inj heq).symm hlevel⟩
    have hsymbol : Stops (Level.operands .comparison) (.symbol symbol :: (right.tokens ++ rest)) :=
      stops_operands operator.rank_eq
    simp only [tokens, List.append_assoc, List.cons_append]
    refine reads_binary_iff.2 ⟨_, _, ihleft.1 _ hsymbol, (continues_comparison_iff operator).2 ?_⟩
    exact ⟨_, ihright.1 rest (hstops.mono (by decide)), rfl⟩
  | like left source pattern denotes ih =>
    refine ⟨fun rest _ => ?_, fun _ hlevel heq => absurd (Phrase.binary.inj heq).symm hlevel⟩
    simp only [tokens, List.append_assoc, List.cons_append, List.nil_append]
    refine reads_binary_iff.2 ⟨_, _, ih.1 _ (stops_symbol (by decide)), continues_like_iff.2 ?_⟩
    exact ⟨source, pattern, rfl, denotes, rfl⟩
  | not negated ih =>
    exact ⟨fun rest hstops => reads_not_iff.2 ⟨_, ih.1 rest hstops, rfl⟩, nofun⟩
  | minus negated ih =>
    refine ⟨fun rest hstops => reads_minus_iff.2 ⟨_, ih.1 rest hstops, ?_⟩, nofun⟩
    rfl
  | count name => exact ⟨fun rest _ => reads_count_iff.2 ⟨name, rfl, rfl⟩, nofun⟩
  | number value => exact ⟨fun rest _ => reads_number_iff.2 ⟨rfl, rfl⟩, nofun⟩
  | string value => exact ⟨fun rest _ => reads_string_iff.2 ⟨rfl, rfl⟩, nofun⟩
  | name name =>
    refine ⟨fun rest hstops => reads_name_iff.2 (.inl ⟨rfl, rfl, ?_⟩), nofun⟩
    rintro more rfl
    exact Nat.lt_irrefl _ hstops
  | subscripted name value occurrence isWhole =>
    have hsubscript := subscript?_eq_some_iff.2 ⟨occurrence, isWhole, rfl⟩
    exact ⟨fun rest _ => reads_name_iff.2 (.inr ⟨value, _, rfl, hsubscript, rfl⟩), nofun⟩
  | brackets inner ih =>
    refine ⟨fun rest _ => ?_, nofun⟩
    simp only [tokens, List.append_assoc, List.cons_append, List.nil_append]
    exact reads_openParen_iff.2 (ih.1 _ (stops_symbol (by decide)))

/-- A reader that meets the tokens of a derivation reads its expression, wherever the phrase
stops. -/
theorem isRead (d : Derivation phrase) : d.IsRead :=
  d.isRead_and_resumes.1

/-- All of the tokens of a derivation are read. -/
theorem reads (d : Derivation phrase) : Reads phrase d.tokens d.expr [] := by
  have h := d.isRead [] stops_nil
  rwa [List.append_nil] at h

/-! ## No tokens have two derivations -/

/-- Tokens are split in one way into those of a derivation and others that the phrase does not go on
with. -/
theorem tokens_split {d d' : Derivation phrase} (hrest : Stops phrase rest)
    (hother : Stops phrase other) (h : d.tokens ++ rest = d'.tokens ++ other) :
    d.tokens = d'.tokens ∧ rest = other := by
  have hreads := d.isRead rest hrest
  rw [h] at hreads
  obtain ⟨-, rfl⟩ := hreads.unique (d'.isRead other hother)
  exact ⟨List.append_cancel_right h, rfl⟩

/-- An operand does not go past an operator of its level: it would have stopped there. -/
theorem tokens_ne_append_operator {more : List Token} (d : Derivation level.operands)
    (hoperator : level.Operator symbol build)
    (hreads : Reads level.operands tokens whole more) {last : Expr}
    (hcontinues : Continues level left more last []) :
    d.tokens ≠ tokens ++ .symbol symbol :: rest := by
  intro hd
  -- The part of the tokens that is read first is a derivation, and it stops before what follows.
  -- Read from all of the tokens it leaves something, but the whole derivation leaves nothing.
  have hstops : Stops level.operands (more ++ .symbol symbol :: rest) := by
    rcases hcontinues.cases with ⟨-, rfl⟩ | ⟨other, afterOther, rfl, hrank⟩
    · exact stops_operands hoperator.rank_eq
    · exact stops_operands hrank
  obtain ⟨first, rfl, -⟩ := level.operands.isSound tokens hreads
  have hfirst := first.isRead _ hstops
  rw [← List.append_assoc, ← hd] at hfirst
  have hnil := (d.reads.unique hfirst).2
  exact absurd hnil.symm (List.append_ne_nil_of_right_ne_nil _ (List.cons_ne_nil _ _))

/-- An operand has no operator of its level outside brackets. -/
theorem tokens_operand_ne (d : Derivation level.operands) (left : Derivation (.binary level))
    (hoperator : level.Operator symbol build) :
    d.tokens ≠ left.tokens ++ .symbol symbol :: rest := by
  obtain ⟨first, more, hfirst, hmore⟩ := reads_binary_iff.1 left.reads
  exact d.tokens_ne_append_operator hoperator hfirst hmore

/-- The left operand of an operation is as long as it can be: that of another operation with the
same tokens does not go past the operator. -/
theorem operation_split_of_append (chains : level ≠ .comparison)
    {left left' : Derivation (.binary level)} {right right' : Derivation level.operands}
    {symbol' : Symbol} {build' : Expr → Expr → Expr} {between : List Token}
    (operator : level.Operator symbol build)
    (operator' : level.Operator symbol' build')
    (hleft : left'.tokens = left.tokens ++ between)
    (hright : .symbol symbol :: right.tokens = between ++ .symbol symbol' :: right'.tokens) :
    left.tokens = left'.tokens ∧ symbol = symbol' ∧ right.tokens = right'.tokens := by
  cases between with
  | nil =>
    obtain ⟨hsymbol, htokens⟩ := List.cons.inj hright
    exact ⟨by rw [hleft, List.append_nil], Token.symbol.inj hsymbol, htokens⟩
  | cons first between =>
    -- The longer left operand resumes the shorter one with the operator and an operand behind it.
    -- This is a part of the right operand and ends before an operator of the level.
    obtain ⟨rfl, htokens⟩ := List.cons.inj hright
    have hreads := left'.reads
    rw [hleft, left.isRead_and_resumes.2 level chains rfl _ _ _
      (stops_operands operator.rank_eq),
      continues_operator_iff chains operator] at hreads
    obtain ⟨first, more, hfirst, hmore⟩ := hreads
    exact absurd htokens (right.tokens_ne_append_operator operator' hfirst hmore)

/-- Two operations with the same tokens have the same left operand, operator and right operand. -/
theorem operation_split (chains : level ≠ .comparison) {left left' : Derivation (.binary level)}
    {right right' : Derivation level.operands} {symbol' : Symbol} {build' : Expr → Expr → Expr}
    (operator : level.Operator symbol build)
    (operator' : level.Operator symbol' build')
    (h : left.tokens ++ .symbol symbol :: right.tokens =
      left'.tokens ++ .symbol symbol' :: right'.tokens) :
    left.tokens = left'.tokens ∧ symbol = symbol' ∧ right.tokens = right'.tokens := by
  rcases List.append_eq_append_iff.1 h with ⟨between, hleft, hright⟩ | ⟨between, hleft, hright⟩
  · exact operation_split_of_append chains operator operator' hleft hright
  · obtain ⟨hleft, hsymbol, hright⟩ :=
      operation_split_of_append chains operator' operator hleft hright
    exact ⟨hleft.symm, hsymbol.symm, hright.symm⟩

/-- Tokens are split in one way into those of a derivation, a symbol that stops the phrase, and
others. -/
theorem symbol_split {d d' : Derivation phrase} {symbol' : Symbol}
    (hsymbol : phrase.rank < symbol.rank) (hsymbol' : phrase.rank < symbol'.rank)
    (h : d.tokens ++ .symbol symbol :: rest = d'.tokens ++ .symbol symbol' :: other) :
    d.tokens = d'.tokens ∧ symbol = symbol' ∧ rest = other := by
  obtain ⟨htokens, hbehind⟩ := tokens_split (stops_symbol hsymbol) (stops_symbol hsymbol') h
  obtain ⟨heq, hrest⟩ := List.cons.inj hbehind
  exact ⟨htokens, Token.symbol.inj heq, hrest⟩

/-- The tokens of a phrase are not those of another one and a symbol that stops it. -/
theorem tokens_ne_append_symbol (d d' : Derivation phrase) (hsymbol : phrase.rank < symbol.rank) :
    d.tokens ≠ d'.tokens ++ .symbol symbol :: rest := by
  intro h
  rw [← List.append_nil d.tokens] at h
  exact absurd (tokens_split stops_nil (stops_symbol hsymbol) h).2 (List.cons_ne_nil _ _).symm

/-- No tokens have two derivations. -/
theorem eq_of_tokens_eq (d d' : Derivation phrase) (h : d.tokens = d'.tokens) : d = d' := by
  -- Derivations by different rules have different tokens, and those by the same rule have the same
  -- tokens in each of their parts.
  induction d with
  | implication only ih =>
    cases d' with
    | implication only' => rw [ih only' h]
    | conditional condition _ _ =>
      exact absurd h (only.tokens_ne_append_symbol condition (by decide))
  | conditional condition consequence alternative ihcondition ihconsequence ihalternative =>
    cases d' with
    | implication only =>
      exact absurd h.symm (only.tokens_ne_append_symbol condition (by decide))
    | conditional condition' consequence' alternative' =>
      obtain ⟨hcondition, -, hbranches⟩ := symbol_split (by decide) (by decide) h
      obtain ⟨hconsequence, -, halternative⟩ := symbol_split (by decide) (by decide) hbranches
      rw [ihcondition _ hcondition, ihconsequence _ hconsequence, ihalternative _ halternative]
  | operand only ih =>
    cases d' with
    | operand only' => rw [ih only' h]
    | operation chains left symbol build operator right =>
      exact absurd h (only.tokens_operand_ne left operator)
    | comparison left symbol build operator right =>
      have hrank := operator.rank_eq
      exact absurd h (only.tokens_ne_append_symbol left (by rw [hrank]; decide))
    | like left source pattern denotes =>
      exact absurd h (only.tokens_ne_append_symbol left (by decide))
  | operation chains left symbol build operator right ihleft ihright =>
    cases d' with
    | operand only => exact absurd h.symm (only.tokens_operand_ne left operator)
    | operation _ left' symbol' build' operator' right' =>
      obtain ⟨hleft, rfl, hright⟩ := operation_split chains operator operator' h
      obtain rfl := operator.unique operator'
      rw [ihleft _ hleft, ihright _ hright]
    | comparison => exact absurd rfl chains
    | like => exact absurd rfl chains
  | comparison left symbol build operator right ihleft ihright =>
    have hrank := operator.rank_eq
    cases d' with
    | operand only =>
      exact absurd h.symm (only.tokens_ne_append_symbol left (by rw [hrank]; decide))
    | operation chains => exact absurd rfl chains
    | comparison left' symbol' build' operator' right' =>
      have hrank' := operator'.rank_eq
      obtain ⟨hleft, rfl, hright⟩ :=
        symbol_split (by rw [hrank]; decide) (by rw [hrank']; decide) h
      obtain rfl := operator.unique operator'
      rw [ihleft _ hleft, ihright _ hright]
    | like left' source pattern denotes =>
      obtain ⟨-, rfl, -⟩ := symbol_split (by rw [hrank]; decide) (by decide) h
      cases operator
  | like left source pattern denotes ih =>
    cases d' with
    | operand only => exact absurd h.symm (only.tokens_ne_append_symbol left (by decide))
    | operation chains => exact absurd rfl chains
    | comparison left' symbol' build' operator' right' =>
      have hrank' := operator'.rank_eq
      obtain ⟨-, rfl, -⟩ := symbol_split (by decide) (by rw [hrank']; decide) h
      cases operator'
    | like left' source' pattern' denotes' =>
      obtain ⟨hleft, -, hsource⟩ := symbol_split (by decide) (by decide) h
      cases hsource
      cases denotes.symm.trans denotes'
      rw [ih _ hleft]
  | not negated ih =>
    cases d' with
    | not negated' => rw [ih negated' (List.cons.inj h).2]
    | _ => cases h
  | minus negated ih =>
    cases d' with
    | minus negated' => rw [ih negated' (List.cons.inj h).2]
    | _ => cases h
  | brackets inner ih =>
    cases d' with
    | brackets inner' => rw [ih inner' (List.append_cancel_right (List.cons.inj h).2)]
    | _ => cases h
  | subscripted name value occurrence isWhole =>
    cases d' with
    | subscripted name' value' occurrence' isWhole' =>
      cases h
      cases isWhole.symm.trans isWhole'
      rfl
    | _ => cases h
  | count name =>
    cases d' with
    | count name' =>
      cases h
      rfl
    | _ => cases h
  | number value =>
    cases d' with
    | number value' =>
      cases h
      rfl
    | _ => cases h
  | string value =>
    cases d' with
    | string value' =>
      cases h
      rfl
    | _ => cases h
  | name name =>
    cases d' with
    | name name' =>
      cases h
      rfl
    | _ => cases h

end Derivation

/-- Tokens are read as the expressions of their derivations. -/
theorem ofTokens_eq_ok_iff_derived :
    Expr.ofTokens tokens = .ok whole ↔
      ∃ d : Derivation .conditional, d.tokens = tokens ∧ d.expr = whole := by
  rw [ofTokens_eq_ok_iff]
  constructor
  · intro h
    obtain ⟨d, htokens, hexpr⟩ := Phrase.conditional.isSound tokens h
    rw [List.append_nil] at htokens
    exact ⟨d, htokens, hexpr⟩
  · rintro ⟨d, rfl, rfl⟩
    exact d.reads

/-- Tokens are read as an expression exactly when the grammar derives them, and then as the
expression of their derivation, which is the only one. -/
theorem ofTokens_eq_ok_iff_derived_uniquely :
    (∀ (tokens : List Token) (whole : Expr), Expr.ofTokens tokens = .ok whole ↔
        ∃ d : Derivation .conditional, d.tokens = tokens ∧ d.expr = whole) ∧
      ∀ d d' : Derivation .conditional, d.tokens = d'.tokens → d = d' :=
  ⟨fun _ _ => ofTokens_eq_ok_iff_derived, Derivation.eq_of_tokens_eq⟩

end TextRecords.Selection
