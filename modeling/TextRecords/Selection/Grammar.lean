import TextRecords.Selection.Expr
import TextRecords.Selection.Token

/-!
# The grammar of selections

A conditional is an implication, or one with two alternatives after a question mark. Operators of
one level associate to the left; the levels are, from the loosest to the tightest, implication,
disjunction, conjunction, comparison, concatenation, sums and products. At most one comparison
stands at a time. Below them are the unary operators and the values.

Every reader returns the expression at the start of the tokens and the tokens after it, which are
fewer; the recursion ends for that reason.
-/

namespace TextRecords.Selection

/-- Why tokens are no expression. Where the place of the fault is shown, the tokens from there on
are given. -/
inductive GrammarFault where
  | expected (symbol : Symbol) (rest : List Token)
  | valueExpected (rest : List Token)
  | trailing (rest : List Token)
  | patternExpected
  | badPattern (source : String)
  | countWithoutName
  | badSubscript (name : String)

/-- Where the rest of so many tokens starts. -/
def place (total : Nat) : List Token → String
  | [] => "at end of expression"
  | token :: rest => s!"near token {total - rest.length} ({token.display})"

/-- The fault in words, for a selection with so many tokens. -/
def GrammarFault.message (total : Nat) : GrammarFault → String
  | expected symbol rest => s!"expected '{symbol.text}' {place total rest}"
  | valueExpected rest => s!"expected a value {place total rest}"
  | trailing rest => s!"unexpected trailing input {place total rest}"
  | patternExpected => "'~' must be followed by a quoted regular expression"
  | badPattern _ => "invalid regular expression"
  | countWithoutName => "'#' must be followed by a field name"
  | badSubscript name => s!"invalid subscript for field '{name}'"

/-- The levels of binary operators. -/
inductive Level where
  | implication
  | disjunction
  | conjunction
  | comparison
  | concatenation
  | sum
  | product
deriving DecidableEq, Repr

namespace Level

/-- How many levels bind at least as tightly. -/
def rank : Level → Nat
  | implication => 7
  | disjunction => 6
  | conjunction => 5
  | comparison => 4
  | concatenation => 3
  | sum => 2
  | product => 1

/-- The next tighter level. -/
def tighter? : Level → Option Level
  | implication => some disjunction
  | disjunction => some conjunction
  | conjunction => some comparison
  | comparison => some concatenation
  | concatenation => some sum
  | sum => some product
  | product => none

/-- What a symbol builds from its operands when it is an operator of a level. -/
def operator? : Level → Symbol → Option (Expr → Expr → Expr)
  | implication, .implies => some .implies
  | disjunction, .or => some .or
  | conjunction, .and => some .and
  | comparison, .equal => some (.compare .equal)
  | comparison, .notEqual => some (.compare .notEqual)
  | comparison, .less => some (.compare .less)
  | comparison, .greater => some (.compare .greater)
  | comparison, .atMost => some (.compare .atMost)
  | comparison, .atLeast => some (.compare .atLeast)
  | concatenation, .concat => some .concat
  | sum, .plus => some (.compute .add)
  | sum, .minus => some (.compute .subtract)
  | product, .times => some (.compute .multiply)
  | product, .divide => some (.compute .divide)
  | product, .percent => some (.compute .remainder)
  | _, _ => none

/-- The next tighter level has a lower rank. -/
theorem rank_lt_of_tighter? {level next : Level} (h : level.tighter? = some next) :
    next.rank < level.rank := by
  cases level <;> cases h <;> decide

/-- No level is as tight as the expressions without operators between them, which have rank zero. -/
theorem rank_pos (level : Level) : 0 < level.rank := by
  cases level <;> decide

end Level

/-- An expression read from the start of some tokens, and the tokens after it. -/
abbrev Reading (tokens : List Token) :=
  Except GrammarFault (Expr × { rest : List Token // rest.length < tokens.length })

/-- The number of a subscript: a whole number that is not negative, at most the greatest of 64
bits. -/
def subscript? (value : Float) : Option Nat :=
  match (Number.Binary.ofFloat value).integer? with
  | some (.ofNat n) => some (min n (Number.wordCount - 1))
  | _ => none

/-- A field after its name: with a subscript in brackets, or without. -/
def fieldTail (name : String) (tokens : List Token) :
    Except GrammarFault (Expr × { rest : List Token // rest.length ≤ tokens.length }) :=
  match tokens with
  | .symbol .openBracket :: .number value :: rest =>
    match subscript? value, rest with
    | some occurrence, .symbol .closeBracket :: rest =>
      .ok (.field name (some occurrence), ⟨rest, by simp only [List.length_cons]; omega⟩)
    | some _, rest => .error (.expected .closeBracket rest)
    | none, _ => .error (.badSubscript name)
  | .symbol .openBracket :: _ => .error (.badSubscript name)
  | rest => .ok (.field name none, ⟨rest, Nat.le_refl _⟩)

/-- The pattern after a tilde. -/
def patternTail (left : Expr) : (tokens : List Token) → Reading tokens
  | .string source :: rest =>
    match Pattern.ofText? source with
    | some pattern => .ok (.like left pattern, ⟨rest, by simp⟩)
    | none => .error (.badPattern source)
  | _ => .error .patternExpected

mutual

/-- A conditional: the loosest expression. -/
def expression (tokens : List Token) : Reading tokens := do
  let ⟨condition, rest, shorter⟩ ← binary .implication tokens
  match rest, shorter with
  | .symbol .question :: rest, shorter =>
    let ⟨consequence, rest, shorter⟩ ← expression rest
    match rest, shorter with
    | .symbol .colon :: rest, shorter =>
      let ⟨alternative, rest, shorter⟩ ← expression rest
      return (.conditional condition consequence alternative, ⟨rest, by grind⟩)
    | rest, _ => .error (.expected .colon rest)
  | rest, shorter => return (condition, ⟨rest, shorter⟩)
termination_by (tokens.length, 16)
decreasing_by all_goals grind [Level.rank]

/-- An expression whose operators bind at least as tightly as a level. -/
def binary (level : Level) (tokens : List Token) : Reading tokens := do
  let ⟨left, rest, shorter⟩ ← operand level tokens
  let ⟨whole, rest, shorter⟩ ← operators level left rest
  return (whole, ⟨rest, by omega⟩)
termination_by (tokens.length, 2 * level.rank + 1)
decreasing_by all_goals grind

/-- An operand of the operators of a level. -/
def operand (level : Level) (tokens : List Token) : Reading tokens :=
  match _tighter : level.tighter? with
  | some next => binary next tokens
  | none => unary tokens
termination_by (tokens.length, 2 * level.rank)
decreasing_by all_goals grind [→ Level.rank_lt_of_tighter?, Level.rank_pos]

/-- The operators of a level after a left operand, with their right operands. -/
def operators (level : Level) (left : Expr) (tokens : List Token) :
    Except GrammarFault (Expr × { rest : List Token // rest.length ≤ tokens.length }) :=
  match tokens with
  | .symbol symbol :: rest => do
    match level.operator? symbol with
    | some build =>
      let ⟨right, rest, shorter⟩ ← operand level rest
      if level = .comparison then return (build left right, ⟨rest, by grind⟩)
      else
        let ⟨whole, rest, shorter⟩ ← operators level (build left right) rest
        return (whole, ⟨rest, by grind⟩)
    | none =>
      if level = .comparison ∧ symbol = .like then
        let ⟨whole, rest, shorter⟩ ← patternTail left rest
        return (whole, ⟨rest, by grind⟩)
      else return (left, ⟨.symbol symbol :: rest, Nat.le_refl _⟩)
  | rest => return (left, ⟨rest, Nat.le_refl _⟩)
termination_by (tokens.length, 0)
decreasing_by all_goals grind

/-- An expression with the unary operators before it. -/
def unary (tokens : List Token) : Reading tokens :=
  match tokens with
  | .symbol .not :: rest => do
    let ⟨operand, rest, shorter⟩ ← unary rest
    return (.not operand, ⟨rest, by grind⟩)
  | .symbol .minus :: rest => do
    let ⟨operand, rest, shorter⟩ ← unary rest
    return (operand.negated, ⟨rest, by grind⟩)
  | .symbol .count :: .name name :: rest => return (.count name, ⟨rest, by grind⟩)
  | .symbol .count :: _ => .error .countWithoutName
  | .number value :: rest => return (.number value, ⟨rest, by grind⟩)
  | .string value :: rest => return (.string value, ⟨rest, by grind⟩)
  | .name name :: rest => do
    let ⟨field, rest, shorter⟩ ← fieldTail name rest
    return (field, ⟨rest, by grind⟩)
  | .symbol .openParen :: rest => do
    let ⟨inner, rest, shorter⟩ ← expression rest
    match rest, shorter with
    | .symbol .closeParen :: rest, shorter => return (inner, ⟨rest, by grind⟩)
    | rest, _ => .error (.expected .closeParen rest)
  | rest => .error (.valueExpected rest)
termination_by (tokens.length, 1)
decreasing_by all_goals grind

end

/-- The expression that tokens are, all of them. -/
def Expr.ofTokens (tokens : List Token) : Except GrammarFault Expr := do
  let ⟨whole, rest, _⟩ ← expression tokens
  if rest.isEmpty then return whole else .error (.trailing rest)

end TextRecords.Selection

namespace TextRecords

/-- Why a text is no selection. -/
inductive SelectionFault where
  | token (fault : Selection.TokenFault)
  | empty
  /-- The tokens of the text, so many of them, are no expression. -/
  | grammar (total : Nat) (fault : Selection.GrammarFault)

/-- The fault in words. -/
def SelectionFault.message : SelectionFault → String
  | token fault => fault.message
  | empty => "empty selection expression"
  | grammar total fault => fault.message total

/-- The selection that a text denotes. -/
def Selection.ofText (source : String) : Except SelectionFault Selection :=
  match tokens source.toList with
  | .error fault => .error (.token fault)
  | .ok [] => .error .empty
  | .ok tokens =>
    match Expr.ofTokens tokens with
    | .error fault => .error (.grammar tokens.length fault)
    | .ok root => .ok ⟨source, root⟩

end TextRecords
