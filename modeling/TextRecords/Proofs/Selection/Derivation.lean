import TextRecords.Selection.Grammar

/-!
# Derivations of selections

The grammar of selections, apart from how it is read. A phrase is a conditional, an expression with
the operators of a level, or a unary expression, and `Derivation` has a constructor for every rule
of the grammar. `Level.Operator` lists the operators that two operands take between them, with the
level of each and what it makes of them. A derivation has the tokens that it derives and the
expression that it stands for.

* A conditional is an implication, or one with two conditionals behind a question mark, with a colon
  between them.
* The operators of a level join phrases of the next tighter one. They associate to the left: the
  left operand of an operation may be an operation of the same level, the right one may not. The
  levels are, from the loosest to the tightest, implication, disjunction, conjunction, comparison,
  concatenation, sums and products.
* A comparison does not associate: it has one operator at most, or one tilde and a pattern.
* A unary expression has an exclamation mark, a hyphen or a number sign in front, or is a number, a
  string, a name, a name with a subscript or a conditional in brackets.
-/

namespace TextRecords.Selection

/-- What the rules of the grammar derive. -/
inductive Phrase where
  | conditional
  | binary (level : Level)
  | unary
deriving DecidableEq

/-- The operands of the operators of a level. -/
def Level.operands : Level → Phrase
  | implication => .binary disjunction
  | disjunction => .binary conjunction
  | conjunction => .binary comparison
  | comparison => .binary concatenation
  | concatenation => .binary sum
  | sum => .binary product
  | product => .unary

/-- The operators of a level between two operands, and what each of them makes of the two. A
comparison may have a tilde too, but that takes a pattern on its right and no operand. -/
inductive Level.Operator : Level → Symbol → (Expr → Expr → Expr) → Prop where
  | implies : Operator implication .implies .implies
  | or : Operator disjunction .or .or
  | and : Operator conjunction .and .and
  | equal : Operator comparison .equal (.compare .equal)
  | notEqual : Operator comparison .notEqual (.compare .notEqual)
  | less : Operator comparison .less (.compare .less)
  | greater : Operator comparison .greater (.compare .greater)
  | atMost : Operator comparison .atMost (.compare .atMost)
  | atLeast : Operator comparison .atLeast (.compare .atLeast)
  | concat : Operator concatenation .concat .concat
  | plus : Operator sum .plus (.compute .add)
  | minus : Operator sum .minus (.compute .subtract)
  | times : Operator product .times (.compute .multiply)
  | divide : Operator product .divide (.compute .divide)
  | percent : Operator product .percent (.compute .remainder)

/-- A derivation of a phrase by the rules of the grammar. -/
inductive Derivation : Phrase → Type where
  | implication (only : Derivation (.binary .implication)) : Derivation .conditional
  | conditional (condition : Derivation (.binary .implication))
      (consequence alternative : Derivation .conditional) : Derivation .conditional
  | operand {level : Level} (only : Derivation level.operands) : Derivation (.binary level)
  | operation {level : Level} (chains : level ≠ .comparison) (left : Derivation (.binary level))
      (symbol : Symbol) (build : Expr → Expr → Expr)
      (operator : level.Operator symbol build) (right : Derivation level.operands) :
      Derivation (.binary level)
  | comparison (left : Derivation (.binary .concatenation)) (symbol : Symbol)
      (build : Expr → Expr → Expr) (operator : Level.comparison.Operator symbol build)
      (right : Derivation (.binary .concatenation)) : Derivation (.binary .comparison)
  | like (left : Derivation (.binary .concatenation)) (source : String) (pattern : Pattern)
      (denotes : Pattern.ofText? source = some pattern) : Derivation (.binary .comparison)
  | not (negated : Derivation .unary) : Derivation .unary
  | minus (negated : Derivation .unary) : Derivation .unary
  | count (name : String) : Derivation .unary
  | number (value : Float) : Derivation .unary
  | string (value : String) : Derivation .unary
  | name (name : String) : Derivation .unary
  /-- A name with a whole number in square brackets that is not negative. -/
  | subscripted (name : String) (value : Float) (occurrence : Nat)
      (isWhole : (Number.Binary.ofFloat value).integer? = some (occurrence : Int)) :
      Derivation .unary
  | brackets (inner : Derivation .conditional) : Derivation .unary

namespace Derivation

/-- The tokens that are derived. -/
def tokens : {phrase : Phrase} → Derivation phrase → List Token
  | _, implication only => only.tokens
  | _, conditional condition consequence alternative =>
    condition.tokens ++
      .symbol .question :: (consequence.tokens ++ .symbol .colon :: alternative.tokens)
  | _, operand only => only.tokens
  | _, operation _ left symbol _ _ right => left.tokens ++ .symbol symbol :: right.tokens
  | _, comparison left symbol _ _ right => left.tokens ++ .symbol symbol :: right.tokens
  | _, like left source _ _ => left.tokens ++ [.symbol .like, .string source]
  | _, not negated => .symbol .not :: negated.tokens
  | _, minus negated => .symbol .minus :: negated.tokens
  | _, count text => [.symbol .count, .name text]
  | _, number value => [.number value]
  | _, string value => [.string value]
  | _, name text => [.name text]
  | _, subscripted text value _ _ =>
    [.name text, .symbol .openBracket, .number value, .symbol .closeBracket]
  | _, brackets inner => .symbol .openParen :: (inner.tokens ++ [.symbol .closeParen])

/-- The expression that a derivation stands for. A hyphen makes the negative of a number at once,
and subtracts any other expression from zero. The numbers of subscripts end at 64 bits. -/
def expr : {phrase : Phrase} → Derivation phrase → Expr
  | _, implication only => only.expr
  | _, conditional condition consequence alternative =>
    .conditional condition.expr consequence.expr alternative.expr
  | _, operand only => only.expr
  | _, operation _ left _ build _ right => build left.expr right.expr
  | _, comparison left _ build _ right => build left.expr right.expr
  | _, like left _ pattern _ => .like left.expr pattern
  | _, not negated => .not negated.expr
  | _, minus negated =>
    match negated.expr with
    | .number value => .number (-value)
    | other => .compute .subtract (.number 0.0) other
  | _, count text => .count text
  | _, number value => .number value
  | _, string value => .string value
  | _, name text => .field text none
  | _, subscripted text _ occurrence _ =>
    .field text (some (min occurrence (Number.wordCount - 1)))
  | _, brackets inner => inner.expr

end Derivation

end TextRecords.Selection
