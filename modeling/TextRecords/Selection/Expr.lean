import TextRecords.Regex.Reader

/-!
# Selection expressions

The abstract syntax of selections. An expression has a value for every record; a selection picks the
records for which the value of its expression counts as true.
-/

namespace TextRecords.Selection

/-- How two values are compared. -/
inductive Comparison where
  | equal
  | notEqual
  | less
  | greater
  | atMost
  | atLeast
deriving DecidableEq, Repr

/-- An operation on two numbers. -/
inductive Operation where
  | add
  | subtract
  | multiply
  | divide
  | remainder
deriving DecidableEq, Repr

/-- A regular expression, compiled for both ways to treat letter case. -/
structure Pattern where
  source : String
  exact : Regex
  caseless : Regex

/-- The pattern that a text denotes, if it is a regular expression. -/
def Pattern.ofText? (source : String) : Option Pattern := do
  let exact ← Regex.compile? false source
  let caseless ← Regex.compile? true source
  return { source, exact, caseless }

/-- An expression over the fields of a record. -/
inductive Expr where
  /-- The values of a field: one of them by its number, or all of them. -/
  | field (name : String) (occurrence : Option Nat)
  /-- How often a field occurs. -/
  | count (name : String)
  | string (value : String)
  | number (value : Float)
  | not (operand : Expr)
  | and (left right : Expr)
  | or (left right : Expr)
  | implies (left right : Expr)
  | compare (comparison : Comparison) (left right : Expr)
  /-- Whether a pattern matches in a value. -/
  | like (operand : Expr) (pattern : Pattern)
  | compute (operation : Operation) (left right : Expr)
  /-- The text of one value followed by that of another. -/
  | concat (left right : Expr)
  | conditional (condition consequence alternative : Expr)

/-- The negative of an expression: a number is negated at once, and any other expression is
subtracted from zero. -/
def Expr.negated : Expr → Expr
  | number value => number (-value)
  | operand => compute .subtract (number 0.0) operand

end TextRecords.Selection

/-- An expression with the text that it was read from. -/
structure TextRecords.Selection where
  source : String
  root : TextRecords.Selection.Expr
