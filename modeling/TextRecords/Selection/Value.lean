import TextRecords.Field.Order
import TextRecords.Record.Basic
import TextRecords.Regex.Matching
import TextRecords.Selection.Expr
import TextRecords.Number.Shortest

/-!
# Values of selections

The value of an expression for a record. A field stands for all its values at once, so a comparison
holds when any pair of values satisfies it; with an absent field there is no pair and no comparison
holds.
-/

namespace TextRecords.Selection

/-- The value of an expression. -/
inductive Value where
  /-- The values of a field, none when it is absent. -/
  | field (values : List String)
  | string (text : String)
  | number (value : Float)
  | truth (value : Bool)
  /-- An operation on an operand that is absent or no number has no value. -/
  | missing

/-- Numbers in expressions: whole numbers have no point, and no number has an exponent. -/
def Value.numberLayout : Number.Layout where
  positional _ := true
  marksWhole := false

/-- A number as text. Whole numbers below `10 ^ 15` have no sign on zero. -/
def Value.numberText (value : Float) : String :=
  match (Number.Binary.ofFloat value).integer? with
  | some n => if n.natAbs < 1000000000000000 then toString n else numberLayout.text value
  | none => numberLayout.text value

namespace Value

/-- The texts that a value is compared by. -/
def texts : Value → List String
  | field values => values
  | string text => [text]
  | number value => [numberText value]
  | truth value => [if value then "1" else "0"]
  | missing => []

/-- The text that a value contributes to a concatenation. -/
def text? (value : Value) : Option String :=
  value.texts.head?

/-- The number that a value contributes to a calculation. -/
def number? : Value → Option Float
  | number value => some value
  | truth value => some (if value then 1.0 else 0.0)
  | value => value.text?.bind Number.ofText?

/-- Whether a value counts as true: a field when it is present, a text when it is not empty, and a
number when it is not zero. -/
def holds : Value → Bool
  | field values => !values.isEmpty
  | string text => !text.isEmpty
  | number value => value != 0.0
  | truth value => value
  | missing => false

/-- Whether a value is a text that the expression itself contains or builds. -/
def isString : Value → Bool
  | string _ => true
  | _ => false

/-- Whether a value is a number or a truth value. -/
def isNumeric : Value → Bool
  | number _ | truth _ => true
  | _ => false

/-- The order of one text of each of two values: as texts when one of the values is a text, as
numbers when one is numeric, and as field values otherwise. -/
def order? (caseless : Bool) (left right : Value) (a b : String) : Option Ordering :=
  if left.isString || right.isString then some (compareTexts caseless a b)
  else if left.isNumeric || right.isNumeric then compareNumeric? a b
  else some (compareValues caseless a b)

end Value

/-- Whether an order satisfies a comparison. -/
def Comparison.admits : Comparison → Ordering → Bool
  | equal, order => order == .eq
  | notEqual, order => order != .eq
  | less, order => order == .lt
  | greater, order => order == .gt
  | atMost, order => order != .gt
  | atLeast, order => order != .lt

/-- Whether a comparison holds for any pair of texts of two values. -/
def Comparison.holds (comparison : Comparison) (caseless : Bool) (left right : Value) : Bool :=
  left.texts.any fun a => right.texts.any fun b =>
    (Value.order? caseless left right a b).any comparison.admits

/-- The result of an operation. There is none for a division by zero. -/
def Operation.apply (operation : Operation) (a b : Float) : Value :=
  match operation with
  | add => .number (a + b)
  | subtract => .number (a - b)
  | multiply => .number (a * b)
  | divide => if b == 0.0 then .missing else .number (a / b)
  | remainder =>
    if b == 0.0 then .missing
    else .number (Number.Binary.remainder (.ofFloat a) (.ofFloat b))

/-- The value of an expression for a record. -/
def Expr.value (caseless : Bool) (record : Record) : Expr → Value
  | field name none => .field (record.values name)
  | field name (some occurrence) => .field (record.value? name occurrence).toList
  | count name => .number (.ofNat (record.count name))
  | string text => .string text
  | number value => .number value
  | not operand => .truth (!(operand.value caseless record).holds)
  | and left right =>
    .truth ((left.value caseless record).holds && (right.value caseless record).holds)
  | or left right =>
    .truth ((left.value caseless record).holds || (right.value caseless record).holds)
  | implies left right =>
    .truth (!(left.value caseless record).holds || (right.value caseless record).holds)
  | compare comparison left right =>
    .truth (comparison.holds caseless (left.value caseless record) (right.value caseless record))
  | like operand pattern =>
    let regex := if caseless then pattern.caseless else pattern.exact
    .truth ((operand.value caseless record).texts.any regex.isMatch)
  | compute operation left right =>
    match (left.value caseless record).number?, (right.value caseless record).number? with
    | some a, some b => operation.apply a b
    | _, _ => .missing
  | concat left right =>
    match (left.value caseless record).text?, (right.value caseless record).text? with
    | some a, some b => .string (a ++ b)
    | _, _ => .missing
  | conditional condition consequence alternative =>
    if (condition.value caseless record).holds then consequence.value caseless record
    else alternative.value caseless record

end TextRecords.Selection

/-- Whether a selection picks a record. -/
def TextRecords.Selection.picks (selection : TextRecords.Selection) (caseless : Bool)
    (record : TextRecords.Record) : Bool :=
  (selection.root.value caseless record).holds
