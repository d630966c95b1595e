import Mathlib.Data.List.Basic
import TextRecords.Selection.Value

/-!
# The leaves of selections

An expression is built over its leaves: texts, numbers, and references to fields and to their
counts. What it has to do with a record is in the names that its leaves refer to, so records that
have the same values for these names give it the same value (`Expr.value_congr`).
-/

namespace TextRecords.Selection

namespace Expr

/-- The expressions that an expression is built over, from left to right. -/
def leaves : Expr → List Expr
  | not operand => operand.leaves
  | and left right => left.leaves ++ right.leaves
  | or left right => left.leaves ++ right.leaves
  | implies left right => left.leaves ++ right.leaves
  | compare _ left right => left.leaves ++ right.leaves
  | like operand _ => operand.leaves
  | compute _ left right => left.leaves ++ right.leaves
  | concat left right => left.leaves ++ right.leaves
  | conditional condition consequence alternative =>
    condition.leaves ++ consequence.leaves ++ alternative.leaves
  | leaf => [leaf]

/-- The name that a leaf refers to. -/
def name? : Expr → Option String
  | field name _ => some name
  | count name => some name
  | _ => none

/-- The names of the fields that an expression refers to, by their values or by their number. -/
def names (expr : Expr) : List String :=
  expr.leaves.filterMap name?

/-- The value of an expression depends on the values of the names that it refers to and on nothing
else of the record. -/
theorem value_congr (caseless : Bool) {record other : Record} (expr : Expr)
    (h : ∀ name ∈ expr.names, record.values name = other.values name) :
    expr.value caseless record = expr.value caseless other := by
  induction expr with
  | field name occurrence =>
    have hname := h name (List.mem_singleton_self name)
    cases occurrence with
    | none => rw [value, value, hname]
    | some n => rw [value, value, Record.value?, Record.value?, hname]
  | count name =>
    rw [value, value, Record.count, Record.count, h name (List.mem_singleton_self name)]
  | string text => rfl
  | number value => rfl
  | not operand ih => rw [value, value, ih h]
  | like operand pattern ih => rw [value, value, ih h]
  | and left right ihLeft ihRight
  | or left right ihLeft ihRight
  | implies left right ihLeft ihRight
  | compare comparison left right ihLeft ihRight
  | compute operation left right ihLeft ihRight
  | concat left right ihLeft ihRight =>
    rw [names, leaves, List.filterMap_append, List.forall_mem_append] at h
    rw [value, value, ihLeft h.1, ihRight h.2]
  | conditional condition consequence alternative ihCondition ihConsequence ihAlternative =>
    rw [names, leaves, List.filterMap_append, List.forall_mem_append, List.filterMap_append,
      List.forall_mem_append] at h
    rw [value, value, ihCondition h.1.1, ihConsequence h.1.2, ihAlternative h.2]

end Expr

end TextRecords.Selection
