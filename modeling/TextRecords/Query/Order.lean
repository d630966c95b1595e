import TextRecords.Field.Order
import TextRecords.FieldSelection.Basic

/-!
# The order of query results

Records are ordered by the values that a field selection picks, one after another; an absent value
comes before all others. The sort is stable: a record is moved only past records that are greater.
-/

namespace TextRecords

/-- The order of two values of which each may be absent. -/
def compareOptional : Option String → Option String → Ordering
  | none, none => .eq
  | none, some _ => .lt
  | some _, none => .gt
  | some a, some b => compareValues false a b

/-- The order of two lists of values: that of the first values that differ. -/
def compareKeys : List (Option String) → List (Option String) → Ordering
  | a :: as, b :: bs => (compareOptional a b).then (compareKeys as bs)
  | _, _ => .eq

/-- A list, given with its last element first, with an element moved to its place from the end. -/
def insertFromEnd {α : Type} (compare : α → α → Ordering) (element : α) : List α → List α
  | [] => [element]
  | last :: rest =>
    if compare element last == .lt then last :: insertFromEnd compare element rest
    else element :: last :: rest

/-- A list sorted by inserting its elements one after another, as a sort does with up to twenty of
them. With more it takes other steps, which come to the same list when the order is transitive. When
it is not, they may come to another list, or the sort may fail. -/
def sortedBy {α : Type} (compare : α → α → Ordering) (list : List α) : List α :=
  (list.foldl (fun sorted element => insertFromEnd compare element sorted) []).reverse

/-- Elements that hold records, sorted by the values that a field selection picks. -/
def sortByKey {α : Type} (record : α → Record) (selection : FieldSelection) (list : List α) :
    List α :=
  let keyed := list.map fun element => (selection.key (record element), element)
  (sortedBy (fun a b => compareKeys a.1 b.1) keyed).map Prod.snd

end TextRecords
