/-!
# Positions in lists

Elements of a list are picked by their positions, counted from zero, and positions by their
elements. Both keep the order of the list.
-/

namespace TextRecords

/-- The elements of a list at the positions that are kept. -/
def elementsAt {α : Type} (keeps : Nat → Bool) (list : List α) : List α :=
  (list.zipIdx.filter fun (_, position) => keeps position).map Prod.fst

/-- The positions of the elements that are kept. -/
def positionsOf {α : Type} (keeps : α → Bool) (list : List α) : List Nat :=
  (list.zipIdx.filter fun (element, _) => keeps element).map Prod.snd

end TextRecords
