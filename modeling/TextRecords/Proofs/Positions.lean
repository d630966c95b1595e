import Mathlib.Data.List.Basic
import Mathlib.Data.List.ReduceOption
import TextRecords.Positions

/-!
# Positions in a list

The positions of the elements that are kept are a part of all positions in their order
(`positionsOf_sublist`), and the elements there are the kept ones
(`filterMap_getElem?_positionsOf`). The positions to keep of a list without one of its elements are
positions of the whole list when no element behind that one is left out (`elementsAt_eraseIdx`).
Elements that are counted among those of one kind are at positions of the whole list
(`elementsAt_filter`), and lists made at each position are joined to one
(`flatten_mapIdx_eq_elementsAt`, `flatten_mapIdx_of_singletons`). What a partial function finds in a
list is found place by place (`filterMap_mapIdx`, `filterMap_elementsAt`).
-/

namespace TextRecords

variable {α : Type}

/-- The positions of kept elements are a part of all positions in their order. -/
theorem positionsOf_sublist (keeps : α → Bool) (list : List α) :
    (positionsOf keeps list).Sublist (List.range list.length) := by
  have hfilter : (list.zipIdx.filter fun pair => keeps pair.1).Sublist list.zipIdx :=
    List.filter_sublist
  have hmap := hfilter.map Prod.snd
  rwa [List.zipIdx_map_snd, ← List.range_eq_range'] at hmap

/-- A position is there when its element is kept. -/
theorem mem_positionsOf_iff {keeps : α → Bool} {list : List α} {position : Nat} :
    position ∈ positionsOf keeps list ↔
      ∃ element, list[position]? = some element ∧ keeps element := by
  unfold positionsOf
  constructor
  · intro h
    obtain ⟨⟨element, position⟩, hmem, rfl⟩ := List.mem_map.1 h
    obtain ⟨hzip, hkeeps⟩ := List.mem_filter.1 hmem
    exact ⟨element, List.mem_zipIdx_iff_getElem?.1 hzip, hkeeps⟩
  · rintro ⟨element, hget, hkeeps⟩
    have hzip : (element, position) ∈ list.zipIdx := List.mem_zipIdx_iff_getElem?.2 hget
    exact List.mem_map.2 ⟨_, List.mem_filter.2 ⟨hzip, hkeeps⟩, rfl⟩

/-- The elements that are kept, next to their positions. -/
theorem map_fst_filter_zipIdx (keeps : α → Bool) (list : List α) :
    (list.zipIdx.filter fun pair => keeps pair.1).map Prod.fst = list.filter keeps := by
  conv_rhs => rw [← List.zipIdx_map_fst 0 list]
  exact List.filter_map.symm

/-- There are as many positions of kept elements as kept elements. -/
theorem length_positionsOf (keeps : α → Bool) (list : List α) :
    (positionsOf keeps list).length = (list.filter keeps).length := by
  rw [← map_fst_filter_zipIdx keeps list, positionsOf, List.length_map, List.length_map]

/-- The elements at the positions of kept elements are the kept elements. -/
theorem filterMap_getElem?_positionsOf (keeps : α → Bool) (list : List α) :
    (positionsOf keeps list).filterMap (list[·]?) = list.filter keeps := by
  have helement : ∀ pair ∈ list.zipIdx.filter fun pair => keeps pair.1,
      list[pair.2]? = some pair.1 :=
    fun pair hpair => List.mem_zipIdx_iff_getElem?.1 (List.mem_of_mem_filter hpair)
  calc (positionsOf keeps list).filterMap (list[·]?)
      = (list.zipIdx.filter fun pair => keeps pair.1).filterMap fun pair => list[pair.2]? :=
        List.filterMap_map
    _ = (list.zipIdx.filter fun pair => keeps pair.1).map Prod.fst := by
        rw [List.filterMap_congr helement]
        exact congrFun List.filterMap_eq_map _
    _ = list.filter keeps := map_fst_filter_zipIdx keeps list

/-- The first element is there when its position is kept. Those behind it are one position lower
by themselves. -/
theorem elementsAt_cons (keeps : Nat → Bool) (first : α) (rest : List α) :
    elementsAt keeps (first :: rest) =
      if keeps 0 then first :: elementsAt (fun position => keeps (position + 1)) rest
      else elementsAt (fun position => keeps (position + 1)) rest := by
  have hrest : ((rest.zipIdx 1).filter fun pair => keeps pair.2).map Prod.fst =
      elementsAt (fun position => keeps (position + 1)) rest := by
    rw [List.zipIdx_succ, List.filter_map, List.map_map]
    rfl
  have hcons : elementsAt keeps (first :: rest) =
      (((first, 0) :: rest.zipIdx 1).filter fun pair => keeps pair.2).map Prod.fst := rfl
  rw [hcons, List.filter_cons, ← hrest]
  exact apply_ite (List.map Prod.fst) _ _ _

/-- Elements are at the positions at which they were before they were changed. -/
theorem elementsAt_map {β : Type} (keeps : Nat → Bool) (change : α → β) (list : List α) :
    elementsAt keeps (list.map change) = (elementsAt keeps list).map change := by
  unfold elementsAt
  rw [List.zipIdx_map, List.filter_map, List.map_map, List.map_map]
  rfl

/-- Kept elements are at the positions at which they were before they were changed. -/
theorem positionsOf_map {β : Type} (keeps : β → Bool) (change : α → β) (list : List α) :
    positionsOf keeps (list.map change) =
      positionsOf (fun element => keeps (change element)) list := by
  unfold positionsOf
  rw [List.zipIdx_map, List.filter_map, List.map_map]
  rfl

/-- All elements are there when all positions are kept. -/
theorem elementsAt_of_forall {keeps : Nat → Bool} (h : ∀ position, keeps position = true)
    (list : List α) : elementsAt keeps list = list := by
  induction list generalizing keeps with
  | nil => rfl
  | cons first rest ih => rw [elementsAt_cons, if_pos (h 0), ih fun position => h (position + 1)]

/-- Leaving out elements of a list that lacks one already, all of them before that one. -/
theorem elementsAt_eraseIdx {keeps : Nat → Bool} {position : Nat}
    (h : ∀ other, position ≤ other → keeps other = true) (list : List α) :
    elementsAt keeps (list.eraseIdx position) =
      elementsAt (fun other => other != position && keeps other) list := by
  induction list generalizing keeps position with
  | nil => rfl
  | cons first rest ih =>
    cases position with
    | zero =>
      -- Everything that is left of the list is kept, on both sides.
      rw [List.eraseIdx_cons_zero, elementsAt_of_forall fun other => h other (Nat.zero_le _)]
      rw [elementsAt_cons, if_neg (by simp),
        elementsAt_of_forall fun other => by simp [h (other + 1) (Nat.zero_le _)]]
    | succ position =>
      have hrest := ih fun other hother => h (other + 1) (Nat.succ_le_succ hother)
      rw [List.eraseIdx_cons_succ, elementsAt_cons, elementsAt_cons, hrest]
      simp

/-- The kept ones among the elements that satisfy a condition are counted by themselves: the number
of such an element is that of the others in front of it. -/
theorem elementsAt_filter (keeps : Nat → Bool) (satisfies : α → Bool) (list : List α) :
    elementsAt keeps (list.filter satisfies) =
      elementsAt (fun position => list[position]?.any satisfies &&
        keeps ((list.take position).countP satisfies)) list := by
  induction list generalizing keeps with
  | nil => rfl
  | cons first rest ih =>
    rw [elementsAt_cons]
    by_cases hfirst : satisfies first = true
    · -- The number of every further element is one more by the first one.
      have hrest := ih fun number => keeps (number + 1)
      rw [List.filter_cons_of_pos hfirst, elementsAt_cons, hrest]
      simp [hfirst]
    · rw [List.filter_cons_of_neg hfirst, ih]
      simp [hfirst]

/-- Elements that stay where they are kept, and vanish elsewhere. -/
theorem flatten_mapIdx_eq_elementsAt (keeps : Nat → Bool) (list : List α) :
    (list.mapIdx fun position element => if keeps position then [element] else []).flatten =
      elementsAt keeps list := by
  induction list generalizing keeps with
  | nil => rfl
  | cons first rest ih =>
    rw [List.mapIdx_cons, List.flatten_cons, ih fun position => keeps (position + 1),
      elementsAt_cons]
    split <;> rfl

/-- When one element is made of each one, it stands at the place of that one. -/
theorem flatten_mapIdx_of_singletons {β : Type} {make : Nat → α → List β} {list : List α}
    (h : ∀ position element, list[position]? = some element →
      ∃ made, make position element = [made]) :
    (list.mapIdx make).flatten.length = list.length ∧
      ∀ position element made, list[position]? = some element → make position element = [made] →
        (list.mapIdx make).flatten[position]? = some made := by
  induction list generalizing make with
  | nil => exact ⟨rfl, fun position element made hget => by cases hget⟩
  | cons first rest ih =>
    obtain ⟨one, hone⟩ := h 0 first rfl
    obtain ⟨hlength, hplaces⟩ := ih fun position element hget => h (position + 1) element hget
    rw [List.mapIdx_cons, hone, List.flatten_cons, List.singleton_append]
    refine ⟨by rw [List.length_cons, hlength, List.length_cons], fun position element made => ?_⟩
    cases position with
    | zero =>
      intro hget hmade
      obtain rfl := Option.some.inj hget
      exact congrArg List.head? (hone.symm.trans hmade)
    | succ position => exact hplaces position element made

/-- What is made of the elements of a list has the same elements that satisfy a predicate if what
is made of each one has. -/
theorem filter_flatten_mapIdx {satisfies : α → Bool} {make : Nat → α → List α} {list : List α}
    (h : ∀ position element, list[position]? = some element →
      (make position element).filter satisfies = [element].filter satisfies) :
    (list.mapIdx make).flatten.filter satisfies = list.filter satisfies := by
  induction list generalizing make with
  | nil => rfl
  | cons first rest ih =>
    have hrest := ih fun position element hget => h (position + 1) element hget
    rw [List.mapIdx_cons, List.flatten_cons, List.filter_append, h 0 first rfl, hrest,
      ← List.filter_append, List.singleton_append]

/-- What a partial function finds in elements that are changed one by one, place by place. -/
theorem filterMap_mapIdx {β γ : Type} (change : Nat → α → β) (find : β → Option γ)
    (list : List α) :
    (list.mapIdx change).filterMap find =
      (list.mapIdx fun position element => find (change position element)).reduceOption := by
  rw [List.reduceOption, List.mapIdx_eq_zipIdx_map, List.mapIdx_eq_zipIdx_map, List.filterMap_map,
    List.filterMap_map]
  rfl

/-- What a partial function finds at the positions that are kept, place by place. -/
theorem filterMap_elementsAt {β : Type} (keeps : Nat → Bool) (find : α → Option β)
    (list : List α) :
    (elementsAt keeps list).filterMap find =
      (list.mapIdx fun position element =>
        if keeps position then find element else none).reduceOption := by
  induction list generalizing keeps with
  | nil => rfl
  | cons first rest ih =>
    have hrest := ih fun position => keeps (position + 1)
    rw [elementsAt_cons, List.mapIdx_cons]
    by_cases hfirst : keeps 0 = true
    · rw [if_pos hfirst, if_pos hfirst, List.filterMap_cons, hrest]
      cases find first <;> rfl
    · rw [if_neg hfirst, if_neg hfirst, hrest, List.reduceOption_cons_of_none]

end TextRecords
