import Mathlib.Data.List.Nodup
import TextRecords.Proofs.Lists
import TextRecords.Sampler

/-!
# What a sample consists of

A sample is picked by going through a list and the ascending positions that are drawn side by side.
No position is passed over and none holds the others up, so the element at every one of them is
picked (`Sampler.map_some_pickFrom`). A sample of a list is therefore the elements at the drawn
positions in the order of the list (`Sampler.exists_positions`): a part of the list
(`Sampler.sample_sublist`) with as many elements as are asked for, or with all of them
(`Sampler.length_sample`). Which ones are drawn has nothing to do with the elements
(`Sampler.sample_map`).
-/

namespace TextRecords.Sampler

variable {α β : Type}

section Picked

variable {position : Nat} {positions : List Nat}

/-- What is picked is a part of the list in its order. -/
theorem pickFrom_sublist (position : Nat) (positions : List Nat) (list : List α) :
    (pickFrom position positions list).Sublist list := by
  fun_induction pickFrom position positions list with
  | case1 => exact List.nil_sublist _
  | case2 => exact List.Sublist.refl []
  | case3 position later element rest ih => exact ih.cons_cons element
  | case4 position next later element rest hne ih => exact ih.cons element

/-- What is picked does not depend on the elements. -/
theorem pickFrom_map (change : α → β) (position : Nat) (positions : List Nat) (list : List α) :
    pickFrom position positions (list.map change) =
      (pickFrom position positions list).map change := by
  fun_induction pickFrom position positions list with
  | case1 => rw [pickFrom, List.map_nil]
  | case2 => rfl
  | case3 position later element rest ih =>
    rw [List.map_cons, pickFrom, if_pos rfl, ih, List.map_cons]
  | case4 position next later element rest hne ih => rw [List.map_cons, pickFrom, if_neg hne, ih]

/-- At ascending positions of a list, the first of which is `position`, every element is picked. -/
theorem map_some_pickFrom {list : List α} (hascending : positions.Pairwise (· < ·))
    (hbounds : ∀ other ∈ positions, position ≤ other ∧ other < position + list.length) :
    (pickFrom position positions list).map some =
      positions.map fun other => list[other - position]? := by
  fun_induction pickFrom position positions list with
  | case1 => rfl
  | case2 position next later =>
    -- No position is left when the list is gone through.
    have hnext := hbounds next List.mem_cons_self
    rw [List.length_nil] at hnext
    omega
  | case3 next later element rest ih =>
    obtain ⟨hfirst, hlater⟩ := List.pairwise_cons.1 hascending
    have hrest : ∀ other ∈ later, next + 1 ≤ other ∧ other < next + 1 + rest.length := by
      intro other hother
      have hlt := hfirst other hother
      have hbound := hbounds other (List.mem_cons_of_mem next hother)
      rw [List.length_cons] at hbound
      omega
    rw [List.map_cons, ih hlater hrest, List.map_cons, Nat.sub_self, List.getElem?_cons_zero]
    congr 1
    refine List.map_congr_left fun other hother => ?_
    have hshift : other - next = other - (next + 1) + 1 := by
      have hlt := hfirst other hother
      omega
    rw [hshift, List.getElem?_cons_succ]
  | case4 position next later element rest hne ih =>
    obtain ⟨hfirst, -⟩ := List.pairwise_cons.1 hascending
    -- The first position is behind this element, and so are the others.
    have hbehind : ∀ other ∈ next :: later, position + 1 ≤ other := by
      intro other hother
      have hnext := (hbounds next List.mem_cons_self).1
      rcases List.mem_cons.1 hother with rfl | hother
      · omega
      · have hlt := hfirst other hother
        omega
    have hrest : ∀ other ∈ next :: later,
        position + 1 ≤ other ∧ other < position + 1 + rest.length := by
      intro other hother
      have hbound := (hbounds other hother).2
      rw [List.length_cons] at hbound
      exact ⟨hbehind other hother, by omega⟩
    rw [ih hascending hrest]
    refine List.map_congr_left fun other hother => ?_
    have hshift : other - position = other - (position + 1) + 1 := by
      have hle := hbehind other hother
      omega
    rw [hshift, List.getElem?_cons_succ]

end Picked

/-- The elements of a list are those at all its positions. -/
theorem map_some_eq_range (list : List α) :
    list.map some = (List.range list.length).map (list[·]?) := by
  refine List.ext_getElem? fun position => ?_
  rw [List.getElem?_map, List.getElem?_map]
  rcases Nat.lt_or_ge position list.length with hposition | hposition
  · rw [List.getElem?_range hposition]
    simp [hposition]
  · simp [hposition]

variable (sampler : Sampler) (seed : Option Nat) (count : Nat)

/-- The positions that are drawn, in ascending order. -/
def positions (size : Nat) : List Nat :=
  (sampler.draw seed size count).mergeSort fun a b => a ≤ b

variable {size : Nat}

/-- Sorting the drawn positions only exchanges them. -/
theorem positions_perm (size : Nat) :
    (sampler.positions seed count size).Perm (sampler.draw seed size count) :=
  List.mergeSort_perm _ _

/-- Each position is drawn once, so the sorted ones ascend. -/
theorem pairwise_positions (h : count ≤ size) :
    (sampler.positions seed count size).Pairwise (· < ·) := by
  have hsorted : (sampler.positions seed count size).Pairwise fun a b => decide (a ≤ b) = true :=
    List.pairwise_mergeSort (fun a b c hab hbc => by simp only [decide_eq_true_eq] at *; omega)
      (fun a b => by simp only [Bool.or_eq_true, decide_eq_true_eq]; omega) _
  have hdistinct : (sampler.positions seed count size).Pairwise (· ≠ ·) :=
    (sampler.positions_perm seed count size).nodup_iff.2 (sampler.nodup_draw h)
  refine (hsorted.and hdistinct).imp fun {a b} hab => ?_
  have hle : a ≤ b := of_decide_eq_true hab.1
  exact Nat.lt_of_le_of_ne hle hab.2

/-- As many positions are drawn as are asked for. -/
theorem length_positions (h : count ≤ size) : (sampler.positions seed count size).length = count :=
  (sampler.positions_perm seed count size).length_eq.trans (sampler.length_draw h)

/-- The drawn positions are below the size. -/
theorem lt_of_mem_positions (h : count ≤ size) {position : Nat}
    (hmem : position ∈ sampler.positions seed count size) : position < size :=
  sampler.lt_of_mem_draw h ((sampler.positions_perm seed count size).mem_iff.1 hmem)

/-- When as many positions are drawn as there are, they are all positions. -/
theorem positions_self (size : Nat) : sampler.positions seed size size = List.range size := by
  have hsubset : sampler.positions seed size size ⊆ List.range size := fun position hmem =>
    List.mem_range.2 (sampler.lt_of_mem_positions seed size (Nat.le_refl size) hmem)
  have hnodup : (sampler.positions seed size size).Nodup :=
    (sampler.pairwise_positions seed size (Nat.le_refl size)).imp Nat.ne_of_lt
  have hperm : (sampler.positions seed size size).Perm (List.range size) := by
    refine (List.subperm_of_subset hnodup hsubset).perm_of_length_le ?_
    rw [List.length_range, sampler.length_positions seed size (Nat.le_refl size)]
  exact hperm.eq_of_pairwise (fun a b _ _ hab hba => absurd hab (Nat.lt_asymm hba))
    (sampler.pairwise_positions seed size (Nat.le_refl size)) List.pairwise_lt_range

/-- A sample is a part of the list in its order. -/
theorem sample_sublist (list : List α) : (sampler.sample seed count list).Sublist list := by
  unfold sample
  split
  · exact List.Sublist.refl list
  · exact pickFrom_sublist _ _ _

/-- What is drawn does not depend on the elements. -/
theorem sample_map (change : α → β) (list : List α) :
    sampler.sample seed count (list.map change) = (sampler.sample seed count list).map change := by
  unfold sample
  rw [List.length_map, pickFrom_map]
  split
  · rfl
  · rfl

/-- A sample of as many elements as a list has, or of fewer, is the elements at the drawn
positions. -/
theorem map_some_sample {list : List α} (h : count ≤ list.length) :
    (sampler.sample seed count list).map some =
      (sampler.positions seed count list.length).map (list[·]?) := by
  rcases Nat.eq_or_lt_of_le h with heq | hlt
  · -- The list is not drawn from, and drawing would come to all positions.
    have hsample : sampler.sample seed count list = list := if_pos (Nat.le_of_eq heq.symm)
    rw [hsample, heq, positions_self, map_some_eq_range]
  · have hsample : sampler.sample seed count list =
        pickFrom 0 (sampler.positions seed count list.length) list := if_neg (Nat.not_le.2 hlt)
    rw [hsample, map_some_pickFrom (sampler.pairwise_positions seed count h)]
    · rfl
    · intro other hother
      have hbound := sampler.lt_of_mem_positions seed count h hother
      omega

/-- A sample is the elements at ascending positions, as many as are asked for, or all of them. If
there are as many, the positions are those that are drawn. -/
theorem exists_positions (list : List α) :
    ∃ positions : List Nat, positions.Pairwise (· < ·) ∧
      positions.length = min count list.length ∧
      (sampler.sample seed count list).map some = positions.map (list[·]?) ∧
      (count ≤ list.length → positions.Perm (sampler.draw seed list.length count)) := by
  rcases Nat.lt_or_ge list.length count with hlt | hle
  · have hsample : sampler.sample seed count list = list := if_pos (Nat.le_of_lt hlt)
    refine ⟨List.range list.length, List.pairwise_lt_range, ?_, ?_, fun h => absurd hlt ?_⟩
    · rw [List.length_range]
      omega
    · rw [hsample, map_some_eq_range]
    · exact Nat.not_lt_of_le h
  · refine ⟨sampler.positions seed count list.length, sampler.pairwise_positions seed count hle,
      ?_, sampler.map_some_sample seed count hle, fun _ => sampler.positions_perm seed count _⟩
    rw [sampler.length_positions seed count hle]
    omega

/-- A sample has as many elements as are asked for, or all of them. -/
theorem length_sample (list : List α) :
    (sampler.sample seed count list).length = min count list.length := by
  obtain ⟨positions, -, hlength, hsample, -⟩ := sampler.exists_positions seed count list
  have hsame := congrArg List.length hsample
  rw [List.length_map, List.length_map] at hsame
  exact hsame.trans hlength

end TextRecords.Sampler
