import Mathlib.Data.List.Perm.Basic
import Mathlib.Data.List.TakeWhile

/-!
# Lists without repetitions, sorted lists and rearranged lists

What holds of lists of any elements: the first occurrences of elements (`nodup_eraseDups`), the list
that sorting must come to (`mergeSort_eq_of_perm`), a list that rearranges the images of another one
(`exists_map_of_perm`), and a run of elements of one class (`span_append`).
-/

namespace TextRecords

section Distinct

variable {α : Type} [BEq α] [LawfulBEq α]

/-- The first occurrences of the elements that are kept. -/
theorem eraseDups_filter (keeps : α → Bool) (list : List α) :
    (list.filter keeps).eraseDups = list.eraseDups.filter keeps := by
  -- The first element is taken out of the rest, so the recursion is on the length.
  match list with
  | [] => rfl
  | a :: rest =>
    have hothers := eraseDups_filter keeps (rest.filter (!· == a))
    rw [List.eraseDups_cons, List.filter_cons, List.filter_cons, ← hothers]
    by_cases hkeeps : keeps a = true
    · rw [if_pos hkeeps, if_pos hkeeps, List.eraseDups_cons, List.filter_filter,
        List.filter_filter]
      simp only [Bool.and_comm]
    · rw [if_neg hkeeps, if_neg hkeeps, List.filter_filter]
      congr 1
      refine List.filter_congr fun b _ => ?_
      by_cases heq : b = a
      · rw [heq, Bool.eq_false_iff.2 hkeeps, Bool.false_and]
      · rw [beq_false_of_ne heq, Bool.not_false, Bool.and_true]
termination_by list.length
decreasing_by exact Nat.lt_succ_of_le (List.length_filter_le _ _)

/-- First occurrences are without repetitions. -/
theorem nodup_eraseDups (list : List α) : list.eraseDups.Nodup := by
  induction list with
  | nil => exact List.nodup_nil
  | cons a rest ih =>
    rw [List.eraseDups_cons, List.nodup_cons, eraseDups_filter]
    exact ⟨fun hmem => by simp at hmem, ih.filter _⟩

end Distinct

/-- Sorting gives the sorted list of the same elements, if no two of them have one rank. -/
theorem mergeSort_eq_of_perm {α : Type} {le : α → α → Bool}
    (htrans : ∀ a b c, le a b = true → le b c = true → le a c = true)
    (htotal : ∀ a b, (le a b || le b a) = true) {list sorted : List α}
    (hrank : ∀ a ∈ list, ∀ b ∈ list, le a b = true → le b a = true → a = b)
    (hsorted : sorted.Pairwise fun a b => le a b = true) (hperm : sorted.Perm list) :
    list.mergeSort le = sorted := by
  have hmerged : (list.mergeSort le).Perm sorted := (List.mergeSort_perm list le).trans hperm.symm
  refine hmerged.eq_of_pairwise (fun a b ha hb => ?_) (List.pairwise_mergeSort htrans htotal list)
    hsorted
  exact hrank a (List.mem_mergeSort.1 ha) b (hperm.mem_iff.1 hb)

/-- A list that rearranges images is the images of a rearranged list. -/
theorem exists_map_of_perm {α β : Type} {f : α → β} {list : List α} {images : List β}
    (h : images.Perm (list.map f)) :
    ∃ arranged : List α, arranged.Perm list ∧ images = arranged.map f := by
  have hcomp : Relation.Comp (fun images arranged => images = List.map f arranged) List.Perm
      images list := by
    rw [List.eq_map_comp_perm]
    exact h
  obtain ⟨arranged, himages, hperm⟩ := hcomp
  exact ⟨arranged, hperm, himages⟩

/-- A run of elements of a class ends before a list that starts otherwise. -/
theorem span_append {α : Type} {p : α → Bool} {run rest : List α} (hrun : ∀ a ∈ run, p a = true)
    (hrest : ∀ a ∈ rest.head?, p a = false) :
    (run ++ rest).takeWhile p = run ∧ (run ++ rest).dropWhile p = rest := by
  rw [List.takeWhile_append_of_pos hrun, List.dropWhile_append_of_pos hrun]
  cases rest with
  | nil => exact ⟨List.append_nil run, rfl⟩
  | cons a rest =>
    have ha : ¬p a = true := by simp [hrest a rfl]
    rw [List.takeWhile_cons_of_neg ha, List.dropWhile_cons_of_neg ha, List.append_nil]
    exact ⟨rfl, rfl⟩

end TextRecords
