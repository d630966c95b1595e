import TextRecords.Filter
import TextRecords.Proofs.Positions
import TextRecords.Proofs.Sampler

/-!
# The positions that a filter selects

A filter selects positions of records of the set (`Filter.lt_size_of_mem_targets`), each once and in
ascending order (`Filter.pairwise_targets`), whether it samples them or not. A sample is drawn
without regard to the elements (`Filter.sample_map`).
-/

namespace TextRecords

namespace Filter

/-- What is drawn does not depend on the elements. -/
theorem sample_map {α β : Type} (filter : Filter) (sampler : Sampler) (change : α → β)
    (list : List α) :
    filter.sample sampler (list.map change) = (filter.sample sampler list).map change := by
  unfold sample
  split
  · exact sampler.sample_map _ _ _ _
  · rfl

/-- Without a size of the sample, a filter draws none. -/
theorem sample_eq_self {α : Type} (filter : Filter) (sampler : Sampler)
    (h : filter.sampleSize = none) (list : List α) : filter.sample sampler list = list := by
  unfold sample
  rw [h]
  split
  · next heq => cases heq
  · rfl

/-- With a size of the sample and no position of its own, a filter draws a sample. -/
theorem sample_eq_of_size {α : Type} (filter : Filter) (sampler : Sampler) {count : Nat}
    (hposition : filter.position = none) (hsize : filter.sampleSize = some count)
    (list : List α) : filter.sample sampler list = sampler.sample filter.seed count list := by
  rw [sample, hposition, hsize]

/-- Which positions a filter admits depends on which records it admits. -/
theorem matching_congr {filter : Filter} {set other : RecordSet}
    (h : set.records.map filter.admits = other.records.map filter.admits) :
    filter.matching set = filter.matching other := by
  have hsize : set.size = other.size := by
    have hlength := congrArg List.length h
    rwa [List.length_map, List.length_map] at hlength
  have hpositions (set : RecordSet) :
      positionsOf filter.admits set.records = positionsOf id (set.records.map filter.admits) :=
    (positionsOf_map id filter.admits set.records).symm
  unfold matching
  rw [hsize, hpositions, hpositions, h]

variable (filter : Filter) (sampler : Sampler) (set : RecordSet)

/-- The positions that a filter admits are a part of all positions in their order. -/
theorem matching_sublist : (filter.matching set).Sublist (List.range set.size) := by
  unfold matching
  split
  · next position _ =>
    split
    · next hlt => exact List.singleton_sublist.2 (List.mem_range.2 hlt)
    · exact List.nil_sublist _
  · exact positionsOf_sublist _ _

/-- Without a position of its own, a filter admits the positions of the records that it admits. -/
theorem mem_matching_iff {position : Nat} (h : filter.position = none) :
    position ∈ filter.matching set ↔
      ∃ record, set.record? position = some record ∧ filter.admits record := by
  unfold matching
  rw [h]
  exact mem_positionsOf_iff

/-- Without a position of its own, a filter picks the records that it admits. -/
theorem filterMap_matching (h : filter.position = none) :
    (filter.matching set).filterMap set.record? = set.records.filter filter.admits := by
  rw [matching, h]
  exact filterMap_getElem?_positionsOf _ _

/-- Without a position of its own, a filter picks as many positions as it admits records. -/
theorem length_matching (h : filter.position = none) :
    (filter.matching set).length = (set.records.filter filter.admits).length := by
  rw [matching, h]
  exact length_positionsOf _ _

/-- A record matches a filter when it stands at the position that the filter gives, or when the
filter gives none and admits the record. -/
def Matches (position : Nat) (record : Record) : Prop :=
  set.record? position = some record ∧
    match filter.position with
    | some chosen => position = chosen
    | none => filter.admits record = true

/-- The positions that a filter admits are those of the records that match it. -/
theorem mem_matching_iff_matches {position : Nat} :
    position ∈ filter.matching set ↔ ∃ record, filter.Matches set position record := by
  cases hposition : filter.position with
  | none =>
    simp only [Matches, hposition]
    exact filter.mem_matching_iff set hposition
  | some chosen =>
    simp only [Matches, matching, hposition, exists_and_right]
    rw [← Option.isSome_iff_exists, RecordSet.record?, isSome_getElem?]
    split
    · next hlt =>
      rw [List.mem_singleton, iff_and_self]
      exact fun heq => heq ▸ hlt
    · next hge =>
      refine iff_of_false List.not_mem_nil ?_
      rintro ⟨hlt, rfl⟩
      exact hge hlt

/-- The positions that a filter admits are in ascending order, each once. -/
theorem pairwise_matching : (filter.matching set).Pairwise (· < ·) :=
  List.pairwise_lt_range.sublist (filter.matching_sublist set)

/-- The positions that a filter selects are a part of those that it admits. -/
theorem targets_sublist_matching :
    (filter.targets sampler set).Sublist (filter.matching set) := by
  unfold targets sample
  split
  · exact sampler.sample_sublist _ _ _
  · exact List.Sublist.refl _

/-- The positions that a filter selects are a part of all positions in their order. -/
theorem targets_sublist : (filter.targets sampler set).Sublist (List.range set.size) :=
  (filter.targets_sublist_matching sampler set).trans (filter.matching_sublist set)

/-- A filter selects positions in ascending order, each once. -/
theorem pairwise_targets : (filter.targets sampler set).Pairwise (· < ·) :=
  List.pairwise_lt_range.sublist (filter.targets_sublist sampler set)

/-- A filter selects positions of records. -/
theorem lt_size_of_mem_targets {position : Nat} (h : position ∈ filter.targets sampler set) :
    position < set.size :=
  List.mem_range.1 ((filter.targets_sublist sampler set).subset h)

end Filter

end TextRecords
