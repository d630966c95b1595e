import TextRecords.Proofs.Database.Edits
import TextRecords.Proofs.Fallible
import TextRecords.Proofs.Field.Order
import TextRecords.Query.Basic

/-!
# Sorted results

Sorting rearranges a list (`sortedBy_perm`), and keeps the order of elements of one rank
(`filter_sortedBy`). It leaves no element before a lesser one where the order is transitive
(`pairwise_sortedBy`). Of many elements only such an order is certain to be accepted (`Sortable`).

Records are ordered transitively when every selector picks values of one kind of them, for they are
then ordered as the lists of the ranks of these values (`FieldSelection.order_eq_gt_iff`). The
results of a query that asks for an order are the records that enter the sort, in another order, and
they are sorted when that order is transitive (`Database.query_sorted`). With numbers among texts it
may not be, and results may then be left out of order (`Database.not_sorted_versions`).
-/

namespace TextRecords

section Sorting

variable {α β : Type} {order : α → α → Ordering}

/-- Inserting an element adds it. -/
theorem insertFromEnd_perm (element : α) (list : List α) :
    (insertFromEnd order element list).Perm (element :: list) := by
  induction list with
  | nil => exact .refl _
  | cons last rest ih =>
    unfold insertFromEnd
    split
    · exact (ih.cons last).trans (.swap element last rest)
    · exact .refl _

/-- Inserting elements one after another adds them. -/
theorem foldl_insertFromEnd_perm (list sorted : List α) :
    (list.foldl (fun sorted element => insertFromEnd order element sorted) sorted).Perm
      (list ++ sorted) := by
  induction list generalizing sorted with
  | nil => exact .refl _
  | cons element rest ih =>
    have hrest : (rest ++ insertFromEnd order element sorted).Perm (rest ++ element :: sorted) :=
      (insertFromEnd_perm element sorted).append_left rest
    exact (ih _).trans (hrest.trans List.perm_middle)

/-- A sorted list has the elements that are sorted. -/
theorem sortedBy_perm (list : List α) : (sortedBy order list).Perm list := by
  have hadds : (sortedBy order list).Perm (list ++ []) :=
    (List.reverse_perm _).trans (foldl_insertFromEnd_perm list [])
  rwa [List.append_nil] at hadds

/-- Elements inserted by what they are mapped to. -/
theorem insertFromEnd_map (f : β → α) (element : β) (list : List β) :
    insertFromEnd order (f element) (list.map f) =
      (insertFromEnd (fun a b => order (f a) (f b)) element list).map f := by
  induction list with
  | nil => rfl
  | cons last rest ih =>
    rw [List.map_cons]
    unfold insertFromEnd
    split
    · rw [List.map_cons, ih]
    · rfl

/-- Elements sorted by what they are mapped to. -/
theorem sortedBy_map (f : β → α) (list : List β) :
    sortedBy order (list.map f) = (sortedBy (fun a b => order (f a) (f b)) list).map f := by
  have hfold : ∀ sorted : List β,
      (list.map f).foldl (fun sorted element => insertFromEnd order element sorted)
          (sorted.map f) =
        (list.foldl (fun sorted element =>
          insertFromEnd (fun a b => order (f a) (f b)) element sorted) sorted).map f := by
    induction list with
    | nil => exact fun _ => rfl
    | cons element rest ih =>
      intro sorted
      rw [List.map_cons, List.foldl_cons, insertFromEnd_map, ih, List.foldl_cons]
  unfold sortedBy
  rw [List.map_reverse, ← hfold []]
  rfl

/-- Inserting an element keeps the order of those that are picked, if it is before none of them. -/
theorem filter_insertFromEnd {picks : α → Bool} {element : α} {list : List α}
    (h : picks element = true → ∀ a ∈ list, picks a = true → order element a ≠ .lt) :
    (insertFromEnd order element list).filter picks = (element :: list).filter picks := by
  induction list with
  | nil => rfl
  | cons last rest ih =>
    have hrest := ih fun hpick a ha => h hpick a (List.mem_cons_of_mem last ha)
    unfold insertFromEnd
    split
    · next hlt =>
      -- The element passes the last one, so at most one of the two is picked.
      rw [List.filter_cons, hrest, List.filter_cons, List.filter_cons, List.filter_cons]
      by_cases hpick : picks element = true
      · have hlast : ¬ picks last = true :=
          fun hmem => h hpick last List.mem_cons_self hmem (eq_of_beq hlt)
        rw [if_pos hpick, if_neg hlast, if_pos hpick, if_neg hlast]
      · rw [if_neg hpick, if_neg hpick]
    · rfl

/-- Sorting keeps the order of elements of which none is before another. -/
theorem filter_sortedBy {picks : α → Bool} {list : List α}
    (h : ∀ a ∈ list, ∀ b ∈ list, picks a = true → picks b = true → order a b ≠ .lt) :
    (sortedBy order list).filter picks = list.filter picks := by
  have hfold : ∀ rest sorted : List α, rest ++ sorted ⊆ list →
      (rest.foldl (fun sorted element => insertFromEnd order element sorted) sorted).filter picks =
        (rest.filter picks).reverse ++ sorted.filter picks := by
    intro rest
    induction rest with
    | nil => exact fun _ _ => rfl
    | cons element rest ih =>
      intro sorted hsub
      have helement : element ∈ list := hsub List.mem_cons_self
      have hsorted : ∀ a ∈ sorted, a ∈ list :=
        fun a ha => hsub (List.mem_append_right (element :: rest) ha)
      have hperm : (rest ++ insertFromEnd order element sorted).Perm (element :: rest ++ sorted) :=
        ((insertFromEnd_perm element sorted).append_left rest).trans List.perm_middle
      have hkept : picks element = true → ∀ a ∈ sorted, picks a = true → order element a ≠ .lt :=
        fun hpick a ha => h element helement a (hsorted a ha) hpick
      have hinsert := filter_insertFromEnd hkept
      rw [List.foldl_cons, ih _ (List.Subset.trans hperm.subset hsub), hinsert, List.filter_cons,
        List.filter_cons]
      by_cases hpick : picks element = true
      · rw [if_pos hpick, if_pos hpick, List.reverse_cons, List.append_assoc,
          List.singleton_append]
      · rw [if_neg hpick, if_neg hpick]
  have hall := hfold list [] (List.Perm.of_eq (List.append_nil list)).subset
  rw [List.filter_nil, List.append_nil] at hall
  unfold sortedBy
  rw [List.filter_reverse, hall, List.reverse_reverse]

/-- Whether an order is transitive on the elements of a list. -/
def TransitiveOn (order : α → α → Ordering) (list : List α) : Prop :=
  ∀ a ∈ list, ∀ b ∈ list, ∀ c ∈ list, order a b ≠ .gt → order b c ≠ .gt → order a c ≠ .gt

/-- An order is transitive on fewer elements. -/
theorem TransitiveOn.mono {list more : List α} (h : TransitiveOn order more) (hsub : list ⊆ more) :
    TransitiveOn order list :=
  fun a ha b hb c hc => h a (hsub ha) b (hsub hb) c (hsub hc)

/-- Whether sorting a list cannot fail: it has twenty elements at most, or the order is transitive
on it. The order is to be one that says the same from both sides, as that of keys does
(`compareKeys_swap`). -/
def Sortable (order : α → α → Ordering) (list : List α) : Prop :=
  list.length ≤ 20 ∨ TransitiveOn order list

variable (hswap : ∀ a b, (order a b).swap = order b a)

include hswap

/-- A list that is sorted, with its last element first, stays so when an element is inserted. -/
theorem pairwise_insertFromEnd {element : α} {list : List α}
    (h : TransitiveOn order (element :: list))
    (hsorted : list.Pairwise fun b a => order a b ≠ .gt) :
    (insertFromEnd order element list).Pairwise fun b a => order a b ≠ .gt := by
  induction list with
  | nil => exact List.pairwise_singleton _ _
  | cons last rest ih =>
    obtain ⟨hlast, hrest⟩ := List.pairwise_cons.1 hsorted
    unfold insertFromEnd
    split
    · next hlt =>
      have hsub : element :: rest ⊆ element :: last :: rest :=
        List.cons_subset_cons element (List.subset_cons_self last rest)
      refine List.pairwise_cons.2 ⟨fun a ha => ?_, ih (h.mono hsub) hrest⟩
      rcases List.mem_cons.1 ((insertFromEnd_perm element rest).mem_iff.1 ha) with rfl | ha
      · rw [eq_of_beq hlt]
        decide
      · exact hlast a ha
    · next hnot =>
      -- The last element is not above the inserted one, and so neither are those before it.
      have hbelow : order last element ≠ .gt := by
        rw [← hswap, ne_eq, Ordering.swap_eq_gt]
        exact fun hlt => hnot (beq_iff_eq.2 hlt)
      refine List.pairwise_cons.2 ⟨fun a ha => ?_, hsorted⟩
      have hlastMem : last ∈ element :: last :: rest := List.mem_cons_of_mem _ List.mem_cons_self
      rcases List.mem_cons.1 ha with rfl | hmem
      · exact hbelow
      · exact h a (List.mem_cons_of_mem _ ha) last hlastMem element List.mem_cons_self
          (hlast a hmem) hbelow

/-- A sorted list has no element before a lesser one. -/
theorem pairwise_sortedBy {list : List α} (h : TransitiveOn order list) :
    (sortedBy order list).Pairwise fun a b => order a b ≠ .gt := by
  have hfold : ∀ rest sorted : List α, rest ++ sorted ⊆ list →
      (sorted.Pairwise fun b a => order a b ≠ .gt) →
      (rest.foldl (fun sorted element => insertFromEnd order element sorted) sorted).Pairwise
        fun b a => order a b ≠ .gt := by
    intro rest
    induction rest with
    | nil => exact fun _ _ hsorted => hsorted
    | cons element rest ih =>
      intro sorted hsub hsorted
      have hperm : (rest ++ insertFromEnd order element sorted).Perm (element :: rest ++ sorted) :=
        ((insertFromEnd_perm element sorted).append_left rest).trans List.perm_middle
      have hinserted : element :: sorted ⊆ list :=
        List.Subset.trans
          (List.cons_subset_cons element (List.subset_append_right rest sorted)) hsub
      exact ih _ (List.Subset.trans hperm.subset hsub)
        (pairwise_insertFromEnd hswap (h.mono hinserted) hsorted)
  unfold sortedBy
  rw [List.pairwise_reverse]
  exact hfold list [] (List.Perm.of_eq (List.append_nil list)).subset .nil

end Sorting

/-- Optional values are ordered alike from both sides. -/
theorem compareOptional_swap (a b : Option String) :
    (compareOptional a b).swap = compareOptional b a := by
  cases a with
  | none => cases b <;> rfl
  | some a =>
    cases b with
    | none => rfl
    | some b => exact compareValues_swap a b

/-- Keys are ordered alike from both sides. -/
theorem compareKeys_swap (a b : List (Option String)) :
    (compareKeys a b).swap = compareKeys b a := by
  induction a generalizing b with
  | nil => cases b <;> rfl
  | cons value rest ih =>
    cases b with
    | nil => rfl
    | cons other more => rw [compareKeys, compareKeys, Ordering.swap_then, compareOptional_swap, ih]

/-- What optional values are ordered by. An absent one comes before all others. -/
def optionalRank : Option String → WithBot ((ℤ ×ₗ ℤ ×ₗ ℤ) ⊕ₗ String)
  | none => ⊥
  | some value => ↑(valueRank value)

/-- Optional values of one kind are ordered by their ranks. -/
theorem compareOptional_eq {a b : Option String} (h : ∀ x ∈ a, ∀ y ∈ b, Alike x y) :
    compareOptional a b = compare (optionalRank a) (optionalRank b) := by
  cases a with
  | none =>
    cases b with
    | none => exact (compare_eq_iff_eq.2 rfl).symm
    | some y => exact (compare_lt_iff_lt.2 (WithBot.bot_lt_coe _)).symm
  | some x =>
    cases b with
    | none => exact (compare_gt_iff_gt.2 (WithBot.bot_lt_coe _)).symm
    | some y =>
      exact (compareValues_eq (h x rfl y rfl)).trans (compare_map WithBot.coe_strictMono _ _).symm

namespace FieldSelection

variable {selection : FieldSelection} {records : List Record}

/-- The order of records by the values that a selection picks of them. -/
def order (selection : FieldSelection) (a b : Record) : Ordering :=
  compareKeys (selection.key a) (selection.key b)

/-- Elements that hold records are sorted in the order of their records. -/
theorem sortByKey_eq {α : Type} (record : α → Record) (selection : FieldSelection) (list : List α) :
    sortByKey record selection list =
      sortedBy (fun a b => selection.order (record a) (record b)) list := by
  unfold sortByKey
  dsimp only
  rw [sortedBy_map, List.map_map]
  exact List.map_id _

/-- Whether every selector picks values of one kind from records: it picks numbers only, or none. -/
def PicksAlike (selection : FieldSelection) (records : List Record) : Prop :=
  ∀ selector ∈ selection.selectors, ∀ a ∈ records, ∀ b ∈ records,
    ∀ x ∈ selector.value? a, ∀ y ∈ selector.value? b, Alike x y

instance (selection : FieldSelection) (records : List Record) :
    Decidable (selection.PicksAlike records) :=
  inferInstanceAs (Decidable (∀ selector ∈ selection.selectors, ∀ a ∈ records, ∀ b ∈ records,
    ∀ x ∈ selector.value? a, ∀ y ∈ selector.value? b, Alike x y))

/-- What records are ordered by: the ranks of the values that a selection picks of them. -/
def keyRank (selection : FieldSelection) (record : Record) :
    List (WithBot ((ℤ ×ₗ ℤ ×ₗ ℤ) ⊕ₗ String)) :=
  selection.selectors.map fun selector => optionalRank (selector.value? record)

/-- Records are ordered by the ranks of their values, if these are of one kind. -/
theorem order_eq_gt_iff (h : selection.PicksAlike records) {a b : Record} (ha : a ∈ records)
    (hb : b ∈ records) :
    selection.order a b = .gt ↔ selection.keyRank b < selection.keyRank a := by
  unfold order key keyRank
  unfold PicksAlike at h
  generalize selection.selectors = selectors at h ⊢
  induction selectors with
  | nil => exact iff_of_false nofun (List.not_lt_nil [])
  | cons selector rest ih =>
    have hfirst := compareOptional_eq (h selector List.mem_cons_self a ha b hb)
    have hrest := ih fun other hother => h other (List.mem_cons_of_mem selector hother)
    simp only [List.map_cons]
    rw [compareKeys, Ordering.then_eq_gt, List.cons_lt_cons_iff, hfirst, hrest, compare_gt_iff_gt,
      compare_eq_iff_eq, eq_comm]

/-- The order of records is transitive when every selector picks values of one kind. -/
theorem transitiveOn_order (h : selection.PicksAlike records) :
    TransitiveOn selection.order records := by
  intro a ha b hb c hc hfirst hsecond
  rw [ne_eq, order_eq_gt_iff h ha hb, not_lt] at hfirst
  rw [ne_eq, order_eq_gt_iff h hb hc, not_lt] at hsecond
  rw [ne_eq, order_eq_gt_iff h ha hc, not_lt]
  exact hfirst.trans hsecond

end FieldSelection

namespace Query

variable {query : Query} {sampler : Sampler} {db : Database} {set : RecordSet}
  {result : QueryResult} {selection : FieldSelection}

/-- The groups that a query makes of the records of a set before it sorts them. -/
def Enters (query : Query) (sampler : Sampler) (db : Database) (set : RecordSet)
    (groups : List Group) : Prop :=
  ∃ records skipped,
    query.joined db set ((query.filter.matching set).filterMap set.record?) =
      .ok (records, skipped) ∧
    groups = query.grouped (query.filter.sample sampler records)

/-- What a query finds in a set are the groups that enter the sort, as sorted and as shown. -/
theorem onSet_cases (h : query.onSet sampler db set = .ok result) :
    (query.descriptorOnly = true ∧ result.set = set.emptied) ∨
      ∃ groups, query.Enters sampler db set groups ∧
        result.set.entries = (query.sorted set.schema groups).map
          fun group => .record (query.shown set.schema group.record) := by
  unfold onSet at h
  cases hdescriptor : query.descriptorOnly with
  | true =>
    rw [if_pos hdescriptor] at h
    exact .inl ⟨rfl, by rw [← Except.ok.inj h]⟩
  | false =>
    rw [if_neg (by rw [hdescriptor]; decide)] at h
    obtain ⟨⟨records, skipped⟩, hjoined, hrest⟩ := bind_eq_ok_iff.1 h
    refine .inr ⟨_, ⟨records, skipped, hjoined, rfl⟩, ?_⟩
    rw [← Except.ok.inj hrest]

/-- A query that asks for an order sorts the groups by it. -/
theorem sorted_eq (hsort : query.sortBy = some selection) (schema : Schema) (groups : List Group) :
    query.sorted schema groups =
      sortedBy (fun a b => selection.order a.record b.record) groups := by
  unfold sorted
  rw [hsort]
  exact FieldSelection.sortByKey_eq Group.record selection groups

end Query

namespace Database

variable {db : Database} {sampler : Sampler} {query : Query} {selection : FieldSelection}
  {result : QueryResult}

/-- Values of one kind are ordered transitively. The results of a query that asks for an order are
the records that enter the sort, in an order in which none stands before a lesser one, if the order
of their keys is transitive, and so whenever each selector picks values of one kind. -/
theorem query_sorted (hsort : query.sortBy = some selection)
    (h : db.query sampler query = .ok result) :
    (∀ a b c : String, Alike a b → Alike b c → compareValues false a b ≠ .gt →
        compareValues false b c ≠ .gt → compareValues false a c ≠ .gt) ∧
      (result.set.entries = [] ∧ (query.descriptorOnly = true ∨ db.sets = []) ∨
        ∃ position set groups sorted,
          db.resolve query.filter.type = .ok (some position) ∧ db.set? position = some set ∧
          query.Enters sampler db set groups ∧ List.Perm sorted groups ∧
          result.set.entries =
            sorted.map (fun group => .record (query.shown set.schema group.record)) ∧
          (TransitiveOn selection.order (groups.map Group.record) →
            sorted.Pairwise fun a b => selection.order a.record b.record ≠ .gt) ∧
          (selection.PicksAlike (groups.map Group.record) →
            TransitiveOn selection.order (groups.map Group.record))) := by
  refine ⟨fun a b c => compareValues_trans, ?_⟩
  obtain ⟨target, hresolve, hfound⟩ := bind_eq_ok_iff.1 h
  cases target with
  | none =>
    rw [← Except.ok.inj hfound]
    exact .inl ⟨rfl, .inr (sets_eq_nil_of_resolve hresolve)⟩
  | some position =>
    obtain ⟨set, hset⟩ := exists_set_of_resolve hresolve
    rw [Option.bind_some, hset] at hfound
    rcases Query.onSet_cases hfound with ⟨hdescriptor, hempty⟩ | ⟨groups, henters, hentries⟩
    · rw [hempty]
      exact .inl ⟨rfl, .inl hdescriptor⟩
    · rw [Query.sorted_eq hsort] at hentries
      refine .inr ⟨position, set, groups, _, hresolve, hset, henters, sortedBy_perm groups,
        hentries, fun htrans => pairwise_sortedBy (fun a b => compareKeys_swap _ _) ?_,
        FieldSelection.transitiveOn_order⟩
      intro a ha b hb c hc
      exact htrans a.record (List.mem_map_of_mem ha) b.record (List.mem_map_of_mem hb) c.record
        (List.mem_map_of_mem hc)

/-- The selection of the first value of one field. -/
def versionSelection : FieldSelection :=
  ⟨"v", [⟨"v", .all, none, false⟩]⟩

/-- Records with numbers, two of which are spellings of one, and a record without the field. -/
def numbersSpecimen : Database where
  sets := [{ entries := [.record ⟨[.field ⟨"v", "10"⟩], none⟩,
    .record ⟨[.field ⟨"v", "9.0"⟩], none⟩, .record ⟨[.field ⟨"w", "a"⟩], none⟩,
    .record ⟨[.field ⟨"v", "9"⟩], none⟩] }]

/-- Numbers are sorted, after the record that has none. -/
theorem query_sorted_numbersSpecimen :
    let query : Query := { sortBy := some versionSelection }
    ∃ result, numbersSpecimen.query .first query = .ok result ∧
      ∃ sorted : List Group, result.set.entries =
          sorted.map (fun group => .record (query.shown {} group.record)) ∧
        sorted.length = 4 ∧
        sorted.Pairwise fun a b => versionSelection.order a.record b.record ≠ .gt := by
  intro query
  obtain ⟨result, hresult⟩ :
      ∃ result, numbersSpecimen.query .first query = .ok result := ⟨_, rfl⟩
  refine ⟨result, hresult, ?_⟩
  obtain ⟨-, ⟨-, hdescriptor | hsets⟩ | ⟨position, set, groups, sorted, hresolve, hset, henters,
    hperm, hentries, hsorted, htrans⟩⟩ := query_sorted rfl hresult
  · cases hdescriptor
  · cases hsets
  · obtain rfl : 0 = position := Option.some.inj (Except.ok.inj hresolve)
    obtain rfl : _ = set := Option.some.inj hset
    obtain ⟨records, skipped, hjoined, rfl⟩ := henters
    obtain rfl : _ = records := congrArg Prod.fst (Except.ok.inj hjoined)
    exact ⟨sorted, hentries, hperm.length_eq, hsorted (htrans (by decide +kernel))⟩

/-- Records with a version that is a text, and two spellings of a number. -/
def versionsSpecimen : Database where
  sets := [{ entries := [.record ⟨[.field ⟨"v", "1.0"⟩], none⟩, .record ⟨[.field ⟨"v", "1"⟩], none⟩,
    .record ⟨[.field ⟨"v", "1-beta"⟩], none⟩] }]

/-- Versions among numbers are not sorted: each of the three values is in order with the next one,
but the first of them is greater than the last. -/
theorem not_sorted_versions :
    let query : Query := { sortBy := some versionSelection }
    (compareValues false "1.0" "1" ≠ .gt ∧ compareValues false "1" "1-beta" ≠ .gt ∧
        compareValues false "1.0" "1-beta" = .gt) ∧
      ∃ result, versionsSpecimen.query .first query = .ok result ∧
        ¬ result.set.records.Pairwise fun a b => versionSelection.order a b ≠ .gt :=
  ⟨not_trans_compareValues, _, rfl, by decide +kernel⟩

end Database

end TextRecords
