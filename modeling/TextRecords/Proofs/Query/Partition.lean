import TextRecords.Proofs.Query.Runs

/-!
# Groups as a partition

Where every selector picks values of one kind, records are ordered by the ranks of their keys. The
runs of sorted records then ascend strictly (`Run.pairwise_keyRank_cut`), so each of them has all
the records of one rank, and has them in the order that they had before they were sorted
(`Run.records_eq_filter`).

So grouping is a partition (`Group.gather_partitions`): the keys of the groups ascend, and each
record is in the one group whose key is its own.
-/

namespace TextRecords

namespace FieldSelection

variable {selection : FieldSelection} {records : List Record} {a b : Record}

/-- A record is before another when its key has the lower rank, if the values are of one kind. -/
theorem order_eq_lt_iff (h : selection.PicksAlike records) (ha : a ∈ records) (hb : b ∈ records) :
    selection.order a b = .lt ↔ selection.keyRank a < selection.keyRank b := by
  have hswap : selection.order b a = (selection.order a b).swap :=
    (compareKeys_swap (selection.key a) (selection.key b)).symm
  rw [← order_eq_gt_iff h hb ha, hswap, Ordering.swap_eq_gt]

/-- Records are equal in the order when their keys have one rank, if the values are of one kind. -/
theorem order_eq_eq_iff (h : selection.PicksAlike records) (ha : a ∈ records) (hb : b ∈ records) :
    selection.order a b = .eq ↔ selection.keyRank a = selection.keyRank b := by
  have hlt := order_eq_lt_iff h ha hb
  have hgt := order_eq_gt_iff h ha hb
  constructor
  · intro heq
    rw [heq] at hlt hgt
    exact le_antisymm (not_lt.1 fun hless => nomatch hgt.2 hless)
      (not_lt.1 fun hless => nomatch hlt.2 hless)
  · intro hrank
    cases horder : selection.order a b with
    | lt => exact absurd (hlt.1 horder) (hrank ▸ lt_irrefl _)
    | eq => rfl
    | gt => exact absurd (hgt.1 horder) (hrank ▸ lt_irrefl _)

/-- Records that are sorted have ascending ranks, if their values are of one kind. -/
theorem pairwise_keyRank_sortedBy (h : selection.PicksAlike records) :
    (sortedBy selection.order records).Pairwise
      fun a b => selection.keyRank a ≤ selection.keyRank b := by
  have hsorted : (sortedBy selection.order records).Pairwise
      fun a b => selection.order a b ≠ .gt :=
    pairwise_sortedBy (fun a b => compareKeys_swap _ _) (transitiveOn_order h)
  have hperm : (sortedBy selection.order records).Perm records := sortedBy_perm records
  refine hsorted.imp_of_mem fun ha hb hle => ?_
  rwa [ne_eq, order_eq_gt_iff h (hperm.mem_iff.1 ha) (hperm.mem_iff.1 hb), not_lt] at hle

/-- Records with one key stay in their order when records are sorted, if the values are of one
kind. -/
theorem filter_sortedBy_alike (h : selection.PicksAlike records) (ha : a ∈ records) :
    (sortedBy selection.order records).filter (fun record => selection.order a record == .eq) =
      records.filter fun record => selection.order a record == .eq := by
  refine filter_sortedBy fun b hb c hc hpickB hpickC hlt => ?_
  have hrankB := (order_eq_eq_iff h ha hb).1 (eq_of_beq hpickB)
  have hrankC := (order_eq_eq_iff h ha hc).1 (eq_of_beq hpickC)
  have hless := (order_eq_lt_iff h hb hc).1 hlt
  rw [← hrankB, ← hrankC] at hless
  exact lt_irrefl _ hless

end FieldSelection

namespace Run

section Ranks

variable {R : Type} [LinearOrder R] {rank : Record → R} {runs : List Run}

/-- Runs of ascending records whose neighbours start with different ranks start with ranks that
ascend strictly. -/
theorem pairwise_first_lt
    (hsorted : (runs.flatMap records).Pairwise fun a b => rank a ≤ rank b)
    (hapart : runs.IsChain fun a b => rank a.first ≠ rank b.first) :
    runs.Pairwise fun a b => rank a.first < rank b.first := by
  have hle : runs.Pairwise fun a b => rank a.first ≤ rank b.first := by
    refine (List.pairwise_flatMap.1 hsorted).2.imp fun {a b} hall => ?_
    exact hall a.first List.mem_cons_self b.first List.mem_cons_self
  have hchain : runs.IsChain fun a b => rank a.first < rank b.first := by
    refine List.isChain_iff_getElem.2 fun i hi => lt_of_le_of_ne ?_ ?_
    · exact List.isChain_iff_getElem.1 hle.isChain i hi
    · exact List.isChain_iff_getElem.1 hapart i hi
  have htrans : Trans (fun a b : Run => rank a.first < rank b.first)
      (fun a b : Run => rank a.first < rank b.first)
      (fun a b : Run => rank a.first < rank b.first) := ⟨lt_trans⟩
  exact List.isChain_iff_pairwise.1 hchain

/-- Where runs start with ranks that ascend strictly, and every run has records of one rank, a run
has all records of its rank. -/
theorem filter_flatMap_records (hone : ∀ run ∈ runs, ∀ record ∈ run.records,
      rank record = rank run.first)
    (hascending : runs.Pairwise fun a b => rank a.first < rank b.first) {run : Run}
    (hrun : run ∈ runs) {picks : Record → Bool}
    (hpicks : ∀ other ∈ runs, ∀ record ∈ other.records,
      (picks record = true ↔ rank record = rank run.first)) :
    (runs.flatMap records).filter picks = run.records := by
  -- A run whose first record has another rank has no record that is picked.
  have hnone : ∀ others : List Run, (∀ other ∈ others, other ∈ runs) →
      (∀ other ∈ others, rank other.first ≠ rank run.first) →
      (others.flatMap records).filter picks = [] := by
    intro others hsub hdiffers
    rw [List.filter_eq_nil_iff]
    intro record hrecord hpick
    obtain ⟨other, hother, hmem⟩ := List.mem_flatMap.1 hrecord
    have hrank := (hpicks other (hsub other hother) record hmem).1 hpick
    exact hdiffers other hother ((hone other (hsub other hother) record hmem).symm.trans hrank)
  have hself : run.records.filter picks = run.records := by
    rw [List.filter_eq_self]
    exact fun record hmem => (hpicks run hrun record hmem).2 (hone run hrun record hmem)
  obtain ⟨before, after, hsplit⟩ := List.append_of_mem hrun
  rw [hsplit] at hascending
  obtain ⟨-, hfrom, hbelow⟩ := List.pairwise_append.1 hascending
  obtain ⟨habove, -⟩ := List.pairwise_cons.1 hfrom
  have hbefore : (before.flatMap records).filter picks = [] := by
    refine hnone before (fun other hother => ?_) fun other hother => ?_
    · rw [hsplit]
      exact List.mem_append_left _ hother
    · exact (hbelow other hother run List.mem_cons_self).ne
  have hafter : (after.flatMap records).filter picks = [] := by
    refine hnone after (fun other hother => ?_) fun other hother => ?_
    · rw [hsplit]
      exact List.mem_append_right _ (List.mem_cons_of_mem run hother)
    · exact (habove other hother).ne'
  calc (runs.flatMap records).filter picks
      = (before.flatMap records ++ (run.records ++ after.flatMap records)).filter picks := by
        rw [hsplit, List.flatMap_append, List.flatMap_cons]
    _ = run.records := by
        rw [List.filter_append, List.filter_append, hbefore, hafter, hself, List.nil_append,
          List.append_nil]

end Ranks

variable {selection : FieldSelection} {records : List Record}

/-- The first run that is cut is the one that is open. -/
theorem exists_cutFrom_eq (run : Run) (list : List Record) :
    ∃ others rest, cutFrom selection run list = ⟨run.first, others⟩ :: rest := by
  induction list generalizing run with
  | nil => exact ⟨run.others, [], rfl⟩
  | cons next rest ih =>
    unfold cutFrom
    split
    · exact ih (run.extend next)
    · exact ⟨run.others, cutFrom selection ⟨next, []⟩ rest, rfl⟩

/-- A run ends where the key is another one. -/
theorem isChain_cutFrom (run : Run) (list : List Record) :
    (cutFrom selection run list).IsChain fun a b => selection.order a.first b.first ≠ .eq := by
  induction list generalizing run with
  | nil => exact List.isChain_singleton _
  | cons next rest ih =>
    unfold cutFrom
    split
    · exact ih (run.extend next)
    · next hdiffers =>
      have hrest := ih ⟨next, []⟩
      obtain ⟨others, more, hcut⟩ : ∃ others more,
          cutFrom selection ⟨next, []⟩ rest = ⟨next, others⟩ :: more :=
        exists_cutFrom_eq ⟨next, []⟩ rest
      rw [hcut] at hrest ⊢
      exact List.isChain_cons_cons.2 ⟨fun heq => hdiffers (beq_iff_eq.2 heq), hrest⟩

/-- Neighbouring runs have different keys. -/
theorem isChain_cut (list : List Record) :
    (cut selection list).IsChain fun a b => selection.order a.first b.first ≠ .eq := by
  cases list with
  | nil => exact List.isChain_nil
  | cons first rest => exact isChain_cutFrom ⟨first, []⟩ rest

/-- A group has the key of the first record of its run: the names of the selection are kept from
being added. -/
theorem key_group (run : Run) :
    selection.key (run.group selection.names).record = selection.key run.first := by
  have hvalues : ∀ selector ∈ selection.selectors,
      (run.group selection.names).record.values selector.name =
        run.first.values selector.name := by
    intro selector hselector
    have hname : selector.name ∈ selection.names :=
      List.mem_eraseDups.2 (List.mem_map_of_mem hselector)
    have hadded : (run.others.flatMap (·.fieldsOutside selection.names)).filter
        (·.name == selector.name) = [] := by
      rw [List.filter_eq_nil_iff]
      intro field hfield heq
      obtain ⟨record, -, hmem⟩ := List.mem_flatMap.1 hfield
      have houtside := (List.mem_filter.1 hmem).2
      rw [eq_of_beq heq, List.contains_iff_mem.2 hname] at houtside
      cases houtside
    rw [Record.values, fields_group, List.filter_append, hadded, List.append_nil, Record.values]
  unfold FieldSelection.key
  refine List.map_congr_left fun selector hselector => ?_
  rw [Selector.value?, hvalues selector hselector, Selector.value?]

/-- What is in a run of sorted records is one of the records. -/
theorem mem_of_mem_cut_sortedBy {run : Run} {record : Record}
    (hrun : run ∈ cut selection (sortedBy selection.order records))
    (hrecord : record ∈ run.records) : record ∈ records := by
  have hmem := List.mem_flatMap.2 ⟨run, hrun, hrecord⟩
  rw [flatMap_records_cut] at hmem
  exact (sortedBy_perm records).mem_iff.1 hmem

/-- The first record of a run of sorted records is one of the records. -/
theorem first_mem_of_mem_cut_sortedBy {run : Run}
    (hrun : run ∈ cut selection (sortedBy selection.order records)) : run.first ∈ records :=
  mem_of_mem_cut_sortedBy hrun List.mem_cons_self

/-- A run of sorted records has keys of one rank, if the values are of one kind. -/
theorem keyRank_eq_of_mem_cut (h : selection.PicksAlike records) {run : Run} {record : Record}
    (hrun : run ∈ cut selection (sortedBy selection.order records))
    (hrecord : record ∈ run.records) : selection.keyRank record = selection.keyRank run.first := by
  rcases List.mem_cons.1 hrecord with rfl | hother
  · rfl
  · have heq := isAlike_of_mem_cut hrun record hother
    have hmem := mem_of_mem_cut_sortedBy hrun hrecord
    have hfirst := first_mem_of_mem_cut_sortedBy hrun
    exact ((FieldSelection.order_eq_eq_iff h hfirst hmem).1 heq).symm

/-- The runs of sorted records start with ranks that ascend strictly, if the values are of one
kind. -/
theorem pairwise_keyRank_cut (h : selection.PicksAlike records) :
    (cut selection (sortedBy selection.order records)).Pairwise fun a b =>
      selection.keyRank a.first < selection.keyRank b.first := by
  have hapart : (cut selection (sortedBy selection.order records)).IsChain fun a b =>
      selection.keyRank a.first ≠ selection.keyRank b.first := by
    refine (isChain_cut _).imp_of_mem_imp fun a b ha hb hdiffers hrank => ?_
    have hiff := FieldSelection.order_eq_eq_iff h (first_mem_of_mem_cut_sortedBy ha)
      (first_mem_of_mem_cut_sortedBy hb)
    exact hdiffers (hiff.2 hrank)
  refine pairwise_first_lt ?_ hapart
  rw [flatMap_records_cut]
  exact FieldSelection.pairwise_keyRank_sortedBy h

/-- A run of sorted records has all records of its rank, in the order from before, if the values are
of one kind. -/
theorem records_eq_filter (h : selection.PicksAlike records) {run : Run}
    (hrun : run ∈ cut selection (sortedBy selection.order records)) :
    run.records = records.filter fun record => selection.order run.first record == .eq := by
  have hfirst := first_mem_of_mem_cut_sortedBy hrun
  have hpicks : ∀ other ∈ cut selection (sortedBy selection.order records),
      ∀ record ∈ other.records, ((selection.order run.first record == .eq) = true ↔
        selection.keyRank record = selection.keyRank run.first) := by
    intro other hother record hrecord
    have hrank :=
      FieldSelection.order_eq_eq_iff h hfirst (mem_of_mem_cut_sortedBy hother hrecord)
    rw [beq_iff_eq, hrank, eq_comm]
  have hone : ∀ other ∈ cut selection (sortedBy selection.order records),
      ∀ record ∈ other.records, selection.keyRank record = selection.keyRank other.first :=
    fun other hother record hrecord => keyRank_eq_of_mem_cut h hother hrecord
  have hfilter := filter_flatMap_records hone (pairwise_keyRank_cut h) hrun hpicks
  rw [flatMap_records_cut, FieldSelection.filter_sortedBy_alike h hfirst] at hfilter
  exact hfilter.symm

/-- A record has the key of exactly one run of the sorted records, if the values are of one kind. -/
theorem existsUnique_order_eq (h : selection.PicksAlike records) {record : Record}
    (hrecord : record ∈ records) :
    ∃! run, run ∈ cut selection (sortedBy selection.order records) ∧
      selection.order run.first record = .eq := by
  have hsorted : record ∈
      (cut selection (sortedBy selection.order records)).flatMap Run.records := by
    rw [flatMap_records_cut]
    exact (sortedBy_perm records).mem_iff.2 hrecord
  obtain ⟨run, hrun, hmem⟩ := List.mem_flatMap.1 hsorted
  have hrank := keyRank_eq_of_mem_cut h hrun hmem
  have heq := FieldSelection.order_eq_eq_iff h (first_mem_of_mem_cut_sortedBy hrun) hrecord
  refine ⟨run, ⟨hrun, heq.2 hrank.symm⟩, ?_⟩
  rintro other ⟨hother, hsame⟩
  -- Both runs start with the rank of the record, and no two runs start with one rank.
  have hrankOther :=
    (FieldSelection.order_eq_eq_iff h (first_mem_of_mem_cut_sortedBy hother) hrecord).1 hsame
  have hdistinct : (cut selection (sortedBy selection.order records)).Pairwise fun a b =>
      selection.keyRank a.first ≠ selection.keyRank b.first :=
    (pairwise_keyRank_cut h).imp fun hlt => hlt.ne
  have hsymm : Std.Symm fun a b : Run =>
      selection.keyRank a.first ≠ selection.keyRank b.first := ⟨fun _ _ => Ne.symm⟩
  by_contra hne
  exact hdistinct.forall hother hrun hne (hrankOther.trans hrank)

end Run

namespace Group

variable {selection : FieldSelection} {records : List Record}

/-- Records by themselves are gathered as the groups of the runs of the sorted records. -/
theorem gather_singles (selection : FieldSelection) (records : List Record) :
    gather selection (records.map single) =
      (Run.cut selection (sortedBy selection.order records)).map
        (Run.group selection.names) := by
  have hsorted : sortByKey Group.record selection (records.map single) =
      (sortedBy selection.order records).map single := by
    rw [FieldSelection.sortByKey_eq, sortedBy_map]
    rfl
  rw [gather, hsorted, collect_singles]

/-- Grouping is a partition of the records, if every selector picks values of one kind from them.
The groups are in ascending order of their keys, no two of which are equal. Each group stands for
all records whose key is equal to its own: it is the earliest of them, followed by the fields of the
others, and its size is their number. Each record has the key of exactly one group. -/
theorem gather_partitions (h : selection.PicksAlike records) :
    let groups := gather selection (records.map single)
    let alike (group : Group) :=
      records.filter fun record => selection.order group.record record == .eq
    (groups.Pairwise fun a b => selection.order a.record b.record = .lt) ∧
      (∀ group ∈ groups, group.size = (alike group).length ∧
        ∃ run : Run, run.records = alike group ∧ group = run.group selection.names) ∧
      ∀ record ∈ records, ∃! group, group ∈ groups ∧ selection.order group.record record = .eq := by
  intro groups alike
  have hgroups : groups = (Run.cut selection (sortedBy selection.order records)).map
      (Run.group selection.names) := gather_singles selection records
  -- Groups are ordered as the first records of their runs.
  have horder : ∀ (run : Run) (record : Record),
      selection.order (run.group selection.names).record record =
        selection.order run.first record := by
    intro run record
    rw [FieldSelection.order, run.key_group, FieldSelection.order]
  have halike : ∀ run ∈ Run.cut selection (sortedBy selection.order records),
      run.records = alike (run.group selection.names) := by
    intro run hrun
    simp only [alike, horder]
    exact Run.records_eq_filter h hrun
  rw [hgroups]
  refine ⟨?_, ?_, ?_⟩
  · rw [List.pairwise_map]
    refine (Run.pairwise_keyRank_cut h).imp_of_mem fun {a b} ha hb hlt => ?_
    rw [horder, FieldSelection.order, b.key_group]
    exact (FieldSelection.order_eq_lt_iff h (Run.first_mem_of_mem_cut_sortedBy ha)
      (Run.first_mem_of_mem_cut_sortedBy hb)).2 hlt
  · intro group hgroup
    obtain ⟨run, hrun, rfl⟩ := List.mem_map.1 hgroup
    refine ⟨?_, run, halike run hrun, rfl⟩
    rw [← halike run hrun]
    rfl
  · intro record hrecord
    obtain ⟨run, ⟨hrun, heq⟩, hunique⟩ := Run.existsUnique_order_eq h hrecord
    rw [← horder] at heq
    refine ⟨run.group selection.names, ⟨List.mem_map_of_mem hrun, heq⟩, ?_⟩
    rintro group ⟨hgroup, hsame⟩
    obtain ⟨other, hother, rfl⟩ := List.mem_map.1 hgroup
    rw [horder] at hsame
    rw [hunique other ⟨hother, hsame⟩]

/-- Parts with numbers as codes, two of which are spellings of one, and a part without a code. -/
def numberedParts : List Record :=
  [⟨[.field ⟨"code", "2.0"⟩, .field ⟨"part", "bolt"⟩], none⟩,
    ⟨[.field ⟨"part", "nut"⟩], none⟩,
    ⟨[.field ⟨"part", "nail"⟩, .field ⟨"code", "1"⟩], none⟩,
    ⟨[.field ⟨"code", "2"⟩, .field ⟨"part", "screw"⟩], none⟩]

/-- The parts form three groups in the order of their codes, the last one of two parts. -/
theorem gather_partitions_numberedParts :
    let groups := gather codeSelection (numberedParts.map single)
    codeSelection.PicksAlike numberedParts ∧ groups.map Group.size = [1, 1, 2] ∧
      (groups.Pairwise fun a b => codeSelection.order a.record b.record = .lt) ∧
      ∀ record ∈ numberedParts, ∃! group,
        group ∈ groups ∧ codeSelection.order group.record record = .eq := by
  intro groups
  have halike : codeSelection.PicksAlike numberedParts := by decide +kernel
  obtain ⟨hascending, -, hunique⟩ := gather_partitions halike
  exact ⟨halike, by decide +kernel, hascending, hunique⟩

end Group

end TextRecords
