import TextRecords.Proofs.Lists
import TextRecords.Proofs.Query.Stages
import TextRecords.Proofs.Record.Fields

/-!
# What grouping keeps

Grouping arranges records and cuts them into runs: a record is in the run of the one before it when
its key is equal to that of the first record of the run (`Run.cut`). Every run forms one group, the
first record with the fields of the others outside the names of the selection (`Group.collect_eq`).

So no record and no field is lost or doubled, whatever the keys are and however the records are
arranged and the groups are rearranged afterwards (`grouping_conserves`): the runs are the records
in some order, and the sizes of the groups are the lengths of the runs.
-/

namespace TextRecords

/-- The fields of a record outside some names. -/
def Record.fieldsOutside (names : List String) (record : Record) : List Field :=
  record.fields.filter (!names.contains ·.name)

/-- Neighbouring records: the first of them, and the others. -/
structure Run where
  first : Record
  others : List Record
deriving DecidableEq, Repr

namespace Run

/-- The records of a run. -/
def records (run : Run) : List Record :=
  run.first :: run.others

/-- The group that a run forms: the first record as it is, followed by the fields of the others
outside some names. -/
def group (names : List String) (run : Run) : Group where
  record :=
    { run.first with
      items := run.first.items ++ (run.others.flatMap (·.fieldsOutside names)).map .field }
  size := run.records.length

/-- A run with one record more. -/
def extend (run : Run) (next : Record) : Run :=
  { run with others := run.others ++ [next] }

/-- The runs of records, the first of which may join a run that is open. -/
def cutFrom (selection : FieldSelection) (run : Run) : List Record → List Run
  | [] => [run]
  | next :: rest =>
    if selection.order run.first next == .eq then cutFrom selection (run.extend next) rest
    else run :: cutFrom selection ⟨next, []⟩ rest

/-- The runs of records. -/
def cut (selection : FieldSelection) : List Record → List Run
  | [] => []
  | first :: rest => cutFrom selection ⟨first, []⟩ rest

variable {selection : FieldSelection} (names : List String)

/-- One record more adds its fields to the group of a run. -/
theorem merge_group (run : Run) (next : Record) :
    (run.group names).merge names (Group.single next) = (run.extend next).group names := by
  have hfields : ((run.extend next).others.flatMap (·.fieldsOutside names)).map Item.field =
      (run.others.flatMap (·.fieldsOutside names)).map Item.field ++
        (next.fieldsOutside names).map Item.field := by
    rw [extend, List.flatMap_append, List.flatMap_singleton, List.map_append]
  have hlength : (run.extend next).records.length = run.records.length + 1 := by
    rw [records, records, extend, List.length_cons, List.length_cons, List.length_append,
      List.length_singleton]
  unfold Group.merge group
  rw [hfields, hlength, ← List.append_assoc]
  rfl

/-- Cutting loses no record and keeps their order. -/
theorem flatMap_records_cutFrom (run : Run) (list : List Record) :
    (cutFrom selection run list).flatMap records = run.records ++ list := by
  induction list generalizing run with
  | nil => rw [cutFrom, List.flatMap_singleton, List.append_nil]
  | cons next rest ih =>
    unfold cutFrom
    split
    · rw [ih]
      show run.first :: (run.others ++ [next]) ++ rest = run.first :: run.others ++ next :: rest
      rw [List.cons_append, List.append_assoc, List.singleton_append, List.cons_append]
    · rw [List.flatMap_cons, ih]
      rfl

/-- The runs are the records in their order. -/
theorem flatMap_records_cut (list : List Record) : (cut selection list).flatMap records = list := by
  cases list with
  | nil => rfl
  | cons first rest => exact flatMap_records_cutFrom ⟨first, []⟩ rest

/-- The other records of a run have the key of the first one. -/
def IsAlike (selection : FieldSelection) (run : Run) : Prop :=
  ∀ other ∈ run.others, selection.order run.first other = .eq

/-- A record by itself has its own key. -/
theorem isAlike_single (first : Record) : IsAlike selection ⟨first, []⟩ :=
  fun _ hmem => absurd hmem List.not_mem_nil

/-- Cutting puts a record into a run for its key alone. -/
theorem isAlike_of_mem_cutFrom {run : Run} (h : run.IsAlike selection) {list : List Record}
    {other : Run} (hother : other ∈ cutFrom selection run list) : other.IsAlike selection := by
  induction list generalizing run with
  | nil =>
    obtain rfl := List.mem_singleton.1 hother
    exact h
  | cons next rest ih =>
    unfold cutFrom at hother
    split at hother
    · next heq =>
      refine ih (fun record hrecord => ?_) hother
      rcases List.mem_append.1 hrecord with hmem | hmem
      · exact h record hmem
      · obtain rfl := List.mem_singleton.1 hmem
        exact eq_of_beq heq
    · rcases List.mem_cons.1 hother with rfl | hmem
      · exact h
      · exact ih (isAlike_single next) hmem

/-- In every run the records have the key of the first one. -/
theorem isAlike_of_mem_cut {list : List Record} {run : Run} (hrun : run ∈ cut selection list) :
    run.IsAlike selection := by
  cases list with
  | nil => cases hrun
  | cons first rest => exact isAlike_of_mem_cutFrom (isAlike_single first) hrun

/-- The fields of the group of a run are those of the first record and those that are added. -/
theorem fields_group (run : Run) :
    (run.group names).record.fields =
      run.first.fields ++ run.others.flatMap (·.fieldsOutside names) := by
  show (run.first.items ++ _).filterMap Item.field? = _
  rw [List.filterMap_append, Item.filterMap_field?_map]
  rfl

/-- The fields outside some names in the group of a run are those of its records. -/
theorem fieldsOutside_group (run : Run) :
    (run.group names).record.fieldsOutside names = run.records.flatMap (·.fieldsOutside names) := by
  have houtside : (run.others.flatMap (·.fieldsOutside names)).filter
      (!names.contains ·.name) = run.others.flatMap (·.fieldsOutside names) := by
    rw [List.filter_eq_self]
    intro field hfield
    obtain ⟨record, -, hmem⟩ := List.mem_flatMap.1 hfield
    exact (List.mem_filter.1 hmem).2
  calc (run.group names).record.fieldsOutside names
      = run.first.fieldsOutside names ++ run.others.flatMap (·.fieldsOutside names) := by
        rw [Record.fieldsOutside, fields_group, List.filter_append, houtside]
        rfl
    _ = run.records.flatMap (·.fieldsOutside names) := by rw [records, List.flatMap_cons]

end Run

/-- Grouping collects runs. -/
theorem Group.collect_eq (selection : FieldSelection) (run : Run)
    (formed : List (List (Option String) × Group)) (list : List Record) :
    collect selection ((selection.key run.first, run.group selection.names) :: formed)
        (list.map single) =
      ((Run.cutFrom selection run list).map fun run =>
        (selection.key run.first, run.group selection.names)).reverse ++ formed := by
  induction list generalizing run formed with
  | nil => rfl
  | cons next rest ih =>
    rw [List.map_cons, collect, Run.cutFrom, Run.merge_group]
    show (if selection.order run.first next == .eq then _ else _) = _
    split
    · exact ih (run.extend next) formed
    · have hsingle : single next = Run.group selection.names ⟨next, []⟩ := by
        show Group.mk next 1 = Group.mk ⟨next.items ++ [], next.location⟩ 1
        rw [List.append_nil]
      have hrest := ih ⟨next, []⟩ ((selection.key run.first, run.group selection.names) :: formed)
      rw [← hsingle] at hrest
      rw [List.map_cons, List.reverse_cons, List.append_assoc, List.singleton_append]
      exact hrest

/-- Records by themselves are collected as the groups of their runs. -/
theorem Group.collect_singles (selection : FieldSelection) (list : List Record) :
    ((collect selection [] (list.map single)).map Prod.snd).reverse =
      (Run.cut selection list).map (Run.group selection.names) := by
  cases list with
  | nil => rfl
  | cons first rest =>
    have hsingle : single first = Run.group selection.names ⟨first, []⟩ := by
      show Group.mk first 1 = Group.mk ⟨first.items ++ [], first.location⟩ 1
      rw [List.append_nil]
    have hcollect := collect_eq selection ⟨first, []⟩ [] rest
    rw [← hsingle] at hcollect
    have hopened : collect selection [] ((first :: rest).map single) =
        collect selection [(selection.key first, single first)] (rest.map single) := rfl
    rw [hopened, hcollect, List.append_nil, List.map_reverse, List.reverse_reverse, List.map_map]
    rfl

/-- Groups as they are gathered, with any arrangement of the records in the place of their order. -/
def Group.gatherAs (arrange : List Group → List Group) (selection : FieldSelection)
    (groups : List Group) : List Group :=
  ((collect selection [] (arrange groups)).map Prod.snd).reverse

/-- How the groups that stand for records keep them: they are the groups of runs of the records. -/
structure Run.Conserve (selection : FieldSelection) (records : List Record) (runs : List Run)
    (groups : List Group) : Prop where
  /-- The runs are the records, in some order. -/
  rearranged : (runs.flatMap Run.records).Perm records
  alike : ∀ run ∈ runs, run.IsAlike selection
  /-- Every group is the first record of its run, followed by the fields of the others. -/
  formed : groups = runs.map (Run.group selection.names)
  sizes : groups.map Group.size = runs.map (·.records.length)
  counted : (groups.map Group.size).sum = records.length
  /-- A field outside the names stands in the groups as often as in the records. -/
  fields : (groups.flatMap (·.record.fieldsOutside selection.names)).Perm
    (records.flatMap (·.fieldsOutside selection.names))

variable {selection : FieldSelection} {records : List Record} {runs : List Run}

/-- The groups of runs keep their records. -/
theorem Run.conserve_of_perm (h : (runs.flatMap Run.records).Perm records)
    (halike : ∀ run ∈ runs, run.IsAlike selection) :
    Conserve selection records runs (runs.map (Run.group selection.names)) where
  rearranged := h
  alike := halike
  formed := rfl
  sizes := by
    rw [List.map_map]
    rfl
  counted := by
    calc ((runs.map (Run.group selection.names)).map Group.size).sum
        = (runs.map fun run => run.records.length).sum := by
          rw [List.map_map]
          rfl
      _ = (runs.flatMap Run.records).length := List.length_flatMap.symm
      _ = records.length := h.length_eq
  fields := by
    have hgroups : (runs.map (Run.group selection.names)).flatMap
        (·.record.fieldsOutside selection.names) =
          (runs.flatMap Run.records).flatMap (·.fieldsOutside selection.names) := by
      rw [List.flatMap_map, List.flatMap_assoc]
      exact List.flatMap_congr fun run _ => fieldsOutside_group selection.names run
    rw [hgroups]
    exact h.flatMap_right _

/-- Groups that are gathered from records in any arrangement, and rearranged themselves, keep the
records. -/
theorem Group.conserve_of_perm_gatherAs {arrange : List Group → List Group}
    (harrange : ∀ groups, (arrange groups).Perm groups) {groups : List Group}
    (hgroups : groups.Perm (gatherAs arrange selection (records.map single))) :
    ∃ runs, Run.Conserve selection records runs groups := by
  -- The arrangement of the records by themselves is that of the records.
  obtain ⟨arranged, hperm, hmap⟩ := exists_map_of_perm (harrange (records.map single))
  have hgather : gatherAs arrange selection (records.map single) =
      (Run.cut selection arranged).map (Run.group selection.names) := by
    rw [gatherAs, hmap, collect_singles]
  rw [hgather] at hgroups
  obtain ⟨runs, hruns, rfl⟩ := exists_map_of_perm hgroups
  have halike : ∀ run ∈ runs, run.IsAlike selection :=
    fun run hrun => Run.isAlike_of_mem_cut (hruns.mem_iff.1 hrun)
  refine ⟨runs, Run.conserve_of_perm ?_ halike⟩
  calc
    List.Perm (runs.flatMap Run.records) ((Run.cut selection arranged).flatMap Run.records) :=
      hruns.flatMap_right Run.records
    _ = arranged := Run.flatMap_records_cut arranged
    List.Perm _ records := hperm

/-- Records are gathered in the order of their keys. -/
theorem Group.gather_eq_gatherAs (groups : List Group) :
    gather selection groups =
      gatherAs (sortByKey Group.record selection) selection groups := rfl

namespace Query

variable {query : Query} {db : Database} {sampler : Sampler} {set : RecordSet}
  {result : QueryResult}

/-- The groups of a query keep the records that they are made of, also when they are sorted. -/
theorem exists_conserve_sorted (hgroup : query.groupBy = some selection) (schema : Schema)
    (records : List Record) :
    ∃ runs, Run.Conserve selection records runs
      (query.sorted schema (query.grouped records)) := by
  have harrange : ∀ groups, (sortByKey Group.record selection groups).Perm groups := by
    intro groups
    rw [FieldSelection.sortByKey_eq]
    exact sortedBy_perm groups
  have hgrouped : query.grouped records =
      Group.gatherAs (sortByKey Group.record selection) selection (records.map Group.single) := by
    rw [← Group.gather_eq_gatherAs, grouped, hgroup]
  have hperm : (query.sorted schema (query.grouped records)).Perm (query.grouped records) :=
    sorted_perm schema (query.grouped records)
  rw [hgrouped] at hperm ⊢
  exact Group.conserve_of_perm_gatherAs harrange hperm

/-- What a grouping query finds in a set are groups that keep the records that are left after
joining and drawing, and it gives the lengths of their runs. -/
theorem onSet_conserves (hgroup : query.groupBy = some selection)
    (h : query.onSet sampler db set = .ok result) :
    (query.descriptorOnly = true ∧ result.set.entries = [] ∧ result.groupSizes = []) ∨
      ∃ joined skipped runs groups,
        query.joined db set ((query.filter.matching set).filterMap set.record?) =
          .ok (joined, skipped) ∧
        Run.Conserve selection (query.filter.sample sampler joined) runs groups ∧
        result.set.entries =
          groups.map (fun group => .record (query.shown set.schema group.record)) ∧
        result.groupSizes = runs.map (·.records.length) := by
  rw [onSet_eq] at h
  by_cases hdescriptor : query.descriptorOnly = true
  · rw [if_pos hdescriptor] at h
    obtain rfl := Except.ok.inj h
    exact .inl ⟨hdescriptor, rfl, rfl⟩
  · rw [if_neg hdescriptor] at h
    obtain ⟨⟨joined, skipped⟩, hjoined, rfl⟩ := map_eq_ok_iff.1 h
    obtain ⟨runs, hconserve⟩ :=
      exists_conserve_sorted hgroup set.schema (query.filter.sample sampler joined)
    refine .inr ⟨joined, skipped, runs, _, hjoined, hconserve, rfl, ?_⟩
    rw [← hconserve.sizes, found, hgroup]
    rfl

end Query

/-- Grouping loses no record and no field, and doubles none, whatever the keys of the records are.
However the records are arranged to be grouped, and the groups rearranged afterwards, the groups are
those of runs that are the records in some order. The results of a query that groups are such
groups, as shown, of the records that are left after joining and drawing, and the sizes that it
gives are the lengths of the runs. -/
theorem grouping_conserves (selection : FieldSelection) :
    (∀ arrange : List Group → List Group, (∀ groups, (arrange groups).Perm groups) →
      ∀ (records : List Record) (groups : List Group),
        groups.Perm (Group.gatherAs arrange selection (records.map Group.single)) →
        ∃ runs, Run.Conserve selection records runs groups) ∧
      ∀ (db : Database) (sampler : Sampler) (query : Query) (result : QueryResult),
        query.groupBy = some selection → db.query sampler query = .ok result →
        (result.set.entries = [] ∧ result.groupSizes = [] ∧
            (query.descriptorOnly = true ∨ db.sets = [])) ∨
          ∃ position set joined skipped runs groups,
            db.resolve query.filter.type = .ok (some position) ∧ db.set? position = some set ∧
            query.joined db set ((query.filter.matching set).filterMap set.record?) =
              .ok (joined, skipped) ∧
            Run.Conserve selection (query.filter.sample sampler joined) runs groups ∧
            result.set.entries =
              groups.map (fun group => .record (query.shown set.schema group.record)) ∧
            result.groupSizes = runs.map (·.records.length) := by
  refine ⟨fun arrange harrange records groups hgroups =>
    Group.conserve_of_perm_gatherAs harrange hgroups, ?_⟩
  intro db sampler query result hgroup h
  obtain ⟨target, hresolve, hfound⟩ := bind_eq_ok_iff.1 h
  cases target with
  | none =>
    obtain rfl := Except.ok.inj hfound
    exact .inl ⟨rfl, rfl, .inr (Database.sets_eq_nil_of_resolve hresolve)⟩
  | some position =>
    obtain ⟨set, hset⟩ := Database.exists_set_of_resolve hresolve
    rw [Option.bind_some, hset] at hfound
    rcases Query.onSet_conserves hgroup hfound with ⟨hdescriptor, hentries, hsizes⟩ |
      ⟨joined, skipped, runs, groups, hjoined, hconserve, hentries, hsizes⟩
    · exact .inl ⟨hentries, hsizes, .inl hdescriptor⟩
    · exact .inr ⟨position, set, joined, skipped, runs, groups, hresolve, hset, hjoined, hconserve,
        hentries, hsizes⟩

/-- The selection of the code of a part. -/
def codeSelection : FieldSelection :=
  ⟨"code", [⟨"code", .all, none, false⟩]⟩

/-- Parts whose codes are two spellings of a number and a text between them, with another field and
a comment. -/
def partsSpecimen : Database where
  sets := [{ entries :=
    [.record ⟨[.field ⟨"code", "1.0"⟩, .comment "old", .field ⟨"part", "bolt"⟩], none⟩,
      .record ⟨[.field ⟨"code", "1-beta"⟩, .field ⟨"part", "nut"⟩], none⟩,
      .record ⟨[.field ⟨"part", "nail"⟩, .field ⟨"code", "1"⟩, .comment "new"], none⟩] }]

/-- In reverse order the parts form three groups. A query forms two of them: the part with the other
spelling of the number is merged into the first one, without its code and its comment. -/
theorem grouping_conserves_partsSpecimen :
    let records := partsSpecimen.sets.flatMap RecordSet.records
    let reversed := Group.gatherAs List.reverse codeSelection (records.map Group.single)
    let query : Query := { groupBy := some codeSelection }
    (∀ groups : List Group, groups.reverse.Perm groups) ∧ reversed.map Group.size = [1, 1, 1] ∧
      (∃ runs, Run.Conserve codeSelection records runs reversed.reverse) ∧
      ∃ result, partsSpecimen.query .first query = .ok result ∧ result.groupSizes = [1, 2] ∧
        ∃ runs groups, Run.Conserve codeSelection records runs groups ∧
          result.set.entries = groups.map (fun group => .record (query.shown {} group.record)) ∧
          result.set.records.map Record.fields =
            [[⟨"code", "1-beta"⟩, ⟨"part", "nut"⟩],
              [⟨"code", "1.0"⟩, ⟨"part", "bolt"⟩, ⟨"part", "nail"⟩]] := by
  intro records reversed query
  have harrange : ∀ groups : List Group, groups.reverse.Perm groups := List.reverse_perm
  obtain ⟨hany, hquery⟩ := grouping_conserves codeSelection
  obtain ⟨result, hresult⟩ : ∃ result, partsSpecimen.query .first query = .ok result := ⟨_, rfl⟩
  refine ⟨harrange, by decide +kernel,
    hany List.reverse harrange records _ (List.reverse_perm reversed), result, hresult, ?_⟩
  rcases hquery partsSpecimen .first query result rfl hresult with ⟨-, -, hdescriptor | hsets⟩ |
    ⟨position, set, joined, skipped, runs, groups, hresolve, hset, hjoined, hconserve, hentries, -⟩
  · cases hdescriptor
  · cases hsets
  · obtain rfl : 0 = position := Option.some.inj (Except.ok.inj hresolve)
    obtain rfl : _ = set := Option.some.inj hset
    obtain rfl : _ = joined := congrArg Prod.fst (Except.ok.inj hjoined)
    obtain rfl : _ = result := Except.ok.inj hresult
    exact ⟨by decide +kernel, runs, groups, hconserve, hentries, by decide +kernel⟩

end TextRecords
