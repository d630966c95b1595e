import TextRecords.Proofs.Filter.Targets
import TextRecords.Proofs.Query.Sorted

/-!
# The stages of a query

A query joins records, draws a sample of them, groups them, sorts the groups and shows the records
of the groups. When records are changed in a way that keeps what a stage regards, the stage comes to
the same with the changed records in it: drawing has no regard to records at all
(`Filter.sample_map`), and grouping and sorting regard the values of their selections
(`Query.grouped_map`, `Query.sorted_map`).
-/

namespace TextRecords

variable {change : Record → Record}

/-- What a join comes to, with the merged record changed. -/
def Joined.map (change : Record → Record) : Joined → Joined
  | merged record => merged (change record)
  | noReference => noReference
  | dangling => dangling

namespace Joined

/-- The merged records are the changed ones. -/
theorem filterMap_record?_map (results : List Joined) :
    (results.map (map change)).filterMap record? = (results.filterMap record?).map change := by
  rw [List.filterMap_map, List.map_filterMap]
  refine List.filterMap_congr fun result _ => ?_
  cases result with
  | merged record => rfl
  | noReference => rfl
  | dangling => rfl

/-- References that lead nowhere are no merged records. -/
theorem count_dangling_map (results : List Joined) :
    (results.map (map change)).count dangling = results.count dangling := by
  unfold List.count
  rw [List.countP_map]
  refine List.countP_congr fun result _ => ?_
  cases result with
  | merged record => rfl
  | noReference => rfl
  | dangling => rfl

end Joined

/-- Which references are replaced depends on the field of the join alone. -/
theorem Join.replaceReferences_congr {join other : Join} (h : other.field = join.field)
    (replacement items : List Item) :
    other.replaceReferences replacement items = join.replaceReferences replacement items := by
  induction items generalizing replacement with
  | nil => rfl
  | cons item rest ih =>
    cases item with
    | comment text => exact congrArg (Item.comment text :: ·) (ih replacement)
    | field f =>
      unfold replaceReferences
      rw [ih, ih, h]

/-- A join is by the field that it is prepared for, which is declared as a reference. -/
theorem Join.of_prepare {db : Database} {set : RecordSet} {field : String} {join : Join}
    {showsConfidential : Bool} (h : prepare db set field showsConfidential = .ok join) :
    join.field = field ∧ ∃ type, set.schema.fieldType? field = some (.reference type) := by
  revert h
  fun_cases prepare db set field showsConfidential with
  | case1 => exact nofun
  | case2 => exact nofun
  | case3 type htype =>
    intro h
    rw [← Except.ok.inj h]
    exact ⟨rfl, type, htype⟩
  | case4 => exact nofun

/-- A join by a field that is declared as a reference to a set with a key looks for the keys of the
records of this set. -/
theorem Join.prepare_eq_ok {db : Database} {set target : RecordSet} {field type key : String}
    (htype : set.schema.fieldType? field = some (.reference type))
    (htarget : db.setOfType? type = some target) (hkey : target.schema.key = some key)
    (showsConfidential : Bool) :
    prepare db set field showsConfidential =
      .ok { field, key, targets := target.records
            hides := fun name => !showsConfidential && target.schema.isConfidential name } := by
  simp only [prepare, htype, htarget, hkey]

/-- A record that stands for a number of records, changed. -/
def Group.map (change : Record → Record) (group : Group) : Group :=
  { group with record := change group.record }

variable {selection : FieldSelection}

/-- Groups are in the same order when the values that they are sorted by are kept. -/
theorem sortByKey_map (hkey : ∀ record, selection.key (change record) = selection.key record)
    (groups : List Group) :
    sortByKey Group.record selection (groups.map (Group.map change)) =
      (sortByKey Group.record selection groups).map (Group.map change) := by
  have horder (a b : Group) : selection.order (a.map change).record (b.map change).record =
      selection.order a.record b.record :=
    congrArg₂ compareKeys (hkey a.record) (hkey b.record)
  rw [FieldSelection.sortByKey_eq, FieldSelection.sortByKey_eq, sortedBy_map]
  simp only [horder]

namespace Group

/-- Groups are collected alike when their values are kept and they are changed as they are
merged. -/
theorem collect_map (hkey : ∀ record, selection.key (change record) = selection.key record)
    (hmerge : ∀ names (group other : Group),
      (group.map change).merge names (other.map change) = (group.merge names other).map change)
    (formed : List (List (Option String) × Group)) (groups : List Group) :
    collect selection (formed.map (Prod.map id (map change))) (groups.map (map change)) =
      (collect selection formed groups).map (Prod.map id (map change)) := by
  induction groups generalizing formed with
  | nil => rfl
  | cons next rest ih =>
    have hnext : selection.key (next.map change).record = selection.key next.record :=
      hkey next.record
    cases formed with
    | nil =>
      rw [List.map_cons, List.map_nil, collect, collect, hnext]
      exact ih [(selection.key next.record, next)]
    | cons last earlier =>
      obtain ⟨lastKey, last⟩ := last
      rw [List.map_cons, List.map_cons, collect, collect, hnext]
      dsimp only [Prod.map, id]
      split
      · rw [hmerge]
        exact ih ((lastKey, last.merge selection.names next) :: earlier)
      · exact ih ((selection.key next.record, next) :: (lastKey, last) :: earlier)

/-- Records form the same groups when their values are kept and they are changed as they are
merged. -/
theorem gather_map (hkey : ∀ record, selection.key (change record) = selection.key record)
    (hmerge : ∀ names (group other : Group),
      (group.map change).merge names (other.map change) = (group.merge names other).map change)
    (groups : List Group) :
    gather selection (groups.map (map change)) = (gather selection groups).map (map change) := by
  have hcollect := collect_map hkey hmerge [] (sortByKey Group.record selection groups)
  rw [List.map_nil] at hcollect
  unfold gather
  rw [sortByKey_map hkey, hcollect, List.map_reverse, List.map_map, List.map_map]
  rfl

end Group

namespace Query

variable {query : Query} {schema : Schema} {sampler : Sampler} {db : Database} {set : RecordSet}

/-- The values by which a query sorts: those that it asks for, or those that the schema declares. -/
def order? (query : Query) (schema : Schema) : Option FieldSelection :=
  query.sortBy.or schema.sortSelection?

/-- Whether a query cannot fail to sort records that it makes no groups of: there is no order to
sort them by, or they are sortable by it. -/
def CanSort (query : Query) (schema : Schema) (records : List Record) : Prop :=
  ∀ selection ∈ query.order? schema, Sortable selection.order records

/-- A query sorts by the order that there is. -/
theorem sorted_eq_order (groups : List Group) :
    query.sorted schema groups =
      (query.order? schema).elim groups (sortByKey Group.record · groups) := by
  unfold sorted order?
  cases query.sortBy with
  | some selection => rfl
  | none => cases schema.sortSelection? <;> rfl

/-- Sorting only exchanges groups. -/
theorem sorted_perm (schema : Schema) (groups : List Group) :
    (query.sorted schema groups).Perm groups := by
  rw [sorted_eq_order]
  cases query.order? schema with
  | none => exact List.Perm.refl groups
  | some selection =>
    rw [Option.elim_some, FieldSelection.sortByKey_eq]
    exact sortedBy_perm groups

/-- Sorting leaves changed groups in the order of the others when it keeps the values that the query
sorts by. -/
theorem sorted_map
    (hkey : ∀ selection ∈ query.order? schema, ∀ record,
      selection.key (change record) = selection.key record) (groups : List Group) :
    query.sorted schema (groups.map (Group.map change)) =
      (query.sorted schema groups).map (Group.map change) := by
  rw [sorted_eq_order, sorted_eq_order]
  cases horder : query.order? schema with
  | none => rfl
  | some selection => exact sortByKey_map (hkey selection horder) groups

/-- Changed records form the groups of the others when the values that the query groups by are
kept. -/
theorem grouped_map
    (hkey : ∀ selection ∈ query.groupBy, ∀ record,
      selection.key (change record) = selection.key record)
    (hmerge : ∀ names (group other : Group),
      (group.map change).merge names (other.map change) = (group.merge names other).map change)
    (records : List Record) :
    query.grouped (records.map change) = (query.grouped records).map (Group.map change) := by
  have hsingles : (records.map change).map Group.single =
      (records.map Group.single).map (Group.map change) := by
    rw [List.map_map, List.map_map]
    rfl
  unfold grouped
  rw [hsingles]
  cases hgroup : query.groupBy with
  | none => rfl
  | some selection => exact Group.gather_map (hkey selection hgroup) hmerge _

/-- Records are joined alike where the join is prepared to the same effect. -/
theorem joined_congr {other : Database} (records : List Record)
    (h : ∀ field ∈ query.join,
      (Join.prepare other set field query.password.isSome).map Join.apply =
        (Join.prepare db set field query.password.isSome).map Join.apply) :
    query.joined other set records = query.joined db set records := by
  unfold joined
  cases hjoin : query.join with
  | none => rfl
  | some field =>
    have hfield := h field hjoin
    dsimp only
    generalize Join.prepare other set field query.password.isSome = first at hfield ⊢
    generalize Join.prepare db set field query.password.isSome = second at hfield ⊢
    cases first with
    | error fault =>
      cases second with
      | error _ => rw [Except.error.inj hfield]
      | ok _ => cases hfield
    | ok join =>
      cases second with
      | error _ => cases hfield
      | ok _ =>
        have happly := Except.ok.inj hfield
        dsimp only
        rw [happly]

/-- What a query makes of the records that are left after joining. -/
def found (query : Query) (sampler : Sampler) (set : RecordSet) (joined : List Record × Nat) :
    QueryResult :=
  let groups := query.sorted set.schema (query.grouped (query.filter.sample sampler joined.1))
  { set := { set with
      entries := groups.map fun group => .record (query.shown set.schema group.record) }
    skipped := joined.2
    groupSizes := if query.groupBy.isSome then groups.map Group.size else [] }

/-- A query that makes no groups shows the joined records that are sampled in its order. -/
theorem records_found (hgroup : query.groupBy = none) (joined : List Record × Nat) :
    (query.found sampler set joined).set.records =
      (query.sorted set.schema ((query.filter.sample sampler joined.1).map Group.single)).map
        fun group => query.shown set.schema group.record := by
  have hgroups (records : List Record) : query.grouped records = records.map Group.single := by
    rw [grouped, hgroup]
  rw [found, hgroups, RecordSet.records, List.filterMap_map]
  exact congrFun List.filterMap_eq_map _

/-- A query that makes no groups shows each of the joined records that are sampled. -/
theorem records_found_perm (hgroup : query.groupBy = none) (joined : List Record × Nat) :
    (query.found sampler set joined).set.records.Perm
      ((query.filter.sample sampler joined.1).map (query.shown set.schema)) := by
  have hsingle : (query.filter.sample sampler joined.1).map (query.shown set.schema) =
      ((query.filter.sample sampler joined.1).map Group.single).map
        fun group => query.shown set.schema group.record := by
    rw [List.map_map]
    rfl
  rw [records_found hgroup, hsingle]
  exact (sorted_perm set.schema _).map _

/-- What a query finds in a set is made of joined records. -/
theorem onSet_eq : query.onSet sampler db set =
    if query.descriptorOnly then .ok { set := set.emptied }
    else (query.joined db set ((query.filter.matching set).filterMap set.record?)).map
      (query.found sampler set) := by
  unfold onSet
  split
  · rfl
  · dsimp only
    generalize query.joined db set ((query.filter.matching set).filterMap set.record?) = outcome
    cases outcome with
    | error fault => rfl
    | ok joined => rfl

end Query

/-- A query of a database is one of the set that its filter resolves to. -/
theorem Database.query_eq_onSet {db : Database} {query : Query} {position : Nat} {set : RecordSet}
    (sampler : Sampler) (hresolve : db.resolve query.filter.type = .ok (some position))
    (hset : db.set? position = some set) : db.query sampler query = query.onSet sampler db set := by
  rw [Database.query, hresolve]
  simp only [bind, Except.bind, Option.bind, hset]

/-- A query for the descriptor alone finds the set that its filter resolves to, without records. -/
theorem Database.query_eq_emptied {db : Database} {query : Query} {position : Nat} {set : RecordSet}
    (sampler : Sampler) (hresolve : db.resolve query.filter.type = .ok (some position))
    (hset : db.set? position = some set) (halone : query.descriptorOnly = true) :
    db.query sampler query = .ok { set := set.emptied } := by
  rw [query_eq_onSet sampler hresolve hset, Query.onSet_eq, if_pos halone]

/-- A query for records finds what it makes of those that are left after joining. -/
theorem Database.query_eq_found {db : Database} {query : Query} {position : Nat} {set : RecordSet}
    {joined : List Record × Nat} (sampler : Sampler)
    (hresolve : db.resolve query.filter.type = .ok (some position))
    (hset : db.set? position = some set) (hrecords : query.descriptorOnly = false)
    (hjoined : query.joined db set ((query.filter.matching set).filterMap set.record?) =
      .ok joined) : db.query sampler query = .ok (query.found sampler set joined) := by
  rw [query_eq_onSet sampler hresolve hset, Query.onSet_eq, hrecords, hjoined]
  rfl

end TextRecords
