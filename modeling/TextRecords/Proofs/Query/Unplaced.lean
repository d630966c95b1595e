import TextRecords.Proofs.Document.Assembled
import TextRecords.Proofs.Query.Stages
import TextRecords.Proofs.Selection.Leaves

/-!
# Queries and the places of records

The place at which a record was read is shown with it, but a query never regards it: a query on a
database without places finds what it finds with them, without them (`Database.query_unplaced`).
-/

namespace TextRecords

/-- What a query finds, without the places of the records. -/
def QueryResult.unplaced (result : QueryResult) : QueryResult :=
  { result with set := result.set.unplaced }

/-- The value of an expression has no regard to the place of the record. -/
theorem Selection.Expr.value_unplaced (caseless : Bool) (record : Record) (expr : Expr) :
    expr.value caseless record.unplaced = expr.value caseless record :=
  expr.value_congr caseless fun _ _ => rfl

/-- A filter admits records without regard to their places. -/
theorem Filter.admits_unplaced (filter : Filter) (record : Record) :
    filter.admits record.unplaced = filter.admits record := by
  have hpicks (selection : Selection) : selection.picks filter.caseless record.unplaced =
      selection.picks filter.caseless record :=
    congrArg Selection.Value.holds (selection.root.value_unplaced filter.caseless record)
  unfold admits
  simp only [hpicks]
  rfl

section Sets

variable {set : RecordSet}

/-- A descriptor declares the same wherever it stands. -/
theorem RecordSet.schema_unplaced : set.unplaced.schema = set.schema := by
  obtain ⟨descriptor, entries⟩ := set
  cases descriptor <;> rfl

/-- A filter admits the same positions of a set without places. -/
theorem Filter.matching_unplaced (filter : Filter) :
    filter.matching set.unplaced = filter.matching set := by
  apply matching_congr
  rw [RecordSet.records_unplaced, List.map_map]
  exact List.map_congr_left fun record _ => filter.admits_unplaced record

/-- The record at a position of a set without places has none. -/
theorem RecordSet.record?_unplaced (position : Nat) :
    set.unplaced.record? position = (set.record? position).map Record.unplaced := by
  rw [record?, records_unplaced, List.getElem?_map, record?]

end Sets

namespace Join

/-- A join into records without places. -/
def unplaced (join : Join) : Join :=
  { join with targets := join.targets.map Record.unplaced }

/-- Joined records without places are those that are joined without them. -/
theorem apply_unplaced (join : Join) (record : Record) :
    join.unplaced.apply record.unplaced = (join.apply record).map Record.unplaced := by
  have htarget (value : String) :
      join.unplaced.target? value = (join.target? value).map Record.unplaced := by
    unfold target? unplaced
    dsimp only
    rw [List.find?_map]
    rfl
  unfold apply
  have hfirst : record.unplaced.first? join.unplaced.field = record.first? join.field := rfl
  rw [hfirst]
  cases record.first? join.field with
  | none => rfl
  | some reference =>
    dsimp only
    rw [htarget]
    cases join.target? reference with
    | none => rfl
    | some target =>
      have hitems := @replaceReferences_congr join join.unplaced rfl (join.contribution target)
        record.items
      exact congrArg (fun items => Joined.merged ⟨items, none⟩) hitems

/-- A join is prepared alike without places. -/
theorem prepare_unplaced (db : Database) (set : RecordSet) (field : String)
    (showsConfidential : Bool) :
    prepare db.unplaced set.unplaced field showsConfidential =
      (prepare db set field showsConfidential).map unplaced := by
  unfold prepare
  rw [RecordSet.schema_unplaced]
  split
  · rw [Database.setOfType?_unplaced]
    cases db.setOfType? _ with
    | none => rfl
    | some target =>
      dsimp only [Option.map_some]
      rw [RecordSet.schema_unplaced, RecordSet.records_unplaced]
      cases target.schema.key <;> rfl
  · rfl

end Join

namespace Query

variable {query : Query} {sampler : Sampler} {db : Database} {set : RecordSet}

/-- Records are joined alike without places. -/
theorem joined_unplaced (records : List Record) :
    query.joined db.unplaced set.unplaced (records.map Record.unplaced) =
      (query.joined db set records).map (Prod.map (List.map Record.unplaced) id) := by
  unfold joined
  cases query.join with
  | none => rfl
  | some field =>
    dsimp only
    rw [Join.prepare_unplaced]
    cases Join.prepare db set field query.password.isSome with
    | error fault => rfl
    | ok join =>
      have hresults : (records.map Record.unplaced).map join.unplaced.apply =
          (records.map join.apply).map (Joined.map Record.unplaced) := by
        rw [List.map_map, List.map_map]
        exact List.map_congr_left fun record _ => join.apply_unplaced record
      dsimp only [Except.map, Prod.map, id]
      rw [hresults, Joined.filterMap_record?_map, Joined.count_dangling_map]

/-- A record is shown alike without its place. -/
theorem shown_unplaced (schema : Schema) (record : Record) :
    query.shown schema record.unplaced = (query.shown schema record).unplaced := by
  unfold shown
  cases query.password with
  | none => cases query.fields <;> rfl
  | some password => cases query.fields <;> rfl

/-- What a query makes of joined records without places. -/
theorem found_unplaced (joined : List Record × Nat) :
    query.found sampler set.unplaced (joined.map (List.map Record.unplaced) id) =
      (query.found sampler set joined).unplaced := by
  have hkey (selection : FieldSelection) (record : Record) :
      selection.key record.unplaced = selection.key record := rfl
  have hmerge (names : List String) (group other : Group) :
      (group.map Record.unplaced).merge names (other.map Record.unplaced) =
        (group.merge names other).map Record.unplaced := rfl
  unfold found
  dsimp only [Prod.map]
  rw [Filter.sample_map, grouped_map (fun selection _ => hkey selection) hmerge,
    RecordSet.schema_unplaced, sorted_map (fun selection _ => hkey selection), List.map_map,
    List.map_map]
  simp only [Function.comp_def, Group.map, shown_unplaced]
  unfold QueryResult.unplaced RecordSet.unplaced
  simp only [List.map_map]
  rfl

/-- What a query finds in a set without places. -/
theorem onSet_unplaced :
    query.onSet sampler db.unplaced set.unplaced =
      (query.onSet sampler db set).map QueryResult.unplaced := by
  have hmatched :
      (query.filter.matching set).filterMap set.unplaced.record? =
        ((query.filter.matching set).filterMap set.record?).map Record.unplaced := by
    rw [List.map_filterMap]
    exact List.filterMap_congr fun position _ => RecordSet.record?_unplaced position
  rw [onSet_eq, onSet_eq, Filter.matching_unplaced, hmatched, joined_unplaced]
  split
  · rfl
  · generalize query.joined db set _ = outcome
    cases outcome with
    | error fault => rfl
    | ok joined => exact congrArg Except.ok (found_unplaced joined)

end Query

namespace Database

variable {db : Database}

/-- A type resolves to the same position without places. -/
theorem resolve_unplaced (type : Option String) : db.unplaced.resolve type = db.resolve type := by
  cases type with
  | some name =>
    unfold resolve
    dsimp only
    rw [typePosition?_unplaced]
  | none =>
    unfold resolve unplaced
    simp only [List.isEmpty_map, List.findIdx?_map, Function.comp_def, RecordSet.typeName_unplaced]

/-- A set of a database without places has none. -/
theorem set?_unplaced (position : Nat) :
    db.unplaced.set? position = (db.set? position).map RecordSet.unplaced :=
  List.getElem?_map

/-- A query has no regard to the places of records. -/
theorem query_unplaced (sampler : Sampler) (query : Query) :
    db.unplaced.query sampler query = (db.query sampler query).map QueryResult.unplaced := by
  unfold Database.query
  rw [resolve_unplaced]
  cases db.resolve query.filter.type with
  | error fault => rfl
  | ok position =>
    cases position with
    | none => rfl
    | some position =>
      simp only [Except.bind, bind, Option.bind_some, set?_unplaced]
      cases db.set? position with
      | none => rfl
      | some set => exact Query.onSet_unplaced

end Database

end TextRecords
