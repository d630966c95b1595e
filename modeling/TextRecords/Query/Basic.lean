import TextRecords.FieldSelection.Text
import TextRecords.Filter
import TextRecords.Query.Group
import TextRecords.Query.Join

/-!
# Queries

A query picks records of one set and makes a new set of them. The records are filtered, joined,
sampled, grouped, sorted, stripped of confidential fields and projected, in this order.
-/

namespace TextRecords

/-- What a query asks for. -/
structure Query where
  filter : Filter := {}
  /-- The field whose references are followed. -/
  join : Option String := none
  /-- The fields to show of every result. -/
  fields : Option FieldSelection := none
  /-- Confidential fields are shown with a password only. -/
  password : Option String := none
  groupBy : Option FieldSelection := none
  /-- The order of the results; without one, that of the descriptor. -/
  sortBy : Option FieldSelection := none
  descriptorOnly : Bool := false

/-- What a query finds. -/
structure QueryResult where
  /-- The results under the descriptor of the queried set. -/
  set : RecordSet := {}
  /-- How many records were dropped because no record has their reference as its key. -/
  skipped : Nat := 0
  /-- How many records each result stands for, when they are grouped. -/
  groupSizes : List Nat := []
deriving DecidableEq, Repr

/-- The field selection that the sort declaration of a schema stands for, if it makes one. -/
def Schema.sortSelection? (schema : Schema) : Option FieldSelection :=
  (FieldSelection.ofText (",".intercalate schema.sort)).toOption

/-- A record without the fields of confidential names. -/
def Record.redacted (record : Record) (isConfidential : String → Bool) : Record :=
  { record with
    items := record.items.filter fun item => !item.field?.any (isConfidential ·.name) }

namespace Query

/-- Records joined by the references in a field, and the number of references that lead nowhere. -/
def joined (query : Query) (db : Database) (set : RecordSet) (records : List Record) :
    Except Fault (List Record × Nat) :=
  match query.join with
  | none => .ok (records, 0)
  | some field =>
    match Join.prepare db set field query.password.isSome with
    | .error fault => .error fault
    | .ok join =>
      let results := records.map join.apply
      .ok (results.filterMap Joined.record?, results.count .dangling)

/-- Records as groups, each of its own unless the query groups them. -/
def grouped (query : Query) (records : List Record) : List Group :=
  let singles := records.map Group.single
  match query.groupBy with
  | some selection => Group.gather selection singles
  | none => singles

/-- Groups in the order that the query asks for, or in that of the descriptor. -/
def sorted (query : Query) (schema : Schema) (groups : List Group) : List Group :=
  match query.sortBy with
  | some selection => sortByKey Group.record selection groups
  | none =>
    match schema.sortSelection? with
    | some selection => sortByKey Group.record selection groups
    | none => groups

/-- A record as it is shown: without confidential fields when there is no password, and with the
fields that the query asks for. -/
def shown (query : Query) (schema : Schema) (record : Record) : Record :=
  let record := if query.password.isNone then record.redacted schema.isConfidential else record
  match query.fields with
  | some selection => selection.project record
  | none => record

/-- What a query finds in one set of a database. -/
def onSet (query : Query) (sampler : Sampler) (db : Database) (set : RecordSet) :
    Except Fault QueryResult := do
  if query.descriptorOnly then return { set := set.emptied }
  let schema := set.schema
  let matched := (query.filter.matching set).filterMap set.record?
  let (records, skipped) ← query.joined db set matched
  let groups := query.sorted schema (query.grouped (query.filter.sample sampler records))
  let results := groups.map fun group => Entry.record (query.shown schema group.record)
  return {
    set := { set with entries := results }
    skipped
    groupSizes := if query.groupBy.isSome then groups.map Group.size else [] }

end Query

/-- What a query finds in a database. -/
def Database.query (db : Database) (sampler : Sampler) (query : Query) :
    Except Fault QueryResult := do
  let position ← db.resolve query.filter.type
  match position.bind db.set? with
  | none => return {}
  | some set => query.onSet sampler db set

end TextRecords
