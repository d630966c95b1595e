import TextRecords.Database.Target

/-!
# Insertion of records

A record is inserted before the first record that a filter selects, or at the end of the set.
Instead it may replace every selected record. A new record gets the fields that its set declares as
automatic, in front of its own.
-/

namespace TextRecords

/-- A record to insert. -/
structure Insertion where
  filter : Filter := {}
  record : Record
  /-- Whether the record replaces the selected ones, if the filter selects among them. -/
  replaces : Bool := false

/-- The times that are told one after another, for one automatic field of a record each. -/
structure Clock where
  /-- The time that is told for the field with a number. -/
  time : Nat → String

/-- A time stands for the clock that always tells it. -/
instance : Coe String Clock := ⟨fun time => ⟨fun _ => time⟩⟩

/-- Where the values of automatic fields come from, other than the records of the set. -/
structure Generator where
  /-- A fresh identifier for each of the automatic fields of a record. -/
  uuid : Nat → String
  /-- The time of each of the automatic fields of a record. -/
  now : Clock

/-- What keeps a record from being inserted anywhere: it has no fields, or one with a name that is
none or that belongs to a descriptor. -/
def Record.insertionFault? (record : Record) : Option ArgumentFault :=
  if record.fields.isEmpty then some .recordWithoutFields
  else
    (record.fields.find? fun field => !field.isNamed || field.isMeta).map fun field =>
      .invalidFieldName field.name

namespace RecordSet

/-- The integer after the greatest one that is a value of a name, or zero. The greatest integer of
64 bits is followed by the least one. -/
def nextInteger (set : RecordSet) (name : String) : Int :=
  match ((set.records.flatMap (·.values name)).filterMap
      fun value => Number.integer? value.toList).max? with
  | some greatest => Number.wrapped (greatest + 1)
  | none => 0

/-- The value of an automatic field, if its type has one. -/
def generated? (set : RecordSet) (generator : Generator) (schema : Schema) (name : String)
    (number : Nat) : Option Field :=
  match schema.fieldType? name with
  | some .uuid => some ⟨name, generator.uuid number⟩
  | some .date => some ⟨name, generator.now.time number⟩
  | some type => if type.isInteger then some ⟨name, toString (set.nextInteger name)⟩ else none
  | none => none

/-- The automatic fields that a record lacks. -/
def generatedFields (set : RecordSet) (generator : Generator) (record : Record) : List Field :=
  let schema := set.schema
  (schema.auto.filter (!record.has ·)).zipIdx.filterMap fun (name, number) =>
    set.generated? generator schema name number

/-- Replacing every selected record of a set. -/
def replaceSelected (set : RecordSet) (record : Record) (positions : List Nat) :
    Except Fault Report × RecordSet :=
  let batch := positions.foldl (fun batch position => (batch.replace position record).1)
    (Batch.start set)
  (.ok batch.finish, batch.set)

/-- Inserting a record with its automatic fields before a position, or at the end without one. -/
def insertGenerated (set : RecordSet) (generator : Generator) (record : Record)
    (position : Option Nat) : Except Fault Report × RecordSet :=
  let generated := (set.generatedFields generator record).map Item.field
  let (result, batch) :=
    (Batch.start set).insert position { record with items := generated ++ record.items }
  match result with
  | .ok () => (.ok batch.finish, batch.set)
  | .error objection => (.error (.rejected objection), batch.set)

end RecordSet

namespace Insertion

/-- The insertion into a set. -/
def intoSet (insertion : Insertion) (sampler : Sampler) (generator : Generator)
    (set : RecordSet) : Except Fault Report × RecordSet :=
  if insertion.filter.isUnrestricted then
    set.insertGenerated generator insertion.record none
  else
    let positions := insertion.filter.targets sampler set
    if insertion.replaces then set.replaceSelected insertion.record positions
    else set.insertGenerated generator insertion.record positions.head?

end Insertion

namespace Database

/-- A database with an untyped set, if it has no set and none of a type is asked for. -/
def withUntypedSet (db : Database) (filter : Filter) : Database :=
  if db.sets.isEmpty && filter.type.isNone then (db.insertSet {} 0).database else db

/-- Inserting a record. -/
def insert (db : Database) (sampler : Sampler) (generator : Generator) (insertion : Insertion) :
    Outcome Report :=
  match insertion.record.insertionFault? with
  | some fault => ⟨.error (.argument fault), db⟩
  | none =>
    (db.withUntypedSet insertion.filter).updateTarget insertion.filter
      (insertion.intoSet sampler generator)

end Database

end TextRecords
