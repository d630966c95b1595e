import TextRecords.Database.Basic

/-!
# Joins

A join follows the reference in a field to the record of another set that has it as its key. The
reference is replaced by the fields of that record, whose names are put after the name of the field.
-/

namespace TextRecords

/-- What following a reference leads to. -/
inductive Joined where
  | merged (record : Record)
  /-- The record has no reference. -/
  | noReference
  /-- No record has the reference as its key. -/
  | dangling
deriving DecidableEq, Repr

/-- A join by the references in one field. -/
structure Join where
  field : String
  /-- The records of the referenced set. -/
  targets : List Record
  key : String
  /-- Whether a field of a referenced record is left out. -/
  hides : String → Bool

namespace Join

/-- The join by a field of a set, if the field is declared as a reference to a set with a key.
Confidential fields of the referenced records are left out unless they are wanted. -/
def prepare (db : Database) (set : RecordSet) (field : String) (showsConfidential : Bool) :
    Except Fault Join :=
  match set.schema.fieldType? field with
  | some (.reference type) =>
    match db.setOfType? type with
    | none => .error (.unknownType type)
    | some target =>
      let schema := target.schema
      match schema.key with
      | none => .error (.argument (.targetWithoutKey type))
      | some key =>
        .ok { field, key
              targets := target.records
              hides := fun name => !showsConfidential && schema.isConfidential name }
  | _ => .error (.argument (.notReference field))

/-- The record that has a value as its key. The first one counts. -/
def target? (join : Join) (value : String) : Option Record :=
  join.targets.find? (·.first? join.key == some value)

/-- The fields that a referenced record contributes. -/
def contribution (join : Join) (target : Record) : List Item :=
  (target.fields.filter (!join.hides ·.name)).map fun field =>
    .field ⟨join.field ++ "_" ++ field.name, field.value⟩

/-- Items with the first reference among them replaced and the further ones dropped. -/
def replaceReferences (join : Join) (replacement : List Item) : List Item → List Item
  | [] => []
  | .field field :: rest =>
    if field.name == join.field then replacement ++ replaceReferences join [] rest
    else .field field :: replaceReferences join replacement rest
  | item :: rest => item :: replaceReferences join replacement rest

/-- A record joined with the one that it refers to. -/
def apply (join : Join) (record : Record) : Joined :=
  match record.first? join.field with
  | none => .noReference
  | some reference =>
    match join.target? reference with
    | none => .dangling
    | some target =>
      .merged
        { record with items := join.replaceReferences (join.contribution target) record.items }

end Join

/-- The merged record of a join, if there is one. -/
def Joined.record? : Joined → Option Record
  | merged record => some record
  | _ => none

end TextRecords
