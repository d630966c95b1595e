import TextRecords.Database.Basic

/-!
# Integrity

The findings about a database: what is wrong with its descriptors, with the records under them, and
with the references between sets. Findings come in the order of the sets; nothing is changed.
-/

namespace TextRecords

/-- Which findings to look for besides those about records. -/
structure CheckOptions where
  /-- Problems of descriptors, and declarations that are not known. -/
  descriptors : Bool := false
  /-- References to records that are not there. -/
  references : Bool := false
deriving DecidableEq, Repr

/-- How bad a finding is. -/
inductive Severity where
  | error
  | warning
deriving DecidableEq, Repr

/-- What is found. -/
inductive Defect where
  | problem (problem : SchemaProblem)
  | unknownDeclaration (name : String)
  | unknownTarget (field type : String)
  | violation (violation : Violation)
  | duplicateKey (key : String) (first : Nat)
  | size (records : Nat)
  | targetWithoutKey (type : String)
  | dangling (value field type : String)
deriving DecidableEq, Repr

namespace Defect

/-- How bad a defect is. -/
def severity : Defect → Severity
  | unknownDeclaration _ | targetWithoutKey _ => .warning
  | _ => .error

/-- The defect in words. -/
def message : Defect → String
  | problem p => p.message
  | unknownDeclaration name => s!"unknown meta-field '{name}'"
  | unknownTarget field type => s!"field '{field}' references unknown type '{type}'"
  | violation v => v.message
  | duplicateKey key first => s!"duplicate key '{key}' (first used by record {first})"
  | size records => s!"record set has {records} records, violating %size"
  | targetWithoutKey type => s!"referenced type '{type}' declares no %key"
  | dangling value field type => s!"dangling reference '{value}' in field '{field}' to {type}"

end Defect

/-- A defect with the place where it is found. -/
structure Finding where
  typeName : Option String
  /-- The position of the record; none for a finding about the set. -/
  position : Option Nat
  location : Option Location
  defect : Defect
deriving DecidableEq, Repr

/-- The finding in words: the line if it is known, the severity and the defect. -/
def Finding.message (finding : Finding) : String :=
  let level := match finding.defect.severity with
    | .error => "error"
    | .warning => "warning"
  match finding.location with
  | some location => s!"{location.line}:{level}: {finding.defect.message}"
  | none => s!"{level}: {finding.defect.message}"

/-- The position of the first record with each key, among those that have been gone through. -/
abbrev FirstUses := Std.TreeMap String Nat

/-- The first uses of keys when the record at a position has been gone through, which may have a
key. -/
def FirstUses.noting (firsts : FirstUses) (position : Nat) : Option String → FirstUses
  | some key => firsts.insertIfNew key position
  | none => firsts

namespace RecordSet

/-- A finding about a set as a whole. -/
def finding (set : RecordSet) (defect : Defect) : Finding :=
  ⟨set.typeName, none, set.descriptor.bind Record.location, defect⟩

/-- A finding about the record at a position. -/
def findingAt (set : RecordSet) (position : Nat) (record : Record) (defect : Defect) : Finding :=
  ⟨set.typeName, some position, record.location, defect⟩

/-- What is found in records from a position on, one after another: the rules that each record
breaks, and a key that was used before. `firsts` tells where each key was used first. -/
def findingsFrom (set : RecordSet) (schema : Schema) (firsts : FirstUses) (position : Nat) :
    List Record → List Finding
  | [] => []
  | record :: rest =>
    let key := schema.key.bind record.first?
    let duplicate := key.bind fun key => firsts[key]?.map (Defect.duplicateKey key)
    ((schema.violations record).map Defect.violation ++ duplicate.toList).map
        (set.findingAt position record) ++
      findingsFrom set schema (firsts.noting position key) (position + 1) rest

/-- What is found in the records of a set: the rules that each record breaks, a key that was used
before, and a number of records that is not allowed. -/
def recordFindings (set : RecordSet) : List Finding :=
  let schema := set.schema
  let ofSize := schema.size.toList.filter fun size => !size.allows set.size
  set.findingsFrom schema ∅ 0 set.records ++ ofSize.map fun _ => set.finding (.size set.size)

end RecordSet

namespace Database

/-- The types that the fields of a set are declared to refer to, with the names of the fields. -/
def references (schema : Schema) : List (String × String) :=
  schema.types.filterMap fun rule =>
    match rule.type with
    | .reference target => some (rule.field, target)
    | _ => none

/-- What is found in the descriptor of a set. -/
def descriptorFindings (db : Database) (set : RecordSet) : List Finding :=
  let schema := set.schema
  let targets := (references schema).filter fun (_, type) => !db.hasType type
  (schema.problems.map Defect.problem ++ schema.unknown.map Defect.unknownDeclaration ++
    targets.map fun (field, type) => Defect.unknownTarget field type).map set.finding

/-- What is found about the references in one field to the records of one type. A type that is not
there is reported unless the findings about descriptors have reported it. -/
def referenceFindings (db : Database) (options : CheckOptions) (set : RecordSet)
    (field type : String) : List Finding :=
  match db.setOfType? type with
  | none => if options.descriptors then [] else [set.finding (.unknownTarget field type)]
  | some target =>
    match target.schema.key with
    | none => [set.finding (.targetWithoutKey type)]
    | some key =>
      let known := target.records.filterMap (·.first? key)
      set.records.zipIdx.flatMap fun (record, position) =>
        ((record.values field).filter (!known.contains ·)).map fun value =>
          set.findingAt position record (.dangling value field type)

/-- What is found in one set. -/
def findingsIn (db : Database) (options : CheckOptions) (set : RecordSet) : List Finding :=
  (if options.descriptors then db.descriptorFindings set else []) ++ set.recordFindings ++
    (if options.references then
      (references set.schema).flatMap fun (field, type) =>
        db.referenceFindings options set field type
    else [])

/-- What is found in a database. -/
def findings (db : Database) (options : CheckOptions) : List Finding :=
  db.sets.flatMap (db.findingsIn options)

end Database

end TextRecords
