import TextRecords.Record.Basic
import TextRecords.Schema.FieldType
import TextRecords.Schema.SizeRule

/-!
# Schemas

A descriptor is a record that declares the type of a set of records and the rules for them. Its
schema is what it declares: `Schema.ofDescriptor` reads the declarations in order and notes what is
wrong with them, and `Schema.violations` lists the rules that a record breaks.
-/

namespace TextRecords

/-- What is wrong with a descriptor. -/
inductive SchemaProblem where
  | missingType
  | emptyType
  | invalidTypeName (name : String)
  | conflictingTypes (first second : String)
  | invalidKey (key : String)
  | repeatedKey
  | invalidSize (value : String)
  | repeatedSize
  | invalidName (name declaration : String)
  | malformedTypedef (value : String)
  | badTypedef (name : String) (fault : FieldTypeFault)
  | malformedType (value : String)
  | badType (fields : String) (fault : FieldTypeFault)
  | regularField (name : String)
deriving DecidableEq, Repr

/-- The problem in words. -/
def SchemaProblem.message : SchemaProblem → String
  | missingType => "descriptor without %rec type"
  | emptyType => "empty %rec"
  | invalidTypeName name => s!"invalid record type name '{name}'"
  | conflictingTypes first second => s!"%rec declared as both '{first}' and '{second}'"
  | invalidKey key => s!"invalid %key '{key}'"
  | repeatedKey => "%key declared more than once"
  | invalidSize value => s!"invalid %size '{value}'"
  | repeatedSize => "%size declared more than once"
  | invalidName name declaration => s!"invalid field name '{name}' in {declaration}"
  | malformedTypedef value => s!"invalid %typedef '{value}'"
  | badTypedef name fault => s!"%typedef {name}: {fault.message}"
  | malformedType value => s!"invalid %type '{value}'"
  | badType fields fault => s!"%type {fields}: {fault.message}"
  | regularField name => s!"regular field '{name}' in descriptor"

/-- A rule that a record breaks. -/
inductive Violation where
  | missingMandatory (name : String)
  | missingKey (name : String)
  | repeatedKey (name : String) (count : Nat)
  | repeatedUnique (name : String) (count : Nat)
  | notAllowed (name : String)
  | prohibited (name : String)
  | invalidValue (name value type : String)
deriving DecidableEq, Repr

/-- The violation in words. -/
def Violation.message : Violation → String
  | missingMandatory name => s!"missing mandatory field '{name}'"
  | missingKey name => s!"missing key field '{name}'"
  | repeatedKey name count => s!"key field '{name}' occurs {count} times"
  | repeatedUnique name count => s!"unique field '{name}' occurs {count} times"
  | notAllowed name => s!"field '{name}' is not allowed"
  | prohibited name => s!"field '{name}' is prohibited"
  | invalidValue name value type => s!"field '{name}': '{value}' is not a valid {type}"

/-- The type that a declaration gives to a field. -/
structure TypeRule where
  field : String
  type : FieldType

/-- What a descriptor declares. -/
structure Schema where
  typeName : Option String := none
  /-- Where the records of the type come from: the text after the type name. -/
  source : Option String := none
  key : Option String := none
  mandatory : List String := []
  allowed : List String := []
  prohibited : List String := []
  unique : List String := []
  types : List TypeRule := []
  typedefs : TypeNames := ∅
  size : Option SizeRule := none
  sort : List String := []
  auto : List String := []
  confidential : List String := []
  doc : Option String := none
  /-- The names of the declarations that are not known. -/
  unknown : List String := []
  problems : List SchemaProblem := []

namespace Schema

/-- The names of declarations that may give only one value for a type. -/
def singletonNames : List String :=
  ["%key", "%size", "%sort"]

/-- A schema with a problem noted. -/
def note (schema : Schema) (problem : SchemaProblem) : Schema :=
  { schema with problems := schema.problems ++ [problem] }

/-- The field names among the words of a value. -/
def namesIn (value : String) : List String :=
  ((Text.words value.toList).filter isFieldName).map String.ofList

/-- A schema with a note on every word of a value that is no field name. -/
def noteNames (schema : Schema) (declaration value : String) : Schema :=
  ((Text.words value.toList).filter (!isFieldName ·)).foldl
    (fun schema word => schema.note (.invalidName (.ofList word) declaration)) schema

/-- A schema with its type declared. The first declaration counts. -/
def declareType (schema : Schema) (value : String) : Schema :=
  match Text.words value.toList with
  | [] => schema.note .emptyType
  | word :: others =>
    let name := String.ofList word
    let schema := if isFieldName word then schema else schema.note (.invalidTypeName name)
    match schema.typeName with
    | some existing =>
      if existing == name then schema else schema.note (.conflictingTypes existing name)
    | none =>
      let source := if others.isEmpty then schema.source
        else some (.ofList (List.intercalate [' '] others))
      { schema with typeName := some name, source }

/-- A schema with its key declared. The first valid declaration counts. -/
def declareKey (schema : Schema) (value : String) : Schema :=
  let key := Text.trim value.toList
  if !isFieldName key then schema.note (.invalidKey (.ofList key))
  else if schema.key.isSome then schema.note .repeatedKey
  else { schema with key := some (.ofList key) }

/-- A schema with its size rule declared. The first valid declaration counts. -/
def declareSize (schema : Schema) (value : String) : Schema :=
  match SizeRule.ofText? value.toList with
  | none => schema.note (.invalidSize value)
  | some size =>
    if schema.size.isSome then schema.note .repeatedSize else { schema with size := some size }

/-- A schema with a type named. -/
def declareTypedef (schema : Schema) (value : String) : Schema :=
  match Text.cutAtBlank? (Text.trim value.toList) with
  | none => schema.note (.malformedTypedef value)
  | some (name, description) =>
    match FieldType.ofText schema.typedefs description with
    | .ok type => { schema with typedefs := schema.typedefs.insert (.ofList name) type }
    | .error fault => schema.note (.badTypedef (.ofList name) fault)

/-- A schema with the type of one field declared. -/
def declareFieldType (type : FieldType) (schema : Schema) (name : List Char) : Schema :=
  if isFieldName name then
    { schema with types := schema.types ++ [⟨.ofList name, type⟩] }
  else schema.note (.invalidName (.ofList name) "%type")

/-- A schema with the type of some fields declared, whose names commas separate. -/
def declareFieldTypes (schema : Schema) (value : String) : Schema :=
  match Text.cutAtBlank? (Text.trim value.toList) with
  | none => schema.note (.malformedType value)
  | some (fields, description) =>
    match FieldType.ofText schema.typedefs description with
    | .ok type =>
      (((Text.splitWhen (· == ',') fields).map Text.trim).filter (!·.isEmpty)).foldl
        (declareFieldType type) schema
    | .error fault => schema.note (.badType (.ofList fields) fault)

/-- A schema with one field of its descriptor read. The names of types are declared beforehand. -/
def declare (schema : Schema) (field : Field) : Schema :=
  let value := field.value
  let names := namesIn value
  match field.name with
  | "%rec" => schema.declareType value
  | "%key" => schema.declareKey value
  | "%mandatory" =>
    { schema.noteNames "%mandatory" value with mandatory := schema.mandatory ++ names }
  | "%allowed" => { schema.noteNames "%allowed" value with allowed := schema.allowed ++ names }
  | "%prohibit" =>
    { schema.noteNames "%prohibit" value with prohibited := schema.prohibited ++ names }
  | "%unique" => { schema.noteNames "%unique" value with unique := schema.unique ++ names }
  | "%sort" => { schema.noteNames "%sort" value with sort := schema.sort ++ names }
  | "%auto" => { schema.noteNames "%auto" value with auto := schema.auto ++ names }
  | "%confidential" =>
    { schema.noteNames "%confidential" value with
      confidential := schema.confidential ++ names }
  | "%type" => schema.declareFieldTypes value
  | "%typedef" => schema
  | "%size" => schema.declareSize value
  | "%doc" => { schema with doc := some value }
  | name =>
    if field.isMeta then { schema with unknown := schema.unknown ++ [name] }
    else schema.note (.regularField name)

/-- What a descriptor declares. The names of types are read first, so that the declarations of
fields may use names that are defined below them. -/
def ofDescriptor (descriptor : Record) : Schema :=
  let typedefs := (descriptor.fields.filter (·.name == "%typedef")).foldl
    (fun schema field => schema.declareTypedef field.value) {}
  let schema := descriptor.fields.foldl declare typedefs
  if schema.typeName.isNone then schema.note .missingType else schema

/-- The type of a field. The last declaration counts. -/
def fieldType? (schema : Schema) (name : String) : Option FieldType :=
  (schema.types.reverse.find? (·.field == name)).map TypeRule.type

/-- Whether the values of a field are confidential. -/
def isConfidential (schema : Schema) (name : String) : Bool :=
  schema.confidential.contains name

/-- Whether the names that a schema allows include a name. A schema that lists none allows all. -/
def permits (schema : Schema) (name : String) : Bool :=
  schema.allowed.isEmpty || schema.allowed.contains name || schema.mandatory.contains name ||
    schema.key == some name

/-- How a record breaks the rule that it has the key field exactly once. -/
def keyViolations (schema : Schema) (record : Record) : List Violation :=
  match schema.key with
  | none => []
  | some key =>
    match record.count key with
    | 0 => [.missingKey key]
    | 1 => []
    | count => [.repeatedKey key count]

/-- How the value of a field breaks the rule of its type. -/
def typeViolation? (schema : Schema) (field : Field) : Option Violation :=
  match schema.fieldType? field.name with
  | some type =>
    if type.accepts field.value then none
    else some (.invalidValue field.name field.value type.name)
  | none => none

/-- The rules that a record breaks: mandatory fields, the key, unique fields, allowed and prohibited
names and the types of values. Rules on the set as a whole are not among them. -/
def violations (schema : Schema) (record : Record) : List Violation :=
  ((schema.mandatory.filter (!record.has ·)).map .missingMandatory) ++
  schema.keyViolations record ++
  ((schema.unique.filter (1 < record.count ·)).map fun name =>
    .repeatedUnique name (record.count name)) ++
  (((record.fields.map Field.name).filter (!schema.permits ·)).map .notAllowed) ++
  ((schema.prohibited.filter record.has).map .prohibited) ++
  record.fields.filterMap schema.typeViolation?

end Schema

end TextRecords
