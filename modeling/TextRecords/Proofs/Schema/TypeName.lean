import Mathlib.Data.List.Basic
import TextRecords.Document.Assembly

/-!
# The type that a descriptor declares

The type of a schema is the first word of the first declaration of a type that has one
(`typeName_ofDescriptor`). All other declarations, and those of types after it, leave it as it is
(`typeName_declare`).
-/

namespace TextRecords

/-- The type that a field declares: the first word of its value, if it is the field for it. -/
def Field.declaredType? (field : Field) : Option String :=
  if field.name = Document.typeMarker then
    (Text.firstWord? field.value.toList).map String.ofList
  else none

namespace Schema

/-- Notes leave the type as it is. -/
@[simp]
theorem typeName_note (schema : Schema) (problem : SchemaProblem) :
    (schema.note problem).typeName = schema.typeName := rfl

/-- Steps that leave the type as it is do so one after another. -/
theorem typeName_foldl {α : Type} {step : Schema → α → Schema}
    (h : ∀ schema a, (step schema a).typeName = schema.typeName) (schema : Schema)
    (list : List α) : (list.foldl step schema).typeName = schema.typeName := by
  induction list generalizing schema with
  | nil => rfl
  | cons a rest ih => rw [List.foldl_cons, ih, h]

/-- Notes on names leave the type as it is. -/
@[simp]
theorem typeName_noteNames (schema : Schema) (declaration value : String) :
    (schema.noteNames declaration value).typeName = schema.typeName := by
  unfold noteNames
  exact typeName_foldl (fun _ _ => typeName_note _ _) _ _

/-- Declaring a key leaves the type as it is. -/
@[simp]
theorem typeName_declareKey (schema : Schema) (value : String) :
    (schema.declareKey value).typeName = schema.typeName := by
  rw [declareKey]
  split
  · rfl
  · split <;> rfl

/-- Declaring a size leaves the type as it is. -/
@[simp]
theorem typeName_declareSize (schema : Schema) (value : String) :
    (schema.declareSize value).typeName = schema.typeName := by
  unfold declareSize
  split
  · rfl
  · split <;> rfl

/-- Naming a type of values leaves the type of the records as it is. -/
@[simp]
theorem typeName_declareTypedef (schema : Schema) (value : String) :
    (schema.declareTypedef value).typeName = schema.typeName := by
  unfold declareTypedef
  split
  · rfl
  · split <;> rfl

/-- Declaring the types of fields leaves the type of the records as it is. -/
@[simp]
theorem typeName_declareFieldTypes (schema : Schema) (value : String) :
    (schema.declareFieldTypes value).typeName = schema.typeName := by
  have hstep : ∀ type (schema : Schema) name,
      (declareFieldType type schema name).typeName = schema.typeName := by
    intro type schema name
    unfold declareFieldType
    split <;> rfl
  unfold declareFieldTypes
  split
  · rfl
  · split
    · exact typeName_foldl (hstep _) _ _
    · rfl

/-- Declaring a type gives the first word of the value, if there is no type before. -/
theorem typeName_declareType (schema : Schema) (value : String) :
    (schema.declareType value).typeName =
      schema.typeName.or ((Text.firstWord? value.toList).map String.ofList) := by
  unfold declareType Text.firstWord?
  cases Text.words value.toList with
  | nil => simp
  | cons word others =>
    have hnoted : (if isFieldName word then schema
        else schema.note (.invalidTypeName (.ofList word))).typeName = schema.typeName := by
      split <;> rfl
    simp only [hnoted]
    cases h : schema.typeName with
    | none => rfl
    | some existing =>
      rw [h] at hnoted
      simp only
      split <;> exact hnoted

/-- A declaration keeps the type, or gives it when there is none. -/
theorem typeName_declare (schema : Schema) (field : Field) :
    (schema.declare field).typeName = schema.typeName.or field.declaredType? := by
  unfold declare
  split
  · next h =>
    have hmarker : field.name = Document.typeMarker := h
    rw [typeName_declareType, Field.declaredType?, if_pos hmarker]
  -- No other field declares the type, whether its declaration is known or not.
  case h_14 =>
    have hmarker : field.name ≠ Document.typeMarker := by assumption
    rw [Field.declaredType?, if_neg hmarker, Option.or_none]
    split <;> rfl
  all_goals
    next h =>
    have hmarker : field.name ≠ Document.typeMarker := by rw [h]; decide
    simp [Field.declaredType?, hmarker]

/-- The type that the fields of a descriptor declare one after another. -/
theorem typeName_foldl_declare (schema : Schema) (fields : List Field) :
    (fields.foldl declare schema).typeName =
      schema.typeName.or (fields.findSome? Field.declaredType?) := by
  induction fields generalizing schema with
  | nil => simp
  | cons field rest ih =>
    rw [List.foldl_cons, ih, typeName_declare, List.findSome?_cons, Option.or_assoc]
    cases field.declaredType? <;> rfl

/-- The type of a schema is the first one that a field of the descriptor declares. -/
theorem typeName_ofDescriptor (descriptor : Record) :
    (ofDescriptor descriptor).typeName = descriptor.fields.findSome? Field.declaredType? := by
  rw [ofDescriptor]
  generalize hnamed : (descriptor.fields.filter (·.name == "%typedef")).foldl
    (fun (schema : Schema) (field : Field) => schema.declareTypedef field.value) ({} : Schema) =
      named
  have hstep : ∀ (schema : Schema) (field : Field),
      (schema.declareTypedef field.value).typeName = schema.typeName :=
    fun schema field => typeName_declareTypedef schema field.value
  have hnone : named.typeName = none := by
    rw [← hnamed, typeName_foldl hstep]
  have hfold := typeName_foldl_declare named descriptor.fields
  rw [hnone, Option.none_or] at hfold
  rw [← hfold]
  split
  · exact typeName_note _ _
  · rfl

end Schema

end TextRecords
