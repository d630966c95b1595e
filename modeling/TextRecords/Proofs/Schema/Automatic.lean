import Mathlib.Data.List.Basic
import TextRecords.Schema.Basic

/-!
# The automatic fields that a descriptor declares

The automatic fields of a schema are the field names in the declarations of them, in their order
(`auto_ofDescriptor`). No other declaration adds one (`auto_declare`), so all of them are field
names (`isFieldName_of_mem_auto`).
-/

namespace TextRecords.Schema

/-- The automatic fields that a field of a descriptor declares. -/
def declaredAuto (field : Field) : List String :=
  if field.name = "%auto" then namesIn field.value else []

/-- Steps that leave the automatic fields as they are do so one after another. -/
theorem auto_foldl {α : Type} {step : Schema → α → Schema}
    (h : ∀ schema a, (step schema a).auto = schema.auto) (schema : Schema) (list : List α) :
    (list.foldl step schema).auto = schema.auto :=
  List.foldlRecOn (motive := fun reached => reached.auto = schema.auto) list step rfl
    fun reached heq a _ => (h reached a).trans heq

/-- Notes leave the automatic fields as they are. -/
@[simp]
theorem auto_note (schema : Schema) (problem : SchemaProblem) :
    (schema.note problem).auto = schema.auto := rfl

/-- Notes on names leave the automatic fields as they are. -/
@[simp]
theorem auto_noteNames (schema : Schema) (declaration value : String) :
    (schema.noteNames declaration value).auto = schema.auto := by
  unfold noteNames
  exact auto_foldl (fun _ _ => auto_note _ _) schema _

/-- Declaring the type leaves the automatic fields as they are. -/
@[simp]
theorem auto_declareType (schema : Schema) (value : String) :
    (schema.declareType value).auto = schema.auto := by
  rw [declareType]
  split
  · rfl
  · next word others _ =>
    have hnoted : (if isFieldName word then schema
        else schema.note (.invalidTypeName (.ofList word))).auto = schema.auto := by
      split <;> rfl
    dsimp only
    split
    · split <;> exact hnoted
    · exact hnoted

/-- Declaring a key leaves the automatic fields as they are. -/
@[simp]
theorem auto_declareKey (schema : Schema) (value : String) :
    (schema.declareKey value).auto = schema.auto := by
  rw [declareKey]
  split
  · rfl
  · split <;> rfl

/-- Declaring a size leaves the automatic fields as they are. -/
@[simp]
theorem auto_declareSize (schema : Schema) (value : String) :
    (schema.declareSize value).auto = schema.auto := by
  unfold declareSize
  split
  · rfl
  · split <;> rfl

/-- Naming a type of values leaves the automatic fields as they are. -/
@[simp]
theorem auto_declareTypedef (schema : Schema) (value : String) :
    (schema.declareTypedef value).auto = schema.auto := by
  unfold declareTypedef
  split
  · rfl
  · split <;> rfl

/-- Declaring the types of fields leaves the automatic fields as they are. -/
@[simp]
theorem auto_declareFieldTypes (schema : Schema) (value : String) :
    (schema.declareFieldTypes value).auto = schema.auto := by
  have hstep : ∀ type (schema : Schema) name,
      (declareFieldType type schema name).auto = schema.auto := by
    intro type schema name
    unfold declareFieldType
    split <;> rfl
  unfold declareFieldTypes
  split
  · rfl
  · split
    · exact auto_foldl (hstep _) schema _
    · rfl

/-- A declaration adds the automatic fields that it declares behind those before. -/
theorem auto_declare (schema : Schema) (field : Field) :
    (schema.declare field).auto = schema.auto ++ declaredAuto field := by
  unfold declare
  split
  case h_8 =>
    have hname : field.name = "%auto" := by assumption
    rw [declaredAuto, if_pos hname]
  -- No other field declares automatic fields, whether its declaration is known or not.
  case h_14 =>
    have hname : field.name ≠ "%auto" := by assumption
    rw [declaredAuto, if_neg hname, List.append_nil]
    split <;> rfl
  all_goals
    next h =>
    have hname : field.name ≠ "%auto" := by rw [h]; decide
    simp [declaredAuto, hname]

/-- The automatic fields that the fields of a descriptor declare one after another. -/
theorem auto_foldl_declare (schema : Schema) (fields : List Field) :
    (fields.foldl declare schema).auto = schema.auto ++ fields.flatMap declaredAuto := by
  induction fields generalizing schema with
  | nil => rw [List.flatMap_nil, List.append_nil, List.foldl_nil]
  | cons field rest ih =>
    rw [List.foldl_cons, ih, auto_declare, List.flatMap_cons, List.append_assoc]

/-- The automatic fields of a schema are those that the fields of the descriptor declare. -/
theorem auto_ofDescriptor (descriptor : Record) :
    (ofDescriptor descriptor).auto = descriptor.fields.flatMap declaredAuto := by
  rw [ofDescriptor]
  generalize hnamed : (descriptor.fields.filter (·.name == "%typedef")).foldl
    (fun (schema : Schema) (field : Field) => schema.declareTypedef field.value) ({} : Schema) =
      named
  have hstep : ∀ (schema : Schema) (field : Field),
      (schema.declareTypedef field.value).auto = schema.auto :=
    fun schema field => auto_declareTypedef schema field.value
  have hnone : named.auto = [] := by
    rw [← hnamed, auto_foldl hstep]
  have hfold := auto_foldl_declare named descriptor.fields
  rw [hnone, List.nil_append] at hfold
  rw [← hfold]
  split
  · exact auto_note _ _
  · rfl

/-- Automatic fields have field names. -/
theorem isFieldName_of_mem_auto {descriptor : Record} {name : String}
    (h : name ∈ (ofDescriptor descriptor).auto) : isFieldName name.toList = true := by
  rw [auto_ofDescriptor, List.mem_flatMap] at h
  obtain ⟨field, -, hname⟩ := h
  unfold declaredAuto at hname
  split at hname
  · obtain ⟨word, hword, rfl⟩ := List.mem_map.1 hname
    rw [String.toList_ofList]
    exact (List.mem_filter.1 hword).2
  · exact absurd hname List.not_mem_nil

end TextRecords.Schema
