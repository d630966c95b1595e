import Mathlib.Data.List.Basic
import TextRecords.Record.Basic

/-!
# Fields of records

The fields of a record are found among its items, which they are if there are no comments
(`Record.items_of_comments`). A record has a name when a field has it (`Record.has_iff`), and holds
a value of a name when the field of both is among its fields (`Record.holds_iff`). The first value
of a name is there when the name is (`Record.isSome_first?`), and it is followed by the others
(`Record.mem_values_iff`).
-/

namespace TextRecords

/-- The fields among fields are all of them. -/
theorem Item.filterMap_field?_map (fields : List Field) :
    (fields.map Item.field).filterMap Item.field? = fields := by
  rw [List.filterMap_map]
  exact List.filterMap_some

namespace Record

/-- Fields behind the items of a record are fields of it. -/
theorem fields_append (record : Record) (fields : List Field) :
    Record.fields { record with items := record.items ++ fields.map .field } =
      record.fields ++ fields := by
  rw [Record.fields, List.filterMap_append, Item.filterMap_field?_map, Record.fields]

/-- The items of a record without comments are its fields. -/
theorem items_of_comments {record : Record} (h : record.comments = []) :
    record.items = record.fields.map .field := by
  obtain ⟨items, location⟩ := record
  have hitems : ∀ item ∈ items, item.field?.map Item.field = some item := by
    intro item hitem
    have hnone : item.comment? = none := List.filterMap_eq_nil_iff.1 h item hitem
    cases item with
    | field field => rfl
    | comment text => cases hnone
  calc items = items.filterMap some := List.filterMap_some.symm
    _ = items.filterMap fun item => item.field?.map Item.field :=
      List.filterMap_congr fun item hitem => (hitems item hitem).symm
    _ = (items.filterMap Item.field?).map Item.field := List.map_filterMap.symm

/-- A name occurs in a record when it is the name of a field. -/
theorem has_iff {record : Record} {name : String} :
    record.has name = true ↔ ∃ field ∈ record.fields, field.name = name := by
  simp only [has, List.any_eq_true, beq_iff_eq]

/-- A record holds a value of a name when it has the field of both. -/
theorem holds_iff {record : Record} {field : Field} :
    record.holds field.name field.value = true ↔ field ∈ record.fields := by
  rw [holds, List.contains_iff_mem, values, List.mem_map]
  constructor
  · rintro ⟨other, hother, hvalue⟩
    obtain ⟨hmem, hname⟩ := List.mem_filter.1 hother
    obtain rfl : other = field := by
      cases other
      cases field
      exact congrArg₂ Field.mk (beq_iff_eq.1 hname) hvalue
    exact hmem
  · exact fun hmem => ⟨field, List.mem_filter.2 ⟨hmem, beq_self_eq_true _⟩, rfl⟩

/-- A record has a first value of a name when it has the name. -/
theorem isSome_first? (record : Record) (name : String) :
    (record.first? name).isSome = record.has name := by
  rw [Bool.eq_iff_iff, first?, value?, isSome_getElem?, values, List.length_map,
    List.length_filter_pos_iff, has, List.any_eq_true]

/-- A value of a name is the first one or comes behind it. -/
theorem mem_values_iff {record : Record} {name value : String} :
    value ∈ record.values name ↔
      record.first? name = some value ∨ value ∈ (record.values name).tail := by
  unfold first? value?
  cases record.values name with
  | nil => simp
  | cons first rest => simp [eq_comm]

end Record

end TextRecords
