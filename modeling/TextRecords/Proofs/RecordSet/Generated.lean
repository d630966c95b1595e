import TextRecords.Proofs.Database.Insertion
import TextRecords.Proofs.Number.Integer

/-!
# Generated fields

A record gets fields only for automatic names that it lacks. A name of an integer type gets a field
each time that it is listed, all of them with the same integer (`filter_name_generatedFields`). This
is read back, and is greater than every integer that a record of the set holds under the name,
unless the greatest integer of 64 bits is one of them (`generated_integers`). Nothing keeps a name
from being listed twice, so that a record gets two fields for it (`generated_for_each_listing`).
-/

namespace TextRecords.RecordSet

variable {set : RecordSet} {generator : Generator} {record : Record} {name : String}

/-- The integers that records of a set hold as values of a name. -/
def integers (set : RecordSet) (name : String) : List Int :=
  (set.records.flatMap (·.values name)).filterMap fun value => Number.integer? value.toList

/-- What is held fits in 64 bits. -/
theorem fits_of_mem_integers {held : Int} (h : held ∈ set.integers name) :
    Number.fits held = true := by
  obtain ⟨value, -, hvalue⟩ := List.mem_filterMap.1 h
  exact Number.fits_of_integer? hvalue

/-- The integer after one that is held fits in 64 bits, unless this is the greatest one. -/
theorem fits_succ_of_mem_integers {held : Int} (h : held ∈ set.integers name)
    (hless : held < Number.greatestInteger) : Number.fits (held + 1) = true := by
  have hleast := (Number.fits_iff.1 (fits_of_mem_integers h)).1
  exact Number.fits_iff.2 ⟨Int.le_add_one hleast, hless⟩

/-- The next integer is zero or one more than the greatest integer that is held, unless the greatest
integer of 64 bits is held. -/
theorem nextInteger_cases (h : ∀ held ∈ set.integers name, held < Number.greatestInteger) :
    set.integers name = [] ∧ set.nextInteger name = 0 ∨
      ∃ greatest ∈ set.integers name, (∀ held ∈ set.integers name, held ≤ greatest) ∧
        set.nextInteger name = greatest + 1 := by
  unfold nextInteger
  split
  · next greatest hmax =>
    obtain ⟨hmem, hgreatest⟩ := List.max?_eq_some_iff.1 hmax
    exact .inr ⟨greatest, hmem, hgreatest,
      Number.wrapped_of_fits (fits_succ_of_mem_integers hmem (h greatest hmem))⟩
  · next hmax => exact .inl ⟨List.max?_eq_none_iff.1 hmax, rfl⟩

/-- The next integer is greater than those that are held, unless the greatest integer of 64 bits is
one of them. -/
theorem lt_nextInteger (h : ∀ held ∈ set.integers name, held < Number.greatestInteger) {held : Int}
    (hheld : held ∈ set.integers name) : held < set.nextInteger name := by
  obtain ⟨hnil, -⟩ | ⟨greatest, -, hgreatest, hnext⟩ := nextInteger_cases h
  · exact absurd (hnil ▸ hheld) List.not_mem_nil
  · exact hnext ▸ Int.lt_add_one_of_le (hgreatest held hheld)

/-- The next integer is read back, unless the greatest integer of 64 bits is held. -/
theorem integer?_nextInteger (h : ∀ held ∈ set.integers name, held < Number.greatestInteger) :
    Number.integer? (toString (set.nextInteger name)).toList = some (set.nextInteger name) := by
  obtain ⟨-, hnext⟩ | ⟨greatest, hmem, -, hnext⟩ := nextInteger_cases h
  · rw [hnext]
    decide
  · have hleast := (Number.fits_iff.1 (fits_of_mem_integers hmem)).1
    rw [hnext]
    exact Number.integer?_toString (Int.lt_add_one_of_le hleast) (h greatest hmem)

/-- A generated value has the name that it is generated for. -/
theorem name_of_generated? {schema : Schema} {number : Nat} {field : Field}
    (h : set.generated? generator schema name number = some field) : field.name = name := by
  unfold generated? at h
  split at h
  · exact (Option.some.inj h) ▸ rfl
  · exact (Option.some.inj h) ▸ rfl
  · split at h
    · exact (Option.some.inj h) ▸ rfl
    · cases h
  · cases h

/-- The value of an automatic field of an integer type. -/
theorem generated?_of_isInteger {schema : Schema} {type : FieldType}
    (htype : schema.fieldType? name = some type) (hinteger : type.isInteger = true) (number : Nat) :
    set.generated? generator schema name number =
      some ⟨name, toString (set.nextInteger name)⟩ := by
  unfold generated?
  rw [htype]
  cases type with
  | int => rfl
  | range => rfl
  | _ => cases hinteger

/-- Fields are generated for automatic names that the record lacks. -/
theorem mem_auto_of_mem_generatedFields {field : Field}
    (h : field ∈ set.generatedFields generator record) :
    field.name ∈ set.schema.auto ∧ record.has field.name = false := by
  obtain ⟨⟨name, number⟩, hpair, hfield⟩ := List.mem_filterMap.1 h
  have hname := List.mem_filter.1 (List.fst_mem_of_mem_zipIdx hpair)
  rw [Bool.not_eq_true'] at hname
  rwa [name_of_generated? hfield]

/-- Among the values that are generated for names, those of a name with an integer type are as many
as the name has places. -/
theorem filter_name_generated? {schema : Schema} {type : FieldType}
    (htype : schema.fieldType? name = some type) (hinteger : type.isInteger = true)
    (names : List String) (start : Nat) :
    ((names.zipIdx start).filterMap fun (other, number) =>
      set.generated? generator schema other number).filter (·.name == name) =
        List.replicate (names.count name) ⟨name, toString (set.nextInteger name)⟩ := by
  -- The names behind the first one are numbered from the next number on.
  induction names generalizing start with
  | nil => rfl
  | cons other rest ih =>
    rw [List.zipIdx_cons, List.filterMap_cons]
    by_cases hother : other = name
    · obtain rfl := hother
      simp only [generated?_of_isInteger htype hinteger, List.filter_cons, BEq.rfl, if_true]
      rw [List.count_cons_self, List.replicate_succ, ← ih (start + 1)]
    · rw [List.count_cons_of_ne hother, ← ih (start + 1)]
      cases hfield : set.generated? generator schema other start with
      | none => simp only [hfield]
      | some field =>
        have hname : (field.name == name) = false :=
          beq_false_of_ne (name_of_generated? hfield ▸ hother)
        simp only [hfield, List.filter_cons, hname, Bool.false_eq_true, if_false]

/-- An integer is generated for each time that its name is listed as automatic. -/
theorem filter_name_generatedFields {type : FieldType} (hlacks : record.has name = false)
    (htype : set.schema.fieldType? name = some type) (hinteger : type.isInteger = true) :
    (set.generatedFields generator record).filter (·.name == name) =
      List.replicate (set.schema.auto.count name) ⟨name, toString (set.nextInteger name)⟩ := by
  rw [generatedFields, filter_name_generated? htype hinteger,
    List.count_filter (by rw [hlacks]; rfl)]

/-- Generated fields have automatic names that the record lacks. An integer is generated for each
time that its name is listed, always the same one. It is read back as an integer that is greater
than all that are held under the name, and zero if there are none, unless the greatest integer of 64
bits is held. -/
theorem generated_integers (set : RecordSet) (generator : Generator) (record : Record) :
    (∀ field ∈ set.generatedFields generator record,
      field.name ∈ set.schema.auto ∧ record.has field.name = false) ∧
    ∀ name type, record.has name = false → set.schema.fieldType? name = some type →
      type.isInteger = true → ∃ value,
        (set.generatedFields generator record).filter (·.name == name) =
          List.replicate (set.schema.auto.count name) ⟨name, value⟩ ∧
        ((∀ held ∈ set.integers name, held < Number.greatestInteger) →
          ∃ number, Number.integer? value.toList = some number ∧
            (∀ held ∈ set.integers name, held < number) ∧
            (set.integers name = [] → number = 0)) := by
  refine ⟨fun field hfield => mem_auto_of_mem_generatedFields hfield,
    fun name type hlacks htype hinteger => ⟨_, filter_name_generatedFields hlacks htype hinteger,
      fun hheld => ⟨_, integer?_nextInteger hheld, fun held => lt_nextInteger hheld, ?_⟩⟩⟩
  intro hnone
  obtain ⟨-, hnext⟩ | ⟨greatest, hmem, -⟩ := nextInteger_cases hheld
  · exact hnext
  · exact absurd (hnone ▸ hmem) List.not_mem_nil

/-- A number between bounds is generated once, after the greatest of several values. -/
theorem generated_integers_ranged :
    let set : RecordSet :=
      { descriptor := some ⟨[.field ⟨"%rec", "T"⟩, .field ⟨"%type", "Id range MIN 99"⟩,
          .field ⟨"%auto", "Id Note"⟩], none⟩
        entries := [.record ⟨[.field ⟨"Id", "-4"⟩, .field ⟨"Id", "7"⟩], none⟩,
          .record ⟨[.field ⟨"Id", "none"⟩], none⟩] }
    let type : FieldType := .range Number.leastInteger 99
    let record : Record := ⟨[.field ⟨"Name", "x"⟩], none⟩
    record.has "Id" = false ∧ set.schema.fieldType? "Id" = some type ∧ type.isInteger = true ∧
      (∀ held ∈ set.integers "Id", held < Number.greatestInteger) ∧
      ∃ value number,
        (set.generatedFields ⟨fun _ => "", ""⟩ record).filter (·.name == "Id") = [⟨"Id", value⟩] ∧
        Number.integer? value.toList = some number ∧ -4 < number ∧ 7 < number := by
  intro set type record
  have hlacks : record.has "Id" = false := by decide
  have htype : set.schema.fieldType? "Id" = some type := by rfl
  have hheld : ∀ held ∈ set.integers "Id", held < Number.greatestInteger := by decide
  have hcount : set.schema.auto.count "Id" = 1 := by decide
  obtain ⟨value, hfields, hfresh⟩ :=
    (set.generated_integers ⟨fun _ => "", ""⟩ record).2 "Id" type hlacks htype rfl
  obtain ⟨number, hnumber, hless, -⟩ := hfresh hheld
  rw [hcount] at hfields
  exact ⟨hlacks, htype, rfl, hheld, value, number, hfields, hnumber, hless (-4) (by decide),
    hless 7 (by decide)⟩

/-- A name that is listed twice is generated twice. -/
theorem generated_for_each_listing :
    let set : RecordSet :=
      { descriptor := some ⟨[.field ⟨"%rec", "T"⟩, .field ⟨"%type", "id int"⟩,
          .field ⟨"%auto", "id id"⟩], none⟩ }
    let record : Record := ⟨[.field ⟨"a", "1"⟩], none⟩
    record.insertionFault? = none ∧ "id" ∈ set.schema.auto ∧ record.has "id" = false ∧
      set.schema.fieldType? "id" = some .int ∧
      (set.generatedFields ⟨fun _ => "", ""⟩ record).filter (·.name == "id") =
        [⟨"id", "0"⟩, ⟨"id", "0"⟩] := by
  intro set record
  exact ⟨by decide, by decide, by decide, by rfl, by decide⟩

end TextRecords.RecordSet
