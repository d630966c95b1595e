import TextRecords.Proofs.Query.Stages

/-!
# Redaction

Redacting a record removes the fields of some names. It keeps the values of the others
(`Record.values_redacted`), and so the key that a field selection of other names gives the record
(`FieldSelection.key_redacted`). A reference of another name can be followed before redacting or
after it (`Join.apply_redacted`), and groups can be merged before it or after it
(`Group.merge_redacted`).
-/

namespace TextRecords

variable {hides : String → Bool}

namespace Record

variable {name : String} {record : Record}

/-- The fields that are left of a redacted record. -/
theorem fields_redacted (record : Record) (hides : String → Bool) :
    (record.redacted hides).fields = record.fields.filter (!hides ·.name) := by
  unfold fields redacted
  dsimp only
  induction record.items with
  | nil => rfl
  | cons item rest ih =>
    cases item with
    | comment text => exact ih
    | field f =>
      cases h : hides f.name with
      | true => simpa [Item.field?, h] using ih
      | false => simpa [Item.field?, h] using ih

/-- Redacting keeps the values of the other names. -/
theorem values_redacted (h : hides name = false) :
    (record.redacted hides).values name = record.values name := by
  unfold values
  rw [fields_redacted, List.filter_filter]
  congr 1
  refine List.filter_congr fun field _ => ?_
  by_cases hname : field.name = name
  · simp [hname, h]
  · simp [hname]

/-- Redacting keeps the first value of every other name. -/
theorem first?_redacted (h : hides name = false) :
    (record.redacted hides).first? name = record.first? name := by
  unfold first? value?
  rw [values_redacted h]

/-- It makes no difference to redact some of the names beforehand. -/
theorem redacted_redacted {isConfidential : String → Bool}
    (h : ∀ name, hides name = true → isConfidential name = true) :
    (record.redacted hides).redacted isConfidential = record.redacted isConfidential := by
  unfold redacted
  dsimp only
  rw [List.filter_filter]
  congr 1
  refine List.filter_congr fun item _ => ?_
  cases item with
  | comment text => rfl
  | field f =>
    cases hhides : hides f.name with
    | false => simp [Item.field?, hhides]
    | true => simp [Item.field?, h _ hhides]

end Record

namespace Join

variable {join : Join}

/-- A record contributes nothing of fields that are left out anyway. -/
theorem contribution_redacted (h : ∀ name, hides name = true → join.hides name = true)
    (target : Record) : join.contribution (target.redacted hides) = join.contribution target := by
  unfold contribution
  rw [Record.fields_redacted, List.filter_filter]
  congr 1
  refine List.filter_congr fun field _ => ?_
  cases hname : hides field.name with
  | false => simp
  | true => simp [h _ hname]

/-- References are replaced where they stand among the fields that redacting keeps. -/
theorem replaceReferences_redacted (h : hides join.field = false) (replacement items : List Item) :
    (join.replaceReferences replacement
        (items.filter fun item => !item.field?.any (hides ·.name))).filter
          (fun item => !item.field?.any (hides ·.name)) =
      (join.replaceReferences replacement items).filter
        fun item => !item.field?.any (hides ·.name) := by
  induction items generalizing replacement with
  | nil => rfl
  | cons item rest ih =>
    cases item with
    | comment text => exact congrArg (Item.comment text :: ·) (ih replacement)
    | field f =>
      cases hname : hides f.name with
      | true =>
        -- A removed field is not the reference, so both sides go on with the rest.
        have hne : f.name ≠ join.field := fun heq => by rw [heq, h] at hname; cases hname
        simpa [replaceReferences, Item.field?, hname, hne] using ih replacement
      | false =>
        by_cases heq : f.name = join.field
        · simpa [replaceReferences, Item.field?, hname, heq, h] using ih []
        · simpa [replaceReferences, Item.field?, hname, heq] using ih replacement

/-- A redacted record is joined to the same redacted record, if the reference is left. -/
theorem apply_redacted (h : hides join.field = false) (record : Record) :
    (join.apply (record.redacted hides)).map (·.redacted hides) =
      (join.apply record).map (·.redacted hides) := by
  unfold apply
  rw [Record.first?_redacted h]
  cases record.first? join.field with
  | none => rfl
  | some reference =>
    dsimp only
    cases join.target? reference with
    | none => rfl
    | some target =>
      have hitems := replaceReferences_redacted h (join.contribution target) record.items
      exact congrArg (fun items => Joined.merged ⟨items, record.location⟩) hitems

end Join

/-- Redacting keeps the values that selectors of other names pick first. -/
theorem FieldSelection.key_redacted {selection : FieldSelection}
    (h : ∀ selector ∈ selection.selectors, hides selector.name = false) (record : Record) :
    selection.key (record.redacted hides) = selection.key record := by
  unfold key
  refine List.map_congr_left fun selector hselector => ?_
  unfold Selector.value?
  rw [Record.values_redacted (h selector hselector)]

/-- Redacted groups are merged as the groups are. -/
theorem Group.merge_redacted (names : List String) (group other : Group) :
    (group.map (·.redacted hides)).merge names (other.map (·.redacted hides)) =
      (group.merge names other).map (·.redacted hides) := by
  -- The fields that are added are redacted and chosen by their names, in either order.
  have hadded :
      ((other.record.redacted hides).fields.filter (!names.contains ·.name)).map Item.field =
        ((other.record.fields.filter (!names.contains ·.name)).map Item.field).filter
          fun item => !item.field?.any (hides ·.name) := by
    rw [Record.fields_redacted, List.filter_map, List.filter_filter, List.filter_filter]
    congr 1
    exact List.filter_congr fun field _ => Bool.and_comm _ _
  unfold merge
  dsimp only [map]
  rw [hadded]
  unfold Record.redacted
  dsimp only
  rw [List.filter_append]

end TextRecords
