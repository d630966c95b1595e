import TextRecords.Proofs.FieldSelection.Items
import TextRecords.Proofs.FieldSelection.Replaced

/-!
# Names that an action leaves alone

An action has to do with the names of its selectors, and a renaming with the new name. It spares the
others (`FieldSelection.Spares`): a record keeps its values of such a name, wherever they stand and
whatever is made of the rest (`FieldSelection.values_apply`). Selectors of fields that are commented
out do not count, since what they pick stays a comment, and what is added for them is one.
-/

namespace TextRecords

/-- Records whose items of a plain lane are the same have the same values of its name. -/
theorem Record.values_congr {record other : Record} {name : String}
    (h : record.items.filter (·.isIn (name, false)) = other.items.filter (·.isIn (name, false))) :
    record.values name = other.values name := by
  rw [Item.filter_isIn_plain, Item.filter_isIn_plain] at h
  have hfields := List.map_injective_iff.2 (fun _ _ => Item.field.inj) h
  exact congrArg (List.map Field.value) hfields

namespace SetAction

variable {action : SetAction} {name : String}

/-- A field keeps its name, unless it is renamed. -/
theorem name_of_change {field next : Field} (h : action.change field = some next) :
    next.name = field.name ∨ action = rename next.name := by
  cases action with
  | rename new =>
    obtain rfl := Option.some.inj h
    exact .inr rfl
  | delete => cases h
  | set value =>
    obtain rfl := Option.some.inj h
    exact .inl rfl
  | setOrAdd value =>
    obtain rfl := Option.some.inj h
    exact .inl rfl
  | add value =>
    obtain rfl := Option.some.inj h
    exact .inl rfl
  | comment =>
    obtain rfl := Option.some.inj h
    exact .inl rfl

/-- Nothing that an action makes of a field has a name that the field does not have and that the
action does not give. -/
theorem isIn_of_mem_items (haction : action ≠ rename name) {field : Field} {commented : Bool}
    (hfield : commented = false → field.name ≠ name) {item : Item}
    (h : item ∈ action.items field commented) : item.isIn (name, false) = false := by
  unfold items at h
  split at h
  · obtain ⟨next, -, rfl⟩ := Option.map_eq_some_iff.1 (Option.mem_toList.1 h)
    exact Item.isIn_comment next.text name
  · next hplain =>
    obtain ⟨next, hnext, rfl⟩ := Option.map_eq_some_iff.1 (Option.mem_toList.1 h)
    rw [Bool.or_eq_true, not_or, Bool.not_eq_true] at hplain
    rw [Item.isIn_field, beq_eq_false_iff_ne]
    rintro rfl
    rcases name_of_change hnext with hname | hname
    · exact hfield hplain.1 hname.symm
    · exact haction hname

end SetAction

namespace FieldSelection

/-- An action on selected fields spares a name: no selector of plain fields has it, and no field is
renamed to it. -/
structure Spares (selection : FieldSelection) (action : SetAction) (name : String) : Prop where
  selectors : ∀ selector ∈ selection.selectors, selector.commented = false → selector.name ≠ name
  action : action ≠ .rename name

instance (selection : FieldSelection) (action : SetAction) (name : String) :
    Decidable (selection.Spares action name) :=
  decidable_of_iff ((∀ selector ∈ selection.selectors,
      selector.commented = false → selector.name ≠ name) ∧ action ≠ .rename name)
    ⟨fun h => ⟨h.1, h.2⟩, fun h => ⟨h.1, h.2⟩⟩

namespace Spares

variable {selection : FieldSelection} {action : SetAction} {name : String}

/-- What is made of the picked items has no field of a spared name, and neither have they. -/
theorem filter_changed (h : selection.Spares action name) (items : List Item) :
    (selection.changed action items).filter (·.isIn (name, false)) =
      items.filter (·.isIn (name, false)) := by
  refine filter_flatten_mapIdx fun position item hitem => ?_
  split
  · next hpicks =>
    obtain ⟨selector, hselector, hpicks⟩ := picks_iff.1 hpicks
    obtain ⟨picked, field, hpicked, hheld, hname⟩ := Selector.exists_held_of_picks hpicks
    obtain rfl : picked = item := Option.some.inj (hpicked.symm.trans hitem)
    have hfield : selector.commented = false → field.name ≠ name := by
      rw [hname]
      exact h.selectors selector hselector
    have hbefore : picked.isIn (name, false) = false := by
      rw [Item.isIn_of_held? hheld, beq_eq_false_iff_ne]
      intro hlane
      obtain ⟨hfirst, hsecond⟩ := Prod.mk.inj hlane
      exact hfield hsecond.symm hfirst.symm
    have hafter : ∀ made ∈ action.replacement picked, made.isIn (name, false) = false := by
      rw [SetAction.replacement, hheld]
      exact fun made => SetAction.isIn_of_mem_items h.action hfield
    rw [List.filter_eq_nil_iff.2 fun made hmade => by simp [hafter made hmade],
      List.filter_cons_of_neg (by simp [hbefore]), List.filter_nil]
  · rfl

/-- No field of a spared name is added. -/
theorem filter_additions (h : selection.Spares action name) (picked : List Nat) :
    (selection.additions action picked).filter (·.isIn (name, false)) = [] := by
  rw [List.filter_eq_nil_iff]
  intro item hitem
  obtain ⟨value, -, selector, hselector, rfl⟩ := mem_additions hitem
  rw [Selector.lane]
  cases hcommented : selector.commented with
  | false =>
    rw [addition, Item.isIn_field, beq_iff_eq]
    exact h.selectors selector hselector hcommented
  | true =>
    rw [addition, Item.commentOut, Item.isIn_comment]
    exact Bool.false_ne_true

end Spares

/-- An action keeps the values of every name that it spares. -/
theorem values_apply {selection : FieldSelection} {action : SetAction} {name : String}
    (h : selection.Spares action name) (record : Record) :
    (selection.apply action record).values name = record.values name := by
  apply Record.values_congr
  rw [apply_items, List.filter_append, h.filter_changed, h.filter_additions, List.append_nil]

end FieldSelection

end TextRecords
