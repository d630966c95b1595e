import TextRecords.Proofs.FieldSelection.Picked

/-!
# Items in the places of picked ones

Every action but deletion makes one item of each picked one, so that what it makes stands at its
place and the other items stay at theirs (`FieldSelection.replaced_changed`). A deletion leaves the
items that are not picked (`FieldSelection.changed_delete`).

For selectors of plain fields, what is picked is what the names and the numbers of the fields say
(`Selector.picks_iff`), and projections and actions pick the same fields
(`FieldSelection.project_apply_picked`).
-/

namespace TextRecords

/-- Items in the places of other ones: at the picked positions stands something that is made of the
fields that were held there, and at the other positions what stood there before. -/
structure Item.Replaced (picks : Nat → Bool) (replacement : Field → Bool → Item)
    (before after : List Item) : Prop where
  length_eq : after.length = before.length
  unpicked : ∀ position, picks position = false → after[position]? = before[position]?
  picked : ∀ position, picks position = true → ∃ item field commented,
    before[position]? = some item ∧ item.held? = some (field, commented) ∧
      after[position]? = some (replacement field commented)

/-- An item that holds a field without being a comment is the field. -/
theorem Item.eq_field_of_held? {item : Item} {field : Field}
    (h : item.held? = some (field, false)) : item = .field field := by
  cases item with
  | field other => rw [(held?_field_eq_some_iff.1 h).1]
  | comment text => cases (held?_comment_eq_some_iff.1 h).2

namespace Selector

variable {selector : Selector} {items : List Item} {position : Nat}

/-- What a selector picks holds a field of its name, commented out if the selector is for such
fields. -/
theorem exists_held_of_picks (h : selector.picks items position = true) :
    ∃ item field, items[position]? = some item ∧
      item.held? = some (field, selector.commented) ∧ field.name = selector.name := by
  obtain ⟨item, hitem, hin⟩ := (Option.any_eq_true _ _).1 (Bool.and_eq_true_iff.1 h).1
  obtain ⟨⟨field, commented⟩, hheld, hlane⟩ := Option.map_eq_some_iff.1 (eq_of_beq hin)
  obtain ⟨hname, rfl⟩ := Prod.mk.inj hlane
  exact ⟨item, field, hitem, hheld, hname⟩

/-- A selector of plain fields picks the fields of its name whose numbers are among its
occurrences. -/
theorem picks_iff (hplain : selector.commented = false) :
    selector.picks items position = true ↔
      ∃ field, items[position]? = some (.field field) ∧ field.name = selector.name ∧
        selector.occurrences.contains
          (Record.count { items := items.take position } selector.name) = true := by
  have hcount : (items.take position).countP (·.isIn selector.lane) =
      Record.count { items := items.take position } selector.name := by
    rw [lane, hplain, List.countP_eq_length_filter, Item.filter_isIn_plain, List.length_map,
      Record.count, Record.values, List.length_map]
    rfl
  constructor
  · intro h
    obtain ⟨item, field, hitem, hheld, hname⟩ := exists_held_of_picks h
    rw [hplain] at hheld
    rw [Item.eq_field_of_held? hheld] at hitem
    exact ⟨field, hitem, hname, hcount ▸ (Bool.and_eq_true_iff.1 h).2⟩
  · rintro ⟨field, hitem, hname, hcontains⟩
    have hin : (Item.field field).isIn selector.lane = true := by
      rw [lane, hplain, Item.isIn_field, hname, beq_self_eq_true]
    rw [picks, hitem, Option.any_some, hin, hcount, hcontains, Bool.and_self]

end Selector

namespace FieldSelection

variable {selection : FieldSelection} {action : SetAction} {items : List Item}

/-- What is picked is picked by one of the selectors. -/
theorem picks_iff {position : Nat} :
    selection.picks items position = true ↔
      ∃ selector ∈ selection.selectors, selector.picks items position = true :=
  List.any_eq_true

/-- An action that makes one item of each picked one leaves it at the place of that one. -/
theorem replaced_changed {replacement : Field → Bool → Item}
    (h : ∀ selector ∈ selection.selectors, ∀ field,
      action.items field selector.commented = [replacement field selector.commented]) :
    Item.Replaced (selection.picks items) replacement items (selection.changed action items) := by
  -- What is picked holds a field in the way of a selector, so one item is made of it.
  have hpicked : ∀ position, selection.picks items position = true → ∃ item field commented,
      items[position]? = some item ∧ item.held? = some (field, commented) ∧
        action.replacement item = [replacement field commented] := by
    intro position hpicks
    obtain ⟨selector, hselector, hpicks⟩ := picks_iff.1 hpicks
    obtain ⟨item, field, hitem, hheld, -⟩ := Selector.exists_held_of_picks hpicks
    refine ⟨item, field, selector.commented, hitem, hheld, ?_⟩
    rw [SetAction.replacement, hheld]
    exact h selector hselector field
  have hone : ∀ position item, items[position]? = some item → ∃ made,
      (if selection.picks items position then action.replacement item else [item]) = [made] := by
    intro position item hget
    split
    · next hpicks =>
      obtain ⟨other, field, commented, hother, -, hmade⟩ := hpicked position hpicks
      obtain rfl : other = item := Option.some.inj (hother.symm.trans hget)
      exact ⟨_, hmade⟩
    · exact ⟨item, rfl⟩
  -- As one item is made at each position, none of them moves.
  obtain ⟨hlength, hplaces⟩ := flatten_mapIdx_of_singletons hone
  refine ⟨hlength, fun position hpicks => ?_, fun position hpicks => ?_⟩
  · cases hget : items[position]? with
    | none => exact List.getElem?_eq_none (hlength ▸ List.getElem?_eq_none_iff.1 hget)
    | some item => exact hplaces position item item hget (if_neg (by simp [hpicks]))
  · obtain ⟨item, field, commented, hitem, hheld, hmade⟩ := hpicked position hpicks
    exact ⟨item, field, commented, hitem, hheld,
      hplaces position item _ hitem ((if_pos hpicks).trans hmade)⟩

/-- A deletion leaves the items that are not picked. -/
theorem changed_delete (selection : FieldSelection) (items : List Item) :
    selection.changed .delete items =
      elementsAt (fun position => !selection.picks items position) items := by
  have hdelete : ∀ item, SetAction.delete.replacement item = [] := by
    intro item
    unfold SetAction.replacement
    split
    · next field commented _ => cases commented <;> rfl
    · rfl
  rw [← flatten_mapIdx_eq_elementsAt, changed]
  congr 2
  funext position item
  rw [hdelete]
  cases selection.picks items position <;> rfl

/-- When no selector is for fields that are commented out, projections and actions regard the same
fields: those that have the name of a selector and whose number, counted among the fields of this
name, is one of its occurrences. A projection shows the fields that each selector picks, in the
order of the record. A deletion leaves what is not picked, and a renaming, a new value and
commenting out leave something else in the place of each picked field and all other items as they
are. -/
theorem project_apply_picked (selection : FieldSelection)
    (hplain : ∀ selector ∈ selection.selectors, selector.commented = false) (record : Record) :
    (∀ selector ∈ selection.selectors, ∀ position,
        selector.picks record.items position = true ↔
          ∃ field, record.items[position]? = some (.field field) ∧ field.name = selector.name ∧
            selector.occurrences.contains
              (Record.count { items := record.items.take position } selector.name) = true) ∧
      (selection.project record).items =
        selection.selectors.flatMap (fun selector =>
          ((elementsAt (selector.picks record.items) record.items).filterMap Item.field?).map
            fun field => .field ⟨selector.outputName, field.value⟩) ∧
      (selection.apply .delete record).items =
        elementsAt (fun position => !selection.picks record.items position) record.items ∧
      (∀ name, Item.Replaced (selection.picks record.items)
        (fun field _ => .field ⟨name, field.value⟩) record.items
        (selection.apply (.rename name) record).items) ∧
      (∀ value, Item.Replaced (selection.picks record.items)
        (fun field _ => .field ⟨field.name, value⟩) record.items
        (selection.apply (.set value) record).items) ∧
      Item.Replaced (selection.picks record.items) (fun field _ => .comment field.text) record.items
        (selection.apply .comment record).items := by
  -- None of these actions adds anything to what it makes of the items.
  have hreplaced : ∀ (action : SetAction) (replacement : Field → Bool → Item),
      (∀ pickers, selection.additions action pickers = []) →
      (∀ field, action.items field false = [replacement field false]) →
      Item.Replaced (selection.picks record.items) replacement record.items
        (selection.apply action record).items := by
    intro action replacement hnone hitems
    rw [apply_items, hnone, List.append_nil]
    refine replaced_changed fun selector hselector field => ?_
    rw [hplain selector hselector, hitems]
  refine ⟨fun selector hselector position => Selector.picks_iff (hplain selector hselector), ?_, ?_,
    fun name => ?_, fun value => ?_, ?_⟩
  · exact List.flatMap_congr fun selector hselector =>
      Selector.project_eq (hplain selector hselector) record
  · rw [apply_items, changed_delete]
    exact List.append_nil _
  · exact hreplaced (.rename name) _ (fun _ => rfl) fun _ => rfl
  · exact hreplaced (.set value) _ (fun _ => rfl) fun _ => rfl
  · exact hreplaced .comment _ (fun _ => rfl) fun _ => rfl

/-- Three authors and a comment, which reads as a fourth one. -/
def authorsSpecimen : Record where
  items := [.field ⟨"author", "Ann"⟩, .comment "author: Dee", .field ⟨"author", "Bob"⟩,
    .field ⟨"title", "Runes"⟩, .field ⟨"author", "Cy"⟩]

/-- Two selectors pick the second author. The projection shows that one twice, and the deletion
leaves the first author, the comment and the title. -/
theorem project_apply_picked_authorsSpecimen :
    let selection : FieldSelection :=
      ⟨"author[1-2]:writer,author[1]",
        [⟨"author", .range 1 2, some "writer", false⟩, ⟨"author", .one 1, none, false⟩]⟩
    (∀ selector ∈ selection.selectors, selector.commented = false) ∧
      (selection.project authorsSpecimen).items =
        [.field ⟨"writer", "Bob"⟩, .field ⟨"writer", "Cy"⟩, .field ⟨"author", "Bob"⟩] ∧
      (selection.apply .delete authorsSpecimen).items =
        [.field ⟨"author", "Ann"⟩, .comment "author: Dee", .field ⟨"title", "Runes"⟩] ∧
      (selection.apply (.set "Eve") authorsSpecimen).items.length = 5 ∧
      (selection.apply .comment authorsSpecimen).items[4]? = some (.comment "author: Cy") := by
  intro selection
  have hplain : ∀ selector ∈ selection.selectors, selector.commented = false := by decide
  obtain ⟨-, hproject, hdelete, -, hset, hcomment⟩ :=
    project_apply_picked selection hplain authorsSpecimen
  refine ⟨hplain, hproject.trans (by decide +kernel), hdelete.trans (by decide +kernel),
    (hset "Eve").length_eq, ?_⟩
  obtain ⟨item, field, commented, hitem, hheld, hreplaced⟩ :=
    hcomment.picked 4 (by decide +kernel)
  obtain rfl : _ = item := Option.some.inj hitem
  obtain ⟨rfl, -⟩ := Item.held?_field_eq_some_iff.1 hheld
  exact hreplaced.trans (by decide +kernel)

end FieldSelection

end TextRecords
