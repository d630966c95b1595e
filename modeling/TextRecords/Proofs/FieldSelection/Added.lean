import TextRecords.Proofs.Field.Commented
import TextRecords.Proofs.FieldSelection.Replaced
import TextRecords.Proofs.Lists

/-!
# What actions add

The action that sets or adds, and the one that adds, write new fields behind the items of a record,
one in every lane where they add. What they make of the items themselves stays at its place.

Whether a selector has picked something is noted only for the first one that picks an item, so the
action that sets or adds takes a selector for one without fields when those in front of it pick all
that it picks (`Selector.IsShadowed`). It adds in the lanes of such selectors
(`FieldSelection.apply_setOrAdd_shadowed`); where no two selectors pick the same item, these are the
selectors that pick nothing, and otherwise a field may be added beside one that is present
(`FieldSelection.setOrAdd_adds_beside_present`).

The action that adds leaves every field as it is. A picked comment is read and written again, which
keeps the field that it denotes, and keeps the comment if that is how the field is written
(`FieldSelection.apply_add_written`, `FieldSelection.add_rewrites_comment`).
-/

namespace TextRecords

/-- An item that holds a field, commented out or not. -/
def Item.holding (field : Field) (commented : Bool) : Item :=
  if commented then commentOut field else .field field

/-- A field that is commented out is held so, if it has a proper name. -/
theorem Item.held?_commentOut {field : Field} (h : field.isNamed = true) :
    (commentOut field).held? = some (field, true) := by
  rw [commentOut, held?, Field.ofText?_text h]
  rfl

/-- An item made to hold a field that is held somewhere else holds it in the same way. -/
theorem Item.held?_holding {item : Item} {field : Field} {commented : Bool}
    (h : item.held? = some (field, commented)) :
    (holding field commented).held? = some (field, commented) := by
  cases item with
  | field other =>
    obtain ⟨-, rfl⟩ := held?_field_eq_some_iff.1 h
    rfl
  | comment text =>
    obtain ⟨hfield, rfl⟩ := held?_comment_eq_some_iff.1 h
    exact held?_commentOut (Field.isNamed_of_ofText? hfield)

/-- An item is the one made to hold what it holds, unless it is a comment that is written in another
way. -/
theorem Item.holding_eq_iff {item : Item} {field : Field} {commented : Bool}
    (h : item.held? = some (field, commented)) :
    holding field commented = item ↔ ∀ text, item = .comment text → field.text = text := by
  cases item with
  | field other =>
    obtain ⟨rfl, rfl⟩ := held?_field_eq_some_iff.1 h
    exact ⟨fun _ text => nofun, fun _ => rfl⟩
  | comment text =>
    obtain ⟨-, rfl⟩ := held?_comment_eq_some_iff.1 h
    refine ⟨fun hsame written hwritten => ?_, fun hwritten => ?_⟩
    · rw [← Item.comment.inj hwritten]
      exact Item.comment.inj hsame
    · exact congrArg Item.comment (hwritten text rfl)

section Replaced

variable {picks : Nat → Bool} {before after : List Item}

/-- Items in whose places others hold the same fields hold the same fields. -/
theorem Item.Replaced.map_held? (h : Item.Replaced picks Item.holding before after) :
    after.map Item.held? = before.map Item.held? := by
  refine List.ext_getElem? fun position => ?_
  rw [List.getElem?_map, List.getElem?_map]
  cases hpicks : picks position with
  | false => rw [h.unpicked position hpicks]
  | true =>
    obtain ⟨item, field, commented, hitem, hheld, hnext⟩ := h.picked position hpicks
    rw [hnext, hitem, Option.map_some, Option.map_some, hheld, Item.held?_holding hheld]

/-- Items in whose places others hold the same fields are the same ones when the picked comments are
written as the fields that they denote. -/
theorem Item.Replaced.eq_iff (h : Item.Replaced picks Item.holding before after) :
    after = before ↔
      ∀ position text field, picks position = true → before[position]? = some (.comment text) →
        Field.ofText? text.toList = some field → field.text = text := by
  constructor
  · rintro rfl position text field hpicks hcomment htext
    obtain ⟨item, other, commented, hitem, hheld, hnext⟩ := h.picked position hpicks
    have hsame : Item.holding other commented = item :=
      Option.some.inj (hnext.symm.trans hitem)
    obtain rfl : item = .comment text := Option.some.inj (hitem.symm.trans hcomment)
    have hread := (Item.held?_comment_eq_some_iff.1 hheld).1
    obtain rfl : other = field := Option.some.inj (hread.symm.trans htext)
    exact (Item.holding_eq_iff hheld).1 hsame text rfl
  · intro hwritten
    refine List.ext_getElem? fun position => ?_
    cases hpicks : picks position with
    | false => exact h.unpicked position hpicks
    | true =>
      obtain ⟨item, field, commented, hitem, hheld, hnext⟩ := h.picked position hpicks
      rw [hnext, hitem, (Item.holding_eq_iff hheld).2]
      rintro text rfl
      exact hwritten position text field hpicks hitem (Item.held?_comment_eq_some_iff.1 hheld).1

end Replaced

/-- A selector is shadowed by others when they pick all that it picks. -/
def Selector.IsShadowed (selector : Selector) (others : List Selector) (items : List Item) : Prop :=
  ∀ position, selector.picks items position = true →
    ∃ other ∈ others, other.picks items position = true

namespace FieldSelection

variable {selection : FieldSelection} {items : List Item}

/-- The lanes of the selectors that are not the first ones to pick any item, each once. -/
def shadowedLanes (selection : FieldSelection) (items : List Item) : List Lane :=
  ((selection.selectors.zipIdx.filter fun (_, index) =>
    !(selection.pickers items).contains index).map fun (selector, _) => selector.lane).eraseDups

/-- A selector is not the first one to pick any item when those in front of it shadow it. -/
theorem notMem_pickers_iff {index : Nat} {selector : Selector}
    (h : selection.selectors[index]? = some selector) :
    index ∉ selection.pickers items ↔
      selector.IsShadowed (selection.selectors.take index) items := by
  obtain ⟨hlt, hget⟩ := List.getElem?_eq_some_iff.1 h
  rw [mem_pickers_iff, not_exists]
  refine forall_congr' fun position => ?_
  -- The first selector that picks an item is this one when it picks it and none in front does.
  rw [picker?, List.findIdx?_eq_some_iff_getElem]
  constructor
  · intro hnone hpicks
    by_contra hfree
    refine hnone ⟨hlt, hget ▸ hpicks, fun earlier hearlier hother => hfree ⟨_, ?_, hother⟩⟩
    exact List.mem_take_iff_getElem.2 ⟨earlier, Nat.lt_min.2 ⟨hearlier, hearlier.trans hlt⟩, rfl⟩
  · rintro hshadowed ⟨_, hpicks, hfirst⟩
    obtain ⟨other, hmem, hother⟩ := hshadowed (hget ▸ hpicks)
    obtain ⟨earlier, hearlier, rfl⟩ := List.mem_take_iff_getElem.1 hmem
    exact hfirst earlier (Nat.lt_min.1 hearlier).1 hother

/-- The action that sets or adds does so in the lanes of shadowed selectors. -/
theorem mem_shadowedLanes_iff {lane : Lane} :
    lane ∈ selection.shadowedLanes items ↔
      ∃ (index : Nat) (selector : Selector), selection.selectors[index]? = some selector ∧
        selector.lane = lane ∧
        selector.IsShadowed (selection.selectors.take index) items := by
  rw [shadowedLanes, List.mem_eraseDups, List.mem_map]
  constructor
  · rintro ⟨⟨selector, index⟩, hmem, rfl⟩
    obtain ⟨hzip, hpickers⟩ := List.mem_filter.1 hmem
    have hselector := List.mem_zipIdx_iff_getElem?.1 hzip
    refine ⟨index, selector, hselector, rfl, (notMem_pickers_iff hselector).1 ?_⟩
    simpa using hpickers
  · rintro ⟨index, selector, hselector, rfl, hshadowed⟩
    have hpickers := (notMem_pickers_iff hselector).2 hshadowed
    exact ⟨(selector, index), List.mem_filter.2
      ⟨List.mem_zipIdx_iff_getElem?.2 hselector, by simpa using hpickers⟩, rfl⟩

/-- There are no such lanes when each selector is the first one to pick some item. -/
theorem shadowedLanes_eq_nil_iff :
    selection.shadowedLanes items = [] ↔
      ∀ (index : Nat) (selector : Selector), selection.selectors[index]? = some selector →
        ¬selector.IsShadowed (selection.selectors.take index) items := by
  rw [List.eq_nil_iff_forall_not_mem]
  constructor
  · intro hnone index selector hselector hshadowed
    exact hnone selector.lane
      (mem_shadowedLanes_iff.2 ⟨index, selector, hselector, rfl, hshadowed⟩)
  · intro hnone lane hmem
    obtain ⟨index, selector, hselector, -, hshadowed⟩ := mem_shadowedLanes_iff.1 hmem
    exact hnone index selector hselector hshadowed

/-- Setting puts the value into each picked field, which stays commented out if it is. -/
theorem replaced_setOrAdd (selection : FieldSelection) (value : String) (items : List Item) :
    Item.Replaced (selection.picks items)
      (fun field commented => .holding ⟨field.name, value⟩ commented) items
      (selection.changed (.setOrAdd value) items) := by
  refine replaced_changed fun selector _ field => ?_
  cases selector.commented <;> rfl

/-- Adding leaves each picked field as it is, and writes it again if it is commented out. -/
theorem replaced_add (selection : FieldSelection) (value : String) (items : List Item) :
    Item.Replaced (selection.picks items) .holding items
      (selection.changed (.add value) items) := by
  refine replaced_changed fun selector _ field => ?_
  cases selector.commented <;> rfl

/-- Where no two selectors pick the same item, those that are shadowed pick nothing. -/
theorem isShadowed_iff {index : Nat} {selector : Selector}
    (hdisjoint : selection.selectors.Pairwise fun first second => ∀ position,
      ¬(first.picks items position = true ∧ second.picks items position = true))
    (h : selection.selectors[index]? = some selector) :
    selector.IsShadowed (selection.selectors.take index) items ↔
      ∀ position, selector.picks items position = false := by
  refine forall_congr' fun position => ?_
  constructor
  · intro hshadowed
    rw [← Bool.not_eq_true]
    intro hpicks
    -- The one that shadows it would pick the same item.
    obtain ⟨other, hmem, hother⟩ := hshadowed hpicks
    obtain ⟨earlier, hearlier, rfl⟩ := List.mem_take_iff_getElem.1 hmem
    obtain ⟨hlt, rfl⟩ := List.getElem?_eq_some_iff.1 h
    exact List.pairwise_iff_getElem.1 hdisjoint earlier index (Nat.lt_min.1 hearlier).2 hlt
      (Nat.lt_min.1 hearlier).1 position ⟨hother, hpicks⟩
  · intro hnone hpicks
    rw [hnone] at hpicks
    cases hpicks

/-- Where no two selectors pick the same item, they are the lanes of the selectors that pick
nothing. -/
theorem mem_shadowedLanes_iff_of_disjoint {lane : Lane}
    (hdisjoint : selection.selectors.Pairwise fun first second => ∀ position,
      ¬(first.picks items position = true ∧ second.picks items position = true)) :
    lane ∈ selection.shadowedLanes items ↔ ∃ selector ∈ selection.selectors,
      selector.lane = lane ∧ ∀ position, selector.picks items position = false := by
  rw [mem_shadowedLanes_iff]
  constructor
  · rintro ⟨index, selector, hselector, hlane, hshadowed⟩
    exact ⟨selector, List.mem_of_getElem? hselector, hlane,
      (isShadowed_iff hdisjoint hselector).1 hshadowed⟩
  · rintro ⟨selector, hmem, hlane, hnone⟩
    obtain ⟨index, hselector⟩ := List.getElem?_of_mem hmem
    exact ⟨index, selector, hselector, hlane, (isShadowed_iff hdisjoint hselector).2 hnone⟩

/-- The action that sets or adds puts the value into every picked field at its place, and adds a
field in each lane of which some selector is shadowed by those in front of it. So no field is added
when each selector is the first one to pick some item, and where no two selectors pick the same
item, one is added in the lanes of the selectors that pick nothing. -/
theorem apply_setOrAdd_shadowed (selection : FieldSelection) (value : String) (record : Record) :
    ∃ (kept : List Item) (lanes : List Lane),
      (selection.apply (.setOrAdd value) record).items = kept ++ lanes.map (addition value) ∧
      Item.Replaced (selection.picks record.items)
        (fun field commented => .holding ⟨field.name, value⟩ commented) record.items kept ∧
      lanes.Nodup ∧
      (∀ lane, lane ∈ lanes ↔
        ∃ (index : Nat) (selector : Selector), selection.selectors[index]? = some selector ∧
          selector.lane = lane ∧
          selector.IsShadowed (selection.selectors.take index) record.items) ∧
      ((selection.apply (.setOrAdd value) record).items.length = record.items.length ↔
        ∀ (index : Nat) (selector : Selector), selection.selectors[index]? = some selector →
          ¬selector.IsShadowed (selection.selectors.take index) record.items) ∧
      (selection.selectors.Pairwise (fun first second => ∀ position,
          ¬(first.picks record.items position = true ∧
            second.picks record.items position = true)) →
        ∀ lane, lane ∈ lanes ↔ ∃ selector ∈ selection.selectors, selector.lane = lane ∧
          ∀ position, selector.picks record.items position = false) := by
  have hitems : (selection.apply (.setOrAdd value) record).items =
      selection.changed (.setOrAdd value) record.items ++
        (selection.shadowedLanes record.items).map (addition value) :=
    selection.apply_items (.setOrAdd value) record
  have hkept := selection.replaced_setOrAdd value record.items
  refine ⟨_, _, hitems, hkept, nodup_eraseDups _, fun lane => mem_shadowedLanes_iff, ?_, ?_⟩
  · -- As many items are added as there are lanes.
    rw [hitems, List.length_append, hkept.length_eq, List.length_map, Nat.add_eq_left,
      List.length_eq_zero_iff, shadowedLanes_eq_nil_iff]
  · exact fun hdisjoint lane => mem_shadowedLanes_iff_of_disjoint hdisjoint

/-- Both selectors pick the field, but the second one is not the first to do so: a field is added
beside the one that is present. -/
theorem setOrAdd_adds_beside_present :
    let selection : FieldSelection :=
      ⟨"a a", [⟨"a", .all, none, false⟩, ⟨"a", .all, none, false⟩]⟩
    let record : Record := { items := [.field ⟨"a", "1"⟩] }
    (∀ selector ∈ selection.selectors,
        selector.commented = false ∧ selector.picks record.items 0 = true) ∧
      (selection.apply (.setOrAdd "2") record).items = [.field ⟨"a", "2"⟩, .field ⟨"a", "2"⟩] := by
  decide +kernel

/-- The action that adds leaves every item at its place, holding the field that it held, and adds a
field in each lane of the selectors, in the order in which the lanes come first. The items are the
same ones exactly when each picked comment is the text of the field that it denotes. -/
theorem apply_add_written (selection : FieldSelection) (value : String) (record : Record) :
    ∃ kept : List Item,
      (selection.apply (.add value) record).items =
        kept ++ ((selection.selectors.map Selector.lane).eraseDups).map (addition value) ∧
      Item.Replaced (selection.picks record.items) .holding record.items kept ∧
      kept.map Item.held? = record.items.map Item.held? ∧
      (kept = record.items ↔
        ∀ position text field, selection.picks record.items position = true →
          record.items[position]? = some (.comment text) →
          Field.ofText? text.toList = some field → field.text = text) := by
  have hkept := selection.replaced_add value record.items
  exact ⟨_, selection.apply_items (.add value) record, hkept, hkept.map_held?, hkept.eq_iff⟩

/-- A commented out field that is written without a blank is written again with one. -/
theorem add_rewrites_comment :
    let selection : FieldSelection := ⟨"a%", [⟨"a", .all, none, true⟩]⟩
    let record : Record := { items := [.comment "a:1"] }
    (selection.apply (.add "2") record).items = [.comment "a: 1", .comment "a: 2"] ∧
      (selection.apply (.add "2") record).items ≠ record.items ++
        ((selection.selectors.map Selector.lane).eraseDups).map (addition "2") := by
  decide +kernel

end FieldSelection

end TextRecords
