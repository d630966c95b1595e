import TextRecords.FieldSelection.Action
import TextRecords.Proofs.Positions

/-!
# The items that selectors pick

An item is in the lane of the field that it holds. A selector picks the items of its lane whose
numbers, counted among the items of this lane, are among its occurrences (`Selector.picks`).

Both ways in which selectors are used come down to this. A projection takes the fields of one name
and picks from them (`Selector.project_eq`). An action goes through the items, counts the lanes as
it goes, and looks for the first selector that picks an item; so the items that it makes are those
of the record, each changed where a selector picks it, and those that it adds
(`FieldSelection.apply_items`).
-/

namespace TextRecords

/-- The lane of the field that an item holds. -/
def Item.lane? (item : Item) : Option Lane :=
  item.held?.map fun held => (held.1.name, held.2)

/-- Whether an item holds a field of a lane. -/
def Item.isIn (item : Item) (lane : Lane) : Bool :=
  item.lane? == some lane

/-- Whether a selector picks the item at a position: the item is in the lane of the selector, and
the number of items in front of it that are in this lane is one of the occurrences. -/
def Selector.picks (selector : Selector) (items : List Item) (position : Nat) : Bool :=
  items[position]?.any (·.isIn selector.lane) &&
    selector.occurrences.contains ((items.take position).countP (·.isIn selector.lane))

/-- What an action puts in the place of an item that a selector picks. -/
def SetAction.replacement (action : SetAction) (item : Item) : List Item :=
  match item.held? with
  | some (field, commented) => action.items field commented
  | none => []

namespace FieldSelection

/-- Whether one of the selectors picks the item at a position. -/
def picks (selection : FieldSelection) (items : List Item) (position : Nat) : Bool :=
  selection.selectors.any (·.picks items position)

/-- The position of the first selector that picks the item at a position. -/
def picker? (selection : FieldSelection) (items : List Item) (position : Nat) : Option Nat :=
  selection.selectors.findIdx? (·.picks items position)

/-- The positions of the selectors that are the first ones to pick an item, item by item. -/
def pickers (selection : FieldSelection) (items : List Item) : List Nat :=
  (List.range items.length).filterMap (selection.picker? items)

/-- What an action makes of the item at a position, with the first selector that picks it. -/
def change (selection : FieldSelection) (action : SetAction) (items : List Item) (position : Nat)
    (item : Item) : List Item × Option Nat :=
  (if selection.picks items position then action.replacement item else [item],
    selection.picker? items position)

/-- Items with an action applied to those that selectors pick, without what the action adds. -/
def changed (selection : FieldSelection) (action : SetAction) (items : List Item) : List Item :=
  (items.mapIdx fun position item =>
    if selection.picks items position then action.replacement item else [item]).flatten

end FieldSelection

namespace Item

variable {item : Item} {lane : Lane}

/-- An item that holds a field is in the lane of the field. -/
theorem isIn_of_held? {field : Field} {commented : Bool} (h : item.held? = some (field, commented))
    (lane : Lane) : item.isIn lane = (lane == (field.name, commented)) := by
  rw [isIn, lane?, h, Option.map_some, Bool.beq_comm]
  rfl

/-- An item that holds no field is in no lane. -/
theorem isIn_of_held?_eq_none (h : item.held? = none) (lane : Lane) : item.isIn lane = false := by
  rw [isIn, lane?, h]
  rfl

/-- The items of a lane are counted on with each item. -/
theorem countP_isIn_concat (items : List Item) (item : Item) (lane : Lane) :
    (items ++ [item]).countP (·.isIn lane) =
      items.countP (·.isIn lane) + if item.isIn lane then 1 else 0 := by
  rw [List.countP_append, List.countP_singleton]

/-- A field is in the plain lane of its name. -/
theorem isIn_field (field : Field) (name : String) :
    (Item.field field).isIn (name, false) = (field.name == name) := by
  rw [isIn_of_held? rfl, Bool.beq_comm]
  simp

/-- A comment may denote a field, but one that is commented out. -/
theorem isIn_comment (text name : String) : (Item.comment text).isIn (name, false) = false := by
  cases hheld : (Item.comment text).held? with
  | none => exact isIn_of_held?_eq_none hheld _
  | some held =>
    have hcommented : held.2 = true := (held?_comment_eq_some_iff.1 hheld).2
    rw [isIn_of_held? hheld, hcommented]
    simp

/-- The items of a plain lane are the fields of its name. -/
theorem filter_isIn_plain (items : List Item) (name : String) :
    items.filter (·.isIn (name, false)) =
      ((items.filterMap field?).filter (·.name == name)).map .field := by
  induction items with
  | nil => rfl
  | cons item rest ih =>
    cases item with
    | field f =>
      have hfields : (Item.field f :: rest).filterMap field? = f :: rest.filterMap field? := rfl
      rw [hfields, List.filter_cons, List.filter_cons, isIn_field, ih]
      split
      · rfl
      · rfl
    | comment text =>
      rw [List.filterMap_cons_none rfl, List.filter_cons_of_neg (by simp [isIn_comment]), ih]

end Item

namespace Selector

variable {selector : Selector}

/-- The picked ones of the items of a lane are the items at the picked positions. -/
theorem pick_filter_isIn (selector : Selector) (items : List Item) :
    selector.occurrences.pick (items.filter (·.isIn selector.lane)) =
      elementsAt (selector.picks items) items :=
  elementsAt_filter _ _ items

/-- A selector of plain fields projects the picked fields in the order of the record, each with its
value, under the name of the projection. -/
theorem project_eq (h : selector.commented = false) (record : Record) :
    selector.project record =
      ((elementsAt (selector.picks record.items) record.items).filterMap Item.field?).map
        fun field => .field ⟨selector.outputName, field.value⟩ := by
  have hlane : selector.lane = (selector.name, false) := by rw [lane, h]
  rw [← pick_filter_isIn, hlane, Item.filter_isIn_plain, project, if_neg (by simp [h])]
  unfold Occurrences.pick Record.values Record.fields
  rw [elementsAt_map, elementsAt_map, List.map_map, List.filterMap_map]
  exact congrArg (List.map _) List.filterMap_some.symm

/-- A selector picks no item behind the last one. -/
theorem lt_length_of_picks {items : List Item} {position : Nat}
    (h : selector.picks items position = true) : position < items.length := by
  by_contra hle
  rw [picks, List.getElem?_eq_none (Nat.not_lt.1 hle)] at h
  cases h

/-- Whether a selector picks an item depends on the items in front of it. -/
theorem picks_append_cons (selector : Selector) (before : List Item) (item : Item)
    (after : List Item) :
    selector.picks (before ++ item :: after) before.length =
      (item.isIn selector.lane &&
        selector.occurrences.contains (before.countP (·.isIn selector.lane))) := by
  rw [picks, List.take_left, List.getElem?_append_right (Nat.le_refl _), Nat.sub_self]
  rfl

end Selector

namespace FieldSelection

variable {selection : FieldSelection} {action : SetAction}

/-- An item is picked when there is a first selector that picks it. -/
theorem isSome_picker? (selection : FieldSelection) (items : List Item) (position : Nat) :
    (selection.picker? items position).isSome = selection.picks items position :=
  List.findIdx?_isSome

/-- The selector that an action finds for an item is the first one that picks it. -/
theorem selector?_eq_picker? {lanes : List Lane} {before : List Item}
    (hlanes : ∀ lane, lanes.count lane = before.countP (·.isIn lane)) {item : Item} {field : Field}
    {commented : Bool} (h : item.held? = some (field, commented)) (after : List Item) :
    selection.selector? (field.name, commented) (lanes.count (field.name, commented)) =
      selection.picker? (before ++ item :: after) before.length := by
  unfold selector? picker?
  congr 1
  funext selector
  rw [Selector.picks_append_cons, Item.isIn_of_held? h]
  -- Only a selector of the same lane regards the number, and the lane has been counted.
  by_cases hlane : selector.lane = (field.name, commented)
  · rw [hlane, hlanes]
  · rw [beq_false_of_ne hlane, Bool.false_and, Bool.false_and]

/-- No selector picks an item that holds no field. -/
theorem picker?_eq_none (selection : FieldSelection) (before : List Item) {item : Item}
    (h : item.held? = none) (after : List Item) :
    selection.picker? (before ++ item :: after) before.length = none := by
  unfold picker?
  rw [List.findIdx?_eq_none_iff]
  intro selector _
  rw [Selector.picks_append_cons, Item.isIn_of_held?_eq_none h, Bool.false_and]

/-- The changes of items behind other ones whose lanes are counted are those of the items among all
of them. -/
theorem changesAfter_eq {lanes : List Lane} {before : List Item}
    (hlanes : ∀ lane, lanes.count lane = before.countP (·.isIn lane)) (items : List Item) :
    selection.changesAfter action lanes items =
      items.mapIdx fun position =>
        selection.change action (before ++ items) (before.length + position) := by
  induction items generalizing lanes before with
  | nil => rfl
  | cons item rest ih =>
    -- The rest is behind one item more, whose lane is counted if it has one.
    have hrest : ∀ lanes : List Lane,
        (∀ lane, lanes.count lane = (before ++ [item]).countP (·.isIn lane)) →
        selection.changesAfter action lanes rest =
          rest.mapIdx fun position =>
            selection.change action (before ++ item :: rest) (before.length + (position + 1)) := by
      intro lanes hlanes
      rw [ih hlanes, List.append_assoc, List.singleton_append, List.length_append,
        List.length_singleton]
      simp only [Nat.add_assoc, Nat.add_comm 1]
    rw [List.mapIdx_cons, Nat.add_zero]
    unfold changesAfter
    cases hheld : item.held? with
    | none =>
      have hcount : ∀ lane, lanes.count lane = (before ++ [item]).countP (·.isIn lane) := by
        intro lane
        rw [Item.countP_isIn_concat, Item.isIn_of_held?_eq_none hheld, if_neg Bool.false_ne_true,
          hlanes, Nat.add_zero]
      dsimp only
      rw [hrest lanes hcount, change, ← isSome_picker?, picker?_eq_none selection before hheld]
      rfl
    | some held =>
      obtain ⟨field, commented⟩ := held
      have hcount : ∀ lane, ((field.name, commented) :: lanes).count lane =
          (before ++ [item]).countP (·.isIn lane) := by
        intro lane
        rw [Item.countP_isIn_concat, Item.isIn_of_held? hheld, List.count_cons, hlanes,
          Bool.beq_comm]
      dsimp only
      rw [hrest _ hcount, selector?_eq_picker? hlanes hheld rest, change, ← isSome_picker?,
        SetAction.replacement, hheld]
      -- What is made of the item and whether it is picked are both read off the first picker.
      cases selection.picker? (before ++ item :: rest) before.length with
      | none => rfl
      | some position => rfl

/-- Some selector is the first one to pick an item when its position is among those of the
pickers. -/
theorem mem_pickers_iff {items : List Item} {index : Nat} :
    index ∈ selection.pickers items ↔
      ∃ position, selection.picker? items position = some index := by
  rw [pickers, List.mem_filterMap]
  refine ⟨fun ⟨position, _, h⟩ => ⟨position, h⟩, fun ⟨position, h⟩ => ⟨position, ?_, h⟩⟩
  have hpicks : selection.picks items position = true := by rw [← isSome_picker?, h]; rfl
  obtain ⟨selector, -, hselector⟩ := List.any_eq_true.1 hpicks
  exact List.mem_range.2 (Selector.lt_length_of_picks hselector)

/-- A record to which an action is applied has the items that the action makes of its own, and
those that it adds for want of a selector that picks something. -/
theorem apply_items (selection : FieldSelection) (action : SetAction) (record : Record) :
    (selection.apply action record).items =
      selection.changed action record.items ++
        selection.additions action (selection.pickers record.items) := by
  have hchanges := @changesAfter_eq selection action [] [] (fun _ => rfl) record.items
  simp only [List.nil_append, List.length_nil, Nat.zero_add] at hchanges
  have hitems : (selection.changesAfter action [] record.items).flatMap Prod.fst =
      selection.changed action record.items := by
    rw [hchanges, changed, List.flatMap_def, List.mapIdx_eq_zipIdx_map, List.mapIdx_eq_zipIdx_map,
      List.map_map]
    rfl
  have hpickers : (selection.changesAfter action [] record.items).filterMap Prod.snd =
      selection.pickers record.items := by
    rw [hchanges, pickers, List.mapIdx_eq_zipIdx_map, List.filterMap_map, List.range_eq_range',
      ← List.zipIdx_map_snd, List.filterMap_map]
    rfl
  rw [apply, hitems, hpickers]

end FieldSelection

end TextRecords
