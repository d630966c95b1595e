import TextRecords.Fault

/-!
# Actions on selected fields

An action changes every field that a field selection picks, and leaves the other items of the record
alone. Fields that are commented out stay commented out. The actions that add write new fields after
all items, one for each name.
-/

namespace TextRecords

/-- What to do with every selected field. -/
inductive SetAction where
  | rename (name : String)
  | set (value : String)
  /-- A new field is added, whether the name is present or not. -/
  | add (value : String)
  /-- The value is set where a field is selected, and a field is added where none is. -/
  | setOrAdd (value : String)
  | delete
  | comment
deriving DecidableEq, Repr

namespace SetAction

/-- An action whose new name, if it has one, is a field name. -/
def validated (action : SetAction) : Except ArgumentFault SetAction :=
  match action with
  | rename name =>
    if isFieldName name.toList then .ok action else .error (.invalidFieldName name)
  | _ => .ok action

/-- The action of a name, with its argument. -/
def ofText (action : String) (argument : Option String) : Except ArgumentFault SetAction :=
  let required := fun (build : String → SetAction) =>
    match argument with
    | some value => (build value).validated
    | none => .error (.actionWithoutArgument action)
  match action with
  | "rename" => required rename
  | "set" => required set
  | "add" => required add
  | "set-or-add" | "setadd" => required setOrAdd
  | "delete" | "delete-field" => .ok delete
  | "comment" | "comment-field" => .ok comment
  | _ => .error (.unknownAction action)

/-- What becomes of a selected field; nothing when it is deleted. -/
def change (action : SetAction) (field : Field) : Option Field :=
  match action with
  | rename name => some { field with name }
  | set value | setOrAdd value => some { field with value }
  | add _ | comment => some field
  | delete => none

/-- What becomes of a selected item: a field, or a comment that holds one. -/
def items (action : SetAction) (field : Field) (commented : Bool) : List Item :=
  if commented || action == comment then ((action.change field).map Item.commentOut).toList
  else ((action.change field).map Item.field).toList

end SetAction

/-- The field that an item holds, and whether it is commented out. -/
def Item.held? : Item → Option (Field × Bool)
  | field f => some (f, false)
  | comment text => (Field.ofText? text.toList).map (·, true)

namespace Item

variable {field : Field} {commented : Bool}

/-- A field is held as it is. -/
theorem held?_field_eq_some_iff {other : Field} :
    (Item.field other).held? = some (field, commented) ↔ other = field ∧ commented = false := by
  rw [held?, Option.some.injEq, Prod.mk.injEq, eq_comm (b := commented)]

/-- A comment holds the field that it denotes. -/
theorem held?_comment_eq_some_iff {text : String} :
    (comment text).held? = some (field, commented) ↔
      Field.ofText? text.toList = some field ∧ commented = true := by
  rw [held?, Option.map_eq_some_iff]
  constructor
  · rintro ⟨other, hother, heq⟩
    obtain ⟨rfl, rfl⟩ := Prod.mk.inj heq
    exact ⟨hother, rfl⟩
  · rintro ⟨hfield, rfl⟩
    exact ⟨field, hfield, rfl⟩

end Item

/-- A name with whether its fields are commented out. Occurrences are counted for each. -/
abbrev Lane := String × Bool

/-- The lane of a selector. -/
def Selector.lane (selector : Selector) : Lane :=
  (selector.name, selector.commented)

namespace FieldSelection

/-- The position of the first selector that picks an occurrence in a lane. -/
def selector? (selection : FieldSelection) (lane : Lane) (occurrence : Nat) : Option Nat :=
  selection.selectors.findIdx? fun selector =>
    selector.lane == lane && selector.occurrences.contains occurrence

/-- The items after those whose lanes are given, each with what becomes of it and the position of
the selector that picks it. -/
def changesAfter (selection : FieldSelection) (action : SetAction) (before : List Lane) :
    List Item → List (List Item × Option Nat)
  | [] => []
  | item :: rest =>
    match item.held? with
    | none => ([item], none) :: changesAfter selection action before rest
    | some (field, commented) =>
      let lane := (field.name, commented)
      let change := match selection.selector? lane (before.count lane) with
        | some position => (action.items field commented, some position)
        | none => ([item], none)
      change :: changesAfter selection action (lane :: before) rest

/-- A new field in a lane. -/
def addition (value : String) : Lane → Item
  | (name, false) => .field ⟨name, value⟩
  | (name, true) => .commentOut ⟨name, value⟩

/-- The lanes where an action adds a field, given the positions of the selectors that picked one,
each lane once. -/
def additions (selection : FieldSelection) (action : SetAction) (picked : List Nat) : List Item :=
  match action with
  | .add value => ((selection.selectors.map Selector.lane).eraseDups).map (addition value)
  | .setOrAdd value =>
    let absent := selection.selectors.zipIdx.filter fun (_, position) => !picked.contains position
    ((absent.map fun (selector, _) => selector.lane).eraseDups).map (addition value)
  | _ => []

/-- A record with an action applied to every selected field. -/
def apply (selection : FieldSelection) (action : SetAction) (record : Record) : Record :=
  let changes := selection.changesAfter action [] record.items
  { record with
    items := changes.flatMap Prod.fst ++
      selection.additions action (changes.filterMap Prod.snd) }

end FieldSelection

end TextRecords
