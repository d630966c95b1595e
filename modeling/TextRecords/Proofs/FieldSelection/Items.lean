import TextRecords.Proofs.Document.Assembled
import TextRecords.Proofs.Field.Commented
import TextRecords.Proofs.FieldSelection.Text

/-!
# What actions make of the items of a record

The items of a record to which an action is applied are its own, those that the action makes of the
selected ones, and those that it adds. All of them are read back from their lines when those of the
record are (`FieldSelection.isCanonical_apply`), since the names that selections and actions bring
in are field names (`FieldSelection.isFieldName_of_ofText`, `SetAction.isPlain_of_ofText`).

Whether they still stand together as one record is another matter. Some actions leave every comment
a comment and every field a field, and add fields alone (`SetAction.keepsForm`); a record stays one
under them (`FieldSelection.isAssembled_apply`). Actions that erase fields or comment them out may
leave a record without fields, or with neighbouring comments.
-/

namespace TextRecords

/-- The selectors of a text select by field names. -/
theorem FieldSelection.isFieldName_of_ofText {source : String} {selection : FieldSelection}
    (h : ofText source = .ok selection) :
    ∀ selector ∈ selection.selectors, isFieldName selector.name.toList = true :=
  fun selector hselector => ((of_ofText h).2.2 selector hselector).name

namespace SetAction

/-- An action whose new name is a field name, and of whose value no line ends in a carriage
return. -/
def IsPlain : SetAction → Prop
  | rename name => isFieldName name.toList = true
  | set value | add value | setOrAdd value => Text.NoReturnEnds value.toList
  | delete | comment => True

/-- A validated action is plain if its value is: the name of a renaming is what is validated. -/
theorem isPlain_of_validated {action valid : SetAction} (h : action.validated = .ok valid)
    (hvalue : (∀ name, action ≠ rename name) → action.IsPlain) : valid.IsPlain := by
  unfold validated at h
  split at h
  · split at h
    · next hname =>
      rw [← Except.ok.inj h]
      exact hname
    · cases h
  · next hother =>
    rw [← Except.ok.inj h]
    exact hvalue hother

/-- An action that is read with an argument without carriage returns is plain. -/
theorem isPlain_of_ofText {name : String} {argument : Option String} {action : SetAction}
    (h : ofText name argument = .ok action) (hreturn : ∀ value ∈ argument, '\r' ∉ value.toList) :
    action.IsPlain := by
  unfold ofText at h
  cases argument with
  | none =>
    -- Only the actions that need no argument are left.
    dsimp only at h
    split at h <;> cases h <;> trivial
  | some value =>
    have hvalue : Text.NoReturnEnds value.toList :=
      Text.noReturnEnds_of_notMem (hreturn value rfl)
    dsimp only at h
    split at h
    · exact isPlain_of_validated h fun hother => absurd rfl (hother value)
    · exact isPlain_of_validated h fun _ => hvalue
    · exact isPlain_of_validated h fun _ => hvalue
    · exact isPlain_of_validated h fun _ => hvalue
    · exact isPlain_of_validated h fun _ => hvalue
    all_goals cases h <;> trivial

variable {action : SetAction}

/-- A plain action makes fields that are read back of fields that are. -/
theorem isCanonical_change (haction : action.IsPlain) {field next : Field}
    (hfield : (Item.field field).IsCanonical) (h : action.change field = some next) :
    (Item.field next).IsCanonical := by
  cases action with
  | rename name =>
    obtain rfl := Option.some.inj h
    exact ⟨haction, hfield.2⟩
  | set value =>
    obtain rfl := Option.some.inj h
    exact ⟨hfield.1, haction⟩
  | setOrAdd value =>
    obtain rfl := Option.some.inj h
    exact ⟨hfield.1, haction⟩
  | add value =>
    obtain rfl := Option.some.inj h
    exact hfield
  | comment =>
    obtain rfl := Option.some.inj h
    exact hfield
  | delete => cases h

/-- A plain action makes items that are read back of fields that are. -/
theorem isCanonical_of_mem_items (haction : action.IsPlain) {field : Field} {commented : Bool}
    (hfield : (Item.field field).IsCanonical) {item : Item}
    (h : item ∈ action.items field commented) : item.IsCanonical := by
  unfold items at h
  split at h
  · obtain ⟨next, hnext, rfl⟩ := Option.map_eq_some_iff.1 (Option.mem_toList.1 h)
    exact Item.isCanonical_commentOut (isCanonical_change haction hfield hnext)
  · obtain ⟨next, hnext, rfl⟩ := Option.map_eq_some_iff.1 (Option.mem_toList.1 h)
    exact isCanonical_change haction hfield hnext

/-- Whether an action leaves a record together, whatever the record holds: it neither erases fields
nor comments them out, makes none a declaration of a type, and adds no comments. -/
def keepsForm (action : SetAction) (selection : FieldSelection) : Bool :=
  match action with
  | set _ => true
  | rename name => name != Document.typeMarker
  | add _ | setOrAdd _ => selection.selectors.all (!·.commented)
  | delete | comment => false

end SetAction

/-- An item in place of another one: a comment for a comment, or a field for a field, and no
declaration of a type for another field. -/
inductive Item.KeepsKind : Item → Item → Prop
  | comment (old new : String) : KeepsKind (.comment old) (.comment new)
  | field {old new : Field} (h : new.name = Document.typeMarker → old.name = Document.typeMarker) :
      KeepsKind (.field old) (.field new)

namespace Item

/-- Any item is of its own kind. -/
theorem KeepsKind.refl (item : Item) : KeepsKind item item := by
  cases item with
  | field field => exact .field id
  | comment text => exact .comment text text

/-- Items of the same kinds are kept apart alike. -/
theorem isChain_apart_of_keepsKind {before after : List Item}
    (h : List.Forall₂ KeepsKind before after) (hapart : before.IsChain (apart · · = true)) :
    after.IsChain (apart · · = true) := by
  have hfields : after.map (·.field?.isSome) = before.map (·.field?.isSome) := by
    induction h with
    | nil => rfl
    | cons hkind _ ih =>
      rw [List.map_cons, List.map_cons, ih hapart.tail]
      cases hkind <;> rfl
  -- Whether items are kept apart depends on which of them are fields, and on nothing else.
  have hmap : ∀ items : List Item, items.IsChain (apart · · = true) ↔
      (items.map (·.field?.isSome)).IsChain fun first second => (first || second) = true :=
    fun items => (List.isChain_map (R := fun first second => (first || second) = true) _).symm
  rw [hmap, hfields, ← hmap]
  exact hapart

/-- The first field stays one, and none that declares a type. -/
theorem isData_of_keepsKind {before after : List Item} (h : List.Forall₂ KeepsKind before after)
    (hdata : (Record.mk before none).isData = true) : (Record.mk after none).isData = true := by
  induction h with
  | nil => exact hdata
  | cons hkind _ ih =>
    cases hkind with
    | comment old new => exact ih hdata
    | field hname =>
      simp only [Record.isData, Record.fields, List.filterMap_cons, field?, List.head?_cons,
        Option.any_some, bne_iff_ne] at hdata ⊢
      exact fun hmarker => hdata (hname hmarker)

end Item

/-- A record that stands in the text as one: it has fields, the first of which does not declare a
type, and its comments are kept apart by them. -/
structure Record.IsAssembled (record : Record) : Prop where
  apart : record.items.IsChain (Item.apart · · = true)
  data : record.isData = true

instance (record : Record) : Decidable record.IsAssembled :=
  decidable_of_iff (record.items.IsChain (Item.apart · · = true) ∧ record.isData = true)
    ⟨fun h => ⟨h.1, h.2⟩, fun h => ⟨h.1, h.2⟩⟩

/-- More fields behind the items of a record leave it one. -/
theorem Record.IsAssembled.append {record : Record} (h : record.IsAssembled) {added : List Item}
    (hadded : ∀ item ∈ added, item.field?.isSome) :
    Record.IsAssembled { record with items := record.items ++ added } where
  apart := by
    have hnext : ∀ before : Item, ∀ after ∈ added, before.apart after = true := by
      intro before after hafter
      rw [Item.apart, hadded after hafter, Bool.or_true]
    rw [List.isChain_append]
    refine ⟨h.apart, List.Pairwise.isChain ?_, fun before _ after hafter =>
      hnext before after (List.mem_of_mem_head? hafter)⟩
    exact List.pairwise_of_forall_mem_list fun before _ after => hnext before after
  data := by
    have hdata := h.data
    have hne : record.fields ≠ [] := by
      intro hnil
      rw [isData, hnil] at hdata
      cases hdata
    rw [isData, fields, List.filterMap_append, ← fields, List.head?_append_of_ne_nil _ hne]
    exact hdata

namespace FieldSelection

variable {selection : FieldSelection} {action : SetAction} {before : List Lane}

/-- An item after changes is one from before, or one that the action makes of the field that one
holds. -/
theorem mem_changesAfter {items : List Item} {item : Item}
    (h : item ∈ (selection.changesAfter action before items).flatMap Prod.fst) :
    item ∈ items ∨ ∃ old ∈ items, ∃ field commented, old.held? = some (field, commented) ∧
      item ∈ action.items field commented := by
  induction items generalizing before with
  | nil => exact absurd h List.not_mem_nil
  | cons first rest ih =>
    have hrest : ∀ before,
        item ∈ (selection.changesAfter action before rest).flatMap Prod.fst →
          item ∈ first :: rest ∨ ∃ old ∈ first :: rest, ∃ field commented,
            old.held? = some (field, commented) ∧ item ∈ action.items field commented := by
      intro before hmem
      exact (ih hmem).imp (List.mem_cons_of_mem _) fun ⟨old, hold, hmade⟩ =>
        ⟨old, List.mem_cons_of_mem _ hold, hmade⟩
    have hfirst : item ∈ [first] → item ∈ first :: rest := fun hmem =>
      List.mem_cons.2 (.inl (List.mem_singleton.1 hmem))
    unfold changesAfter at h
    split at h
    · rw [List.flatMap_cons, List.mem_append] at h
      exact h.elim (fun hmem => .inl (hfirst hmem)) (hrest _)
    · next field commented hheld =>
      rw [List.flatMap_cons, List.mem_append] at h
      refine h.elim (fun hmem => ?_) (hrest _)
      split at hmem
      · exact .inr ⟨first, List.mem_cons_self, field, commented, hheld, hmem⟩
      · exact .inl (hfirst hmem)

/-- When the action makes one item of every selected one, the items after changes are those from
before, each with its own counterpart. -/
theorem forall₂_changesAfter {R : Item → Item → Prop} (hrefl : ∀ item, R item item)
    (hmakes : ∀ item field commented, item.held? = some (field, commented) →
      ∃ new, action.items field commented = [new] ∧ R item new) (items : List Item) :
    List.Forall₂ R items ((selection.changesAfter action before items).flatMap Prod.fst) := by
  induction items generalizing before with
  | nil => exact .nil
  | cons first rest ih =>
    unfold changesAfter
    split
    · exact .cons (hrefl first) ih
    · next field commented hheld =>
      rw [List.flatMap_cons]
      split
      · obtain ⟨new, hnew, hkind⟩ := hmakes first field commented hheld
        rw [hnew]
        exact .cons hkind ih
      · exact .cons (hrefl first) ih

/-- What an action adds stands in the lane of a selector. -/
theorem mem_additions {picked : List Nat} {item : Item}
    (h : item ∈ selection.additions action picked) :
    ∃ value, (action = .add value ∨ action = .setOrAdd value) ∧
      ∃ selector ∈ selection.selectors, item = addition value selector.lane := by
  unfold additions at h
  split at h
  · next value =>
    obtain ⟨lane, hlane, rfl⟩ := List.mem_map.1 h
    obtain ⟨selector, hselector, rfl⟩ := List.mem_map.1 (List.mem_eraseDups.1 hlane)
    exact ⟨value, .inl rfl, selector, hselector, rfl⟩
  · next value =>
    obtain ⟨lane, hlane, rfl⟩ := List.mem_map.1 h
    obtain ⟨pair, hpair, rfl⟩ := List.mem_map.1 (List.mem_eraseDups.1 hlane)
    obtain ⟨-, -, hselector⟩ := List.mem_zipIdx (List.mem_of_mem_filter hpair)
    exact ⟨value, .inr rfl, pair.1, hselector ▸ List.getElem_mem _, rfl⟩
  · exact absurd h List.not_mem_nil

/-- A plain action adds items that are read back. -/
theorem isCanonical_of_mem_additions (haction : action.IsPlain)
    (hnames : ∀ selector ∈ selection.selectors, isFieldName selector.name.toList = true)
    {picked : List Nat} {item : Item} (h : item ∈ selection.additions action picked) :
    item.IsCanonical := by
  obtain ⟨value, hvalue, selector, hselector, rfl⟩ := mem_additions h
  have hplain : Text.NoReturnEnds value.toList := by
    rcases hvalue with rfl | rfl
    · exact haction
    · exact haction
  have hfield : (Item.field ⟨selector.name, value⟩).IsCanonical :=
    ⟨hnames selector hselector, hplain⟩
  rw [Selector.lane]
  cases selector.commented with
  | false => exact hfield
  | true => exact Item.isCanonical_commentOut hfield

/-- A plain action leaves a record with items that are read back, if it had such items before. -/
theorem isCanonical_apply (haction : action.IsPlain)
    (hnames : ∀ selector ∈ selection.selectors, isFieldName selector.name.toList = true)
    {record : Record} (h : ∀ item ∈ record.items, item.IsCanonical) :
    ∀ item ∈ (selection.apply action record).items, item.IsCanonical := by
  intro item hitem
  rcases List.mem_append.1 hitem with hchanged | hadded
  · rcases mem_changesAfter hchanged with hmem | ⟨old, hold, field, commented, hheld, hmade⟩
    · exact h item hmem
    · have hfield := Item.isCanonical_of_held? hheld (h old hold)
      exact SetAction.isCanonical_of_mem_items haction hfield hmade
  · exact isCanonical_of_mem_additions haction hnames hadded

/-- An action that keeps the form of records makes one item of every selected one, of the same
kind. -/
theorem keepsKind_items (hkeeps : action.keepsForm selection = true) {item : Item} {field : Field}
    {commented : Bool} (h : item.held? = some (field, commented)) :
    ∃ new, action.items field commented = [new] ∧ item.KeepsKind new := by
  have hcomment : (action == .comment) = false := by
    rw [beq_eq_false_iff_ne]
    rintro rfl
    cases hkeeps
  have hchange : ∃ next, action.change field = some next ∧
      (next.name = Document.typeMarker → field.name = Document.typeMarker) := by
    cases action with
    | rename name =>
      rw [SetAction.keepsForm, bne_iff_ne] at hkeeps
      exact ⟨_, rfl, fun hname => absurd hname hkeeps⟩
    | set value => exact ⟨_, rfl, id⟩
    | setOrAdd value => exact ⟨_, rfl, id⟩
    | add value => exact ⟨_, rfl, id⟩
    | delete => cases hkeeps
    | comment => cases hkeeps
  obtain ⟨next, hnext, hname⟩ := hchange
  cases item with
  | field other =>
    obtain ⟨rfl, rfl⟩ := Item.held?_field_eq_some_iff.1 h
    refine ⟨.field next, ?_, .field hname⟩
    rw [SetAction.items, hcomment, hnext]
    rfl
  | comment text =>
    obtain ⟨-, rfl⟩ := Item.held?_comment_eq_some_iff.1 h
    refine ⟨.commentOut next, ?_, .comment text next.text⟩
    rw [SetAction.items, hnext]
    rfl

/-- An action that keeps the form of records adds fields alone. -/
theorem isSome_field?_of_mem_additions (hkeeps : action.keepsForm selection = true)
    {picked : List Nat} {item : Item} (h : item ∈ selection.additions action picked) :
    item.field?.isSome := by
  obtain ⟨value, hvalue, selector, hselector, rfl⟩ := mem_additions h
  have hall : selection.selectors.all (!·.commented) = true := by
    rcases hvalue with rfl | rfl
    · exact hkeeps
    · exact hkeeps
  have huncommented := List.all_eq_true.1 hall selector hselector
  rw [Bool.not_eq_true'] at huncommented
  rw [Selector.lane, huncommented]
  rfl

/-- An action that keeps the form of records leaves a record that stands in the text as one. -/
theorem isAssembled_apply (hkeeps : action.keepsForm selection = true) {record : Record}
    (h : record.IsAssembled) : (selection.apply action record).IsAssembled := by
  have hkinds : List.Forall₂ Item.KeepsKind record.items
      ((selection.changesAfter action [] record.items).flatMap Prod.fst) :=
    forall₂_changesAfter Item.KeepsKind.refl
      (fun item field commented => keepsKind_items hkeeps) record.items
  have hchanged : Record.IsAssembled { record with
      items := (selection.changesAfter action [] record.items).flatMap Prod.fst } :=
    ⟨Item.isChain_apart_of_keepsKind hkinds h.apart, Item.isData_of_keepsKind hkinds h.data⟩
  exact hchanged.append fun item => isSome_field?_of_mem_additions hkeeps

end FieldSelection

end TextRecords
