import TextRecords.Proofs.FieldSelection.Added

/-!
# Fields that an action comments out

Commenting out keeps every field. What stands commented out in the record afterwards are the fields
that its comments held before and those that the selectors pick, each at its place and with its
value, whatever lines and backslashes the value has; and the fields that are not picked are its
fields (`FieldSelection.apply_comment_merges`). So a selector of fields that are commented out finds
a picked field again.
-/

namespace TextRecords

/-- The fields that items hold commented out when those at the picked positions are commented out
too, each at its place. -/
def Item.commentedWith (picks : Nat → Bool) (items : List Item) : List Field :=
  (items.mapIdx fun position item =>
    match item with
    | field f => if picks position then some f else none
    | comment text => Field.ofText? text.toList).reduceOption

/-- The field that an item holds commented out. -/
def Item.commented? (item : Item) : Option Field :=
  item.comment?.bind fun text => Field.ofText? text.toList

/-- The fields of a record that are commented out are those that its items hold so. -/
theorem Record.commentedFields_eq (record : Record) :
    record.commentedFields = record.items.filterMap Item.commented? :=
  List.filterMap_filterMap

/-- A field with a proper name is held by the comment that it becomes. -/
theorem Item.commented?_commentOut {field : Field} (h : field.isNamed = true) :
    (commentOut field).commented? = some field := by
  rw [commentOut, commented?, comment?, Option.bind_some, Field.ofText?_text h]

/-- What stands in the place of picked items, place by place. -/
theorem Item.Replaced.eq_mapIdx {picks : Nat → Bool} {replacement : Field → Bool → Item}
    {before after : List Item} (h : Item.Replaced picks replacement before after) :
    after = before.mapIdx fun position item =>
      if picks position then (item.held?.map fun held => replacement held.1 held.2).getD item
      else item := by
  refine List.ext_getElem? fun position => ?_
  rw [List.getElem?_mapIdx]
  cases hpicks : picks position with
  | false =>
    rw [h.unpicked position hpicks]
    simp
  | true =>
    obtain ⟨item, field, commented, hitem, hheld, hnext⟩ := h.picked position hpicks
    rw [hnext, hitem, Option.map_some, if_pos rfl, hheld, Option.map_some, Option.getD_some]

namespace FieldSelection

variable {selection : FieldSelection}

/-- Commenting out puts the comment that a picked field becomes at the place of the field. -/
theorem replaced_comment (selection : FieldSelection) (items : List Item) :
    Item.Replaced (selection.picks items) (fun field _ => .commentOut field) items
      (selection.changed .comment items) := by
  refine replaced_changed fun selector _ field => ?_
  cases selector.commented <;> rfl

/-- Selectors of plain fields pick no comment. -/
theorem picks_of_comment (hplain : ∀ selector ∈ selection.selectors, selector.commented = false)
    {items : List Item} {position : Nat} {text : String}
    (hcomment : items[position]? = some (.comment text)) :
    selection.picks items position = false := by
  rw [← Bool.not_eq_true, picks_iff]
  rintro ⟨selector, hselector, hpicks⟩
  obtain ⟨field, hfield, -⟩ := (Selector.picks_iff (hplain selector hselector)).1 hpicks
  rw [hcomment] at hfield
  cases hfield

/-- What a partial function finds in a record in which the picked fields are commented out, place by
place: what it finds in the comment of a picked field, and in the items that are not picked. -/
theorem filterMap_apply_comment {α : Type}
    (hplain : ∀ selector ∈ selection.selectors, selector.commented = false) (find : Item → Option α)
    (record : Record) :
    (selection.apply .comment record).items.filterMap find =
      (record.items.mapIdx fun position item =>
        match item with
        | .field field =>
          if selection.picks record.items position then find (.commentOut field)
          else find (.field field)
        | .comment text => find (.comment text)).reduceOption := by
  have hitems : (selection.apply .comment record).items =
      selection.changed .comment record.items :=
    (selection.apply_items .comment record).trans (List.append_nil _)
  rw [hitems, (selection.replaced_comment record.items).eq_mapIdx, filterMap_mapIdx]
  refine congrArg List.reduceOption (List.mapIdx_eq_mapIdx_iff.2 fun position hlt => ?_)
  have hget : record.items[position]? = some record.items[position] := List.getElem?_eq_getElem hlt
  cases hitem : record.items[position] with
  | field field => exact apply_ite find _ _ _
  | comment text =>
    rw [hitem] at hget
    rw [picks_of_comment hplain hget, if_neg Bool.false_ne_true]

/-- The fields that a record holds commented out, once some are commented out. -/
theorem commentedFields_apply_comment
    (hplain : ∀ selector ∈ selection.selectors, selector.commented = false) {record : Record}
    (hnames : ∀ field ∈ record.fields, field.isNamed = true) :
    (selection.apply .comment record).commentedFields =
      Item.commentedWith (selection.picks record.items) record.items := by
  rw [Record.commentedFields_eq, filterMap_apply_comment hplain]
  refine congrArg List.reduceOption (List.mapIdx_eq_mapIdx_iff.2 fun position hlt => ?_)
  cases hitem : record.items[position] with
  | comment text => rfl
  | field field =>
    -- A picked field is read back from the comment that it becomes, by its proper name.
    have hfield : field ∈ record.fields :=
      List.mem_filterMap.2 ⟨.field field, hitem ▸ List.getElem_mem hlt, rfl⟩
    dsimp only
    rw [Item.commented?_commentOut (hnames field hfield)]
    rfl

/-- The fields of a record, once some are commented out. -/
theorem fields_apply_comment
    (hplain : ∀ selector ∈ selection.selectors, selector.commented = false) (record : Record) :
    (selection.apply .comment record).fields =
      (elementsAt (fun position => !selection.picks record.items position)
        record.items).filterMap Item.field? := by
  rw [Record.fields, filterMap_apply_comment hplain, filterMap_elementsAt]
  refine congrArg List.reduceOption (List.mapIdx_eq_mapIdx_iff.2 fun position hlt => ?_)
  cases record.items[position] with
  | field field => cases selection.picks record.items position <;> rfl
  | comment text => cases selection.picks record.items position <;> rfl

/-- When no selector is for fields that are commented out, commenting out loses nothing. The fields
that a record with proper names holds commented out afterwards are those of its comments and the
picked ones, in the order in which they stood, with their names and values; so each selector of
fields that are commented out picks among these. The fields of the record are those that were not
picked. -/
theorem apply_comment_merges (selection : FieldSelection)
    (hplain : ∀ selector ∈ selection.selectors, selector.commented = false) (record : Record)
    (hnames : ∀ field ∈ record.fields, field.isNamed = true) :
    (selection.apply .comment record).commentedFields =
        Item.commentedWith (selection.picks record.items) record.items ∧
      (∀ selector : Selector, selector.commented = true →
        selector.project (selection.apply .comment record) =
          (selector.occurrences.pick ((Item.commentedWith (selection.picks record.items)
            record.items).filter (·.name == selector.name))).map
              fun field => .commentOut ⟨selector.outputName, field.value⟩) ∧
      (selection.apply .comment record).fields =
        (elementsAt (fun position => !selection.picks record.items position)
          record.items).filterMap Item.field? := by
  have hmerged := commentedFields_apply_comment hplain hnames
  refine ⟨hmerged, fun selector hselector => ?_, fields_apply_comment hplain record⟩
  rw [Selector.project, if_pos hselector, hmerged]

/-- Three paths, of which the first has several lines that end in backslashes, and two comments: one
reads as a fourth path. -/
def pathsSpecimen : Record where
  items := [.field ⟨"path", "C:\\\nD:\\\\\n"⟩, .comment " paths", .comment "path: E:\\\\",
    .field ⟨"path", "F"⟩, .field ⟨"path", ""⟩]

/-- The first and the last path are commented out. They are read from the comments with the path
that stood commented out between them, and the third one among these is the last path. -/
theorem apply_comment_merges_pathsSpecimen :
    let selection : FieldSelection :=
      ⟨"path[0] path[2]", [⟨"path", .one 0, none, false⟩, ⟨"path", .one 2, none, false⟩]⟩
    (∀ selector ∈ selection.selectors, selector.commented = false) ∧
      (∀ field ∈ pathsSpecimen.fields, field.isNamed = true) ∧
      (selection.apply .comment pathsSpecimen).commentedFields =
        [⟨"path", "C:\\\nD:\\\\\n"⟩, ⟨"path", "E:\\"⟩, ⟨"path", ""⟩] ∧
      Selector.project ⟨"path", .one 2, none, true⟩ (selection.apply .comment pathsSpecimen) =
        [.comment "path:"] ∧
      (selection.apply .comment pathsSpecimen).fields = [⟨"path", "F"⟩] := by
  intro selection
  have hplain : ∀ selector ∈ selection.selectors, selector.commented = false := by decide
  have hnames : ∀ field ∈ pathsSpecimen.fields, field.isNamed = true := by decide +kernel
  obtain ⟨hmerged, hpicked, hleft⟩ :=
    apply_comment_merges selection hplain pathsSpecimen hnames
  exact ⟨hplain, hnames, hmerged.trans (by decide +kernel),
    (hpicked ⟨"path", .one 2, none, true⟩ rfl).trans (by decide +kernel),
    hleft.trans (by decide +kernel)⟩

end FieldSelection

end TextRecords
