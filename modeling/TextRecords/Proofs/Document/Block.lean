import Mathlib.Data.List.Chain
import TextRecords.Document.Block
import TextRecords.Proofs.Field.Text
import TextRecords.Record.Text

/-!
# Reading the lines of a record back

`Block.Reads` says that lines with given texts, wherever they stand, take a block from one state to
another. The lines of a field with a proper name add that field (`reads_fieldLines`), and the lines
of a comment add that comment unless another comment stands right before it (`reads_commentLines`).
So the lines of a list of items with no two neighbouring comments are read as these items
(`itemsOf_lines`), whether backslashes join lines or not.
-/

namespace TextRecords

namespace Item

/-- Whether two neighbouring items are kept apart when they are read: comments would run
together. -/
def apart (before after : Item) : Bool :=
  before.field?.isSome || after.field?.isSome

/-- Whether an item is a comment or a field with a proper name. -/
def isNamed : Item → Bool
  | field f => f.isNamed
  | comment _ => true

end Item

namespace Document.Block

/-- Lines with the given texts, wherever they stand, take a block from one state to another. -/
def Reads (joins : Bool) (start : Block) (texts : List (List Char)) (finish : Block) : Prop :=
  ∀ lines : List Line, lines.map Line.text = texts →
    lines.foldlM (add joins) start = .ok finish

section Reads

variable {joins : Bool}

/-- No lines change nothing. -/
theorem Reads.nil (block : Block) : Reads joins block [] block := by
  intro lines hlines
  rw [List.map_eq_nil_iff.1 hlines]
  rfl

/-- Lines are read one after another. -/
theorem Reads.append {start middle finish : Block} {before after : List (List Char)}
    (h₁ : Reads joins start before middle) (h₂ : Reads joins middle after finish) :
    Reads joins start (before ++ after) finish := by
  intro lines hlines
  obtain ⟨first, second, rfl, hfirst, hsecond⟩ := List.map_eq_append_iff.1 hlines
  rw [List.foldlM_append, h₁ first hfirst]
  exact h₂ second hsecond

/-- A line that starts with no joined field. -/
theorem Reads.line {items : List Item} {text : List Char} {block : Block}
    (h : addLine joins items text = .ok block) : Reads joins ⟨items, none⟩ [text] block := by
  intro lines hlines
  obtain ⟨line, rfl, htext⟩ := List.map_eq_singleton_iff.1 hlines
  simp only [List.foldlM_cons, List.foldlM_nil, add, htext, h]
  rfl

/-- Lines that are read as finished items denote these items, wherever they stand. -/
theorem Reads.itemsOf_eq {texts : List (List Char)} {items : List Item}
    (h : Reads joins {} texts ⟨items, none⟩) {lines : List Line}
    (hlines : lines.map Line.text = texts) : itemsOf joins lines = .ok items.reverse := by
  simp only [itemsOf, h lines hlines, bind, Except.bind, finish]

end Reads

variable (joins : Bool)

/-- A line that starts with a name and a colon starts a field. -/
theorem addLine_append (items : List Item) {name : List Char} (hname : isFieldName name = true)
    (tail : List Char) :
    addLine joins items (name ++ ':' :: tail) =
      .ok (settle items
        ⟨.ofList name, .ofList (Text.decodeLineEnd joins (Text.dropOneBlank tail)).1⟩
        (Text.decodeLineEnd joins (Text.dropOneBlank tail)).2) := by
  obtain ⟨c, rest, hcons, hc, -⟩ := exists_cons_of_isFieldName hname
  have hhead : name ++ ':' :: tail = c :: (rest ++ ':' :: tail) := by
    rw [hcons, List.cons_append]
  -- The line starts with a name, so it is neither a comment nor a continuation.
  have hcomment : c ≠ '#' := by
    rintro rfl
    exact absurd hc (by decide)
  have hnext : c ≠ '+' := by
    rintro rfl
    exact absurd hc (by decide)
  rw [addLine.eq_def, hhead]
  split
  · next h => exact absurd (List.cons.inj h).1 hcomment
  · next h => exact absurd (List.cons.inj h).1 hnext
  · rw [← hhead, Field.ofLine_append hname]
    simp only [String.toList_ofList]

/-- The line that starts a field adds the field with the first line of its value. -/
theorem reads_headLine {name : List Char} (hname : isFieldName name = true) (items : List Item)
    (line : List Char) :
    Reads joins ⟨items, none⟩ [Field.headLine name line]
      ⟨.field ⟨.ofList name, .ofList line⟩ :: items, none⟩ := by
  apply Reads.line
  rw [Field.headLine, addLine_append joins items hname, Text.dropOneBlank_valueTail,
    Text.decodeLineEnd_encodeLineEnd]
  rfl

/-- A line that continues a value adds to the field before it. -/
theorem reads_nextLine (field : Field) (items : List Item) (line : List Char) :
    Reads joins ⟨.field field :: items, none⟩ [Field.nextLine line]
      ⟨.field (extendValue field ('\n' :: line)) :: items, none⟩ := by
  apply Reads.line
  simp only [Field.nextLine, addLine, Text.dropOneBlank_valueTail,
    Text.decodeLineEnd_encodeLineEnd]
  rfl

/-- The lines that continue a value add to the field before them. -/
theorem reads_nextLines (field : Field) (items : List Item) (lines : List (List Char)) :
    Reads joins ⟨.field field :: items, none⟩ (lines.map Field.nextLine)
      ⟨.field (extendValue field (lines.flatMap ('\n' :: ·))) :: items, none⟩ := by
  induction lines generalizing field with
  | nil =>
    have hsame : extendValue field [] = field := by simp [extendValue]
    rw [List.flatMap_nil, hsame]
    exact Reads.nil _
  | cons line rest ih =>
    have hboth : extendValue (extendValue field ('\n' :: line)) (rest.flatMap ('\n' :: ·)) =
        extendValue field ((line :: rest).flatMap ('\n' :: ·)) := by
      simp [extendValue, String.append_assoc, ← String.ofList_append]
    rw [← hboth]
    exact (reads_nextLine joins field items line).append (ih _)

/-- The lines of a field are read as the field. -/
theorem reads_fieldLines {field : Field} (hname : field.isNamed = true) (items : List Item) :
    Reads joins ⟨items, none⟩ field.lines ⟨.field field :: items, none⟩ := by
  obtain ⟨first, others, hsegments⟩ := List.exists_cons_of_ne_nil
    (Text.segments_ne_nil field.value.toList)
  have hvalue : String.ofList first ++ .ofList (others.flatMap ('\n' :: ·)) = field.value := by
    rw [← String.ofList_append, ← Text.joinLines_cons, ← hsegments, Text.joinLines_segments,
      String.ofList_toList]
  -- The first line starts the field, and every other line extends its value.
  have hread := (reads_headLine joins hname items first).append
    (reads_nextLines joins ⟨.ofList field.name.toList, .ofList first⟩ items others)
  rw [extendValue, hvalue, String.ofList_toList] at hread
  rwa [Field.lines_eq hsegments]

/-- The lines of a comment that go on after its first one. -/
theorem reads_moreCommentLines (before : String) (items : List Item) (lines : List (List Char)) :
    Reads joins ⟨.comment before :: items, none⟩ (lines.map ('#' :: ·))
      ⟨.comment (before ++ .ofList (lines.flatMap ('\n' :: ·))) :: items, none⟩ := by
  induction lines generalizing before with
  | nil =>
    have hsame : before ++ String.ofList [] = before := by simp
    rw [List.flatMap_nil, hsame]
    exact Reads.nil _
  | cons line rest ih =>
    have hboth : before ++ String.ofList ('\n' :: line) ++ .ofList (rest.flatMap ('\n' :: ·)) =
        before ++ .ofList ((line :: rest).flatMap ('\n' :: ·)) := by
      simp [String.append_assoc, ← String.ofList_append]
    have hline : Reads joins ⟨.comment before :: items, none⟩ ['#' :: line]
        ⟨.comment (before ++ .ofList ('\n' :: line)) :: items, none⟩ := Reads.line rfl
    rw [← hboth]
    exact hline.append (ih _)

/-- The lines of a comment are read as the comment, unless they go on with a comment before. -/
theorem reads_commentLines (text : String) {items : List Item}
    (h : ∀ item ∈ items.head?, item.apart (.comment text) = true) :
    Reads joins ⟨items, none⟩ (commentLines text) ⟨.comment text :: items, none⟩ := by
  obtain ⟨first, others, hsegments⟩ := List.exists_cons_of_ne_nil
    (Text.segments_ne_nil text.toList)
  have htext : String.ofList first ++ .ofList (others.flatMap ('\n' :: ·)) = text := by
    rw [← String.ofList_append, ← Text.joinLines_cons, ← hsegments, Text.joinLines_segments,
      String.ofList_toList]
  have hfirst : Reads joins ⟨items, none⟩ ['#' :: first]
      ⟨.comment (.ofList first) :: items, none⟩ := by
    apply Reads.line
    -- A comment on top of the block would take the line in.
    match items with
    | [] => rfl
    | .field _ :: _ => rfl
    | .comment _ :: _ => exact absurd (h _ rfl) Bool.false_ne_true
  have hread := hfirst.append (reads_moreCommentLines joins (.ofList first) items others)
  rw [htext] at hread
  rwa [commentLines, hsegments]

/-- The lines of an item are read as the item, if it is apart from the one before. -/
theorem reads_itemLines {item : Item} (hname : item.isNamed = true) {items : List Item}
    (h : ∀ before ∈ items.head?, before.apart item = true) :
    Reads joins ⟨items, none⟩ item.lines ⟨item :: items, none⟩ := by
  cases item with
  | field f => exact reads_fieldLines joins hname items
  | comment text => exact reads_commentLines joins text h

/-- The lines of items are read as these items, if they are apart from one another and from the
item before. -/
theorem reads_itemsLines {items : List Item} (hnames : ∀ item ∈ items, item.isNamed = true)
    (before : List Item) (h : (before.head?.toList ++ items).IsChain (Item.apart · · = true)) :
    Reads joins ⟨before, none⟩ (items.flatMap Item.lines) ⟨items.reverse ++ before, none⟩ := by
  -- The block grows at its head: the item read last is the neighbour of the next one.
  induction items generalizing before with
  | nil => exact Reads.nil _
  | cons item rest ih =>
    rw [List.forall_mem_cons] at hnames
    have hhead : ∀ previous ∈ before.head?, previous.apart item = true := by
      intro previous hprevious
      rw [Option.mem_def.1 hprevious] at h
      exact (List.isChain_cons_cons.1 h).1
    have hrest : ((item :: before).head?.toList ++ rest).IsChain (Item.apart · · = true) :=
      h.right_of_append
    have hread := (reads_itemLines joins hnames.1 hhead).append
      (ih hnames.2 (item :: before) hrest)
    rw [List.flatMap_cons, List.reverse_cons, List.append_assoc, List.singleton_append]
    exact hread

/-- The lines of items are read as these items. -/
theorem itemsOf_lines {items : List Item} (hnames : ∀ item ∈ items, item.isNamed = true)
    (h : items.IsChain (Item.apart · · = true)) {lines : List Line}
    (hlines : lines.map Line.text = items.flatMap Item.lines) :
    itemsOf joins lines = .ok items := by
  have hread := (reads_itemsLines joins hnames [] h).itemsOf_eq hlines
  rwa [List.append_nil, List.reverse_reverse] at hread

end Document.Block

end TextRecords
