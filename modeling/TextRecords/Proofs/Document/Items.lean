import TextRecords.Proofs.Document.Block
import TextRecords.Proofs.Fallible
import TextRecords.Proofs.Text.Returns

/-!
# The items that a block denotes

`Block.Takes` says all that one line can do to a block that is read. From it follows what the items
of a block are like: their fields have proper names, and no two comments are neighbours
(`isPart_of_itemsOf`). And it follows where carriage returns come from: those that end a line of a
value or of a comment are those that ended the line where it stands (`within_iff_of_itemsOf`).
-/

namespace TextRecords

namespace Item

/-- The lines of the value of a field, or of the text of a comment. -/
def contents : Item → List (List Char)
  | field f => Text.segments f.value.toList
  | comment text => Text.segments text.toList

/-- No line of an item ends in more than some number of carriage returns. -/
def Within (bound : Nat) (item : Item) : Prop :=
  ∀ line ∈ item.contents, Text.returns line ≤ bound

/-- Whether two items are kept apart does not depend on which is first. -/
theorem apart_comm (before after : Item) : before.apart after = after.apart before :=
  Bool.or_comm _ _

end Item

/-- The items that a block may denote. -/
structure Document.IsPart (items : List Item) : Prop where
  ne_nil : items ≠ []
  named : ∀ item ∈ items, item.isNamed = true
  apart : items.IsChain (Item.apart · · = true)

/-- Reading the end of a line brings in no newline. -/
theorem Text.newline_notMem_decodeLineEnd {joins goesOn : Bool} {line text : List Char}
    (h : decodeLineEnd joins line = (text, goesOn)) (hline : '\n' ∉ line) : '\n' ∉ text := by
  rw [← dropTrailing_append_replicate '\\' line, List.mem_append, not_or] at hline
  rw [decodeLineEnd] at h
  rw [← (Prod.mk.inj h).1, List.mem_append, not_or]
  refine ⟨hline.1, fun hmem => ?_⟩
  exact absurd (List.eq_of_mem_replicate hmem) (by decide)

/-- Dropping a blank brings in no newline. -/
theorem Text.newline_notMem_dropOneBlank {line : List Char} (h : '\n' ∉ line) :
    '\n' ∉ dropOneBlank line := by
  unfold dropOneBlank
  split
  · exact fun hmem => h (List.mem_cons_of_mem _ hmem)
  · exact fun hmem => h (List.mem_cons_of_mem _ hmem)
  · exact h

/-- Dropping the end of a line brings in no newline. -/
theorem Text.newline_notMem_dropFinal {c : Char} {line : List Char} (h : '\n' ∉ line) :
    '\n' ∉ dropFinal c line := by
  unfold dropFinal
  split
  · exact fun hmem => h (List.dropLast_subset line hmem)
  · exact h

/-- A line that starts a field is a proper name, a colon and the text of the value. -/
theorem Field.eq_of_ofLine {line : List Char} {field : Field} (h : ofLine line = .ok field) :
    field.isNamed = true ∧ ∃ value, line = field.name.toList ++ ':' :: value ∧
      field.value.toList = Text.dropOneBlank value := by
  have hsplit : line.takeWhile isNameChar ++ line.dropWhile isNameChar = line :=
    List.takeWhile_append_dropWhile
  unfold ofLine at h
  dsimp only at h
  split at h
  · next value htake hdrop =>
    split at h
    · next hname =>
      obtain rfl := Except.ok.inj h
      rw [Field.isNamed, String.toList_ofList, String.toList_ofList]
      exact ⟨hname, value, by rw [← hdrop, hsplit], rfl⟩
    · exact absurd h nofun
  · exact absurd h nofun

namespace Document.Block

/-- What a line does to a block. -/
inductive Takes (joins : Bool) : Block → List Char → Block → Prop
  /-- A comment line that is not behind a comment. -/
  | comment {items : List Item} {text : List Char}
      (h : ∀ before ∈ items.head?, before.apart (.comment (.ofList text)) = true) :
      Takes joins ⟨items, none⟩ ('#' :: text) ⟨.comment (.ofList text) :: items, none⟩
  /-- A comment line behind a comment. -/
  | moreComment {before : String} {items : List Item} {text : List Char} :
      Takes joins ⟨.comment before :: items, none⟩ ('#' :: text)
        ⟨.comment (before ++ .ofList ('\n' :: text)) :: items, none⟩
  /-- One more line of the value of a field. -/
  | next {field : Field} {items : List Item} {line text : List Char} {goesOn : Bool}
      (h : Text.decodeLineEnd joins (Text.dropOneBlank line) = (text, goesOn)) :
      Takes joins ⟨.field field :: items, none⟩ ('+' :: line)
        (settle items (extendValue field ('\n' :: text)) goesOn)
  /-- The first line of a field. -/
  | field {items : List Item} {line text : List Char} {field : Field} {goesOn : Bool}
      (hline : Field.ofLine line = .ok field)
      (h : Text.decodeLineEnd joins field.value.toList = (text, goesOn)) :
      Takes joins ⟨items, none⟩ line (settle items ⟨field.name, .ofList text⟩ goesOn)
  /-- A line of any form that the line before it joins to its value. -/
  | joined {field : Field} {items : List Item} {line text : List Char} {goesOn : Bool}
      (h : Text.decodeLineEnd joins line = (text, goesOn)) :
      Takes joins ⟨items, some field⟩ line (settle items (extendValue field text) goesOn)

/-- A line that starts with no joined field is taken. -/
theorem takes_of_addLine {joins : Bool} {items : List Item} {line : List Char} {next : Block}
    (h : addLine joins items line = .ok next) : Takes joins ⟨items, none⟩ line next := by
  unfold addLine at h
  split at h
  · next text =>
    split at h
    · rw [← Except.ok.inj h]
      exact .moreComment
    · next items hitems =>
      rw [← Except.ok.inj h]
      -- Only another comment at the head would have taken the line in.
      refine .comment fun before hbefore => ?_
      cases before with
      | field field => rfl
      | comment before =>
        obtain ⟨rest, hrest⟩ := List.head?_eq_some_iff.1 hbefore
        exact absurd hrest (hitems before rest)
  · next text =>
    split at h
    · rw [← Except.ok.inj h]
      exact .next rfl
    · exact absurd h nofun
  · split at h
    · exact absurd h nofun
    · next field hfield =>
      rw [← Except.ok.inj h]
      exact .field hfield rfl

/-- A line that is added to a block is taken. -/
theorem takes_of_add {joins : Bool} {block next : Block} {line : Line}
    (h : add joins block line = .ok next) : Takes joins block line.text next := by
  obtain ⟨items, joined⟩ := block
  cases joined with
  | some field =>
    rw [← Except.ok.inj h]
    exact .joined rfl
  | none =>
    simp only [add] at h
    cases hadd : addLine joins items line.text with
    | error fault =>
      rw [hadd] at h
      cases h
    | ok added =>
      rw [hadd] at h
      obtain rfl : added = next := Except.ok.inj h
      exact takes_of_addLine hadd

/-- A line is added by its text alone, wherever it stands. -/
theorem add_congr {joins : Bool} {block next : Block} {line other : Line}
    (htext : other.text = line.text) (h : add joins block line = .ok next) :
    add joins block other = .ok next := by
  obtain ⟨items, joined⟩ := block
  cases joined with
  | some field =>
    simp only [add] at h ⊢
    rwa [htext]
  | none =>
    simp only [add, htext] at h ⊢
    cases hadd : addLine joins items line.text with
    | error fault =>
      rw [hadd] at h
      cases h
    | ok added =>
      rw [hadd] at h
      exact h

/-- The items of a block with the field that goes on, the last one first. -/
def reached (block : Block) : List Item :=
  (block.joined.map Item.field).toList ++ block.items

/-- A field after finished items is reached, whether it goes on or not. -/
@[simp]
theorem reached_settle (items : List Item) (field : Field) (goesOn : Bool) :
    (settle items field goesOn).reached = .field field :: items := by
  cases goesOn <;> rfl

/-- The fields of a block have proper names, and no two comments are neighbours. -/
structure IsSound (block : Block) : Prop where
  named : ∀ item ∈ block.reached, item.isNamed = true
  apart : block.reached.IsChain (Item.apart · · = true)

/-- A field with a proper name after sound items leaves a sound block, which has items. -/
theorem isSound_settle {items : List Item} (hnames : ∀ item ∈ items, item.isNamed = true)
    (h : items.IsChain (Item.apart · · = true)) (field : Field) (hname : field.isNamed = true)
    (goesOn : Bool) :
    (settle items field goesOn).IsSound ∧ (settle items field goesOn).reached ≠ [] := by
  have hchain : (.field field :: items).IsChain (Item.apart · · = true) :=
    List.isChain_cons.2 ⟨fun _ _ => rfl, h⟩
  refine ⟨⟨?_, ?_⟩, ?_⟩
  · rw [reached_settle]
    exact List.forall_mem_cons.2 ⟨hname, hnames⟩
  · rwa [reached_settle]
  · rw [reached_settle]
    exact List.cons_ne_nil _ _

/-- A line keeps a block sound, and the block has items then. -/
theorem Takes.isSound {joins : Bool} {block next : Block} {line : List Char}
    (h : Takes joins block line next) (hsound : block.IsSound) :
    next.IsSound ∧ next.reached ≠ [] := by
  obtain ⟨hnamed, hapart⟩ := hsound
  cases h with
  | @comment items text hhead =>
    have hchain : (Item.comment (.ofList text) :: items).IsChain (Item.apart · · = true) := by
      refine List.isChain_cons.2 ⟨fun before hbefore => ?_, hapart⟩
      rw [Item.apart_comm]
      exact hhead before hbefore
    exact ⟨⟨List.forall_mem_cons.2 ⟨rfl, hnamed⟩, hchain⟩, List.cons_ne_nil _ _⟩
  | @moreComment before items text =>
    -- A comment is kept apart from its neighbour whatever its text is.
    have hchain : (Item.comment (before ++ .ofList ('\n' :: text)) :: items).IsChain
        (Item.apart · · = true) := List.isChain_cons.2 (List.isChain_cons.1 hapart)
    have hnames := (List.forall_mem_cons.1 hnamed).2
    exact ⟨⟨List.forall_mem_cons.2 ⟨rfl, hnames⟩, hchain⟩, List.cons_ne_nil _ _⟩
  | @next field items line text goesOn hdecode =>
    obtain ⟨hname, hnames⟩ := List.forall_mem_cons.1 hnamed
    exact isSound_settle hnames hapart.tail (extendValue field ('\n' :: text)) hname goesOn
  | @field items line text field goesOn hline hdecode =>
    have hname := (Field.eq_of_ofLine hline).1
    exact isSound_settle hnamed hapart ⟨field.name, .ofList text⟩ hname goesOn
  | @joined field items line text goesOn hdecode =>
    obtain ⟨hname, hnames⟩ := List.forall_mem_cons.1 hnamed
    exact isSound_settle hnames hapart.tail (extendValue field text) hname goesOn

/-- The items that lines denote are those that they reach, with no field that goes on. -/
theorem foldlM_of_itemsOf {joins : Bool} {lines : List Line} {items : List Item}
    (h : itemsOf joins lines = .ok items) :
    lines.foldlM (add joins) {} = .ok ⟨items.reverse, none⟩ := by
  obtain ⟨⟨reversed, joined⟩, hfold, hfinish⟩ := bind_eq_ok_iff.1 h
  cases joined with
  | some field => cases hfinish
  | none => rw [hfold, ← Except.ok.inj hfinish, List.reverse_reverse]

/-- Lines are read by their texts alone, wherever they stand. -/
theorem reads_of_foldlM {joins : Bool} {lines : List Line} {start finish : Block}
    (h : lines.foldlM (add joins) start = .ok finish) :
    Reads joins start (lines.map Line.text) finish := by
  induction lines generalizing start with
  | nil =>
    rw [← Except.ok.inj h]
    exact Reads.nil start
  | cons line rest ih =>
    obtain ⟨next, hline, hrest⟩ := foldlM_cons_eq_ok_iff.1 h
    have hfirst : Reads joins start [line.text] next := by
      intro lines hlines
      obtain ⟨other, rfl, htext⟩ := List.map_eq_singleton_iff.1 hlines
      rw [List.foldlM_cons, add_congr htext hline]
      rfl
    exact hfirst.append (ih hrest)

/-- Lines with the same texts denote the same items. -/
theorem itemsOf_congr {joins : Bool} {lines others : List Line} {items : List Item}
    (htexts : others.map Line.text = lines.map Line.text) (h : itemsOf joins lines = .ok items) :
    itemsOf joins others = .ok items := by
  have hread := reads_of_foldlM (foldlM_of_itemsOf h) others htexts
  simp only [itemsOf, hread, bind, Except.bind, finish, List.reverse_reverse]

/-- The items of a block with lines are such as a block may denote. -/
theorem isPart_of_itemsOf {joins : Bool} {lines : List Line} {items : List Item}
    (hne : lines ≠ []) (h : itemsOf joins lines = .ok items) : IsPart items := by
  obtain ⟨first, rest, rfl⟩ := List.exists_cons_of_ne_nil hne
  obtain ⟨next, hfirst, hrest⟩ := foldlM_cons_eq_ok_iff.1 (foldlM_of_itemsOf h)
  have hstart : IsSound {} := ⟨List.forall_mem_nil _, List.isChain_nil⟩
  -- After the first line the block has items, and the other lines keep it so.
  obtain ⟨⟨hnamed, hapart⟩, hitems⟩ := foldlM_preserves
    (fun line _ block after hadd hsound => (takes_of_add hadd).isSound hsound.1) hrest
    ((takes_of_add hfirst).isSound hstart)
  have hreached : reached ⟨items.reverse, none⟩ = items.reverse := rfl
  rw [hreached] at hnamed hapart hitems
  refine ⟨fun hnil => hitems (by rw [hnil]; rfl),
    fun item hitem => hnamed item (List.mem_reverse.2 hitem), ?_⟩
  rw [← List.isChain_reverse]
  exact hapart.imp fun before after hbefore => Item.apart_comm before after ▸ hbefore

section Returns

variable {joins : Bool} (bound : Nat)

/-- No line of the finished items and no finished line of the field that goes on ends in more than
some number of carriage returns. -/
def Within (block : Block) : Prop :=
  (∀ field ∈ block.joined, ∀ line ∈ (Text.segments field.value.toList).dropLast,
    Text.returns line ≤ bound) ∧
  ∀ item ∈ block.items, item.Within bound

variable {bound}

/-- A field after finished items counts with its last line if it does not go on. -/
theorem within_settle_iff (items : List Item) (field : Field) (goesOn : Bool)
    {lines : List (List Char)} {last : List Char}
    (hsegments : Text.segments field.value.toList = lines ++ [last]) :
    (settle items field goesOn).Within bound ↔
      (∀ line ∈ lines, Text.returns line ≤ bound) ∧
        (goesOn = false → Text.returns last ≤ bound) ∧ ∀ item ∈ items, item.Within bound := by
  cases goesOn with
  | true => simp [settle, Within, hsegments]
  | false =>
    simp only [settle, Within, Bool.false_eq_true, if_false, List.forall_mem_cons, Item.Within,
      Item.contents, hsegments, List.forall_mem_append, forall_const]
    simp [and_assoc]

/-- The lines of a text that one more line is added to. -/
theorem segments_append_line {before : String} {line : List Char} (h : '\n' ∉ line) :
    Text.segments (before ++ .ofList ('\n' :: line)).toList =
      Text.segments before.toList ++ [line] := by
  rw [String.toList_append, String.toList_ofList, Text.segments_append_newline,
    Text.segments_of_notMem h]

/-- The line of a value that a line of a block is read as ends in as many carriage returns, unless
the next line goes on with it. -/
theorem returns_le_iff {line text : List Char} {goesOn : Bool}
    (h : Text.decodeLineEnd joins line = (text, goesOn)) :
    (goesOn = false → Text.returns text ≤ bound) ↔ Text.returns line ≤ bound := by
  cases goesOn with
  | true => simp [Text.returns_of_joins h]
  | false => simp [Text.returns_of_decodeLineEnd h]

/-- The same for a line that goes on with a value, if it is not blank. -/
theorem returns_append_le_iff {line text : List Char} {goesOn : Bool}
    (h : Text.decodeLineEnd joins line = (text, goesOn)) (hblank : line.all Text.isBlank = false)
    (before : List Char) :
    (goesOn = false → Text.returns (before ++ text) ≤ bound) ↔ Text.returns line ≤ bound := by
  cases goesOn with
  | true => simp [Text.returns_of_joins h]
  | false => simp [Text.returns_append_of_decodeLineEnd h hblank]

/-- A line leaves a block within a bound when the block is and the line ends in no more carriage
returns. -/
theorem Takes.within_iff {block next : Block} {line : List Char}
    (h : Takes joins block line next) (hnewline : '\n' ∉ line)
    (hblank : line.all Text.isBlank = false) :
    next.Within bound ↔ block.Within bound ∧ Text.returns line ≤ bound := by
  cases h with
  | @comment items text hhead =>
    have htext : Text.segments text = [text] :=
      Text.segments_of_notMem fun hmem => hnewline (List.mem_cons_of_mem _ hmem)
    rw [Text.returns_cons (by decide)]
    simp only [Within, List.forall_mem_cons, Item.Within, Item.contents, String.toList_ofList,
      htext]
    tauto
  | @moreComment before items text =>
    have htext : '\n' ∉ text := fun hmem => hnewline (List.mem_cons_of_mem _ hmem)
    rw [Text.returns_cons (by decide)]
    simp only [Within, List.forall_mem_cons, Item.Within, Item.contents, segments_append_line htext,
      List.forall_mem_append]
    tauto
  | @next field items line text goesOn hdecode =>
    have hline : '\n' ∉ line := fun hmem => hnewline (List.mem_cons_of_mem _ hmem)
    have htext : '\n' ∉ text :=
      Text.newline_notMem_decodeLineEnd hdecode (Text.newline_notMem_dropOneBlank hline)
    rw [within_settle_iff items (extendValue field ('\n' :: text)) goesOn
      (segments_append_line htext), returns_le_iff hdecode, Text.returns_dropOneBlank,
      Text.returns_cons (by decide)]
    simp only [Within, List.forall_mem_cons, Item.Within, Item.contents]
    tauto
  | @field items line text field goesOn hline hdecode =>
    obtain ⟨-, value, rfl, hvalue⟩ := Field.eq_of_ofLine hline
    rw [List.mem_append, List.mem_cons, not_or, not_or] at hnewline
    rw [hvalue] at hdecode
    have htext : '\n' ∉ text :=
      Text.newline_notMem_decodeLineEnd hdecode (Text.newline_notMem_dropOneBlank hnewline.2.2)
    have hsegments : Text.segments (String.ofList text).toList = [] ++ [text] := by
      rw [String.toList_ofList, Text.segments_of_notMem htext]
      rfl
    rw [within_settle_iff items ⟨field.name, .ofList text⟩ goesOn hsegments, returns_le_iff hdecode,
      Text.returns_dropOneBlank, Text.returns_append_cons (by decide)]
    simp only [Within]
    tauto
  | @joined field items line text goesOn hdecode =>
    -- The line goes on with the last line of the value, whatever that one ends in.
    have htext : '\n' ∉ text := Text.newline_notMem_decodeLineEnd hdecode hnewline
    obtain ⟨lines, last, hlast⟩ :=
      (List.eq_nil_or_concat' (Text.segments field.value.toList)).resolve_left
        (Text.segments_ne_nil _)
    have hsegments : Text.segments (extendValue field text).value.toList =
        lines ++ [last ++ text] := by
      rw [extendValue, String.toList_append, String.toList_ofList, Text.segments_append hlast htext]
    rw [within_settle_iff items (extendValue field text) goesOn hsegments,
      returns_append_le_iff hdecode hblank]
    simp only [Within, Option.mem_def, Option.some.injEq, forall_eq', hlast, List.dropLast_concat]
    tauto

/-- Lines leave a block within a bound when the block is and none of them ends in more carriage
returns. -/
theorem within_iff_of_foldlM {lines : List Line} {start last : Block}
    (hlines : ∀ line ∈ lines, '\n' ∉ line.text ∧ line.isBlank = false)
    (h : lines.foldlM (add joins) start = .ok last) :
    last.Within bound ↔ start.Within bound ∧ ∀ line ∈ lines, Text.returns line.text ≤ bound := by
  induction lines generalizing start with
  | nil =>
    rw [← Except.ok.inj h]
    simp
  | cons line rest ih =>
    rw [List.forall_mem_cons] at hlines
    obtain ⟨next, hnext, hrest⟩ := foldlM_cons_eq_ok_iff.1 h
    rw [ih hlines.2 hrest, (takes_of_add hnext).within_iff hlines.1.1 hlines.1.2,
      List.forall_mem_cons, and_assoc]

/-- The items of a block end no line in more carriage returns than its lines do. -/
theorem within_iff_of_itemsOf {lines : List Line} {items : List Item}
    (hlines : ∀ line ∈ lines, '\n' ∉ line.text ∧ line.isBlank = false)
    (h : itemsOf joins lines = .ok items) :
    (∀ item ∈ items, item.Within bound) ↔ ∀ line ∈ lines, Text.returns line.text ≤ bound := by
  have hiff : Within bound ⟨items.reverse, none⟩ ↔ Within bound {} ∧
      ∀ line ∈ lines, Text.returns line.text ≤ bound :=
    within_iff_of_foldlM hlines (foldlM_of_itemsOf h)
  simpa [Within] using hiff

end Returns

end Document.Block

end TextRecords
