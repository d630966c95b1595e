import TextRecords.Proofs.Document.Behind

/-!
# Texts one after another

A text that is put behind another one, with an empty line between them, is read behind it. What is
wrong with the first text is wrong with both of them together, and what is wrong with them beyond
that is found behind the lines of the first. When the second text starts with a descriptor and
declares only types that the first one does not have, its sets follow those of the first
(`Database.ofText_append`).

The blocks of both texts together are those of the one and those of the other, which stand behind
all lines of the first (`exists_blocks_lines_append`). Where the lines stand matters to the report
of a fault alone: a fault has the line of one of the lines that are read (`exists_line_of_foldlM`),
and the items that lines denote come from their texts (`filterMap_itemsOf_congr`).
-/

namespace TextRecords

namespace Document

/-- A fault that is reported with a line has that line. -/
theorem line?_of_mapError {α : Type} {result : Except ReadFault α} {number : Nat} {fault : Fault}
    (h : result.mapError (.read number) = .error fault) : fault.line? = some number := by
  cases result with
  | error reason =>
    obtain rfl : Fault.read number reason = fault := Except.error.inj h
    rfl
  | ok value => cases h

/-- A line that cannot be added to a block is reported. -/
theorem Block.line?_of_add {joins : Bool} {block : Block} {line : Line} {fault : Fault}
    (h : Block.add joins block line = .error fault) : fault.line? = some line.number := by
  obtain ⟨items, joined⟩ := block
  cases joined with
  | some field => cases h
  | none => exact line?_of_mapError h

/-- Lines that denote no items have one among them that is reported. -/
theorem Block.exists_line_of_itemsOf {joins : Bool} {lines : List Line} {fault : Fault}
    (hne : lines ≠ []) (h : Block.itemsOf joins lines = .error fault) :
    ∃ line ∈ lines, fault.line? = some line.number := by
  rcases bind_eq_error_iff.1 h with hfold | ⟨⟨items, joined⟩, -, hfinish⟩
  · obtain ⟨line, hline, reached, hadd⟩ := exists_of_foldlM_eq_error hfold
    exact ⟨line, hline, Block.line?_of_add hadd⟩
  · cases joined with
    | none => cases hfinish
    | some field =>
      -- The value of the last line goes on, and there is no line for it.
      have hlast := List.getLast?_eq_some_getLast hne
      simp only [Block.finish, hlast, Option.map_some, Option.getD_some] at hfinish
      rw [← Except.error.inj hfinish]
      exact ⟨lines.getLast hne, List.getLast_mem hne, rfl⟩

/-- A block that cannot be added has a line that is reported. -/
theorem exists_line_of_addBlock {joins : Bool} {assembly : Assembly} {block : List Line}
    {fault : Fault} (h : addBlock joins assembly block = .error fault) :
    ∃ line ∈ block, fault.line? = some line.number := by
  cases block with
  | nil => cases h
  | cons first rest =>
    rcases bind_eq_error_iff.1 h with hitems | ⟨items, -, hadd⟩
    · exact Block.exists_line_of_itemsOf (List.cons_ne_nil first rest) hitems
    · exact ⟨first, List.mem_cons_self, line?_of_mapError hadd⟩

/-- Blocks that cannot be assembled have a line that is reported. -/
theorem exists_line_of_foldlM {joins : Bool} {lines : List Line} {start : Assembly} {fault : Fault}
    (h : (blocks lines).foldlM (addBlock joins) start = .error fault) :
    ∃ line ∈ lines, fault.line? = some line.number := by
  obtain ⟨block, hblock, reached, hadd⟩ := exists_of_foldlM_eq_error h
  obtain ⟨line, hline, hfault⟩ := exists_line_of_addBlock hadd
  have hmem : line ∈ (blocks lines).flatten := List.mem_flatten.2 ⟨block, hblock, hline⟩
  rw [flatten_blocks] at hmem
  exact ⟨line, List.mem_of_mem_filter hmem, hfault⟩

/-- The parts of a text are decided by the texts of its blocks. -/
theorem filterMap_itemsOf_congr {joins : Bool} {blocks others : List (List Line)}
    (htexts : others.map (List.map Line.text) = blocks.map (List.map Line.text)) :
    (others.filterMap fun block => (Block.itemsOf joins block).toOption) =
      blocks.filterMap fun block => (Block.itemsOf joins block).toOption := by
  have hcongr : ∀ block other : List Line, other.map Line.text = block.map Line.text →
      (Block.itemsOf joins other).toOption = (Block.itemsOf joins block).toOption := by
    intro block other heq
    ext items
    simp only [toOption_eq_some_iff]
    exact ⟨Block.itemsOf_congr heq.symm, Block.itemsOf_congr heq⟩
  induction blocks generalizing others with
  | nil => rw [List.map_eq_nil_iff.1 htexts]
  | cons block rest ih =>
    obtain ⟨other, more, rfl, hblock, hrest⟩ := List.map_eq_cons_iff.1 htexts
    rw [List.filterMap_cons, List.filterMap_cons, hcongr block other hblock, ih hrest]

/-- Whether the first block of a text, if it has blocks, starts with the field that declares a
type. -/
def StartsWithDescriptor (joins : Bool) (text : List Char) : Prop :=
  ∀ items ∈ (parts joins text).head?,
    ∃ field ∈ (Record.fields ⟨items, none⟩).head?, field.name = typeMarker

instance (joins : Bool) (text : List Char) : Decidable (StartsWithDescriptor joins text) :=
  inferInstanceAs (Decidable (∀ items ∈ (parts joins text).head?,
    ∃ field ∈ (Record.fields ⟨items, none⟩).head?, field.name = typeMarker))

/-- The parts of two texts with an empty line between them follow each other. -/
theorem parts_append (joins : Bool) (text more : List Char) :
    parts joins (text ++ '\n' :: '\n' :: more) = parts joins text ++ parts joins more := by
  obtain ⟨behind, hblocks, htexts, -⟩ := exists_blocks_lines_append text more
  rw [parts, hblocks, List.filterMap_append, filterMap_itemsOf_congr htexts]
  rfl

section OfText

variable {config : Config} {text more : List Char} {first second : Database}

/-- The blocks of two texts that are read all denote items when one text follows the other. -/
theorem exists_itemsOf_of_append (hfirst : Database.ofText config text = .ok first)
    (hsecond : Database.ofText config more = .ok second) :
    ∀ block ∈ blocks (lines (text ++ '\n' :: '\n' :: more)),
      ∃ items, Block.itemsOf config.joinsLines block = .ok items := by
  obtain ⟨behind, hblocks, htexts, -⟩ := exists_blocks_lines_append text more
  rw [hblocks, List.forall_mem_append]
  refine ⟨exists_itemsOf_of_ofText hfirst, fun block hblock => ?_⟩
  -- A block behind has the texts of one of the second text, at other places.
  have hmem : block.map Line.text ∈ (blocks (lines more)).map (List.map Line.text) := by
    rw [← htexts]
    exact List.mem_map_of_mem hblock
  obtain ⟨other, hother, heq⟩ := List.mem_map.1 hmem
  obtain ⟨items, hitems⟩ := exists_itemsOf_of_ofText hsecond other hother
  exact ⟨items, Block.itemsOf_congr heq.symm hitems⟩

/-- A text that is read has the types that its parts declare. -/
theorem hasType_of_mem_parts (h : Database.ofText config text = .ok first) {items : List Item}
    (hitems : items ∈ parts config.joinsLines text) {type : String}
    (htype : Record.declaredType? ⟨items, none⟩ = some type) :
    first.hasType type = true := by
  obtain ⟨current, hfold⟩ := foldlM_parts_of_ofText h
  rw [← Database.hasType_unplaced]
  exact Assembly.hasType_of_foldlM
    (fun part hpart => ⟨isPart_of_mem_parts hpart, fun _ _ => trivial⟩) (.empty fun _ => True)
    hfold (.inr ⟨items, hitems, htype⟩)

/-- A descriptor that a text which is read starts with declares a type. -/
theorem StartsWithDescriptor.isSome_declaredType? (h : Database.ofText config text = .ok first)
    (hstarts : StartsWithDescriptor config.joinsLines text) :
    ∀ items ∈ (parts config.joinsLines text).head?,
      (Record.declaredType? ⟨items, none⟩).isSome := by
  intro items hitems
  obtain ⟨rest, hparts⟩ := List.head?_eq_some_iff.1 hitems
  obtain ⟨current, hfold⟩ := foldlM_parts_of_ofText h
  obtain ⟨field, hfield, hmarker⟩ := hstarts items hitems
  rw [hparts] at hfold
  obtain ⟨next, hadd, -⟩ := foldlM_cons_eq_ok_iff.1 hfold
  rw [Assembly.addItems] at hadd
  cases Assembly.addsAs ⟨items, none⟩ with
  | comment text hfields hcomment =>
    rw [hfields] at hfield
    cases hfield
  | record hdata hrecord =>
    rw [Record.isData, Option.mem_def.1 hfield, Option.any_some, bne_iff_ne] at hdata
    exact absurd hmarker hdata
  | descriptor type htype hdescriptor => exact Option.isSome_of_eq_some htype
  | fault htype hfault =>
    rw [hfault] at hadd
    cases hadd

end OfText

end Document

namespace Database

open Document

variable {config : Config} {text more : List Char} {first second : Database}

/-- What is wrong with a text is wrong with it when another one follows. -/
theorem ofText_append_of_error {fault : Fault} (h : ofText config text = .error fault) :
    ofText config (text ++ '\n' :: '\n' :: more) = .error fault := by
  obtain ⟨behind, hblocks, -, -⟩ := exists_blocks_lines_append text more
  rcases bind_eq_error_iff.1 h with hfold | ⟨_, -, hnone⟩
  · rw [ofText, hblocks, List.foldlM_append, hfold]
    rfl
  · cases hnone

/-- What is wrong with a text behind another one that is read is found behind the lines of the
other one. -/
theorem lt_line_of_ofText_append (hfirst : ofText config text = .ok first) {fault : Fault}
    (h : ofText config (text ++ '\n' :: '\n' :: more) = .error fault) :
    ∃ line, fault.line? = some line ∧ (lines text).length < line := by
  obtain ⟨behind, hblocks, -, hnumbers⟩ := exists_blocks_lines_append text more
  obtain ⟨current, hfold⟩ := foldlM_of_ofText hfirst
  rw [ofText, hblocks, List.foldlM_append, hfold] at h
  rcases bind_eq_error_iff.1 h with hbehind | ⟨_, -, hnone⟩
  · obtain ⟨line, hline, hfault⟩ := exists_line_of_foldlM hbehind
    exact ⟨line.number, hfault, hnumbers line hline⟩
  · cases hnone

/-- A text that starts with a descriptor is read behind another one, if it has none of its types. -/
theorem exists_ofText_append (hfirst : ofText config text = .ok first)
    (hsecond : ofText config more = .ok second)
    (hstarts : StartsWithDescriptor config.joinsLines more)
    (hfresh : ∀ type, first.hasType type = true → second.hasType type = false) :
    ∃ db, ofText config (text ++ '\n' :: '\n' :: more) = .ok db ∧
      db.unplaced = (first.followedBy second).unplaced := by
  obtain ⟨current, hfold⟩ := foldlM_parts_of_ofText hfirst
  obtain ⟨_, hmore⟩ := foldlM_parts_of_ofText hsecond
  have hnew : ∀ items ∈ Document.parts config.joinsLines more,
      ∀ type ∈ Record.declaredType? ⟨items, none⟩, first.unplaced.hasType type = false := by
    intro items hitems type htype
    have hhas := hasType_of_mem_parts hsecond hitems htype
    rw [hasType_unplaced, ← Bool.not_eq_true]
    intro hold
    rw [hfresh type hold] at hhas
    cases hhas
  obtain ⟨last, hlast, hdatabase⟩ := Assembly.exists_foldlM_behind
    (hstarts.isSome_declaredType? hsecond) hnew hmore current
  have hparts : (Document.parts config.joinsLines (text ++ '\n' :: '\n' :: more)).foldlM
      Assembly.addItems {} = .ok last := by
    rw [Document.parts_append, List.foldlM_append, hfold]
    exact hlast
  obtain ⟨db, hread, hunplaced⟩ :=
    exists_ofText_of_foldlM_parts (exists_itemsOf_of_append hfirst hsecond) hparts
  refine ⟨db, hread, ?_⟩
  rw [hunplaced, hdatabase, unplaced_followedBy]

/-- Texts one after another are databases one after another. A text that fails makes every text
that goes on with it fail in the same way. When a text is read, the text that goes on with another
one fails behind the lines of the first, if it does; and if the other text is read, starts with a
descriptor and has no type of the first, then both of them together are read as the sets of the
first and those of the second, with the prologue of the first. -/
theorem ofText_append (config : Config) (text more : List Char) :
    (∀ fault, ofText config text = .error fault →
      ofText config (text ++ '\n' :: '\n' :: more) = .error fault) ∧
    ∀ first, ofText config text = .ok first →
      (∀ fault, ofText config (text ++ '\n' :: '\n' :: more) = .error fault →
        ∃ line, fault.line? = some line ∧ (lines text).length < line) ∧
      ∀ second, ofText config more = .ok second → StartsWithDescriptor config.joinsLines more →
        (∀ type, first.hasType type = true → second.hasType type = false) →
          ∃ db, ofText config (text ++ '\n' :: '\n' :: more) = .ok db ∧
            db.unplaced = (first.followedBy second).unplaced := by
  refine ⟨fun fault => ofText_append_of_error, fun first hfirst => ⟨fun fault => ?_, ?_⟩⟩
  · exact lt_line_of_ofText_append hfirst
  · exact fun second hsecond hstarts hfresh =>
      exists_ofText_append hfirst hsecond hstarts hfresh

/-- A text that cannot be read, whatever follows; a text that is read, with one behind it that
cannot be; and with one behind it that declares a type twice. -/
theorem ofText_append_repeatedType :
    let text := "# c\n\n%rec: A\n\na: 1\n".toList
    let more := "%rec: B\n\nb: 2\n\n%rec: B\n%key: b\n".toList
    let first : Database := ⟨[" c"], [⟨some ⟨[.field ⟨"%rec", "A"⟩], some ⟨3, 5⟩⟩,
      [.record ⟨[.field ⟨"a", "1"⟩], some ⟨5, 14⟩⟩]⟩]⟩
    let second : Database := ⟨[], [⟨some ⟨[.field ⟨"%rec", "B"⟩, .field ⟨"%key", "b"⟩],
      some ⟨1, 0⟩⟩, [.record ⟨[.field ⟨"b", "2"⟩], some ⟨3, 9⟩⟩]⟩]⟩
    ofText {} ("+".toList ++ '\n' :: '\n' :: more) = .error (.read 1 .strayContinuation) ∧
      ofText {} (text ++ '\n' :: '\n' :: "+".toList) = .error (.read 8 .strayContinuation) ∧
      (lines text).length < 8 ∧
      ∃ db, ofText {} (text ++ '\n' :: '\n' :: more) = .ok db ∧
        db.unplaced = (first.followedBy second).unplaced := by
  intro text more first second
  have hfirst : ofText {} text = .ok first := toOption_eq_some_iff.1 (by decide +kernel)
  have hsecond : ofText {} more = .ok second := toOption_eq_some_iff.1 (by decide +kernel)
  have hfresh : ∀ type, first.hasType type = true → second.hasType type = false := by
    intro type htype
    have hmem := List.mem_filterMap.2 (hasType_iff.1 htype)
    rw [show first.sets.filterMap RecordSet.typeName = ["A"] by decide +kernel] at hmem
    rw [List.mem_singleton.1 hmem]
    decide +kernel
  have hbad : ofText {} (text ++ '\n' :: '\n' :: "+".toList) =
      .error (.read 8 .strayContinuation) := by rfl
  have hread := ((ofText_append {} text more).2 first hfirst).2
  obtain ⟨line, hline, hlt⟩ := ((ofText_append {} text "+".toList).2 first hfirst).1 _ hbad
  obtain rfl : 8 = line := Option.some.inj hline
  exact ⟨(ofText_append {} "+".toList more).1 _ rfl, hbad, hlt,
    hread second hsecond (by decide +kernel) hfresh⟩

end Database

end TextRecords
