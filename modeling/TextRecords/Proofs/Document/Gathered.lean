import TextRecords.Proofs.Document.Assembled
import TextRecords.Proofs.Fallible

/-!
# Neighbouring comments

Two comments that are neighbours in a record are written as one run of comment lines, which is read
as one comment. `Item.gather` makes one comment of all that are neighbours. It does not change the
lines (`Item.flatMap_lines_gather`), it leaves no two comments together (`Item.isChain_gather`), and
it changes nothing when there are none (`Item.gather_eq_self_iff`).

So an assembled database whose items are read back is read from its text with the comments of its
descriptors gathered (`Database.IsAssembled.exists_read`).
-/

namespace TextRecords

namespace Item

/-- Items behind another one, where a comment takes in a comment right behind it. -/
def gatherInto : Item → List Item → List Item
  | comment text, comment more :: rest => comment (text ++ "\n" ++ more) :: rest
  | item, rest => item :: rest

/-- Items with all comments that are neighbours made one. -/
def gather (items : List Item) : List Item :=
  items.foldr gatherInto []

/-- An item in front is a comment that takes in another one, or it is kept apart from what follows
it. -/
theorem gatherInto_cases (item : Item) (items : List Item) :
    (∃ text more rest, item = comment text ∧ items = comment more :: rest ∧
      item.gatherInto items = comment (text ++ "\n" ++ more) :: rest) ∨
    (∀ next ∈ items.head?, item.apart next = true) ∧ item.gatherInto items = item :: items := by
  cases item with
  | field field =>
    exact .inr ⟨fun _ _ => rfl, rfl⟩
  | comment text =>
    cases items with
    | nil => exact .inr ⟨nofun, rfl⟩
    | cons next rest =>
      cases next with
      | field field =>
        refine .inr ⟨?_, rfl⟩
        rintro _ ⟨⟩
        rfl
      | comment more => exact .inl ⟨text, more, rest, rfl, rfl, rfl⟩

/-- The segments of two texts with a newline between them. -/
theorem segments_gathered (text more : String) :
    Text.segments (text ++ "\n" ++ more).toList =
      Text.segments text.toList ++ Text.segments more.toList := by
  rw [String.toList_append, String.toList_append, List.append_assoc]
  exact Text.segments_append_newline _ _

/-- Gathering into a comment does not change the lines. -/
theorem flatMap_lines_gatherInto (item : Item) (items : List Item) :
    (item.gatherInto items).flatMap lines = item.lines ++ items.flatMap lines := by
  rcases gatherInto_cases item items with ⟨text, more, rest, rfl, rfl, heq⟩ | ⟨-, heq⟩
  · rw [heq, List.flatMap_cons, List.flatMap_cons, ← List.append_assoc]
    simp only [lines, commentLines, segments_gathered, List.map_append]
  · rw [heq, List.flatMap_cons]

/-- Gathering comments does not change the lines. -/
theorem flatMap_lines_gather (items : List Item) :
    (gather items).flatMap lines = items.flatMap lines := by
  induction items with
  | nil => rfl
  | cons item rest ih =>
    rw [gather, List.foldr_cons, flatMap_lines_gatherInto, ← gather, ih, List.flatMap_cons]

/-- Gathering comments does not change the fields. -/
theorem filterMap_field?_gather (items : List Item) :
    (gather items).filterMap field? = items.filterMap field? := by
  induction items with
  | nil => rfl
  | cons item rest ih =>
    rw [gather, List.foldr_cons, ← gather]
    rcases gatherInto_cases item (gather rest) with ⟨text, more, others, rfl, hrest, heq⟩ | ⟨-, heq⟩
    · rw [heq, List.filterMap_cons_none rfl, List.filterMap_cons_none rfl, ← ih, hrest,
        List.filterMap_cons_none rfl]
    · rw [heq, List.filterMap_cons, List.filterMap_cons, ih]

/-- Gathered comments are read back when each of them is. -/
theorem isCanonical_gather {items : List Item} (h : ∀ item ∈ items, item.IsCanonical) :
    ∀ item ∈ gather items, item.IsCanonical := by
  induction items with
  | nil => exact List.forall_mem_nil _
  | cons item rest ih =>
    rw [List.forall_mem_cons] at h
    have hrest := ih h.2
    rw [gather, List.foldr_cons, ← gather]
    rcases gatherInto_cases item (gather rest) with
      ⟨text, more, others, rfl, heq, hinto⟩ | ⟨-, hinto⟩
    · rw [heq, List.forall_mem_cons] at hrest
      rw [hinto, List.forall_mem_cons]
      refine ⟨?_, hrest.2⟩
      rw [IsCanonical, Text.NoReturnEnds, segments_gathered, List.forall_mem_append]
      exact ⟨h.1, hrest.1⟩
    · rw [hinto, List.forall_mem_cons]
      exact ⟨h.1, hrest⟩

/-- Gathering leaves no two comments that are neighbours. -/
theorem isChain_gather (items : List Item) : (gather items).IsChain (apart · · = true) := by
  induction items with
  | nil => exact .nil
  | cons item rest ih =>
    rw [gather, List.foldr_cons, ← gather]
    rcases gatherInto_cases item (gather rest) with
      ⟨text, more, others, rfl, heq, hinto⟩ | ⟨hapart, hinto⟩
    · -- A comment is kept apart from its neighbour whatever its text is.
      rw [heq] at ih
      rw [hinto]
      exact List.isChain_cons.2 (List.isChain_cons.1 ih)
    · rw [hinto]
      exact List.isChain_cons.2 ⟨hapart, ih⟩

/-- Gathering changes nothing exactly when no two comments are neighbours. -/
theorem gather_eq_self_iff {items : List Item} :
    gather items = items ↔ items.IsChain (apart · · = true) := by
  constructor
  · intro h
    rw [← h]
    exact isChain_gather items
  · intro h
    induction items with
    | nil => rfl
    | cons item rest ih =>
      obtain ⟨hapart, hrest⟩ := List.isChain_cons.1 h
      rw [gather, List.foldr_cons, ← gather, ih hrest]
      rcases gatherInto_cases item rest with ⟨text, more, others, rfl, rfl, -⟩ | ⟨-, hinto⟩
      · exact absurd (hapart _ rfl) Bool.false_ne_true
      · exact hinto

end Item

/-- A record with its neighbouring comments gathered. -/
def Record.gathered (record : Record) : Record :=
  { record with items := Item.gather record.items }

/-- A set with the comments of its descriptor gathered. -/
def RecordSet.gathered (set : RecordSet) : RecordSet :=
  { set with descriptor := set.descriptor.map Record.gathered }

/-- A database with the comments of its descriptors gathered. -/
def Database.gathered (db : Database) : Database :=
  { db with sets := db.sets.map RecordSet.gathered }

/-- Gathering comments does not change the type that a descriptor declares. -/
theorem Record.declaredType?_gathered (record : Record) :
    record.gathered.declaredType? = record.declaredType? := by
  rw [declaredType?, declaredType?, fields, fields, gathered, Item.filterMap_field?_gather]

namespace RecordSet

/-- Gathering comments does not change the type of a set. -/
theorem declaredType?_gathered (set : RecordSet) :
    set.gathered.declaredType? = set.declaredType? := by
  rw [declaredType?, gathered, declaredType?]
  cases set.descriptor with
  | none => rfl
  | some descriptor => exact descriptor.declaredType?_gathered

/-- Gathering comments does not change the blocks of a set. -/
theorem blocks_gathered (set : RecordSet) : set.gathered.blocks = set.blocks := by
  rw [blocks, gathered, blocks, Option.map_map]
  congr 3
  funext descriptor
  exact Item.flatMap_lines_gather descriptor.items

/-- An assembled set is one with its comments gathered. -/
theorem IsAssembled.gathered {set : RecordSet} (h : set.IsAssembled) :
    set.gathered.IsAssembled where
  descriptor := by
    intro _ hmem
    obtain ⟨descriptor, hdescriptor, rfl⟩ := Option.map_eq_some_iff.1 hmem
    rw [Record.declaredType?_gathered]
    exact h.descriptor descriptor hdescriptor
  records := h.records

/-- A set is the same with its comments gathered, except for places, exactly when its descriptor
keeps them apart. -/
theorem unplaced_gathered_eq_iff {set : RecordSet} :
    set.gathered.unplaced = set.unplaced ↔
      ∀ descriptor ∈ set.descriptor, descriptor.items.IsChain (Item.apart · · = true) := by
  obtain ⟨descriptor, entries⟩ := set
  cases descriptor with
  | none => simp [gathered, unplaced]
  | some descriptor =>
    simp [gathered, unplaced, Record.unplaced, Record.gathered, Item.gather_eq_self_iff]

end RecordSet

namespace Database

variable {db : Database}

/-- Gathering comments does not change the text of a database. -/
theorem text_gathered (db : Database) : db.gathered.text = db.text := by
  rw [text, blocks, gathered, text, blocks, List.flatMap_map]
  simp only [RecordSet.blocks_gathered]

/-- A database is the same with its comments gathered, except for places, exactly when its
descriptors keep them apart. -/
theorem unplaced_gathered_eq_iff :
    db.gathered.unplaced = db.unplaced ↔
      ∀ set ∈ db.sets, ∀ descriptor ∈ set.descriptor,
        descriptor.items.IsChain (Item.apart · · = true) := by
  rw [unplaced, unplaced, gathered, mk.injEq, List.map_map, List.map_inj_left]
  simp only [Function.comp_apply, RecordSet.unplaced_gathered_eq_iff, true_and]

/-- An assembled database is one with the comments of its descriptors gathered. -/
theorem IsAssembled.gathered (h : db.IsAssembled) : db.gathered.IsAssembled where
  sets := List.forall_mem_map.2 fun set hset => (h.sets set hset).gathered
  types := by
    rw [Database.gathered, List.filterMap_map, Function.comp_def]
    simpa only [RecordSet.declaredType?_gathered] using h.types
  untypedFirst := by
    rw [Database.gathered, ← List.map_tail, List.forall_mem_map]
    intro set hset
    rw [RecordSet.gathered, Option.isSome_map]
    exact h.untypedFirst set hset
  untyped := by
    rw [Database.gathered, List.head?_map]
    intro _ hmem hnone
    obtain ⟨set, hset, rfl⟩ := Option.map_eq_some_iff.1 hmem
    exact h.untyped set hset (Option.map_eq_none_iff.1 hnone)

/-- An assembled database whose items are read back is canonical with its comments gathered. -/
theorem IsAssembled.isCanonical_gathered (h : db.IsAssembled)
    (hitems : ∀ part ∈ db.parts, ∀ item ∈ part, item.IsCanonical) : db.gathered.IsCanonical := by
  obtain ⟨hprologue, hsets⟩ := forall_mem_parts_iff.1 hitems
  refine isCanonical_iff.2 ⟨h.gathered, ?_, ?_⟩
  · refine forall_mem_parts_iff.2 ⟨hprologue, List.forall_mem_map.2 fun set hset => ?_⟩
    obtain ⟨hdescriptor, hothers⟩ := RecordSet.forall_mem_parts_iff.1 (hsets set hset)
    refine RecordSet.forall_mem_parts_iff.2 ⟨fun _ hmem => ?_, hothers⟩
    obtain ⟨descriptor, hsome, rfl⟩ := Option.map_eq_some_iff.1 hmem
    exact Item.isCanonical_gather (hdescriptor descriptor hsome)
  · refine List.forall_mem_map.2 fun set hset _ hmem => ?_
    obtain ⟨descriptor, -, rfl⟩ := Option.map_eq_some_iff.1 hmem
    exact Item.isChain_gather descriptor.items

/-- An assembled database whose items are read back is read from its text with the comments of its
descriptors gathered, except for the places of its records. -/
theorem IsAssembled.exists_read (h : db.IsAssembled)
    (hitems : ∀ part ∈ db.parts, ∀ item ∈ part, item.IsCanonical) (config : Config) :
    ∃ read, ofText config db.text.toList = .ok read ∧ read.unplaced = db.gathered.unplaced := by
  -- The gathered database is canonical and has the same text, so it is what is read.
  have hcanonical := h.isCanonical_gathered hitems
  obtain ⟨last, hlast⟩ := hcanonical.foldlM_parts
  have hread := unplaced_ofText_text config hcanonical.isCanonicalPart
  rw [hlast, text_gathered] at hread
  obtain ⟨read, hread, hunplaced⟩ := Option.map_eq_some_iff.1 hread
  exact ⟨read, toOption_eq_some_iff.1 hread, hunplaced⟩

end Database

end TextRecords
