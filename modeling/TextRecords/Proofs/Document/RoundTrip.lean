import TextRecords.Proofs.Document.Text
import TextRecords.Proofs.Schema.TypeName

/-!
# What is written is read back

A canonical database is one whose text says all of it: its parts are canonical, every descriptor
declares a type that no other one declares, and comments stand where a reader would put them.
`Database.ofText_text` shows that such a database is read back from its text, except for the places
of its records.

The parts are added one after another to an assembly that holds what was written so far. A comment
or a record goes to the last set (`foldlM_entries`), a descriptor starts a new one
(`foldlM_setParts`). The set without a descriptor starts at its first record, which takes over the
comments before it (`foldlM_untypedEntries`).
-/

namespace TextRecords

/-- The type that a descriptor declares in its first field. -/
def Record.declaredType? (descriptor : Record) : Option String :=
  descriptor.fields.head?.bind Field.declaredType?

/-- Whether a record has fields, the first of which is none of a descriptor. -/
def Record.isData (record : Record) : Bool :=
  record.fields.head?.any (·.name != Document.typeMarker)

/-- The type that the descriptor of a set declares in its first field. -/
def RecordSet.declaredType? (set : RecordSet) : Option String :=
  set.descriptor.bind Record.declaredType?

/-- A set whose text says all of it. -/
structure RecordSet.IsCanonical (set : RecordSet) : Prop where
  descriptor : ∀ descriptor ∈ set.descriptor,
    Document.IsCanonicalPart descriptor.items ∧ descriptor.declaredType?.isSome
  records : ∀ record ∈ set.records, Document.IsCanonicalPart record.items ∧ record.isData = true
  comments : ∀ text ∈ set.comments, Text.NoReturnEnds text.toList

instance (set : RecordSet) : Decidable set.IsCanonical :=
  decidable_of_iff
    ((∀ descriptor ∈ set.descriptor,
        Document.IsCanonicalPart descriptor.items ∧ descriptor.declaredType?.isSome) ∧
      (∀ record ∈ set.records, Document.IsCanonicalPart record.items ∧ record.isData = true) ∧
      ∀ text ∈ set.comments, Text.NoReturnEnds text.toList)
    ⟨fun h => ⟨h.1, h.2.1, h.2.2⟩, fun h => ⟨h.1, h.2, h.3⟩⟩

/-- A database whose text says all of it. -/
structure Database.IsCanonical (db : Database) : Prop where
  prologue : ∀ text ∈ db.prologue, Text.NoReturnEnds text.toList
  sets : ∀ set ∈ db.sets, set.IsCanonical
  types : (db.sets.filterMap RecordSet.declaredType?).Nodup
  /-- Only the first set may lack a descriptor. -/
  untypedFirst : ∀ set ∈ db.sets.tail, set.descriptor.isSome
  /-- A set without a descriptor has records, and the comments before them. -/
  untyped : ∀ set ∈ db.sets.head?, set.descriptor = none → set.records ≠ [] ∧ db.prologue = []

instance (db : Database) : Decidable db.IsCanonical :=
  decidable_of_iff
    ((∀ text ∈ db.prologue, Text.NoReturnEnds text.toList) ∧ (∀ set ∈ db.sets, set.IsCanonical) ∧
      (db.sets.filterMap RecordSet.declaredType?).Nodup ∧
      (∀ set ∈ db.sets.tail, set.descriptor.isSome) ∧
      ∀ set ∈ db.sets.head?, set.descriptor = none → set.records ≠ [] ∧ db.prologue = [])
    ⟨fun h => ⟨h.1, h.2.1, h.2.2.1, h.2.2.2.1, h.2.2.2.2⟩, fun h => ⟨h.1, h.2, h.3, h.4, h.5⟩⟩

/-- The type of a set is the one that its descriptor declares in the first field, if it declares one
there. -/
theorem RecordSet.typeName_eq_declaredType? {set : RecordSet}
    (h : ∀ descriptor ∈ set.descriptor, descriptor.declaredType?.isSome) :
    set.typeName = set.declaredType? := by
  cases hdescriptor : set.descriptor with
  | none => rw [typeName, schema, declaredType?, hdescriptor, Option.bind_none]
  | some descriptor =>
    have hdeclared := h descriptor hdescriptor
    rw [typeName, schema, declaredType?, hdescriptor, Schema.typeName_ofDescriptor,
      Option.bind_some]
    unfold Record.declaredType? at hdeclared ⊢
    cases hfields : descriptor.fields with
    | nil =>
      rw [hfields] at hdeclared
      exact absurd hdeclared Bool.false_ne_true
    | cons field rest =>
      rw [hfields, List.head?_cons, Option.bind_some, Option.isSome_iff_exists] at hdeclared
      obtain ⟨type, htype⟩ := hdeclared
      rw [List.findSome?_cons, List.head?_cons, Option.bind_some, htype]

/-- The descriptor of a canonical set declares its type in the first field. -/
theorem RecordSet.IsCanonical.typeName_eq {set : RecordSet} (h : set.IsCanonical) :
    set.typeName = set.declaredType? :=
  typeName_eq_declaredType? fun descriptor hdescriptor => (h.descriptor descriptor hdescriptor).2

namespace Document.Assembly

/-- A comment block adds a comment. -/
theorem addItems_comment (assembly : Assembly) (text : String) :
    assembly.addItems [.comment text] = .ok (assembly.addComment text) := by
  have hjoined : String.ofList (Text.joinLines [text.toList]) = text := by
    rw [Text.joinLines_cons, List.flatMap_nil, List.append_nil, String.ofList_toList]
  exact congrArg (fun text => Except.ok (assembly.addComment text)) hjoined

/-- A block that is a record adds the record. -/
theorem add_of_isData (assembly : Assembly) {record : Record} (h : record.isData = true) :
    assembly.add record = .ok (assembly.addRecord record) := by
  unfold Record.isData at h
  rw [add]
  cases hfirst : record.fields.head? with
  | none =>
    rw [hfirst] at h
    exact absurd h Bool.false_ne_true
  | some field =>
    rw [hfirst, Option.any_some, bne_iff_ne] at h
    simp only [beq_iff_eq, if_neg h]

/-- The items of a record add the record, without a place. -/
theorem addItems_record (assembly : Assembly) {record : Record} (h : record.isData = true) :
    assembly.addItems record.items = .ok (assembly.addRecord record.unplaced) :=
  add_of_isData assembly h

/-- The items of a descriptor add the descriptor, without a place. -/
theorem addItems_descriptor (assembly : Assembly) {descriptor : Record} {type : String}
    (h : descriptor.declaredType? = some type) :
    assembly.addItems descriptor.items = assembly.addDescriptor type descriptor.unplaced := by
  have hfields : descriptor.unplaced.fields = descriptor.fields := rfl
  rw [addItems, show (⟨descriptor.items, none⟩ : Record) = descriptor.unplaced from rfl, add,
    hfields]
  rw [Record.declaredType?, Option.bind_eq_some_iff] at h
  obtain ⟨field, hfirst, htype⟩ := h
  rw [Field.declaredType?, Option.ite_none_right_eq_some, Option.map_eq_some_iff] at htype
  obtain ⟨hmarker, word, hword, rfl⟩ := htype
  simp only [hfirst, hword, beq_iff_eq, if_pos hmarker]

/-- The assembly that has added some sets, the last of which takes the next record. -/
def holding (prologue : List String) (before : List RecordSet) (last : RecordSet) : Assembly :=
  ⟨⟨prologue, before ++ [last]⟩, before.length⟩

/-- An entry whose items are added goes to the current set. -/
theorem addItems_of_set? {assembly : Assembly} {set : RecordSet}
    (hset : assembly.database.set? assembly.current = some set) {entry : Entry}
    (hdata : ∀ record ∈ entry.record?, record.isData = true) :
    assembly.addItems entry.items =
      .ok ⟨assembly.database.replaceSet assembly.current (set.push entry.unplaced),
        assembly.current⟩ := by
  have hget : assembly.database.sets[assembly.current]? = some set := hset
  have hne : assembly.database.sets.isEmpty = false := by
    rw [List.isEmpty_eq_false_iff_exists_mem]
    exact ⟨set, List.mem_of_getElem? hget⟩
  have hmodify : ∀ change : RecordSet → RecordSet,
      assembly.database.sets.modify assembly.current change =
        assembly.database.sets.set assembly.current (change set) := by
    let _ : Inhabited RecordSet := ⟨{}⟩
    intro change
    rw [List.modify_eq_set, hget, Option.getD_some]
  cases entry with
  | comment text =>
    rw [Entry.items, addItems_comment]
    simp only [addComment, hne, Bool.false_eq_true, if_false, hmodify]
    rfl
  | record record =>
    rw [Entry.items, addItems_record _ (hdata record rfl)]
    simp only [addRecord, hne, Bool.false_eq_true, if_false, hmodify]
    rfl

/-- An entry whose items are added goes to the last set. -/
theorem addItems_entry (prologue : List String) (before : List RecordSet) (last : RecordSet)
    {entry : Entry} (h : ∀ record ∈ entry.record?, record.isData = true) :
    (holding prologue before last).addItems entry.items =
      .ok (holding prologue before (last.push entry.unplaced)) := by
  have hset : (holding prologue before last).database.set?
      (holding prologue before last).current = some last := by simp [holding, Database.set?]
  rw [addItems_of_set? hset h]
  simp [holding, Database.replaceSet]

/-- Entries whose items are added go to the last set. -/
theorem foldlM_entries (prologue : List String) (before : List RecordSet) (last : RecordSet)
    {entries : List Entry}
    (h : ∀ record ∈ entries.filterMap Entry.record?, record.isData = true) :
    (entries.map Entry.items).foldlM addItems (holding prologue before last) =
      .ok (holding prologue before
        { last with entries := last.entries ++ entries.map Entry.unplaced }) := by
  induction entries generalizing last with
  | nil =>
    rw [List.map_nil, List.map_nil, List.append_nil]
    rfl
  | cons entry rest ih =>
    have hentry : ∀ record ∈ entry.record?, record.isData = true := fun record hrecord =>
      h record (List.mem_filterMap.2 ⟨entry, List.mem_cons_self, hrecord⟩)
    have hrest : ∀ record ∈ rest.filterMap Entry.record?, record.isData = true := by
      intro record hrecord
      obtain ⟨other, hother, hrecord⟩ := List.mem_filterMap.1 hrecord
      exact h record (List.mem_filterMap.2 ⟨other, List.mem_cons_of_mem _ hother, hrecord⟩)
    rw [List.map_cons, List.foldlM_cons, addItems_entry prologue before last hentry]
    refine (ih (last.push entry.unplaced) hrest).trans ?_
    simp [RecordSet.push]

/-- Comments before any set go to the prologue. -/
theorem foldlM_comments (before : List String) (current : Nat) (texts : List String) :
    (texts.map fun text => [Item.comment text]).foldlM addItems ⟨⟨before, []⟩, current⟩ =
      .ok ⟨⟨before ++ texts, []⟩, current⟩ := by
  induction texts generalizing before with
  | nil => rw [List.append_nil]; rfl
  | cons text rest ih =>
    rw [List.map_cons, List.foldlM_cons, addItems_comment, List.append_cons]
    exact ih (before ++ [text])

/-- The entries of a set without a descriptor start it at their first record. -/
theorem foldlM_untypedEntries (before : List String) (current : Nat) {entries : List Entry}
    (h : ∀ record ∈ entries.filterMap Entry.record?, record.isData = true)
    (hne : entries.filterMap Entry.record? ≠ []) :
    (entries.map Entry.items).foldlM addItems ⟨⟨before, []⟩, current⟩ =
      .ok (holding [] [] { entries := before.map .comment ++ entries.map Entry.unplaced }) := by
  -- The prologue collects the comments; the first record ends the induction by taking them over.
  induction entries generalizing before with
  | nil => exact absurd rfl hne
  | cons entry rest ih =>
    cases entry with
    | comment text =>
      rw [List.map_cons, List.foldlM_cons, Entry.items, addItems_comment]
      refine (ih (before ++ [text]) h hne).trans ?_
      simp [Entry.unplaced]
    | record record =>
      have hrecords : (Entry.record record :: rest).filterMap Entry.record? =
          record :: rest.filterMap Entry.record? := rfl
      rw [hrecords, List.forall_mem_cons] at h
      rw [List.map_cons, List.foldlM_cons, Entry.items, addItems_record _ h.1]
      refine (foldlM_entries [] [] _ h.2).trans ?_
      simp [Entry.unplaced]

/-- The parts of a first set without a descriptor add the set, if it has records. -/
theorem foldlM_untypedParts {set : RecordSet} (h : set.IsCanonical)
    (hdescriptor : set.descriptor = none) (hrecords : set.records ≠ []) :
    set.parts.foldlM addItems ⟨⟨[], []⟩, 0⟩ = .ok (holding [] [] set.unplaced) := by
  have hdata : ∀ record ∈ set.records, record.isData = true :=
    fun record hrecord => (h.records record hrecord).2
  have hparts : set.parts = set.entries.map Entry.items := by
    rw [RecordSet.parts, hdescriptor]
    rfl
  have hset : ({ entries := set.entries.map Entry.unplaced } : RecordSet) = set.unplaced := by
    rw [RecordSet.unplaced, hdescriptor]
    rfl
  have hstart := foldlM_untypedEntries [] 0 hdata hrecords
  rwa [List.map_nil, List.nil_append, hset, ← hparts] at hstart

/-- The parts of a set with a descriptor add the set, if its type is new. -/
theorem foldlM_setParts (prologue : List String) (before : List RecordSet) (current : Nat)
    {set : RecordSet} (h : set.IsCanonical) {type : String} (htype : set.declaredType? = some type)
    (hfresh : type ∉ before.filterMap RecordSet.typeName) :
    set.parts.foldlM addItems ⟨⟨prologue, before⟩, current⟩ =
      .ok (holding prologue before set.unplaced) := by
  rw [RecordSet.declaredType?, Option.bind_eq_some_iff] at htype
  obtain ⟨descriptor, hdescriptor, htype⟩ := htype
  -- The type is new, so the descriptor starts a set and is not merged into another one.
  have hnone : (⟨prologue, before⟩ : Database).typePosition? type = none := by
    rw [Database.typePosition?, List.findIdx?_eq_none_iff]
    intro other hother
    rw [beq_eq_false_iff_ne]
    exact fun hname => hfresh (List.mem_filterMap.2 ⟨other, hother, hname⟩)
  have hdata : ∀ record ∈ set.entries.filterMap Entry.record?, record.isData = true :=
    fun record hrecord => (h.records record hrecord).2
  have hstart : addItems ⟨⟨prologue, before⟩, current⟩ descriptor.items =
      .ok (holding prologue before { descriptor := some descriptor.unplaced }) := by
    rw [addItems_descriptor _ htype]
    simp only [addDescriptor, hnone]
    rfl
  have hparts : set.parts = descriptor.items :: set.entries.map Entry.items := by
    rw [RecordSet.parts, hdescriptor]
    rfl
  rw [hparts, List.foldlM_cons, hstart]
  refine (foldlM_entries prologue before _ hdata).trans ?_
  rw [RecordSet.unplaced, hdescriptor]
  rfl

/-- The parts of sets with descriptors add the sets, if their types are new. -/
theorem foldlM_setsParts (prologue : List String) (before : List RecordSet) (current : Nat)
    {sets : List RecordSet} (h : ∀ set ∈ sets, set.IsCanonical)
    (hdescriptor : ∀ set ∈ sets, set.descriptor.isSome)
    (htypes : (before.filterMap RecordSet.typeName ++
      sets.filterMap RecordSet.declaredType?).Nodup) :
    ∃ last, (sets.flatMap RecordSet.parts).foldlM addItems ⟨⟨prologue, before⟩, current⟩ =
      .ok ⟨⟨prologue, before ++ sets.map RecordSet.unplaced⟩, last⟩ := by
  -- The types of the sets already added and those still declared stay distinct together.
  induction sets generalizing before current with
  | nil => exact ⟨current, by rw [List.map_nil, List.append_nil]; rfl⟩
  | cons set rest ih =>
    rw [List.forall_mem_cons] at h hdescriptor
    obtain ⟨descriptor, hsome⟩ := Option.isSome_iff_exists.1 hdescriptor.1
    obtain ⟨type, htype⟩ := Option.isSome_iff_exists.1 (h.1.descriptor descriptor hsome).2
    have hdeclared : set.declaredType? = some type := by
      rw [RecordSet.declaredType?, hsome, Option.bind_some, htype]
    have hname : set.unplaced.typeName = some type := by
      rw [RecordSet.typeName_unplaced, h.1.typeName_eq, hdeclared]
    rw [List.filterMap_cons_some hdeclared] at htypes
    have hfresh : type ∉ before.filterMap RecordSet.typeName := by
      rw [List.nodup_append] at htypes
      exact fun hmem => htypes.2.2 type hmem type List.mem_cons_self rfl
    have hnext : ((before ++ [set.unplaced]).filterMap RecordSet.typeName ++
        rest.filterMap RecordSet.declaredType?).Nodup := by
      rw [List.filterMap_append, List.filterMap_cons_some hname, List.filterMap_nil,
        List.append_assoc, List.singleton_append]
      exact htypes
    obtain ⟨last, hlast⟩ := ih (before ++ [set.unplaced]) before.length h.2 hdescriptor.2 hnext
    refine ⟨last, ?_⟩
    rw [List.flatMap_cons, List.foldlM_append, foldlM_setParts prologue before current h.1
      hdeclared hfresh]
    refine hlast.trans ?_
    rw [List.map_cons, ← List.append_cons]

end Document.Assembly

namespace Database.IsCanonical

variable {db : Database}

/-- The parts of a canonical database are canonical. -/
theorem isCanonicalPart (h : db.IsCanonical) :
    ∀ part ∈ db.parts, Document.IsCanonicalPart part := by
  intro part hpart
  rcases List.mem_append.1 hpart with hpart | hpart
  · obtain ⟨text, htext, rfl⟩ := List.mem_map.1 hpart
    exact Document.isCanonicalPart_comment (h.prologue text htext)
  · obtain ⟨set, hset, hpart⟩ := List.mem_flatMap.1 hpart
    have hcanonical := h.sets set hset
    rcases List.mem_append.1 hpart with hpart | hpart
    · obtain ⟨descriptor, hdescriptor, rfl⟩ := Option.map_eq_some_iff.1
        (Option.mem_toList.1 hpart)
      exact (hcanonical.descriptor descriptor hdescriptor).1
    · obtain ⟨entry, hentry, rfl⟩ := List.mem_map.1 hpart
      cases entry with
      | record record =>
        exact (hcanonical.records record (List.mem_filterMap.2 ⟨_, hentry, rfl⟩)).1
      | comment text =>
        exact Document.isCanonicalPart_comment
          (hcanonical.comments text (List.mem_filterMap.2 ⟨_, hentry, rfl⟩))

/-- The parts of a canonical database assemble it. -/
theorem foldlM_parts (h : db.IsCanonical) :
    ∃ last, db.parts.foldlM Document.Assembly.addItems {} = .ok ⟨db.unplaced, last⟩ := by
  obtain ⟨prologue, sets⟩ := db
  have hprologue := Document.Assembly.foldlM_comments [] 0 prologue
  rw [List.nil_append] at hprologue
  rw [parts, List.foldlM_append, show ({} : Document.Assembly) = ⟨⟨[], []⟩, 0⟩ from rfl, hprologue]
  cases sets with
  | nil => exact ⟨0, rfl⟩
  | cons first rest =>
    cases hdescriptor : first.descriptor with
    | some descriptor =>
      have hall : ∀ set ∈ first :: rest, set.descriptor.isSome :=
        List.forall_mem_cons.2 ⟨Option.isSome_of_eq_some hdescriptor, h.untypedFirst⟩
      exact Document.Assembly.foldlM_setsParts prologue [] 0 h.sets hall h.types
    | none =>
      -- Nothing precedes the set without a descriptor, so it stands alone when the others start.
      obtain ⟨hrecords, hnil⟩ := h.untyped first rfl hdescriptor
      have hempty : prologue = [] := hnil
      have hcanonical := List.forall_mem_cons.1 h.sets
      have hstart := Document.Assembly.foldlM_untypedParts hcanonical.1 hdescriptor hrecords
      have hundeclared : first.declaredType? = none := by
        rw [RecordSet.declaredType?, hdescriptor, Option.bind_none]
      have hname : first.unplaced.typeName = none := by
        rw [RecordSet.typeName_unplaced, hcanonical.1.typeName_eq, hundeclared]
      have htypes : ([first.unplaced].filterMap RecordSet.typeName ++
          rest.filterMap RecordSet.declaredType?).Nodup := by
        have hnodup := h.types
        rw [List.filterMap_cons_none hundeclared] at hnodup
        rwa [List.filterMap_cons_none hname, List.filterMap_nil, List.nil_append]
      obtain ⟨last, hlast⟩ := Document.Assembly.foldlM_setsParts [] [first.unplaced] 0 hcanonical.2
        h.untypedFirst htypes
      refine ⟨last, ?_⟩
      rw [hempty, List.flatMap_cons]
      refine List.foldlM_append.trans ?_
      rw [hstart]
      exact hlast

end Database.IsCanonical

/-- A canonical database is read back from its text with any configuration, except for the places
of its records. -/
theorem Database.ofText_text (config : Config) {db : Database} (h : db.IsCanonical) :
    ∃ read, ofText config db.text.toList = .ok read ∧ read.unplaced = db.unplaced := by
  -- The text is read as what the parts assemble, and the parts assemble the database.
  obtain ⟨last, hlast⟩ := h.foldlM_parts
  have hread := Database.unplaced_ofText_text config h.isCanonicalPart
  rw [hlast] at hread
  cases hresult : ofText config db.text.toList with
  | error fault =>
    rw [hresult] at hread
    exact absurd hread nofun
  | ok read =>
    rw [hresult] at hread
    exact ⟨read, rfl, Option.some.inj hread⟩

/-- A database with an untyped set and a typed one, and with values and comments of several lines
that start with signs, end in backslashes or are empty. -/
def Database.specimen : Database where
  sets :=
    [{ entries :=
        [.comment " about\n# more",
          .record ⟨[.comment "", .field ⟨"path", "C:\\\n#\n\n+ \\\\"⟩, .comment "end"], none⟩,
          .comment "+"] },
      { descriptor := some ⟨[.comment "type", .field ⟨"%rec", "\n Note x"⟩], some ⟨9, 70⟩⟩
        entries := [.record ⟨[.field ⟨"_a", " "⟩, .field ⟨"_a", ""⟩], none⟩] }]

/-- The specimen is read back from its text when backslashes join lines. -/
theorem Database.ofText_text_specimen :
    specimen.IsCanonical ∧
      ∃ read, ofText {} specimen.text.toList = .ok read ∧ read.unplaced = specimen.unplaced := by
  have h : specimen.IsCanonical := by decide
  exact ⟨h, ofText_text {} h⟩

end TextRecords
