import TextRecords.Proofs.Document.Items
import TextRecords.Proofs.Document.RoundTrip

/-!
# Assembled databases

A database is assembled when its descriptors and records stand where a reader would put them,
whatever their values and comments hold. A canonical database is one that is assembled, whose items
are all read back, and whose descriptors keep their comments apart (`Database.isCanonical_iff`).

Another set in place of one of the same type leaves a database assembled
(`Database.IsAssembled.replaceSet`).
-/

namespace TextRecords

/-- A set whose descriptor declares a type in its first field, and whose records are none of
descriptors. -/
structure RecordSet.IsAssembled (set : RecordSet) : Prop where
  descriptor : ∀ descriptor ∈ set.descriptor, descriptor.declaredType?.isSome
  records : ∀ record ∈ set.records,
    record.items.IsChain (Item.apart · · = true) ∧ record.isData = true

/-- A database whose descriptors and records stand where a reader would put them. -/
structure Database.IsAssembled (db : Database) : Prop where
  sets : ∀ set ∈ db.sets, set.IsAssembled
  types : (db.sets.filterMap RecordSet.declaredType?).Nodup
  /-- Only the first set may lack a descriptor. -/
  untypedFirst : ∀ set ∈ db.sets.tail, set.descriptor.isSome
  /-- A set without a descriptor has records, and the comments before them. -/
  untyped : ∀ set ∈ db.sets.head?, set.descriptor = none → set.records ≠ [] ∧ db.prologue = []

/-- An item is read back from its lines when it is named and no line of it ends in a carriage
return. -/
theorem Item.isCanonical_iff {item : Item} :
    item.IsCanonical ↔ item.isNamed = true ∧ item.Within 0 := by
  cases item with
  | field field => exact and_congr_right fun _ => Text.noReturnEnds_iff
  | comment text => exact Text.noReturnEnds_iff.trans ⟨fun h => ⟨rfl, h⟩, And.right⟩

/-- A descriptor that declares a type has items. -/
theorem Record.items_ne_nil_of_declaredType? {record : Record}
    (h : record.declaredType?.isSome = true) : record.items ≠ [] := by
  intro hnil
  rw [declaredType?, fields, hnil] at h
  exact absurd h Bool.false_ne_true

/-- More items behind a descriptor that declares a type do not change the type. -/
theorem Record.declaredType?_append {record : Record} (h : record.declaredType?.isSome = true)
    (more : List Item) :
    declaredType? { record with items := record.items ++ more } = record.declaredType? := by
  have hne : record.fields ≠ [] := by
    intro hnil
    rw [declaredType?, hnil] at h
    exact absurd h Bool.false_ne_true
  rw [declaredType?, fields, List.filterMap_append, ← fields, List.head?_append_of_ne_nil _ hne,
    declaredType?]

/-- A record that is none of a descriptor has items. -/
theorem Record.items_ne_nil_of_isData {record : Record} (h : record.isData = true) :
    record.items ≠ [] := by
  intro hnil
  rw [isData, fields, hnil] at h
  exact absurd h Bool.false_ne_true

/-- What holds of all parts of a set holds of its descriptor, its records and its comments. -/
theorem RecordSet.forall_mem_parts_iff {set : RecordSet} {P : List Item → Prop} :
    (∀ part ∈ set.parts, P part) ↔ (∀ descriptor ∈ set.descriptor, P descriptor.items) ∧
      (∀ record ∈ set.records, P record.items) ∧ ∀ text ∈ set.comments, P [.comment text] := by
  obtain ⟨descriptor, entries⟩ := set
  have hentries : (∀ part ∈ entries.map Entry.items, P part) ↔
      (∀ record ∈ entries.filterMap Entry.record?, P record.items) ∧
        ∀ text ∈ entries.filterMap Entry.comment?, P [.comment text] := by
    induction entries with
    | nil => simp
    | cons entry rest ih =>
      rw [List.map_cons, List.forall_mem_cons, ih]
      cases entry with
      | record record => simp [Entry.items, Entry.record?, Entry.comment?, and_assoc]
      | comment text => simp [Entry.items, Entry.record?, Entry.comment?, and_left_comm]
  rw [parts, List.forall_mem_append, hentries]
  refine and_congr_left fun _ => ?_
  cases descriptor with
  | none => simp
  | some descriptor => simp

/-- The items of the descriptor are a part of a set. -/
theorem RecordSet.mem_parts_of_mem_descriptor {set : RecordSet} {descriptor : Record}
    (h : descriptor ∈ set.descriptor) : descriptor.items ∈ set.parts :=
  List.mem_append_left _ (Option.mem_toList.2 (Option.mem_map_of_mem Record.items h))

/-- What holds of all parts of a database holds of its prologue and of the parts of its sets. -/
theorem Database.forall_mem_parts_iff {db : Database} {P : List Item → Prop} :
    (∀ part ∈ db.parts, P part) ↔
      (∀ text ∈ db.prologue, P [.comment text]) ∧ ∀ set ∈ db.sets, ∀ part ∈ set.parts, P part := by
  rw [parts, List.forall_mem_append, List.forall_mem_map, List.forall_mem_flatMap]

/-- A canonical set is assembled. -/
theorem RecordSet.IsCanonical.isAssembled {set : RecordSet} (h : set.IsCanonical) :
    set.IsAssembled where
  descriptor descriptor hdescriptor := (h.descriptor descriptor hdescriptor).2
  records record hrecord := (h.records record hrecord).imp_left (·.apart)

/-- A canonical database is an assembled one whose items are read back, and whose descriptors keep
their comments apart. -/
theorem Database.isCanonical_iff {db : Database} :
    db.IsCanonical ↔ db.IsAssembled ∧ (∀ part ∈ db.parts, ∀ item ∈ part, item.IsCanonical) ∧
      ∀ set ∈ db.sets, ∀ descriptor ∈ set.descriptor,
        descriptor.items.IsChain (Item.apart · · = true) := by
  constructor
  · intro h
    exact ⟨⟨fun set hset => (h.sets set hset).isAssembled, h.types, h.untypedFirst, h.untyped⟩,
      fun part hpart => (h.isCanonicalPart part hpart).canonical,
      fun set hset descriptor hdescriptor =>
        ((h.sets set hset).descriptor descriptor hdescriptor).1.apart⟩
  · rintro ⟨h, hitems, hapart⟩
    obtain ⟨hprologue, hsets⟩ := forall_mem_parts_iff.1 hitems
    refine ⟨fun text htext => hprologue text htext _ List.mem_cons_self, fun set hset => ?_,
      h.types, h.untypedFirst, h.untyped⟩
    obtain ⟨hdescriptor, hrecords, hcomments⟩ := RecordSet.forall_mem_parts_iff.1 (hsets set hset)
    constructor
    · intro descriptor hmem
      have hdeclared := (h.sets set hset).descriptor descriptor hmem
      exact ⟨⟨Record.items_ne_nil_of_declaredType? hdeclared, hdescriptor descriptor hmem,
        hapart set hset descriptor hmem⟩, hdeclared⟩
    · intro record hmem
      obtain ⟨hchain, hdata⟩ := (h.sets set hset).records record hmem
      exact ⟨⟨Record.items_ne_nil_of_isData hdata, hrecords record hmem, hchain⟩, hdata⟩
    · exact fun text hmem => hcomments text hmem _ List.mem_cons_self

/-- An assembled set declares a type when it has a descriptor. -/
theorem RecordSet.IsAssembled.isSome_declaredType? {set : RecordSet} (h : set.IsAssembled) :
    set.declaredType?.isSome = set.descriptor.isSome := by
  rw [RecordSet.declaredType?]
  cases hdescriptor : set.descriptor with
  | none => rfl
  | some descriptor => exact h.descriptor descriptor hdescriptor

/-- The records of a set with one more entry. -/
theorem RecordSet.records_push (set : RecordSet) (entry : Entry) :
    (set.push entry).records = set.records ++ entry.record?.toList := by
  rw [records, push, List.filterMap_append, records]
  cases entry with
  | record record => rfl
  | comment text => rfl

/-- The parts of a set with one more entry. -/
theorem RecordSet.parts_push (set : RecordSet) (entry : Entry) :
    (set.push entry).parts = set.parts ++ [entry.items] := by
  rw [parts, parts, push, List.map_append, List.append_assoc]
  rfl

/-- The parts of a database with one more set after all others. -/
theorem Database.parts_append (prologue : List String) (sets : List RecordSet) (set : RecordSet) :
    parts ⟨prologue, sets ++ [set]⟩ = parts ⟨prologue, sets⟩ ++ set.parts := by
  rw [parts, parts, List.flatMap_append, List.flatMap_singleton, List.append_assoc]

/-- A part of a set is one of the database. -/
theorem Database.mem_parts_of_mem_sets {db : Database} {set : RecordSet} (hset : set ∈ db.sets)
    {part : List Item} (hpart : part ∈ set.parts) : part ∈ db.parts :=
  List.mem_append_right _ (List.mem_flatMap.2 ⟨set, hset, hpart⟩)

/-- A part of a database with another set at a position is one of the database or of that set. -/
theorem Database.mem_parts_replaceSet {db : Database} {position : Nat} {next : RecordSet}
    {part : List Item} (h : part ∈ (db.replaceSet position next).parts) :
    part ∈ db.parts ∨ part ∈ next.parts := by
  rw [parts, replaceSet, List.mem_append, List.mem_flatMap] at h
  rcases h with hprologue | ⟨set, hset, hpart⟩
  · exact .inl (List.mem_append_left _ hprologue)
  · rcases List.mem_or_eq_of_mem_set hset with hset | rfl
    · exact .inl (List.mem_append_right _ (List.mem_flatMap.2 ⟨set, hset, hpart⟩))
    · exact .inr hpart

/-- A list with another element at a position is the same to a map that does not tell them apart. -/
theorem map_set_of_eq {α β : Type} (f : α → β) {list : List α} {position : Nat} {old new : α}
    (h : list[position]? = some old) (heq : f new = f old) :
    (list.set position new).map f = list.map f := by
  obtain ⟨hlt, rfl⟩ := List.getElem?_eq_some_iff.1 h
  have hlength : position < (list.map f).length := by rwa [List.length_map]
  have hself := List.set_getElem_self hlength
  rw [List.getElem_map] at hself
  rw [List.map_set, heq, hself]

/-- Another set of the same type in place of one leaves a database assembled, if it does not leave
the untyped set without records. -/
theorem Database.IsAssembled.replaceSet {db : Database} (h : db.IsAssembled) {position : Nat}
    {set next : RecordSet} (hset : db.set? position = some set) (hnext : next.IsAssembled)
    (htype : next.declaredType? = set.declaredType?)
    (hrecords : next.descriptor = none → set.records ≠ [] → next.records ≠ []) :
    (db.replaceSet position next).IsAssembled := by
  have hdescriptor : next.descriptor.isSome = set.descriptor.isSome := by
    rw [← hnext.isSome_declaredType?, htype,
      (h.sets set (List.mem_of_getElem? hset)).isSome_declaredType?]
  -- The types are those from before, and so is which set lacks a descriptor.
  obtain ⟨prologue, sets⟩ := db
  constructor
  · intro other hother
    rcases List.mem_or_eq_of_mem_set hother with hother | rfl
    · exact h.sets other hother
    · exact hnext
  · have htypes : ∀ sets : List RecordSet, sets.filterMap RecordSet.declaredType? =
        (sets.map RecordSet.declaredType?).filterMap id := by
      intro sets
      rw [List.filterMap_map]
      rfl
    have hnodup := h.types
    rw [htypes] at hnodup
    rwa [htypes, Database.replaceSet, map_set_of_eq RecordSet.declaredType? hset htype]
  · intro other hother
    cases sets with
    | nil => cases hset
    | cons first rest =>
      cases position with
      | zero => exact h.untypedFirst other hother
      | succ position =>
        rcases List.mem_or_eq_of_mem_set hother with hother | rfl
        · exact h.untypedFirst other hother
        · rw [hdescriptor]
          exact h.untypedFirst set (List.mem_of_getElem? hset)
  · intro other hother hnone
    cases sets with
    | nil => cases hset
    | cons first rest =>
      cases position with
      | zero =>
        obtain rfl : first = set := Option.some.inj hset
        obtain rfl : next = other := Option.some.inj hother
        rw [hnone, Option.isSome_none, eq_comm, Option.isSome_eq_false_iff,
          Option.isNone_iff_eq_none] at hdescriptor
        obtain ⟨hne, hprologue⟩ := h.untyped first rfl hdescriptor
        exact ⟨hrecords hnone hne, hprologue⟩
      | succ position => exact h.untyped other hother hnone

/-- An entry that a reader would put into a set leaves it assembled. -/
theorem RecordSet.IsAssembled.push {set : RecordSet} (h : set.IsAssembled) {entry : Entry}
    (hentry : ∀ record ∈ entry.record?,
      record.items.IsChain (Item.apart · · = true) ∧ record.isData = true) :
    (set.push entry).IsAssembled where
  descriptor := h.descriptor
  records := by
    rw [records_push, List.forall_mem_append]
    exact ⟨h.records, fun record hrecord => hentry record (Option.mem_toList.1 hrecord)⟩

/-- A set without a descriptor and records. -/
def RecordSet.ofComments (texts : List String) : RecordSet :=
  { entries := texts.map .comment }

/-- Comments are no records. -/
theorem RecordSet.records_ofComments (texts : List String) : (ofComments texts).records = [] := by
  rw [records, ofComments, List.filterMap_map]
  exact List.filterMap_eq_nil_iff.2 fun _ _ => rfl

/-- Comments are parts by themselves. -/
theorem RecordSet.parts_ofComments (texts : List String) :
    (ofComments texts).parts = texts.map fun text => [.comment text] := by
  rw [parts, ofComments, List.map_map]
  rfl

/-- Comments are an assembled set. -/
theorem RecordSet.isAssembled_ofComments (texts : List String) :
    (ofComments texts).IsAssembled where
  descriptor := nofun
  records := by
    rw [records_ofComments]
    exact List.forall_mem_nil _

/-- A database without sets is assembled. -/
theorem Database.isAssembled_of_sets_nil (prologue : List String) :
    IsAssembled ⟨prologue, []⟩ where
  sets := List.forall_mem_nil _
  types := List.nodup_nil
  untypedFirst := List.forall_mem_nil _
  untyped := nofun

/-- A database with one set that has no descriptor, but records, is assembled. -/
theorem Database.isAssembled_of_records {set : RecordSet} (h : set.IsAssembled)
    (hdescriptor : set.descriptor = none) (hrecords : set.records ≠ []) :
    IsAssembled ⟨[], [set]⟩ where
  sets := List.forall_mem_singleton.2 h
  types := by
    rw [List.filterMap_cons_none]
    · exact List.nodup_nil
    · rw [RecordSet.declaredType?, hdescriptor, Option.bind_none]
  untypedFirst := List.forall_mem_nil _
  untyped := by
    rintro _ ⟨⟩ _
    exact ⟨hrecords, rfl⟩

/-- A set with a new type after all others leaves a database assembled. -/
theorem Database.IsAssembled.append {db : Database} (h : db.IsAssembled) {set : RecordSet}
    (hset : set.IsAssembled) (hdescriptor : set.descriptor.isSome)
    (hfresh : ∀ type ∈ set.declaredType?, type ∉ db.sets.filterMap RecordSet.declaredType?) :
    IsAssembled { db with sets := db.sets ++ [set] } where
  sets := List.forall_mem_append.2 ⟨h.sets, List.forall_mem_singleton.2 hset⟩
  types := by
    rw [List.filterMap_append, List.nodup_append]
    refine ⟨h.types, ?_, ?_⟩
    · cases htype : set.declaredType? <;> simp [htype]
    · intro type htype other hother
      obtain ⟨last, hlast, heq⟩ := List.mem_filterMap.1 hother
      rw [List.mem_singleton.1 hlast] at heq
      rintro rfl
      exact hfresh type heq htype
  untypedFirst := by
    obtain ⟨prologue, sets⟩ := db
    cases sets with
    | nil => exact List.forall_mem_nil _
    | cons first rest =>
      exact List.forall_mem_append.2 ⟨h.untypedFirst, List.forall_mem_singleton.2 hdescriptor⟩
  untyped := by
    obtain ⟨prologue, sets⟩ := db
    cases sets with
    | nil =>
      rintro _ ⟨⟩ hnone
      rw [hnone] at hdescriptor
      exact absurd hdescriptor nofun
    | cons first rest => exact h.untyped

section Unplaced

/-- The records of a set without their places. -/
theorem RecordSet.records_unplaced (set : RecordSet) :
    set.unplaced.records = set.records.map Record.unplaced := by
  rw [records, unplaced, records, List.filterMap_map, List.map_filterMap]
  congr 1
  funext entry
  cases entry <;> rfl

/-- The type of a set has no regard to places. -/
theorem RecordSet.declaredType?_unplaced (set : RecordSet) :
    set.unplaced.declaredType? = set.declaredType? := by
  obtain ⟨descriptor, entries⟩ := set
  cases descriptor <;> rfl

/-- The parts of a set have no regard to places. -/
theorem RecordSet.parts_unplaced (set : RecordSet) : set.unplaced.parts = set.parts := by
  have hentries : (set.entries.map Entry.unplaced).map Entry.items =
      set.entries.map Entry.items := by
    rw [List.map_map]
    refine List.map_congr_left fun entry _ => ?_
    cases entry <;> rfl
  rw [parts, parts, unplaced, hentries, Option.map_map]
  rfl

/-- The parts of a database have no regard to places. -/
theorem Database.parts_unplaced (db : Database) : db.unplaced.parts = db.parts := by
  rw [parts, parts, unplaced, List.flatMap_map]
  simp only [RecordSet.parts_unplaced]

/-- A set is assembled if it is without the places of its records. -/
theorem RecordSet.isAssembled_of_unplaced {set : RecordSet} (h : set.unplaced.IsAssembled) :
    set.IsAssembled where
  descriptor descriptor hdescriptor :=
    h.descriptor descriptor.unplaced (Option.mem_map_of_mem Record.unplaced hdescriptor)
  records := by
    have hrecords := h.records
    rw [records_unplaced, List.forall_mem_map] at hrecords
    exact hrecords

/-- A database is assembled if it is without the places of its records. -/
theorem Database.isAssembled_of_unplaced {db : Database} (h : db.unplaced.IsAssembled) :
    db.IsAssembled where
  sets set hset := RecordSet.isAssembled_of_unplaced (h.sets _ (List.mem_map_of_mem hset))
  types := by
    have htypes := h.types
    rw [unplaced, List.filterMap_map, Function.comp_def] at htypes
    simpa only [RecordSet.declaredType?_unplaced] using htypes
  untypedFirst set hset := by
    have hfirst := h.untypedFirst
    rw [unplaced, ← List.map_tail, List.forall_mem_map] at hfirst
    simpa [RecordSet.unplaced] using hfirst set hset
  untyped set hset hnone := by
    have hhead : set.unplaced ∈ db.unplaced.sets.head? := by
      rw [unplaced, List.head?_map, Option.mem_def.1 hset]
      rfl
    have hunplaced : set.unplaced.descriptor = none := by
      rw [RecordSet.unplaced, hnone]
      rfl
    obtain ⟨hrecords, hprologue⟩ := h.untyped _ hhead hunplaced
    rw [RecordSet.records_unplaced, Ne, List.map_eq_nil_iff] at hrecords
    exact ⟨hrecords, hprologue⟩

end Unplaced

end TextRecords
