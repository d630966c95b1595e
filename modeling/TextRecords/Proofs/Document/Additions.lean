import TextRecords.Proofs.Document.Assembled
import TextRecords.Proofs.Document.Parts

/-!
# What the parts of a text assemble

`Assembly.Adds` says all that the items of one block can do to a database that is being assembled.
From it follows what a text is read as. The database is an assembled one
(`Database.isAssembled_unplaced_of_ofText`) whose items all come from the parts of the text
(`Database.forall_items_of_ofText`). If no type is declared twice, nothing is merged, and the parts
of the database are those of the text (`Database.parts_of_ofText`).
-/

namespace TextRecords

/-- The set of a type is the one at its position. -/
theorem Database.set?_of_typePosition? {db : Database} {type : String} {position : Nat}
    (h : db.typePosition? type = some position) :
    ∃ set, db.setOfType? type = some set ∧ db.set? position = some set ∧
      set.typeName = some type := by
  obtain ⟨hlt, htype, -⟩ := List.findIdx?_eq_some_iff_getElem.1 h
  have hget : db.sets[position]? = some db.sets[position] := List.getElem?_eq_getElem hlt
  refine ⟨db.sets[position], ?_, hget, by simpa using htype⟩
  rw [setOfType?, List.find?_eq_bind_findIdx?_getElem?, ← typePosition?, h, Option.bind_some, hget]

/-- A record that is none of a descriptor declares no type. -/
theorem Record.declaredType?_of_isData {record : Record} (h : record.isData = true) :
    record.declaredType? = none := by
  rw [isData, Option.any_eq_true] at h
  obtain ⟨field, hfirst, hname⟩ := h
  rw [declaredType?, hfirst, Option.bind_some, Field.declaredType?, if_neg (bne_iff_ne.1 hname)]

/-- A set with a descriptor has the type that the descriptor declares in the first field. -/
theorem RecordSet.typeName_of_declaredType? {descriptor : Record} {type : String}
    (h : descriptor.declaredType? = some type) :
    typeName { descriptor := some descriptor.unplaced } = some type := by
  rw [typeName_eq_declaredType?]
  · exact h
  · rintro _ ⟨⟩
    exact Option.isSome_of_eq_some h

namespace Document

/-- Items without fields that a block may denote are one comment. -/
theorem IsPart.eq_comment {items : List Item} (h : IsPart items)
    (hfields : (⟨items, none⟩ : Record).fields = []) : ∃ text, items = [.comment text] := by
  have hnone : ∀ item ∈ items, item.field? = none := List.filterMap_eq_nil_iff.1 hfields
  have hcomment : ∀ item ∈ items, ∃ text, item = .comment text := by
    intro item hitem
    cases item with
    | field field => exact absurd (hnone _ hitem) nofun
    | comment text => exact ⟨text, rfl⟩
  obtain ⟨first, rest, rfl⟩ := List.exists_cons_of_ne_nil h.ne_nil
  rw [List.forall_mem_cons] at hcomment
  obtain ⟨⟨text, rfl⟩, hrest⟩ := hcomment
  cases rest with
  | nil => exact ⟨text, rfl⟩
  | cons next others =>
    -- A second comment would not be apart from the first.
    obtain ⟨more, rfl⟩ := hrest next List.mem_cons_self
    exact absurd (List.isChain_cons_cons.1 h.apart).1 Bool.false_ne_true

/-- A descriptor with an item merged into it has the item behind its own, or is left as it is. -/
theorem mergeItem_cases {type : String} {merged next : Record} {item : Item}
    (h : mergeItem type merged item = .ok next) :
    next = merged ∨ next = { merged with items := merged.items ++ [item] } := by
  cases item with
  | comment text => exact .inr (Except.ok.inj h).symm
  | field field =>
    simp only [mergeItem] at h
    split at h
    · exact .inl (Except.ok.inj h).symm
    · split at h
      · cases h
      · exact .inr (Except.ok.inj h).symm

/-- A descriptor with another one merged into it has some items of the other behind its own. -/
theorem mergeDescriptor_eq {type : String} {existing merged : Record} {incoming : List Item}
    (h : mergeDescriptor type existing incoming = .ok merged) :
    ∃ kept, kept.Sublist incoming ∧
      merged = { existing with items := existing.items ++ kept } := by
  unfold mergeDescriptor at h
  induction incoming generalizing existing with
  | nil => exact ⟨[], List.nil_sublist _, by rw [List.append_nil, ← Except.ok.inj h]⟩
  | cons item rest ih =>
    obtain ⟨next, hnext, hrest⟩ := foldlM_cons_eq_ok_iff.1 h
    obtain ⟨kept, hkept, rfl⟩ := ih hrest
    rcases mergeItem_cases hnext with rfl | rfl
    · exact ⟨kept, hkept.cons item, rfl⟩
    · exact ⟨item :: kept, hkept.cons_cons item, by rw [List.append_assoc, List.singleton_append]⟩

namespace Assembly

/-- What adding a block does to every assembly, by the first field of the block. -/
inductive AddsAs (block : Record) : Prop
  /-- A block of comments. -/
  | comment (text : String) (hfields : block.fields = [])
      (h : ∀ assembly : Assembly, assembly.add block = .ok (assembly.addComment text))
  /-- A record. -/
  | record (hdata : block.isData = true)
      (h : ∀ assembly : Assembly, assembly.add block = .ok (assembly.addRecord block))
  /-- A descriptor. -/
  | descriptor (type : String) (htype : block.declaredType? = some type)
      (h : ∀ assembly : Assembly, assembly.add block = assembly.addDescriptor type block)
  /-- A descriptor that lacks its type. -/
  | fault (htype : block.declaredType? = none)
      (h : ∀ assembly : Assembly, assembly.add block = .error .descriptorWithoutType)

/-- Every block is a comment, a record or a descriptor. -/
theorem addsAs (block : Record) : AddsAs block := by
  cases hfields : block.fields with
  | nil =>
    refine .comment (.ofList (Text.joinLines (block.comments.map String.toList))) hfields
      fun assembly => ?_
    rw [add, hfields]
    rfl
  | cons field rest =>
    by_cases hmarker : field.name = typeMarker
    · have hdeclared : block.declaredType? =
          (Text.firstWord? field.value.toList).map String.ofList := by
        rw [Record.declaredType?, hfields, List.head?_cons, Option.bind_some, Field.declaredType?,
          if_pos hmarker]
      cases hword : Text.firstWord? field.value.toList with
      | none =>
        refine .fault (by rw [hdeclared, hword]; rfl) fun assembly => ?_
        simp [add, hfields, hmarker, hword]
      | some word =>
        refine .descriptor (.ofList word) (by rw [hdeclared, hword]; rfl) fun assembly => ?_
        simp [add, hfields, hmarker, hword]
    · refine .record ?_ fun assembly => ?_
      · rw [Record.isData, hfields, List.head?_cons, Option.any_some, bne_iff_ne]
        exact hmarker
      · simp [add, hfields, hmarker]

/-- What the items of a block do to an assembly. -/
inductive Adds (assembly : Assembly) : List Item → Assembly → Prop
  /-- A comment before any set. -/
  | prologue {text : String} (h : assembly.database.sets = []) :
      Adds assembly [.comment text]
        ⟨⟨assembly.database.prologue ++ [text], []⟩, assembly.current⟩
  /-- A record before any set, with which the untyped set starts. -/
  | untyped {record : Record} (h : assembly.database.sets = []) (hdata : record.isData = true) :
      Adds assembly record.items
        ⟨⟨[], [(RecordSet.ofComments assembly.database.prologue).push
          (.record record.unplaced)]⟩, 0⟩
  /-- A record or a comment of the current set. -/
  | entry {entry : Entry} {set : RecordSet}
      (hset : assembly.database.set? assembly.current = some set)
      (hdata : ∀ record ∈ entry.record?, record.isData = true) :
      Adds assembly entry.items
        ⟨assembly.database.replaceSet assembly.current (set.push entry.unplaced), assembly.current⟩
  /-- A descriptor of a new type. -/
  | newSet {descriptor : Record} {type : String} (htype : descriptor.declaredType? = some type)
      (hfresh : assembly.database.typePosition? type = none) :
      Adds assembly descriptor.items
        ⟨{ assembly.database with
            sets := assembly.database.sets ++ [{ descriptor := some descriptor.unplaced }] },
          assembly.database.size⟩
  /-- A descriptor of a type that has a set. -/
  | merged {descriptor existing : Record} {type : String} {position : Nat} {set : RecordSet}
      {kept : List Item} (htype : descriptor.declaredType? = some type)
      (hset : assembly.database.set? position = some set) (hname : set.typeName = some type)
      (hexisting : set.descriptor = some existing) (hkept : kept.Sublist descriptor.items) :
      Adds assembly descriptor.items
        ⟨assembly.database.replaceSet position
          { set with descriptor := some { existing with items := existing.items ++ kept } },
          position⟩

variable {assembly next : Assembly}

/-- What an entry whose items are added does. -/
theorem adds_of_entry (entry : Entry) (hdata : ∀ record ∈ entry.record?, record.isData = true)
    (hcurrent : assembly.database.sets ≠ [] → assembly.current < assembly.database.sets.length)
    (h : assembly.addItems entry.items = .ok next) : assembly.Adds entry.items next := by
  by_cases hsets : assembly.database.sets = []
  · have hempty : assembly.database.sets.isEmpty = true := List.isEmpty_iff.2 hsets
    cases entry with
    | comment text =>
      rw [Entry.items, addItems_comment] at h
      simp only [addComment, hsets] at h
      rw [← Except.ok.inj h]
      exact .prologue hsets
    | record record =>
      rw [Entry.items, addItems_record _ (hdata record rfl)] at h
      simp only [addRecord, hempty, if_true] at h
      rw [← Except.ok.inj h]
      exact .untyped hsets (hdata record rfl)
  · have hset : assembly.database.set? assembly.current = some _ :=
      List.getElem?_eq_getElem (hcurrent hsets)
    rw [addItems_of_set? hset hdata] at h
    rw [← Except.ok.inj h]
    exact .entry hset hdata

/-- What a descriptor whose items are added does. -/
theorem adds_of_descriptor {descriptor : Record} {type : String}
    (htype : descriptor.declaredType? = some type)
    (h : assembly.addItems descriptor.items = .ok next) : assembly.Adds descriptor.items next := by
  rw [addItems_descriptor assembly htype, addDescriptor] at h
  cases hposition : assembly.database.typePosition? type with
  | none =>
    simp only [hposition] at h
    rw [← Except.ok.inj h]
    exact .newSet htype hposition
  | some position =>
    obtain ⟨set, hfound, hset, hname⟩ := Database.set?_of_typePosition? hposition
    simp only [hposition, hfound] at h
    -- A set has a type only by its descriptor.
    cases hexisting : set.descriptor with
    | none =>
      rw [RecordSet.typeName, RecordSet.schema, hexisting] at hname
      cases hname
    | some existing =>
      rw [hexisting, Option.getD_some] at h
      cases hmerge : mergeDescriptor type existing descriptor.unplaced.items with
      | error fault =>
        rw [hmerge] at h
        cases h
      | ok merged =>
        rw [hmerge] at h
        obtain ⟨kept, hkept, rfl⟩ := mergeDescriptor_eq hmerge
        rw [← Except.ok.inj h]
        exact .merged htype hset hname hexisting hkept

/-- What the items of a block that are added do. -/
theorem adds_of_addItems {items : List Item} (hpart : IsPart items)
    (hcurrent : assembly.database.sets ≠ [] → assembly.current < assembly.database.sets.length)
    (h : assembly.addItems items = .ok next) : assembly.Adds items next := by
  cases addsAs ⟨items, none⟩ with
  | comment text hfields hadd =>
    obtain ⟨text, rfl⟩ := hpart.eq_comment hfields
    exact adds_of_entry (.comment text) nofun hcurrent h
  | record hdata hadd =>
    refine adds_of_entry (.record ⟨items, none⟩) ?_ hcurrent h
    rintro record ⟨⟩
    exact hdata
  | descriptor type htype hadd => exact adds_of_descriptor htype h
  | fault htype hadd =>
    rw [addItems, hadd] at h
    cases h

/-- A sound assembly: an assembled database whose items have some property, and a current set once
there are sets. -/
structure IsSound (P : Item → Prop) (assembly : Assembly) : Prop where
  assembled : assembly.database.IsAssembled
  items : ∀ part ∈ assembly.database.parts, ∀ item ∈ part, P item
  current : assembly.database.sets ≠ [] → assembly.current < assembly.database.sets.length

namespace IsSound

variable {P : Item → Prop}

/-- The assembly that a text is read into is sound at the start. -/
theorem empty (P : Item → Prop) : IsSound P {} where
  assembled := Database.isAssembled_of_sets_nil []
  items := List.forall_mem_nil _
  current hne := absurd rfl hne

/-- A comment before any set keeps an assembly sound. -/
theorem prologue (hsound : assembly.IsSound P) {text : String} (htext : P (.comment text)) :
    IsSound P ⟨⟨assembly.database.prologue ++ [text], []⟩, assembly.current⟩ where
  assembled := Database.isAssembled_of_sets_nil _
  items := by
    refine Database.forall_mem_parts_iff.2 ⟨?_, List.forall_mem_nil _⟩
    exact List.forall_mem_append.2 ⟨(Database.forall_mem_parts_iff.1 hsound.items).1,
      List.forall_mem_singleton.2 (List.forall_mem_singleton.2 htext)⟩
  current hne := absurd rfl hne

/-- A record with which the untyped set starts keeps an assembly sound. -/
theorem untyped (hsound : assembly.IsSound P) {record : Record} (hpart : IsPart record.items)
    (hitems : ∀ item ∈ record.items, P item) (hdata : record.isData = true) :
    IsSound P ⟨⟨[], [(RecordSet.ofComments assembly.database.prologue).push
      (.record record.unplaced)]⟩, 0⟩ where
  assembled := by
    refine Database.isAssembled_of_records ((RecordSet.isAssembled_ofComments _).push ?_) rfl ?_
    · rintro _ ⟨⟩
      exact ⟨hpart.apart, hdata⟩
    · rw [RecordSet.records_push]
      exact List.append_ne_nil_of_right_ne_nil _ (List.cons_ne_nil _ _)
  items := by
    refine Database.forall_mem_parts_iff.2 ⟨List.forall_mem_nil _, ?_⟩
    rw [List.forall_mem_singleton, RecordSet.parts_push, RecordSet.parts_ofComments,
      List.forall_mem_append, List.forall_mem_map, List.forall_mem_singleton]
    exact ⟨(Database.forall_mem_parts_iff.1 hsound.items).1, hitems⟩
  current _ := Nat.zero_lt_one

/-- An entry of the current set keeps an assembly sound. -/
theorem entry (hsound : assembly.IsSound P) {set : RecordSet} {entry : Entry}
    (hset : assembly.database.set? assembly.current = some set) (hpart : IsPart entry.items)
    (hitems : ∀ item ∈ entry.items, P item)
    (hdata : ∀ record ∈ entry.record?, record.isData = true) :
    IsSound P ⟨assembly.database.replaceSet assembly.current (set.push entry.unplaced),
      assembly.current⟩ where
  assembled := by
    refine hsound.assembled.replaceSet hset ?_ rfl fun _ hne => ?_
    · refine (hsound.assembled.sets set (List.mem_of_getElem? hset)).push ?_
      cases entry with
      | comment text => exact nofun
      | record record =>
        rintro _ ⟨⟩
        exact ⟨hpart.apart, hdata record rfl⟩
    · rw [RecordSet.records_push]
      exact List.append_ne_nil_of_left_ne_nil hne _
  items part hmem := by
    have hitem : entry.unplaced.items = entry.items := by cases entry <;> rfl
    rcases Database.mem_parts_replaceSet hmem with hold | hnew
    · exact hsound.items part hold
    · rw [RecordSet.parts_push, List.mem_append, List.mem_singleton, hitem] at hnew
      rcases hnew with hold | rfl
      · exact hsound.items part (Database.mem_parts_of_mem_sets (List.mem_of_getElem? hset) hold)
      · exact hitems
  current _ := by
    rw [Database.replaceSet, List.length_set]
    exact (List.getElem?_eq_some_iff.1 hset).1

/-- A descriptor of a new type keeps an assembly sound. -/
theorem newSet (hsound : assembly.IsSound P) {descriptor : Record} {type : String}
    (hitems : ∀ item ∈ descriptor.items, P item) (htype : descriptor.declaredType? = some type)
    (hfresh : assembly.database.typePosition? type = none) :
    IsSound P ⟨{ assembly.database with
      sets := assembly.database.sets ++ [{ descriptor := some descriptor.unplaced }] },
      assembly.database.size⟩ where
  assembled := by
    refine hsound.assembled.append ⟨?_, List.forall_mem_nil _⟩ rfl fun other hother hmem => ?_
    · rintro _ ⟨⟩
      exact Option.isSome_of_eq_some htype
    · obtain rfl : type = other := Option.some.inj (htype.symm.trans hother)
      obtain ⟨set, hset, hdeclared⟩ := List.mem_filterMap.1 hmem
      -- No set has the type as its name, so none declares it.
      have hname := List.findIdx?_eq_none_iff.1 hfresh set hset
      rw [RecordSet.typeName_eq_declaredType? (hsound.assembled.sets set hset).descriptor,
        hdeclared, beq_self_eq_true] at hname
      exact absurd hname nofun
  items part hmem := by
    rw [Database.parts_append, List.mem_append] at hmem
    rcases hmem with hold | hnew
    · exact hsound.items part hold
    · obtain rfl : part = descriptor.items := List.mem_singleton.1 hnew
      exact hitems
  current _ := by
    -- The new set is the current one.
    rw [List.length_append]
    exact Nat.lt_succ_self _

/-- A descriptor that is merged into another one keeps an assembly sound. -/
theorem merged (hsound : assembly.IsSound P) {existing : Record} {position : Nat} {set : RecordSet}
    {kept : List Item} (hset : assembly.database.set? position = some set)
    (hexisting : set.descriptor = some existing) (hitems : ∀ item ∈ kept, P item) :
    IsSound P ⟨assembly.database.replaceSet position
      { set with descriptor := some { existing with items := existing.items ++ kept } },
      position⟩ where
  assembled := by
    have hassembled := hsound.assembled.sets set (List.mem_of_getElem? hset)
    have hsome := hassembled.descriptor existing hexisting
    have hdeclared := Record.declaredType?_append hsome kept
    refine hsound.assembled.replaceSet hset ⟨?_, hassembled.records⟩ ?_ nofun
    · rintro _ ⟨⟩
      rwa [hdeclared]
    · rw [RecordSet.declaredType?, RecordSet.declaredType?, hexisting]
      exact hdeclared
  items part hmem := by
    rcases Database.mem_parts_replaceSet hmem with hold | hnew
    · exact hsound.items part hold
    · obtain ⟨hdescriptor, hothers⟩ := RecordSet.forall_mem_parts_iff.1 fun part hpart =>
        hsound.items part (Database.mem_parts_of_mem_sets (List.mem_of_getElem? hset) hpart)
      suffices hparts : ∀ part ∈ RecordSet.parts { set with
          descriptor := some { existing with items := existing.items ++ kept } },
          ∀ item ∈ part, P item from hparts part hnew
      refine RecordSet.forall_mem_parts_iff.2 ⟨?_, hothers⟩
      rintro _ ⟨⟩
      exact List.forall_mem_append.2 ⟨hdescriptor existing hexisting, hitems⟩
  current _ := by
    rw [Database.replaceSet, List.length_set]
    exact (List.getElem?_eq_some_iff.1 hset).1

end IsSound

/-- Items with the property keep an assembly sound. -/
theorem Adds.isSound {P : Item → Prop} {items : List Item} (h : assembly.Adds items next)
    (hpart : IsPart items) (hitems : ∀ item ∈ items, P item) (hsound : assembly.IsSound P) :
    next.IsSound P := by
  cases h with
  | prologue h => exact hsound.prologue (hitems _ List.mem_cons_self)
  | untyped h hdata => exact hsound.untyped hpart hitems hdata
  | entry hset hdata => exact hsound.entry hset hpart hitems hdata
  | newSet htype hfresh => exact hsound.newSet hitems htype hfresh
  | merged htype hset hname hexisting hkept =>
    exact hsound.merged hset hexisting fun item hitem => hitems item (hkept.subset hitem)

/-- Parts whose items have the property keep an assembly sound. -/
theorem isSound_of_foldlM {P : Item → Prop} {parts : List (List Item)} {last : Assembly}
    (hparts : ∀ part ∈ parts, IsPart part ∧ ∀ item ∈ part, P item)
    (h : parts.foldlM addItems assembly = .ok last) (hsound : assembly.IsSound P) :
    last.IsSound P := by
  refine foldlM_preserves (fun part hpart start next hadd hstart => ?_) h hsound
  obtain ⟨hpart, hitems⟩ := hparts part hpart
  exact (adds_of_addItems hpart hstart.current hadd).isSound hpart hitems hstart

/-- An entry declares no type. -/
theorem declaredType?_items (entry : Entry) (h : ∀ record ∈ entry.record?, record.isData = true) :
    Record.declaredType? ⟨entry.items, none⟩ = none := by
  cases entry with
  | comment text => rfl
  | record record => exact Record.declaredType?_of_isData (h record rfl)

/-- Whether the current set is the last one. -/
def IsAtEnd (assembly : Assembly) : Prop :=
  assembly.database.sets ≠ [] → assembly.current + 1 = assembly.database.sets.length

/-- Items that declare no type that a set has already are added behind all other parts. -/
theorem Adds.parts_eq {items : List Item} (h : assembly.Adds items next)
    (hend : assembly.IsAtEnd)
    (hfresh : ∀ type ∈ Record.declaredType? ⟨items, none⟩,
      type ∉ assembly.database.sets.filterMap RecordSet.typeName) :
    next.IsAtEnd ∧ next.database.parts = assembly.database.parts ++ [items] ∧
      next.database.sets.filterMap RecordSet.typeName =
        assembly.database.sets.filterMap RecordSet.typeName ++
          (Record.declaredType? ⟨items, none⟩).toList := by
  obtain ⟨⟨prologue, sets⟩, current⟩ := assembly
  cases h with
  | @prologue text h =>
    obtain rfl : sets = [] := h
    refine ⟨fun hne => absurd rfl hne, ?_, rfl⟩
    simp [Database.parts]
  | @untyped record h hdata =>
    obtain rfl : sets = [] := h
    have hnone : Record.declaredType? ⟨record.items, none⟩ = none :=
      Record.declaredType?_of_isData hdata
    rw [hnone]
    refine ⟨fun _ => rfl, ?_, rfl⟩
    simp [Database.parts, RecordSet.parts_push, RecordSet.parts_ofComments, Entry.items,
      Record.unplaced]
  | @entry entry set hset hdata =>
    -- The current set is the last one, so the entry stands behind all that was added before.
    obtain ⟨before, last, rfl⟩ := (List.eq_nil_or_concat' sets).resolve_left
      (List.ne_nil_of_mem (List.mem_of_getElem? hset))
    obtain rfl : current = before.length := by
      have hcurrent := hend (by simp)
      simpa using hcurrent
    obtain rfl : last = set := by simpa [Database.set?] using hset
    have hreplace : (before ++ [last]).set before.length (last.push entry.unplaced) =
        before ++ [last.push entry.unplaced] := by simp
    have hitems : entry.unplaced.items = entry.items := by cases entry <;> rfl
    simp only [Database.replaceSet, hreplace, declaredType?_items entry hdata]
    refine ⟨fun _ => by simp, ?_, ?_⟩
    · rw [Database.parts_append, Database.parts_append, RecordSet.parts_push, hitems,
        List.append_assoc]
    · rw [Option.toList_none, List.append_nil, List.filterMap_append, List.filterMap_append]
      rfl
  | @newSet descriptor type htype hnew =>
    have hname := RecordSet.typeName_of_declaredType? htype
    have hdeclared : Record.declaredType? ⟨descriptor.items, none⟩ = some type := htype
    refine ⟨fun _ => by simp [Database.size], Database.parts_append _ _ _, ?_⟩
    rw [List.filterMap_append, List.filterMap_cons_some hname, hdeclared]
    rfl
  | @merged descriptor existing type position set kept htype hset hname hexisting hkept =>
    -- A merge needs a set of the type, and there is none.
    have hmem : type ∈ sets.filterMap RecordSet.typeName :=
      List.mem_filterMap.2 ⟨set, List.mem_of_getElem? hset, hname⟩
    exact absurd hmem (hfresh type htype)

/-- Parts that declare every type once, and none that a set has already, are added behind all other
parts. -/
theorem parts_of_foldlM {parts : List (List Item)} {last : Assembly}
    (hparts : ∀ part ∈ parts, IsPart part) (hend : assembly.IsAtEnd)
    (htypes : (assembly.database.sets.filterMap RecordSet.typeName ++
      parts.filterMap fun items => Record.declaredType? ⟨items, none⟩).Nodup)
    (h : parts.foldlM addItems assembly = .ok last) :
    last.database.parts = assembly.database.parts ++ parts := by
  -- The types of the sets already added and those still declared stay distinct together.
  induction parts generalizing assembly with
  | nil => rw [List.append_nil, ← Except.ok.inj h]
  | cons items rest ih =>
    rw [List.forall_mem_cons] at hparts
    obtain ⟨next, hadd, hrest⟩ := foldlM_cons_eq_ok_iff.1 h
    have hadds := adds_of_addItems hparts.1 (fun hne => Nat.lt_of_succ_le (hend hne).le) hadd
    have hcons : ((items :: rest).filterMap fun items => Record.declaredType? ⟨items, none⟩) =
        (Record.declaredType? ⟨items, none⟩).toList ++
          rest.filterMap fun items => Record.declaredType? ⟨items, none⟩ := by
      cases htype : Record.declaredType? ⟨items, none⟩ <;> simp [htype]
    rw [hcons, ← List.append_assoc] at htypes
    have hfresh : ∀ type ∈ Record.declaredType? ⟨items, none⟩,
        type ∉ assembly.database.sets.filterMap RecordSet.typeName := by
      intro type htype hmem
      have hnodup := (List.nodup_append.1 htypes).1
      exact (List.nodup_append.1 hnodup).2.2 type hmem type (Option.mem_toList.2 htype) rfl
    obtain ⟨hnextEnd, hnextParts, hnextTypes⟩ := hadds.parts_eq hend hfresh
    rw [← hnextTypes] at htypes
    rw [ih hparts.2 hnextEnd htypes hrest, hnextParts, List.append_assoc, List.singleton_append]

end Assembly

end Document

namespace Database

open Document

variable {config : Config} {text : List Char} {db : Database}

/-- A text that is read is assembled soundly from its parts. -/
theorem isSound_of_ofText (h : ofText config text = .ok db) {P : Item → Prop}
    (hitems : ∀ part ∈ Document.parts config.joinsLines text, ∀ item ∈ part, P item) :
    ∃ current, Assembly.IsSound P ⟨db.unplaced, current⟩ := by
  obtain ⟨current, hfold⟩ := foldlM_parts_of_ofText h
  exact ⟨current, Assembly.isSound_of_foldlM
    (fun part hpart => ⟨isPart_of_mem_parts hpart, hitems part hpart⟩) hfold (.empty P)⟩

/-- A database that is read from a text is assembled, also without the places of its records. -/
theorem isAssembled_unplaced_of_ofText (h : ofText config text = .ok db) :
    db.unplaced.IsAssembled := by
  obtain ⟨current, hsound⟩ := isSound_of_ofText h (P := fun _ => True) fun _ _ _ _ => trivial
  exact hsound.assembled

/-- What holds of all items of a text holds of the items of the database that is read from it. -/
theorem forall_items_of_ofText (h : ofText config text = .ok db) {P : Item → Prop}
    (hitems : ∀ part ∈ Document.parts config.joinsLines text, ∀ item ∈ part, P item) :
    ∀ part ∈ db.parts, ∀ item ∈ part, P item := by
  obtain ⟨current, hsound⟩ := isSound_of_ofText h hitems
  rw [← parts_unplaced]
  exact hsound.items

/-- A database that is read from a text in which no type is declared twice has the parts of the
text. -/
theorem parts_of_ofText (h : ofText config text = .ok db)
    (hdeclared : (declaredTypes config.joinsLines text).Nodup) :
    db.parts = Document.parts config.joinsLines text := by
  obtain ⟨current, hfold⟩ := foldlM_parts_of_ofText h
  have hstart : Assembly.IsAtEnd {} := fun hne => absurd rfl hne
  rw [← parts_unplaced]
  exact Assembly.parts_of_foldlM (fun part => isPart_of_mem_parts) hstart hdeclared hfold

end Database

end TextRecords
