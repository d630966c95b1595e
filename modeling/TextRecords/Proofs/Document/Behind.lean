import TextRecords.Proofs.Database.Types

/-!
# Assembling behind the sets of a database

A block goes to the current set or starts a new one. So an assembly takes blocks in the same way
when the sets of a database are put in front of its own (`Assembly.behind`), once there is a set of
its own, as long as the blocks declare none of the types in front (`Assembly.foldlM_behind`).

The types that blocks declare are those of the sets that they make: `Assembly.hasType_of_foldlM`.
-/

namespace TextRecords

/-- A change of an element in the second of two lists. -/
theorem modify_length_add {α : Type} (before list : List α) (position : Nat) (change : α → α) :
    (before ++ list).modify (before.length + position) change =
      before ++ list.modify position change := by
  induction before with
  | nil => rw [List.length_nil, Nat.zero_add, List.nil_append, List.nil_append]
  | cons a rest ih =>
    rw [List.cons_append, List.length_cons, Nat.add_right_comm, List.modify_succ_cons, ih,
      List.cons_append]

/-- The first declaration of a descriptor says its type, so more items behind the descriptor leave
it. -/
theorem RecordSet.typeName_append {set : RecordSet} {descriptor : Record} {type : String}
    (hdescriptor : set.descriptor = some descriptor) (hname : set.typeName = some type)
    (more : List Item) :
    typeName { set with descriptor := some { descriptor with items := descriptor.items ++ more } } =
      some type := by
  rw [typeName, schema, hdescriptor, Schema.typeName_ofDescriptor, Record.fields] at hname
  rw [typeName, schema, Schema.typeName_ofDescriptor, Record.fields, List.filterMap_append,
    List.findSome?_append, hname, Option.some_or]

namespace Database

/-- A database with the sets of another one behind its own. -/
def followedBy (first second : Database) : Database :=
  { first with sets := first.sets ++ second.sets }

variable {first second : Database} {type : String}

/-- The position of a type that the first of two databases does not have. -/
theorem typePosition?_followedBy (hfresh : first.hasType type = false) :
    (first.followedBy second).typePosition? type =
      (second.typePosition? type).map (first.size + ·) := by
  have hnone : first.sets.findIdx? (·.typeName == some type) = none :=
    List.findIdx?_eq_none_iff.2 fun set hset =>
      Bool.eq_false_iff.2 (List.any_eq_false.1 hfresh set hset)
  simp only [typePosition?, followedBy, List.findIdx?_append, hnone, Option.none_or, size,
    Nat.add_comm]

/-- The set of a type that the first of two databases does not have. -/
theorem setOfType?_followedBy (hfresh : first.hasType type = false) :
    (first.followedBy second).setOfType? type = second.setOfType? type := by
  have hnone : first.sets.find? (·.typeName == some type) = none :=
    List.find?_eq_none.2 (List.any_eq_false.1 hfresh)
  simp only [setOfType?, followedBy, List.find?_append, hnone, Option.none_or]

/-- The places of records have no part in the types. -/
theorem hasType_unplaced (db : Database) (type : String) :
    db.unplaced.hasType type = db.hasType type := by
  simp only [hasType, unplaced, List.any_map, Function.comp_def, RecordSet.typeName_unplaced]

/-- Sets one after another have no places when each of them has none. -/
theorem unplaced_followedBy (first second : Database) :
    (first.followedBy second).unplaced = first.unplaced.followedBy second.unplaced := by
  simp only [unplaced, followedBy, List.map_append]

/-- Another set of the same type in place of one leaves the types. -/
theorem hasType_replaceSet {position : Nat} {set next : RecordSet}
    (hset : first.set? position = some set) (hname : next.typeName = set.typeName) :
    (first.replaceSet position next).hasType type = first.hasType type := by
  have hany : ∀ sets : List RecordSet, sets.any (·.typeName == some type) =
      (sets.map RecordSet.typeName).any (· == some type) := fun sets => by
    rw [List.any_map, Function.comp_def]
  rw [hasType, hasType, hany, hany, replaceSet, map_set_of_eq RecordSet.typeName hset hname]

/-- Another set behind those of a database. -/
theorem replaceSet_followedBy (position : Nat) (set : RecordSet) :
    (first.followedBy second).replaceSet (first.size + position) set =
      first.followedBy (second.replaceSet position set) := by
  simp [followedBy, replaceSet, size]

end Database

namespace Document

namespace Assembly

/-- An assembly behind the sets of a database. -/
def behind (before : Database) (assembly : Assembly) : Assembly :=
  ⟨before.followedBy assembly.database, before.size + assembly.current⟩

variable {before : Database} {assembly : Assembly}

/-- An assembly with sets has some behind others, too. -/
theorem isEmpty_sets_behind (before : Database) (hsets : assembly.database.sets ≠ []) :
    (assembly.behind before).database.sets.isEmpty = false ∧
      assembly.database.sets.isEmpty = false := by
  rw [List.isEmpty_eq_false_iff, List.isEmpty_eq_false_iff]
  exact ⟨List.append_ne_nil_of_right_ne_nil _ hsets, hsets⟩

/-- Changing the current set commutes with putting sets in front. -/
theorem modify_behind (change : RecordSet → RecordSet) :
    (assembly.behind before).database.sets.modify (assembly.behind before).current change =
      before.sets ++ assembly.database.sets.modify assembly.current change :=
  modify_length_add _ _ _ _

/-- Adding a comment to a set commutes with putting sets in front. -/
theorem addComment_behind (hsets : assembly.database.sets ≠ []) (text : String) :
    (assembly.behind before).addComment text = (assembly.addComment text).behind before := by
  obtain ⟨hbehind, hempty⟩ := isEmpty_sets_behind before hsets
  simp only [addComment, hbehind, hempty, Bool.false_eq_true, if_false, modify_behind]
  rfl

/-- Adding a record to a set commutes with putting sets in front. -/
theorem addRecord_behind (hsets : assembly.database.sets ≠ []) (record : Record) :
    (assembly.behind before).addRecord record = (assembly.addRecord record).behind before := by
  obtain ⟨hbehind, hempty⟩ := isEmpty_sets_behind before hsets
  simp only [addRecord, hbehind, hempty, Bool.false_eq_true, if_false, modify_behind]
  rfl

/-- Adding a descriptor commutes with putting sets of other types in front. -/
theorem addDescriptor_behind {type : String} (hfresh : before.hasType type = false)
    (descriptor : Record) :
    (assembly.behind before).addDescriptor type descriptor =
      (assembly.addDescriptor type descriptor).map (behind before) := by
  have hposition : (assembly.behind before).database.typePosition? type =
      (assembly.database.typePosition? type).map (before.size + ·) :=
    Database.typePosition?_followedBy hfresh
  have hset : (assembly.behind before).database.setOfType? type =
      assembly.database.setOfType? type := Database.setOfType?_followedBy hfresh
  -- A descriptor of a type that has no set starts one behind all sets; one of a type that has is
  -- merged into it, wherever it stands.
  simp only [addDescriptor, hposition, hset]
  cases assembly.database.typePosition? type with
  | none => simp [Except.map, behind, Database.followedBy, Database.size]
  | some position =>
    cases assembly.database.setOfType? type with
    | none => simp [Except.map, behind, Database.followedBy, Database.size]
    | some set =>
      simp only [Option.map_some]
      cases mergeDescriptor type (set.descriptor.getD ⟨[], none⟩) descriptor.items with
      | error fault => rfl
      | ok merged => simp only [Except.map, behind, Database.replaceSet_followedBy]

/-- Adding a block commutes with putting sets of other types in front, if there is a set that the
block can go to or the block starts one. -/
theorem add_behind {block : Record}
    (hstart : assembly.database.sets ≠ [] ∨ block.declaredType?.isSome)
    (hfresh : ∀ type ∈ block.declaredType?, before.hasType type = false) :
    (assembly.behind before).add block = (assembly.add block).map (behind before) := by
  cases addsAs block with
  | comment text hfields h =>
    -- Without a set of its own, the assembly would take the comment for its prologue.
    have hnone : block.declaredType? = none := by rw [Record.declaredType?, hfields]; rfl
    rw [h, h, addComment_behind (hstart.resolve_right (by simp [hnone]))]
    rfl
  | record hdata h =>
    -- Without a set of its own, the assembly would start an untyped one for the record.
    have hnone := Record.declaredType?_of_isData hdata
    rw [h, h, addRecord_behind (hstart.resolve_right (by simp [hnone]))]
    rfl
  | descriptor type htype h => rw [h, h, addDescriptor_behind (hfresh type htype)]
  | fault htype h =>
    rw [h, h]
    rfl

/-- There is a set once a block has been added, if there was one or the block starts one. -/
theorem sets_ne_nil_of_add {block : Record} {next : Assembly}
    (hstart : assembly.database.sets ≠ [] ∨ block.declaredType?.isSome)
    (h : assembly.add block = .ok next) : next.database.sets ≠ [] := by
  cases addsAs block with
  | comment text hfields hadd =>
    have hnone : block.declaredType? = none := by rw [Record.declaredType?, hfields]; rfl
    have hsets := hstart.resolve_right (by simp [hnone])
    rw [hadd] at h
    rw [← Except.ok.inj h]
    simp [addComment, hsets]
  | record hdata hadd =>
    rw [hadd] at h
    rw [← Except.ok.inj h, addRecord]
    split
    · exact List.cons_ne_nil _ _
    · next hempty => simpa using hempty
  | descriptor type htype hadd =>
    rw [hadd, addDescriptor] at h
    split at h
    · next position set hposition hset =>
      split at h
      · rw [← Except.ok.inj h]
        have hne : assembly.database.sets ≠ [] := by
          intro hnil
          rw [Database.typePosition?, hnil] at hposition
          cases hposition
        simpa [Database.replaceSet] using hne
      · cases h
    · rw [← Except.ok.inj h]
      exact List.append_ne_nil_of_right_ne_nil _ (List.cons_ne_nil _ _)
  | fault htype hadd =>
    rw [hadd] at h
    cases h

/-- Adding parts commutes with putting sets of other types in front, if there is a set that the
first part can go to or the first part starts one. -/
theorem foldlM_behind {parts : List (List Item)} {last : Assembly}
    (hstart : assembly.database.sets ≠ [] ∨
      ∀ items ∈ parts.head?, (Record.declaredType? ⟨items, none⟩).isSome)
    (hfresh : ∀ items ∈ parts, ∀ type ∈ Record.declaredType? ⟨items, none⟩,
      before.hasType type = false)
    (h : parts.foldlM addItems assembly = .ok last) :
    parts.foldlM addItems (assembly.behind before) = .ok (last.behind before) := by
  -- Once the first part has been added there is a set, and there is one for all others.
  induction parts generalizing assembly with
  | nil =>
    rw [← Except.ok.inj h]
    rfl
  | cons items rest ih =>
    rw [List.forall_mem_cons] at hfresh
    obtain ⟨next, hadd, hrest⟩ := foldlM_cons_eq_ok_iff.1 h
    have hfirst := hstart.imp_right fun hdeclared => hdeclared items rfl
    have hbehind := add_behind hfirst hfresh.1
    rw [addItems] at hadd
    rw [hadd] at hbehind
    rw [List.foldlM_cons, addItems, hbehind]
    exact ih (.inl (sets_ne_nil_of_add hfirst hadd)) hfresh.2 hrest

/-- The types of an assembly stay when items are added, and the type that the items declare is one
of them then. -/
theorem Adds.hasType {items : List Item} {next : Assembly} (h : assembly.Adds items next)
    {type : String} (htype : assembly.database.hasType type = true ∨
      Record.declaredType? ⟨items, none⟩ = some type) : next.database.hasType type = true := by
  cases h with
  | prologue hsets =>
    rcases htype with hold | hdeclared
    · rw [Database.hasType, hsets] at hold
      cases hold
    · cases hdeclared
  | @untyped record hsets hdata =>
    have hnone : Record.declaredType? ⟨record.items, none⟩ = none :=
      Record.declaredType?_of_isData hdata
    rcases htype with hold | hdeclared
    · rw [Database.hasType, hsets] at hold
      cases hold
    · cases hnone.symm.trans hdeclared
  | @entry entry set hset hdata =>
    rw [declaredType?_items entry hdata] at htype
    have hold := htype.resolve_right (Option.some_ne_none type).symm
    have hname : (set.push entry.unplaced).typeName = set.typeName := rfl
    exact (Database.hasType_replaceSet hset hname).trans hold
  | @newSet descriptor other hother hfresh =>
    rw [Database.hasType, List.any_append, Bool.or_eq_true]
    refine htype.imp_right fun hdeclared => ?_
    have hname : RecordSet.typeName { descriptor := some descriptor.unplaced } = some type :=
      RecordSet.typeName_of_declaredType? hdeclared
    rw [List.any_cons, hname, beq_self_eq_true, Bool.true_or]
  | @merged descriptor existing other position set kept hother hset hname hexisting hkept =>
    have hold : assembly.database.hasType type = true := by
      refine htype.elim id fun hdeclared => Database.hasType_iff.2 ⟨set, ?_, ?_⟩
      · exact List.mem_of_getElem? hset
      · rw [hname]
        exact hother.symm.trans hdeclared
    have hmerged := RecordSet.typeName_append hexisting hname kept
    exact (Database.hasType_replaceSet hset (hmerged.trans hname.symm)).trans hold

/-- Every type that parts declare is one of the assembly that they are added to. -/
theorem hasType_of_foldlM {P : Item → Prop} {parts : List (List Item)} {last : Assembly}
    (hparts : ∀ items ∈ parts, IsPart items ∧ ∀ item ∈ items, P item)
    (hsound : assembly.IsSound P) (h : parts.foldlM addItems assembly = .ok last)
    {type : String} (htype : assembly.database.hasType type = true ∨
      ∃ items ∈ parts, Record.declaredType? ⟨items, none⟩ = some type) :
    last.database.hasType type = true := by
  induction parts generalizing assembly with
  | nil =>
    rw [← Except.ok.inj h]
    rcases htype with hold | ⟨other, hother, -⟩
    · exact hold
    · cases hother
  | cons items rest ih =>
    rw [List.forall_mem_cons] at hparts
    obtain ⟨next, hadd, hrest⟩ := foldlM_cons_eq_ok_iff.1 h
    have hadds := adds_of_addItems hparts.1.1 hsound.current hadd
    have hnext := hadds.isSound hparts.1.1 hparts.1.2 hsound
    refine ih hparts.2 hnext hrest ?_
    rcases htype with hold | ⟨other, hother, hdeclared⟩
    · exact .inl (hadds.hasType (.inl hold))
    · rcases List.mem_cons.1 hother with rfl | hother
      · exact .inl (hadds.hasType (.inr hdeclared))
      · exact .inr ⟨other, hother, hdeclared⟩

/-- What a descriptor adds does not depend on the current set. -/
theorem addDescriptor_congr {other : Assembly} (h : other.database = assembly.database)
    (type : String) (descriptor : Record) :
    other.addDescriptor type descriptor = assembly.addDescriptor type descriptor := by
  rw [addDescriptor, addDescriptor, h]

/-- Parts that start with a descriptor, and declare only types that a database does not have, are
added behind its sets. -/
theorem exists_foldlM_behind {parts : List (List Item)} {last : Assembly}
    (hstart : ∀ items ∈ parts.head?, (Record.declaredType? ⟨items, none⟩).isSome)
    (hfresh : ∀ items ∈ parts, ∀ type ∈ Record.declaredType? ⟨items, none⟩,
      before.hasType type = false)
    (h : parts.foldlM addItems {} = .ok last) (current : Nat) :
    ∃ next, parts.foldlM addItems ⟨before, current⟩ = .ok next ∧
      next.database = before.followedBy last.database := by
  have hempty : before = before.followedBy {} := by simp [Database.followedBy]
  cases parts with
  | nil =>
    rw [← Except.ok.inj h]
    exact ⟨⟨before, current⟩, rfl, hempty⟩
  | cons items rest =>
    have hbehind := foldlM_behind (.inr hstart) hfresh h
    refine ⟨last.behind before, ?_, rfl⟩
    rw [List.foldlM_cons] at hbehind ⊢
    rw [← hbehind]
    obtain ⟨type, htype⟩ := Option.isSome_iff_exists.1 (hstart items rfl)
    -- The first part is a descriptor, so it has no regard to the current set.
    have hadd : addItems ⟨before, current⟩ items = addItems (behind before {}) items := by
      rw [addItems_descriptor _ htype, addItems_descriptor _ htype]
      exact addDescriptor_congr hempty type _
    rw [hadd]

end Assembly

end Document

end TextRecords
