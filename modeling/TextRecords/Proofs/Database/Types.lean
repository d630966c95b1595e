import TextRecords.Proofs.Database.Unchanged

/-!
# Sets told apart by their types

In every database that reading and operations make, no two sets have one type, and only the first
set may have none (`Database.Reachable.isTyped`). So a type names one set: it is found wherever it
stands, and no other one is found for its type. Without a type, the first set is meant
(`Database.Reachable.sets_told_apart`).

The condition is about the types of the sets in their order (`Database.IsTyped`). Operations on
records keep the descriptors, and with them the types; a set is removed from a list of types or
inserted into one. Reading is the one place where types come from the text itself, and there a
repeated descriptor goes on with the set of its type.
-/

namespace TextRecords.Database

/-- A database whose sets have distinct types, of which only the first may have none. -/
structure IsTyped (db : Database) : Prop where
  types : (db.sets.filterMap RecordSet.typeName).Nodup
  untypedFirst : ∀ set ∈ db.sets.tail, set.typeName.isSome

/-- A database that an empty or a read one becomes by operations one after another, whether they
succeed or fail. -/
inductive Reachable : Database → Prop
  | empty : Reachable {}
  | read {config : Config} {text : List Char} {db : Database} (h : ofText config text = .ok db) :
      Reachable db
  | readSource {config : Config} {source : Except String (List UInt8)} {db : Database}
      (h : ofSource config source = .ok db) : Reachable db
  | insertSet {db : Database} (h : Reachable db) (set : RecordSet) (position : Nat) :
      Reachable (db.insertSet set position).database
  | removeSet {db : Database} (h : Reachable db) (position : Nat) :
      Reachable (db.removeSet position).database
  | edit {db : Database} (h : Reachable db) (edit : Edit) : Reachable (db.edit edit).database

variable {db : Database}

/-- There is a set of a type when a set has it. -/
theorem hasType_iff {name : String} :
    db.hasType name = true ↔ ∃ set ∈ db.sets, set.typeName = some name := by
  simp only [hasType, List.any_eq_true, beq_iff_eq]

/-- There is no set of a type when it is none of the types of the sets. -/
theorem hasType_eq_false_iff {name : String} :
    db.hasType name = false ↔ name ∉ db.sets.filterMap RecordSet.typeName := by
  rw [← Bool.not_eq_true, hasType_iff, List.mem_filterMap]

/-- A set with a type may be inserted where it does not displace an untyped set, if no other set has
the type. -/
theorem insertionFault?_typed_iff {set : RecordSet} {name : String} {position : Nat}
    (hname : set.typeName = some name) :
    db.insertionFault? set position = none ↔
      db.hasType name = false ∧
        (position = 0 → ∀ first ∈ db.sets.head?, first.typeName.isSome) := by
  unfold insertionFault?
  rw [hname]
  dsimp only
  cases db.hasType name with
  | true => simp
  | false => cases hhead : db.sets.head? <;> simp [Option.isSome_iff_ne_none]

/-- A set without a type may be inserted at the first position, if all others have types. -/
theorem insertionFault?_untyped_iff {set : RecordSet} {position : Nat}
    (hname : set.typeName = none) :
    db.insertionFault? set position = none ↔
      position = 0 ∧ ∀ other ∈ db.sets, other.typeName.isSome := by
  unfold insertionFault?
  rw [hname]
  simp [Option.isSome_iff_ne_none]

/-- The bytes of a source that is read are those of a text that is read. -/
theorem exists_ofText_of_ofSource {config : Config} {source : Except String (List UInt8)}
    (h : ofSource config source = .ok db) : ∃ text, ofText config text = .ok db := by
  cases source with
  | error reason => cases h
  | ok bytes =>
    rw [ofSource, ofBytes] at h
    split at h
    · next text _ => exact ⟨text, h⟩
    · cases h

/-- Databases whose sets have the same types in the same order are typed alike. -/
theorem IsTyped.congr {other : Database} (h : db.IsTyped)
    (htypes : other.sets.map RecordSet.typeName = db.sets.map RecordSet.typeName) :
    other.IsTyped where
  types := by
    have hid : ∀ sets : List RecordSet, sets.filterMap RecordSet.typeName =
        (sets.map RecordSet.typeName).filterMap id := fun sets => by
      rw [List.filterMap_map, Function.id_comp]
    rw [hid, htypes, ← hid]
    exact h.types
  untypedFirst := by
    have hmap : ∀ sets : List RecordSet, (∀ set ∈ sets.tail, set.typeName.isSome) ↔
        ∀ type ∈ (sets.map RecordSet.typeName).tail, type.isSome := fun sets => by
      rw [← List.map_tail, List.forall_mem_map]
    rw [hmap, htypes, ← hmap]
    exact h.untypedFirst

/-- A database without sets is typed. -/
theorem isTyped_of_sets_nil (h : db.sets = []) : db.IsTyped where
  types := h ▸ List.nodup_nil
  untypedFirst := h ▸ List.forall_mem_nil _

/-- A database that is read from a text is typed. -/
theorem isTyped_of_ofText {config : Config} {text : List Char} (h : ofText config text = .ok db) :
    db.IsTyped := by
  have hassembled := isAssembled_of_unplaced (isAssembled_unplaced_of_ofText h)
  have htype : ∀ set ∈ db.sets, set.typeName = set.declaredType? := fun set hset =>
    RecordSet.typeName_eq_declaredType? (hassembled.sets set hset).descriptor
  refine ⟨?_, fun set hset => ?_⟩
  · rw [List.filterMap_congr htype]
    exact hassembled.types
  · have hmem := List.mem_of_mem_tail hset
    rw [htype set hmem, (hassembled.sets set hmem).isSome_declaredType?]
    exact hassembled.untypedFirst set hset

namespace IsTyped

/-- Another set with the same descriptor in place of one leaves a database typed. -/
theorem replaceSet (h : db.IsTyped) {position : Nat} {set next : RecordSet}
    (hset : db.set? position = some set) (hdescriptor : next.descriptor = set.descriptor) :
    (db.replaceSet position next).IsTyped := by
  refine h.congr (map_set_of_eq RecordSet.typeName hset ?_)
  rw [RecordSet.typeName, RecordSet.schema_congr hdescriptor, RecordSet.typeName]

/-- A database that has lost one of its sets is typed. -/
theorem eraseIdx (h : db.IsTyped) (prologue : List String) (position : Nat) :
    IsTyped ⟨prologue, db.sets.eraseIdx position⟩ where
  types := h.types.sublist ((List.eraseIdx_sublist db.sets position).filterMap _)
  untypedFirst := by
    obtain ⟨_, sets⟩ := db
    intro set hset
    cases sets with
    | nil => exact absurd hset List.not_mem_nil
    | cons first rest =>
      cases position with
      | zero => exact h.untypedFirst set (List.mem_of_mem_tail hset)
      | succ position => exact h.untypedFirst set (List.mem_of_mem_eraseIdx hset)

/-- Moving the comments of an untyped set to the prologue leaves a database typed. -/
theorem foldUntyped (h : db.IsTyped) : db.foldUntyped.IsTyped := by
  unfold Database.foldUntyped
  split
  · exact h
  · next set rest hsets =>
    split
    · have herase := h.eraseIdx (db.prologue ++ set.comments) 0
      rwa [hsets] at herase
    · exact h

/-- A set with a type that no other set has leaves a database typed where it is inserted, if it does
not displace an untyped set. -/
theorem insertIdx_typed (h : db.IsTyped) {set : RecordSet} {name : String} {position : Nat}
    (hle : position ≤ db.sets.length) (hname : set.typeName = some name)
    (hfresh : db.hasType name = false)
    (hfirst : position = 0 → ∀ first ∈ db.sets.head?, first.typeName.isSome) :
    IsTyped { db with sets := db.sets.insertIdx position set } where
  types := by
    have hperm : (db.sets.insertIdx position set).Perm (set :: db.sets) :=
      List.perm_insertIdx set db.sets hle
    rw [(hperm.filterMap _).nodup_iff, List.filterMap_cons_some hname, List.nodup_cons]
    exact ⟨hasType_eq_false_iff.1 hfresh, h.types⟩
  untypedFirst := by
    obtain ⟨prologue, sets⟩ := db
    intro other hother
    cases sets with
    | nil =>
      obtain rfl : position = 0 := Nat.le_zero.1 hle
      exact absurd hother List.not_mem_nil
    | cons first rest =>
      cases position with
      | zero =>
        -- The set takes the place of the first one, which has a type.
        rw [List.insertIdx_zero, List.tail_cons] at hother
        rcases List.mem_cons.1 hother with rfl | hrest
        · exact hfirst rfl other rfl
        · exact h.untypedFirst other hrest
      | succ position =>
        rw [List.insertIdx_succ_cons, List.tail_cons] at hother
        rcases List.eq_or_mem_of_mem_insertIdx hother with rfl | hrest
        · exact Option.isSome_of_eq_some hname
        · exact h.untypedFirst other hrest

/-- A set without a type leaves a database typed when it is put first, if all others have types. -/
theorem insertIdx_untyped (h : db.IsTyped) {set : RecordSet} (hname : set.typeName = none)
    (htyped : ∀ other ∈ db.sets, other.typeName.isSome) :
    IsTyped { db with sets := db.sets.insertIdx 0 set } where
  types := by
    rw [List.insertIdx_zero, List.filterMap_cons_none hname]
    exact h.types
  untypedFirst := by
    rw [List.insertIdx_zero]
    exact htyped

/-- Inserting a set leaves a database typed, whether the set may be inserted or not. -/
theorem insertSet (h : db.IsTyped) (set : RecordSet) (position : Nat) :
    (db.insertSet set position).database.IsTyped := by
  rw [Database.insertSet]
  split
  · exact h
  · next hfault =>
    have hle : min position db.size ≤ db.sets.length := Nat.min_le_right _ _
    cases hname : set.typeName with
    | none =>
      obtain ⟨hzero, htyped⟩ := (insertionFault?_untyped_iff hname).1 hfault
      rw [hzero]
      exact h.insertIdx_untyped hname htyped
    | some name =>
      obtain ⟨hfresh, hfirst⟩ := (insertionFault?_typed_iff hname).1 hfault
      exact h.insertIdx_typed hle hname hfresh hfirst

/-- Removing a set leaves a database typed, whether there is such a set or not. -/
theorem removeSet (h : db.IsTyped) (position : Nat) : (db.removeSet position).database.IsTyped := by
  unfold Database.removeSet
  split
  · exact h.eraseIdx db.prologue position
  · exact h

/-- Operations that succeed leave a typed database typed. -/
theorem of_makes (h : db.IsTyped) {edit : Edit} {report : Report} {after : Database}
    (hmakes : edit.Makes db report after) : after.IsTyped := by
  cases hmakes with
  | @created sampler generator insertion next hsets htype hinto =>
    have hbecomes := insertion.becomes_intoSet sampler generator {}
    rw [hinto] at hbecomes
    have hname : next.typeName = none := by
      rw [RecordSet.typeName, RecordSet.schema, hbecomes.descriptor_eq]
    refine ⟨?_, List.forall_mem_nil _⟩
    rw [List.filterMap_cons_none hname]
    exact List.nodup_nil
  | @inserted sampler generator insertion position set next hset hinto =>
    have hbecomes := insertion.becomes_intoSet sampler generator set
    rw [hinto] at hbecomes
    exact h.replaceSet hset hbecomes.descriptor_eq
  | nothingDeleted hsets => exact h
  | @deleted sampler deletion position set next hset hfrom =>
    have hbecomes := deletion.becomes_fromSet sampler set
    rw [hfrom] at hbecomes
    exact (h.replaceSet hset hbecomes.descriptor_eq).foldUntyped
  | nothingChanged hsets => exact h
  | @changed sampler change position set next hset hof =>
    have hbecomes := change.becomes_ofSet sampler set
    rw [hof] at hbecomes
    exact h.replaceSet hset hbecomes.descriptor_eq

/-- Operations on records leave a typed database typed, whether they succeed or fail. -/
theorem of_edit (h : db.IsTyped) (edit : Edit) : (db.edit edit).database.IsTyped := by
  cases hresult : (db.edit edit).result with
  | error fault =>
    rw [edit_of_error hresult]
    exact h
  | ok report =>
    have houtcome : db.edit edit = ⟨.ok report, (db.edit edit).database⟩ := by rw [← hresult]
    exact h.of_makes (makes_of_edit houtcome)

/-- The sets of a typed database that have one type stand at one position. -/
theorem position_unique (h : db.IsTyped) {first second : Nat} {set other : RecordSet}
    {name : String} (hset : db.set? first = some set) (hother : db.set? second = some other)
    (hname : set.typeName = some name) (hsame : other.typeName = some name) : first = second := by
  have hpairs := List.pairwise_iff_getElem.1 (List.pairwise_filterMap.1 h.types)
  obtain ⟨hfirst, rfl⟩ := List.getElem?_eq_some_iff.1 hset
  obtain ⟨hsecond, rfl⟩ := List.getElem?_eq_some_iff.1 hother
  rcases Nat.lt_trichotomy first second with hlt | heq | hlt
  · exact absurd rfl (hpairs first second hfirst hsecond hlt name hname name hsame)
  · exact heq
  · exact absurd rfl (hpairs second first hsecond hfirst hlt name hsame name hname)

/-- In a typed database the position of a type is that of the set which has it. -/
theorem typePosition?_eq_some_iff (h : db.IsTyped) {name : String} {position : Nat} :
    db.typePosition? name = some position ↔
      ∃ set, db.set? position = some set ∧ set.typeName = some name := by
  constructor
  · intro hposition
    obtain ⟨set, -, hset, hname⟩ := set?_of_typePosition? hposition
    exact ⟨set, hset, hname⟩
  · rintro ⟨set, hset, hname⟩
    have hhas : (db.typePosition? name).isSome := by
      rw [typePosition?, List.findIdx?_isSome, List.any_eq_true]
      exact ⟨set, List.mem_of_getElem? hset, beq_iff_eq.2 hname⟩
    obtain ⟨found, hfound⟩ := Option.isSome_iff_exists.1 hhas
    obtain ⟨other, -, hother, hsame⟩ := set?_of_typePosition? hfound
    rw [hfound, h.position_unique hother hset hsame hname]

/-- In a typed database a set without a type stands first. -/
theorem position_eq_zero (h : db.IsTyped) {position : Nat} {set : RecordSet}
    (hset : db.set? position = some set) (hname : set.typeName = none) : position = 0 := by
  obtain ⟨prologue, sets⟩ := db
  cases sets with
  | nil => cases hset
  | cons first rest =>
    cases position with
    | zero => rfl
    | succ position =>
      have hsome := h.untypedFirst set (List.mem_of_getElem? hset)
      rw [hname] at hsome
      cases hsome

/-- In a typed database the set of a type is the only one that has it. -/
theorem setOfType?_eq_some_iff (h : db.IsTyped) {name : String} {set : RecordSet} :
    db.setOfType? name = some set ↔ set ∈ db.sets ∧ set.typeName = some name := by
  constructor
  · intro hset
    rw [setOfType?, List.find?_eq_some_iff_append] at hset
    obtain ⟨hname, before, after, hsets, -⟩ := hset
    rw [hsets]
    exact ⟨List.mem_append_right _ List.mem_cons_self, beq_iff_eq.1 hname⟩
  · rintro ⟨hmem, hname⟩
    obtain ⟨position, hset⟩ := List.mem_iff_getElem?.1 hmem
    obtain ⟨found, hfound, hget, -⟩ :=
      set?_of_typePosition? (h.typePosition?_eq_some_iff.2 ⟨set, hset, hname⟩)
    rw [hfound, ← hget]
    exact hset

/-- Without a type, a typed database resolves to its first set. -/
theorem resolve_none (h : db.IsTyped) :
    db.resolve none = .ok (if db.sets.isEmpty then none else some 0) := by
  unfold resolve
  cases hempty : db.sets.isEmpty with
  | true => rfl
  | false =>
    cases hfound : db.sets.findIdx? (·.typeName.isNone) with
    | none => rfl
    | some position =>
      -- The untyped set is the first one.
      obtain ⟨hlt, hnone, -⟩ := List.findIdx?_eq_some_iff_getElem.1 hfound
      have hset : db.set? position = some db.sets[position] := List.getElem?_eq_getElem hlt
      rw [h.position_eq_zero hset (Option.isNone_iff_eq_none.1 hnone)]
      rfl

end IsTyped

/-- A type resolves to the position of its set. -/
theorem resolve_some_eq_ok_iff {name : String} {position : Nat} :
    db.resolve (some name) = .ok (some position) ↔ db.typePosition? name = some position := by
  rw [resolve]
  cases db.typePosition? name with
  | none => simp
  | some found => simp

/-- Every database that reading and operations make is typed. -/
theorem Reachable.isTyped (h : db.Reachable) : db.IsTyped := by
  induction h with
  | empty => exact isTyped_of_sets_nil rfl
  | read h => exact isTyped_of_ofText h
  | readSource h =>
    obtain ⟨text, htext⟩ := exists_ofText_of_ofSource h
    exact isTyped_of_ofText htext
  | insertSet _ set position ih => exact ih.insertSet set position
  | removeSet _ position ih => exact ih.removeSet position
  | edit _ edit ih => exact ih.of_edit edit

/-- In every database that reading and operations make, types tell the sets apart: no two sets have
one type, and a set without a type stands at position zero. So there is a set of a type when a set
has it; that set is the one which is found for the type, and its position is the one which the type
resolves to. Without a type, the first set is resolved to once there are sets. -/
theorem Reachable.sets_told_apart (h : db.Reachable) :
    (∀ first second set other name, db.set? first = some set → db.set? second = some other →
      set.typeName = some name → other.typeName = some name → first = second) ∧
    (∀ position set, db.set? position = some set → set.typeName = none → position = 0) ∧
    (∀ name, db.hasType name = true ↔ ∃ set ∈ db.sets, set.typeName = some name) ∧
    (∀ name set, db.setOfType? name = some set ↔ set ∈ db.sets ∧ set.typeName = some name) ∧
    (∀ name position, db.resolve (some name) = .ok (some position) ↔
      ∃ set, db.set? position = some set ∧ set.typeName = some name) ∧
    db.resolve none = .ok (if db.sets.isEmpty then none else some 0) := by
  have htyped := h.isTyped
  refine ⟨fun first second set other name hset hother hname hsame =>
    htyped.position_unique hset hother hname hsame,
    fun position set hset hname => htyped.position_eq_zero hset hname, fun name => hasType_iff,
    fun name set => htyped.setOfType?_eq_some_iff, fun name position => ?_, htyped.resolve_none⟩
  rw [resolve_some_eq_ok_iff, htyped.typePosition?_eq_some_iff]

/-- A read database with an untyped set and one of a type gets a set of another type behind them. -/
theorem Reachable.sets_told_apart_mixed :
    let start : Database := ⟨[], [{ entries := [.record ⟨[.field ⟨"a", "1"⟩], some ⟨1, 0⟩⟩] },
      { descriptor := some ⟨[.field ⟨"%rec", "A"⟩], some ⟨3, 6⟩⟩ }]⟩
    let db := (start.insertSet (.typed "B") 9).database
    ofText {} "a: 1\n\n%rec: A\n".toList = .ok start ∧ db.size = 3 ∧
      db.setOfType? "B" = some (.typed "B") ∧ db.resolve (some "B") = .ok (some 2) ∧
      db.resolve none = .ok (some 0) := by
  intro start db
  have hstart : ofText {} "a: 1\n\n%rec: A\n".toList = .ok start :=
    toOption_eq_some_iff.1 (by decide +kernel)
  have hsets : db.sets = start.sets ++ [.typed "B"] := by decide +kernel
  have hlast : db.set? 2 = some (.typed "B") := by rw [set?, hsets]; rfl
  have hname : (RecordSet.typed "B").typeName = some "B" := by decide +kernel
  obtain ⟨-, -, -, hfound, hposition, hfirst⟩ :=
    ((Reachable.read hstart).insertSet (.typed "B") 9).sets_told_apart
  refine ⟨hstart, by rw [size, hsets]; rfl, ?_, ?_, ?_⟩
  · exact (hfound "B" _).2 ⟨List.mem_of_getElem? hlast, hname⟩
  · exact (hposition "B" 2).2 ⟨_, hlast, hname⟩
  · rw [hfirst, hsets]
    rfl

end TextRecords.Database
