import TextRecords.Database.Deletion
import TextRecords.Database.FieldChange
import TextRecords.Database.Insertion
import TextRecords.Proofs.Batch.Step
import TextRecords.Proofs.Schema.Admission

/-!
# Edits of a database

The operations on the records of a database put the set of a filter through a batch
(`Database.updateTarget_cases`), and what they leave in its place is reached by the steps of that
batch (`RecordSet.Becomes`). An operation that fails leaves the database exactly as it was, also the
insertion that gives an empty database its first set: nothing speaks against the first record of a
set without a descriptor (`unchanged_of_error`).
-/

namespace TextRecords

/-- A set that a batch on another one leaves. -/
def RecordSet.Becomes (set next : RecordSet) : Prop :=
  ∃ batch, Batch.Reaches (Batch.start set) batch ∧ batch.set = next

/-- A batch keeps the descriptor of its set. -/
theorem RecordSet.Becomes.descriptor_eq {set next : RecordSet} (h : set.Becomes next) :
    next.descriptor = set.descriptor := by
  obtain ⟨batch, hreaches, rfl⟩ := h
  exact hreaches.preserves (P := fun other => other.set.descriptor = set.descriptor)
    (fun hstep hbefore => hstep.descriptor_eq.trans hbefore) rfl

namespace RecordSet

variable {set : RecordSet}

/-- A set with every selected record replaced is one that a batch leaves. -/
theorem becomes_replaceSelected (record : Record) (positions : List Nat) :
    set.Becomes (set.replaceSelected record positions).2 :=
  ⟨_, Batch.reaches_foldl
    (fun batch position => .single (Batch.step_replace batch position record)) _ _, rfl⟩

/-- An insertion puts the record, with its automatic fields, into the set, or it fails by an
objection and leaves the set as it is. -/
theorem insertGenerated_cases (set : RecordSet) (generator : Generator) (record : Record)
    (position : Option Nat) :
    ∃ completed,
      ((Batch.start set).insertionObjection? completed = none ∧
        ∃ report, set.insertGenerated generator record position =
          (.ok report, set.insertBefore position completed)) ∨
      ∃ objection, (Batch.start set).insertionObjection? completed = some objection ∧
        set.insertGenerated generator record position = (.error (.rejected objection), set) := by
  let generated := (set.generatedFields generator record).map Item.field
  let completed := { record with items := generated ++ record.items }
  refine ⟨completed, ?_⟩
  rw [insertGenerated, Batch.insert]
  cases (Batch.start set).insertionObjection? completed with
  | none => exact .inl ⟨rfl, _, rfl⟩
  | some objection => exact .inr ⟨objection, rfl, rfl⟩

/-- A set after an insertion is one that a batch leaves. -/
theorem becomes_insertGenerated (generator : Generator) (record : Record)
    (position : Option Nat) :
    set.Becomes (set.insertGenerated generator record position).2 := by
  obtain ⟨completed, ⟨hobjection, report, heq⟩ | ⟨objection, -, heq⟩⟩ :=
    insertGenerated_cases set generator record position
  · rw [heq]
    exact ⟨_, .single (.insert position hobjection), rfl⟩
  · rw [heq]
    exact ⟨_, .refl, rfl⟩

/-- A failing insertion leaves the set as it is. -/
theorem insertGenerated_of_error {generator : Generator} {record : Record}
    {position : Option Nat} {fault : Fault}
    (h : (set.insertGenerated generator record position).1 = .error fault) :
    (set.insertGenerated generator record position).2 = set := by
  obtain ⟨completed, ⟨-, report, heq⟩ | ⟨objection, -, heq⟩⟩ :=
    insertGenerated_cases set generator record position
  · rw [heq] at h
    exact absurd h nofun
  · rw [heq]

/-- Nothing speaks against a record in an empty set without a descriptor. -/
theorem insertGenerated_empty (generator : Generator) (record : Record) (position : Option Nat) :
    ∃ report, (({} : RecordSet).insertGenerated generator record position).1 = .ok report := by
  obtain ⟨completed, ⟨-, report, heq⟩ | ⟨objection, hobjection, -⟩⟩ :=
    insertGenerated_cases {} generator record position
  · exact ⟨report, by rw [heq]⟩
  · have hnone : (Batch.start {}).insertionObjection? completed = none :=
      Batch.insertionObjection?_eq_none_iff.2
        ⟨Schema.violations_of_empty completed, nofun, nofun⟩
    rw [hnone] at hobjection
    exact absurd hobjection nofun

end RecordSet

namespace Insertion

variable (insertion : Insertion) (sampler : Sampler) (generator : Generator)

/-- A set after an insertion is one that a batch leaves. -/
theorem becomes_intoSet (set : RecordSet) :
    set.Becomes (insertion.intoSet sampler generator set).2 := by
  unfold intoSet
  split
  · exact RecordSet.becomes_insertGenerated generator insertion.record none
  · dsimp only
    split
    · exact RecordSet.becomes_replaceSelected insertion.record _
    · exact RecordSet.becomes_insertGenerated generator insertion.record _

/-- A failing insertion into a set leaves the set as it is. -/
theorem intoSet_of_error {set : RecordSet} {fault : Fault}
    (h : (insertion.intoSet sampler generator set).1 = .error fault) :
    (insertion.intoSet sampler generator set).2 = set := by
  unfold intoSet at h ⊢
  split at h
  · next hall =>
    rw [if_pos hall]
    exact RecordSet.insertGenerated_of_error h
  · next hall =>
    rw [if_neg hall]
    dsimp only at h ⊢
    split at h
    · exact absurd h nofun
    · next hreplaces =>
      rw [if_neg hreplaces]
      exact RecordSet.insertGenerated_of_error h

/-- An insertion into an empty set without a descriptor succeeds. -/
theorem intoSet_empty : ∃ report, (insertion.intoSet sampler generator {}).1 = .ok report := by
  unfold intoSet
  split
  · exact RecordSet.insertGenerated_empty generator insertion.record none
  · dsimp only
    split
    · exact ⟨_, rfl⟩
    · exact RecordSet.insertGenerated_empty generator insertion.record _

end Insertion

/-- A set after a deletion is one that a batch leaves. -/
theorem Deletion.becomes_fromSet (deletion : Deletion) (sampler : Sampler) (set : RecordSet) :
    set.Becomes (deletion.fromSet sampler set).2 :=
  ⟨_, Batch.reaches_remove _ _ _, rfl⟩

/-- A set after a change of fields is one that a batch leaves. -/
theorem FieldChange.becomes_ofSet (change : FieldChange) (sampler : Sampler) (set : RecordSet) :
    set.Becomes (change.ofSet sampler set).2 := by
  refine ⟨_, Batch.reaches_foldl (fun batch position => ?_) _ _, rfl⟩
  unfold changeOne
  split
  · exact .refl
  · exact .single (Batch.step_replace batch position _)

namespace Database

/-- An operation on the records of a database, with what it draws on. -/
inductive Edit where
  | insert (sampler : Sampler) (generator : Generator) (insertion : Insertion)
  | delete (sampler : Sampler) (deletion : Deletion)
  | setFields (sampler : Sampler) (change : FieldChange)

/-- What an operation on the records of a database comes to. -/
def edit (db : Database) : Edit → Outcome Report
  | .insert sampler generator insertion => db.insert sampler generator insertion
  | .delete sampler deletion => db.delete sampler deletion
  | .setFields sampler change => db.setFields sampler change

/-- A database after operations one after another, whether they succeed or fail. -/
def editAll (db : Database) (edits : List Edit) : Database :=
  edits.foldl (fun db edit => (db.edit edit).database) db

variable {db : Database} {filter : Filter}
  {update : RecordSet → Except Fault Report × RecordSet}

/-- The position that a type resolves to is the position of a set. -/
theorem exists_set_of_resolve {type : Option String} {position : Nat}
    (h : db.resolve type = .ok (some position)) : ∃ set, db.set? position = some set := by
  suffices hlt : position < db.sets.length from ⟨_, List.getElem?_eq_getElem hlt⟩
  cases type with
  | some name =>
    rw [resolve] at h
    cases hfound : db.typePosition? name with
    | none =>
      rw [hfound] at h
      exact absurd h nofun
    | some found =>
      rw [hfound] at h
      obtain rfl : found = position := Option.some.inj (Except.ok.inj h)
      exact (List.findIdx?_eq_some_iff_getElem.1 hfound).1
  | none =>
    rw [resolve] at h
    split at h
    · exact absurd h nofun
    · next hne =>
      have hpos : 0 < db.sets.length := List.length_pos_iff.2 fun hnil => hne (by rw [hnil]; rfl)
      obtain rfl := Option.some.inj (Except.ok.inj h)
      cases hfound : db.sets.findIdx? (·.typeName.isNone) with
      | none => exact hpos
      | some found => exact (List.findIdx?_eq_some_iff_getElem.1 hfound).1

/-- A type resolves to no set only where there is none. -/
theorem sets_eq_nil_of_resolve {type : Option String} (h : db.resolve type = .ok none) :
    db.sets = [] := by
  unfold resolve at h
  split at h
  · split at h
    · exact absurd h nofun
    · exact absurd h nofun
  · split at h
    · next hempty => exact List.isEmpty_iff.1 hempty
    · exact absurd h nofun

/-- All that a change to the set of a filter can come to. -/
theorem updateTarget_cases (db : Database) (filter : Filter)
    (update : RecordSet → Except Fault Report × RecordSet) :
    (∃ fault, db.updateTarget filter update = ⟨.error fault, db⟩) ∨
      db.updateTarget filter update = ⟨.ok {}, db⟩ ∨
      ∃ position set, db.set? position = some set ∧
        db.updateTarget filter update =
          ⟨(update set).1, db.replaceSet position (update set).2⟩ := by
  unfold updateTarget
  split
  · next fault _ => exact .inl ⟨fault, rfl⟩
  · exact .inr (.inl rfl)
  · next position _ =>
    split
    · exact .inr (.inl rfl)
    · next set hset => exact .inr (.inr ⟨position, set, hset, rfl⟩)

/-- A change to the set of a filter that succeeds does nothing in a database without sets. In any
other it succeeds for the set, and puts what it makes of it in its place. -/
theorem updateTarget_eq_ok {report : Report} {after : Database}
    (h : db.updateTarget filter update = ⟨.ok report, after⟩) :
    (db.sets = [] ∧ after = db ∧ report = {}) ∨
      ∃ position set next, db.resolve filter.type = .ok (some position) ∧
        db.set? position = some set ∧ update set = (.ok report, next) ∧
        after = db.replaceSet position next := by
  unfold updateTarget at h
  cases hresolve : db.resolve filter.type with
  | error fault =>
    rw [hresolve] at h
    exact absurd (Outcome.mk.inj h).1 nofun
  | ok target =>
    cases target with
    | none =>
      rw [hresolve] at h
      obtain ⟨hreport, hafter⟩ := Outcome.mk.inj h
      exact .inl ⟨sets_eq_nil_of_resolve hresolve, hafter.symm, (Except.ok.inj hreport).symm⟩
    | some position =>
      obtain ⟨set, hset⟩ := exists_set_of_resolve hresolve
      simp only [hresolve, hset] at h
      obtain ⟨hreport, hafter⟩ := Outcome.mk.inj h
      exact .inr ⟨position, set, _, rfl, hset, Prod.ext hreport rfl, hafter.symm⟩

/-- A set put in its own place changes nothing. -/
theorem replaceSet_self {position : Nat} {set : RecordSet} (h : db.set? position = some set) :
    db.replaceSet position set = db := by
  obtain ⟨hlt, rfl⟩ := List.getElem?_eq_some_iff.1 h
  rw [replaceSet, List.set_getElem_self]

/-- A failing change to the set of a filter changes nothing if the set stays as it is. -/
theorem updateTarget_of_error
    (hupdate : ∀ set fault, (update set).1 = .error fault → (update set).2 = set) {fault : Fault}
    (h : (db.updateTarget filter update).result = .error fault) :
    (db.updateTarget filter update).database = db := by
  rcases updateTarget_cases db filter update with ⟨other, heq⟩ | heq | ⟨position, set, hset, heq⟩
  · rw [heq]
  · rw [heq]
  · rw [heq] at h ⊢
    rw [hupdate set fault h]
    exact replaceSet_self hset

/-- A database without sets gets one without a descriptor when no type is asked for. -/
theorem withUntypedSet_of_isEmpty (hsets : db.sets = []) (htype : filter.type = none) :
    db.withUntypedSet filter = { db with sets := [{}] } := by
  obtain ⟨prologue, sets⟩ := db
  obtain rfl : sets = [] := hsets
  rw [withUntypedSet, htype]
  rfl

/-- Any other database stays as it is. -/
theorem withUntypedSet_of_not (h : ¬(db.sets = [] ∧ filter.type = none)) :
    db.withUntypedSet filter = db := by
  rw [withUntypedSet, if_neg]
  rwa [Bool.and_eq_true, List.isEmpty_iff, Option.isNone_iff_eq_none]

/-- A change without a type in a database of one set without a descriptor is about that set. -/
theorem updateTarget_untyped (prologue : List String) (htype : filter.type = none) :
    (Database.mk prologue [{}]).updateTarget filter update =
      ⟨(update {}).1, ⟨prologue, [(update {}).2]⟩⟩ := by
  rw [updateTarget, htype]
  rfl

/-- A failing operation on records leaves the database as it is. -/
theorem edit_of_error {edit : Edit} {fault : Fault} (h : (db.edit edit).result = .error fault) :
    (db.edit edit).database = db := by
  cases edit with
  | insert sampler generator insertion =>
    rw [Database.edit, insert] at h ⊢
    split
    · rfl
    · next hrecord =>
      rw [hrecord] at h
      by_cases hempty : db.sets = [] ∧ insertion.filter.type = none
      · -- The set is created before the insertion is tried, so the insertion must not fail.
        obtain ⟨report, hreport⟩ := insertion.intoSet_empty sampler generator
        rw [withUntypedSet_of_isEmpty hempty.1 hempty.2, updateTarget_untyped _ hempty.2,
          hreport] at h
        exact absurd h nofun
      · rw [withUntypedSet_of_not hempty] at h ⊢
        exact updateTarget_of_error
          (fun set fault => insertion.intoSet_of_error sampler generator) h
  | delete sampler deletion =>
    rw [Database.edit, delete] at h ⊢
    cases hresult : (db.updateTarget deletion.filter (deletion.fromSet sampler)).result with
    | ok report =>
      rw [hresult] at h
      exact absurd h nofun
    | error other =>
      exact updateTarget_of_error (fun set fault hfault => absurd hfault nofun) hresult
  | setFields sampler change =>
    rw [Database.edit, setFields] at h ⊢
    split
    · rfl
    · next hvalid =>
      rw [hvalid] at h
      exact updateTarget_of_error (fun set fault hfault => absurd hfault nofun) h

/-- A set that cannot be inserted leaves the database as it is. -/
theorem insertSet_of_error {set : RecordSet} {position : Nat} {fault : Fault}
    (h : (db.insertSet set position).result = .error fault) :
    (db.insertSet set position).database = db := by
  rw [insertSet] at h ⊢
  split
  · rfl
  · next hnone =>
    simp only [hnone] at h
    exact absurd h nofun

/-- A set that cannot be removed leaves the database as it is. -/
theorem removeSet_of_error {position : Nat} {fault : Fault}
    (h : (db.removeSet position).result = .error fault) :
    (db.removeSet position).database = db := by
  unfold removeSet at h ⊢
  split
  · next hset =>
    rw [hset] at h
    exact absurd h nofun
  · rfl

end Database

/-- An operation that fails leaves no trace: not in the database when records are inserted, deleted
or changed or when a set is inserted or removed, and not in the set, the table of keys and the
report of a batch. -/
theorem unchanged_of_error :
    (∀ (db : Database) (edit : Database.Edit) fault,
      (db.edit edit).result = .error fault → (db.edit edit).database = db) ∧
    (∀ (db : Database) set position fault,
      (db.insertSet set position).result = .error fault →
        (db.insertSet set position).database = db) ∧
    (∀ (db : Database) position fault,
      (db.removeSet position).result = .error fault → (db.removeSet position).database = db) ∧
    ∀ (batch : Batch) position record objection,
      (batch.insert position record).1 = .error objection →
        (batch.insert position record).2 = batch :=
  ⟨fun _ _ _ => Database.edit_of_error, fun _ _ _ _ => Database.insertSet_of_error,
    fun _ _ _ => Database.removeSet_of_error, fun _ _ _ _ => Batch.insert_of_error⟩

/-- Books with a key. -/
def Database.booksSpecimen : Database where
  sets :=
    [{ descriptor := some ⟨[.field ⟨"%rec", "Book"⟩, .field ⟨"%key", "Id"⟩], some ⟨1, 0⟩⟩
       entries := [.record ⟨[.field ⟨"Id", "1"⟩], some ⟨4, 22⟩⟩] }]

/-- Each of the operations fails on the books in a way of its own and leaves them as they are. -/
theorem unchanged_of_error_booksSpecimen :
    let db := Database.booksSpecimen
    let record : Record := ⟨[.field ⟨"Id", "1"⟩], none⟩
    let batch := Batch.start (db.sets.headD {})
    (db.edit (.insert .first ⟨fun _ => "", ""⟩ { record })).database = db ∧
      (db.edit (.delete .first { filter := { type := some "Film" } })).database = db ∧
      (db.edit (.setFields .first { fields := ⟨"", []⟩, action := .rename "2nd" })).database = db ∧
      (db.insertSet (.typed "Book") 1).database = db ∧
      (db.removeSet 1).database = db ∧
      (batch.insert none record).2 = batch := by
  intro db record batch
  obtain ⟨hedit, hinsertSet, hremoveSet, hinsert⟩ := unchanged_of_error
  refine ⟨?_, ?_, ?_, ?_, ?_, ?_⟩
  · exact hedit db _ (.rejected (.duplicateKey "1")) rfl
  · exact hedit db _ (.unknownType "Film") rfl
  · exact hedit db _ (.argument (.invalidFieldName "2nd")) rfl
  · exact hinsertSet db _ _ (.argument (.duplicateType "Book")) rfl
  · exact hremoveSet db _ (.argument (.noSetAt 1)) rfl
  · exact hinsert batch _ _ (.duplicateKey "1") rfl

end TextRecords
