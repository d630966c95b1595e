import TextRecords.Proofs.Document.Additions
import TextRecords.Proofs.Query.Redaction

/-!
# Databases without some values

Records that differ only in the values of some fields are equal once these values are blanked. A
blanked record still has the names of its fields, so blanking changes neither the number of records
and fields nor what a descriptor declares; redacting removes the fields altogether and so does not
tell a record from the blanked one (`Record.redacted_blanked`).

With values blanked in one of the sets of a database, a type resolves to the same set
(`Database.resolve_blankedAt`). A join into that set has the same effect when only fields are
blanked that it does not contribute, and not the key (`Join.apply_blanked`,
`Join.prepare_blankedAt`).
-/

namespace TextRecords

/-- A field whose value is blanked if its name is among the hidden ones. -/
def Field.blanked (hides : String → Bool) (field : Field) : Field :=
  if hides field.name then { field with value := "" } else field

/-- An item with the values of hidden names blanked. -/
def Item.blanked (hides : String → Bool) : Item → Item
  | field f => field (f.blanked hides)
  | comment text => comment text

/-- A record with the values of hidden names blanked. -/
def Record.blanked (hides : String → Bool) (record : Record) : Record :=
  { record with items := record.items.map (Item.blanked hides) }

/-- An entry with the values of hidden names blanked. -/
def Entry.blanked (hides : String → Bool) : Entry → Entry
  | record r => record (r.blanked hides)
  | comment text => comment text

/-- A set with the values of hidden names blanked in its records. -/
def RecordSet.blanked (hides : String → Bool) (set : RecordSet) : RecordSet :=
  { set with entries := set.entries.map (Entry.blanked hides) }

/-- A database with the values of hidden names blanked in the records of the set at a position. -/
def Database.blankedAt (db : Database) (position : Nat) (hides : String → Bool) : Database :=
  { db with sets := db.sets.modify position (RecordSet.blanked hides) }

namespace Record

variable {hides : String → Bool} {name : String} {record : Record}

/-- A record with blanked values is the same without their fields. -/
theorem redacted_blanked (record : Record) (hides : String → Bool) :
    (record.blanked hides).redacted hides = record.redacted hides := by
  unfold redacted blanked
  dsimp only
  congr 1
  induction record.items with
  | nil => rfl
  | cons item rest ih =>
    cases item with
    | comment text => exact congrArg (Item.comment text :: ·) ih
    | field f =>
      cases h : hides f.name with
      | true => simpa [Item.blanked, Field.blanked, Item.field?, h] using ih
      | false => simpa [Item.blanked, Field.blanked, Item.field?, h] using ih

/-- Blanking keeps the values of the other names. -/
theorem values_blanked (h : hides name = false) :
    (record.blanked hides).values name = record.values name := by
  rw [← values_redacted h, redacted_blanked, values_redacted h]

/-- Blanking keeps the first value of every other name. -/
theorem first?_blanked (h : hides name = false) :
    (record.blanked hides).first? name = record.first? name := by
  unfold first? value?
  rw [values_blanked h]

end Record

namespace RecordSet

variable {hides : String → Bool} {set : RecordSet}

/-- The values of records have no part in what the descriptor declares. -/
@[simp]
theorem schema_blanked : (set.blanked hides).schema = set.schema :=
  rfl

/-- The records of a blanked set are the blanked ones. -/
theorem records_blanked : (set.blanked hides).records = set.records.map (Record.blanked hides) := by
  unfold records blanked
  dsimp only
  rw [List.filterMap_map, List.map_filterMap]
  refine List.filterMap_congr fun entry _ => ?_
  cases entry with
  | record r => rfl
  | comment text => rfl

/-- A blanked set has as many records as before. -/
@[simp]
theorem size_blanked : (set.blanked hides).size = set.size := by
  rw [size, records_blanked, List.length_map, size]

/-- The record at a position of a blanked set is the blanked one. -/
theorem record?_blanked (position : Nat) :
    (set.blanked hides).record? position = (set.record? position).map (Record.blanked hides) := by
  rw [record?, records_blanked, List.getElem?_map, record?]

end RecordSet

namespace Database

variable {db other : Database} {position : Nat} {set : RecordSet} {hides : String → Bool}

/-- The set at a position is blanked if it is the one to blank. -/
theorem set?_blankedAt (other : Nat) :
    (db.blankedAt position hides).set? other =
      if position = other then (db.set? other).map (RecordSet.blanked hides)
      else db.set? other := by
  unfold set? blankedAt
  dsimp only
  rw [List.getElem?_modify]
  split
  · rfl
  · exact Option.map_id'

/-- Places are forgotten before values are blanked or after it. -/
theorem unplaced_blankedAt :
    (db.blankedAt position hides).unplaced = db.unplaced.blankedAt position hides := by
  have hsets (set : RecordSet) : (set.blanked hides).unplaced = set.unplaced.blanked hides := by
    unfold RecordSet.blanked RecordSet.unplaced
    dsimp only
    rw [List.map_map, List.map_map]
    refine congrArg _ (List.map_congr_left fun entry _ => ?_)
    cases entry <;> rfl
  unfold blankedAt unplaced
  dsimp only
  congr 1
  refine List.ext_getElem? fun other => ?_
  rw [List.getElem?_map, List.getElem?_modify, List.getElem?_modify, List.getElem?_map]
  cases db.sets[other]? with
  | none => rfl
  | some set =>
    by_cases h : position = other
    · simp only [h, if_true, Option.map_some, Option.map_eq_map, hsets]
    · simp only [h, if_false, Option.map_some, Option.map_eq_map]

/-- Blanking changes the type of no set. -/
theorem typeNames_blankedAt :
    (db.blankedAt position hides).sets.map RecordSet.typeName =
      db.sets.map RecordSet.typeName := by
  refine List.ext_getElem? fun other => ?_
  have hset : (db.blankedAt position hides).set? other = _ := set?_blankedAt other
  unfold set? at hset
  rw [List.getElem?_map, List.getElem?_map, hset]
  split
  · rw [Option.map_map]
    rfl
  · rfl

/-- The first set whose type has a property stands where it stood. -/
theorem findIdx?_blankedAt (holds : Option String → Bool) :
    (db.blankedAt position hides).sets.findIdx? (fun set => holds set.typeName) =
      db.sets.findIdx? fun set => holds set.typeName := by
  have htypes (sets : List RecordSet) : (sets.findIdx? fun set => holds set.typeName) =
      (sets.map RecordSet.typeName).findIdx? holds := by
    rw [List.findIdx?_map]
    rfl
  rw [htypes, typeNames_blankedAt, ← htypes]

/-- The set of a type stands where it stood. -/
theorem typePosition?_blankedAt (type : String) :
    (db.blankedAt position hides).typePosition? type = db.typePosition? type :=
  findIdx?_blankedAt (· == some type)

/-- A type resolves to the set to which it resolved. -/
theorem resolve_blankedAt (type : Option String) :
    (db.blankedAt position hides).resolve type = db.resolve type := by
  cases type with
  | some name =>
    unfold resolve
    dsimp only
    rw [typePosition?_blankedAt]
  | none =>
    have hempty : (db.blankedAt position hides).sets.isEmpty = db.sets.isEmpty := by
      rw [← List.isEmpty_map, typeNames_blankedAt, List.isEmpty_map]
    unfold resolve
    dsimp only
    rw [hempty, findIdx?_blankedAt Option.isNone]

/-- The set of a type is blanked if it is the one to blank. -/
theorem setOfType?_blankedAt (type : String) :
    (db.blankedAt position hides).setOfType? type =
      if db.typePosition? type = some position then
        (db.setOfType? type).map (RecordSet.blanked hides)
      else db.setOfType? type := by
  have hfind (db : Database) : db.setOfType? type = (db.typePosition? type).bind db.set? :=
    List.find?_eq_bind_findIdx?_getElem?
  rw [hfind, hfind, typePosition?_blankedAt]
  cases db.typePosition? type with
  | none => rfl
  | some other =>
    rw [Option.bind_some, Option.bind_some, set?_blankedAt]
    simp only [Option.some.injEq, eq_comm]

/-- Databases that differ in the values of one set have it under the same schema. -/
theorem exists_set_of_blankedAt_eq (hset : db.set? position = some set)
    (hdiffer : db.blankedAt position hides = other.blankedAt position hides) :
    ∃ otherSet, other.set? position = some otherSet ∧ otherSet.schema = set.schema := by
  have hblanked : (other.blankedAt position hides).set? position = _ := set?_blankedAt position
  rw [← hdiffer, set?_blankedAt, if_pos rfl, if_pos rfl, hset] at hblanked
  obtain ⟨otherSet, hother, heq⟩ := Option.map_eq_some_iff.1 hblanked.symm
  have hschema : (otherSet.blanked hides).schema = (set.blanked hides).schema := by rw [heq]
  exact ⟨otherSet, hother, hschema⟩

/-- Databases that differ in the values of one set resolve a type alike. -/
theorem resolve_eq_of_blankedAt_eq
    (hdiffer : db.blankedAt position hides = other.blankedAt position hides)
    (type : Option String) : other.resolve type = db.resolve type := by
  rw [← resolve_blankedAt, ← hdiffer, resolve_blankedAt]

end Database

namespace Join

variable {hides : String → Bool} {join : Join}

/-- A join into records with the values of hidden names blanked. -/
def blanked (hides : String → Bool) (join : Join) : Join :=
  { join with targets := join.targets.map (Record.blanked hides) }

/-- A join finds the record that it found, if the keys are not blanked. -/
theorem target?_blanked (hkey : hides join.key = false) (value : String) :
    (join.blanked hides).target? value = (join.target? value).map (Record.blanked hides) := by
  unfold target? blanked
  dsimp only
  rw [List.find?_map]
  simp only [Function.comp_def, Record.first?_blanked hkey]

/-- Blanking has no effect on a join if it changes neither the keys nor what is contributed. -/
theorem apply_blanked (hhides : ∀ name, hides name = true → join.hides name = true)
    (hkey : hides join.key = false) (record : Record) :
    (join.blanked hides).apply record = join.apply record := by
  -- Neither record contributes hidden fields, and without these they are the same.
  have hcontribution (target : Record) :
      (join.blanked hides).contribution (target.blanked hides) = join.contribution target := by
    have hredacted := contribution_redacted hhides (target.blanked hides)
    rw [Record.redacted_blanked, contribution_redacted hhides] at hredacted
    exact hredacted.symm
  unfold apply
  rw [show (join.blanked hides).field = join.field from rfl]
  cases record.first? join.field with
  | none => rfl
  | some reference =>
    dsimp only
    rw [target?_blanked hkey]
    cases join.target? reference with
    | none => rfl
    | some target =>
      dsimp only [Option.map_some]
      rw [hcontribution, @replaceReferences_congr join (join.blanked hides) rfl]

/-- A join is prepared to the same effect, or not at all, when the only values that are blanked in
the set that it leads to are those of fields that it leaves out, and not the keys. -/
theorem prepare_blankedAt {db : Database} {position : Nat} {set : RecordSet} {field : String}
    {showsConfidential : Bool}
    (h : ∀ type target, set.schema.fieldType? field = some (.reference type) →
      db.typePosition? type = some position → db.setOfType? type = some target →
      ∀ name, hides name = true →
        showsConfidential = false ∧ target.schema.isConfidential name = true ∧
          target.schema.key ≠ some name) :
    (prepare (db.blankedAt position hides) set field showsConfidential).map apply =
      (prepare db set field showsConfidential).map apply := by
  unfold prepare
  split
  · next type htype =>
    rw [Database.setOfType?_blankedAt]
    by_cases hposition : db.typePosition? type = some position
    · rw [if_pos hposition]
      cases hset : db.setOfType? type with
      | none => rfl
      | some target =>
        have hseen := h type target htype hposition hset
        dsimp only [Option.map_some]
        rw [RecordSet.schema_blanked, RecordSet.records_blanked]
        cases hkey : target.schema.key with
        | none => rfl
        | some key =>
          let join : Join :=
            ⟨field, target.records, key,
              fun name => !showsConfidential && target.schema.isConfidential name⟩
          refine congrArg Except.ok (funext fun record => ?_)
          refine @apply_blanked hides join (fun name hname => ?_) ?_ record
          · obtain ⟨hshows, hconfidential, -⟩ := hseen name hname
            simp [join, hshows, hconfidential]
          · rw [Bool.eq_false_iff]
            intro hname
            exact (hseen key hname).2.2 hkey
    · rw [if_neg hposition]
  · rfl

end Join

end TextRecords
