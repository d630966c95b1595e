import TextRecords.Proofs.Query.Concealed
import TextRecords.Proofs.Query.Unplaced

/-!
# Confidential values

Without a password the results of a query do not tell databases apart that differ in the values of
confidential fields only. In another set than the queried one, this is so for all but the key
(`Database.query_eq_of_withheld`). In the queried set, it is so for all fields that the query does
not consult to follow references, to group or to sort, if it asks for no selection and no part of
the text (`Database.query_eq_of_concealed`).

A query that joins by a confidential field does consult it and shows its values under another name,
and the other confidential values that a query consults are told by its results as well
(`Database.query_reveals_consulted`).
-/

namespace TextRecords

/-- Whether a join into a set leaves out a field by which it does not find records. -/
def Schema.withholds (schema : Schema) (name : String) : Bool :=
  schema.isConfidential name && schema.key != some name

namespace Database

variable {db other : Database} {query : Query} {sampler : Sampler} {position : Nat}
  {set target : RecordSet}

/-- If blanking some values of a set makes no difference to a query in any database in which it is
about the same set, databases that differ in these values are alike to the query. -/
theorem query_eq_of_blankedAt_eq {hides : Schema → String → Bool}
    (hblanked : ∀ (same : Database) (set : RecordSet), same.set? position = some set →
      same.resolve query.filter.type = db.resolve query.filter.type →
      (same.blankedAt position (hides set.schema)).query sampler query =
        same.query sampler query)
    (hset : db.set? position = some set)
    (hdiffer : db.blankedAt position (hides set.schema) =
      other.blankedAt position (hides set.schema)) :
    db.query sampler query = other.query sampler query := by
  obtain ⟨otherSet, hotherSet, hschema⟩ := exists_set_of_blankedAt_eq hset hdiffer
  have hother := hblanked other otherSet hotherSet (resolve_eq_of_blankedAt_eq hdiffer _)
  rw [hschema, ← hdiffer, hblanked db set hset rfl] at hother
  exact hother

/-- If blanking some values of a set makes no difference to a query in any database in which it is
about the same set, databases that differ in these values and in the places of records are alike to
the query up to places. -/
theorem query_eq_of_unplaced_blankedAt_eq {hides : Schema → String → Bool}
    (hblanked : ∀ (same : Database) (set : RecordSet), same.set? position = some set →
      same.resolve query.filter.type = db.resolve query.filter.type →
      (same.blankedAt position (hides set.schema)).query sampler query =
        same.query sampler query)
    (hset : db.set? position = some set)
    (hdiffer : (db.blankedAt position (hides set.schema)).unplaced =
      (other.blankedAt position (hides set.schema)).unplaced) :
    (db.query sampler query).map QueryResult.unplaced =
      (other.query sampler query).map QueryResult.unplaced := by
  have hplaceless : db.unplaced.set? position = some set.unplaced := by
    rw [set?_unplaced, hset]
    rfl
  rw [unplaced_blankedAt, unplaced_blankedAt, ← RecordSet.schema_unplaced] at hdiffer
  rw [← query_unplaced, ← query_unplaced]
  refine query_eq_of_blankedAt_eq (fun same set hset hresolve => ?_) hplaceless hdiffer
  exact hblanked same set hset (by rw [hresolve, resolve_unplaced])

/-- Values that a join leaves out are blanked without a difference to a query on another set. -/
theorem query_blankedAt_withheld (htarget : db.set? position = some target)
    (hpassword : query.password = none)
    (hqueried : db.resolve query.filter.type ≠ .ok (some position)) :
    (db.blankedAt position target.schema.withholds).query sampler query =
      db.query sampler query := by
  unfold Database.query
  rw [resolve_blankedAt]
  cases hresolve : db.resolve query.filter.type with
  | error fault => rfl
  | ok found =>
    cases found with
    | none => rfl
    | some found =>
      have hne : position ≠ found := by
        rintro rfl
        exact hqueried hresolve
      obtain ⟨set, hset⟩ := exists_set_of_resolve hresolve
      have hprepare : ∀ field ∈ query.join,
          (Join.prepare (db.blankedAt position target.schema.withholds) set field
              query.password.isSome).map Join.apply =
            (Join.prepare db set field query.password.isSome).map Join.apply := by
        intro field _
        -- If the join leads to the blanked set, the blanked fields are those that it leaves out.
        refine Join.prepare_blankedAt fun type joined htype hposition hjoined name hname => ?_
        obtain ⟨same, hsame, hget, -⟩ := set?_of_typePosition? hposition
        obtain rfl : same = joined := Option.some.inj (hsame.symm.trans hjoined)
        obtain rfl : same = target := Option.some.inj (hget.symm.trans htarget)
        obtain ⟨hconfidential, hkey⟩ := Bool.and_eq_true_iff.1 hname
        exact ⟨by rw [hpassword]; rfl, hconfidential, bne_iff_ne.1 hkey⟩
      have hfound : (db.blankedAt position target.schema.withholds).set? found = some set := by
        rw [set?_blankedAt, if_neg hne, hset]
      simp only [Except.bind, bind, Option.bind_some, hfound, hset]
      rw [Query.onSet_eq, Query.onSet_eq, Query.joined_congr _ hprepare]

/-- Without a password, the confidential values of a set have no influence on a query on another
one, whether it joins the set or not, except for the values of the key, by which a join finds
records. The results are the same up to the places of records, and those as well if they are the
same in the databases. -/
theorem query_eq_of_withheld (htarget : db.set? position = some target)
    (hdiffer : (db.blankedAt position target.schema.withholds).unplaced =
      (other.blankedAt position target.schema.withholds).unplaced)
    (hpassword : query.password = none)
    (hqueried : db.resolve query.filter.type ≠ .ok (some position)) :
    (db.query sampler query).map QueryResult.unplaced =
        (other.query sampler query).map QueryResult.unplaced ∧
      (db.blankedAt position target.schema.withholds =
          other.blankedAt position target.schema.withholds →
        db.query sampler query = other.query sampler query) := by
  have hblanked (same : Database) (set : RecordSet) (hset : same.set? position = some set)
      (hresolve : same.resolve query.filter.type = db.resolve query.filter.type) :
      (same.blankedAt position set.schema.withholds).query sampler query =
        same.query sampler query :=
    query_blankedAt_withheld hset hpassword (hresolve ▸ hqueried)
  exact ⟨query_eq_of_unplaced_blankedAt_eq hblanked htarget hdiffer,
    query_eq_of_blankedAt_eq hblanked htarget⟩

/-- A library of two books, of which the second one refers to nobody. The first one has the given
reference and price, and the given field of books is confidential. The first of two authors has the
given year of birth, which is confidential too. -/
def librarySpecimen (confidential reference price born : String) : Database where
  sets := [
    { descriptor := some ⟨[.field ⟨"%rec", "Book"⟩, .field ⟨"%type", "author rec Author"⟩,
        .field ⟨"%sort", "title"⟩, .field ⟨"%confidential", confidential⟩], none⟩
      entries := [
        .record ⟨[.field ⟨"title", "Walden"⟩, .field ⟨"author", reference⟩,
          .field ⟨"price", price⟩], none⟩,
        .record ⟨[.field ⟨"title", "Emma"⟩, .field ⟨"author", "a3"⟩], none⟩] },
    { descriptor := some ⟨[.field ⟨"%rec", "Author"⟩, .field ⟨"%key", "id"⟩,
        .field ⟨"%confidential", "born"⟩], none⟩
      entries := [
        .record ⟨[.field ⟨"id", "a1"⟩, .field ⟨"born", born⟩], none⟩,
        .record ⟨[.field ⟨"id", "a2"⟩], none⟩] }]

/-- The books with their authors. -/
def booksWithAuthors : Query where
  filter := { type := some "Book" }
  join := some "author"

/-- Years of birth have no influence on the books with their authors. -/
theorem query_eq_of_withheld_born :
    let db := librarySpecimen "price" "a1" "9" "1817"
    let other := librarySpecimen "price" "a1" "9" "1862"
    db ≠ other ∧ (db.query .first booksWithAuthors).toOption.isSome ∧
      db.query .first booksWithAuthors = other.query .first booksWithAuthors := by
  intro db other
  have htarget : db.set? 1 = some db.sets[1] := rfl
  have hdiffer : db.blankedAt 1 db.sets[1].schema.withholds =
      other.blankedAt 1 db.sets[1].schema.withholds := by decide +kernel
  have hqueried : (db.resolve booksWithAuthors.filter.type).toOption ≠ some (some 1) := by
    decide +kernel
  refine ⟨by decide +kernel, by decide +kernel, ?_⟩
  exact (query_eq_of_withheld htarget (congrArg unplaced hdiffer) rfl
    fun hresolve => hqueried (toOption_eq_some_iff.2 hresolve)).2 hdiffer

/-- Values that a query conceals are blanked without a difference to its results. -/
theorem query_blankedAt_concealed (hresolve : db.resolve query.filter.type = .ok (some position))
    (hset : db.set? position = some set) (hpassword : query.password = none)
    (hselection : query.filter.selection = none) (hpart : query.filter.part = none) :
    (db.blankedAt position (query.conceals set.schema)).query sampler query =
      db.query sampler query := by
  have hblanked : (db.blankedAt position (query.conceals set.schema)).set? position =
      some (set.blanked (query.conceals set.schema)) := by
    rw [set?_blankedAt, if_pos rfl, hset]
    rfl
  unfold Database.query
  rw [resolve_blankedAt, hresolve]
  simp only [Except.bind, bind, Option.bind_some, hblanked, hset]
  exact Query.onSet_blanked hset hpassword hselection hpart

/-- Without a password, a selection and a part of the text, the confidential values of the queried
set have no influence on a query, except for those of the fields that it consults: the reference
that it follows, the key if this leads to the same set, the fields by which it groups and those by
which it sorts. The results are the same up to the places of records, and those as well if they are
the same in the databases. -/
theorem query_eq_of_concealed (hresolve : db.resolve query.filter.type = .ok (some position))
    (hset : db.set? position = some set)
    (hdiffer : (db.blankedAt position (query.conceals set.schema)).unplaced =
      (other.blankedAt position (query.conceals set.schema)).unplaced)
    (hpassword : query.password = none) (hselection : query.filter.selection = none)
    (hpart : query.filter.part = none) :
    (db.query sampler query).map QueryResult.unplaced =
        (other.query sampler query).map QueryResult.unplaced ∧
      (db.blankedAt position (query.conceals set.schema) =
          other.blankedAt position (query.conceals set.schema) →
        db.query sampler query = other.query sampler query) := by
  have hblanked (same : Database) (set : RecordSet) (hset : same.set? position = some set)
      (hsame : same.resolve query.filter.type = db.resolve query.filter.type) :
      (same.blankedAt position (query.conceals set.schema)).query sampler query =
        same.query sampler query :=
    query_blankedAt_concealed (hsame.trans hresolve) hset hpassword hselection hpart
  exact ⟨query_eq_of_unplaced_blankedAt_eq hblanked hset hdiffer,
    query_eq_of_blankedAt_eq hblanked hset⟩

/-- Prices have no influence on the books with their authors. -/
theorem query_eq_of_concealed_price :
    let db := librarySpecimen "price" "a1" "9" "1817"
    let other := librarySpecimen "price" "a1" "12" "1817"
    db ≠ other ∧ (db.query .first booksWithAuthors).toOption.isSome ∧
      db.query .first booksWithAuthors = other.query .first booksWithAuthors := by
  intro db other
  have hresolve : (db.resolve booksWithAuthors.filter.type).toOption = some (some 0) := by
    decide +kernel
  have hset : db.set? 0 = some db.sets[0] := rfl
  have hdiffer : db.blankedAt 0 (booksWithAuthors.conceals db.sets[0].schema) =
      other.blankedAt 0 (booksWithAuthors.conceals db.sets[0].schema) := by decide +kernel
  refine ⟨by decide +kernel, by decide +kernel, ?_⟩
  exact (query_eq_of_concealed (toOption_eq_some_iff.1 hresolve) hset (congrArg unplaced hdiffer)
    rfl rfl rfl).2 hdiffer

/-- Whether a query finds something else when values change that the queried set declares to be
confidential, though it does not declare to be sorted by them. -/
def Reveals (query : Query) (db other : Database) : Prop :=
  ∃ position set, db.resolve query.filter.type = .ok (some position) ∧
    db.set? position = some set ∧
    db.blankedAt position set.schema.isConfidential =
      other.blankedAt position set.schema.isConfidential ∧
    (∀ name ∈ set.schema.sort, set.schema.isConfidential name = false) ∧
    (db.query .first query).map QueryResult.unplaced ≠
      (other.query .first query).map QueryResult.unplaced

/-- Two persons, of whom the second one has the first one as boss if that one has the right key. The
keys and wages are confidential, and the name by which persons are sorted stands for wages that are
commented out. -/
def staffSpecimen (key wage : String) : Database where
  sets := [
    { descriptor := some ⟨[.field ⟨"%rec", "Person"⟩, .field ⟨"%key", "id"⟩,
        .field ⟨"%type", "boss rec Person"⟩, .field ⟨"%sort", "wage%"⟩,
        .field ⟨"%confidential", "id wage"⟩], none⟩
      entries := [
        .record ⟨[.field ⟨"id", key⟩, .field ⟨"name", "Ann"⟩, .field ⟨"wage", wage⟩], none⟩,
        .record ⟨[.field ⟨"id", "p2"⟩, .field ⟨"name", "Bob"⟩, .field ⟨"wage", "20"⟩,
          .field ⟨"boss", "p1"⟩], none⟩] }]

/-- Confidential values that a query consults are revealed: a reference is shown as the key that it
leads to, a key is told by the references that lead to it, and the order of the results is that of
the values of a field although only its commented out values are to be sorted by. -/
theorem query_reveals_consulted :
    Reveals booksWithAuthors (librarySpecimen "author" "a1" "9" "1817")
        (librarySpecimen "author" "a2" "9" "1817") ∧
      Reveals { join := some "boss" } (staffSpecimen "p1" "10") (staffSpecimen "p3" "10") ∧
      Reveals {} (staffSpecimen "p1" "10") (staffSpecimen "p1" "30") := by
  have hne {query : Query} {db other : Database}
      (h : ((db.query .first query).map QueryResult.unplaced).toOption ≠
        ((other.query .first query).map QueryResult.unplaced).toOption) :
      (db.query .first query).map QueryResult.unplaced ≠
        (other.query .first query).map QueryResult.unplaced := fun heq => h (congrArg _ heq)
  refine ⟨⟨0, _, toOption_eq_some_iff.1 ?_, rfl, ?_, ?_, hne ?_⟩,
    ⟨0, _, toOption_eq_some_iff.1 ?_, rfl, ?_, ?_, hne ?_⟩,
    ⟨0, _, toOption_eq_some_iff.1 ?_, rfl, ?_, ?_, hne ?_⟩⟩
  all_goals decide +kernel

end Database

end TextRecords
