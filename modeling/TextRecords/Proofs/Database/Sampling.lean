import TextRecords.Proofs.Database.Deletion
import TextRecords.Proofs.Query.Stages

/-!
# Operations on samples

A filter without a position that asks for a sample selects as many records as it asks for, or all
that it admits (`Filter.length_targets`). A set without a limit on its size loses all records that a
deletion selects (`Deletion.fromSet_of_unlimited`), and a query that makes no groups shows each
record of the sample once (`Query.exists_picked`). So a sampled deletion and a sampled query are
about exactly so many records (`Database.sampled_exactly`), if the query does not fail to sort them
(`Query.CanSort`). A query samples what is left after joining, unless it asks for the descriptor
alone: then there is nothing to sample (`Database.descriptorOnly_samples_none`).
-/

namespace TextRecords

/-- The sampler that draws the last positions, from the last one on. -/
def Sampler.last : Sampler where
  draw _ size count := (List.range size).reverse.take count
  length_draw h := by simpa using h
  nodup_draw _ := (List.nodup_reverse.2 List.nodup_range).sublist (List.take_sublist _ _)
  lt_of_mem_draw _ hmem := by simpa using List.mem_of_mem_take hmem

/-- A filter that draws a sample selects as many of the records that it admits as it asks for, or
all of them. -/
theorem Filter.length_targets {filter : Filter} {count : Nat} (hposition : filter.position = none)
    (hsize : filter.sampleSize = some count) (sampler : Sampler) (set : RecordSet) :
    (filter.targets sampler set).length =
      min count (set.records.filter filter.admits).length := by
  rw [targets, filter.sample_eq_of_size sampler hposition hsize, Sampler.length_sample,
    filter.length_matching set hposition]

/-- A deletion from a set without a limit on its size gives up all records that are selected, and
no others. -/
theorem Deletion.fromSet_of_unlimited (deletion : Deletion) (sampler : Sampler) {set : RecordSet}
    (hlimit : set.schema.size = none) :
    ∃ after, deletion.fromSet sampler set =
        (.ok ⟨(deletion.filter.targets sampler set).length, []⟩, after) ∧
      after.records = elementsAt
        (fun position => !(deletion.filter.targets sampler set).contains position) set.records := by
  obtain ⟨kept, gone, report, htargets, hfrom, hperforms⟩ := deletion.performs_fromSet sampler set
  have hleast : (Batch.start set).least = 0 := by
    rw [Batch.least, Batch.start, hlimit]
    rfl
  have hsize : (kept ++ gone).length ≤ set.size := by
    have hlength := (deletion.filter.targets_sublist sampler set).length_le
    rwa [htargets, List.length_range] at hlength
  -- Nothing holds the removal up, so no record is kept.
  have hkept : kept = [] := by
    have hcount := hperforms.count
    rw [hleast, Nat.sub_zero, Nat.min_eq_left hsize, List.length_append] at hcount
    exact List.length_eq_zero_iff.1 (by omega)
  subst hkept
  rw [List.nil_append] at htargets
  refine ⟨set.retireAll deletion.commentsOut gone.reverse, ?_, ?_⟩
  · rw [hfrom, hperforms.reported, htargets]
    rfl
  · rw [hperforms.records, htargets]

namespace Query

variable {query : Query} {count : Nat}

/-- A query that draws a sample and makes no groups shows records at different positions among those
that are left after joining: as many as it asks for, or all of them. -/
theorem exists_picked (hposition : query.filter.position = none)
    (hsize : query.filter.sampleSize = some count) (hgroup : query.groupBy = none)
    (sampler : Sampler) (set : RecordSet) (joined : List Record × Nat) :
    ∃ picked : List Nat, picked.Nodup ∧ picked.length = min count joined.1.length ∧
      (query.found sampler set joined).set.records.map some =
        picked.map fun position => joined.1[position]?.map (query.shown set.schema) := by
  obtain ⟨positions, hascending, hlength, hsample, -⟩ :=
    sampler.exists_positions query.filter.seed count joined.1
  have hshown : (query.found sampler set joined).set.records.Perm _ :=
    records_found_perm hgroup joined
  rw [query.filter.sample_eq_of_size sampler hposition hsize] at hshown
  have himages : ((query.found sampler set joined).set.records.map some).Perm
      (positions.map fun position => joined.1[position]?.map (query.shown set.schema)) := by
    have hpositions : ((sampler.sample query.filter.seed count joined.1).map
        (query.shown set.schema)).map some =
          positions.map fun position => joined.1[position]?.map (query.shown set.schema) := by
      calc ((sampler.sample query.filter.seed count joined.1).map (query.shown set.schema)).map some
          = ((sampler.sample query.filter.seed count joined.1).map some).map
              (Option.map (query.shown set.schema)) := by
            rw [List.map_map, List.map_map]
            rfl
        _ = positions.map fun position => joined.1[position]?.map (query.shown set.schema) := by
            rw [hsample, List.map_map]
            rfl
    exact hpositions ▸ hshown.map some
  -- Sorting exchanges the shown records, and the positions with them.
  obtain ⟨picked, hpicked, hrecords⟩ := exists_map_of_perm himages
  exact ⟨picked, hpicked.nodup_iff.2 (hascending.imp Nat.ne_of_lt), hpicked.length_eq.trans hlength,
    hrecords⟩

end Query

namespace Database

/-- What a sampler draws decides which elements a sample has, and nothing else does. A sample is a
part of a list in its order, with as many elements as are asked for, or with all of them; if there
are as many, they are those at the drawn positions. A deletion that draws a sample from a set
without a limit on its size changes as many records as it asks for, or all that its filter admits. A
query that draws one and makes no groups returns when the sample can be sorted, and whatever it
returns shows as many of the records that are left after joining, or all of them, each once. If a
query asks for the descriptor alone, it returns the set with its descriptor and no records. -/
theorem sampled_exactly (sampler : Sampler) :
    (∀ (α : Type) (seed : Option Nat) (count : Nat) (list : List α),
      (sampler.sample seed count list).Sublist list ∧
      (sampler.sample seed count list).length = min count list.length ∧
      (count ≤ list.length → ∃ positions : List Nat,
        positions.Perm (sampler.draw seed list.length count) ∧ positions.Pairwise (· < ·) ∧
          (sampler.sample seed count list).map some = positions.map (list[·]?))) ∧
    (∀ (db : Database) (deletion : Deletion) (position count : Nat) (set : RecordSet),
      deletion.filter.position = none → deletion.filter.sampleSize = some count →
      db.resolve deletion.filter.type = .ok (some position) → db.set? position = some set →
      set.schema.size = none →
      ∃ (gone : List Nat) (after : RecordSet), gone.Pairwise (· < ·) ∧
        gone.length = min count (set.records.filter deletion.filter.admits).length ∧
        (∀ position ∈ gone, ∃ record, set.record? position = some record ∧
          deletion.filter.admits record = true) ∧
        after.records = elementsAt (fun position => !gone.contains position) set.records ∧
        db.delete sampler deletion =
          ⟨.ok ⟨gone.length, []⟩, (db.replaceSet position after).foldUntyped⟩) ∧
    (∀ (db : Database) (query : Query) (position : Nat) (set : RecordSet),
      db.resolve query.filter.type = .ok (some position) → db.set? position = some set →
      query.descriptorOnly = true →
      ∃ result, db.query sampler query = .ok result ∧ result.set = set.emptied ∧
        result.set.records = []) ∧
    (∀ (db : Database) (query : Query) (position count : Nat) (set : RecordSet)
        (left : List Record) (skipped : Nat),
      query.filter.position = none → query.filter.sampleSize = some count →
      db.resolve query.filter.type = .ok (some position) → db.set? position = some set →
      query.groupBy = none → query.descriptorOnly = false →
      query.joined db set (set.records.filter query.filter.admits) = .ok (left, skipped) →
      (query.CanSort set.schema (query.filter.sample sampler left) →
        ∃ result, db.query sampler query = .ok result) ∧
      ∀ result, db.query sampler query = .ok result →
        ∃ picked : List Nat, result.set.records.length = min count left.length ∧ picked.Nodup ∧
          result.set.records.map some =
            picked.map fun position => left[position]?.map (query.shown set.schema)) := by
  refine ⟨fun α seed count list => ⟨?_, ?_, fun hle => ?_⟩, ?_, ?_, ?_⟩
  · exact sampler.sample_sublist seed count list
  · exact sampler.length_sample seed count list
  · obtain ⟨positions, hascending, -, hsample, hdrawn⟩ := sampler.exists_positions seed count list
    exact ⟨positions, hdrawn hle, hascending, hsample⟩
  · intro db deletion position count set hposition hsize hresolve hset hlimit
    obtain ⟨after, hfrom, hrecords⟩ := deletion.fromSet_of_unlimited sampler hlimit
    refine ⟨deletion.filter.targets sampler set, after,
      deletion.filter.pairwise_targets sampler set,
      Filter.length_targets hposition hsize sampler set, fun place hplace => ?_, hrecords, ?_⟩
    · have hmatching := (deletion.filter.targets_sublist_matching sampler set).subset hplace
      exact (deletion.filter.mem_matching_iff set hposition).1 hmatching
    · rw [delete, updateTarget, hresolve]
      simp only [hset, hfrom]
  · intro db query position set hresolve hset hdescriptor
    exact ⟨_, query_eq_emptied sampler hresolve hset hdescriptor, rfl, rfl⟩
  · intro db query position count set left skipped hposition hsize hresolve hset hgroup
      hdescriptor hjoined
    rw [← query.filter.filterMap_matching set hposition] at hjoined
    rw [query_eq_found sampler hresolve hset hdescriptor hjoined]
    refine ⟨fun _ => ⟨_, rfl⟩, fun result hresult => ?_⟩
    obtain rfl := Except.ok.inj hresult
    obtain ⟨picked, hnodup, hlength, hrecords⟩ :=
      Query.exists_picked hposition hsize hgroup sampler set (left, skipped)
    have hsame := congrArg List.length hrecords
    rw [List.length_map, List.length_map] at hsame
    exact ⟨picked, hsame.trans hlength, hnodup, hrecords⟩

/-- Four records, of which the second one does not have the field that the others have. -/
def lettersSpecimen : Database where
  sets := [{ entries :=
    [.record ⟨[.field ⟨"a", "1"⟩], none⟩, .record ⟨[.field ⟨"b", "1"⟩], none⟩,
      .record ⟨[.field ⟨"a", "2"⟩], none⟩, .record ⟨[.field ⟨"a", "3"⟩], none⟩] }]

/-- Of three records that a filter admits, two are deleted when two are asked for, and two are
shown. -/
theorem sampled_exactly_lettersSpecimen :
    let filter : Filter := { part := some "a", sampleSize := some 2, seed := some 0 }
    ∃ (set after : RecordSet) (gone : List Nat) (result : QueryResult),
      lettersSpecimen.set? 0 = some set ∧
      (set.records.filter filter.admits).length = 3 ∧ gone.length = 2 ∧
      lettersSpecimen.delete .last { filter } =
        ⟨.ok ⟨gone.length, []⟩, (lettersSpecimen.replaceSet 0 after).foldUntyped⟩ ∧
      lettersSpecimen.query .last { filter } = .ok result ∧ result.set.records.length = 2 := by
  intro filter
  obtain ⟨set, hset⟩ : ∃ set, lettersSpecimen.set? 0 = some set := ⟨_, rfl⟩
  have hlimit : set.schema.size = none := by
    rw [← Option.some.inj hset]
    rfl
  have hadmitted : (set.records.filter filter.admits).length = 3 := by
    rw [← Option.some.inj hset]
    decide +kernel
  obtain ⟨-, hdelete, -, hquery⟩ := sampled_exactly .last
  obtain ⟨gone, after, -, hgone, -, -, hdeleted⟩ :=
    hdelete lettersSpecimen { filter } 0 2 set rfl rfl rfl hset hlimit
  obtain ⟨hreturns, hshows⟩ :=
    hquery lettersSpecimen { filter } 0 2 set _ 0 rfl rfl rfl hset rfl rfl rfl
  have hsample : ({ filter } : Query).CanSort set.schema
      (filter.sample .last (set.records.filter filter.admits)) := by
    refine fun _ _ => .inl ?_
    rw [filter.sample_eq_of_size .last rfl rfl, Sampler.length_sample, hadmitted]
    decide
  obtain ⟨result, hresult⟩ := hreturns hsample
  obtain ⟨picked, hlength, -, -⟩ := hshows result hresult
  rw [hadmitted] at hgone hlength
  exact ⟨set, after, gone, result, hset, hadmitted, hgone, hdeleted, hresult, hlength⟩

/-- The descriptor alone has no records, though there are as many to draw as are asked for. -/
theorem descriptorOnly_samples_none :
    let filter : Filter := { part := some "a", sampleSize := some 2, seed := some 0 }
    let query : Query := { filter, descriptorOnly := true }
    ∃ set left result, lettersSpecimen.set? 0 = some set ∧
      query.joined lettersSpecimen set (set.records.filter query.filter.admits) = .ok (left, 0) ∧
      lettersSpecimen.query .last query = .ok result ∧
      result.set.records.length ≠ min 2 left.length := by
  intro filter query
  exact ⟨_, _, _, rfl, rfl, rfl, by decide +kernel⟩

end Database

end TextRecords
