import TextRecords.Proofs.Database.Insertion

/-!
# Where an insertion puts its record

A record that is inserted stands before the first record that matches the filter. It stands at the
end of the set when the filter is unrestricted or no record matches (`Filter.PutsBetween`). All
entries around it stay as they are, and so do the descriptor and the other sets
(`Database.insert_puts_between`).
-/

namespace TextRecords

namespace Filter

variable {filter : Filter} {set : RecordSet}

/-- A filter admits no position when no record matches it. -/
theorem matching_eq_nil_iff :
    filter.matching set = [] ↔ ∀ position record, ¬filter.Matches set position record := by
  rw [List.eq_nil_iff_forall_not_mem]
  exact forall_congr' fun position => (not_congr (mem_matching_iff_matches filter set)).trans
    not_exists

/-- The first position that a filter admits is the least one of a record that matches it. -/
theorem matches_of_matching_eq_cons {position : Nat} {rest : List Nat}
    (h : filter.matching set = position :: rest) :
    ∃ record, filter.Matches set position record ∧
      ∀ other record, filter.Matches set other record → position ≤ other := by
  have hmem : position ∈ filter.matching set := h ▸ List.mem_cons_self
  obtain ⟨record, hmatches⟩ := (mem_matching_iff_matches filter set).1 hmem
  refine ⟨record, hmatches, fun other record hother => ?_⟩
  have hothers := filter.pairwise_matching set
  have hmem := (mem_matching_iff_matches filter set).2 ⟨record, hother⟩
  rw [h] at hothers hmem
  rcases List.mem_cons.1 hmem with rfl | hrest
  · exact Nat.le_refl _
  · exact Nat.le_of_lt (List.rel_of_pairwise_cons hothers hrest)

/-- Entries of a set between which a filter puts a record: those before it, which are followed by
the first record that matches the filter, or are all entries of the set. -/
inductive PutsBetween (filter : Filter) (set : RecordSet) (before : List Entry) : List Entry → Prop
  /-- The filter leaves no choice, or nothing to choose from. -/
  | atEnd (h : filter.isUnrestricted = true ∨
      ∀ position record, ¬filter.Matches set position record) : PutsBetween filter set before []
  | beforeMatched {next : Record} {rest : List Entry} (hrestricted : filter.isUnrestricted = false)
      (hnext : filter.Matches set (before.filterMap Entry.record?).length next)
      (hfirst : ∀ position record, filter.Matches set position record →
        (before.filterMap Entry.record?).length ≤ position) :
      PutsBetween filter set before (.record next :: rest)

end Filter

/-- A record that is put before the first position that a filter admits, or at the end if the filter
is unrestricted or admits none, stands where the filter puts it. -/
theorem RecordSet.insertBefore_putsBetween (set : RecordSet) (filter : Filter) (record : Record) :
    ∃ before behind, set.entries = before ++ behind ∧ filter.PutsBetween set before behind ∧
      set.insertBefore (if filter.isUnrestricted then none else (filter.matching set).head?)
        record = ⟨set.descriptor, before ++ .record record :: behind⟩ := by
  split
  · next hall => exact ⟨set.entries, [], (List.append_nil _).symm, .atEnd (.inl hall), rfl⟩
  · next hrestricted =>
    cases hmatching : filter.matching set with
    | nil =>
      exact ⟨set.entries, [], (List.append_nil _).symm,
        .atEnd (.inr (Filter.matching_eq_nil_iff.1 hmatching)), rfl⟩
    | cons position rest =>
      obtain ⟨next, hmatches, hfirst⟩ := Filter.matches_of_matching_eq_cons hmatching
      obtain ⟨before, behind, hentries, rfl, hsubstitute⟩ := Entry.exists_around hmatches.1
      have hlt := (List.getElem?_eq_some_iff.1 hmatches.1).1
      refine ⟨before, .record next :: behind, hentries,
        .beforeMatched (Bool.eq_false_iff.2 hrestricted) hmatches hfirst, ?_⟩
      rw [List.head?_cons, insertBefore, insertAt, size, if_pos hlt, hsubstitute,
        List.append_assoc]
      rfl

/-- An insertion that draws no sample and replaces nothing, if it succeeds, puts the completed
record where the filter puts it and reports one change. -/
theorem Insertion.putsBetween_of_intoSet {insertion : Insertion} {sampler : Sampler}
    {generator : Generator} {set next : RecordSet} {report : Report}
    (hsample : insertion.filter.sampleSize = none) (hinserts : insertion.replaces = false)
    (h : insertion.intoSet sampler generator set = (.ok report, next)) :
    report = ⟨1, []⟩ ∧ ∃ before behind, set.entries = before ++ behind ∧
      insertion.filter.PutsBetween set before behind ∧
      next = ⟨set.descriptor,
        before ++ .record (set.completed generator insertion.record) :: behind⟩ := by
  have hinto : insertion.intoSet sampler generator set =
      set.insertGenerated generator insertion.record
        (if insertion.filter.isUnrestricted then none
          else (insertion.filter.matching set).head?) := by
    rw [intoSet, hinserts, Filter.targets, Filter.sample_eq_self _ _ hsample]
    split
    · rfl
    · rfl
  rw [hinto] at h
  obtain ⟨before, behind, hentries, hputs, hinsert⟩ :=
    set.insertBefore_putsBetween insertion.filter (set.completed generator insertion.record)
  obtain ⟨hreport, hnext⟩ := RecordSet.insertGenerated_eq_ok h
  exact ⟨hreport, before, behind, hentries, hputs, hnext.trans hinsert⟩

namespace Database

/-- An insertion that draws no sample and replaces nothing, if it succeeds in a database that has
sets, adds one record to the set that the filter resolves to. The record has the automatic fields
that it lacks in front of its own items. It stands before the first record that matches the filter,
or at the end when the filter is unrestricted or no record matches. Nothing else changes, and one
change is reported. -/
theorem insert_puts_between {db after : Database} {sampler : Sampler} {generator : Generator}
    {insertion : Insertion} {report : Report} (hsets : db.sets ≠ [])
    (hsample : insertion.filter.sampleSize = none) (hinserts : insertion.replaces = false)
    (h : db.insert sampler generator insertion = ⟨.ok report, after⟩) :
    report = ⟨1, []⟩ ∧ ∃ front set back before behind,
      db.sets = front ++ set :: back ∧
      db.resolve insertion.filter.type = .ok (some front.length) ∧
      set.entries = before ++ behind ∧ insertion.filter.PutsBetween set before behind ∧
      after.prologue = db.prologue ∧
      after.sets = front ++ ⟨set.descriptor, before ++ .record { insertion.record with
        items := (set.generatedFields generator insertion.record).map .field ++
          insertion.record.items } :: behind⟩ :: back := by
  obtain ⟨-, ⟨hnil, -⟩ | ⟨position, set, next, hresolve, hset, hinto, rfl⟩⟩ := insert_cases h
  · exact absurd hnil hsets
  · obtain ⟨hreport, before, behind, hentries, hputs, rfl⟩ :=
      Insertion.putsBetween_of_intoSet hsample hinserts hinto
    obtain ⟨hlt, hget⟩ := List.getElem?_eq_some_iff.1 hset
    have hlength : (db.sets.take position).length = position :=
      List.length_take_of_le (Nat.le_of_lt hlt)
    refine ⟨hreport, db.sets.take position, set, db.sets.drop (position + 1), before, behind,
      ?_, ?_, hentries, hputs, rfl, ?_⟩
    · rw [← hget, List.getElem_cons_drop, List.take_append_drop]
    · rw [hlength, hresolve]
    · rw [replaceSet, List.set_eq_take_append_cons_drop, if_pos hlt]
      rfl

/-- Two numbered records, each with a comment before it, behind a set without a type. -/
def numberedPair : Database where
  prologue := []
  sets := [
    { entries := [.record ⟨[.field ⟨"Name", "b"⟩], none⟩] },
    { descriptor := some ⟨[.field ⟨"%rec", "T"⟩, .field ⟨"%type", "Id int"⟩,
        .field ⟨"%auto", "Id"⟩], none⟩
      entries := [.comment "one", .record ⟨[.field ⟨"Id", "9"⟩, .field ⟨"Name", "a"⟩], none⟩,
        .comment "two", .record ⟨[.field ⟨"Id", "4"⟩, .field ⟨"Name", "b"⟩], none⟩] }]

/-- A record that is inserted before the second one stands behind the comment that precedes it, and
has the next number. -/
theorem insert_puts_between_numberedPair :
    let record : Record := ⟨[.comment "new", .field ⟨"Name", "c"⟩], none⟩
    let insertion : Insertion := { filter := { type := some "T", part := some "Name: b" }, record }
    let outcome := numberedPair.insert .first ⟨fun _ => "", ""⟩ insertion
    numberedPair.sets ≠ [] ∧ insertion.filter.sampleSize = none ∧ insertion.replaces = false ∧
      outcome.result = .ok ⟨1, []⟩ ∧
      (∃ front set back before behind, numberedPair.sets = front ++ set :: back ∧
        set.entries = before ++ behind ∧ insertion.filter.PutsBetween set before behind ∧
        outcome.database.sets = front ++ ⟨set.descriptor, before ++
          .record ⟨.field ⟨"Id", "10"⟩ :: record.items, none⟩ :: behind⟩ :: back) ∧
      outcome.database.sets.map (·.entries.map Entry.comment?) =
        [[none], [some "one", none, some "two", none, none]] := by
  intro record insertion outcome
  have hresult : outcome.result = .ok ⟨1, []⟩ := toOption_eq_some_iff.1 (by decide +kernel)
  have houtcome : outcome = ⟨.ok ⟨1, []⟩, outcome.database⟩ := by rw [← hresult]
  have hresolve : numberedPair.resolve insertion.filter.type = .ok (some 1) :=
    toOption_eq_some_iff.1 (by decide +kernel)
  have hsets : numberedPair.sets ≠ [] := by decide
  obtain ⟨-, front, set, back, before, behind, hbefore, hplace, hentries, hputs, -, hafter⟩ :=
    insert_puts_between hsets rfl rfl houtcome
  have hlength : front.length = 1 := Option.some.inj (Except.ok.inj (hplace.symm.trans hresolve))
  refine ⟨hsets, rfl, rfl, hresult,
    ⟨front, set, back, before, behind, hbefore, hentries, hputs, ?_⟩, by decide +kernel⟩
  obtain rfl : set = numberedPair.sets.tail.headD {} := by
    rw [hbefore]
    obtain ⟨first, rfl⟩ := List.length_eq_one_iff.1 hlength
    rfl
  have hgenerated : (numberedPair.sets.tail.headD {}).generatedFields ⟨fun _ => "", ""⟩ record =
      [⟨"Id", "10"⟩] := by decide +kernel
  rw [hgenerated] at hafter
  exact hafter

end Database

end TextRecords
