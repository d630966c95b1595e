import Mathlib.Data.List.Forall2
import TextRecords.Proofs.Batch.Step
import TextRecords.Proofs.Lists
import TextRecords.Proofs.Positions

/-!
# Removing records in a batch

A batch goes through the positions to remove from the highest to the lowest, so the positions that
are left stay those of the same records. It retires records as long as the set has more of them than
it must have, and rejects the positions that are left then (`Batch.foldl_removeOne`). So of
ascending positions the last ones go and the first ones are reported (`Batch.remove_start`).

Of the records, exactly those at the positions that are gone through are retired
(`RecordSet.records_retireAll`). A record that is commented out leaves a comment that holds its text
in its place, and all other entries stay (`Entry.Retires`).
-/

namespace TextRecords

/-- The text of a record, with no newline at its end. -/
def Record.joined (record : Record) : String :=
  .ofList (Text.joinLines record.lines)

/-- The report of a removal that gives up the records at some positions and rejects others, since
the set has as few records as it may have. -/
def Report.ofRemoval (least : Nat) (kept gone : List Nat) : Report where
  changed := gone.length
  failures := kept.map (Failure.mk · (.tooFewRecords least))

namespace Entry

/-- What commenting out makes of an entry: it stays, or it is a record and becomes a comment that
holds its text. -/
def Retires (before after : Entry) : Prop :=
  after = before ∨ ∃ record, before = .record record ∧ after = .comment record.joined

/-- Entries that are retired from some stay so when one more record is commented out. -/
theorem forall₂_retires_substitute {before after : List Entry}
    (h : List.Forall₂ Retires before after) (position : Nat) :
    List.Forall₂ Retires before
      (substitute (fun record => [.comment record.joined]) position after) := by
  induction h generalizing position with
  | nil => exact .nil
  | @cons first next before after hfirst hrest ih =>
    cases next with
    | comment text => exact .cons hfirst (ih position)
    | record record =>
      -- What is a record still has stayed as it was.
      have hsame : first = .record record := by
        rcases hfirst with hsame | ⟨other, -, hcomment⟩
        · exact hsame.symm
        · exact absurd hcomment nofun
      cases position with
      | zero => exact .cons (.inr ⟨record, hsame, rfl⟩) hrest
      | succ position => exact .cons hfirst (ih position)

end Entry

namespace RecordSet

variable {set : RecordSet} {commentsOut : Bool}

/-- A position below one that is retired is still that of a record. -/
theorem lt_size_retireAt {position other : Nat} (h : position < set.size) (commentsOut : Bool)
    (hlower : other < position) : other < (set.retireAt commentsOut position).size := by
  have hsize := size_retireAt h commentsOut
  omega

/-- An entry of a set with a record retired is one from before, or the comment that holds the text
of a record. -/
theorem mem_entries_retireAt {position : Nat} {entry : Entry}
    (h : entry ∈ (set.retireAt commentsOut position).entries) :
    entry ∈ set.entries ∨
      ∃ record, .record record ∈ set.entries ∧ entry = .comment record.joined := by
  unfold retireAt at h
  split at h
  · exact (Entry.mem_substitute h).imp_right fun ⟨record, hrecord, hentry⟩ =>
      ⟨record, hrecord, List.mem_singleton.1 hentry⟩
  · exact (Entry.mem_substitute h).imp_right fun ⟨record, _, hentry⟩ =>
      absurd hentry List.not_mem_nil

/-- A set with the records at some positions retired, one after another. -/
def retireAll (set : RecordSet) (commentsOut : Bool) (positions : List Nat) : RecordSet :=
  positions.foldl (fun set position => set.retireAt commentsOut position) set

/-- What retiring one record preserves is preserved by retiring several. -/
theorem retireAll_preserves {P : RecordSet → Prop}
    (hstep : ∀ set position, P set → P (set.retireAt commentsOut position)) (h : P set)
    (positions : List Nat) : P (set.retireAll commentsOut positions) := by
  rw [retireAll]
  induction positions generalizing set with
  | nil => exact h
  | cons position rest ih => exact ih (hstep set position h)

/-- Retiring the records at descending positions leaves the records at all others. -/
theorem records_retireAll {positions : List Nat} (h : positions.Pairwise (· > ·))
    (hlt : ∀ position ∈ positions, position < set.size) :
    (set.retireAll commentsOut positions).records =
      elementsAt (fun position => !positions.contains position) set.records := by
  induction positions generalizing set with
  | nil => exact (elementsAt_of_forall (fun _ => rfl) _).symm
  | cons position rest ih =>
    obtain ⟨hbelow, hrest⟩ := List.pairwise_cons.1 h
    have hposition : position < set.size := hlt position List.mem_cons_self
    have hrecord : set.record? position = some set.records[position] :=
      List.getElem?_eq_getElem hposition
    -- The positions that are left lie below, so they are still positions of records.
    have hrestLt : ∀ other ∈ rest, other < (set.retireAt commentsOut position).size :=
      fun other hother => lt_size_retireAt hposition commentsOut (hbelow other hother)
    have hkept : ∀ other, position ≤ other → (!rest.contains other) = true := by
      intro other hle
      rw [Bool.not_eq_true', List.contains_eq_mem, decide_eq_false_iff_not]
      exact fun hmem => Nat.not_lt_of_le hle (hbelow other hmem)
    have herased : (set.retireAt commentsOut position).records = set.records.eraseIdx position := by
      rw [records_retireAt hrecord, List.eraseIdx_eq_take_drop_succ]
    have hall : set.retireAll commentsOut (position :: rest) =
        (set.retireAt commentsOut position).retireAll commentsOut rest := rfl
    rw [hall, ih hrest hrestLt, herased, elementsAt_eraseIdx hkept]
    simp only [List.contains_cons, Bool.not_or, bne]

end RecordSet

namespace Batch

/-- Positions that are listed in any order, with repetitions or without, are gone through from the
highest to the lowest, each once. -/
theorem descending_eq_reverse {positions listed : List Nat} (h : positions.Pairwise (· < ·))
    (hlisted : ∀ position, position ∈ listed ↔ position ∈ positions) :
    descending listed = positions.reverse := by
  have hperm : positions.reverse.Perm listed.eraseDups := by
    have hnodup : positions.reverse.Nodup := List.pairwise_reverse.2 (h.imp Nat.ne_of_gt)
    refine (List.perm_ext_iff_of_nodup hnodup (nodup_eraseDups listed)).2 fun position => ?_
    rw [List.mem_reverse, List.mem_eraseDups, hlisted]
  refine mergeSort_eq_of_perm (fun a b c hab hbc => ?_) (fun a b => ?_)
    (fun a _ b _ hab hba => ?_) ?_ hperm
  · rw [decide_eq_true_eq] at hab hbc ⊢
    exact Nat.le_trans hbc hab
  · rw [Bool.or_eq_true, decide_eq_true_eq, decide_eq_true_eq]
    exact Nat.le_total b a
  · exact Nat.le_antisymm (of_decide_eq_true hba) (of_decide_eq_true hab)
  · rw [List.pairwise_reverse]
    exact h.imp fun hlt => decide_eq_true (Nat.le_of_lt hlt)

variable (commentsOut : Bool)

/-- A set with as few records as it may have rejects that one is removed. -/
theorem removeOne_of_size_le {batch : Batch} {position : Nat} (h : position < batch.set.size)
    (hleast : batch.set.size ≤ batch.least) :
    removeOne commentsOut batch position =
      batch.reject position (.tooFewRecords batch.least) := by
  have hrecord : batch.set.record? position = some batch.set.records[position] :=
    List.getElem?_eq_getElem h
  rw [removeOne, hrecord]
  exact if_pos hleast

/-- A set with more records than it must have loses the one that is removed. -/
theorem removeOne_of_lt_size {batch : Batch} {position : Nat} (h : position < batch.set.size)
    (hleast : batch.least < batch.set.size) :
    ∃ keys, removeOne commentsOut batch position =
      batch.commit (batch.set.retireAt commentsOut position) keys := by
  have hrecord : batch.set.record? position = some batch.set.records[position] :=
    List.getElem?_eq_getElem h
  rw [removeOne, hrecord]
  exact ⟨_, if_neg (Nat.not_le_of_lt hleast)⟩

/-- Going through descending positions of records retires the first of them, as long as the set has
more records than it must have, and rejects the others. -/
theorem foldl_removeOne {positions : List Nat} (h : positions.Pairwise (· > ·)) (batch : Batch)
    (hlt : ∀ position ∈ positions, position < batch.set.size) :
    ∃ gone kept, positions = gone ++ kept ∧
      gone.length = min positions.length (batch.set.size - batch.least) ∧
      (positions.foldl (removeOne commentsOut) batch).set =
        batch.set.retireAll commentsOut gone ∧
      (positions.foldl (removeOne commentsOut) batch).report =
        ⟨batch.report.changed + gone.length,
          batch.report.failures ++ kept.map (Failure.mk · (.tooFewRecords batch.least))⟩ := by
  induction positions generalizing batch with
  | nil => exact ⟨[], [], rfl, (Nat.zero_min _).symm, rfl, by simp⟩
  | cons position rest ih =>
    obtain ⟨hbelow, hrest⟩ := List.pairwise_cons.1 h
    rw [List.forall_mem_cons] at hlt
    rw [List.foldl_cons]
    by_cases hleast : batch.set.size ≤ batch.least
    · rw [removeOne_of_size_le commentsOut hlt.1 hleast]
      obtain ⟨gone, kept, rfl, hlength, hset, hreport⟩ :=
        ih hrest (batch.reject position (.tooFewRecords batch.least)) hlt.2
      -- The set stays as it is, so nothing is retired after the first rejection either.
      have hzero : batch.set.size - batch.least = 0 := Nat.sub_eq_zero_of_le hleast
      have hleastSame : (batch.reject position (.tooFewRecords batch.least)).least =
          batch.least := rfl
      rw [hleastSame] at hlength hreport
      simp only [reject, hzero, Nat.min_zero, List.length_eq_zero_iff] at hlength hset hreport
      subst hlength
      refine ⟨[], position :: kept, rfl, ?_, hset, ?_⟩
      · rw [hzero, Nat.min_zero, List.length_nil]
      · rw [reject, hreport, List.append_assoc, List.map_cons, List.singleton_append]
    · obtain ⟨keys, hcommit⟩ :=
        removeOne_of_lt_size commentsOut hlt.1 (Nat.lt_of_not_le hleast)
      have hleastSame : (batch.commit (batch.set.retireAt commentsOut position) keys).least =
          batch.least := by
        rw [least, commit, RecordSet.schema_retireAt, least]
      have hsize := RecordSet.size_retireAt hlt.1 commentsOut
      obtain ⟨gone, kept, rfl, hlength, hset, hreport⟩ :=
        ih hrest (batch.commit (batch.set.retireAt commentsOut position) keys) fun other hother =>
          RecordSet.lt_size_retireAt hlt.1 commentsOut (hbelow other hother)
      rw [hleastSame] at hlength hreport
      rw [hcommit]
      simp only [commit] at hlength hset hreport ⊢
      refine ⟨position :: gone, kept, rfl, ?_, hset, ?_⟩
      · rw [List.length_cons, hlength, List.length_cons]
        omega
      · rw [hreport, List.length_cons, Nat.add_right_comm, Nat.add_assoc]

/-- Failures of one kind are reported in the order of their positions. -/
theorem mergeSort_failures {positions : List Nat} (h : positions.Pairwise (· > ·))
    (objection : Objection) :
    (positions.map (Failure.mk · objection)).mergeSort (fun a b => a.position ≤ b.position) =
      positions.reverse.map (Failure.mk · objection) := by
  refine mergeSort_eq_of_perm (fun a b c hab hbc => ?_) (fun a b => ?_)
    (fun a ha b hb hab hba => ?_) ?_ ((List.reverse_perm positions).map _)
  · rw [decide_eq_true_eq] at hab hbc ⊢
    exact Nat.le_trans hab hbc
  · rw [Bool.or_eq_true, decide_eq_true_eq, decide_eq_true_eq]
    exact Nat.le_total a.position b.position
  · -- The failures have one objection, so those at one position are the same.
    obtain ⟨first, -, rfl⟩ := List.mem_map.1 ha
    obtain ⟨other, -, rfl⟩ := List.mem_map.1 hb
    have hsame : first = other :=
      Nat.le_antisymm (of_decide_eq_true hab) (of_decide_eq_true hba)
    rw [hsame]
  · rw [List.pairwise_map, List.pairwise_reverse]
    exact h.imp fun hgt => decide_eq_true (Nat.le_of_lt hgt)

/-- Of ascending positions of records, however they are listed, the last ones are retired, as long
as the set has more records than it must have, and the first ones are reported. -/
theorem remove_start (set : RecordSet) {positions listed : List Nat}
    (h : positions.Pairwise (· < ·)) (hlt : ∀ position ∈ positions, position < set.size)
    (hlisted : ∀ position, position ∈ listed ↔ position ∈ positions) :
    ∃ kept gone, positions = kept ++ gone ∧
      gone.length = min positions.length (set.size - (start set).least) ∧
      ((start set).remove listed commentsOut).set =
        set.retireAll commentsOut gone.reverse ∧
      ((start set).remove listed commentsOut).finish =
        Report.ofRemoval (start set).least kept gone := by
  obtain ⟨gone, kept, hsplit, hlength, hset, hreport⟩ := foldl_removeOne commentsOut
    (List.pairwise_reverse.2 h) (start set) fun position hposition =>
      hlt position (List.mem_reverse.1 hposition)
  rw [← descending_eq_reverse h hlisted, ← remove] at hset hreport
  refine ⟨kept.reverse, gone.reverse, ?_, ?_, ?_, ?_⟩
  · rw [← List.reverse_append, ← hsplit, List.reverse_reverse]
  · rw [List.length_reverse, hlength, List.length_reverse]
    rfl
  · rw [hset, List.reverse_reverse]
    rfl
  · have hkept : kept.Pairwise (· > ·) := by
      have hdescending : positions.reverse.Pairwise (· > ·) := List.pairwise_reverse.2 h
      rw [hsplit] at hdescending
      exact (List.pairwise_append.1 hdescending).2.1
    rw [finish, hreport, Report.ofRemoval, List.length_reverse, ← mergeSort_failures hkept]
    simp only [start, List.nil_append, Nat.zero_add]

end Batch

end TextRecords
