import TextRecords.Proofs.Batch.Removal
import TextRecords.Proofs.Text.Cut

/-!
# What a removal leaves

The entries that are left when some records of a set are retired are told by the positions of these
records alone (`Entry.without`): a record at one of them is left out, or is replaced by a comment
that holds its text, and every other entry stays where it is. Retiring records one after another
comes to that when the positions descend (`RecordSet.entries_retireAll`), since what happens at a
position moves no record before it.

So the effect of a removal is exact (`Batch.remove_exact`): the highest positions go, as many as the
set can do without, the others are reported from the lowest on, and the order and the repetitions of
the listed positions make no difference.
-/

namespace TextRecords

/-- The text of a record by itself is its written text without the newline at the end. -/
theorem Record.joined_eq (record : Record) :
    record.joined = .ofList (Text.dropFinal '\n' record.text.toList) := by
  have htext : record.text.toList = Text.endLines record.lines := String.toList_ofList
  rw [joined, htext]
  by_cases hlines : record.lines = []
  · rw [hlines]
    rfl
  · -- Only a record without items has no lines, so a newline ends the text.
    have hlast : (Text.joinLines record.lines ++ ['\n']).getLast? = some '\n' :=
      List.getLast?_concat
    rw [Text.endLines_eq hlines, Text.dropFinal, if_pos hlast, List.dropLast_concat]

namespace Entry

/-- What a record leaves in its place when it is retired: nothing, or a comment that holds its text
without the newline at the end. -/
def remains (commentsOut : Bool) (record : Record) : List Entry :=
  if commentsOut then [.comment (.ofList (Text.dropFinal '\n' record.text.toList))] else []

/-- Entries with some of the records retired. Which ones is told by their positions among the
records. -/
def without (commentsOut : Bool) (goes : Nat → Bool) : List Entry → List Entry
  | [] => []
  | comment text :: rest => comment text :: without commentsOut goes rest
  | record r :: rest =>
    (if goes 0 then remains commentsOut r else [record r]) ++
      without commentsOut (fun position => goes (position + 1)) rest

variable (commentsOut : Bool)

/-- Entries of which no record goes stay as they are. -/
theorem without_of_forall_not {goes : Nat → Bool} (h : ∀ position, goes position = false)
    (entries : List Entry) : without commentsOut goes entries = entries := by
  induction entries generalizing goes with
  | nil => rfl
  | cons entry rest ih =>
    cases entry with
    | comment text => rw [without, ih h]
    | record record =>
      have hstays : ¬ goes 0 = true := by
        rw [h 0]
        exact Bool.false_ne_true
      rw [without, if_neg hstays, ih fun position => h (position + 1), List.singleton_append]

/-- A record that is retired, and then others that stand before it. -/
theorem without_substitute {goes : Nat → Bool} {position : Nat}
    (h : ∀ other, position ≤ other → goes other = false) (entries : List Entry) :
    without commentsOut goes (substitute (remains commentsOut) position entries) =
      without commentsOut (fun other => other == position || goes other) entries := by
  -- The position goes down at records alone, and so does what is asked of the other positions.
  induction entries generalizing goes position with
  | nil => rfl
  | cons entry rest ih =>
    cases entry with
    | comment text => exact congrArg (comment text :: ·) (ih h)
    | record record =>
      cases position with
      | zero =>
        -- None of the others goes: they would have to stand before the first record.
        have hnone : ∀ other, goes other = false := fun other => h other (Nat.zero_le other)
        have hrest : ∀ other, (other + 1 == 0 || goes (other + 1)) = false :=
          fun other => hnone (other + 1)
        have hleft : without commentsOut goes
            (substitute (remains commentsOut) 0 (.record record :: rest)) =
              remains commentsOut record ++ rest :=
          without_of_forall_not commentsOut hnone _
        have hright : without commentsOut (fun other => other == 0 || goes other)
            (.record record :: rest) = remains commentsOut record ++ rest := by
          rw [without, without_of_forall_not commentsOut hrest]
          rfl
        rw [hleft, hright]
      | succ position =>
        have hfirst : (0 == position + 1 || goes 0) = goes 0 := rfl
        have hshift : ∀ other, (other + 1 == position + 1 || goes (other + 1)) =
            (other == position || goes (other + 1)) := by simp
        have hrest := ih fun other hother => h (other + 1) (Nat.succ_le_succ hother)
        unfold substitute
        rw [without, without, hrest, hfirst]
        simp only [hshift]

end Entry

namespace RecordSet

variable {set : RecordSet} (commentsOut : Bool)

/-- A retired record leaves its remains in its place. -/
theorem entries_retireAt (position : Nat) :
    (set.retireAt commentsOut position).entries =
      Entry.substitute (Entry.remains commentsOut) position set.entries := by
  cases commentsOut with
  | false => rfl
  | true =>
    have hremains : Entry.remains true = fun record => [.comment record.joined] := by
      funext record
      rw [record.joined_eq]
      rfl
    rw [hremains]
    rfl

/-- Retiring the records at descending positions leaves the entries without these records. -/
theorem entries_retireAll {positions : List Nat} (h : positions.Pairwise (· > ·)) :
    (set.retireAll commentsOut positions).entries =
      Entry.without commentsOut positions.contains set.entries := by
  induction positions generalizing set with
  | nil => exact (Entry.without_of_forall_not commentsOut (fun _ => rfl) set.entries).symm
  | cons position rest ih =>
    obtain ⟨hbelow, hrest⟩ := List.pairwise_cons.1 h
    have hkept : ∀ other, position ≤ other → rest.contains other = false := by
      intro other hle
      rw [List.contains_eq_mem, decide_eq_false_iff_not]
      exact fun hmem => Nat.not_lt_of_le hle (hbelow other hmem)
    have hcontains : (fun other => other == position || rest.contains other) =
        (position :: rest).contains := funext fun other => List.contains_cons.symm
    calc (set.retireAll commentsOut (position :: rest)).entries
        = ((set.retireAt commentsOut position).retireAll commentsOut rest).entries := rfl
      _ = Entry.without commentsOut rest.contains (set.retireAt commentsOut position).entries :=
          ih hrest
      _ = Entry.without commentsOut (fun other => other == position || rest.contains other)
            set.entries := by
          rw [entries_retireAt, Entry.without_substitute commentsOut hkept]
      _ = Entry.without commentsOut (position :: rest).contains set.entries := by
          rw [hcontains]

/-- A set with some of its records retired. Which ones is told by their positions. -/
def without (set : RecordSet) (commentsOut : Bool) (positions : List Nat) : RecordSet :=
  { set with entries := Entry.without commentsOut positions.contains set.entries }

/-- Retiring the records at descending positions leaves the set without these records. -/
theorem retireAll_eq {positions : List Nat} (h : positions.Pairwise (· > ·)) :
    set.retireAll commentsOut positions = set.without commentsOut positions := by
  have hdescriptor : (set.retireAll commentsOut positions).descriptor = set.descriptor :=
    retireAll_preserves (P := (·.descriptor = set.descriptor))
      (fun after position hafter => (after.descriptor_retireAt _ position).trans hafter) rfl _
  have hentries : (set.retireAll commentsOut positions).entries =
      Entry.without commentsOut positions.contains set.entries := entries_retireAll commentsOut h
  unfold without
  rw [← hentries, ← hdescriptor]

end RecordSet

namespace Batch

/-- The exact effect of a removal. The positions to remove ascend, and are listed in any order, with
repetitions or without. The highest of them are removed, as many as the set has records beyond the
least number: these records are left out or become comments that hold their text, and all other
entries stay as they are. The removed records are counted, and the lowest positions are reported in
their order, each for a broken rule of the set. -/
theorem remove_exact (set : RecordSet) (commentsOut : Bool) {positions listed : List Nat}
    (hascending : positions.Pairwise (· < ·)) (hlt : ∀ position ∈ positions, position < set.size)
    (hlisted : ∀ position, position ∈ listed ↔ position ∈ positions) :
    let least := (set.schema.size.bind SizeRule.least?).getD 0
    let removed := min positions.length (set.size - least)
    let kept := positions.length - removed
    let batch := (start set).remove listed commentsOut
    batch.set = set.without commentsOut (positions.drop kept) ∧
      batch.finish.changed = removed ∧
      batch.finish.failures = (positions.take kept).map (Failure.mk · (.tooFewRecords least)) ∧
      ∀ failure ∈ batch.finish.failures,
        (Fault.rejected failure.objection).kind = .constraintViolation := by
  intro least removed kept batch
  obtain ⟨below, gone, hsplit, hcount, hset, hreport⟩ :=
    remove_start commentsOut set hascending hlt hlisted
  -- The positions are cut where the number of the removed ones says.
  have hgone : gone.length = removed := hcount
  have hbelow : below.length = kept := by
    have hlength := congrArg List.length hsplit
    rw [List.length_append] at hlength
    omega
  have htake : positions.take kept = below := by rw [hsplit, ← hbelow, List.take_left]
  have hdrop : positions.drop kept = gone := by rw [hsplit, ← hbelow, List.drop_left]
  have hdescending : gone.reverse.Pairwise (· > ·) := by
    rw [hsplit] at hascending
    exact List.pairwise_reverse.2 (List.pairwise_append.1 hascending).2.1
  refine ⟨?_, ?_, ?_, fun _ _ => rfl⟩
  · have hcontains : gone.reverse.contains = gone.contains :=
      funext fun position => List.contains_reverse
    rw [hset, RecordSet.retireAll_eq commentsOut hdescending, hdrop, RecordSet.without, hcontains,
      RecordSet.without]
  · rw [hreport, ← hgone]
    rfl
  · rw [hreport, htake]
    rfl

/-- A set that needs two records has four, with comments between them. -/
def sizedSpecimen : RecordSet where
  descriptor := some ⟨[.field ⟨"%rec", "Item"⟩, .field ⟨"%size", ">= 2"⟩], none⟩
  entries :=
    [.record ⟨[.field ⟨"Id", "0"⟩], none⟩,
      .comment "first",
      .record ⟨[.field ⟨"Id", "1"⟩, .field ⟨"Note", "two\nlines"⟩], none⟩,
      .record ⟨[.field ⟨"Id", "2"⟩], none⟩,
      .comment "last",
      .record ⟨[.field ⟨"Id", "3"⟩], none⟩]

/-- Of three records that are to be commented out, listed out of order and one of them twice, the
last two become comments and the first one is reported. -/
theorem remove_exact_sizedSpecimen :
    let batch := (start sizedSpecimen).remove [3, 0, 3, 1] true
    [0, 1, 3].Pairwise (· < ·) ∧ (∀ position ∈ [0, 1, 3], position < sizedSpecimen.size) ∧
      (∀ position, position ∈ [3, 0, 3, 1] ↔ position ∈ [0, 1, 3]) ∧
      batch.set.entries =
        [.record ⟨[.field ⟨"Id", "0"⟩], none⟩,
          .comment "first",
          .comment "Id: 1\nNote: two\n+ lines",
          .record ⟨[.field ⟨"Id", "2"⟩], none⟩,
          .comment "last",
          .comment "Id: 3"] ∧
      batch.finish = ⟨2, [⟨0, .tooFewRecords 2⟩]⟩ := by
  intro batch
  have hascending : [0, 1, 3].Pairwise (· < ·) := by decide
  have hlt : ∀ position ∈ [0, 1, 3], position < sizedSpecimen.size := by decide
  have hlisted : ∀ position, position ∈ [3, 0, 3, 1] ↔ position ∈ [0, 1, 3] := by simp; omega
  obtain ⟨hset, hchanged, hfailures, -⟩ :=
    remove_exact sizedSpecimen true hascending hlt hlisted
  refine ⟨hascending, hlt, hlisted, ?_, ?_⟩
  · rw [hset]
    decide +kernel
  · have hreport : batch.finish = ⟨batch.finish.changed, batch.finish.failures⟩ := rfl
    rw [hreport, hchanged, hfailures]
    decide +kernel

end Batch

end TextRecords
