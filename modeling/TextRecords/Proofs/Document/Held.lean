import TextRecords.Proofs.Document.Additions

/-!
# The records that an assembly holds

`Assembly.Holds` says which records the sets of an assembly hold together, in order within each set.
A block that is a record adds the record behind those that are held, whichever set it goes to, and
every other block adds none (`Assembly.Holds.add`). So no record is lost or added twice, also when
a set is gone on with after others.
-/

namespace TextRecords.Document.Assembly

/-- Some records are all that an assembly holds, each in one of the sets, and in order within each
set. -/
structure Holds (assembly : Assembly) (records : List Record) : Prop where
  perm : (assembly.database.sets.flatMap RecordSet.records).Perm records
  sublist : ∀ set ∈ assembly.database.sets, set.records.Sublist records
  current : assembly.database.sets ≠ [] → assembly.current < assembly.database.sets.length

variable {assembly next : Assembly} {records : List Record}

/-- At the start nothing is held. -/
theorem Holds.empty : Holds {} [] where
  perm := .refl _
  sublist := List.forall_mem_nil _
  current hne := absurd rfl hne

/-- A set that is changed into one with some more records. -/
theorem Holds.change (h : assembly.Holds records) {before after : List RecordSet}
    {set changed : RecordSet} {added : List Record}
    (hsets : assembly.database.sets = before ++ set :: after)
    (hnext : next.database.sets = before ++ changed :: after)
    (hchanged : changed.records = set.records ++ added)
    (hcurrent : next.current = before.length) : next.Holds (records ++ added) where
  perm := by
    have hperm := h.perm
    rw [hsets, List.flatMap_append, List.flatMap_cons] at hperm
    rw [hnext, List.flatMap_append, List.flatMap_cons, hchanged]
    -- The records that are added go behind those of the sets that follow.
    have hbehind : (added ++ after.flatMap RecordSet.records).Perm
        (after.flatMap RecordSet.records ++ added) := List.perm_append_comm
    have hmoved := hbehind.append_left (before.flatMap RecordSet.records ++ set.records)
    have hall := hperm.append_right added
    simp only [List.append_assoc] at hmoved hall ⊢
    exact hmoved.trans hall
  sublist := by
    have hsublist := h.sublist
    rw [hsets, List.forall_mem_append, List.forall_mem_cons] at hsublist
    rw [hnext, List.forall_mem_append, List.forall_mem_cons, hchanged]
    exact ⟨fun set hset => List.sublist_append_of_sublist_left (hsublist.1 set hset),
      hsublist.2.1.append (.refl added),
      fun set hset => List.sublist_append_of_sublist_left (hsublist.2.2 set hset)⟩
  current _ := by
    rw [hcurrent, hnext, List.length_append, List.length_cons]
    exact Nat.lt_add_of_pos_right (Nat.succ_pos _)

/-- An entry of the current set. -/
theorem Holds.modify (h : assembly.Holds records) (hne : assembly.database.sets ≠ [])
    (entry : Entry)
    (hnext : next.database.sets =
      assembly.database.sets.modify assembly.current (·.push entry))
    (hcurrent : next.current = assembly.current) :
    next.Holds (records ++ entry.record?.toList) := by
  obtain ⟨before, set, after, hsets, hlength, hmodify⟩ :=
    List.exists_of_modify (fun set : RecordSet => set.push entry) (h.current hne)
  rw [hmodify] at hnext
  exact h.change hsets hnext (set.records_push entry) (hcurrent.trans hlength.symm)

/-- A comment adds no record. -/
theorem Holds.addComment (h : assembly.Holds records) (text : String) :
    (assembly.addComment text).Holds records := by
  by_cases hsets : assembly.database.sets = []
  · have hsame : (assembly.addComment text).database.sets = assembly.database.sets := by
      simp [Assembly.addComment, hsets]
    exact ⟨by rw [hsame]; exact h.perm, by rw [hsame]; exact h.sublist,
      fun hne => absurd (hsame.trans hsets) hne⟩
  · have hmodify : (assembly.addComment text).Holds (records ++ []) :=
      h.modify hsets (.comment text) (by simp [Assembly.addComment, hsets])
        (by simp [Assembly.addComment, hsets])
    rwa [List.append_nil] at hmodify

/-- A record is added behind those of its set. -/
theorem Holds.addRecord (h : assembly.Holds records) (record : Record) :
    (assembly.addRecord record).Holds (records ++ [record]) := by
  by_cases hsets : assembly.database.sets = []
  · have hnone : records = [] := by
      have hperm := h.perm
      rw [hsets] at hperm
      exact hperm.nil_eq.symm
    have hnext : (assembly.addRecord record).database.sets =
        [(RecordSet.ofComments assembly.database.prologue).push (.record record)] := by
      simp [Assembly.addRecord, hsets, RecordSet.ofComments, RecordSet.push]
    have hrecords : ((RecordSet.ofComments assembly.database.prologue).push
        (.record record)).records = [record] := by
      rw [RecordSet.records_push, RecordSet.records_ofComments]
      rfl
    have hcurrent : (assembly.addRecord record).current = 0 := by
      simp [Assembly.addRecord, hsets]
    rw [hnone]
    refine ⟨?_, ?_, fun _ => ?_⟩
    · rw [hnext, List.flatMap_singleton, hrecords]
      exact .refl _
    · rw [hnext, List.forall_mem_singleton, hrecords]
      exact .refl _
    · rw [hcurrent, hnext]
      exact Nat.zero_lt_one
  · exact h.modify hsets (.record record) (by simp [Assembly.addRecord, hsets])
      (by simp [Assembly.addRecord, hsets])

/-- A new set without records, which is the current one then. -/
theorem Holds.append (h : assembly.Holds records) {set : RecordSet} (hnone : set.records = [])
    (hnext : next.database.sets = assembly.database.sets ++ [set])
    (hcurrent : next.current = assembly.database.sets.length) : next.Holds records where
  perm := by
    rw [hnext, List.flatMap_append, List.flatMap_singleton, hnone, List.append_nil]
    exact h.perm
  sublist := by
    rw [hnext, List.forall_mem_append, List.forall_mem_singleton, hnone]
    exact ⟨h.sublist, List.nil_sublist _⟩
  current _ := by
    rw [hcurrent, hnext, List.length_append]
    exact Nat.lt_succ_self _

/-- A set that is replaced by one with the same records, which is the current one then. -/
theorem Holds.replaceSet (h : assembly.Holds records) {position : Nat} {set changed : RecordSet}
    (hset : assembly.database.set? position = some set) (hsame : changed.records = set.records) :
    Holds ⟨assembly.database.replaceSet position changed, position⟩ records := by
  obtain ⟨hlt, hget⟩ := List.getElem?_eq_some_iff.1 hset
  obtain ⟨before, after, hsets, hlength, hreplace⟩ : ∃ before after,
      assembly.database.sets = before ++ assembly.database.sets[position] :: after ∧
        before.length = position ∧
          assembly.database.sets.set position changed = before ++ changed :: after :=
    List.exists_of_set hlt
  rw [hget] at hsets
  have hchange : Holds ⟨assembly.database.replaceSet position changed, position⟩ (records ++ []) :=
    h.change hsets hreplace (hsame.trans (List.append_nil _).symm) hlength.symm
  rwa [List.append_nil] at hchange

/-- A descriptor adds no record. -/
theorem Holds.addDescriptor (h : assembly.Holds records) {type : String} {descriptor : Record}
    (hadd : assembly.addDescriptor type descriptor = .ok next) : next.Holds records := by
  rw [Assembly.addDescriptor] at hadd
  cases hposition : assembly.database.typePosition? type with
  | none =>
    simp only [hposition] at hadd
    obtain rfl := Except.ok.inj hadd
    exact h.append rfl rfl rfl
  | some position =>
    obtain ⟨set, hfound, hset, -⟩ := Database.set?_of_typePosition? hposition
    simp only [hposition, hfound] at hadd
    split at hadd
    · obtain rfl := Except.ok.inj hadd
      exact h.replaceSet hset rfl
    · cases hadd

/-- What a block adds: itself if it is a record, and no record otherwise. -/
theorem Holds.add (h : assembly.Holds records) {block : Record}
    (hadd : assembly.add block = .ok next) :
    next.Holds (records ++ [block].filter Record.isData) := by
  have hnone (hdata : block.isData = false) : [block].filter Record.isData = [] := by
    rw [List.filter_singleton, hdata]
    rfl
  cases addsAs block with
  | comment text hfields hcomment =>
    have hdata : block.isData = false := by rw [Record.isData, hfields]; rfl
    rw [hnone hdata, List.append_nil]
    rw [hcomment] at hadd
    rw [← Except.ok.inj hadd]
    exact h.addComment text
  | record hdata hrecord =>
    rw [List.filter_singleton, hdata]
    rw [hrecord] at hadd
    rw [← Except.ok.inj hadd]
    exact h.addRecord block
  | descriptor type htype hdescriptor =>
    have hdata : block.isData = false := by
      rw [Bool.eq_false_iff]
      intro hdata
      rw [Record.declaredType?_of_isData hdata] at htype
      cases htype
    rw [hnone hdata, List.append_nil]
    rw [hdescriptor] at hadd
    exact h.addDescriptor hadd
  | fault htype hfault =>
    rw [hfault] at hadd
    cases hadd

end TextRecords.Document.Assembly
