import TextRecords.Document.Assembly
import TextRecords.Proofs.Fallible
import TextRecords.Proofs.Lists
import TextRecords.Proofs.Record.Fields

/-!
# Merged descriptors

A descriptor that is merged into one of the same type adds the declarations that are new, each once
and behind all others. It is refused when it declares anew what may be declared once
(`mergeDescriptor_cases`). Whether a field is new, and whether it is in conflict, depends on the
fields that are there when its turn comes: those of the first descriptor, and those of the second
one before it, whether they were added or not (`isRefused_cons`).

So the merged descriptor is the union of the two, and merging once more changes nothing
(`mergeDescriptor_unites`).
-/

namespace TextRecords

namespace Document

/-- A field declares anew what may be declared once: its name is among some fields, but not with its
value. -/
def Conflicts (fields : List Field) (field : Field) : Prop :=
  field.name ∈ Schema.singletonNames ∧ field ∉ fields ∧ ∃ other ∈ fields, other.name = field.name

instance (fields : List Field) (field : Field) : Decidable (Conflicts fields field) :=
  inferInstanceAs (Decidable (_ ∧ _ ∧ _))

/-- A field that comes in is in conflict with the ones before it: the fields that are there, or
those that came in earlier. -/
def IsRefused (fields incoming : List Field) (field : Field) : Prop :=
  ∃ before behind, incoming = before ++ field :: behind ∧ Conflicts (fields ++ before) field

/-- The fields that come in and are new to some fields, each once. The declaration of the type is
never new. -/
def newFields (fields incoming : List Field) : List Field :=
  (incoming.filter fun field => field.name != typeMarker && !fields.contains field).eraseDups

/-- Conflicts are among the fields that may be given once. -/
theorem conflicts_congr {fields others : List Field}
    (h : ∀ field : Field, field.name ∈ Schema.singletonNames → (field ∈ fields ↔ field ∈ others))
    (field : Field) : Conflicts fields field ↔ Conflicts others field := by
  refine and_congr_right fun hname => and_congr (not_congr (h field hname)) ?_
  refine exists_congr fun other => and_congr_left fun hsame => h other ?_
  rwa [hsame]

/-- No field is refused when none come in. -/
theorem not_isRefused_nil (fields : List Field) (field : Field) : ¬IsRefused fields [] field := by
  rintro ⟨before, behind, hnil, -⟩
  exact absurd hnil.symm (List.append_ne_nil_of_right_ne_nil _ (List.cons_ne_nil _ _))

/-- A field is refused as the first one, or as one behind it. -/
theorem isRefused_cons {fields incoming : List Field} {first field : Field} :
    IsRefused fields (first :: incoming) field ↔
      field = first ∧ Conflicts fields first ∨ IsRefused (fields ++ [first]) incoming field := by
  constructor
  · rintro ⟨before, behind, heq, hconflict⟩
    cases before with
    | nil =>
      obtain ⟨rfl, rfl⟩ := List.cons.inj heq
      rw [List.append_nil] at hconflict
      exact .inl ⟨rfl, hconflict⟩
    | cons head before =>
      obtain ⟨rfl, rfl⟩ := List.cons.inj heq
      rw [List.append_cons] at hconflict
      exact .inr ⟨before, behind, rfl, hconflict⟩
  · rintro (⟨rfl, hconflict⟩ | ⟨before, behind, rfl, hconflict⟩)
    · exact ⟨[], incoming, rfl, by rwa [List.append_nil]⟩
    · rw [← List.append_cons] at hconflict
      exact ⟨first :: before, behind, rfl, hconflict⟩

/-- A field that is dropped has no part in conflicts. -/
theorem isRefused_cons_of_dropped {fields incoming : List Field} {first : Field}
    (h : first.name = typeMarker ∨ first ∈ fields) (field : Field) :
    IsRefused fields (first :: incoming) field ↔ IsRefused fields incoming field := by
  have hmarker : typeMarker ∉ Schema.singletonNames := by decide
  have hfirst : ¬Conflicts fields first := by
    rintro ⟨hname, hnew, -⟩
    exact h.elim (fun heq => hmarker (heq ▸ hname)) hnew
  have hsame : ∀ before other, Conflicts (fields ++ [first] ++ before) other ↔
      Conflicts (fields ++ before) other := by
    refine fun before => conflicts_congr fun other hname => ?_
    have hother : other = first → other ∈ fields := by
      rintro rfl
      exact h.resolve_left fun heq => hmarker (heq ▸ hname)
    simp only [List.mem_append, List.mem_singleton]
    exact or_congr_left (or_iff_left_of_imp hother)
  rw [isRefused_cons, or_iff_right fun hself => hfirst hself.2]
  simp only [IsRefused, hsame]

/-- A field that is dropped is not new. -/
theorem newFields_cons_of_dropped {fields incoming : List Field} {field : Field}
    (h : field.name = typeMarker ∨ field ∈ fields) :
    newFields fields (field :: incoming) = newFields fields incoming := by
  rw [newFields, List.filter_cons_of_neg (by simpa [imp_iff_not_or] using h), newFields]

/-- A new field comes first. It is not new when it comes in again. -/
theorem newFields_cons_of_new {fields incoming : List Field} {field : Field}
    (hname : field.name ≠ typeMarker) (hnew : field ∉ fields) :
    newFields fields (field :: incoming) = field :: newFields (fields ++ [field]) incoming := by
  rw [newFields, List.filter_cons_of_pos (by simp [hname, hnew]), List.eraseDups_cons,
    List.filter_filter, newFields]
  congr 2
  refine List.filter_congr fun other _ => ?_
  rw [Bool.eq_iff_iff]
  simp only [Bool.and_eq_true, Bool.not_eq_true', ← Bool.not_eq_true, beq_iff_eq, bne_iff_ne,
    List.contains_iff_mem, List.mem_append, List.mem_singleton, not_or]
  tauto

/-- A field is new when it comes in, is not there, and does not declare the type. -/
theorem mem_newFields_iff {fields incoming : List Field} {field : Field} :
    field ∈ newFields fields incoming ↔
      field ∈ incoming ∧ field.name ≠ typeMarker ∧ field ∉ fields := by
  simp [newFields]

/-- Merging a field drops it, refuses it or puts it behind all others. -/
theorem mergeItem_field (type : String) (merged : Record) (field : Field) :
    mergeItem type merged (.field field) =
      if field.name = typeMarker ∨ field ∈ merged.fields then .ok merged
      else if Conflicts merged.fields field then
        .error (.conflictingDeclaration field.name type)
      else .ok { merged with items := merged.items ++ [.field field] } := by
  simp only [mergeItem, Bool.or_eq_true, beq_iff_eq, Record.holds_iff, Bool.and_eq_true,
    List.contains_iff_mem, Record.has_iff]
  split
  · rfl
  · next hkept =>
    have hnew : field ∉ merged.fields := fun hmem => hkept (.inr hmem)
    simp only [Conflicts, hnew, not_false_eq_true, true_and]

/-- Merging fields fails by the fault of one that is refused. If none is, it puts the new ones
behind what is there. -/
theorem mergeDescriptor_cases (type : String) (existing : Record) (incoming : List Field) :
    (∃ field, IsRefused existing.fields incoming field ∧
      mergeDescriptor type existing (incoming.map .field) =
        .error (.conflictingDeclaration field.name type)) ∨
    ((∀ field, ¬IsRefused existing.fields incoming field) ∧
      mergeDescriptor type existing (incoming.map .field) =
        .ok { existing with
          items := existing.items ++ (newFields existing.fields incoming).map .field }) := by
  induction incoming generalizing existing with
  | nil =>
    refine .inr ⟨not_isRefused_nil _, ?_⟩
    have hnone : newFields existing.fields [] = [] := rfl
    rw [hnone, List.map_nil, List.append_nil]
    rfl
  | cons first rest ih =>
    have hstep : mergeDescriptor type existing ((first :: rest).map .field) =
        mergeItem type existing (.field first) >>= fun merged =>
          mergeDescriptor type merged (rest.map .field) := rfl
    rw [hstep, mergeItem_field]
    by_cases hdropped : first.name = typeMarker ∨ first ∈ existing.fields
    · rw [if_pos hdropped, newFields_cons_of_dropped hdropped]
      simp only [isRefused_cons_of_dropped hdropped]
      exact ih existing
    · rw [if_neg hdropped]
      by_cases hconflict : Conflicts existing.fields first
      · rw [if_pos hconflict]
        exact .inl ⟨first, isRefused_cons.2 (.inl ⟨rfl, hconflict⟩), rfl⟩
      · -- The others are merged into a descriptor that has the field.
        have hfields := existing.fields_append [first]
        have hmerged := ih { existing with items := existing.items ++ [first].map .field }
        obtain ⟨hname, hnew⟩ := not_or.1 hdropped
        rw [hfields, List.append_assoc, ← List.map_append, List.singleton_append,
          ← newFields_cons_of_new hname hnew] at hmerged
        rw [if_neg hconflict]
        simp only [isRefused_cons, hconflict, and_false, false_or]
        exact hmerged

/-- Fields that are all there or declare the type change nothing. -/
theorem mergeDescriptor_eq_self (type : String) {merged : Record} {incoming : List Field}
    (h : ∀ field ∈ incoming, field.name = typeMarker ∨ field ∈ merged.fields) :
    mergeDescriptor type merged (incoming.map .field) = .ok merged := by
  induction incoming with
  | nil => rfl
  | cons field rest ih =>
    rw [List.forall_mem_cons] at h
    have hstep : mergeDescriptor type merged ((field :: rest).map .field) =
        mergeItem type merged (.field field) >>= fun next =>
          mergeDescriptor type next (rest.map .field) := rfl
    rw [hstep, mergeItem_field, if_pos h.1]
    exact ih h.2

/-- A descriptor without comments is merged into another one unless one of its fields declares anew
what may be declared once: the name is among the fields of the other descriptor and those before it,
but not with its value. The merged descriptor starts with the items of the other one, to which no
field is added twice. Its fields are those of both, without further declarations of the type, and
merging once more changes nothing. -/
theorem mergeDescriptor_unites (type : String) (existing incoming : Record)
    (hcomments : incoming.comments = []) :
    ((∃ fault, mergeDescriptor type existing incoming.items = .error fault) ↔
      ∃ before field behind, incoming.fields = before ++ field :: behind ∧
        field.name ∈ Schema.singletonNames ∧ field ∉ existing.fields ++ before ∧
        ∃ other ∈ existing.fields ++ before, other.name = field.name) ∧
    ∀ merged, mergeDescriptor type existing incoming.items = .ok merged →
      (∃ added : List Field, merged.items = existing.items ++ added.map .field ∧ added.Nodup ∧
        ∀ field ∈ added, field ∉ existing.fields) ∧
      (∀ field, field ∈ merged.fields ↔
        field ∈ existing.fields ∨ field ∈ incoming.fields ∧ field.name ≠ typeMarker) ∧
      mergeDescriptor type merged incoming.items = .ok merged := by
  rw [Record.items_of_comments hcomments]
  rcases mergeDescriptor_cases type existing incoming.fields with
    ⟨field, ⟨before, behind, hrefused⟩, herror⟩ | ⟨hfree, hmerge⟩
  · rw [herror]
    exact ⟨⟨fun _ => ⟨before, field, behind, hrefused⟩, fun _ => ⟨_, rfl⟩⟩, nofun⟩
  · rw [hmerge]
    refine ⟨⟨nofun, fun ⟨before, field, behind, hrefused⟩ => ?_⟩, ?_⟩
    · exact absurd ⟨before, behind, hrefused⟩ (hfree field)
    rintro _ ⟨⟩
    have hfields : ∀ field, field ∈ existing.fields ++ newFields existing.fields incoming.fields ↔
        field ∈ existing.fields ∨ field ∈ incoming.fields ∧ field.name ≠ typeMarker := by
      intro field
      rw [List.mem_append, mem_newFields_iff]
      tauto
    refine ⟨⟨_, rfl, nodup_eraseDups _, fun field hfield => (mem_newFields_iff.1 hfield).2.2⟩,
      fun field => ?_, mergeDescriptor_eq_self type fun field hfield => ?_⟩
    · rw [Record.fields_append]
      exact hfields field
    · rw [Record.fields_append, hfields]
      tauto

/-- A size that comes in twice is added once, and another size behind it is refused. -/
theorem mergeDescriptor_unites_sizedType :
    let existing : Record :=
      ⟨[.field ⟨"%rec", "T"⟩, .comment "numbered", .field ⟨"%key", "a"⟩], some ⟨1, 0⟩⟩
    let incoming : Record := ⟨[.field ⟨"%rec", "T"⟩, .field ⟨"%size", "3"⟩, .field ⟨"%key", "a"⟩,
      .field ⟨"%size", "3"⟩], some ⟨9, 40⟩⟩
    let merged : Record := { existing with items := existing.items ++ [.field ⟨"%size", "3"⟩] }
    let refused : Record := ⟨[.field ⟨"%size", "3"⟩, .field ⟨"%size", "4"⟩], none⟩
    incoming.comments = [] ∧ mergeDescriptor "T" existing incoming.items = .ok merged ∧
      mergeDescriptor "T" merged incoming.items = .ok merged ∧
      refused.comments = [] ∧
      ∃ fault, mergeDescriptor "T" existing refused.items = .error fault := by
  intro existing incoming merged refused
  have hmerge : mergeDescriptor "T" existing incoming.items = .ok merged :=
    toOption_eq_some_iff.1 (by decide)
  refine ⟨rfl, hmerge,
    ((mergeDescriptor_unites "T" existing incoming rfl).2 merged hmerge).2.2, rfl,
    (mergeDescriptor_unites "T" existing refused rfl).1.2 ?_⟩
  exact ⟨[⟨"%size", "3"⟩], ⟨"%size", "4"⟩, [], rfl, by decide, by decide, ⟨"%size", "3"⟩,
    by decide, rfl⟩

end Document

end TextRecords
