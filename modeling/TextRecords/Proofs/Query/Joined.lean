import TextRecords.Proofs.Query.References

/-!
# What a join makes of records

A record refers to another one by its first value of the field of a join: to the first record that
has this value as its key (`Record.RefersTo`). The two are merged by putting the fields of the other
one in the place of that value, under names that start with the name of the field, and by dropping
the further values (`Record.Merges`).

A join merges a record that refers to another one, reports the reference of one that refers to none
and passes over one without a reference (`Join.follows_apply`), so every record is accounted for
once (`Join.length_add_count_add_length`). A query that does nothing but filter and join, with a
password, finds the merged records in the order of the set (`Database.query_merges_referred`). A
query for the descriptor alone joins nothing, and its result accounts for no record
(`Database.descriptorOnly_accounts_for_none`).
-/

namespace TextRecords

/-- Whether an item is a field of a name. -/
def Item.isFieldOf (name : String) (item : Item) : Bool :=
  item.field?.any (·.name == name)

namespace Record

/-- A record refers to another one by a field: the first value of the field is the key of that one,
which is the first one among the targets with this key. -/
def RefersTo (field key : String) (targets : List Record) (record target : Record) : Prop :=
  ∃ value earlier later, record.first? field = some value ∧
    targets = earlier ++ target :: later ∧ target.first? key = some value ∧
    ∀ other ∈ earlier, other.first? key ≠ some value

/-- Whether the first value of a field of a record is the key of one of the targets. -/
def isReferring (field key : String) (targets : List Record) (record : Record) : Bool :=
  (record.first? field).any fun value => targets.any (·.first? key == some value)

/-- A record that refers to one of the targets has the key of a target. -/
theorem RefersTo.isReferring {field key : String} {targets : List Record} {record target : Record}
    (h : record.RefersTo field key targets target) :
    record.isReferring field key targets = true := by
  obtain ⟨value, earlier, later, hfirst, rfl, hkey, -⟩ := h
  rw [Record.isReferring, hfirst, Option.any_some, List.any_eq_true]
  exact ⟨target, List.mem_append_right _ List.mem_cons_self, beq_iff_eq.2 hkey⟩

/-- A record merged with a target by a field: the fields of the target stand in the place of the
first value of the field, each under its name with that of the field in front, the further values of
the field are dropped, and everything else is as it was. -/
structure Merges (field : String) (record target merged : Record) : Prop where
  location_eq : merged.location = record.location
  items_eq : ∃ before value after,
    record.items = before ++ .field ⟨field, value⟩ :: after ∧
    (∀ item ∈ before, item.isFieldOf field = false) ∧
    merged.items = before ++
      target.fields.map (fun other => .field ⟨field ++ "_" ++ other.name, other.value⟩) ++
      after.filter (!·.isFieldOf field)

/-- The first value of a name is in the first field of this name. -/
theorem exists_of_first? {record : Record} {name value : String}
    (h : record.first? name = some value) :
    ∃ before after, record.items = before ++ .field ⟨name, value⟩ :: after ∧
      ∀ item ∈ before, item.isFieldOf name = false := by
  obtain ⟨items, location⟩ := record
  induction items with
  | nil => cases h
  | cons item rest ih =>
    -- An item that is not of the name leaves the first value to the rest.
    have hlater (hitem : item.isFieldOf name = false)
        (hrest : Record.first? ⟨rest, location⟩ name = some value) :
        ∃ before after, item :: rest = before ++ .field ⟨name, value⟩ :: after ∧
          ∀ item ∈ before, item.isFieldOf name = false := by
      obtain ⟨before, after, heq, hbefore⟩ := ih hrest
      refine ⟨item :: before, after, ?_, List.forall_mem_cons.2 ⟨hitem, hbefore⟩⟩
      rw [List.cons_append]
      exact congrArg (item :: ·) heq
    cases item with
    | comment text => exact hlater rfl h
    | field f =>
      cases hname : f.name == name with
      | false =>
        have hvalues : Record.values ⟨.field f :: rest, location⟩ name =
            Record.values ⟨rest, location⟩ name :=
          congrArg (List.map Field.value) (List.filter_cons_of_neg (by simp [hname]))
        refine hlater hname ?_
        rwa [first?, value?, ← hvalues]
      | true =>
        have hvalues : Record.values ⟨.field f :: rest, location⟩ name =
            f.value :: Record.values ⟨rest, location⟩ name :=
          congrArg (List.map Field.value) (List.filter_cons_of_pos hname)
        rw [first?, value?, hvalues] at h
        obtain rfl := Option.some.inj h
        obtain rfl := eq_of_beq hname
        exact ⟨[], rest, rfl, fun item hmem => absurd hmem List.not_mem_nil⟩

end Record

namespace Join

variable {join : Join}

/-- A reference is replaced and the further ones are to be dropped. -/
theorem replaceReferences_cons_of_pos {item : Item} (h : item.isFieldOf join.field = true)
    (replacement rest : List Item) :
    join.replaceReferences replacement (item :: rest) =
      replacement ++ join.replaceReferences [] rest := by
  cases item with
  | comment text => cases h
  | field f => exact if_pos h

/-- What is no reference stays. -/
theorem replaceReferences_cons_of_neg {item : Item} (h : item.isFieldOf join.field = false)
    (replacement rest : List Item) :
    join.replaceReferences replacement (item :: rest) =
      item :: join.replaceReferences replacement rest := by
  cases item with
  | comment text => rfl
  | field f => exact if_neg (Bool.eq_false_iff.1 h)

/-- References that are replaced by nothing are dropped. -/
theorem replaceReferences_nil (items : List Item) :
    join.replaceReferences [] items = items.filter (!·.isFieldOf join.field) := by
  induction items with
  | nil => rfl
  | cons item rest ih =>
    cases hitem : item.isFieldOf join.field with
    | true =>
      rw [replaceReferences_cons_of_pos hitem, List.nil_append, ih,
        List.filter_cons_of_neg (by simp [hitem])]
    | false =>
      rw [replaceReferences_cons_of_neg hitem, ih, List.filter_cons_of_pos (by simp [hitem])]

/-- The replacement stands in the place of the first reference. -/
theorem replaceReferences_append {before : List Item} {reference : Item}
    (hbefore : ∀ item ∈ before, item.isFieldOf join.field = false)
    (hreference : reference.isFieldOf join.field = true) (replacement after : List Item) :
    join.replaceReferences replacement (before ++ reference :: after) =
      before ++ replacement ++ after.filter (!·.isFieldOf join.field) := by
  induction before with
  | nil =>
    rw [List.nil_append, replaceReferences_cons_of_pos hreference, replaceReferences_nil,
      List.nil_append]
  | cons item rest ih =>
    rw [List.forall_mem_cons] at hbefore
    rw [List.cons_append, replaceReferences_cons_of_neg hbefore.1, ih hbefore.2]
    rfl

/-- What following the reference of a record may lead to. -/
inductive Follows (join : Join) (record : Record) : Joined → Prop
  | merged {target merged : Record}
      (hrefers : record.RefersTo join.field join.key join.targets target)
      (hmerges : record.Merges join.field target merged) : Follows join record (.merged merged)
  | noReference (hfirst : record.first? join.field = none) : Follows join record .noReference
  | dangling {value : String} (hfirst : record.first? join.field = some value)
      (hrefers : record.isReferring join.field join.key join.targets = false) :
      Follows join record .dangling

/-- A value leads to the first target that has it as its key. -/
theorem target?_eq_some_iff {value : String} {target : Record} :
    join.target? value = some target ↔ ∃ earlier later,
      join.targets = earlier ++ target :: later ∧ target.first? join.key = some value ∧
        ∀ other ∈ earlier, other.first? join.key ≠ some value := by
  rw [target?, List.find?_eq_some_iff_append]
  simp only [beq_iff_eq, Bool.not_eq_true', beq_eq_false_iff_ne]
  tauto

/-- A join that hides nothing follows the reference of a record. -/
theorem follows_apply (hshows : ∀ name, join.hides name = false) (record : Record) :
    join.Follows record (join.apply record) := by
  have hcontribution : ∀ target : Record, join.contribution target = target.fields.map
      fun other => .field ⟨join.field ++ "_" ++ other.name, other.value⟩ := by
    intro target
    rw [contribution, List.filter_eq_self.2 fun other _ => by rw [hshows]; rfl]
  unfold apply
  cases hfirst : record.first? join.field with
  | none => exact .noReference hfirst
  | some value =>
    dsimp only
    cases htarget : join.target? value with
    | none =>
      refine .dangling hfirst ?_
      rw [Record.isReferring, hfirst, Option.any_some, List.any_eq_false]
      exact List.find?_eq_none.1 htarget
    | some target =>
      obtain ⟨earlier, later, htargets, hkey, hearlier⟩ := target?_eq_some_iff.1 htarget
      obtain ⟨before, after, hitems, hbefore⟩ := Record.exists_of_first? hfirst
      refine .merged ⟨value, earlier, later, hfirst, htargets, hkey, hearlier⟩
        ⟨rfl, before, value, after, hitems, hbefore, ?_⟩
      have hreference : (Item.field ⟨join.field, value⟩).isFieldOf join.field = true :=
        beq_self_eq_true join.field
      dsimp only
      rw [hitems, replaceReferences_append hbefore hreference, hcontribution]

/-- The merged records are those of the records that refer to a target, in their order. -/
theorem forall₂_record? (hshows : ∀ name, join.hides name = false) (records : List Record) :
    List.Forall₂ (fun record merged => ∃ target,
        record.RefersTo join.field join.key join.targets target ∧
          record.Merges join.field target merged)
      (records.filter (·.isReferring join.field join.key join.targets))
      ((records.map join.apply).filterMap Joined.record?) := by
  induction records with
  | nil => exact .nil
  | cons record rest ih =>
    -- The filter keeps the record just when following its reference ends in a merged one.
    have hfollows := join.follows_apply hshows record
    rw [List.map_cons]
    generalize join.apply record = outcome at hfollows ⊢
    cases hfollows with
    | merged hrefers hmerges =>
      rw [List.filter_cons_of_pos hrefers.isReferring]
      exact .cons ⟨_, hrefers, hmerges⟩ ih
    | noReference hfirst =>
      have hrefers : record.isReferring join.field join.key join.targets = false := by
        rw [Record.isReferring, hfirst, Option.any_none]
      rw [List.filter_cons_of_neg (Bool.eq_false_iff.1 hrefers)]
      exact ih
    | dangling hfirst hrefers =>
      rw [List.filter_cons_of_neg (Bool.eq_false_iff.1 hrefers)]
      exact ih

/-- Every record is merged, or its reference dangles, or it has none. -/
theorem length_add_count_add_length (hshows : ∀ name, join.hides name = false)
    (records : List Record) :
    ((records.map join.apply).filterMap Joined.record?).length +
        (records.map join.apply).count .dangling +
        (records.filter (!·.has join.field)).length = records.length := by
  induction records with
  | nil => rfl
  | cons record rest ih =>
    -- One of the three numbers counts the record, and the other two stay.
    have hfollows := join.follows_apply hshows record
    rw [List.map_cons, List.length_cons, ← ih]
    generalize join.apply record = outcome at hfollows ⊢
    cases hfollows with
    | @merged target merged hrefers _ =>
      have hhas : record.has join.field = true := by
        obtain ⟨value, earlier, later, hfirst, -⟩ := hrefers
        rw [← Record.isSome_first?, hfirst, Option.isSome_some]
      have hrecord : (Joined.merged merged).record? = some merged := rfl
      have hdangling : Joined.merged merged ≠ .dangling := nofun
      rw [List.filterMap_cons_some hrecord, List.length_cons, List.count_cons_of_ne hdangling,
        List.filter_cons_of_neg (by simp [hhas])]
      omega
    | noReference hfirst =>
      have hhas : record.has join.field = false := by
        rw [← Record.isSome_first?, hfirst, Option.isSome_none]
      have hdangling : Joined.noReference ≠ .dangling := nofun
      rw [List.filterMap_cons_none rfl, List.count_cons_of_ne hdangling,
        List.filter_cons_of_pos (by simp [hhas]), List.length_cons]
      omega
    | dangling hfirst hrefers =>
      have hhas : record.has join.field = true := by
        rw [← Record.isSome_first?, hfirst, Option.isSome_some]
      rw [List.filterMap_cons_none rfl, List.count_cons_self,
        List.filter_cons_of_neg (by simp [hhas])]
      omega

end Join

/-- A schema that declares no order stands for no field selection. -/
theorem Schema.sortSelection?_eq_none {schema : Schema} (h : schema.sort = []) :
    schema.sortSelection? = none := by
  rw [sortSelection?, h]
  decide +kernel

/-- A query that only filters and joins, with a password, finds the joined records as they are. -/
theorem Query.records_found_eq {query : Query} {sampler : Sampler} {set : RecordSet}
    (hpassword : query.password.isSome) (hsample : query.filter.sampleSize = none)
    (hgroup : query.groupBy = none) (hsort : query.sortBy = none) (hfields : query.fields = none)
    (hdefault : set.schema.sort = []) (joined : List Record × Nat) :
    (query.found sampler set joined).set.records = joined.1 := by
  have horder : query.order? set.schema = none := by
    rw [order?, hsort, Schema.sortSelection?_eq_none hdefault, Option.or_none]
  have hshown : ∀ record, query.shown set.schema record = record := by
    intro record
    have hnone : query.password.isNone = false := by rw [← Option.not_isSome, hpassword]; rfl
    rw [shown, hnone, hfields]
    rfl
  rw [records_found hgroup, query.filter.sample_eq_self sampler hsample, sorted_eq_order, horder,
    Option.elim_none, List.map_map]
  exact (List.map_congr_left fun record _ => hshown record).trans (List.map_id _)

namespace Database

variable {db : Database} {query : Query} {position : Nat} {set target : RecordSet}
  {field type key : String}

/-- A query that only filters and joins, with a password, by a field that is declared as a reference
to a set with a key: it finds, in the order of the set, one record for each one that it matches and
that refers to a record of that set, and each is merged with the record that it refers to. The
results, the references counted as dangling and the matched records without the field are as many as
the matched records. If the query asks for the descriptor alone, it returns the set with its
descriptor and no records, and counts no references. -/
theorem query_merges_referred (sampler : Sampler)
    (hresolve : db.resolve query.filter.type = .ok (some position))
    (hset : db.set? position = some set)
    (htype : set.schema.fieldType? field = some (.reference type))
    (htarget : db.setOfType? type = some target) (hkey : target.schema.key = some key)
    (hjoin : query.join = some field) (hpassword : query.password.isSome)
    (hsample : query.filter.sampleSize = none) (hgroup : query.groupBy = none)
    (hsort : query.sortBy = none) (hfields : query.fields = none)
    (hdefault : set.schema.sort = []) :
    ∃ result, db.query sampler query = .ok result ∧
      (query.descriptorOnly = true → result.set = set.emptied ∧ result.set.records = [] ∧
        result.skipped = 0) ∧
      (query.descriptorOnly = false →
        List.Forall₂ (fun record merged => ∃ referred,
            record.RefersTo field key target.records referred ∧
              record.Merges field referred merged)
          ((query.matched set).filter (·.isReferring field key target.records))
          result.set.records ∧
        result.set.records.length + result.skipped +
            ((query.matched set).filter (!·.has field)).length =
          (query.matched set).length) := by
  -- The join hides nothing, since there is a password.
  obtain ⟨join, hprepare, rfl, rfl, htargets, hshows⟩ : ∃ join : Join,
      Join.prepare db set field query.password.isSome = .ok join ∧ join.field = field ∧
        join.key = key ∧ join.targets = target.records ∧ ∀ name, join.hides name = false := by
    refine ⟨_, Join.prepare_eq_ok htype htarget hkey query.password.isSome, rfl, rfl, rfl,
      fun name => ?_⟩
    rw [hpassword]
    rfl
  have hjoined : query.joined db set (query.matched set) =
      .ok (((query.matched set).map join.apply).filterMap Joined.record?,
        ((query.matched set).map join.apply).count .dangling) := by
    simp only [Query.joined, hjoin, hprepare]
  rw [← htargets]
  cases hdescriptor : query.descriptorOnly with
  | true =>
    refine ⟨_, query_eq_emptied sampler hresolve hset hdescriptor, fun _ => ⟨rfl, rfl, rfl⟩, ?_⟩
    exact fun hall => Bool.noConfusion hall
  | false =>
    refine ⟨_, query_eq_found sampler hresolve hset hdescriptor hjoined,
      fun halone => Bool.noConfusion halone, fun _ => ?_⟩
    rw [Query.records_found_eq hpassword hsample hgroup hsort hfields hdefault]
    exact ⟨join.forall₂_record? hshows _, join.length_add_count_add_length hshows _⟩

/-- Books: one with two authors, one whose author is not known and one without an author. An author
without the key stands before the two that share it. -/
def referencesSpecimen : Database where
  sets := [
    { descriptor := some ⟨[.field ⟨"%rec", "Book"⟩, .field ⟨"%type", "author rec Author"⟩], none⟩
      entries := [
        .record ⟨[.field ⟨"author", "a1"⟩, .comment "signed", .field ⟨"title", "Go"⟩,
          .field ⟨"author", "a2"⟩], none⟩,
        .record ⟨[.field ⟨"title", "Runes"⟩], none⟩,
        .record ⟨[.field ⟨"title", "C"⟩, .field ⟨"author", "zz"⟩], none⟩] },
    { descriptor := some ⟨[.field ⟨"%rec", "Author"⟩, .field ⟨"%key", "id"⟩], none⟩
      entries := [.record ⟨[.field ⟨"name", "Nobody"⟩], none⟩,
        .record ⟨[.field ⟨"id", "a1"⟩, .field ⟨"name", "Ann"⟩], none⟩,
        .record ⟨[.field ⟨"id", "a1"⟩, .field ⟨"name", "Anna"⟩], none⟩] }]

/-- The query for the books with their authors. -/
def referencesQuery : Query :=
  { filter := { type := some "Book" }, join := some "author", password := some "" }

/-- One book is found, one reference dangles, and the book without an author is passed over. -/
theorem query_merges_referred_referencesSpecimen :
    ∃ result, referencesSpecimen.query .first referencesQuery = .ok result ∧
      result.set.records.length = 1 ∧ result.skipped = 1 := by
  obtain ⟨set, hset⟩ : ∃ set, referencesSpecimen.set? 0 = some set := ⟨_, rfl⟩
  obtain ⟨target, htarget⟩ : ∃ target, referencesSpecimen.setOfType? "Author" = some target :=
    ⟨_, rfl⟩
  have hresolve : referencesSpecimen.resolve referencesQuery.filter.type = .ok (some 0) := by rfl
  have htype : set.schema.fieldType? "author" = some (.reference "Author") := by
    rw [← Option.some.inj hset]
    rfl
  have hkey : target.schema.key = some "id" := by
    rw [← Option.some.inj htarget]
    rfl
  have hdefault : set.schema.sort = [] := by
    rw [← Option.some.inj hset]
    rfl
  obtain ⟨result, hquery, -, hfound⟩ := query_merges_referred .first hresolve hset htype htarget
    hkey rfl rfl rfl rfl rfl rfl hdefault
  obtain ⟨hmerged, hcount⟩ := hfound rfl
  have hmatched : ((referencesQuery.matched set).filter
          (·.isReferring "author" "id" target.records)).length = 1 ∧
        ((referencesQuery.matched set).filter (!·.has "author")).length = 1 ∧
        (referencesQuery.matched set).length = 3 := by
    rw [← Option.some.inj hset, ← Option.some.inj htarget]
    decide +kernel
  have hlength := hmerged.length_eq
  exact ⟨result, hquery, by omega, by omega⟩

/-- The same query for the descriptor alone accounts for one of the three books that it matches,
which is the one without an author. -/
theorem descriptorOnly_accounts_for_none :
    let query : Query := { referencesQuery with descriptorOnly := true }
    ∃ set target result, referencesSpecimen.set? 0 = some set ∧
      set.schema.fieldType? "author" = some (.reference "Author") ∧
      referencesSpecimen.setOfType? "Author" = some target ∧ target.schema.key = some "id" ∧
      set.schema.sort = [] ∧ referencesSpecimen.query .first query = .ok result ∧
      result.set.records.length + result.skipped +
          ((query.matched set).filter (!·.has "author")).length ≠ (query.matched set).length := by
  intro query
  exact ⟨_, _, _, rfl, by rfl, rfl, by rfl, by rfl, rfl, by decide +kernel⟩

end Database

end TextRecords
