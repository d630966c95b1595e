import TextRecords.Proofs.RecordSet.Findings

/-!
# What the check reports

With the default options the check reports, set by set and record by record, the rules that each
record breaks and behind them its key, if an earlier record has the same; the first of these is
named (`RecordSet.Reports`). After the records it reports their number, if it is not allowed. So it
reports nothing exactly when no record breaks a rule, no two have one key and the number of the
records of each set is allowed (`Database.findings_by_record`). What is allowed is reckoned in 64
bits: if more records are asked for than the last number of these, every number is
(`SizeRule.allows_above_last`).
-/

namespace TextRecords

namespace RecordSet

variable {set : RecordSet}

/-- The key of the record at a position, if there is such a record and it has a key. -/
def keyAt? (set : RecordSet) (position : Nat) : Option String :=
  (set.record? position).bind set.schema.keyOf?

/-- The record at a position has the key of an earlier one, the first record with this key. -/
structure RepeatsKey (set : RecordSet) (position : Nat) (key : String) (first : Nat) : Prop where
  has : set.keyAt? position = some key
  lt : first < position
  used : set.keyAt? first = some key
  least : ∀ earlier < first, set.keyAt? earlier ≠ some key

/-- The findings about the record at a position are errors at its place. They are about the rules
that it breaks, in their order, and then about its key, if it repeats that of an earlier record. -/
structure Reports (set : RecordSet) (position : Nat) (record : Record) (found : List Finding) :
    Prop where
  placed : ∀ finding ∈ found, finding.typeName = set.typeName ∧
    finding.position = some position ∧ finding.location = record.location ∧
    finding.defect.severity = .error
  defects : ∃ duplicate : Option Defect,
    found.map Finding.defect =
      (set.schema.violations record).map Defect.violation ++ duplicate.toList ∧
    ∀ defect, duplicate = some defect ↔
      ∃ key first, defect = .duplicateKey key first ∧ set.RepeatsKey position key first

/-- The first record with a key among those before a position. -/
theorem findIdx?_take_eq_some_iff {position first : Nat} {key : String}
    (hle : position ≤ set.size) :
    (set.records.take position).findIdx? (set.schema.keyOf? · == some key) = some first ↔
      first < position ∧ set.keyAt? first = some key ∧
        ∀ earlier < first, set.keyAt? earlier ≠ some key := by
  have hkeyAt : ∀ place (hplace : place < set.records.length),
      set.keyAt? place = set.schema.keyOf? set.records[place] := by
    intro place hplace
    rw [keyAt?, record?, List.getElem?_eq_getElem hplace, Option.bind_some]
  have hlength : (set.records.take position).length = position := List.length_take_of_le hle
  rw [List.findIdx?_eq_some_iff_getElem]
  constructor
  · rintro ⟨hlt, hfirst, hleast⟩
    rw [hlength] at hlt
    have hplace : first < set.records.length := Nat.lt_of_lt_of_le hlt hle
    refine ⟨hlt, ?_, fun earlier hearlier => ?_⟩
    · rw [hkeyAt first hplace]
      simpa using hfirst
    · rw [hkeyAt earlier (by omega)]
      simpa using hleast earlier hearlier
  · rintro ⟨hlt, hfirst, hleast⟩
    have hplace : first < set.records.length := Nat.lt_of_lt_of_le hlt hle
    refine ⟨by rw [hlength]; exact hlt, ?_, fun earlier hearlier => ?_⟩
    · rw [hkeyAt first hplace] at hfirst
      simpa using hfirst
    · have hkey := hleast earlier hearlier
      rw [hkeyAt earlier (by omega)] at hkey
      simpa using hkey

/-- The duplicate key of a record tells which earlier record has the key. -/
theorem duplicateKey?_eq_some_iff {position : Nat} {record : Record}
    (hrecord : set.record? position = some record) {defect : Defect} :
    set.schema.duplicateKey? (set.records.take position) record = some defect ↔
      ∃ key first, defect = .duplicateKey key first ∧ set.RepeatsKey position key first := by
  have hkey : set.keyAt? position = set.schema.keyOf? record := by
    rw [keyAt?, hrecord, Option.bind_some]
  have hle : position ≤ set.size := Nat.le_of_lt (List.getElem?_eq_some_iff.1 hrecord).1
  rw [Schema.duplicateKey?, Option.bind_eq_some_iff]
  constructor
  · rintro ⟨key, hhas, hdefect⟩
    obtain ⟨first, hfirst, rfl⟩ := Option.map_eq_some_iff.1 hdefect
    obtain ⟨hlt, hused, hleast⟩ := (findIdx?_take_eq_some_iff hle).1 hfirst
    exact ⟨key, first, rfl, hkey.trans hhas, hlt, hused, hleast⟩
  · rintro ⟨key, first, rfl, hrepeats⟩
    have hfirst := (findIdx?_take_eq_some_iff hle).2
      ⟨hrepeats.lt, hrepeats.used, hrepeats.least⟩
    exact ⟨key, hkey.symm.trans hrepeats.has, Option.map_eq_some_iff.2 ⟨first, hfirst, rfl⟩⟩

/-- What is found about a record is what the check reports about it. -/
theorem reports_findingsOf {position : Nat} {record : Record}
    (hrecord : set.record? position = some record) :
    set.Reports position record (set.findingsOf position record) where
  placed := by
    intro finding hfinding
    obtain ⟨defect, hdefect, rfl⟩ := List.mem_map.1 hfinding
    refine ⟨rfl, rfl, rfl, ?_⟩
    rw [List.mem_append, List.mem_map, Option.mem_toList] at hdefect
    obtain ⟨violation, -, rfl⟩ | hduplicate := hdefect
    · rfl
    · obtain ⟨key, first, rfl, -⟩ := (duplicateKey?_eq_some_iff hrecord).1 hduplicate
      rfl
  defects := by
    refine ⟨_, ?_, fun defect => duplicateKey?_eq_some_iff hrecord⟩
    rw [findingsOf, List.map_map]
    exact List.map_id _

/-- The number of the records is reported when it is not allowed. -/
theorem sizeFindings_eq :
    ((set.schema.size.toList.filter fun size => !size.allows set.size).map
        fun _ => set.finding (.size set.size)) =
      if set.schema.size.all (·.allows set.size) then [] else [set.finding (.size set.size)] := by
  cases set.schema.size with
  | none => rfl
  | some rule =>
    rw [Option.toList_some, Option.all_some]
    cases hallows : rule.allows set.size with
    | true => simp [hallows]
    | false => simp [hallows]

end RecordSet

namespace Database

/-- With the default options the check reports what there is about each set, one after another. It
reports nothing exactly when the schema of every set admits its records. For a set it reports what
there is about each record, in their order, and then their number, if it is not allowed. -/
theorem findings_by_record (db : Database) :
    db.findings {} = db.sets.flatMap RecordSet.recordFindings ∧
    (db.findings {} = [] ↔ ∀ set ∈ db.sets,
      (∀ record ∈ set.records, set.schema.violations record = []) ∧
      (set.records.filterMap set.schema.keyOf?).Nodup ∧
      ∀ rule ∈ set.schema.size, rule.allows set.size = true) ∧
    ∀ set : RecordSet, ∃ found : List (List Finding),
      found.length = set.size ∧
      (∀ position record, set.record? position = some record →
        ∃ ofRecord, found[position]? = some ofRecord ∧ set.Reports position record ofRecord) ∧
      set.recordFindings = found.flatten ++
        if set.schema.size.all (·.allows set.size) then []
        else [set.finding (.size set.size)] := by
  refine ⟨?_, ?_, fun set => ?_⟩
  · have hdefault : db.findingsIn {} = RecordSet.recordFindings := by
      funext set
      simp [findingsIn]
    rw [findings, hdefault]
  · rw [findings_eq_nil_iff]
    refine forall₂_congr fun set _ => ?_
    rw [RecordSet.recordFindings_eq_nil_iff]
    exact ⟨fun h => ⟨h.violations, h.keys, h.size⟩, fun h => ⟨h.1, h.2.1, h.2.2⟩⟩
  · let ofRecord (pair : Record × Nat) := set.findingsOf pair.2 pair.1
    refine ⟨set.records.zipIdx.map ofRecord, ?_, fun position record hrecord => ?_, ?_⟩
    · rw [List.length_map, List.length_zipIdx]
      rfl
    · refine ⟨set.findingsOf position record, ?_, RecordSet.reports_findingsOf hrecord⟩
      have hpair : set.records.zipIdx[position]? = some (record, position) := by
        rw [List.getElem?_zipIdx, ← RecordSet.record?, hrecord, Option.map_some, Nat.zero_add]
      rw [List.getElem?_map, hpair, Option.map_some]
    · rw [RecordSet.recordFindings_eq, RecordSet.sizeFindings_eq, List.flatMap_def]

/-- Two books are to be there and there are three. One has a year that is no number, the next one
its key, and the last one has no key. -/
def constrainedSpecimen : RecordSet where
  descriptor := some ⟨[.field ⟨"%rec", "Book"⟩, .field ⟨"%key", "isbn"⟩,
    .field ⟨"%mandatory", "title"⟩, .field ⟨"%type", "year int"⟩, .field ⟨"%size", "2"⟩], none⟩
  entries :=
    [.record ⟨[.field ⟨"isbn", "1"⟩, .field ⟨"title", "A"⟩, .field ⟨"year", "old"⟩], none⟩,
      .record ⟨[.field ⟨"isbn", "1"⟩, .field ⟨"title", "B"⟩], none⟩,
      .record ⟨[.field ⟨"title", "C"⟩], none⟩]

/-- Each of the three books has an error, and so has their number. -/
theorem findings_by_record_constrainedSpecimen :
    let db : Database := { sets := [constrainedSpecimen] }
    (db.findings {}).map Finding.message =
      ["error: field 'year': 'old' is not a valid int",
        "error: duplicate key '1' (first used by record 0)",
        "error: missing key field 'isbn'",
        "error: record set has 3 records, violating %size"] ∧
      ∃ found : List (List Finding), found.length = 3 ∧
        (∀ position record, constrainedSpecimen.record? position = some record →
          ∃ ofRecord, found[position]? = some ofRecord ∧
            constrainedSpecimen.Reports position record ofRecord) ∧
        db.findings {} = found.flatten ++ [constrainedSpecimen.finding (.size 3)] := by
  intro db
  obtain ⟨hfindings, -, hreports⟩ := findings_by_record db
  obtain ⟨found, hlength, hfound, hset⟩ := hreports constrainedSpecimen
  have hnumber : constrainedSpecimen.size = 3 := by decide +kernel
  have hall : constrainedSpecimen.schema.size.all (·.allows constrainedSpecimen.size) = false := by
    decide +kernel
  refine ⟨by decide +kernel, found, hlength.trans hnumber, hfound, ?_⟩
  calc db.findings {}
      = constrainedSpecimen.recordFindings := by rw [hfindings, List.flatMap_singleton]
    _ = found.flatten ++ [constrainedSpecimen.finding (.size 3)] := by
        rw [hset, hall, hnumber]
        rfl

end Database

end TextRecords
