import Mathlib.Logic.Relation
import TextRecords.Proofs.Document.Parts
import TextRecords.Proofs.Document.Recounted

/-!
# Line ends and blank lines

A text without carriage returns is read alike when a carriage return stands before each of its
newlines: the same database with records on the same lines, or the same fault on the same line. And
it is read alike when blank lines are added where they part no block, except for the places of the
records and the line of a fault (`Database.ofText_lineEnds`).

A carriage return at the end of a line belongs to the line end, so the lines of the two texts differ
in their offsets alone (`map_recounted_blocks_crlf`). Blank lines that are added next to a blank
one, or at one of the ends, leave the blocks with the texts that they have
(`map_text_blocks_of_addsBlankLines`). Lines that are counted otherwise are read alike
(`Database.recounted_ofText_congr`).
-/

namespace TextRecords

namespace Text

/-- A text with a carriage return before each of its newlines. -/
def crlf (text : List Char) : List Char :=
  text.flatMap fun c => if c = '\n' then ['\r', '\n'] else [c]

/-- A line that has only blanks. -/
def IsBlankLine (line : List Char) : Prop :=
  '\n' ∉ line ∧ line.all isBlank = true

instance (line : List Char) : Decidable (IsBlankLine line) :=
  inferInstanceAs (Decidable (_ ∧ _))

/-- A text with one blank line added: at its start, next to a blank line of the text, or behind its
last line, which may be ended or not. -/
inductive AddsBlankLine : List Char → List Char → Prop
  | start {text blank : List Char} (hblank : IsBlankLine blank) :
      AddsBlankLine text (blank ++ '\n' :: text)
  | before {above line below blank : List Char} (habove : IsEnded above)
      (hbelow : EndsLine below) (hline : IsBlankLine line) (hblank : IsBlankLine blank) :
      AddsBlankLine (above ++ (line ++ below)) (above ++ (blank ++ '\n' :: (line ++ below)))
  | behind {above line below blank : List Char} (habove : IsEnded above)
      (hbelow : EndsLine below) (hline : IsBlankLine line) (hblank : IsBlankLine blank) :
      AddsBlankLine (above ++ (line ++ below)) (above ++ (line ++ '\n' :: (blank ++ below)))
  | last {text blank : List Char} (hblank : IsBlankLine blank) :
      AddsBlankLine text (text ++ '\n' :: blank)
  | lastEnded {text blank : List Char} (htext : IsEnded text) (hblank : IsBlankLine blank) :
      AddsBlankLine text (text ++ blank)

/-- What ends a text behind another character ends it without that one. -/
theorem dropFinal_cons {c d : Char} (h : d ≠ c) (text : List Char) :
    dropFinal c (d :: text) = d :: dropFinal c text := by
  cases text with
  | nil => simp [dropFinal, h]
  | cons e rest =>
    rw [dropFinal, dropFinal, List.getLast?_cons_cons]
    split <;> rfl

/-- A character that a text does not have does not end it. -/
theorem dropFinal_of_notMem {c : Char} {text : List Char} (h : c ∉ text) :
    dropFinal c text = text :=
  if_neg fun hlast => h (List.mem_of_getLast? hlast)

/-- The carriage returns before the newlines belong to the line ends. -/
theorem map_dropFinal_segments_crlf {text : List Char} (h : '\r' ∉ text) :
    (segments (crlf text)).map (dropFinal '\r') = segments text := by
  induction text with
  | nil => rfl
  | cons c rest ih =>
    rw [List.mem_cons, not_or] at h
    by_cases hc : c = '\n'
    · have hcons : crlf (c :: rest) = ['\r'] ++ '\n' :: crlf rest := by simp [crlf, hc]
      have hrest : segments (c :: rest) = [] :: segments rest := by
        rw [hc]
        exact segments_append_newline [] rest
      rw [hcons, hrest, segments_append_newline, List.map_append, ih h.2]
      rfl
    · have hcons : crlf (c :: rest) = c :: crlf rest := by simp [crlf, hc]
      have hseparates : (c == '\n') = false := beq_false_of_ne hc
      have hih := ih h.2
      rw [hcons]
      simp only [segments, splitWhen, cut, hseparates, List.map_cons, List.cons.injEq] at hih ⊢
      simp only [Bool.false_eq_true, if_false]
      rw [dropFinal_cons (Ne.symm h.1), hih.1, hih.2]
      exact ⟨rfl, rfl⟩

end Text

namespace Document

open Text (AddsBlankLine)

/-- The runs of lines between blank ones. -/
def runs (lines : List (List Char)) : List (List (List Char)) :=
  (Text.splitWhen (fun line => line.all Text.isBlank) lines).filter (!·.isEmpty)

/-- The runs of lines on both sides of a blank one. -/
theorem runs_append_cons (before after : List (List Char)) {blank : List Char}
    (h : blank.all Text.isBlank = true) :
    runs (before ++ blank :: after) = runs before ++ runs after :=
  Text.filter_splitWhen_append_cons _ before after h

/-- The blocks of a text are the runs of its segments without the carriage returns that belong to
line ends. -/
theorem map_text_blocks_lines (text : List Char) :
    (blocks (lines text)).map (List.map Line.text) =
      (runs (Text.segments text)).map (List.map (Text.dropFinal '\r')) := by
  have hempty : (fun run : List (List Char) => !(run.map (Text.dropFinal '\r')).isEmpty) =
      (!·.isEmpty) := by
    funext run
    cases run <;> rfl
  rw [map_text_blocks, map_text_lines_eq, Text.splitWhen_map, List.filter_map, Function.comp_def,
    hempty]
  simp only [Text.all_isBlank_dropFinal, runs]

/-- The numbers and texts of lines do not come from the carriage returns that end them. -/
theorem map_recounted_linesFrom {texts others : List (List Char)}
    (h : texts.map (Text.dropFinal '\r') = others.map (Text.dropFinal '\r'))
    (number offset next : Nat) :
    (linesFrom number offset texts).map (Line.recounted id fun _ => 0) =
      (linesFrom number next others).map (Line.recounted id fun _ => 0) := by
  induction texts generalizing others number offset next with
  | nil => rw [List.map_eq_nil_iff.1 h.symm]; rfl
  | cons text rest ih =>
    obtain ⟨other, more, rfl, htext, hrest⟩ := List.map_eq_cons_iff.1 h.symm
    rw [linesFrom, linesFrom, List.map_cons, List.map_cons, ih hrest.symm, htext]
    rfl

/-- Lines that are all counted as zero are their texts. -/
theorem map_recounted_zero (blocks : List (List Line)) :
    blocks.map (List.map (Line.recounted (fun _ => 0) fun _ => 0)) =
      (blocks.map (List.map Line.text)).map (List.map (Line.mk 0 0)) := by
  simp only [List.map_map, Function.comp_def]
  rfl

/-- With carriage returns before the newlines the lines of a text have other offsets alone. -/
theorem map_recounted_blocks_crlf {text : List Char} (h : '\r' ∉ text) :
    (blocks (lines (Text.crlf text))).map (List.map (Line.recounted id fun _ => 0)) =
      (blocks (lines text)).map (List.map (Line.recounted id fun _ => 0)) := by
  rw [← blocks_map_recounted, ← blocks_map_recounted]
  refine congrArg blocks (map_recounted_linesFrom ?_ 1 0 0)
  have hplain : ∀ line ∈ Text.segments text, Text.dropFinal '\r' line = line := fun line hline =>
    Text.dropFinal_of_notMem fun hmem => h (Text.mem_of_mem_segments hline hmem)
  rw [Text.map_dropFinal_segments_crlf h, List.map_congr_left hplain, List.map_id']

/-- A blank line that is added parts no run of lines. -/
theorem runs_of_addsBlankLine {text padded : List Char} (h : AddsBlankLine text padded) :
    runs (Text.segments padded) = runs (Text.segments text) := by
  cases h with
  | @start _ blank hblank =>
    rw [Text.segments_append_newline, Text.segments_of_notMem hblank.1]
    exact runs_append_cons [] _ hblank.2
  | @before above line below blank habove hbelow hline hblank =>
    obtain ⟨front, hfront⟩ := habove.exists_segments_append
    obtain ⟨behind, hbehind⟩ := hbelow.exists_segments_append
    rw [hfront, hfront, Text.segments_append_newline, Text.segments_of_notMem hblank.1,
      List.singleton_append, hbehind line hline.1, runs_append_cons front _ hblank.2,
      runs_append_cons front _ hline.2]
    exact congrArg _ (runs_append_cons [] behind hline.2)
  | @behind above line below blank habove hbelow hline hblank =>
    obtain ⟨front, hfront⟩ := habove.exists_segments_append
    obtain ⟨behind, hbehind⟩ := hbelow.exists_segments_append
    rw [hfront, hfront, Text.segments_append_newline, Text.segments_of_notMem hline.1,
      List.singleton_append, hbehind line hline.1, hbehind blank hblank.1,
      runs_append_cons front _ hline.2, runs_append_cons front _ hline.2]
    exact congrArg _ (runs_append_cons [] behind hblank.2)
  | @last _ blank hblank =>
    rw [Text.segments_append_newline, Text.segments_of_notMem hblank.1,
      runs_append_cons _ [] hblank.2]
    exact List.append_nil _
  | @lastEnded _ blank htext hblank =>
    obtain ⟨front, hfront⟩ := htext.exists_segments_append
    have hempty := hfront []
    rw [List.append_nil, show Text.segments [] = [[]] from rfl] at hempty
    -- The empty line behind the last newline is blank already.
    rw [hfront, hempty, Text.segments_of_notMem hblank.1, runs_append_cons front [] hblank.2,
      runs_append_cons front [] rfl]

/-- Blank lines that are added leave the blocks with the texts that they have. -/
theorem map_text_blocks_of_addsBlankLines {text padded : List Char}
    (h : Relation.ReflTransGen AddsBlankLine text padded) :
    (blocks (lines padded)).map (List.map Line.text) =
      (blocks (lines text)).map (List.map Line.text) := by
  rw [map_text_blocks_lines, map_text_blocks_lines]
  induction h with
  | refl => rfl
  | tail _ hadd ih => rw [runs_of_addsBlankLine hadd, ih]

end Document

/-- A fault without the line where it was found: its kind and its words. -/
def Fault.unplaced (fault : Fault) : FaultKind × String :=
  (fault.kind, fault.context)

namespace Database

/-- A database without the offsets of its records, which keep their lines. -/
def withoutOffsets (db : Database) : Database :=
  db.recounted id fun _ => 0

/-- A text without carriage returns is read alike with one before each newline, except for the
offsets of the records. -/
theorem ofText_crlf (config : Config) {text : List Char} (h : '\r' ∉ text) :
    (ofText config (Text.crlf text)).map withoutOffsets =
      (ofText config text).map withoutOffsets := by
  have hsame : Fault.recounted id = id := by
    funext fault
    cases fault <;> rfl
  have hread := recounted_ofText_congr config (Document.map_recounted_blocks_crlf h)
  rwa [hsame, mapError_id, mapError_id] at hread

/-- Texts whose blocks have the same lines are read alike, wherever the lines stand. -/
theorem unplaced_ofText_congr (config : Config) {text other : List Char}
    (h : (Document.blocks (Document.lines other)).map (List.map Document.Line.text) =
      (Document.blocks (Document.lines text)).map (List.map Document.Line.text)) :
    ((ofText config other).map unplaced).mapError Fault.unplaced =
      ((ofText config text).map unplaced).mapError Fault.unplaced := by
  have hblocks : (Document.blocks (Document.lines other)).map
      (List.map (Document.Line.recounted (fun _ => 0) fun _ => 0)) =
        (Document.blocks (Document.lines text)).map
          (List.map (Document.Line.recounted (fun _ => 0) fun _ => 0)) := by
    rw [Document.map_recounted_zero, Document.map_recounted_zero, h]
  have hread := recounted_ofText_congr config hblocks
  have hforget : ∀ result : Except Fault Database,
      (((result.map (recounted (fun _ => 0) fun _ => 0)).mapError
        (Fault.recounted fun _ => 0)).map unplaced).mapError Fault.unplaced =
          (result.map unplaced).mapError Fault.unplaced := by
    intro result
    cases result with
    | error fault => cases fault <;> rfl
    | ok db => exact congrArg Except.ok (db.unplaced_relocated _)
  rw [← hforget, hread, hforget]

/-- Line ends and blank lines do not matter. A text without carriage returns is read as the same
database with one before each of its newlines, except for the offsets of the records, or fails with
the same fault on the same line. With any number of blank lines added it is read as the same
database, except for the places of the records, or fails with a fault of the same kind in the same
words. -/
theorem ofText_lineEnds (config : Config) {text : List Char} (h : '\r' ∉ text) :
    (ofText config (Text.crlf text)).map withoutOffsets =
        (ofText config text).map withoutOffsets ∧
      ∀ padded, Relation.ReflTransGen Text.AddsBlankLine text padded →
        ((ofText config padded).map unplaced).mapError Fault.unplaced =
          ((ofText config text).map unplaced).mapError Fault.unplaced :=
  ⟨ofText_crlf config h, fun _ hadds =>
    unplaced_ofText_congr config (Document.map_text_blocks_of_addsBlankLines hadds)⟩

/-- A value that goes on in the next line, with blank lines before the text, behind a blank line of
it and behind its end. -/
theorem ofText_lineEnds_joinedLines :
    let above := "# c\n".toList
    let line := " ".toList
    let below := "\na: 1\\\n+2\n\t\n%rec: T".toList
    let wide := "\u3000\t".toList
    let text := above ++ (line ++ below)
    let padded := (wide ++ '\n' :: (above ++ (line ++ '\n' :: (wide ++ below)))) ++ '\n' :: []
    '\r' ∉ text ∧ Relation.ReflTransGen Text.AddsBlankLine text padded ∧
      (ofText {} (Text.crlf text)).map withoutOffsets = (ofText {} text).map withoutOffsets ∧
      ((ofText {} padded).map unplaced).mapError Fault.unplaced =
        ((ofText {} text).map unplaced).mapError Fault.unplaced := by
  intro above line below wide text padded
  have hreturn : '\r' ∉ text := by decide +kernel
  have hwide : Text.IsBlankLine wide := by decide +kernel
  have hbehind : Text.AddsBlankLine text (above ++ (line ++ '\n' :: (wide ++ below))) :=
    .behind (by decide +kernel) (by decide +kernel) (by decide +kernel) hwide
  have hadds : Relation.ReflTransGen Text.AddsBlankLine text padded :=
    ((Relation.ReflTransGen.single hbehind).tail (.start hwide)).tail (.last (by decide))
  have hread := ofText_lineEnds {} hreturn
  exact ⟨hreturn, hadds, hread.1, hread.2 padded hadds⟩

end Database

end TextRecords
