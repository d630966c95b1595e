import Mathlib.Order.Bounds.Basic
import TextRecords.Proofs.Schema.Admission

/-!
# What size rules mean

A size rule is written with the sign of a comparison and a number (`SizeRule.ofText?_eq_some_iff`),
and it allows the numbers of records of which the comparison holds. The least and the greatest
number that it gives are those of these numbers (`SizeRule.allows_iff_holds`). Only the rule that
asks for fewer than no records is at odds with its sign: no number is below zero, but the greatest
number is taken to be zero and a set without records is allowed (`SizeRule.below_zero_allows_zero`).
A rule that asks for more than the last number of 64 bits is no limit, since its least number wraps
around (`SizeRule.allows_above_last`).
-/

namespace TextRecords

/-- A first character that is not blank stays when the blanks at the ends are taken off. -/
theorem Text.trim_cons {c : Char} (hc : isBlank c = false) (rest : List Char) :
    trim (c :: rest) = c :: trimEnd rest := by
  have hkept : ¬isBlank c = true := Bool.eq_false_iff.1 hc
  rw [trim, trimStart, List.dropWhile_cons_of_neg hkept, trimEnd, trimEnd, List.reverse_cons,
    List.dropWhile_append]
  split
  · next hblank =>
    rw [List.isEmpty_iff.1 hblank, List.dropWhile_cons_of_neg hkept]
    rfl
  · rw [List.reverse_append]
    rfl

namespace SizeComparison

/-- The signs of a comparison. A rule without a sign sets an upper limit. -/
def signs : SizeComparison → List (List Char)
  | below => [['<']]
  | atMost => [['<', '='], []]
  | exactly => [['=']]
  | above => [['>']]
  | atLeast => [['>', '=']]

/-- What a comparison says of a number of records, next to the number in the rule. -/
def Holds : SizeComparison → Nat → Nat → Prop
  | below, records, count => records < count
  | atMost, records, count => records ≤ count
  | exactly, records, count => records = count
  | above, records, count => records > count
  | atLeast, records, count => records ≥ count

end SizeComparison

namespace SizeRule

/-- No number is read behind blanks where a character of a sign stands. -/
theorem count?_trim_sign {c : Char} (hc : c = '<' ∨ c = '=' ∨ c = '>') (rest : List Char) :
    Number.count? (Text.trim (c :: rest)) = none := by
  have hblank : Text.isBlank c = false := by
    obtain rfl | rfl | rfl := hc <;> decide
  have hdigit : Number.decimalDigit? c = none := by
    obtain rfl | rfl | rfl := hc <;> decide
  have hplus : c ≠ '+' := by
    obtain rfl | rfl | rfl := hc <;> decide
  rw [Text.trim_cons hblank]
  unfold Number.count?
  split
  · next heq => exact absurd (List.cons.inj heq).1 hplus
  · simp [Number.digits?, Number.extend?, hdigit]

/-- A text starts with a sign of its comparison. -/
theorem exists_sign_append (text : List Char) :
    ∃ sign ∈ (comparisonOf text).1.signs, text = sign ++ (comparisonOf text).2 := by
  unfold comparisonOf
  split
  · exact ⟨['<', '='], by simp [SizeComparison.signs], rfl⟩
  · exact ⟨['>', '='], by simp [SizeComparison.signs], rfl⟩
  · exact ⟨['<'], by simp [SizeComparison.signs], rfl⟩
  · exact ⟨['>'], by simp [SizeComparison.signs], rfl⟩
  · exact ⟨['='], by simp [SizeComparison.signs], rfl⟩
  · exact ⟨[], by simp [SizeComparison.signs], rfl⟩

/-- A sign before a text that goes on with none is the sign of the comparison. -/
theorem comparisonOf_append {comparison : SizeComparison} {sign rest : List Char}
    (hsign : sign ∈ comparison.signs)
    (hrest : ∀ c tail, rest = c :: tail → ¬(c = '<' ∨ c = '=' ∨ c = '>')) :
    comparisonOf (sign ++ rest) = (comparison, rest) := by
  have hcut : comparisonOf rest = (.atMost, rest) := by
    unfold comparisonOf
    split
    · exact absurd (.inl rfl) (hrest _ _ rfl)
    · exact absurd (.inr (.inr rfl)) (hrest _ _ rfl)
    · exact absurd (.inl rfl) (hrest _ _ rfl)
    · exact absurd (.inr (.inr rfl)) (hrest _ _ rfl)
    · exact absurd (.inr (.inl rfl)) (hrest _ _ rfl)
    · rfl
  have hequals : ∀ tail, rest ≠ '=' :: tail :=
    fun tail htail => hrest _ _ htail (.inr (.inl rfl))
  cases comparison with
  | below =>
    rw [List.mem_singleton.1 hsign, List.singleton_append, comparisonOf]
    exact hequals
  | atMost =>
    obtain rfl | hnone := List.mem_cons.1 hsign
    · rfl
    · rw [List.mem_singleton.1 hnone, List.nil_append, hcut]
  | exactly =>
    rw [List.mem_singleton.1 hsign]
    rfl
  | above =>
    rw [List.mem_singleton.1 hsign, List.singleton_append, comparisonOf]
    exact hequals
  | atLeast =>
    rw [List.mem_singleton.1 hsign]
    rfl

/-- A rule is written with a sign of its comparison and its number, with blanks around them. -/
theorem ofText?_eq_some_iff {text : List Char} {rule : SizeRule} :
    ofText? text = some rule ↔ ∃ sign ∈ rule.comparison.signs, ∃ rest,
      Text.trim text = sign ++ rest ∧ Number.count? (Text.trim rest) = some rule.count := by
  constructor
  · intro h
    obtain ⟨count, hcount, rfl⟩ := Option.map_eq_some_iff.1 h
    obtain ⟨sign, hsign, htext⟩ := exists_sign_append (Text.trim text)
    exact ⟨sign, hsign, _, htext, hcount⟩
  · rintro ⟨sign, hsign, rest, htext, hcount⟩
    have hrest : ∀ c tail, rest = c :: tail → ¬(c = '<' ∨ c = '=' ∨ c = '>') := by
      rintro c tail rfl hc
      rw [count?_trim_sign hc] at hcount
      cases hcount
    rw [ofText?, htext, comparisonOf_append hsign hrest]
    exact Option.map_eq_some_iff.2 ⟨_, hcount, rfl⟩

/-- The number after that of a rule is one of 64 bits, unless it is the last one of them. -/
theorem succ_mod_wordCount {count : Nat} (h : count < Number.wordCount - 1) :
    (count + 1) % Number.wordCount = count + 1 :=
  Nat.mod_eq_of_lt (by omega)

/-- A rule allows the numbers of which its comparison holds, and zero if it asks for fewer than
none. -/
theorem allows_iff_holds_or {rule : SizeRule} {records : Nat}
    (hcount : rule.count < Number.wordCount - 1) :
    rule.allows records = true ↔
      rule.comparison.Holds records rule.count ∨ rule = ⟨.below, 0⟩ ∧ records = 0 := by
  obtain ⟨comparison, count⟩ := rule
  rw [allows_iff]
  cases comparison with
  | below =>
    -- The greatest number is one less than the count, or zero where there is none less.
    have hbound : records ≤ count - 1 ↔ records < count ∨ count = 0 ∧ records = 0 := by omega
    simpa [least?, greatest?, SizeComparison.Holds] using hbound
  | atMost => simp [least?, greatest?, SizeComparison.Holds]
  | exactly =>
    have hbounds : count ≤ records ∧ records ≤ count ↔ records = count := by omega
    simpa [least?, greatest?, SizeComparison.Holds] using hbounds
  | above =>
    have hleast : least? ⟨.above, count⟩ = some (count + 1) :=
      congrArg some (succ_mod_wordCount hcount)
    rw [hleast]
    constructor
    · intro hbounds
      exact .inl (hbounds.1 (count + 1) rfl)
    · rintro (hholds | ⟨hrule, -⟩)
      · exact ⟨fun least hleast => Option.some.inj hleast ▸ hholds, nofun⟩
      · cases hrule
  | atLeast => simp [least?, greatest?, SizeComparison.Holds]

/-- More records than the last number of 64 bits are no more than none: every number is allowed. -/
theorem allows_above_last (records : Nat) :
    allows ⟨.above, Number.wordCount - 1⟩ records = true :=
  allows_iff.2 ⟨fun _ hleast => Option.some.inj hleast ▸ Nat.zero_le records, nofun⟩

/-- The least number that a rule gives is that of the numbers of which its comparison holds. -/
theorem isLeast_of_least? {rule : SizeRule} {least : Nat} (h : rule.least? = some least)
    (hcount : rule.count < Number.wordCount - 1) :
    IsLeast {records | rule.comparison.Holds records rule.count} least := by
  obtain ⟨comparison, count⟩ := rule
  cases comparison with
  | below => cases h
  | atMost => cases h
  | exactly =>
    obtain rfl : count = least := Option.some.inj h
    exact ⟨rfl, fun records hrecords => Nat.le_of_eq hrecords.symm⟩
  | above =>
    obtain rfl : count + 1 = least := (succ_mod_wordCount hcount).symm.trans (Option.some.inj h)
    exact ⟨Nat.lt_succ_self count, fun records hrecords => hrecords⟩
  | atLeast =>
    obtain rfl : count = least := Option.some.inj h
    exact ⟨Nat.le_refl count, fun records hrecords => hrecords⟩

/-- The greatest number that a rule gives is that of the numbers of which its comparison holds,
unless the rule asks for fewer than none. -/
theorem isGreatest_of_greatest? {rule : SizeRule} {greatest : Nat}
    (h : rule.greatest? = some greatest) (hrule : rule ≠ ⟨.below, 0⟩) :
    IsGreatest {records | rule.comparison.Holds records rule.count} greatest := by
  obtain ⟨comparison, count⟩ := rule
  cases comparison with
  | below =>
    obtain rfl : count - 1 = greatest := Option.some.inj h
    have hpos : 0 < count := Nat.pos_of_ne_zero fun hzero => hrule (by rw [hzero])
    exact ⟨Nat.sub_one_lt_of_lt hpos, fun records hrecords => Nat.le_sub_one_of_lt hrecords⟩
  | atMost =>
    obtain rfl : count = greatest := Option.some.inj h
    exact ⟨Nat.le_refl count, fun records hrecords => hrecords⟩
  | exactly =>
    obtain rfl : count = greatest := Option.some.inj h
    exact ⟨rfl, fun records hrecords => Nat.le_of_eq hrecords⟩
  | above => cases h
  | atLeast => cases h

/-- A rule gives no bound beyond the number after its own. -/
theorem bounds_le (rule : SizeRule) :
    (∀ least ∈ rule.least?, least ≤ rule.count + 1) ∧
      ∀ greatest ∈ rule.greatest?, greatest ≤ rule.count := by
  obtain ⟨comparison, count⟩ := rule
  cases comparison with
  | above => exact ⟨fun least h => Option.some.inj h ▸ Nat.mod_le _ _, nofun⟩
  | _ => simp [least?, greatest?]

/-- A rule that is read from a text is written with a sign of its comparison and its number. It
allows the numbers of records of which the comparison holds, and what it gives as the least and as
the greatest number are the least and the greatest of these numbers, of 64 bits both, if its number
is not the last one of 64 bits. Only fewer than none cannot be asked for: then no number is the
greatest, the rule gives zero, and zero is allowed. -/
theorem allows_iff_holds {text : List Char} {rule : SizeRule} (htext : ofText? text = some rule)
    (hcount : rule.count < Number.wordCount - 1) :
    (∃ sign ∈ rule.comparison.signs, ∃ rest,
      Text.trim text = sign ++ rest ∧ Number.count? (Text.trim rest) = some rule.count) ∧
    (∀ records, rule.allows records = true ↔
      rule.comparison.Holds records rule.count ∨ rule = ⟨.below, 0⟩ ∧ records = 0) ∧
    (∀ least ∈ rule.least?, least < Number.wordCount ∧
      IsLeast {records | rule.comparison.Holds records rule.count} least) ∧
    (∀ greatest ∈ rule.greatest?, greatest < Number.wordCount ∧
      (IsGreatest {records | rule.comparison.Holds records rule.count} greatest ↔
        rule ≠ ⟨.below, 0⟩)) := by
  obtain ⟨hleast, hgreatest⟩ := rule.bounds_le
  refine ⟨ofText?_eq_some_iff.1 htext, fun _ => allows_iff_holds_or hcount, fun least h => ⟨?_, ?_⟩,
    fun greatest h => ⟨?_, ?_, ?_⟩⟩
  · have hle := hleast least h
    omega
  · exact isLeast_of_least? h hcount
  · have hle := hgreatest greatest h
    omega
  · rintro hmost rfl
    exact absurd hmost.1 (Nat.not_lt_zero greatest)
  · exact isGreatest_of_greatest? h

/-- Fewer than a hundred records are as many as ninety-nine at most. -/
theorem allows_iff_holds_below_hundred :
    let rule : SizeRule := ⟨.below, 100⟩
    ofText? "< 100".toList = some rule ∧ rule.count < Number.wordCount - 1 ∧
      (∀ records, rule.allows records = true ↔ records < 100) ∧
      rule.greatest? = some 99 ∧ IsGreatest {records | records < 100} 99 := by
  intro rule
  have htext : ofText? "< 100".toList = some rule := by decide +kernel
  have hcount : rule.count < Number.wordCount - 1 := by decide
  have hrule : rule ≠ ⟨.below, 0⟩ := by decide
  obtain ⟨-, hallows, -, hgreatest⟩ := allows_iff_holds htext hcount
  refine ⟨htext, hcount, fun records => ?_, rfl, ((hgreatest 99 rfl).2).2 hrule⟩
  rw [hallows records]
  exact or_iff_left fun h => hrule h.1

/-- A set without records is allowed though fewer than none are asked for, and the greatest number
is zero, which is none of those that are asked for. -/
theorem below_zero_allows_zero :
    ∃ rule, ofText? "< 0".toList = some rule ∧ rule.comparison = .below ∧
      rule.count < Number.wordCount - 1 ∧
      ¬(rule.allows 0 = true ↔ rule.comparison.Holds 0 rule.count) ∧
      rule.greatest? = some 0 ∧
      ¬IsGreatest {records | rule.comparison.Holds records rule.count} 0 := by
  have htext : ofText? "< 0".toList = some ⟨.below, 0⟩ := by decide +kernel
  have hnone : ¬SizeComparison.below.Holds 0 0 := Nat.lt_irrefl 0
  exact ⟨_, htext, rfl, by decide, fun h => hnone (h.1 rfl), rfl, fun h => hnone h.1⟩

end SizeRule

end TextRecords
