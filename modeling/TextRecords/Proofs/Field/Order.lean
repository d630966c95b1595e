import TextRecords.Proofs.Number.Order

/-!
# The order of values of one kind

Two values are ordered as numbers when both are numbers, and as texts otherwise. On values of one
kind, all numbers or all none, this is a linear order of what they are ordered by
(`compareValues_eq`), so it is transitive there (`compareValues_trans`).

It is not when the kinds are mixed: texts decide between a number and a text, and they may put a
text between two numbers that the numbers order the other way round (`not_trans_compareValues`).
-/

namespace TextRecords

/-- Whether two values are of one kind: both of them numbers, or none of them. -/
def Alike (a b : String) : Prop :=
  (Number.ofText? a).isSome = (Number.ofText? b).isSome

instance (a b : String) : Decidable (Alike a b) :=
  inferInstanceAs (Decidable (_ = _))

/-- What values are ordered by: numbers by their ranks, and other values by themselves. Numbers come
before other values. -/
def valueRank (value : String) : (ℤ ×ₗ ℤ ×ₗ ℤ) ⊕ₗ String :=
  match Number.ofText? value with
  | some x => toLex (.inl (Number.rank x.toModel.unpack))
  | none => toLex (.inr value)

/-- Strictly monotone images are ordered as what they are images of. -/
theorem compare_map {α β : Type} [LinearOrder α] [LinearOrder β] {f : α → β} (h : StrictMono f)
    (a b : α) : compare (f a) (f b) = compare a b := by
  rw [← cmp_eq_compare, ← cmp_eq_compare]
  exact h.cmp_map_eq a b

/-- Values of one kind are ordered by their ranks. -/
theorem compareValues_eq {a b : String} (h : Alike a b) :
    compareValues false a b = compare (valueRank a) (valueRank b) := by
  unfold Alike at h
  unfold compareValues compareNumeric? valueRank
  cases ha : Number.ofText? a with
  | some x =>
    rw [ha, Option.isSome_some, eq_comm, Option.isSome_iff_exists] at h
    obtain ⟨y, hb⟩ := h
    have hrank := Number.compareNumbers_eq (Number.isNaN_of_ofText? ha) (Number.isNaN_of_ofText? hb)
    rw [hb]
    exact hrank.trans (compare_map Sum.Lex.inl_strictMono _ _).symm
  | none =>
    rw [ha, Option.isSome_none, eq_comm, Option.isSome_eq_false_iff, Option.isNone_iff_eq_none] at h
    rw [h]
    exact (compare_map Sum.Lex.inr_strictMono a b).symm

/-- Values of different kinds are ordered as texts. -/
theorem compareValues_of_not_alike {a b : String} (h : ¬ Alike a b) :
    compareValues false a b = compare a b := by
  unfold Alike at h
  unfold compareValues compareNumeric?
  cases ha : Number.ofText? a with
  | none => rfl
  | some x =>
    cases hb : Number.ofText? b with
    | none => rfl
    | some y =>
      rw [ha, hb] at h
      exact absurd rfl h

/-- Values are ordered alike from both sides. -/
theorem compareValues_swap (a b : String) :
    (compareValues false a b).swap = compareValues false b a := by
  by_cases h : Alike a b
  · rw [compareValues_eq h, compareValues_eq h.symm, ← Std.OrientedOrd.eq_swap]
  · have hback : ¬ Alike b a := fun hback => h hback.symm
    rw [compareValues_of_not_alike h, compareValues_of_not_alike hback, ← Std.OrientedOrd.eq_swap]

/-- The order of values is transitive on values of one kind. -/
theorem compareValues_trans {a b c : String} (hab : Alike a b) (hbc : Alike b c)
    (hfirst : compareValues false a b ≠ .gt) (hsecond : compareValues false b c ≠ .gt) :
    compareValues false a c ≠ .gt := by
  have hac : Alike a c := hab.trans hbc
  rw [compareValues_eq hab, compare_le_iff_le] at hfirst
  rw [compareValues_eq hbc, compare_le_iff_le] at hsecond
  rw [compareValues_eq hac, compare_le_iff_le]
  exact hfirst.trans hsecond

/-- A version stands between two spellings of a number as texts, which are equal as numbers. -/
theorem not_trans_compareValues :
    compareValues false "1.0" "1" ≠ .gt ∧ compareValues false "1" "1-beta" ≠ .gt ∧
      compareValues false "1.0" "1-beta" = .gt := by
  decide +kernel

end TextRecords
