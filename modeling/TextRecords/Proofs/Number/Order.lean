import Mathlib
import TextRecords.Field.Order

/-!
# The order of numbers in text

A number that a text denotes is never the double that stands for no number (`isNaN_of_ofText?`):
digits are scaled by powers of ten that are neither zero nor infinite, rounded and negated, and none
of these steps makes such a double.

All other doubles are ordered by sign, exponent and mantissa, which is their `rank`. So the order of
two numbers is that of their ranks (`compareNumbers_eq`), and as such linear.
-/

namespace TextRecords.Number

open Float.Model (Format UnpackedFloat)

/-- Whether a double is neither zero nor infinite, nor stands for no number. -/
def isRegular : UnpackedFloat → Bool
  | .finite _ _ _ _ => true
  | _ => false

section Unpacked

variable (spec : Format)

/-- A pattern of bits stands for a number, if its exponent is not full or its mantissa is zero. -/
theorem isNaN_unpack {bits : BitVec spec.numBits}
    (h : UnpackedFloat.unpackExponent bits = -1#_ → UnpackedFloat.unpackMantissa bits = 0#_) :
    (UnpackedFloat.unpack spec bits).isNaN = false := by
  unfold UnpackedFloat.unpack
  dsimp only
  split
  · next hexponent =>
    split
    · rfl
    · next hmantissa => exact absurd (h hexponent) hmantissa
  · split
    · split <;> rfl
    · rfl

/-- Components stand for a number, if their exponent is not full or their mantissa is zero. -/
theorem isNaN_packComponents {sign : UnpackedFloat.Sign} {exponent : BitVec spec.exponentBits}
    {mantissa : BitVec spec.mantissaBitsWithoutImplicit} (h : exponent = -1#_ → mantissa = 0#_) :
    (UnpackedFloat.unpack spec
      (UnpackedFloat.packComponents spec sign exponent mantissa)).isNaN = false := by
  apply isNaN_unpack
  rw [UnpackedFloat.unpackExponent_packComponents, UnpackedFloat.unpackMantissa_packComponents]
  exact h

/-- An exponent below the full one is not the full one. -/
theorem ofNat_ne_neg_one {bits n : Nat} (h : n + 1 < 2 ^ bits) :
    BitVec.ofNat bits n ≠ -BitVec.ofNat bits 1 := by
  intro heq
  have hnat := congrArg BitVec.toNat heq
  rw [BitVec.neg_one_eq_allOnes, BitVec.toNat_allOnes, BitVec.toNat_ofNat,
    Nat.mod_eq_of_lt (by omega)] at hnat
  omega

/-- A number that is packed stands for a number. -/
theorem isNaN_pack {u : UnpackedFloat} (h : u.isNaN = false) :
    (UnpackedFloat.unpack spec (UnpackedFloat.pack spec u)).isNaN = false := by
  cases u with
  | notANumber => cases h
  | infinity sign => exact isNaN_packComponents spec fun _ => rfl
  | zero sign => exact isNaN_packComponents spec fun _ => rfl
  | finite sign mantissa exponent hmantissa =>
    unfold UnpackedFloat.pack
    dsimp only
    split
    · exact isNaN_packComponents spec fun _ => rfl
    · next hlt =>
      have hbelow := Nat.lt_of_not_le hlt
      split
      · exact isNaN_packComponents spec fun hfull => absurd hfull (ofNat_ne_neg_one hbelow)
      · have hzero : 0 + 1 < 2 ^ spec.exponentBits := Nat.one_lt_two_pow spec.he.ne'
        exact isNaN_packComponents spec fun hfull => absurd hfull (ofNat_ne_neg_one hzero)

/-- Rounding makes a number. -/
theorem isNaN_roundWithAccuracy (sign : UnpackedFloat.Sign) (mantissa : Nat) (exponent : Int)
    (accuracy : UnpackedFloat.Accuracy) :
    (UnpackedFloat.roundWithAccuracy spec sign mantissa exponent accuracy).isNaN = false := by
  unfold UnpackedFloat.roundWithAccuracy
  dsimp only
  split <;> rfl

/-- An integer is a number. -/
theorem isNaN_ofInt (value : Int) : (UnpackedFloat.ofInt spec value).isNaN = false := by
  unfold UnpackedFloat.ofInt UnpackedFloat.normalize
  split
  · exact isNaN_roundWithAccuracy spec _ _ _ _
  · rfl
  · exact isNaN_roundWithAccuracy spec _ _ _ _

/-- The negative of a number is a number. -/
theorem isNaN_neg {u : UnpackedFloat} (h : u.isNaN = false) : u.neg.isNaN = false := by
  cases u with
  | notANumber => cases h
  | infinity sign => rfl
  | zero sign => rfl
  | finite sign mantissa exponent hmantissa => rfl

variable {u v : UnpackedFloat}

/-- The product of a number with one that is neither zero nor infinite is a number. -/
theorem isNaN_mul (hu : u.isNaN = false) (hv : isRegular v = true) :
    (UnpackedFloat.mul spec u v).isNaN = false := by
  cases v with
  | notANumber => cases hv
  | infinity sign => cases hv
  | zero sign => cases hv
  | finite sign mantissa exponent hmantissa =>
    cases u with
    | notANumber => cases hu
    | infinity sign => rfl
    | zero sign => rfl
    | finite sign mantissa exponent hmantissa => exact isNaN_roundWithAccuracy spec _ _ _ _

/-- The quotient of a number by one that is neither zero nor infinite is a number. -/
theorem isNaN_div (hu : u.isNaN = false) (hv : isRegular v = true) :
    (UnpackedFloat.div spec u v).isNaN = false := by
  cases v with
  | notANumber => cases hv
  | infinity sign => cases hv
  | zero sign => cases hv
  | finite sign mantissa exponent hmantissa =>
    cases u with
    | notANumber => cases hu
    | infinity sign => rfl
    | zero sign => rfl
    | finite sign mantissa exponent hmantissa => exact isNaN_roundWithAccuracy spec _ _ _ _

/-- Digits with an exponent are a number. -/
theorem isNaN_ofScientific (digits : Nat) (exponent : Int) :
    (UnpackedFloat.ofScientific spec digits exponent).isNaN = false := by
  unfold UnpackedFloat.ofScientific
  split
  · rfl
  · split
    · rfl
    · split
      · rfl
      · split
        · exact isNaN_mul spec rfl rfl
        · exact isNaN_div spec rfl rfl

end Unpacked

/-- The powers of ten that a double holds exactly are neither zero nor infinite. -/
theorem isRegular_powerOfTen :
    ∀ power ∈ Float.exactlyRepresentablePowersOfTen, isRegular power.toModel.unpack = true := by
  decide +kernel

/-- The negative of a double that is a number is one. -/
theorem isNaN_negFloat {x : Float} (h : x.isNaN = false) : (-x).isNaN = false :=
  isNaN_pack .binary64 (isNaN_neg h)

/-- A double that is read off digits and an exponent is a number. -/
theorem isNaN_ofScientificFloat (digits : Nat) (negative : Bool) (exponent : Nat) :
    (Float.ofScientific digits negative exponent).isNaN = false := by
  have hdigits : digits.toUInt64.toFloat.toModel.unpack.isNaN = false :=
    isNaN_pack .binary64 (isNaN_ofInt .binary64 _)
  unfold Float.ofScientific
  split
  · next hexact =>
    have hpower := isRegular_powerOfTen _ (Array.getElem_mem (Nat.lt_succ_of_le hexact.2))
    dsimp only
    split
    · exact isNaN_pack .binary64 (isNaN_div .binary64 hdigits hpower)
    · exact isNaN_pack .binary64 (isNaN_mul .binary64 hdigits hpower)
  · exact isNaN_pack .binary64 (isNaN_ofScientific .binary64 _ _)

/-- The double of a decimal number is a number. -/
theorem isNaN_toFloat (number : Decimal) : number.toFloat.isNaN = false := by
  have hsigned : ∀ magnitude : Float, magnitude.isNaN = false →
      (if number.negative then -magnitude else magnitude).isNaN = false := by
    intro magnitude hmagnitude
    split
    · exact isNaN_negFloat hmagnitude
    · exact hmagnitude
  unfold Decimal.toFloat
  apply hsigned
  split
  · exact isNaN_ofScientificFloat 0 true 1
  · split
    · decide +kernel
    · exact isNaN_ofScientificFloat _ _ _

/-- The double of an integer is a number. -/
theorem isNaN_ofIntFloat (value : Int) : (Float.ofInt value).isNaN = false := by
  cases value with
  | ofNat n => exact isNaN_ofScientificFloat n false 0
  | negSucc n => exact isNaN_negFloat (isNaN_ofScientificFloat (n + 1) false 0)

/-- The number that a text denotes is one. -/
theorem isNaN_of_ofText? {text : String} {x : Float} (h : ofText? text = some x) :
    x.isNaN = false := by
  unfold ofText? at h
  dsimp only at h
  split at h
  · rw [← Option.some.inj h]
    exact isNaN_ofIntFloat _
  · obtain ⟨number, -, rfl⟩ := Option.map_eq_some_iff.1 h
    exact isNaN_toFloat number

/-- The place of a double in the order of numbers. The greater exponent is the greater number, or
the lesser one of two that are negative, and the mantissa decides between equal exponents. -/
def rank : UnpackedFloat → ℤ ×ₗ ℤ ×ₗ ℤ
  | .infinity .negative => toLex (-2, toLex (0, 0))
  | .finite .negative mantissa exponent _ => toLex (-1, toLex (-exponent, -(mantissa : ℤ)))
  | .zero _ | .notANumber => toLex (0, toLex (0, 0))
  | .finite .positive mantissa exponent _ => toLex (1, toLex (exponent, (mantissa : ℤ)))
  | .infinity .positive => toLex (2, toLex (0, 0))

/-- The order of exponents, and of mantissas behind equal exponents. -/
theorem then_eq_lt_iff {exponent other : ℤ} {mantissa more : ℕ} :
    (compare exponent other).then (compare mantissa more) = .lt ↔
      toLex (exponent, (mantissa : ℤ)) < toLex (other, (more : ℤ)) := by
  rw [Ordering.then_eq_lt, compare_lt_iff_lt, compare_eq_iff_eq, compare_lt_iff_lt,
    Prod.Lex.toLex_lt_toLex]
  dsimp only
  rw [Int.ofNat_lt]

/-- The same order is that of the negated exponents and mantissas the other way round. -/
theorem then_eq_gt_iff {exponent other : ℤ} {mantissa more : ℕ} :
    (compare exponent other).then (compare mantissa more) = .gt ↔
      toLex (-exponent, -(mantissa : ℤ)) < toLex (-other, -(more : ℤ)) := by
  rw [Ordering.then_eq_gt, compare_gt_iff_gt, compare_eq_iff_eq, compare_gt_iff_gt,
    Prod.Lex.toLex_lt_toLex]
  dsimp only
  rw [Int.neg_lt_neg_iff, Int.neg_inj, Int.neg_lt_neg_iff, Int.ofNat_lt]

/-- One number is less than another when it ranks below it. -/
theorem lt_iff_rank_lt {u v : UnpackedFloat} (hu : u.isNaN = false) (hv : v.isNaN = false) :
    u.lt v = true ↔ rank u < rank v := by
  -- Numbers of different signs or kinds are told apart by the first part of the rank.
  cases u with
  | notANumber => cases hu
  | infinity s =>
    cases v with
    | notANumber => cases hv
    | infinity t => cases s <;> cases t <;> decide
    | zero t => cases s <;> cases t <;> decide
    | finite t n f hn =>
      cases s <;> cases t <;>
        simp [UnpackedFloat.lt, UnpackedFloat.compare, rank, Prod.Lex.toLex_lt_toLex]
  | zero s =>
    cases v with
    | notANumber => cases hv
    | infinity t => cases s <;> cases t <;> decide
    | zero t => cases s <;> cases t <;> decide
    | finite t n f hn =>
      cases t <;> simp [UnpackedFloat.lt, UnpackedFloat.compare, rank, Prod.Lex.toLex_lt_toLex]
  | finite s m e hm =>
    cases v with
    | notANumber => cases hv
    | infinity t =>
      cases s <;> cases t <;>
        simp [UnpackedFloat.lt, UnpackedFloat.compare, rank, Prod.Lex.toLex_lt_toLex]
    | zero t =>
      cases s <;> simp [UnpackedFloat.lt, UnpackedFloat.compare, rank, Prod.Lex.toLex_lt_toLex]
    | finite t n f hn =>
      have hsame : ∀ (sign : ℤ) (first second : ℤ ×ₗ ℤ),
          toLex (sign, first) < toLex (sign, second) ↔ first < second := by
        intro sign first second
        simp [Prod.Lex.toLex_lt_toLex]
      cases s with
      | negative =>
        cases t with
        | negative =>
          rw [rank, rank, hsame, ← then_eq_gt_iff, UnpackedFloat.lt, UnpackedFloat.compare,
            beq_iff_eq, Option.some.injEq, Ordering.swap_eq_lt]
        | positive => simp [UnpackedFloat.lt, UnpackedFloat.compare, rank, Prod.Lex.toLex_lt_toLex]
      | positive =>
        cases t with
        | negative => simp [UnpackedFloat.lt, UnpackedFloat.compare, rank, Prod.Lex.toLex_lt_toLex]
        | positive =>
          rw [rank, rank, hsame, ← then_eq_lt_iff, UnpackedFloat.lt, UnpackedFloat.compare,
            beq_iff_eq, Option.some.injEq]

/-- The order of two doubles that are numbers is that of their ranks. -/
theorem compareNumbers_eq {x y : Float} (hx : x.isNaN = false) (hy : y.isNaN = false) :
    compareNumbers x y = compare (rank x.toModel.unpack) (rank y.toModel.unpack) := by
  have hlt : ∀ {x y : Float}, x.isNaN = false → y.isNaN = false →
      (x < y ↔ rank x.toModel.unpack < rank y.toModel.unpack) := by
    intro x y hx hy
    rw [← lt_iff_rank_lt hx hy]
    exact decide_eq_true_iff
  unfold compareNumbers
  simp only [hlt hx hy, hlt hy hx]
  generalize rank x.toModel.unpack = first, rank y.toModel.unpack = second
  rcases lt_trichotomy first second with hlt | heq | hgt
  · rw [if_pos hlt, compare_lt_iff_lt.2 hlt]
  · rw [heq, if_neg (lt_irrefl _), if_neg (lt_irrefl _), compare_eq_iff_eq.2 rfl]
  · rw [if_neg hgt.not_gt, if_pos hgt, compare_gt_iff_gt.2 hgt]

end TextRecords.Number
