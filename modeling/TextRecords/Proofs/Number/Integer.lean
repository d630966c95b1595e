import TextRecords.Proofs.Number.Digits

/-!
# Integers in text

An integer is read from its decimal digits, after a minus sign if it is negative, unless its
magnitude is beyond the greatest integer of 64 bits (`integer?_toString`), as that of the least
integer is. What is computed of integers is wrapped into 64 bits, which leaves it as it is if it
fits (`wrapped_of_fits`), and so everything that is read fits in 64 bits (`fits_of_integer?`).
-/

namespace TextRecords

/-- A text without blanks is left as it is. -/
theorem Text.trim_of_forall {text : List Char} (h : ∀ c ∈ text, isBlank c = false) :
    trim text = text := by
  have hdrop : ∀ list : List Char, (∀ c ∈ list, isBlank c = false) →
      list.dropWhile isBlank = list := by
    intro list hlist
    cases list with
    | nil => rfl
    | cons c rest =>
      exact List.dropWhile_cons_of_neg (Bool.eq_false_iff.1 (hlist c List.mem_cons_self))
  have hreverse := hdrop text.reverse fun c hc => h c (List.mem_reverse.1 hc)
  rw [trim, trimStart, hdrop text h, trimEnd, hreverse, List.reverse_reverse]

namespace Number

/-- A decimal digit is not blank. -/
theorem isBlank_of_isDigit {c : Char} (h : c.isDigit = true) : Text.isBlank c = false := by
  have hbounds : 48 ≤ c.toNat ∧ c.toNat ≤ 57 := Char.isDigit_iff_toNat.1 h
  simp only [Text.isBlank, Bool.or_eq_false_iff, Bool.and_eq_false_iff, decide_eq_false_iff_not,
    beq_eq_false_iff_ne]
  omega

/-- An integer fits in 64 bits when it is none below the least one and none beyond the greatest. -/
theorem fits_iff {value : Int} :
    fits value = true ↔ leastInteger ≤ value ∧ value ≤ greatestInteger := by
  rw [fits, Bool.and_eq_true, decide_eq_true_eq, decide_eq_true_eq]

/-- What is wrapped fits in 64 bits. -/
theorem fits_wrapped (value : Int) : fits (wrapped value) = true := by
  have hlower : -((wordCount : Int) / 2) ≤ wrapped value := Int.le_bmod (by decide)
  have hupper : wrapped value < ((wordCount : Int) + 1) / 2 := Int.bmod_lt (by decide)
  rw [fits_iff]
  simp only [wordCount, leastInteger, greatestInteger] at hlower hupper ⊢
  omega

/-- What fits in 64 bits is left as it is when it is wrapped. -/
theorem wrapped_of_fits {value : Int} (h : fits value = true) : wrapped value = value := by
  have hbounds := fits_iff.1 h
  refine Int.bmod_eq_of_le_mul_two ?_ ?_
  all_goals
    simp only [wordCount, leastInteger, greatestInteger] at hbounds ⊢
    omega

/-- Of the integers of 64 bits, only the least one has a negative that does not fit. -/
theorem fits_neg_eq_false_iff {value : Int} (h : fits value = true) :
    fits (-value) = false ↔ value = leastInteger := by
  have hbounds := fits_iff.1 h
  rw [Bool.eq_false_iff, ne_eq, fits_iff]
  simp only [leastInteger, greatestInteger] at hbounds ⊢
  omega

/-- The negative of the least integer is wrapped into the least integer. -/
theorem wrapped_neg_leastInteger : wrapped (-leastInteger) = leastInteger := by
  decide

/-- Decimal digits are read as an integer without a sign, if it fits. -/
theorem signed?_toDigits (number : Nat) :
    signed? decimalDigit? 10 (Nat.toDigits 10 number) = (some (number : Int)).filter fits := by
  unfold signed?
  split
  · next rest h => exact absurd (isDigit_of_mem_toDigits (h ▸ List.mem_cons_self)) (by decide)
  · next rest h => exact absurd (isDigit_of_mem_toDigits (h ▸ List.mem_cons_self)) (by decide)
  · rw [digits?_toDigits]
    rfl

/-- A text without a mark of hexadecimal digits is read as a decimal number. -/
theorem based?_of_unmarked {text : List Char} (h : ∀ c ∈ text, c ≠ 'x' ∧ c ≠ 'X') :
    based? text = signed? decimalDigit? 10 text := by
  unfold based?
  split
  · exact absurd rfl (h 'x' (by simp)).1
  · exact absurd rfl (h 'X' (by simp)).2
  · rfl

/-- Decimal digits are read as a decimal number, if it fits. -/
theorem based?_toDigits {number : Nat} (h : (number : Int) ≤ greatestInteger) :
    based? (Nat.toDigits 10 number) = some (number : Int) := by
  have hsign : leastInteger ≤ (number : Int) := by
    unfold leastInteger
    omega
  have hfits : fits number = true := fits_iff.2 ⟨hsign, h⟩
  have hmark : ∀ c ∈ Nat.toDigits 10 number, c ≠ 'x' ∧ c ≠ 'X' := by
    intro c hc
    have hdigit := isDigit_of_mem_toDigits hc
    constructor <;> (rintro rfl; exact absurd hdigit (by decide))
  rw [based?_of_unmarked hmark, signed?_toDigits, Option.filter_some, if_pos hfits]

/-- An integer is read from the text that it is written with, if its magnitude is that of an integer
of 64 bits. -/
theorem integer?_toString {value : Int} (hleast : leastInteger < value)
    (hgreatest : value ≤ greatestInteger) : integer? (toString value).toList = some value := by
  rw [Int.toString_eq_repr, Int.repr_eq_if]
  split
  · next hsign =>
    rw [Nat.toList_repr, integer?,
      Text.trim_of_forall fun c hc => isBlank_of_isDigit (isDigit_of_mem_toDigits hc)]
    have hvalue : ((value.toNat : Nat) : Int) = value := Int.toNat_of_nonneg hsign
    split
    · next rest h => exact absurd (isDigit_of_mem_toDigits (h ▸ List.mem_cons_self)) (by decide)
    · rw [based?_toDigits (by rwa [hvalue]), hvalue]
  · next hsign =>
    have hvalue : (((-value).toNat : Nat) : Int) = -value := Int.toNat_of_nonneg (by omega)
    have hfits : (((-value).toNat : Nat) : Int) ≤ greatestInteger := by
      simp only [leastInteger, greatestInteger] at hleast ⊢
      omega
    have hblank : ∀ c ∈ '-' :: Nat.toDigits 10 (-value).toNat, Text.isBlank c = false := by
      rw [List.forall_mem_cons]
      exact ⟨by decide, fun c hc => isBlank_of_isDigit (isDigit_of_mem_toDigits hc)⟩
    have htext : ("-" ++ (-value).toNat.repr).toList = '-' :: Nat.toDigits 10 (-value).toNat := by
      rw [String.toList_append, Nat.toList_repr]
      rfl
    have hwrapped : wrapped value = value :=
      wrapped_of_fits (fits_iff.2 ⟨Int.le_of_lt hleast, hgreatest⟩)
    rw [htext, integer?, Text.trim_of_forall hblank]
    simp only [based?_toDigits hfits, Option.map_some, hvalue, Int.neg_neg, hwrapped]

/-- No carriage return stands in a written integer. -/
theorem return_notMem_toString (value : Int) : '\r' ∉ (toString value).toList := by
  have hdigits : ∀ n : Nat, '\r' ∉ n.repr.toList := by
    intro n hmem
    rw [Nat.toList_repr] at hmem
    exact absurd (isDigit_of_mem_toDigits hmem) (by decide)
  rw [Int.toString_eq_repr, Int.repr_eq_if]
  split
  · exact hdigits _
  · rw [String.toList_append, List.mem_append, not_or]
    exact ⟨by decide, hdigits _⟩

/-- A number that is read fits in 64 bits. -/
theorem fits_of_based? {text : List Char} {value : Int} (h : based? text = some value) :
    fits value = true := by
  have hsigned : ∀ digit? base digits, signed? digit? base digits = some value →
      fits value = true := by
    intro digit? base digits hsigned
    unfold signed? at hsigned
    exact (Option.filter_eq_some_iff.1 hsigned).2
  unfold based? at h
  split at h
  · exact hsigned _ _ _ h
  · exact hsigned _ _ _ h
  · exact hsigned _ _ _ h

/-- An integer that is read fits in 64 bits. -/
theorem fits_of_integer? {text : List Char} {value : Int} (h : integer? text = some value) :
    fits value = true := by
  unfold integer? at h
  split at h
  · obtain ⟨magnitude, -, rfl⟩ := Option.map_eq_some_iff.1 h
    exact fits_wrapped _
  · exact fits_of_based? h

end Number

end TextRecords
