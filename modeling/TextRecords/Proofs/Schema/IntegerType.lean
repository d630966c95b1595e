import TextRecords.Proofs.Number.Numeral
import TextRecords.Schema.FieldType

/-!
# Integers and ranges of integers

A field of integers holds what is written as an integer (`isInt_iff`). A range holds what is read as
an integer between its bounds. The two go together but for texts with one sign too many, which a
range may hold and a field of integers does not, and for the least integer of 64 bits, which a field
of integers holds and a range does not (`accepts_integers`).
-/

namespace TextRecords.FieldType

open Number (IsInteger Marked Oversigned)

/-- A text that does not start with a minus sign is left as it is. -/
theorem unsigned_of_head?_ne {text : List Char} (h : text.head? ≠ some '-') :
    unsigned text = text := by
  unfold unsigned
  split
  · exact absurd rfl h
  · rfl

/-- A text is an integer when there are the mark of a base and digits behind its minus sign. -/
theorem exists_isInteger_iff {text : List Char} :
    (∃ value, IsInteger text value) ↔
      ∃ mark digits number, unsigned text = mark ++ digits ∧ Marked mark digits number := by
  constructor
  · rintro ⟨value, hinteger⟩
    cases hinteger with
    | @positive mark digits number hmarked =>
      exact ⟨mark, digits, number, unsigned_of_head?_ne hmarked.head?_ne_minus, hmarked⟩
    | @negative mark digits number hmarked => exact ⟨mark, digits, number, rfl, hmarked⟩
  · rintro ⟨mark, digits, number, htext, hmarked⟩
    unfold unsigned at htext
    split at htext
    · rw [htext]
      exact ⟨_, .negative hmarked⟩
    · rw [htext]
      exact ⟨_, .positive hmarked⟩

/-- A text with one sign too many is no integer: there is a sign behind its minus sign. -/
theorem not_isInteger_of_oversigned {text : List Char} {value : Int} (h : Oversigned text value) :
    ¬∃ number, IsInteger text number := by
  have hsigned : ∃ c ∈ unsigned text, c = '-' ∨ c = '+' := by
    cases h with
    | positive hmarked hsign _ hne hminus =>
      obtain ⟨c, hmem, hc⟩ := hsign.exists_mem hne
      rw [unsigned_of_head?_ne (hmarked.head?_signed_ne_minus hsign hminus)]
      exact ⟨c, List.mem_append_right _ (List.mem_append_left _ hmem), hc⟩
    | negative hmarked hsign _ hne =>
      obtain ⟨c, hmem, hc⟩ := hsign.exists_mem hne
      exact ⟨c, List.mem_append_right _ (List.mem_append_left _ hmem), hc⟩
  obtain ⟨c, hmem, hc⟩ := hsigned
  rw [exists_isInteger_iff]
  rintro ⟨mark, digits, number, htext, hmarked⟩
  exact hmarked.notMem_of_sign hc (htext ▸ hmem)

/-- Digits behind `0x` or `0X` are hexadecimal ones. -/
theorem exists_marked_hexadecimal_iff {x : Char} (hx : x = 'x' ∨ x = 'X') {text : List Char} :
    (∃ mark digits number, '0' :: x :: text = mark ++ digits ∧ Marked mark digits number) ↔
      text ≠ [] ∧ ∀ c ∈ text, Text.isHexDigit c = true := by
  have hdecimal : Number.decimalDigit? x = none := by
    obtain rfl | rfl := hx <;> decide
  have hwrites := Number.exists_writes_iff Text.hexDigit? 16 text
  refine Iff.trans ⟨?_, ?_⟩ hwrites
  · rintro ⟨mark, digits, number, htext, hmarked⟩
    cases hmarked with
    | decimal hdigits =>
      have hmem : x ∈ digits := by
        rw [List.nil_append] at htext
        simp [← htext]
      have hdigit := hdigits.digits x hmem
      simp [hdecimal] at hdigit
    | hexadecimal _ hdigits =>
      simp only [List.cons_append, List.nil_append, List.cons.injEq, true_and] at htext
      exact ⟨number, htext.2 ▸ hdigits⟩
  · rintro ⟨number, hdigits⟩
    exact ⟨['0', x], text, number, rfl, .hexadecimal hx hdigits⟩

/-- Digits without a mark are decimal ones. -/
theorem exists_marked_decimal_iff {text : List Char}
    (hmark : ∀ x rest, text = '0' :: x :: rest → ¬(x = 'x' ∨ x = 'X')) :
    (∃ mark digits number, text = mark ++ digits ∧ Marked mark digits number) ↔
      text ≠ [] ∧ ∀ c ∈ text, c.isDigit = true := by
  have hwrites := Number.exists_writes_iff Number.decimalDigit? 10 text
  simp only [Number.isSome_decimalDigit?] at hwrites
  refine Iff.trans ⟨?_, ?_⟩ hwrites
  · rintro ⟨mark, digits, number, htext, hmarked⟩
    cases hmarked with
    | decimal hdigits => exact ⟨number, htext ▸ hdigits⟩
    | hexadecimal hx _ => exact absurd hx (hmark _ _ htext)
  · rintro ⟨number, hdigits⟩
    exact ⟨[], text, number, rfl, .decimal hdigits⟩

/-- A field of integers holds what is written as an integer. -/
theorem isInt_iff {text : List Char} : isInt text = true ↔ ∃ value, IsInteger text value := by
  rw [exists_isInteger_iff]
  fun_cases isInt text with
  | case1 digits htext =>
    rw [htext, exists_marked_hexadecimal_iff (.inl rfl)]
    simp
  | case2 digits htext =>
    rw [htext, exists_marked_hexadecimal_iff (.inr rfl)]
    simp
  | case3 hlower hupper =>
    have hmark : ∀ x rest, unsigned text = '0' :: x :: rest → ¬(x = 'x' ∨ x = 'X') := by
      rintro x rest heq (rfl | rfl)
      · exact hlower rest heq
      · exact hupper rest heq
    rw [exists_marked_decimal_iff hmark]
    simp [isDigits]

/-- A range holds the integers between its bounds that are read. -/
theorem range_accepts_iff {least greatest : Int} {value : String} :
    (range least greatest).accepts value = true ↔
      ∃ number, Number.integer? value.toList = some number ∧ least ≤ number ∧
        number ≤ greatest := by
  simp only [accepts, Option.any_eq_true, Bool.and_eq_true, decide_eq_true_eq]

/-- Which integers are read from a value, and which values the types of integers hold. A field of
integers holds what is written as an integer. Such an integer is read if it fits in 64 bits, but for
the least one, and nothing else is read than texts with one sign too many, which are no integers. So
a range holds integers between its bounds, which a field of integers holds as well, and texts with
one sign too many. What is read fits in 64 bits. The negative of the number behind a minus sign does
not fit just when this is the least integer, with a sign of its own: a field of integers does not
hold the text, and the negative is wrapped and the least integer is read. -/
theorem accepts_integers (value : String) :
    (∀ number, Number.integer? value.toList = some number ↔
      (IsInteger (Text.trim value.toList) number ∧ Number.fits number = true ∧
          number ≠ Number.leastInteger) ∨
        Oversigned (Text.trim value.toList) number) ∧
    (int.accepts value = true ↔ ∃ number, IsInteger (Text.trim value.toList) number) ∧
    (∀ number, Oversigned (Text.trim value.toList) number → int.accepts value = false) ∧
    (∀ least greatest, (range least greatest).accepts value = true →
      ∃ number, least ≤ number ∧ number ≤ greatest ∧
        (int.accepts value = true ∧ IsInteger (Text.trim value.toList) number ∨
          Oversigned (Text.trim value.toList) number)) ∧
    (∀ number, Number.integer? value.toList = some number → Number.fits number = true) ∧
    ∀ rest number, Text.trim value.toList = '-' :: rest → Number.based? rest = some number →
      (Number.fits (-number) = false ↔ number = Number.leastInteger) ∧
      (number = Number.leastInteger → int.accepts value = false ∧
        Number.integer? value.toList = some Number.leastInteger) := by
  have hint : int.accepts value = true ↔ ∃ number, IsInteger (Text.trim value.toList) number :=
    isInt_iff
  have hrefused : ∀ number, Oversigned (Text.trim value.toList) number →
      int.accepts value = false := by
    intro number hoversigned
    rw [Bool.eq_false_iff, ne_eq, hint]
    exact not_isInteger_of_oversigned hoversigned
  refine ⟨fun number => Number.integer?_eq_some_iff, hint, hrefused, fun least greatest h => ?_,
    fun number => Number.fits_of_integer?, fun rest number hrest hnumber => ⟨?_, ?_⟩⟩
  · obtain ⟨number, hread, hleast, hgreatest⟩ := range_accepts_iff.1 h
    refine ⟨number, hleast, hgreatest, ?_⟩
    obtain ⟨hinteger, -, -⟩ | hoversigned := Number.integer?_eq_some_iff.1 hread
    · exact .inl ⟨hint.2 ⟨number, hinteger⟩, hinteger⟩
    · exact .inr hoversigned
  · exact Number.fits_neg_eq_false_iff (Number.fits_of_based? hnumber)
  · rintro rfl
    have hread : Number.integer? value.toList = some Number.leastInteger := by
      rw [Number.integer?_of_minus hrest, hnumber, Option.map_some,
        Number.wrapped_neg_leastInteger]
    refine ⟨?_, hread⟩
    -- The least integer is not read from an integer, so there is one sign too many.
    obtain ⟨-, -, hleast⟩ | hoversigned := Number.integer?_eq_some_iff.1 hread
    · exact absurd rfl hleast
    · exact hrefused _ hoversigned

/-- Two minus signs are read as none and a range holds them, though this is no integer. The least
integer is one of 64 bits, which the range from it on does not hold. -/
theorem range_accepts_two_signs :
    let range := range Number.leastInteger Number.greatestInteger
    Number.integer? "--5".toList = some 5 ∧ range.accepts "--5" = true ∧
      int.accepts "--5" = false ∧ (¬∃ number, IsInteger (Text.trim "--5".toList) number) ∧
      int.accepts "-9223372036854775808" = true ∧
      IsInteger "-9223372036854775808".toList Number.leastInteger ∧
      Number.fits Number.leastInteger = true ∧
      Number.integer? "-9223372036854775808".toList = none ∧
      range.accepts "-9223372036854775808" = false := by
  intro range
  have hrefused : isInt (Text.trim "--5".toList) = false := by decide +kernel
  have hleast : IsInteger "-9223372036854775808".toList Number.leastInteger := by
    have hwrites : Number.Writes Number.decimalDigit? 10 "9223372036854775808".toList
        9223372036854775808 := Number.digits?_eq_some_iff.1 (by decide +kernel)
    exact .negative (.decimal hwrites)
  refine ⟨by decide +kernel, by decide +kernel, hrefused, ?_, by decide +kernel, hleast,
    by decide, by decide +kernel, by decide +kernel⟩
  rw [← isInt_iff, hrefused]
  exact Bool.false_ne_true

end TextRecords.FieldType
