import TextRecords.Proofs.Number.Integer

/-!
# Integers as they are written

An integer is written by decimal digits, or by hexadecimal ones behind `0x` or `0X`, and behind a
minus sign if it is negated (`IsInteger`). It is read as what is written if that fits in 64 bits,
but the least integer is not read: its magnitude does not fit. Besides the integers, a text is read
that has one sign too many, behind the mark of the base or behind the minus sign, or a plus sign
(`Oversigned`). There is nothing else that is read (`integer?_eq_some_iff`). Only a minus sign too
many negates the least integer, which has no negative in 64 bits and is wrapped into itself.
-/

namespace TextRecords.Number

/-- Digits behind the mark of their base: none before decimal digits, `0x` or `0X` before
hexadecimal ones. -/
inductive Marked : List Char → List Char → Nat → Prop
  | decimal {digits : List Char} {number : Nat} :
      Writes decimalDigit? 10 digits number → Marked [] digits number
  | hexadecimal {x : Char} {digits : List Char} {number : Nat} : x = 'x' ∨ x = 'X' →
      Writes Text.hexDigit? 16 digits number → Marked ['0', x] digits number

/-- What a sign, which may be left out, makes of a number. -/
inductive Signs : List Char → Nat → Int → Prop
  | none (number : Nat) : Signs [] number number
  | plus (number : Nat) : Signs ['+'] number number
  | minus (number : Nat) : Signs ['-'] number (-number)

/-- An integer is the mark of a base and digits, behind a minus sign if it is negated. -/
inductive IsInteger : List Char → Int → Prop
  | positive {mark digits : List Char} {number : Nat} :
      Marked mark digits number → IsInteger (mark ++ digits) number
  | negative {mark digits : List Char} {number : Nat} :
      Marked mark digits number → IsInteger ('-' :: (mark ++ digits)) (-number)

/-- A text has a sign where an integer has none: one before the digits that is not the minus sign of
an integer. The digits with this sign are an integer of 64 bits, which a minus sign negates within
64 bits. -/
inductive Oversigned : List Char → Int → Prop
  | positive {mark sign digits : List Char} {number : Nat} {value : Int} :
      Marked mark digits number → Signs sign number value → fits value = true →
      sign ≠ [] → mark ++ sign ≠ ['-'] → Oversigned (mark ++ (sign ++ digits)) value
  | negative {mark sign digits : List Char} {number : Nat} {value : Int} :
      Marked mark digits number → Signs sign number value → fits value = true →
      sign ≠ [] → Oversigned ('-' :: (mark ++ (sign ++ digits))) (wrapped (-value))

/-- A text is an integer of 64 bits in some base, digits with a sign before them or without one. -/
def IsSigned (digit? : Char → Option Nat) (base : Nat) (text : List Char) (value : Int) : Prop :=
  ∃ sign digits number, text = sign ++ digits ∧ Writes digit? base digits number ∧
    Signs sign number value ∧ fits value = true

/-- In a base whose digits are no signs, the integers of 64 bits are read. -/
theorem signed?_eq_some_iff {digit? : Char → Option Nat} {base : Nat} (hminus : digit? '-' = none)
    (hplus : digit? '+' = none) {text : List Char} {value : Int} :
    signed? digit? base text = some value ↔ IsSigned digit? base text value := by
  constructor
  · intro h
    unfold signed? at h
    obtain ⟨hread, hfits⟩ := Option.filter_eq_some_iff.1 h
    split at hread
    · next digits =>
      obtain ⟨number, hdigits, rfl⟩ := Option.map_eq_some_iff.1 hread
      exact ⟨['-'], digits, number, rfl, digits?_eq_some_iff.1 hdigits, .minus number, hfits⟩
    · next digits =>
      obtain ⟨number, hdigits, rfl⟩ := Option.map_eq_some_iff.1 hread
      exact ⟨['+'], digits, number, rfl, digits?_eq_some_iff.1 hdigits, .plus number, hfits⟩
    · obtain ⟨number, hdigits, rfl⟩ := Option.map_eq_some_iff.1 hread
      exact ⟨[], text, number, rfl, digits?_eq_some_iff.1 hdigits, .none number, hfits⟩
  · rintro ⟨sign, digits, number, rfl, hdigits, hsign, hfits⟩
    have hread : digits? digit? base digits = some number := digits?_eq_some_iff.2 hdigits
    unfold signed?
    refine Option.filter_eq_some_iff.2 ⟨?_, hfits⟩
    cases hsign with
    | none =>
      -- The first digit is not taken for a sign.
      have hunsigned : ∀ c rest, digits = c :: rest → c ≠ '-' ∧ c ≠ '+' := by
        rintro c rest rfl
        have hdigit := hdigits.digits c List.mem_cons_self
        exact ⟨by rintro rfl; simp [hminus] at hdigit, by rintro rfl; simp [hplus] at hdigit⟩
      rw [List.nil_append]
      split
      · exact absurd rfl (hunsigned _ _ rfl).1
      · exact absurd rfl (hunsigned _ _ rfl).2
      · rw [hread]
        rfl
    | plus => simp [hread]
    | minus => simp [hread]

/-- No mark of hexadecimal digits stands in a decimal integer. -/
theorem IsSigned.unmarked {text : List Char} {value : Int}
    (h : IsSigned decimalDigit? 10 text value) : ∀ c ∈ text, c ≠ 'x' ∧ c ≠ 'X' := by
  obtain ⟨sign, digits, number, rfl, hdigits, hsign, -⟩ := h
  intro c hc
  obtain hc | hc := List.mem_append.1 hc
  · cases hsign with
    | none => cases hc
    | plus => exact List.mem_singleton.1 hc ▸ by decide
    | minus => exact List.mem_singleton.1 hc ▸ by decide
  · have hdigit := hdigits.digits c hc
    constructor <;> (rintro rfl; exact absurd hdigit (by decide))

/-- The numbers that are read: the mark of a base and an integer of 64 bits. -/
theorem based?_eq_some_iff {text : List Char} {value : Int} :
    based? text = some value ↔ ∃ mark sign digits number,
      text = mark ++ (sign ++ digits) ∧ Marked mark digits number ∧ Signs sign number value ∧
        fits value = true := by
  have hhexadecimal {text : List Char} : signed? Text.hexDigit? 16 text = some value ↔
      IsSigned Text.hexDigit? 16 text value := signed?_eq_some_iff (by decide) (by decide)
  have hdecimal {text : List Char} : signed? decimalDigit? 10 text = some value ↔
      IsSigned decimalDigit? 10 text value := signed?_eq_some_iff (by decide) (by decide)
  constructor
  · intro h
    unfold based? at h
    split at h
    · obtain ⟨sign, digits, number, rfl, hdigits, hsign, hfits⟩ := hhexadecimal.1 h
      exact ⟨_, sign, digits, number, rfl, .hexadecimal (.inl rfl) hdigits, hsign, hfits⟩
    · obtain ⟨sign, digits, number, rfl, hdigits, hsign, hfits⟩ := hhexadecimal.1 h
      exact ⟨_, sign, digits, number, rfl, .hexadecimal (.inr rfl) hdigits, hsign, hfits⟩
    · obtain ⟨sign, digits, number, rfl, hdigits, hsign, hfits⟩ := hdecimal.1 h
      exact ⟨[], sign, digits, number, rfl, .decimal hdigits, hsign, hfits⟩
  · rintro ⟨mark, sign, digits, number, rfl, hmarked, hsign, hfits⟩
    cases hmarked with
    | decimal hdigits =>
      have hsigned : IsSigned decimalDigit? 10 (sign ++ digits) value :=
        ⟨sign, digits, number, rfl, hdigits, hsign, hfits⟩
      rw [List.nil_append, based?_of_unmarked hsigned.unmarked, hdecimal.2 hsigned]
    | hexadecimal hx hdigits =>
      have hread : signed? Text.hexDigit? 16 (sign ++ digits) = some value :=
        hhexadecimal.2 ⟨sign, digits, number, rfl, hdigits, hsign, hfits⟩
      obtain rfl | rfl := hx
      · exact hread
      · exact hread

/-- No sign stands in the mark of a base and the digits behind it. -/
theorem Marked.notMem_of_sign {mark digits : List Char} {number : Nat}
    (h : Marked mark digits number) {c : Char} (hc : c = '-' ∨ c = '+') : c ∉ mark ++ digits := by
  intro hmem
  obtain hmark | hdigits := List.mem_append.1 hmem
  · cases h with
    | decimal => cases hmark
    | hexadecimal hx =>
      obtain rfl | rfl := hc <;> obtain rfl | rfl := hx <;> simp at hmark
  · cases h with
    | decimal hwrites =>
      have hdigit := hwrites.digits c hdigits
      obtain rfl | rfl := hc <;> exact absurd hdigit (by decide)
    | hexadecimal _ hwrites =>
      have hdigit := hwrites.digits c hdigits
      obtain rfl | rfl := hc <;> exact absurd hdigit (by decide)

/-- The mark of a base and digits do not start with a minus sign. -/
theorem Marked.head?_ne_minus {mark digits : List Char} {number : Nat}
    (h : Marked mark digits number) : (mark ++ digits).head? ≠ some '-' :=
  fun hhead => h.notMem_of_sign (.inl rfl) (List.mem_of_mem_head? hhead)

/-- With a sign before the digits, only the minus sign of an integer is in front. -/
theorem Marked.head?_signed_ne_minus {mark sign digits : List Char} {number : Nat} {value : Int}
    (h : Marked mark digits number) (hsign : Signs sign number value)
    (hne : mark ++ sign ≠ ['-']) : (mark ++ (sign ++ digits)).head? ≠ some '-' := by
  cases h with
  | hexadecimal => simp
  | decimal hwrites =>
    cases hsign with
    | none => exact (Marked.decimal hwrites).head?_ne_minus
    | plus => simp
    | minus => exact absurd rfl hne

/-- A sign that is not left out is a minus or a plus. -/
theorem Signs.exists_mem {sign : List Char} {number : Nat} {value : Int}
    (h : Signs sign number value) (hne : sign ≠ []) : ∃ c ∈ sign, c = '-' ∨ c = '+' := by
  cases h with
  | none => exact absurd rfl hne
  | plus => exact ⟨'+', List.mem_singleton_self _, .inr rfl⟩
  | minus => exact ⟨'-', List.mem_singleton_self _, .inl rfl⟩

/-- A number without a sign fits in 64 bits exactly when the negated one does and is not the least
integer. -/
theorem fits_natCast_iff (number : Nat) :
    fits (number : Int) = true ↔
      fits (-(number : Int)) = true ∧ -(number : Int) ≠ leastInteger := by
  simp only [fits_iff, leastInteger, greatestInteger]
  omega

/-- A minus sign negates the number behind it within 64 bits. -/
theorem integer?_of_minus {text rest : List Char} (h : Text.trim text = '-' :: rest) :
    integer? text = (based? rest).map fun value => wrapped (-value) := by
  rw [integer?, h]
  rfl

/-- A number without a minus sign is read as it is. -/
theorem integer?_of_not_minus {text : List Char} (h : (Text.trim text).head? ≠ some '-') :
    integer? text = based? (Text.trim text) := by
  unfold integer?
  split
  · next rest htext => exact absurd (congrArg List.head? htext) h
  · rfl

/-- What is read is an integer, other than the least one, or it has one sign too many. -/
theorem of_integer? {text : List Char} {value : Int} (h : integer? text = some value) :
    (IsInteger (Text.trim text) value ∧ fits value = true ∧ value ≠ leastInteger) ∨
      Oversigned (Text.trim text) value := by
  by_cases hhead : (Text.trim text).head? = some '-'
  · obtain ⟨rest, hrest⟩ := List.head?_eq_some_iff.1 hhead
    rw [integer?_of_minus hrest] at h
    obtain ⟨negated, hbased, rfl⟩ := Option.map_eq_some_iff.1 h
    obtain ⟨mark, sign, digits, number, rfl, hmarked, hsign, hfits⟩ := based?_eq_some_iff.1 hbased
    rw [hrest]
    by_cases hunsigned : sign = []
    · subst hunsigned
      cases hsign
      have hnegated := (fits_natCast_iff number).1 hfits
      rw [wrapped_of_fits hnegated.1]
      exact .inl ⟨.negative hmarked, hnegated⟩
    · exact .inr (.negative hmarked hsign hfits hunsigned)
  · rw [integer?_of_not_minus hhead] at h
    obtain ⟨mark, sign, digits, number, htext, hmarked, hsign, hfits⟩ := based?_eq_some_iff.1 h
    rw [htext] at hhead ⊢
    by_cases hunsigned : sign = []
    · subst hunsigned
      cases hsign
      have hleast : (number : Int) ≠ leastInteger := by
        unfold leastInteger
        omega
      exact .inl ⟨.positive hmarked, hfits, hleast⟩
    · -- A minus sign in front of decimal digits would have been taken off before.
      have hfront : mark ++ sign ≠ ['-'] := by
        intro hminus
        rw [← List.append_assoc, hminus] at hhead
        exact hhead rfl
      exact .inr (.positive hmarked hsign hfits hunsigned hfront)

/-- An integer of 64 bits between blanks is read, but for the least one. -/
theorem integer?_of_isInteger {text : List Char} {value : Int}
    (h : IsInteger (Text.trim text) value) (hfits : fits value = true)
    (hleast : value ≠ leastInteger) : integer? text = some value := by
  generalize htext : Text.trim text = trimmed at h
  cases h with
  | @positive mark digits number hmarked =>
    have hhead : (Text.trim text).head? ≠ some '-' := htext ▸ hmarked.head?_ne_minus
    rw [integer?_of_not_minus hhead, htext]
    exact based?_eq_some_iff.2 ⟨mark, [], digits, number, rfl, hmarked, .none number, hfits⟩
  | @negative mark digits number hmarked =>
    have hpositive : fits (number : Int) = true := (fits_natCast_iff number).2 ⟨hfits, hleast⟩
    have hread : based? (mark ++ digits) = some (number : Int) :=
      based?_eq_some_iff.2 ⟨mark, [], digits, number, rfl, hmarked, .none number, hpositive⟩
    rw [integer?_of_minus htext, hread, Option.map_some, wrapped_of_fits hfits]

/-- A text with one sign too many is read. -/
theorem integer?_of_oversigned {text : List Char} {value : Int}
    (h : Oversigned (Text.trim text) value) : integer? text = some value := by
  generalize htext : Text.trim text = trimmed at h
  cases h with
  | @positive mark sign digits number value hmarked hsign hfits _ hne =>
    have hhead : (Text.trim text).head? ≠ some '-' :=
      htext ▸ hmarked.head?_signed_ne_minus hsign hne
    rw [integer?_of_not_minus hhead, htext]
    exact based?_eq_some_iff.2 ⟨mark, sign, digits, number, rfl, hmarked, hsign, hfits⟩
  | @negative mark sign digits number value hmarked hsign hfits _ =>
    have hread : based? (mark ++ (sign ++ digits)) = some value :=
      based?_eq_some_iff.2 ⟨mark, sign, digits, number, rfl, hmarked, hsign, hfits⟩
    rw [integer?_of_minus htext, hread]
    rfl

/-- What is read between blanks: an integer that fits in 64 bits and is not the least one, or a text
with one sign too many. -/
theorem integer?_eq_some_iff {text : List Char} {value : Int} :
    integer? text = some value ↔
      (IsInteger (Text.trim text) value ∧ fits value = true ∧ value ≠ leastInteger) ∨
        Oversigned (Text.trim text) value := by
  refine ⟨of_integer?, ?_⟩
  rintro (⟨hinteger, hfits, hleast⟩ | hoversigned)
  · exact integer?_of_isInteger hinteger hfits hleast
  · exact integer?_of_oversigned hoversigned

end TextRecords.Number
