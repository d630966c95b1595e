import TextRecords.Proofs.Selection.Leaves

/-!
# Comparisons of field values

A comparison holds for two values when an order of two of their texts satisfies it
(`Comparison.holds_iff`). A value without texts satisfies none, and a text, a sum or the like that
needs a value which the record does not have is such a value: absent fields never compare
(`Expr.value_of_isAbsentIn`).

A field is compared in the same way whichever of its values it stands for, so a comparison with all
values of a field holds when one of them satisfies it (`Expr.value_field_iff_exists`).
-/

namespace TextRecords

/-- Whether a record does not have what a reference to a field asks for: a value of the name, or
the one with the given number. -/
def Record.Lacks (record : Record) (name : String) : Option Nat → Prop
  | none => record.count name = 0
  | some n => record.count name ≤ n

instance (record : Record) (name : String) (occurrence : Option Nat) :
    Decidable (record.Lacks name occurrence) :=
  match occurrence with
  | none => inferInstanceAs (Decidable (record.count name = 0))
  | some n => inferInstanceAs (Decidable (record.count name ≤ n))

/-- What holds of a value of a name holds of one that is found by its number. -/
theorem Record.exists_mem_values_iff {record : Record} {name : String} {P : List String → Prop} :
    (∃ value ∈ record.values name, P [value]) ↔
      ∃ n < record.count name, P (record.value? name n).toList := by
  constructor
  · rintro ⟨value, hvalue, h⟩
    obtain ⟨n, hn, rfl⟩ := List.getElem_of_mem hvalue
    refine ⟨n, hn, ?_⟩
    rwa [value?, List.getElem?_eq_getElem hn]
  · rintro ⟨n, hn, h⟩
    rw [value?, List.getElem?_eq_getElem hn] at h
    exact ⟨_, List.getElem_mem hn, h⟩

namespace Selection

namespace Value

/-- A value without texts is no number. -/
theorem number?_of_texts_eq_nil {value : Value} (h : value.texts = []) : value.number? = none := by
  cases value with
  | field values =>
    obtain rfl : values = [] := h
    rfl
  | missing => rfl
  | string text => exact absurd h (List.cons_ne_nil _ _)
  | number value => exact absurd h (List.cons_ne_nil _ _)
  | truth value => exact absurd h (List.cons_ne_nil _ _)

/-- A value without texts contributes none. -/
theorem text?_of_texts_eq_nil {value : Value} (h : value.texts = []) : value.text? = none := by
  rw [text?, h, List.head?_nil]

end Value

namespace Comparison

variable {comparison : Comparison} {caseless : Bool} {left right : Value}

/-- A comparison holds when it admits the order of two texts, one of each value. -/
theorem holds_iff :
    comparison.holds caseless left right = true ↔ ∃ a ∈ left.texts, ∃ b ∈ right.texts,
      (Value.order? caseless left right a b).any comparison.admits = true := by
  simp only [holds, List.any_eq_true]

/-- Nothing compares with a value that has no texts. -/
theorem holds_of_texts_eq_nil (h : left.texts = [] ∨ right.texts = []) :
    comparison.holds caseless left right = false := by
  rw [Bool.eq_false_iff, Ne, holds_iff]
  rintro ⟨a, ha, b, hb, -⟩
  cases h with
  | inl hleft => exact List.not_mem_nil (hleft ▸ ha)
  | inr hright => exact List.not_mem_nil (hright ▸ hb)

/-- A comparison with all values of a field on the left holds when it holds with one of them. -/
theorem holds_field_left_iff {values : List String} :
    comparison.holds caseless (.field values) right = true ↔
      ∃ value ∈ values, comparison.holds caseless (.field [value]) right = true := by
  simp only [holds_iff, Value.texts, List.mem_singleton, exists_eq_left]
  -- Which values a field has does not bear on how it is compared.
  rfl

/-- A comparison with all values of a field on the right holds when it holds with one of them. -/
theorem holds_field_right_iff {values : List String} :
    comparison.holds caseless left (.field values) = true ↔
      ∃ value ∈ values, comparison.holds caseless left (.field [value]) = true := by
  simp only [holds_iff, Value.texts, List.mem_singleton, exists_eq_left]
  constructor
  · rintro ⟨a, ha, value, hvalue, h⟩
    exact ⟨value, hvalue, a, ha, h⟩
  · rintro ⟨value, hvalue, a, ha, h⟩
    exact ⟨a, ha, value, hvalue, h⟩

end Comparison

namespace Expr

/-- An expression that calculates or builds a text, from texts, numbers and fields. -/
inductive IsTerm : Expr → Prop
  | field (name : String) (occurrence : Option Nat) : IsTerm (.field name occurrence)
  | string (text : String) : IsTerm (.string text)
  | number (value : Float) : IsTerm (.number value)
  | compute (operation : Operation) {left right : Expr} (hleft : left.IsTerm)
      (hright : right.IsTerm) : IsTerm (.compute operation left right)
  | concat {left right : Expr} (hleft : left.IsTerm) (hright : right.IsTerm) :
      IsTerm (.concat left right)

/-- An expression that calculates or builds a text and refers to a value which a record does not
have. -/
structure IsAbsentIn (record : Record) (expr : Expr) : Prop where
  isTerm : expr.IsTerm
  lacks : ∃ name occurrence, .field name occurrence ∈ expr.leaves ∧ record.Lacks name occurrence

variable {caseless : Bool} {record : Record}

/-- What a record lacks has no texts. -/
theorem texts_value_field {name : String} {occurrence : Option Nat}
    (h : record.Lacks name occurrence) :
    ((field name occurrence).value caseless record).texts = [] := by
  cases occurrence with
  | none => exact List.length_eq_zero_iff.1 h
  | some n =>
    have hnone : record.value? name n = none := List.getElem?_eq_none h
    rw [value, Value.texts, hnone, Option.toList_none]

/-- What cannot be calculated or built for want of a value has no texts. -/
theorem IsAbsentIn.texts_value {expr : Expr} (h : expr.IsAbsentIn record) :
    (expr.value caseless record).texts = [] := by
  obtain ⟨hterm, name, occurrence, hleaf, hlacks⟩ := h
  -- The want of a value in one operand is one of the whole, whatever the operation.
  induction hterm with
  | field other place =>
    obtain ⟨rfl, rfl⟩ := Expr.field.inj (List.mem_singleton.1 hleaf)
    exact texts_value_field hlacks
  | string text => exact absurd (List.mem_singleton.1 hleaf) nofun
  | number value => exact absurd (List.mem_singleton.1 hleaf) nofun
  | @compute operation left right _ _ ihLeft ihRight =>
    rw [leaves, List.mem_append] at hleaf
    rw [value]
    cases hleaf with
    | inl hleft => rw [Value.number?_of_texts_eq_nil (ihLeft hleft), Value.texts]
    | inr hright =>
      rw [Value.number?_of_texts_eq_nil (ihRight hright)]
      cases (left.value caseless record).number? <;> rfl
  | @concat left right _ _ ihLeft ihRight =>
    rw [leaves, List.mem_append] at hleaf
    rw [value]
    cases hleaf with
    | inl hleft => rw [Value.text?_of_texts_eq_nil (ihLeft hleft), Value.texts]
    | inr hright =>
      rw [Value.text?_of_texts_eq_nil (ihRight hright)]
      cases (left.value caseless record).text? <;> rfl

/-- Absent fields never compare. With an expression that is calculated or built from texts, numbers
and fields, and that refers to a value which the record does not have, on either side, no comparison
holds, and its negation does; and no pattern is found in such an expression. -/
theorem value_of_isAbsentIn (caseless : Bool) (record : Record) :
    (∀ (comparison : Comparison) (left right : Expr),
      left.IsAbsentIn record ∨ right.IsAbsentIn record →
      (compare comparison left right).value caseless record = .truth false ∧
        (not (compare comparison left right)).value caseless record = .truth true) ∧
    ∀ (operand : Expr) (pattern : Pattern), operand.IsAbsentIn record →
      (like operand pattern).value caseless record = .truth false := by
  constructor
  · intro comparison left right h
    have hfalse : (compare comparison left right).value caseless record = .truth false := by
      rw [value, Comparison.holds_of_texts_eq_nil (h.imp IsAbsentIn.texts_value
        IsAbsentIn.texts_value)]
    refine ⟨hfalse, ?_⟩
    rw [value, hfalse, Value.holds, Bool.not_false]
  · intro operand pattern h
    rw [value, h.texts_value, List.any_nil]

/-- A text with a sum in it of a value that is there and one that is not. -/
theorem value_of_isAbsentIn_sum :
    let record : Record := ⟨[.field ⟨"a", "1"⟩, .field ⟨"b", "2"⟩], none⟩
    let text := concat (compute .add (field "a" none) (field "b" (some 1))) (string "x")
    let pattern : Pattern := ⟨"", ⟨"", .empty⟩, ⟨"", .empty⟩⟩
    text.IsAbsentIn record ∧
      (compare .notEqual text (count "a")).value false record = .truth false ∧
      (not (compare .atMost (string "") text)).value true record = .truth true ∧
      (like text pattern).value true record = .truth false := by
  intro record text pattern
  have habsent : text.IsAbsentIn record :=
    ⟨.concat (.compute _ (.field _ _) (.field _ _)) (.string _), "b", some 1,
      by simp [text, leaves], by decide⟩
  exact ⟨habsent, ((value_of_isAbsentIn false record).1 _ _ _ (.inl habsent)).1,
    ((value_of_isAbsentIn true record).1 _ _ _ (.inr habsent)).2,
    (value_of_isAbsentIn true record).2 _ pattern habsent⟩

/-- A comparison with all values of a field on the left is one with some value of it. -/
theorem value_compare_field_left (comparison : Comparison) (name : String) (expr : Expr) :
    (compare comparison (field name none) expr).value caseless record = .truth true ↔
      ∃ n < record.count name,
        (compare comparison (field name (some n)) expr).value caseless record = .truth true := by
  simp only [value, Value.truth.injEq]
  rw [Comparison.holds_field_left_iff]
  exact Record.exists_mem_values_iff
    (P := fun values =>
      comparison.holds caseless (.field values) (expr.value caseless record) = true)

/-- A comparison with all values of a field on the right is one with some value of it. -/
theorem value_compare_field_right (comparison : Comparison) (expr : Expr) (name : String) :
    (compare comparison expr (field name none)).value caseless record = .truth true ↔
      ∃ n < record.count name,
        (compare comparison expr (field name (some n))).value caseless record = .truth true := by
  simp only [value, Value.truth.injEq]
  rw [Comparison.holds_field_right_iff]
  exact Record.exists_mem_values_iff
    (P := fun values =>
      comparison.holds caseless (expr.value caseless record) (.field values) = true)

/-- A pattern is found in a field when it is found in some value of it. -/
theorem value_like_field (name : String) (pattern : Pattern) :
    (like (field name none) pattern).value caseless record = .truth true ↔
      ∃ n < record.count name,
        (like (field name (some n)) pattern).value caseless record = .truth true := by
  simp only [value, Value.truth.injEq, Value.texts]
  generalize (if caseless = true then pattern.caseless else pattern.exact) = regex
  rw [List.any_eq_true, ← Record.exists_mem_values_iff (P := (·.any regex.isMatch = true))]
  simp only [List.any_cons, List.any_nil, Bool.or_false]

/-- Fields match by any of their values. A comparison with a field holds when it holds with one of
the values of the field, on either side and on both, and a pattern is found in a field when it is
found in one of its values. -/
theorem value_field_iff_exists (caseless : Bool) (record : Record) (name : String) :
    (∀ (comparison : Comparison) (expr : Expr),
      ((compare comparison (field name none) expr).value caseless record = .truth true ↔
        ∃ n < record.count name,
          (compare comparison (field name (some n)) expr).value caseless record = .truth true) ∧
      ((compare comparison expr (field name none)).value caseless record = .truth true ↔
        ∃ n < record.count name,
          (compare comparison expr (field name (some n))).value caseless record = .truth true)) ∧
    (∀ (comparison : Comparison) (other : String),
      (compare comparison (field name none) (field other none)).value caseless record =
          .truth true ↔
        ∃ m < record.count name, ∃ n < record.count other,
          (compare comparison (field name (some m)) (field other (some n))).value caseless record =
            .truth true) ∧
    ∀ pattern : Pattern,
      (like (field name none) pattern).value caseless record = .truth true ↔
        ∃ n < record.count name,
          (like (field name (some n)) pattern).value caseless record = .truth true := by
  refine ⟨fun comparison expr => ⟨value_compare_field_left comparison name expr,
    value_compare_field_right comparison expr name⟩, fun comparison other => ?_,
    value_like_field name⟩
  rw [value_compare_field_left]
  simp only [value_compare_field_right]

end Expr

end Selection

end TextRecords
