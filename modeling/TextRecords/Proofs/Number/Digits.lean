import Mathlib.Data.List.Basic
import Mathlib.Data.Nat.Digits.Defs
import TextRecords.Number.Integer

/-!
# Digits

A text is read as a number in some base when it has digits of the base alone, and at least one; the
number is the sum of the digits, each in its place (`digits?_eq_some_iff`). So the decimal digits
that the library writes a number with are read as the number (`digits?_toDigits`).
-/

namespace TextRecords.Number

variable {digit? : Char → Option Nat} {base : Nat}

/-- A text writes a number in a base: it has digits alone, at least one, and their values in their
places make the number. -/
structure Writes (digit? : Char → Option Nat) (base : Nat) (text : List Char) (number : Nat) :
    Prop where
  ne_nil : text ≠ []
  digits : ∀ c ∈ text, (digit? c).isSome = true
  value : Nat.ofDigits base (text.reverse.map fun c => (digit? c).getD 0) = number

/-- Digits are read one after another, each as the last one behind those that are read. -/
theorem extend?_eq_some_iff {text : List Char} {value number : Nat} :
    extend? digit? base value text = some number ↔
      (∀ c ∈ text, (digit? c).isSome = true) ∧
        text.foldl (fun value c => value * base + (digit? c).getD 0) value = number := by
  induction text generalizing value with
  | nil => simp [extend?]
  | cons c rest ih =>
    rw [List.forall_mem_cons, List.foldl_cons, extend?]
    cases hc : digit? c with
    | none => simp
    | some digit => simp [ih]

/-- The values of digits in their places make the number that the digits are read as. -/
theorem ofDigits_reverse (text : List Char) :
    Nat.ofDigits base (text.reverse.map fun c => (digit? c).getD 0) =
      text.foldl (fun value c => value * base + (digit? c).getD 0) 0 := by
  rw [Nat.ofDigits_eq_foldr, List.map_reverse, List.foldr_reverse, List.foldl_map]
  exact List.foldl_ext _ _ _ fun value c _ => by rw [Nat.add_comm, Nat.mul_comm]; rfl

/-- A number is read from a text that writes it. -/
theorem digits?_eq_some_iff {text : List Char} {number : Nat} :
    digits? digit? base text = some number ↔ Writes digit? base text number := by
  cases text with
  | nil => exact ⟨nofun, fun h => absurd rfl h.ne_nil⟩
  | cons c rest =>
    rw [digits?, if_neg (by simp), extend?_eq_some_iff, ← ofDigits_reverse]
    exact ⟨fun h => ⟨List.cons_ne_nil c rest, h.1, h.2⟩, fun h => ⟨h.digits, h.value⟩⟩

/-- A text writes some number when it has digits alone, and at least one. -/
theorem exists_writes_iff (digit? : Char → Option Nat) (base : Nat) (text : List Char) :
    (∃ number, Writes digit? base text number) ↔
      text ≠ [] ∧ ∀ c ∈ text, (digit? c).isSome = true :=
  ⟨fun ⟨_, h⟩ => ⟨h.ne_nil, h.digits⟩, fun ⟨hne, hdigits⟩ => ⟨_, hne, hdigits, rfl⟩⟩

/-- A character has a decimal value exactly when it is a decimal digit. -/
theorem isSome_decimalDigit? {c : Char} : (decimalDigit? c).isSome = c.isDigit := by
  rw [decimalDigit?]
  split
  · next hc => rw [hc, Option.isSome_some]
  · next hc => rw [Bool.eq_false_iff.2 hc, Option.isSome_none]

/-- The characters that a number is written with are decimal digits. -/
theorem isDigit_of_mem_toDigits {number : Nat} {c : Char} (h : c ∈ Nat.toDigits 10 number) :
    c.isDigit = true :=
  Nat.isDigit_of_mem_toDigits (by decide) (by decide) h

/-- The digits of a number write it. -/
theorem writes_toDigits (number : Nat) :
    Writes decimalDigit? 10 (Nat.toDigits 10 number) number where
  ne_nil := Nat.toDigits_ne_nil
  digits := fun c hc => by rw [isSome_decimalDigit?, isDigit_of_mem_toDigits hc]
  value := by
    have hdigit : ∀ value, ∀ c ∈ Nat.toDigits 10 number,
        value * 10 + (decimalDigit? c).getD 0 = 10 * value + (c.toNat - '0'.toNat) := by
      intro value c hc
      rw [decimalDigit?, if_pos (isDigit_of_mem_toDigits hc), Option.getD_some, Nat.mul_comm]
    calc Nat.ofDigits 10 ((Nat.toDigits 10 number).reverse.map fun c => (decimalDigit? c).getD 0)
        = (Nat.toDigits 10 number).foldl
            (fun value c => value * 10 + (decimalDigit? c).getD 0) 0 := ofDigits_reverse _
      _ = Nat.ofDigitChars 10 (Nat.toDigits 10 number) 0 := List.foldl_ext _ _ _ hdigit
      _ = number := Nat.ofDigitChars_ten_toDigits

/-- The digits of a number are read as the number. -/
theorem digits?_toDigits (number : Nat) :
    digits? decimalDigit? 10 (Nat.toDigits 10 number) = some number :=
  digits?_eq_some_iff.2 (writes_toDigits number)

end TextRecords.Number
