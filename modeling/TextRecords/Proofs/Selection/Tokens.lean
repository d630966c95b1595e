import TextRecords.Proofs.Fallible
import TextRecords.Selection.Token

/-!
# Tokens of joined texts

The tokens of a text do not depend on where it starts (`tokensFrom_eq_ok_iff`). A closing bracket
behind a text belongs to none of its tokens, whatever the last of them is (`lexeme_append`), so a
text, a closing bracket and another text have the tokens of the first one, the bracket and the
tokens of the other (`HasTokens.append`).
-/

namespace TextRecords.Selection

variable {text more rest : List Char} {token : Token} {before behind : List Token}

/-- The tokens of a text: none of blanks, and otherwise the first one and those behind it. -/
inductive HasTokens : List Char → List Token → Prop where
  | blank {text : List Char} (isBlank : Text.trimStart text = []) : HasTokens text []
  | token {text rest : List Char} {token : Token} {behind : List Token}
      (first : lexeme (Text.trimStart text) = .token token rest) (others : HasTokens rest behind) :
      HasTokens text (token :: behind)

/-- What starts with a token is not empty. -/
theorem ne_nil_of_lexeme (h : lexeme text = .token token rest) : text ≠ [] := by
  rintro rfl
  cases h

/-- A text has the tokens that are read from it, wherever it starts. -/
theorem tokensFrom_eq_ok_iff {offset : Nat} :
    tokensFrom offset text = .ok behind ↔ HasTokens text behind := by
  constructor
  · intro h
    fun_induction tokensFrom offset text generalizing behind with
    | case1 offset text start =>
      next hempty =>
      cases h
      exact .blank (List.isEmpty_iff.1 hempty)
    | case2 offset text start _ hempty token rest hfirst =>
      next ih =>
      obtain ⟨others, hothers, rfl⟩ := map_eq_ok_iff.1 h
      exact .token hfirst (ih hothers)
    | case3 => cases h
    | case4 => cases h
  · intro h
    induction h generalizing offset with
    | blank hblank =>
      rw [tokensFrom]
      simp only [hblank, List.isEmpty_nil, if_true]
    | token first others ih =>
      have hne := ne_nil_of_lexeme first
      rw [tokensFrom]
      simp only [List.isEmpty_iff, hne, if_false]
      split
      · next token' rest' heq =>
        cases heq.symm.trans first
        rw [ih]
        rfl
      · next heq => cases heq.symm.trans first
      · next heq => cases heq.symm.trans first

/-- The tokens of a text are those that are read from it. -/
theorem tokens_eq_ok_iff : tokens text = .ok behind ↔ HasTokens text behind :=
  tokensFrom_eq_ok_iff

/-! ## A closing bracket behind a token -/

/-- Characters of a class end before a closing bracket that is not of it. -/
theorem takeWhile_append {p : Char → Bool} (hp : p ')' = false) :
    (text ++ ')' :: more).takeWhile p = text.takeWhile p := by
  induction text with
  | nil => simp [hp]
  | cons c text ih => rw [List.cons_append, List.takeWhile_cons, List.takeWhile_cons, ih]

/-- What is behind the characters of a class goes on with a closing bracket that is not of it. -/
theorem dropWhile_append {p : Char → Bool} (hp : p ')' = false) :
    (text ++ ')' :: more).dropWhile p = text.dropWhile p ++ ')' :: more := by
  induction text with
  | nil => simp [hp]
  | cons c text ih =>
    rw [List.cons_append, List.dropWhile_cons, List.dropWhile_cons, ih]
    split <;> rfl

/-- A text does not start with another character for a closing bracket behind it. -/
theorem append_ne {c : Char} (hc : c ≠ ')') (h : ∀ rest, text = c :: rest → False) :
    ∀ rest, text ++ ')' :: more = c :: rest → False := by
  intro rest heq
  cases text with
  | nil => exact hc (List.cons.inj heq).1.symm
  | cons first text => exact h text (by rw [(List.cons.inj heq).1])

/-- A text does not start with two other characters for a closing bracket behind it. -/
theorem append_pair_ne {c d : Char} (hc : c ≠ ')') (hd : d ≠ ')')
    (h : ∀ rest, text = c :: d :: rest → False) :
    ∀ rest, text ++ ')' :: more = c :: d :: rest → False := by
  intro rest heq
  cases text with
  | nil => exact hc (List.cons.inj heq).1.symm
  | cons first text =>
    obtain ⟨rfl, hbehind⟩ := List.cons.inj heq
    exact append_ne hd (fun rest hrest => h rest (by rw [hrest])) rest hbehind

/-- A string ends at its closing quote. -/
theorem stringBody?_append {quote : Char} {value : List Char} (hquote : quote ≠ '\\')
    (h : stringBody? quote text = some (value, rest)) :
    stringBody? quote (text ++ more) = some (value, rest ++ more) := by
  fun_induction stringBody? quote text generalizing value rest with
  | case1 => cases h
  | case2 c text ih =>
    obtain ⟨⟨body, last⟩, hbody, heq⟩ := Option.map_eq_some_iff.1 h
    cases heq
    rw [List.cons_append, List.cons_append, stringBody?, ih hbody]
    rfl
  | case3 c text hescape hend =>
    cases h
    have hc : c ≠ '\\' := fun hc => hquote ((eq_of_beq hend).symm.trans hc)
    rw [List.cons_append, stringBody?, if_pos hend]
    exact fun _ _ heq => absurd heq hc
  | case4 c text hescape hend ih =>
    obtain ⟨⟨body, last⟩, hbody, heq⟩ := Option.map_eq_some_iff.1 h
    cases heq
    have hc : c ≠ '\\' := by
      rintro rfl
      cases text with
      | nil => cases hbody
      | cons next text => exact hescape next text rfl rfl
    rw [List.cons_append, stringBody?, if_neg hend, ih hbody]
    · rfl
    · exact fun _ _ heq => absurd heq hc

/-- Digits behind a point end before a closing bracket. -/
theorem fractionDigits_append : fractionDigits (text ++ ')' :: more) = fractionDigits text := by
  fun_cases fractionDigits text with
  | case1 text => exact takeWhile_append rfl
  | case2 text hpoint =>
    rw [fractionDigits]
    exact append_ne (by decide) hpoint

/-- Digits behind a point are digits of the text. -/
theorem length_fractionDigits_le (text : List Char) :
    fractionDigits text = [] ∨ (fractionDigits text).length + 1 ≤ text.length := by
  fun_cases fractionDigits text with
  | case1 text => exact .inr (Nat.succ_le_succ (List.takeWhile_sublist _).length_le)
  | case2 text hpoint => exact .inl rfl

/-- A decimal number ends before a closing bracket. -/
theorem decimal_append :
    decimal (text ++ ')' :: more) = ((decimal text).1, (decimal text).2 ++ ')' :: more) := by
  unfold decimal
  dsimp only
  rw [takeWhile_append rfl, dropWhile_append rfl, fractionDigits_append]
  rcases length_fractionDigits_le (text.dropWhile Char.isDigit) with hnil | hle
  · rw [hnil]
    rfl
  · split
    · rfl
    · rw [List.drop_append_of_le_length hle]

/-- A hexadecimal number ends before a closing bracket. -/
theorem hexadecimal?_append :
    hexadecimal? (text ++ ')' :: more) =
      (hexadecimal? text).map fun (value, rest) => (value, rest ++ ')' :: more) := by
  unfold hexadecimal?
  dsimp only
  rw [takeWhile_append (by decide), dropWhile_append (by decide)]
  split
  · rfl
  · rfl

/-- The hexadecimal number that a text starts with, if it starts with the mark of one. -/
def marked? : List Char → Option (Float × List Char)
  | '0' :: 'x' :: digits | '0' :: 'X' :: digits => hexadecimal? digits
  | _ => none

/-- A number with the mark of a hexadecimal one ends before a closing bracket. -/
theorem marked?_append :
    marked? (text ++ ')' :: more) =
      (marked? text).map fun (value, rest) => (value, rest ++ ')' :: more) := by
  fun_cases marked? text with
  | case1 digits => exact hexadecimal?_append
  | case2 digits => exact hexadecimal?_append
  | case3 text hlower hupper =>
    rw [marked?]
    · rfl
    · exact append_pair_ne (by decide) (by decide) hlower
    · exact append_pair_ne (by decide) (by decide) hupper

/-- A number ends before a closing bracket. -/
theorem number_append :
    number (text ++ ')' :: more) = ((number text).1, (number text).2 ++ ')' :: more) := by
  have hnumber : ∀ text, number text = (marked? text).getD (decimal text) := fun _ => rfl
  rw [hnumber, hnumber, marked?_append, decimal_append]
  cases marked? text with
  | none => rfl
  | some result => rfl

/-- A symbol ends before a closing bracket. -/
theorem symbol?_append {symbol : Symbol} (h : symbol? text = some (symbol, rest)) :
    symbol? (text ++ ')' :: more) = some (symbol, rest ++ ')' :: more) := by
  fun_cases symbol? text with
  -- A symbol that is the start of a longer one is the whole of it before a bracket as well.
  | case7 tail hlong | case8 tail hlong | case9 tail hlong | case10 tail hlong
  | case17 tail hlong =>
    rw [symbol?] at h
    · cases h
      rw [List.cons_append, symbol?]
      exact append_ne (by decide) hlong
    · exact hlong
  | case25 =>
    rw [symbol?] at h
    · cases h
    all_goals assumption
  | _ =>
    cases h
    rfl

/-- Whether a name starts does not depend on a closing bracket. -/
theorem startsName_append {c : Char} : startsName c (text ++ ')' :: more) = startsName c text := by
  cases text with
  | nil => rfl
  | cons first text => rfl

/-- A token ends before a closing bracket. -/
theorem lexeme_append (h : lexeme text = .token token rest) :
    lexeme (text ++ ')' :: more) = .token token (rest ++ ')' :: more) := by
  cases text with
  | nil => cases h
  | cons c text =>
    -- The kinds of tokens are told by their first character, which stays the same.
    have hnumber : number ((c :: text) ++ ')' :: more) = _ := number_append
    rw [List.cons_append] at hnumber ⊢
    rw [lexeme] at h ⊢
    rw [startsName_append]
    by_cases hquote : (c == '"' || c == '\'') = true
    · rw [if_pos hquote] at h ⊢
      have hc : c ≠ '\\' := by
        rintro rfl
        cases hquote
      cases hbody : stringBody? c text with
      | none =>
        rw [hbody] at h
        cases h
      | some result =>
        rw [hbody] at h
        rw [stringBody?_append hc hbody]
        cases h
        rfl
    · rw [if_neg hquote] at h ⊢
      by_cases hdigit : c.isDigit = true
      · rw [if_pos hdigit] at h ⊢
        rw [hnumber]
        cases h
        rfl
      · rw [if_neg hdigit] at h ⊢
        by_cases hname : startsName c text = true
        · rw [if_pos hname] at h ⊢
          rw [takeWhile_append rfl, dropWhile_append rfl]
          cases h
          rfl
        · rw [if_neg hname] at h ⊢
          cases hsymbol : symbol? (c :: text) with
          | none =>
            rw [hsymbol] at h
            cases h
          | some result =>
            rw [hsymbol] at h
            rw [← List.cons_append, symbol?_append hsymbol]
            cases h
            rfl

/-- A text, a closing bracket and another text have the tokens of the texts and the bracket. -/
theorem HasTokens.append (h : HasTokens text before) (hmore : HasTokens more behind) :
    HasTokens (text ++ ')' :: more) (before ++ .symbol .closeParen :: behind) := by
  have hstart : ∀ text, Text.trimStart (text ++ ')' :: more) = Text.trimStart text ++ ')' :: more :=
    fun _ => dropWhile_append rfl
  induction h with
  | blank hblank =>
    refine .token ?_ hmore
    rw [hstart, hblank]
    rfl
  | token first others ih =>
    refine .token ?_ ih
    rw [hstart]
    exact lexeme_append first

end TextRecords.Selection
