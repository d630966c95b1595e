import TextRecords.Number.Decimal
import TextRecords.Number.Shortest
import TextRecords.Text.Quoted

/-!
# Tokens of selections

A selection is a text that picks records by a condition. Its tokens are field names, numbers, quoted
strings and symbols, with blanks between them where they are wanted. `tokens` reads them; each read
token is the longest that starts where it does.
-/

namespace TextRecords.Selection

/-- The symbols of selections. -/
inductive Symbol where
  | and
  | or
  | implies
  | notEqual
  | atMost
  | atLeast
  | equal
  | less
  | greater
  | not
  | like
  | plus
  | minus
  | times
  | divide
  | percent
  | concat
  | openParen
  | closeParen
  | openBracket
  | closeBracket
  | question
  | colon
  | count
deriving DecidableEq, Repr

/-- The characters of a symbol. -/
def Symbol.text : Symbol → String
  | and => "&&"
  | or => "||"
  | implies => "=>"
  | notEqual => "!="
  | atMost => "<="
  | atLeast => ">="
  | equal => "="
  | less => "<"
  | greater => ">"
  | not => "!"
  | like => "~"
  | plus => "+"
  | minus => "-"
  | times => "*"
  | divide => "/"
  | percent => "%"
  | concat => "&"
  | openParen => "("
  | closeParen => ")"
  | openBracket => "["
  | closeBracket => "]"
  | question => "?"
  | colon => ":"
  | count => "#"

/-- The symbol that starts a text, and the rest. Symbols of two characters come first. -/
def symbol? : List Char → Option (Symbol × List Char)
  | '&' :: '&' :: rest => some (.and, rest)
  | '|' :: '|' :: rest => some (.or, rest)
  | '=' :: '>' :: rest => some (.implies, rest)
  | '!' :: '=' :: rest => some (.notEqual, rest)
  | '<' :: '=' :: rest => some (.atMost, rest)
  | '>' :: '=' :: rest => some (.atLeast, rest)
  | '=' :: rest => some (.equal, rest)
  | '<' :: rest => some (.less, rest)
  | '>' :: rest => some (.greater, rest)
  | '!' :: rest => some (.not, rest)
  | '~' :: rest => some (.like, rest)
  | '+' :: rest => some (.plus, rest)
  | '-' :: rest => some (.minus, rest)
  | '*' :: rest => some (.times, rest)
  | '/' :: rest => some (.divide, rest)
  | '%' :: rest => some (.percent, rest)
  | '&' :: rest => some (.concat, rest)
  | '(' :: rest => some (.openParen, rest)
  | ')' :: rest => some (.closeParen, rest)
  | '[' :: rest => some (.openBracket, rest)
  | ']' :: rest => some (.closeBracket, rest)
  | '?' :: rest => some (.question, rest)
  | ':' :: rest => some (.colon, rest)
  | '#' :: rest => some (.count, rest)
  | _ => none

/-- A token of a selection. -/
inductive Token where
  | name (text : String)
  | number (value : Float)
  | string (value : String)
  | symbol (symbol : Symbol)

/-- Numbers in diagnostics: whole numbers with a point and a zero, numbers below `10 ^ -4` and from
`10 ^ 16` on with an exponent. -/
def Token.numberLayout : Number.Layout where
  positional point := -3 ≤ point && point ≤ 16
  marksWhole := true

/-- A token as diagnostics show it: its kind and its value. -/
def Token.display : Token → String
  | name text => s!"Ident({Text.quote text})"
  | number value => s!"Num({numberLayout.text value})"
  | string value => s!"Str({Text.quote value})"
  | symbol s => s!"Sym({Text.quote s.text})"

/-- The character that a backslash and a character stand for: a newline for `n`, a tab for `t`, and
the character itself otherwise. -/
def unescape : Char → Char
  | 'n' => '\n'
  | 't' => '\t'
  | c => c

/-- The value of a quoted string after its opening quote, and the rest. -/
def stringBody? (quote : Char) : List Char → Option (List Char × List Char)
  | [] => none
  | '\\' :: c :: rest =>
    (stringBody? quote rest).map fun (body, rest) => (unescape c :: body, rest)
  | c :: rest =>
    if c == quote then some ([], rest)
    else (stringBody? quote rest).map fun (body, rest) => (c :: body, rest)

/-- The digits after the point that starts a text; none without a point. -/
def fractionDigits : List Char → List Char
  | '.' :: rest => rest.takeWhile Char.isDigit
  | _ => []

/-- Digits, and a point with digits after it if they are there. -/
def decimal (text : List Char) : Float × List Char :=
  let whole := text.takeWhile Char.isDigit
  let rest := text.dropWhile Char.isDigit
  let fraction := fractionDigits rest
  let value : Number.Decimal :=
    ⟨false, Number.Decimal.digitsValue (whole ++ fraction), -(fraction.length : Int)⟩
  (value.toFloat, if fraction.isEmpty then rest else rest.drop (fraction.length + 1))

/-- A hexadecimal number after its two-character mark, if it has digits and is an integer of 64
bits. -/
def hexadecimal? (text : List Char) : Option (Float × List Char) :=
  let digits := text.takeWhile Text.isHexDigit
  let value := Text.hexValue digits
  if digits.isEmpty || Number.greatestInteger < value then none
  else some (.ofNat value, text.dropWhile Text.isHexDigit)

/-- The number that starts a text: hexadecimal if it can be, decimal otherwise. -/
def number (text : List Char) : Float × List Char :=
  let hexadecimal := match text with
    | '0' :: 'x' :: digits | '0' :: 'X' :: digits => hexadecimal? digits
    | _ => none
  hexadecimal.getD (decimal text)

/-- Whether a name starts with a character, given what follows it. A percent sign starts a name only
before a letter; otherwise it is the remainder. Inside a name it is part of the name. -/
def startsName (c : Char) (rest : List Char) : Bool :=
  c.isAlpha || c == '_' || (c == '%' && rest.head?.any Char.isAlpha)

/-- Whether a name goes on with a character. -/
def continuesName (c : Char) : Bool :=
  c.isAlphanum || c == '_' || c == '%'

/-- What a text starts with. -/
inductive Lexeme where
  | token (token : Token) (rest : List Char)
  /-- A string without its closing quote. -/
  | openString
  | unknown

/-- What a text without leading blanks starts with. -/
def lexeme : List Char → Lexeme
  | [] => .unknown
  | c :: rest =>
    if c == '"' || c == '\'' then
      match stringBody? c rest with
      | some (value, rest) => .token (.string (.ofList value)) rest
      | none => .openString
    else if c.isDigit then .token (.number (number (c :: rest)).1) (number (c :: rest)).2
    else if startsName c rest then
      .token (.name (.ofList (c :: rest.takeWhile continuesName))) (rest.dropWhile continuesName)
    else
      match symbol? (c :: rest) with
      | some (symbol, rest) => .token (.symbol symbol) rest
      | none => .unknown

/-- Why a text has no tokens. Offsets count bytes. -/
inductive TokenFault where
  | unterminatedString (offset : Nat)
  /-- The text from here on starts with no token; its first characters are given. -/
  | unexpected (start : String) (offset : Nat)
deriving DecidableEq, Repr

/-- The fault in words. -/
def TokenFault.message : TokenFault → String
  | unterminatedString offset => s!"unterminated string at offset {offset}"
  | unexpected start offset => s!"unexpected '{start}' at offset {offset}"

/-- Dropping characters at the start makes a text no longer. -/
theorem length_dropWhile_le (p : Char → Bool) (text : List Char) :
    (text.dropWhile p).length ≤ text.length :=
  (List.dropWhile_sublist p).length_le

/-- The rest of a string takes at least its closing quote. -/
theorem stringBody?_shorter {quote : Char} {text value rest : List Char}
    (h : stringBody? quote text = some (value, rest)) : rest.length < text.length := by
  fun_induction stringBody? quote text generalizing value rest with
  | case1 => simp at h
  | case2 c more ih =>
    obtain ⟨⟨body, rest'⟩, hbody, heq⟩ := Option.map_eq_some_iff.1 h
    cases heq
    have := ih hbody
    simp only [List.length_cons]
    omega
  | case3 c more _ _ =>
    cases h
    simp
  | case4 c more _ _ ih =>
    obtain ⟨⟨body, rest'⟩, hbody, heq⟩ := Option.map_eq_some_iff.1 h
    cases heq
    have := ih hbody
    simp only [List.length_cons]
    omega

/-- A decimal number that starts with a digit takes at least this one. -/
theorem decimal_shorter {c : Char} {rest : List Char} (h : c.isDigit) :
    (decimal (c :: rest)).2.length < (c :: rest).length := by
  have hdrop : (c :: rest).dropWhile Char.isDigit = rest.dropWhile Char.isDigit := by
    simp [h]
  have hle := length_dropWhile_le Char.isDigit rest
  unfold decimal
  simp only [hdrop]
  split
  · simp only [List.length_cons]
    omega
  · simp only [List.length_drop, List.length_cons]
    omega

/-- A number that starts with a digit takes at least this one, in either base. -/
theorem number_shorter {c : Char} {rest : List Char} (h : c.isDigit) :
    (number (c :: rest)).2.length < (c :: rest).length := by
  have hex : ∀ {digits : List Char} {result : Float × List Char},
      hexadecimal? digits = some result → result.2.length ≤ digits.length := by
    intro digits result hr
    unfold hexadecimal? at hr
    simp only at hr
    split at hr
    · cases hr
    · cases hr
      exact length_dropWhile_le _ _
  unfold number
  simp only
  split
  · next digits heq =>
    cases hd : hexadecimal? digits with
    | none => simpa using decimal_shorter h
    | some result =>
      have := hex hd
      rw [heq]
      simp only [Option.getD_some, List.length_cons]
      omega
  · next digits heq =>
    cases hd : hexadecimal? digits with
    | none => simpa using decimal_shorter h
    | some result =>
      have := hex hd
      rw [heq]
      simp only [Option.getD_some, List.length_cons]
      omega
  · simpa using decimal_shorter h

/-- A symbol takes at least one character. -/
theorem symbol?_shorter {text rest : List Char} {symbol : Symbol}
    (h : symbol? text = some (symbol, rest)) : rest.length < text.length := by
  unfold symbol? at h
  split at h <;> cases h <;> simp only [List.length_cons] <;> omega

/-- A token takes at least one character. -/
theorem lexeme_shorter {text rest : List Char} {token : Token}
    (h : lexeme text = .token token rest) : rest.length < text.length := by
  unfold lexeme at h
  split at h
  · cases h
  · next c more =>
    split at h
    · split at h
      · next hbody =>
        cases h
        have := stringBody?_shorter hbody
        simp only [List.length_cons]
        omega
      · cases h
    · split at h
      · next hdigit =>
        cases h
        exact number_shorter hdigit
      · split at h
        · cases h
          have := length_dropWhile_le continuesName more
          simp only [List.length_cons]
          omega
        · split at h
          · next hsymbol =>
            cases h
            exact symbol?_shorter hsymbol
          · cases h

/-- The tokens of a text that starts at a byte offset. -/
def tokensFrom (offset : Nat) (text : List Char) : Except TokenFault (List Token) :=
  let start := Text.trimStart text
  let offset := offset + (Text.byteLength text - Text.byteLength start)
  if start.isEmpty then .ok []
  else
    match _reading : lexeme start with
    | .token token rest =>
      (tokensFrom (offset + (Text.byteLength start - Text.byteLength rest)) rest).map (token :: ·)
    | .openString => .error (.unterminatedString offset)
    | .unknown => .error (.unexpected (.ofList (start.take 12)) offset)
termination_by text.length
decreasing_by
  have := lexeme_shorter _reading
  have := length_dropWhile_le Text.isBlank text
  simp only [start, Text.trimStart] at *
  omega

/-- The tokens of a text. -/
def tokens (text : List Char) : Except TokenFault (List Token) :=
  tokensFrom 0 text

end TextRecords.Selection
