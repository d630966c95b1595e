import TextRecords.Regex.ClassName
import TextRecords.Regex.Flags
import TextRecords.Regex.Simplification

/-!
# Single items of patterns

What one item of a pattern stands for: a plain character, a dot, an assertion, or an escape that
names a character, a class or a word boundary.
-/

namespace TextRecords.Regex

open Unicode (CharSet)

/-- What a single item outside brackets, or inside them, stands for. -/
inductive Primitive where
  /-- A character; `byte` when written by two hexadecimal digits. -/
  | literal (c : Char) (byte : Bool)
  | set (members : CharSet)
  | look (assertion : Look)
  | dot

/-- The character with the given code point. -/
def charOfCode? (code : Nat) : Option Char :=
  if (Char.ofNat code).toNat = code then some (Char.ofNat code) else none

/-- Exactly `count` hexadecimal digits and their value, which goes on from `value`. -/
def fixedHex? (flags : Flags) : Nat → Nat → List Char → Option (Nat × List Char)
  | 0, value, text => some (value, text)
  | count + 1, value, text =>
    match text with
    | c :: rest =>
      match Text.hexDigit? c with
      | some digit => fixedHex? flags count (value * 16 + digit) (flags.skip rest)
      | none => none
    | [] => none

/-- The character written after one of the three hexadecimal escapes: by as many digits as the
escape asks for, or by any number of them in braces. -/
def hexEscape? (flags : Flags) (kind : Char) (text : List Char) :
    Option (Primitive × List Char) := do
  match flags.skip text with
  | '\x7b' :: rest =>
    let (digits, rest) ← flags.braced? rest
    if digits.isEmpty || !digits.all Text.isHexDigit then none
    else return (.literal (← charOfCode? (Text.hexValue digits)) false, rest)
  | text =>
    let count := if kind == 'x' then 2 else if kind == 'u' then 4 else 8
    let (code, rest) ← fixedHex? flags count 0 text
    return (.literal (← charOfCode? code) (kind == 'x'), rest)

/-- The property class written after its escape: a name in braces or of one letter. Letter case is
ignored before the class is negated. -/
def propertyEscape? (flags : Flags) (negated : Bool) (text : List Char) :
    Option (Primitive × List Char) := do
  let (name, rest) ← match flags.skip text with
    | '\x7b' :: rest => flags.braced? rest
    | '\\' :: _ => none
    | c :: rest => some ([c], rest)
    | [] => none
  let (members, without) ← property? name
  if !flags.unicode then none
  else return (.set (← flags.negate? (negated != without) (flags.fold members)), rest)

/-- A class of one letter, or its complement. -/
def classEscape? (flags : Flags) (negated : Bool) (members : CharSet) (rest : List Char) :
    Option (Primitive × List Char) :=
  (flags.negate? negated members).map fun members => (.set members, rest)

/-- A word boundary by the kind that may stand in braces. -/
def boundaryOfKind? (words : WordClass) (kind : String) : Option Look :=
  match kind with
  | "start" => some (.wordStart words)
  | "end" => some (.wordEnd words)
  | "start-half" => some (.wordStartHalf words)
  | "end-half" => some (.wordEndHalf words)
  | _ => none

/-- A word boundary, with the kind that may follow it in braces. Braces that do not start with a
letter or hyphen belong to a repetition. -/
def wordBoundary? (flags : Flags) (text : List Char) : Option (Primitive × List Char) := do
  let plain : Primitive × List Char := (.look (.wordBoundary flags.words), text)
  match text with
  | '\x7b' :: rest =>
    match flags.skip rest with
    | [] => none
    | c :: _ =>
      if c.isAlpha || c == '-' then
        let (kind, rest) ← flags.braced? rest
        return (.look (← boundaryOfKind? flags.words (.ofList kind)), rest)
      else return plain
  | _ => return plain

/-- What an escape stands for; the text starts after the backslash. Any character of ASCII that is
neither a letter nor a digit may be escaped to stand for itself. -/
def escape? (flags : Flags) (text : List Char) : Option (Primitive × List Char) :=
  let words := flags.words
  match text with
  | [] => none
  | c :: rest =>
    match c with
    | 'x' | 'u' | 'U' => hexEscape? flags c rest
    | 'p' => propertyEscape? flags false rest
    | 'P' => propertyEscape? flags true rest
    | 'd' => classEscape? flags false (digits words) rest
    | 's' => classEscape? flags false (blanks words) rest
    | 'w' => classEscape? flags false words.members rest
    | 'D' => classEscape? flags true (digits words) rest
    | 'S' => classEscape? flags true (blanks words) rest
    | 'W' => classEscape? flags true words.members rest
    | 'a' => some (.literal '\x07' false, rest)
    | 'f' => some (.literal '\x0c' false, rest)
    | 't' => some (.literal '\t' false, rest)
    | 'n' => some (.literal '\n' false, rest)
    | 'r' => some (.literal '\r' false, rest)
    | 'v' => some (.literal '\x0b' false, rest)
    | 'A' => some (.look .textStart, rest)
    | 'z' => some (.look .textEnd, rest)
    | 'b' => wordBoundary? flags rest
    | 'B' => some (.look (.notWordBoundary words), rest)
    | '<' => some (.look (.wordStart words), rest)
    | '>' => some (.look (.wordEnd words), rest)
    | _ => if c.val < 0x80 && !c.isAlphanum then some (.literal c false, rest) else none

/-- One item: an escape, an assertion, a dot or a plain character. -/
def primitive? (flags : Flags) : List Char → Option (Primitive × List Char)
  | '\\' :: rest => escape? flags rest
  | '.' :: rest => some (.dot, rest)
  | '^' :: rest =>
    let assertion := if !flags.multiLine then .textStart
      else if flags.anyLineEnd then Look.anyLineStart else .lineStart
    some (.look assertion, rest)
  | '$' :: rest =>
    let assertion := if !flags.multiLine then .textEnd
      else if flags.anyLineEnd then Look.anyLineEnd else .lineEnd
    some (.look assertion, rest)
  | c :: rest => some (.literal c false, rest)
  | [] => none

/-- The set that an item stands for, if it is a character or a class. Without the Unicode flag, a
byte above ASCII is no character. -/
def Primitive.set? (flags : Flags) : Primitive → Option CharSet
  | literal c byte =>
    if byte && !flags.unicode && 0x80 ≤ c.val then none else some (.single c)
  | set members => some members
  | _ => none

/-- The expression that an item outside brackets stands for. Without the Unicode flag, a dot is no
whole character. -/
def Primitive.node? (flags : Flags) : Primitive → Option Node
  | literal c byte =>
    ((literal c byte).set? flags).map fun members => .ofSet (flags.fold members)
  | set members => some (.ofSet members)
  | look assertion => some (.look assertion)
  | dot =>
    if !flags.unicode then none
    else if flags.dotAll then some (.one .all)
    else if flags.anyLineEnd then some (.one (CharSet.ofTable "a d").complement)
    else some (.one (CharSet.single '\n').complement)

end TextRecords.Regex
