import TextRecords.Number.Integer

/-!
# JSON

A reader of JSON text. Of a number only its value matters when it is a plain natural number; a
string whose escapes contain half a surrogate pair is well formed but has no text. Members of an
object keep their order and may repeat a name.
-/

namespace TextRecords

/-- A JSON value. -/
inductive Json where
  | null
  | bool (value : Bool)
  /-- A number without sign, fraction and exponent. -/
  | natural (value : Nat)
  /-- Any other number. -/
  | number
  | string (value : Option String)
  | array (items : List Json)
  | object (members : List (Option String × Json))

namespace Json

/-- The space, tab, carriage return and newline that may stand between tokens. -/
def isSpace (c : Char) : Bool :=
  c == ' ' || c == '\t' || c == '\r' || c == '\n'

/-- A text without the white space that starts it. -/
def skip (text : List Char) : List Char :=
  text.dropWhile isSpace

/-- The value of four hexadecimal digits. -/
def hex4? : List Char → Option (Nat × List Char)
  | a :: b :: c :: d :: rest => do
    let a ← Text.hexDigit? a
    let b ← Text.hexDigit? b
    let c ← Text.hexDigit? c
    let d ← Text.hexDigit? d
    return (((a * 16 + b) * 16 + c) * 16 + d, rest)
  | _ => none

/-- The character of a one-letter escape. -/
def escape? (c : Char) : Option Char :=
  match c with
  | '"' | '\\' | '/' => some c
  | 'b' => some '\x08'
  | 'f' => some '\x0c'
  | 'n' => some '\n'
  | 'r' => some '\r'
  | 't' => some '\t'
  | _ => none

/-- Whether a number is the first, or the second, half of a surrogate pair. -/
def isHigh (code : Nat) : Bool := 0xd800 ≤ code && code < 0xdc00

@[inherit_doc isHigh]
def isLow (code : Nat) : Bool := 0xdc00 ≤ code && code < 0xe000

/-- One unit of a string: its character, if it has one, and the rest. -/
def unit? : List Char → Option (Option Char × List Char)
  | '\\' :: 'u' :: rest => do
    let (code, rest) ← hex4? rest
    if isHigh code then
      match rest with
      | '\\' :: 'u' :: more =>
        let (second, more) ← hex4? more
        if isLow second then
          return (some (.ofNat (0x10000 + (code - 0xd800) * 0x400 + (second - 0xdc00))), more)
        else return (none, rest)
      | _ => return (none, rest)
    else if isLow code then return (none, rest)
    else return (some (.ofNat code), rest)
  | '\\' :: c :: rest => (escape? c).map fun c => (some c, rest)
  | c :: rest => if c.val < 0x20 || c == '\\' then none else some (some c, rest)
  | [] => none

/-- A string after its opening quote. -/
def stringBody? (read : List (Option Char)) (text : List Char) :
    Option (Option String × List Char) :=
  if text.head? == some '"' then some ((read.reverse.mapM id).map String.ofList, text.drop 1)
  else match unit? text with
    | some (unit, rest) =>
      if rest.length < text.length then stringBody? (unit :: read) rest else none
    | none => none
termination_by text.length

/-- The text after digits, of which there is at least one. -/
def pastDigits? (text : List Char) : Option (List Char) :=
  if (text.takeWhile Char.isDigit).isEmpty then none else some (text.dropWhile Char.isDigit)

/-- A number: a whole part without needless zeros, then a fraction and an exponent if they are
there. -/
def number? (text : List Char) : Option (Json × List Char) := do
  let unsigned := if text.head? == some '-' then text.drop 1 else text
  let afterWhole ← match unsigned with
    | '0' :: rest => if rest.head?.any Char.isDigit then none else some rest
    | _ => pastDigits? unsigned
  let afterFraction ← match afterWhole with
    | '.' :: rest => pastDigits? rest
    | _ => some afterWhole
  let rest ← match afterFraction with
    | 'e' :: rest | 'E' :: rest =>
      match rest with
      | '+' :: digits | '-' :: digits => pastDigits? digits
      | _ => pastDigits? rest
    | _ => some afterFraction
  if rest.length = afterWhole.length && unsigned.length = text.length then
    let digits := text.take (text.length - rest.length)
    return (natural (digits.foldl (fun value c => value * 10 + (c.toNat - '0'.toNat)) 0), rest)
  else return (number, rest)

/-- The rest of a literal name, of which the first letter has been read. -/
def literal? (value : Json) (letters : String) (text : List Char) : Option (Json × List Char) :=
  (Text.after? letters.toList text).map fun rest => (value, rest)

mutual

/-- A value with the text after it. -/
def value? (text : List Char) : Option (Json × List Char) :=
  match skip text with
  | [] => none
  | 'n' :: rest => literal? null "ull" rest
  | 't' :: rest => literal? (bool true) "rue" rest
  | 'f' :: rest => literal? (bool false) "alse" rest
  | '"' :: rest => (stringBody? [] rest).map fun (value, rest) => (string value, rest)
  | '[' :: rest =>
    match skip rest with
    | ']' :: rest => some (array [], rest)
    | _ => if rest.length < text.length then items? [] rest else none
  | '\x7b' :: rest =>
    match skip rest with
    | '\x7d' :: rest => some (object [], rest)
    | _ => if rest.length < text.length then members? [] rest else none
  | start => number? start
termination_by (text.length, 0)

/-- The items of an array, of which there is at least one, up to its closing bracket. -/
def items? (read : List Json) (text : List Char) : Option (Json × List Char) :=
  match value? text with
  | none => none
  | some (item, rest) =>
    match skip rest with
    | ']' :: rest => some (array (item :: read).reverse, rest)
    | ',' :: rest => if rest.length < text.length then items? (item :: read) rest else none
    | _ => none
termination_by (text.length, 1)

/-- The members of an object, of which there is at least one, up to its closing brace. -/
def members? (read : List (Option String × Json)) (text : List Char) :
    Option (Json × List Char) :=
  match skip text with
  | '"' :: rest =>
    match stringBody? [] rest with
    | none => none
    | some (name, rest) =>
      match skip rest with
      | ':' :: rest =>
        if rest.length < text.length then
          match value? rest with
          | none => none
          | some (value, rest) =>
            match skip rest with
            | '\x7d' :: rest => some (object ((name, value) :: read).reverse, rest)
            | ',' :: rest =>
              if rest.length < text.length then members? ((name, value) :: read) rest else none
            | _ => none
        else none
      | _ => none
  | _ => none
termination_by (text.length, 1)

end

/-- The value that a text denotes, with nothing but white space around it. -/
def ofText? (text : String) : Option Json :=
  match value? text.toList with
  | some (value, rest) => if (skip rest).isEmpty then some value else none
  | none => none

end Json

end TextRecords
