import Std.Data.TreeMap
import TextRecords.Calendar.Stamp
import TextRecords.Field.Basic
import TextRecords.Number.Integer
import TextRecords.Regex.Matching
import TextRecords.Regex.Reader
import TextRecords.Uuid

/-!
# Types of field values

A field type restricts the values of a field. Types are described by a keyword with its arguments or
by the name of a type that was defined before.
-/

namespace TextRecords

/-- A restriction on values. -/
inductive FieldType where
  | int
  | real
  | bool
  | line
  /-- At most so many characters. -/
  | size (most : Nat)
  /-- An integer between two bounds. -/
  | range (least greatest : Int)
  /-- A text in which a regular expression matches. -/
  | regexp (regex : Regex)
  | date
  | email
  | enum (values : List String)
  | field
  | uuid
  /-- A reference to a record of another set by its key. -/
  | reference (target : String)

/-- Types by the names they were given. -/
abbrev TypeNames := Std.TreeMap String FieldType

/-- What is wrong with the description of a type. -/
inductive FieldTypeFault where
  | invalidSize (description : String)
  | invalidRange (description : String)
  | emptyRegexp
  | unterminatedRegexp (description : String)
  | invalidRegexp (description : String)
  | enumWithoutValues
  | invalidTarget (description : String)
  | unknownType (name : String)
deriving DecidableEq, Repr

/-- The fault in words. -/
def FieldTypeFault.message : FieldTypeFault → String
  | invalidSize description => s!"invalid size type '{description}'"
  | invalidRange description => s!"invalid range type '{description}'"
  | emptyRegexp => "empty regexp type"
  | unterminatedRegexp description => s!"unterminated regexp in '{description}'"
  | invalidRegexp description => s!"invalid regexp in '{description}'"
  | enumWithoutValues => "enum type without values"
  | invalidTarget description => s!"invalid record type in '{description}'"
  | unknownType name => s!"unknown type '{name}'"

namespace FieldType

/-- A bound of a range: the least or the greatest integer of 64 bits by name, or an integer. -/
def bound? (word : List Char) : Option Int :=
  match String.ofList word with
  | "MIN" => some Number.leastInteger
  | "MAX" => some Number.greatestInteger
  | _ => Number.integer? word

/-- A range from the bounds of its description. A single bound is the upper one of a range that
starts at zero. -/
def range? (bounds : List (Option Int)) : Option FieldType :=
  match bounds with
  | [some greatest] => some (range 0 greatest)
  | [some least, some greatest] => if least ≤ greatest then some (range least greatest) else none
  | _ => none

/-- The pattern between a delimiter, which starts the text, and the last delimiter after it. -/
def patternOf (description : String) : List Char → Except FieldTypeFault (List Char)
  | [] => .error .emptyRegexp
  | delimiter :: body =>
    match body.reverse.dropWhile (· != delimiter) with
    | [] => .error (.unterminatedRegexp description)
    | _ :: pattern => .ok pattern.reverse

mutual

/-- A text with a space in place of every note in parentheses. A note ends at the first closing
parenthesis; an opening one without it stands for itself. -/
def dropNotes : List Char → List Char
  | [] => []
  | '(' :: rest => if rest.contains ')' then ' ' :: dropNote rest else '(' :: rest
  | c :: rest => c :: dropNotes rest

/-- A text that starts inside a note, from the end of the note on. -/
def dropNote : List Char → List Char
  | [] => []
  | ')' :: rest => dropNotes rest
  | _ :: rest => dropNote rest

end

/-- The type that a description denotes, given the types defined before it. -/
def ofText (names : TypeNames) (text : List Char) : Except FieldTypeFault FieldType :=
  let text := Text.trim text
  let description := String.ofList text
  let (keyword, arguments) := match Text.cutAtBlank? text with
    | some (keyword, rest) => (keyword, Text.trim rest)
    | none => (text, [])
  match String.ofList keyword with
  | "int" => .ok int
  | "real" => .ok real
  | "bool" => .ok bool
  | "line" => .ok line
  | "date" => .ok date
  | "email" => .ok email
  | "field" => .ok field
  | "uuid" => .ok uuid
  | "size" =>
    match Number.count? arguments with
    | some most => .ok (size most)
    | none => .error (.invalidSize description)
  | "range" =>
    match range? ((Text.words arguments).map bound?) with
    | some type => .ok type
    | none => .error (.invalidRange description)
  | "regexp" => do
    let pattern ← patternOf description arguments
    match Regex.compile? false (.ofList pattern) with
    | some regex => .ok (regexp regex)
    | none => .error (.invalidRegexp description)
  | "enum" =>
    match Text.words (dropNotes arguments) with
    | [] => .error .enumWithoutValues
    | values => .ok (enum (values.map String.ofList))
  | "rec" =>
    let target := (Text.firstWord? arguments).getD []
    if isFieldName target then .ok (reference (.ofList target))
    else .error (.invalidTarget description)
  | name =>
    if arguments.isEmpty then
      match names[name]? with
      | some type => .ok type
      | none => .error (.unknownType name)
    else .error (.unknownType name)

/-- The keyword of a type. -/
def name : FieldType → String
  | int => "int"
  | real => "real"
  | bool => "bool"
  | line => "line"
  | size _ => "size"
  | range _ _ => "range"
  | regexp _ => "regexp"
  | date => "date"
  | email => "email"
  | enum _ => "enum"
  | field => "field"
  | uuid => "uuid"
  | reference _ => "rec"

/-- Whether the values of a type are integers, which can be counted up. -/
def isInteger : FieldType → Bool
  | int | range _ _ => true
  | _ => false

/-- Whether a text is one or more decimal digits. -/
def isDigits (text : List Char) : Bool :=
  !text.isEmpty && text.all Char.isDigit

/-- A text without the minus sign that may start it. -/
def unsigned : List Char → List Char
  | '-' :: rest => rest
  | text => text

/-- Whether a text is an integer: decimal digits, or hexadecimal digits after `0x` or `0X`, with a
minus sign allowed before them. -/
def isInt (text : List Char) : Bool :=
  match unsigned text with
  | '0' :: 'x' :: digits | '0' :: 'X' :: digits =>
    !digits.isEmpty && digits.all Text.isHexDigit
  | digits => isDigits digits

/-- Whether a text is empty or an exponent: the letter `e` in either case, a sign or none, and
digits. -/
def isExponent (text : List Char) : Bool :=
  match text with
  | [] => true
  | 'e' :: rest | 'E' :: rest =>
    match rest with
    | '-' :: digits | '+' :: digits => isDigits digits
    | digits => isDigits digits
  | _ => false

/-- Whether a text is a decimal number: digits, which may have a point after or among them, or a
point before digits, and then an exponent or none. A minus sign is allowed before it. -/
def isReal (text : List Char) : Bool :=
  let unsigned := unsigned text
  let whole := unsigned.takeWhile Char.isDigit
  match unsigned.dropWhile Char.isDigit with
  | '.' :: rest =>
    (!whole.isEmpty || !(rest.takeWhile Char.isDigit).isEmpty) &&
      isExponent (rest.dropWhile Char.isDigit)
  | rest => !whole.isEmpty && isExponent rest

/-- Whether a text is an address: a name, an at sign, and a domain with a point between two of its
characters. No blank and no second at sign occurs in it. -/
def isEmail (text : List Char) : Bool :=
  match Text.splitWhen (· == '@') text with
  | [user, domain] =>
    !user.isEmpty && !text.any Text.isBlank && (domain.drop 1).dropLast.contains '.'
  | _ => false

/-- Whether a type allows a value. Types other than lines, sizes and patterns disregard the blanks
around it. -/
def accepts (type : FieldType) (value : String) : Bool :=
  let trimmed := Text.trim value.toList
  match type with
  | int => isInt trimmed
  | real => isReal trimmed
  | bool => ["yes", "no", "true", "false", "1", "0"].contains (.ofList trimmed)
  | line => !value.toList.contains '\n'
  | size most => value.toList.length ≤ most
  | range least greatest =>
    (Number.integer? value.toList).any fun n => least ≤ n && n ≤ greatest
  | regexp regex => regex.isMatch value
  | date => Calendar.isDate trimmed
  | email => isEmail trimmed
  | enum values => values.contains (.ofList trimmed)
  | field => isFieldName trimmed
  | uuid => Uuid.isUuid trimmed
  | reference _ => true

end FieldType

end TextRecords
