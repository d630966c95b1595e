import TextRecords.Calendar.Date
import TextRecords.Text.Blank

/-!
# Written dates

The forms in which a date can be written: the timestamps of RFC 3339 and RFC 2822, a date of year,
month and day, and such a date followed by a time of day without an offset.
-/

namespace TextRecords.Calendar

/-- A whole number of between `least` and `most` digits, as many as there are. -/
def digits? (least most : Nat) (text : List Char) : Option (Nat × List Char) :=
  let digits := (text.take most).takeWhile Char.isDigit
  if digits.length < least then none
  else some (digits.foldl (fun value c => value * 10 + (c.toNat - '0'.toNat)) 0,
    text.drop digits.length)

/-- The text after a given character. -/
def past? (c : Char) (text : List Char) : Option (List Char) :=
  match text with
  | first :: rest => if first == c then some rest else none
  | [] => none

/-- The text after blanks, of which there is at least one. -/
def pastBlanks? (text : List Char) : Option (List Char) :=
  match text with
  | c :: _ => if Text.isBlank c then some (Text.trimStart text) else none
  | [] => none

/-- The position of the three-letter word that starts a text in a list of words, in any case. -/
def word? (names : List String) (text : List Char) : Option (Nat × List Char) :=
  let word := String.ofList ((text.take 3).map Char.toLower)
  (names.findIdx? (· == word)).map fun position => (position, text.drop 3)

/-- The names of the months. -/
def monthNames : List String :=
  ["jan", "feb", "mar", "apr", "may", "jun", "jul", "aug", "sep", "oct", "nov", "dec"]

/-- The names of the days of the week. -/
def weekdayNames : List String :=
  ["mon", "tue", "wed", "thu", "fri", "sat", "sun"]

/-- Hours and minutes of an offset, between which `between` stands. -/
def offset? (between : List Char → Option (List Char)) (text : List Char) :
    Option (Nat × List Char) := do
  let (hours, rest) ← digits? 2 2 text
  let (minutes, rest) ← digits? 2 2 (← between rest)
  if minutes < 60 then return (hours * 60 + minutes, rest) else none

/-- Whether a text is a timestamp of RFC 3339. A blank may stand for the letter between date and
time, and the sign of an offset may be the minus sign proper. -/
def isRfc3339 (text : List Char) : Bool :=
  (do
    let (year, rest) ← digits? 4 4 text
    let (month, rest) ← digits? 2 2 (← past? '-' rest)
    let (day, rest) ← digits? 2 2 (← past? '-' rest)
    let rest ← past? 'T' rest <|> past? 't' rest <|> past? ' ' rest
    let (hour, rest) ← digits? 2 2 rest
    let (minute, rest) ← digits? 2 2 (← past? ':' rest)
    let (second, rest) ← digits? 2 2 (← past? ':' rest)
    let rest ← match rest with
      | '.' :: fraction =>
        if (fraction.takeWhile Char.isDigit).isEmpty then none
        else some (fraction.dropWhile Char.isDigit)
      | _ => some rest
    let (offset, rest) ← match rest with
      | 'Z' :: rest | 'z' :: rest => some (0, rest)
      | '+' :: rest | '-' :: rest | '−' :: rest => offset? (past? ':') rest
      | _ => none
    return rest.isEmpty && offsetExists offset && (Date.mk year month day).exists &&
      (Time.mk hour minute second).exists).getD false

/-- The year that a run of digits names in a timestamp of RFC 2822: two digits lie between 1950 and
2049, three count from 1900. -/
def expandYear (digitCount year : Nat) : Nat :=
  match digitCount with
  | 2 => if year < 50 then year + 2000 else year + 1900
  | 3 => year + 1900
  | _ => year

/-- A zone of RFC 2822, as minutes ahead of universal time: an offset, one of the named zones of the
standard, or a military letter, which says nothing about the offset. -/
def zone? (text : List Char) : Option (Int × List Char) :=
  let name := text.takeWhile Char.isAlpha
  let rest := text.dropWhile Char.isAlpha
  match String.ofList (name.map Char.toLower) with
  | "" =>
    match text with
    | '+' :: digits => (offset? some digits).map fun (minutes, rest) => ((minutes : Int), rest)
    | '-' :: digits => (offset? some digits).map fun (minutes, rest) => (-(minutes : Int), rest)
    | _ => none
  | "gmt" | "ut" | "z" => some (0, rest)
  | "edt" => some (-4 * 60, rest)
  | "est" | "cdt" => some (-5 * 60, rest)
  | "cst" | "mdt" => some (-6 * 60, rest)
  | "mst" | "pdt" => some (-7 * 60, rest)
  | "pst" => some (-8 * 60, rest)
  | letter => if letter.length == 1 && letter != "j" then some (0, rest) else none

/-- The text after a comment whose parentheses are open to the given depth. A backslash takes away
the meaning of the character after it. -/
def closeComment? (depth : Nat) (escaped : Bool) : List Char → Option (List Char)
  | [] => none
  | c :: rest =>
    if escaped then closeComment? depth false rest
    else if c == '\\' then closeComment? depth true rest
    else if c == '(' then closeComment? (depth + 1) false rest
    else if c == ')' then
      if depth ≤ 1 then some rest else closeComment? (depth - 1) false rest
    else closeComment? depth false rest

/-- Whether a text consists of comments, with blanks before them. -/
def isComments (text : List Char) : Bool :=
  text.isEmpty ||
    match Text.trimStart text with
    | '(' :: inner =>
      match closeComment? 1 false inner with
      | some rest => if rest.length < text.length then isComments rest else false
      | none => false
    | _ => false
termination_by text.length

/-- The day of the week that may start a timestamp of RFC 2822, with its comma. -/
def weekday? (text : List Char) : Option (Option Nat × List Char) :=
  match word? weekdayNames text with
  | some (weekday, rest) => (past? ',' rest).map fun rest => (some weekday, rest)
  | none => some (none, text)

/-- Whether a text is a timestamp of RFC 2822. Blanks may surround most of its parts, the seconds
may be left out, and comments may follow it; a day of the week has to be the right one. -/
def isRfc2822 (text : List Char) : Bool :=
  (do
    let (weekday, rest) ← weekday? (Text.trimStart text)
    let (day, rest) ← digits? 1 2 (Text.trimStart rest)
    let (month, rest) ← word? monthNames (← pastBlanks? rest)
    let yearText ← pastBlanks? rest
    let (year, rest) ← digits? 2 yearText.length yearText
    let year := expandYear (yearText.length - rest.length) year
    let (hour, rest) ← digits? 2 2 (← pastBlanks? rest)
    let (minute, rest) ← digits? 2 2 (Text.trimStart (← past? ':' (Text.trimStart rest)))
    let (second, rest) ← match past? ':' (Text.trimStart rest) with
      | some rest => digits? 2 2 rest
      | none => some (0, rest)
    let (offset, rest) ← zone? (← pastBlanks? rest)
    let date : Date := ⟨year, month + 1, day⟩
    let time : Time := ⟨hour, minute, second⟩
    return isComments rest && offsetExists offset && date.exists &&
      weekday.all (· == date.weekday) && time.exists && instantExists date time offset).getD false

/-- A year, month and day with hyphens between. A year with a sign has any number of digits, one
without at most four; blanks may stand before each number. -/
def date? (text : List Char) : Option (Date × List Char) := do
  let text := Text.trimStart text
  let (year, rest) ← match text with
    | '-' :: rest => (digits? 1 rest.length rest).map fun (year, rest) => (-(year : Int), rest)
    | '+' :: rest => (digits? 1 rest.length rest).map fun (year, rest) => ((year : Int), rest)
    | _ => (digits? 1 4 text).map fun (year, rest) => ((year : Int), rest)
  let (month, rest) ← digits? 1 2 (Text.trimStart (← past? '-' rest))
  let (day, rest) ← digits? 1 2 (Text.trimStart (← past? '-' rest))
  let date : Date := ⟨year, month, day⟩
  if date.exists then return (date, rest) else none

/-- Whether a text is a time of day; blanks may stand before each number. -/
def isTime (text : List Char) : Bool :=
  (do
    let (hour, rest) ← digits? 1 2 (Text.trimStart text)
    let (minute, rest) ← digits? 1 2 (Text.trimStart (← past? ':' rest))
    let (second, rest) ← digits? 1 2 (Text.trimStart (← past? ':' rest))
    return rest.isEmpty && (Time.mk hour minute second).exists).getD false

/-- Whether a text is a date in one of the written forms. -/
def isDate (text : List Char) : Bool :=
  isRfc3339 text || isRfc2822 text ||
    match date? text with
    | some (_, rest) =>
      rest.isEmpty || isTime rest || ((past? 'T' rest).any isTime)
    | none => false

end TextRecords.Calendar
