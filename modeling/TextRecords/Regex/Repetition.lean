import TextRecords.Regex.Flags

/-!
# Repetitions

The reader of repetitions: the three marks of one character, and counts in braces. A question mark
after a repetition makes it lazy.
-/

namespace TextRecords.Regex

/-- How often an expression is repeated, and whether few copies are preferred. -/
structure Repetition where
  least : Nat
  most : Option Nat
  isLazy : Bool

/-- The decimal digits that start a text and the text after them. Under the verbose flag, blanks and
comments may follow each digit. -/
def decimalDigits (flags : Flags) (text : List Char) : List Char × List Char :=
  gather false text
where
  gather (inComment : Bool) : List Char → List Char × List Char
    | [] => ([], [])
    | c :: rest =>
      if inComment then gather (c != '\n') rest
      else if c.isDigit then
        let (digits, after) := gather false rest
        (c :: digits, after)
      else if flags.verbose && Text.isBlank c then gather false rest
      else if flags.verbose && c == '#' then gather true rest
      else ([], c :: rest)

/-- A whole number of up to 32 bits between blanks, as a repetition counts. -/
def count? (flags : Flags) (text : List Char) : Option (Nat × List Char) :=
  let (digits, rest) := decimalDigits flags (Text.trimStart text)
  let value := digits.foldl (fun value c => value * 10 + (c.toNat - '0'.toNat)) 0
  if digits.isEmpty || 0x100000000 ≤ value then none else some (value, Text.trimStart rest)

/-- The counts of a repetition; the text starts after the opening brace. -/
def counts? (flags : Flags) (text : List Char) : Option (Nat × Option Nat × List Char) := do
  let (least, rest) ← count? flags (flags.skip text)
  match rest with
  | '\x7d' :: rest => return (least, some least, rest)
  | ',' :: rest =>
    match flags.skip rest with
    | '\x7d' :: rest => return (least, none, rest)
    | rest =>
      let (most, rest) ← count? flags rest
      match rest with
      | '\x7d' :: rest => if least ≤ most then return (least, some most, rest) else none
      | _ => none
  | _ => none

/-- A repetition with the mark that may follow it, and the text after both. -/
def withMark (flags : Flags) (least : Nat) (most : Option Nat) (text : List Char) :
    Repetition × List Char :=
  match text with
  | '?' :: rest => (⟨least, most, !flags.lazyFirst⟩, rest)
  | _ => (⟨least, most, flags.lazyFirst⟩, text)

/-- The repetition that starts a text, if one does. -/
def repetition? (flags : Flags) : List Char → Option (Option (Repetition × List Char))
  | '?' :: rest => some (some (withMark flags 0 (some 1) rest))
  | '*' :: rest => some (some (withMark flags 0 none rest))
  | '+' :: rest => some (some (withMark flags 1 none rest))
  | '\x7b' :: rest => (counts? flags rest).map fun (least, most, rest) =>
    some (withMark flags least most (flags.skip rest))
  | _ => some none

end TextRecords.Regex
