import TextRecords.Text.Split

/-!
# White space

A character is blank when it has the Unicode property White_Space. Trimming and splitting into words
go by this class; a record text line is blank when all its characters are.
-/

namespace TextRecords.Text

/-- Whether a character has the property White_Space. -/
def isBlank (c : Char) : Bool :=
  let n := c.toNat
  (9 ≤ n && n ≤ 13) || n == 0x20 || n == 0x85 || n == 0xa0 || n == 0x1680 ||
    (0x2000 ≤ n && n ≤ 0x200a) || n == 0x2028 || n == 0x2029 || n == 0x202f || n == 0x205f ||
    n == 0x3000

/-- A text without the blanks that start it. -/
def trimStart (text : List Char) : List Char :=
  text.dropWhile isBlank

/-- A text without the blanks that end it. -/
def trimEnd (text : List Char) : List Char :=
  (text.reverse.dropWhile isBlank).reverse

/-- A text without the blanks at its two ends. -/
def trim (text : List Char) : List Char :=
  trimEnd (trimStart text)

/-- The maximal blank-free runs of a text. -/
def words (text : List Char) : List (List Char) :=
  (splitWhen isBlank text).filter (!·.isEmpty)

/-- The first word of a text, if it has one. -/
def firstWord? (text : List Char) : Option (List Char) :=
  (words text).head?

/-- A text cut at its first blank, which goes to neither side. -/
def cutAtBlank? (text : List Char) : Option (List Char × List Char) :=
  match text.dropWhile (!isBlank ·) with
  | [] => none
  | _ :: rest => some (text.takeWhile (!isBlank ·), rest)

end TextRecords.Text
