import TextRecords.Unicode.Property

/-!
# Classes of characters in text

What text asks about a character of its own: whether it is alphabetic, cased, visible and the like.
Text follows version 17 of the Unicode character database, so that each class is the one of version
16 with the characters that the next version added to it; one letter, U+0295, is no longer cased.
-/

namespace TextRecords.Unicode

/-- The characters that version 17 assigned, all of them visible. -/
def newlyAssigned : CharSet := .ofTable
  "88f c5c cdc 1acf-1add 1ae0-1aeb 20c1 2b96 a7ce-a7cf a7d2 a7d4 a7f1 fbc3-fbd2 fd90-fd91
   fdc8-fdce 10940-10959 10ec5-10ec7 10ed0-10ed8 10efa-10efb 11b60-11b67 11db0-11ddb 11de0-11de9
   16ea0-16eb8 16ebb-16ed3 16ff2-16ff6 187f8-187ff 18d09-18d1e 18d80-18df2 1ccfa-1ccfc
   1ceba-1ced0 1cee0-1cef0 1e6c0-1e6de 1e6e0-1e6f5 1e6fe-1e6ff 1f6d8 1f777-1f77a 1f8d0-1f8d8
   1fa54-1fa57 1fa8a 1fa8e 1fac8 1facd 1faea 1faef 1fbfa 2b73a-2b73f 2cea2-2cead 323b0-33479"

/-- The characters among them that extend the grapheme before them. -/
def newlyExtending : CharSet := .ofTable
  "1acf-1add 1ae0-1aeb 10efa-10efb 11b60 11b62-11b64 11b66 1e6e3 1e6e6 1e6ee-1e6ef 1e6f5"

/-- The letters among them that have case. -/
def newlyCased : CharSet := .ofTable "a7ce-a7cf a7d2 a7d4 a7f1 16ea0-16eb8 16ebb-16ed3"

/-- The digits among them. -/
def newlyNumeric : CharSet := .ofTable "11de0-11de9 16ff4-16ff6"

/-- The characters among them that are alphabetic. -/
def newlyAlphabetic : CharSet := .ofTable
  "88f c5c cdc a7ce-a7cf a7d2 a7d4 a7f1 10940-10959 10ec5-10ec7 10efa-10efb 11b60-11b67
   11db0-11ddb 16ea0-16eb8 16ebb-16ed3 16ff2-16ff6 187f8-187ff 18d09-18d1e 18d80-18df2
   1e6c0-1e6de 1e6e0-1e6f5 1e6fe-1e6ff 2b73a-2b73f 2cea2-2cead 323b0-33479"

/-- Whether a character is cased. -/
def isCased (c : Char) : Bool :=
  ((Property.cased \ .single '\u0295') ∪ newlyCased).contains c

/-- Whether the rule for a final sigma looks past a character. -/
def isCaseIgnorable (c : Char) : Bool :=
  (Property.caseIgnorable ∪ newlyExtending ∪
    .ofTable "a7f1 10ec5 11dd9 16ff2-16ff3 1e6ff").contains c

/-- Whether a character is alphabetic. -/
def isAlphabetic (c : Char) : Bool :=
  (Property.alphabetic ∪ newlyAlphabetic).contains c

/-- Whether a character is alphabetic or a number of any kind. -/
def isAlphanumeric (c : Char) : Bool :=
  isAlphabetic c || (Category.union Category.numbers ∪ newlyNumeric).contains c

/-- Whether a character extends the grapheme before it. -/
def extendsGrapheme (c : Char) : Bool :=
  (Property.graphemeExtend ∪ newlyExtending).contains c

/-- Whether a character shows as a mark of its own: anything assigned but the controls, the format
and private use characters, the separators other than the space, and the letters and marks that a
reader may ignore by default, such as the fillers of Hangul. -/
def isGraphic (c : Char) : Bool :=
  let shown := Category.union Category.graphic \ Property.defaultIgnorableCodePoint
  c == ' ' || (shown ∪ newlyAssigned).contains c

end TextRecords.Unicode
