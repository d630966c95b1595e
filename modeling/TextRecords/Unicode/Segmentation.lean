import TextRecords.Unicode.Property

/-!
# Text segmentation

The properties Grapheme_Cluster_Break, Word_Break and Sentence_Break of version 16 of the Unicode
character database. Each is a function from the names of its values, in lower case and without
underscores, to the characters that have the value; most values follow from other properties.
-/

namespace TextRecords.Unicode

open Property

/-- Hangul syllables that end in a vowel. -/
def openSyllable : CharSet := .ofTable "ac00-d788/1c"

/-- Spacing marks that do not attach to the grapheme before them. -/
def looseMark : CharSet := .ofTable
  "102b-102c 1038 1062-1064 1067-106d 1083 1087-108c 108f 109a-109c 1a61 1a63-1a64 aa7b aa7d
   11720-11721"

/-- The characters with a value of Grapheme_Cluster_Break. -/
def graphemeBreak? : String → Option CharSet
  | "cr" => some (.single '\r')
  | "lf" => some (.single '\n')
  | "control" | "cn" => some <|
    (Category.union [.control, .format, .lineSeparator, .paragraphSeparator] ∪
        (defaultIgnorableCodePoint \ Category.union Category.assigned)) \
      (prependedConcatenationMark ∪ joinControl ∪ .ofTable "a d e0020-e007f")
  | "extend" | "ex" => some (graphemeExtend ∪ emojiModifier)
  | "spacingmark" | "sm" => some <|
    (Category.spacingMark.members ∪ .ofTable "e33 eb3") \ (graphemeExtend ∪ looseMark)
  | "prepend" | "pp" => some <|
    prependedConcatenationMark ∪ .ofTable
      "d4e 111c2-111c3 113d1 1193f 11941 11a3a 11a84-11a89 11d46 11f02"
  | "regionalindicator" | "ri" => some regionalIndicator
  | "l" => some (.ofTable "1100-115f a960-a97c")
  | "v" => some (.ofTable "1160-11a7 d7b0-d7c6 16d63 16d67-16d6a")
  | "t" => some (.ofTable "11a8-11ff d7cb-d7fb")
  | "lv" => some openSyllable
  | "lvt" => some (.ofTable "ac00-d7a3" \ openSyllable)
  | "zwj" => some (.single '\u200d')
  | _ => none

/-- The characters that words are made of in katakana. -/
def katakanaWord : CharSet := .ofTable
  "3031-3035 309b-309c 30a0-30fa 30fc-30ff 31f0-31ff 32d0-32fe 3300-3357 ff66-ff9d 1aff0-1aff3
   1aff5-1affb 1affd-1affe 1b000 1b120-1b122 1b155 1b164-1b167"

/-- Hebrew letters. -/
def hebrewLetter : CharSet := .ofTable
  "5d0-5ea 5ef-5f2 fb1d fb1f-fb28 fb2a-fb36 fb38-fb3c fb3e fb40-fb41 fb43-fb44 fb46-fb4f"

/-- The characters that word breaks and sentence breaks look past after another character. -/
def breakExtend : CharSet :=
  graphemeExtend ∪ Category.spacingMark.members ∪ emojiModifier

/-- Signs that count as letters within words though they are not alphabetic. -/
def letterSign : CharSet := .ofTable
  "2c2-2c5 2d2-2d7 2de-2df 2e5-2eb 2ed 2ef-2ff 55a-55c 55e 58a 5f3 a708-a716 a720-a721 a789-a78a
   ab5b"

/-- Letters of the scripts that are written without blanks between words. -/
def unspacedLetter : CharSet := .ofTable
  "e01-e30 e32-e33 e40-e46 e81-e82 e84 e86-e8a e8c-ea3 ea5 ea7-eb0 eb2-eb3 ebd ec0-ec4 ec6
   edc-edf 1000-102a 103f 1050-1055 105a-105d 1061 1065-1066 106e-1070 1075-1081 108e 1780-17b3
   17d7 17dc 1950-196d 1970-1974 1980-19ab 19b0-19c9 1a20-1a54 1aa7 3041-3096 309d-309f a9e0-a9e4
   a9e6-a9ef a9fa-a9fe aa60-aa76 aa7a aa7e-aaaf aab1 aab5-aab6 aab9-aabd aac0 aac2 aadb-aadd
   11700-1171a 11740-11746 1b001-1b11f 1b132 1b150-1b152"

/-- The characters with a value of Word_Break. -/
def wordBreak? : String → Option CharSet
  | "cr" => some (.single '\r')
  | "lf" => some (.single '\n')
  | "newline" | "nl" => some (.ofTable "b-c 85 2028-2029")
  | "aletter" | "le" => some <|
    ((alphabetic \ ideographic) ∪ letterSign) \
      (breakExtend ∪ katakanaWord ∪ hebrewLetter ∪ unspacedLetter)
  | "doublequote" | "dq" => some (.single '"')
  | "singlequote" | "sq" => some (.single '\x27')
  | "extend" => some breakExtend
  | "extendnumlet" | "ex" => some (.ofTable "5f 202f 203f-2040 2054 fe33-fe34 fe4d-fe4f ff3f")
  | "format" | "fo" => some (Category.format.members \ .ofTable "200b-200d e0020-e007f")
  | "hebrewletter" | "hl" => some hebrewLetter
  | "katakana" | "ka" => some katakanaWord
  | "midletter" | "ml" => some (.ofTable "3a b7 387 55f 5f4 2027 fe13 fe55 ff1a")
  | "midnum" | "mn" => some <|
    .ofTable "2c 3b 37e 589 60c-60d 66c 7f8 2044 fe10 fe14 fe50 fe54 ff0c ff1b"
  | "midnumlet" | "mb" => some (.ofTable "2e 2018-2019 2024 fe52 ff07 ff0e")
  | "numeric" | "nu" => some (Category.decimalNumber.members ∪ .single '\u066b')
  | "regionalindicator" | "ri" => some regionalIndicator
  | "wsegspace" => some (.ofTable "20 1680 2000-2006 2008-200a 205f 3000")
  | "zwj" => some (.single '\u200d')
  | _ => none

/-- The characters that may end a sentence or stand within one, such as full stops. -/
def ambiguousTerminal : CharSet := .ofTable "2e 2024 fe52 ff0e"

/-- The characters that end a paragraph, other than the ends of lines of ASCII. -/
def separatorMark : CharSet := .ofTable "85 2028-2029"

/-- Lowercase letters at the start of a sentence; the Georgian ones have no uppercase forms in
ordinary text. -/
def sentenceLower : CharSet :=
  lowercase \ (graphemeExtend ∪ .ofTable "10d0-10fa 10fd-10ff")

/-- Uppercase and titlecase letters at the start of a sentence. -/
def sentenceUpper : CharSet :=
  (uppercase ∪ Category.titlecaseLetter.members) \ .ofTable "1c90-1cba 1cbd-1cbf"

/-- The characters with a value of Sentence_Break. -/
def sentenceBreak? : String → Option CharSet
  | "cr" => some (.single '\r')
  | "lf" => some (.single '\n')
  | "extend" | "ex" => some (graphemeExtend ∪ Category.spacingMark.members ∪ .single '\u200d')
  | "sep" | "se" => some separatorMark
  | "format" | "fo" => some (Category.format.members \ .ofTable "200c-200d e0020-e007f")
  | "sp" => some (whiteSpace \ (separatorMark ∪ .ofTable "a d"))
  | "lower" | "lo" => some sentenceLower
  | "upper" | "up" => some sentenceUpper
  | "oletter" | "le" => some <|
    (alphabetic \ (sentenceLower ∪ sentenceUpper ∪ graphemeExtend ∪
      Category.spacingMark.members)) ∪ .ofTable "5f3"
  | "numeric" | "nu" => some (Category.decimalNumber.members ∪ .ofTable "66b-66c")
  | "aterm" | "at" => some ambiguousTerminal
  | "scontinue" | "sc" => some (.ofTable
      "2c-2d 3a-3b 37e 55d 60c-60d 7f8 1802 1808 2013-2014 3001 fe10-fe11 fe13-fe14 fe31-fe32
       fe50-fe51 fe54-fe55 fe58 fe63 ff0c-ff0d ff1a-ff1b ff64")
  | "sterm" | "st" => some (sentenceTerminal \ ambiguousTerminal)
  | "close" | "cl" => some <|
    Category.union [.openPunctuation, .closePunctuation, .initialPunctuation, .finalPunctuation] ∪
      .ofTable "22 27 275b-2760 2e00-2e01 2e06-2e08 2e0b 1f676-1f678"
  | _ => none

end TextRecords.Unicode
