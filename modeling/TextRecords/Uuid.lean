import TextRecords.Text.Hex
import TextRecords.Text.Split

/-!
# Universally unique identifiers

The written forms of a UUID: 32 hexadecimal digits, or the same digits in groups of 8, 4, 4, 4 and
12 joined by hyphens. The hyphenated form may stand in braces or after `urn:uuid:` in any letter
case.
-/

namespace TextRecords.Uuid

/-- Whether a text is a UUID in groups joined by hyphens. -/
def isHyphenated (text : List Char) : Bool :=
  let groups := Text.splitWhen (· == '-') text
  groups.map List.length == [8, 4, 4, 4, 12] && groups.all (·.all Text.isHexDigit)

/-- The mark of a UUID as a resource name, in lower case. -/
def resourceMark : List Char := "urn:uuid:".toList

/-- Whether a text is a UUID in one of its written forms. -/
def isUuid (text : List Char) : Bool :=
  (text.length == 32 && text.all Text.isHexDigit) || isHyphenated text ||
    ((text.take resourceMark.length).map Char.toLower == resourceMark &&
      isHyphenated (text.drop resourceMark.length)) ||
    (match text with
      | '\x7b' :: rest => rest.getLast? == some '\x7d' && isHyphenated rest.dropLast
      | _ => false)

end TextRecords.Uuid
