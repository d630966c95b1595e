import TextRecords.Unicode.Character

/-!
# Quoted text

Text between double quotes, as diagnostics show it. Quotes, backslashes and the common controls are
escaped by a backslash and a letter; any other character that does not show as a mark of its own,
or would merge with the mark before it, is written by its code point.
-/

namespace TextRecords.Text

/-- A character written by its code point. -/
def escapeCode (c : Char) : List Char :=
  ['\\', 'u', '\x7b'] ++ Nat.toDigits 16 c.toNat ++ ['\x7d']

/-- A character as it stands between double quotes. -/
def quoteChar (c : Char) : List Char :=
  match c with
  | '\x00' => ['\\', '0']
  | '\t' => ['\\', 't']
  | '\r' => ['\\', 'r']
  | '\n' => ['\\', 'n']
  | '"' => ['\\', '"']
  | '\\' => ['\\', '\\']
  | _ =>
    if c.val < 0x7f && 0x20 ≤ c.val then [c]
    else if Unicode.extendsGrapheme c || !Unicode.isGraphic c then escapeCode c
    else [c]

/-- A text between double quotes. -/
def quote (text : String) : String :=
  .ofList ('"' :: text.toList.flatMap quoteChar ++ ['"'])

end TextRecords.Text
