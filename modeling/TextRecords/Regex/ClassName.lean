import TextRecords.Regex.Syntax
import TextRecords.Unicode.Age
import TextRecords.Unicode.Script
import TextRecords.Unicode.Segmentation

/-!
# Named character classes

The character classes that a regular expression can name: the classes of one letter, the bracketed
classes of ASCII, and the properties of the Unicode character database. Property names are compared
without regard to case, spaces, hyphens, underscores and a leading `is`.
-/

namespace TextRecords.Regex

open Unicode (CharSet Category)

/-- Decimal digits. -/
def digits : WordClass → CharSet
  | .unicode => Category.decimalNumber.members
  | .ascii => .ofTable "30-39"

/-- White space. -/
def blanks : WordClass → CharSet
  | .unicode => Unicode.Property.whiteSpace
  | .ascii => .ofTable "9-d 20"

/-- A class of ASCII by the name it has between `[:` and `:]`. -/
def asciiClass? (name : String) : Option CharSet :=
  match name with
  | "alnum" => some (.ofTable "30-39 41-5a 61-7a")
  | "alpha" => some (.ofTable "41-5a 61-7a")
  | "ascii" => some (.ofTable "0-7f")
  | "blank" => some (.ofTable "9 20")
  | "cntrl" => some (.ofTable "0-1f 7f")
  | "digit" => some (.ofTable "30-39")
  | "graph" => some (.ofTable "21-7e")
  | "lower" => some (.ofTable "61-7a")
  | "print" => some (.ofTable "20-7e")
  | "punct" => some (.ofTable "21-2f 3a-40 5b-60 7b-7e")
  | "space" => some (.ofTable "9-d 20")
  | "upper" => some (.ofTable "41-5a")
  | "word" => some (.ofTable "30-39 41-5a 5f 61-7a")
  | "xdigit" => some (.ofTable "30-39 41-46 61-66")
  | _ => none

/-- A property name in lower case without spaces, hyphens, underscores and characters outside ASCII.
A leading `is` does not count, except that `isc` is not the name `c`. -/
def normalName (name : List Char) : String :=
  let plain := fun text : List Char =>
    (text.filter fun c => c.val < 0x80 && c != ' ' && c != '_' && c != '-').map Char.toLower
  match name with
  | first :: second :: rest =>
    if first.toLower == 'i' && second.toLower == 's' then
      if plain rest == ['c'] then "isc" else .ofList (plain rest)
    else .ofList (plain name)
  | _ => .ofList (plain name)

/-- A general category by its short or long name, or one of the three sets named beside them. -/
def category? (name : String) : Option CharSet :=
  match name with
  | "any" => some .all
  | "ascii" => some (.ofTable "0-7f")
  | "assigned" => some (Category.union Category.assigned)
  | "l" | "letter" => some (Category.union Category.letters)
  | "lc" | "casedletter" =>
    some (Category.union [.uppercaseLetter, .lowercaseLetter, .titlecaseLetter])
  | "lu" | "uppercaseletter" => some Category.uppercaseLetter.members
  | "ll" | "lowercaseletter" => some Category.lowercaseLetter.members
  | "lt" | "titlecaseletter" => some Category.titlecaseLetter.members
  | "lm" | "modifierletter" => some Category.modifierLetter.members
  | "lo" | "otherletter" => some Category.otherLetter.members
  | "m" | "mark" | "combiningmark" => some (Category.union Category.marks)
  | "mn" | "nonspacingmark" => some Category.nonspacingMark.members
  | "mc" | "spacingmark" => some Category.spacingMark.members
  | "me" | "enclosingmark" => some Category.enclosingMark.members
  | "n" | "number" => some (Category.union Category.numbers)
  | "nd" | "decimalnumber" | "digit" => some Category.decimalNumber.members
  | "nl" | "letternumber" => some Category.letterNumber.members
  | "no" | "othernumber" => some Category.otherNumber.members
  | "p" | "punctuation" | "punct" => some (Category.union Category.punctuation)
  | "pc" | "connectorpunctuation" => some Category.connectorPunctuation.members
  | "pd" | "dashpunctuation" => some Category.dashPunctuation.members
  | "ps" | "openpunctuation" => some Category.openPunctuation.members
  | "pe" | "closepunctuation" => some Category.closePunctuation.members
  | "pi" | "initialpunctuation" => some Category.initialPunctuation.members
  | "pf" | "finalpunctuation" => some Category.finalPunctuation.members
  | "po" | "otherpunctuation" => some Category.otherPunctuation.members
  | "s" | "symbol" => some (Category.union Category.symbols)
  | "sm" | "mathsymbol" => some Category.mathSymbol.members
  | "sc" | "currencysymbol" => some Category.currencySymbol.members
  | "sk" | "modifiersymbol" => some Category.modifierSymbol.members
  | "so" | "othersymbol" => some Category.otherSymbol.members
  | "z" | "separator" => some (Category.union Category.separators)
  | "zs" | "spaceseparator" => some Category.spaceSeparator.members
  | "zl" | "lineseparator" => some Category.lineSeparator.members
  | "zp" | "paragraphseparator" => some Category.paragraphSeparator.members
  | "c" | "other" => some (Category.union (Category.graphic ++ Category.separators)).complement
  | "cc" | "control" | "cntrl" => some Category.control.members
  | "cf" | "format" => some Category.format.members
  | "cn" | "unassigned" => some (Category.union Category.assigned).complement
  | "co" | "privateuse" => some Category.privateUse.members
  | _ => none

open Unicode.Property in
/-- The properties that hold of a character or do not, with their short and long names. -/
def binaryProperties : List (List String × CharSet) := [
  (["AHex", "ASCII_Hex_Digit"], asciiHexDigit),
  (["Alpha", "Alphabetic"], alphabetic),
  (["Bidi_C", "Bidi_Control"], bidiControl),
  (["Bidi_M", "Bidi_Mirrored"], bidiMirrored),
  (["CI", "Case_Ignorable"], caseIgnorable),
  (["Cased"], cased),
  (["CWCF", "Changes_When_Casefolded"], changesWhenCasefolded),
  (["CWCM", "Changes_When_Casemapped"], changesWhenCasemapped),
  (["CWL", "Changes_When_Lowercased"], changesWhenLowercased),
  (["CWT", "Changes_When_Titlecased"], changesWhenTitlecased),
  (["CWU", "Changes_When_Uppercased"], changesWhenUppercased),
  (["Dash"], dash),
  (["DI", "Default_Ignorable_Code_Point"], defaultIgnorableCodePoint),
  (["Dep", "Deprecated"], deprecated),
  (["Dia", "Diacritic"], diacritic),
  (["Emoji"], emoji),
  (["EComp", "Emoji_Component"], emojiComponent),
  (["EMod", "Emoji_Modifier"], emojiModifier),
  (["EBase", "Emoji_Modifier_Base"], emojiModifierBase),
  (["EPres", "Emoji_Presentation"], emojiPresentation),
  (["ExtPict", "Extended_Pictographic"], extendedPictographic),
  (["Ext", "Extender"], extender),
  (["Gr_Base", "Grapheme_Base"], graphemeBase),
  (["Gr_Ext", "Grapheme_Extend"], graphemeExtend),
  (["Gr_Link", "Grapheme_Link"], graphemeLink),
  (["Hex", "Hex_Digit"], hexDigit),
  (["Hyphen"], hyphen),
  (["IDSB", "IDS_Binary_Operator"], idsBinaryOperator),
  (["IDST", "IDS_Trinary_Operator"], idsTrinaryOperator),
  (["IDSU", "IDS_Unary_Operator"], idsUnaryOperator),
  (["ID_Compat_Math_Continue"], idCompatMathContinue),
  (["ID_Compat_Math_Start"], idCompatMathStart),
  (["IDC", "ID_Continue"], idContinue),
  (["IDS", "ID_Start"], idStart),
  (["Ideo", "Ideographic"], ideographic),
  (["Join_C", "Join_Control"], joinControl),
  (["LOE", "Logical_Order_Exception"], logicalOrderException),
  (["Lower", "Lowercase"], lowercase),
  (["Math"], math),
  (["MCM", "Modifier_Combining_Mark"], modifierCombiningMark),
  (["NChar", "Noncharacter_Code_Point"], noncharacterCodePoint),
  (["OAlpha", "Other_Alphabetic"], otherAlphabetic),
  (["ODI", "Other_Default_Ignorable_Code_Point"], otherDefaultIgnorableCodePoint),
  (["OGr_Ext", "Other_Grapheme_Extend"], otherGraphemeExtend),
  (["OIDC", "Other_ID_Continue"], otherIdContinue),
  (["OIDS", "Other_ID_Start"], otherIdStart),
  (["OLower", "Other_Lowercase"], otherLowercase),
  (["OMath", "Other_Math"], otherMath),
  (["OUpper", "Other_Uppercase"], otherUppercase),
  (["Pat_Syn", "Pattern_Syntax"], patternSyntax),
  (["Pat_WS", "Pattern_White_Space"], patternWhiteSpace),
  (["PCM", "Prepended_Concatenation_Mark"], prependedConcatenationMark),
  (["QMark", "Quotation_Mark"], quotationMark),
  (["Radical"], radical),
  (["RI", "Regional_Indicator"], regionalIndicator),
  (["STerm", "Sentence_Terminal"], sentenceTerminal),
  (["SD", "Soft_Dotted"], softDotted),
  (["Term", "Terminal_Punctuation"], terminalPunctuation),
  (["UIdeo", "Unified_Ideograph"], unifiedIdeograph),
  (["Upper", "Uppercase"], uppercase),
  (["VS", "Variation_Selector"], variationSelector),
  (["WSpace", "White_Space", "space"], whiteSpace),
  (["XIDC", "XID_Continue"], xidContinue),
  (["XIDS", "XID_Start"], xidStart)]

/-- A property that holds of a character or does not, by one of its names. -/
def binaryProperty? (name : String) : Option CharSet :=
  (binaryProperties.find? fun (names, _) => names.any (normalName ·.toList == name)).map (·.2)

/-- A script by its code or full name. -/
def script? (name : String) : Option Unicode.Script :=
  Unicode.Script.all.find? fun script => script.names.any (normalName ·.toList == name)

/-- Whether a name is that of a version: as in `6.0`, or as in `V6_0`. -/
def isNameOf (version name : String) : Bool :=
  name == version || name.toList == 'v' :: version.toList.filter (· != '.')

/-- The characters assigned up to the version of the given name. -/
def age? (name : String) : Option CharSet :=
  (Unicode.Release.all.findIdx? fun release => isNameOf release.version name).map
    Unicode.Release.charactersUpTo

/-- The characters that have the given value of the property of the given name. -/
def valueOf? (property value : String) : Option CharSet :=
  match property with
  | "gc" | "generalcategory" => category? value
  | "sc" | "script" => (script? value).map (·.members)
  | "scx" | "scriptextensions" => (script? value).map (·.extendedMembers)
  | "age" => age? value
  | "gcb" | "graphemeclusterbreak" => Unicode.graphemeBreak? value
  | "wb" | "wordbreak" => Unicode.wordBreak? value
  | "sb" | "sentencebreak" => Unicode.sentenceBreak? value
  | _ => none

/-- The characters that a name alone stands for: a binary property, a general category or a
script. The two-letter names of two categories are also short for properties of other kinds, and
mean the categories. -/
def named? (name : String) : Option CharSet :=
  binaryProperty? name <|> category? name <|> (script? name).map (·.members)

/-- A text cut at the first place where a mark stands, without the mark. -/
def cutAt? (mark : List Char) : List Char → Option (List Char × List Char)
  | [] => none
  | c :: rest =>
    match Text.after? mark (c :: rest) with
    | some after => some ([], after)
    | none => (cutAt? mark rest).map fun (before, after) => (c :: before, after)

/-- What stands between the braces of a property escape: a property, a general category or a script
alone, or a value after the name of its property. The second result tells whether the characters
with the value are left out. -/
def property? (text : List Char) : Option (CharSet × Bool) :=
  match cutAt? ['!', '='] text, cutAt? [':'] text, cutAt? ['='] text with
  | some (name, value), _, _ => (valueOf? (normalName name) (normalName value)).map (·, true)
  | none, some (name, value), _ => (valueOf? (normalName name) (normalName value)).map (·, false)
  | none, none, some (name, value) =>
    (valueOf? (normalName name) (normalName value)).map (·, false)
  | none, none, none => (named? (normalName text)).map (·, false)

end TextRecords.Regex
