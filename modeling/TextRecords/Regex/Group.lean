import TextRecords.Regex.Flags

/-!
# Groups

The reader of how a group starts: a plain group, a group with a name, a group with flags of its own,
or flags that hold to the end of the group around them. Look-around does not exist.
-/

namespace TextRecords.Regex

/-- The flag that a letter names, set to a value. -/
def Flags.set? (flags : Flags) (letter : Char) (value : Bool) : Option Flags :=
  match letter with
  | 'i' => some { flags with caseless := value }
  | 'm' => some { flags with multiLine := value }
  | 's' => some { flags with dotAll := value }
  | 'U' => some { flags with lazyFirst := value }
  | 'u' => some { flags with unicode := value }
  | 'R' => some { flags with anyLineEnd := value }
  | 'x' => some { flags with verbose := value }
  | _ => none

/-- The flags after a list of flag letters, each written once, those after a hyphen cleared. A
hyphen is followed by at least one letter. -/
def flagLetters? (flags : Flags) (seen : List Char) (value : Bool) : List Char → Option Flags
  | [] => if seen.head? == some '-' then none else some flags
  | c :: rest =>
    if seen.contains c then none
    else if c == '-' then flagLetters? flags (c :: seen) false rest
    else match flags.set? c value with
      | some flags => flagLetters? flags (c :: seen) value rest
      | none => none

/-- A group name up to its closing angle bracket: a letter or underscore, then letters, numbers,
underscores, dots and square brackets. -/
def groupName? (text : List Char) : Option (List Char × List Char) :=
  let name := text.takeWhile (· != '>')
  match name, text.dropWhile (· != '>') with
  | first :: others, _ :: rest =>
    let isNameChar := fun c : Char => Unicode.isAlphanumeric c || "_.[]".toList.contains c
    if (first == '_' || Unicode.isAlphabetic first) && others.all isNameChar then
      some (name, rest)
    else none
  | _, _ => none

/-- The groups of a pattern that are remembered, last first, each by its name if it has one. -/
abbrev Groups := List (Option (List Char))

/-- How a group starts; the text starts after its opening parenthesis. -/
inductive GroupOpening where
  /-- A group whose match is remembered. -/
  | remembered (groups : Groups) (rest : List Char)
  /-- A group with flags of its own, whose match is not remembered. -/
  | flagged (flags : Flags) (rest : List Char)
  /-- Flags that hold to the end of the group around them. -/
  | setFlags (flags : Flags) (rest : List Char)

/-- The start of a named group. Names of groups are distinct in a pattern. -/
def namedGroup? (groups : Groups) (text : List Char) : Option GroupOpening :=
  match groupName? text with
  | some (name, rest) =>
    if groups.contains (some name) then none else some (.remembered (some name :: groups) rest)
  | none => none

/-- The start of a group. -/
def groupOpening? (flags : Flags) (groups : Groups) (text : List Char) : Option GroupOpening :=
  match flags.skip text with
  | '?' :: '=' :: _ | '?' :: '!' :: _ | '?' :: '<' :: '=' :: _ | '?' :: '<' :: '!' :: _ => none
  | '?' :: 'P' :: '<' :: rest | '?' :: '<' :: rest => namedGroup? groups rest
  | '?' :: rest =>
    let isLetter := fun c : Char => c != ':' && c != ')'
    let letters := rest.takeWhile isLetter
    match flagLetters? flags [] true letters, rest.dropWhile isLetter with
    | some inner, ':' :: rest => some (.flagged inner rest)
    | some inner, ')' :: rest => if letters.isEmpty then none else some (.setFlags inner rest)
    | _, _ => none
  | rest => some (.remembered (none :: groups) rest)

end TextRecords.Regex
