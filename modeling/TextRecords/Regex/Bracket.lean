import TextRecords.Regex.Escape

/-!
# Bracketed classes

The reader of classes in brackets: characters, ranges, classes by name or escape, classes within
classes, and the operations between them. Apart from nested classes, every character stands for
itself wherever it cannot be read as an operation, a range or the end of the class.

How deeply a class nests counts towards the limit of a pattern: a class is one deeper than what
stands in it, and so are two or more neighbouring items and an operation.
-/

namespace TextRecords.Regex

open Unicode (CharSet)

/-- An item inside brackets: only the backslash is special. -/
def classPrimitive? (flags : Flags) : List Char → Option (Primitive × List Char)
  | '\\' :: rest => escape? flags rest
  | c :: rest => some (.literal c false, rest)
  | [] => none

/-- The set that an item inside brackets stands for. -/
def Primitive.member? (flags : Flags) (item : Primitive) : Option CharSet :=
  match item.set? flags with
  | some members => flags.allow? members
  | none => none

/-- The character that an item inside brackets stands for, if it can bound a range. -/
def Primitive.bound? (flags : Flags) : Primitive → Option Char
  | literal c _ => if flags.unicode || c.val < 0x80 then some c else none
  | _ => none

/-- The character that tells whether a hyphen makes a range; the text starts after the hyphen. Under
the verbose flag it is the first one that is no blank, but of a comment only its number sign is
passed over. -/
def afterHyphen? (flags : Flags) (text : List Char) : Option Char :=
  let visible := if flags.verbose then Text.trimStart text else text
  match visible with
  | '#' :: comment =>
    if flags.verbose then (Text.trimStart comment).head? <|> text.head? else some '#'
  | [] => text.head?
  | c :: _ => some c

/-- A character, a class, or a range between two characters. A hyphen before a closing bracket or
another hyphen makes no range. -/
def classItem? (flags : Flags) (text : List Char) : Option (CharSet × List Char) := do
  let (first, rest) ← classPrimitive? flags text
  match flags.skip rest with
  | [] => none
  | '-' :: more =>
    if afterHyphen? flags more == some ']' || afterHyphen? flags more == some '-' then
      return (← first.member? flags, '-' :: more)
    else
      let (last, rest) ← classPrimitive? flags (flags.skip more)
      let first ← first.bound? flags
      let last ← last.bound? flags
      if first ≤ last then return (.range first last, rest) else none
  | rest => return (← first.member? flags, rest)

/-- A bracketed class of ASCII by its name, whether it is negated, and the text after it; the text
starts after its opening bracket. -/
def asciiItem? (text : List Char) : Option (CharSet × Bool × List Char) := do
  let .some text := Text.after? [':'] text | none
  let negated := text.head? == some '^'
  let text := if negated then text.drop 1 else text
  let name := text.takeWhile (· != ':')
  let rest ← Text.after? [':', ']'] (text.dropWhile (· != ':'))
  return (← asciiClass? (.ofList name), negated, rest)

/-- The operations between the sets of a bracketed class. -/
inductive SetOperation where
  | intersection
  | difference
  | symmetricDifference

/-- The result of an operation; both sides are closed under ignored case first. -/
def SetOperation.apply (flags : Flags) (operation : SetOperation) (a b : CharSet) : CharSet :=
  match operation with
  | intersection => flags.fold a ∩ flags.fold b
  | difference => flags.fold a \ flags.fold b
  | symmetricDifference => (flags.fold a).symmetricDifference (flags.fold b)

/-- A set with how deeply the class for it nests. -/
structure ClassPart where
  members : CharSet
  depth : Nat

/-- The items of a class since its last operation: their union, how many they are, and how deeply
the deepest of them nests. -/
structure ClassItems where
  members : CharSet
  count : Nat
  deepest : Nat

namespace ClassItems

/-- No items. -/
def none : ClassItems := ⟨.empty, 0, 0⟩

/-- One item more. -/
def add (items : ClassItems) (part : ClassPart) : ClassItems :=
  ⟨items.members ∪ part.members, items.count + 1, max items.deepest part.depth⟩

/-- The items as a part of a class. -/
def part (items : ClassItems) : ClassPart :=
  ⟨items.members, if items.count < 2 then items.deepest else items.deepest + 1⟩

end ClassItems

/-- The part of a class before its last operation, applied to the part after it. -/
def joinOperation (flags : Flags) (left : Option (SetOperation × ClassPart)) (right : ClassPart) :
    ClassPart :=
  match left with
  | some (operation, left) =>
    ⟨operation.apply flags left.members right.members, max left.depth right.depth + 1⟩
  | none => right

/-- The start of a bracketed class after its bracket: whether it is negated, the hyphens or the
closing bracket that stand for themselves, and the rest. -/
def classOpening? (flags : Flags) (text : List Char) : Option (Bool × ClassItems × List Char) :=
  let text := flags.skip text
  let negated := text.head? == some '^'
  let text := if negated then flags.skip (text.drop 1) else text
  let hyphens := leadingHyphens text
  match text with
  | [] => none
  | ']' :: rest => some (negated, ClassItems.none.add ⟨.single ']', 0⟩, rest)
  | '-' :: _ => some (negated, ⟨.single '-', hyphens.1, 0⟩, hyphens.2)
  | _ => some (negated, .none, text)
where
  /-- How many hyphens start a text, with blanks and comments between them where those are passed
  over, and the text after them. -/
  leadingHyphens (text : List Char) : Nat × List Char :=
    match text with
    | '-' :: rest =>
      if (flags.skip rest).length ≤ rest.length then
        let (count, after) := leadingHyphens (flags.skip rest)
        (count + 1, after)
      else (0, text)
    | _ => (0, text)
  termination_by text.length

/-- What comes next inside a bracketed class. -/
inductive ClassStep where
  | close (rest : List Char)
  | operate (operation : SetOperation) (rest : List Char)
  | member (set : CharSet) (rest : List Char)
  /-- A nested class whose opening has been read. -/
  | nested (negated : Bool) (items : ClassItems) (rest : List Char)

/-- The next step inside a bracketed class. -/
def classStep? (flags : Flags) (text : List Char) : Option ClassStep :=
  match flags.skip text with
  | [] => none
  | ']' :: rest => some (.close rest)
  | '&' :: '&' :: rest => some (.operate .intersection rest)
  | '-' :: '-' :: rest => some (.operate .difference rest)
  | '~' :: '~' :: rest => some (.operate .symmetricDifference rest)
  | '[' :: rest =>
    match asciiItem? rest with
    | some (members, negated, rest) =>
      (flags.negate? negated (flags.fold members)).map fun set => .member set rest
    | none => (classOpening? flags rest).map fun (negated, items, rest) =>
      .nested negated items rest
  | item => (classItem? flags item).map fun (set, rest) => .member set rest

/-- The rest of a bracketed class and the text after it. `left` is the part before the last
operation and `items` what has been read since. -/
def classBody? (flags : Flags) (negated : Bool) (left : Option (SetOperation × ClassPart))
    (items : ClassItems) (text : List Char) : Option (ClassPart × List Char) :=
  match classStep? flags text with
  | none => none
  | some (.close rest) =>
    let inner := joinOperation flags left items.part
    (flags.negate? negated (flags.fold inner.members)).map fun members =>
      (⟨members, inner.depth + 1⟩, rest)
  | some (.operate operation rest) =>
    if rest.length < text.length then
      classBody? flags negated (some (operation, joinOperation flags left items.part)) .none rest
    else none
  | some (.member set rest) =>
    if rest.length < text.length then
      classBody? flags negated left (items.add ⟨set, 0⟩) rest
    else none
  | some (.nested innerNegated innerItems inner) =>
    if inner.length < text.length then
      match classBody? flags innerNegated none innerItems inner with
      | none => none
      | some (part, rest) =>
        if rest.length < text.length then
          classBody? flags negated left (items.add part) rest
        else none
    else none
termination_by text.length

/-- A bracketed class and the text after it; the text starts after the opening bracket. -/
def bracketed? (flags : Flags) (text : List Char) : Option (ClassPart × List Char) := do
  let (negated, items, rest) ← classOpening? flags text
  classBody? flags negated none items rest

end TextRecords.Regex
