import TextRecords.Regex.Bracket
import TextRecords.Regex.Group
import TextRecords.Regex.Repetition
import TextRecords.Regex.Size

/-!
# Reading regular expressions

The reader from pattern text to expression. Patterns have groups with or without a name, flags that
hold to the end of their group, greedy and lazy repetitions, bracketed classes with nested classes
and set operations, Unicode properties and word boundaries of several kinds. Look-around and
references back to a group do not exist. A pattern that breaks a rule, nests too deeply or grows too
large has no reading.

The rest of a pattern after each piece is shorter than before; the reader checks this where it
goes on, so that it ends on every pattern.
-/

namespace TextRecords.Regex

/-- An expression with how deeply its pattern nests. -/
structure Piece where
  node : Node
  depth : Nat

/-- One more than the depth of the deepest of several parts. -/
def depthAround (depths : List Nat) : Nat :=
  depths.foldl max 0 + 1

/-- Pieces one after another, given last first. Flags leave no piece but count as one for how deeply
the pattern nests. -/
def Piece.concat (pieces : List (Option Piece)) : Piece :=
  match pieces with
  | [] => ⟨.empty, 0⟩
  | [piece] => piece.getD ⟨.empty, 0⟩
  | _ => ⟨.concat (pieces.reverse.filterMap (·.map (·.node))),
      depthAround (pieces.filterMap (·.map (·.depth)))⟩

/-- Alternatives, given last first. -/
def Piece.alternatives (pieces : List Piece) : Piece :=
  match pieces with
  | [piece] => piece
  | _ => ⟨.alternatives (pieces.reverse.map (·.node)), depthAround (pieces.map (·.depth))⟩

/-- Copies of a piece. -/
def Piece.copies (piece : Piece) (repetition : Repetition) : Piece :=
  ⟨.copies piece.node repetition.least repetition.most repetition.isLazy, piece.depth + 1⟩

/-- A piece as a group, remembered under a number or not. -/
def Piece.group (number : Option Nat) (piece : Piece) : Piece :=
  match number with
  | some number => ⟨.group number piece.node, piece.depth + 1⟩
  | none => ⟨piece.node, piece.depth + 1⟩

/-- What comes next in a pattern. -/
inductive Step where
  | finish
  | close (rest : List Char)
  | alternative (rest : List Char)
  | opening (opening : GroupOpening)
  | repetition (repetition : Repetition) (rest : List Char)
  | piece (piece : Piece) (rest : List Char)

/-- The next step in a pattern. -/
def step? (flags : Flags) (groups : Groups) (text : List Char) : Option Step := do
  match flags.skip text with
  | [] => return .finish
  | ')' :: rest => return .close rest
  | '|' :: rest => return .alternative rest
  | '(' :: rest => return .opening (← groupOpening? flags groups rest)
  | '[' :: rest =>
    let (part, rest) ← bracketed? flags rest
    return .piece ⟨.ofSet part.members, part.depth⟩ rest
  | item =>
    match ← repetition? flags item with
    | some (repetition, rest) => return .repetition repetition rest
    | none =>
      let (primitive, rest) ← primitive? flags item
      return .piece ⟨← primitive.node? flags, 0⟩ rest

/-- The alternatives up to the end of a group or of the pattern. Returns them with the groups opened
so far and, at the end of a group, the text after its closing parenthesis. `earlier` holds the
alternatives before this one and `pieces` what has been read of it, both last first; flags set on
the way leave an absent piece. -/
def body? (flags : Flags) (groups : Groups) (earlier : List Piece) (pieces : List (Option Piece))
    (text : List Char) : Option (Piece × Groups × Option (List Char)) :=
  match step? flags groups text with
  | none => none
  | some .finish => some (.alternatives (.concat pieces :: earlier), groups, none)
  | some (.close rest) => some (.alternatives (.concat pieces :: earlier), groups, some rest)
  | some (.alternative rest) =>
    if rest.length < text.length then body? flags groups (.concat pieces :: earlier) [] rest
    else none
  | some (.opening (.setFlags flags rest)) =>
    if rest.length < text.length then body? flags groups earlier (none :: pieces) rest else none
  | some (.opening (.flagged inner rest)) =>
    if rest.length < text.length then
      match body? inner groups [] [] rest with
      | some (piece, groups, some rest) =>
        if rest.length < text.length then
          body? flags groups earlier (some (piece.group none) :: pieces) rest
        else none
      | _ => none
    else none
  | some (.opening (.remembered opened rest)) =>
    if rest.length < text.length then
      match body? flags opened [] [] rest with
      | some (piece, groups, some rest) =>
        if rest.length < text.length then
          body? flags groups earlier (some (piece.group opened.length) :: pieces) rest
        else none
      | _ => none
    else none
  | some (.repetition repetition rest) =>
    match pieces with
    | some piece :: pieces =>
      if rest.length < text.length then
        body? flags groups earlier (some (piece.copies repetition) :: pieces) rest
      else none
    | _ => none
  | some (.piece piece rest) =>
    if rest.length < text.length then body? flags groups earlier (some piece :: pieces) rest
    else none
termination_by text.length

/-- The greatest depth to which groups, repetitions, classes, sequences and alternatives may
nest. -/
def maxDepth : Nat := 250

/-- The regular expression that a pattern denotes, with letter case ignored from the start when
`caseless` holds. -/
def compile? (caseless : Bool) (source : String) : Option Regex :=
  match body? { caseless } [] [] [] source.toList with
  | some (piece, _, none) =>
    if piece.depth ≤ maxDepth && piece.node.fits then some ⟨source, piece.node⟩ else none
  | _ => none

end TextRecords.Regex
