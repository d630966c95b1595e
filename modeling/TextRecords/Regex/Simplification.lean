import TextRecords.Regex.Syntax

/-!
# Simplified expressions

The constructors that the reader builds expressions with. They keep what an expression matches and
keep it small: sequences and choices are flat lists nested to the right, neighbouring texts are
joined, a choice between characters is a set, a common start of alternatives is taken out, and
copies of what matches only the empty text are not counted. The size limit of compiled expressions
is stated for this form.
-/

namespace TextRecords.Regex.Node

open Unicode (CharSet)

/-- The parts of an expression that follow one another. -/
def factors : Node → List Node
  | empty => []
  | sequence first rest => factors first ++ factors rest
  | node => [node]

/-- The alternatives of an expression. -/
def branches : Node → List Node
  | choice first rest => branches first ++ branches rest
  | node => [node]

/-- Parts one after another. -/
def ofFactors : List Node → Node
  | [] => empty
  | [node] => node
  | node :: more => sequence node (ofFactors more)

/-- A choice between alternatives. -/
def ofBranches : List Node → Node
  | [] => one .empty
  | [node] => node
  | node :: more => choice node (ofBranches more)

/-- Parts with neighbouring texts joined. -/
def joinTexts : List Node → List Node
  | [] => []
  | node :: more =>
    match node, joinTexts more with
    | text chars, text others :: rest => text (chars ++ others) :: rest
    | _, rest => node :: rest

/-- Expressions one after another. -/
def concat (nodes : List Node) : Node :=
  ofFactors (joinTexts (nodes.flatMap factors))

/-- A character of a set; of a set of one, that character. -/
def ofSet (set : CharSet) : Node :=
  match set.single? with
  | some c => text [c]
  | none => one set

/-- The characters that alternatives name, if each of them is a single character. -/
def singles? (nodes : List Node) : Option CharSet :=
  (nodes.mapM fun
    | text [c] => some c
    | _ => none).map .ofList

/-- The union of the sets that alternatives name, if each of them is a set. -/
def sets? (nodes : List Node) : Option CharSet :=
  (nodes.mapM fun
    | one set => some set
    | _ => none).map .unions

/-- The parts that start both of two lists of parts. -/
def commonStart : List Node → List Node → List Node
  | a :: as, b :: bs => if a = b then a :: commonStart as bs else []
  | _, _ => []

/-- The parts that all alternatives start with, when each of them has two parts or more. -/
def commonFactors (nodes : List Node) : List Node :=
  match nodes with
  | [] => []
  | first :: others =>
    if nodes.all fun node => 2 ≤ node.factors.length then
      others.foldl (fun start node => commonStart start node.factors) first.factors
    else []

/-- A choice between alternatives that are flat already: a set if all of them are characters or
sets, and else what `otherwise` makes of them. -/
def chooseOr (otherwise : List Node → Node) (nodes : List Node) : Node :=
  match nodes with
  | [node] => node
  | _ =>
    match singles? nodes, sets? nodes with
    | some set, _ => ofSet set
    | none, some set => ofSet set
    | none, none => otherwise nodes

/-- A choice between expressions. A common start stands before the choice between what remains,
whose alternatives have no common start any more. -/
def alternatives (nodes : List Node) : Node :=
  chooseOr (fun nodes =>
    match commonFactors nodes with
    | [] => ofBranches nodes
    | start =>
      let remainders := nodes.map fun node => concat (node.factors.drop start.length)
      concat (start ++ [chooseOr ofBranches (remainders.flatMap branches)]))
    (nodes.flatMap branches)

/-- The number of characters of the shortest texts that an expression can match, if it can match
any. -/
def minLength? : Node → Option Nat
  | empty => some 0
  | text chars => some chars.length
  | one set => if set = .empty then none else some 1
  | look _ => some 0
  | sequence first rest => do return (← minLength? first) + (← minLength? rest)
  | choice first rest => do return min (← minLength? first) (← minLength? rest)
  | repeated node least _ _ => (minLength? node).map (· * least)
  | group _ node => minLength? node

/-- A bound for the number of characters that an expression can match, if it has one. -/
def maxLength? : Node → Option Nat
  | empty => some 0
  | text chars => some chars.length
  | one set => if set = .empty then none else some 1
  | look _ => some 0
  | sequence first rest => do return (← maxLength? first) + (← maxLength? rest)
  | choice first rest => do return max (← maxLength? first) (← maxLength? rest)
  | repeated node _ most _ => do return (← maxLength? node) * (← most)
  | group _ node => maxLength? node

/-- At least `least` and at most `most` copies of an expression. Where only the empty text can
match, more copies than one add nothing. -/
def copies (node : Node) (least : Nat) (most : Option Nat) (isLazy : Bool) : Node :=
  let onlyEmpty := node.maxLength? == some 0
  let least := if onlyEmpty then min least 1 else least
  let most := if onlyEmpty then some (min (most.getD 1) 1) else most
  if least = 0 && most == some 0 then empty
  else if least = 1 && most == some 1 then node
  else repeated node least most isLazy

/-- Whether every match of an expression starts with the given assertion. -/
def startsWith (assertion : Look) : Node → Bool
  | look other => other = assertion
  | sequence first rest =>
    startsWith assertion first || (first.maxLength? == some 0 && startsWith assertion rest)
  | choice first rest => startsWith assertion first && startsWith assertion rest
  | repeated node least _ _ => 0 < least && startsWith assertion node
  | group _ node => startsWith assertion node
  | _ => false

/-- Whether every match of an expression ends with the given assertion. -/
def endsWith (assertion : Look) : Node → Bool
  | look other => other = assertion
  | sequence first rest =>
    endsWith assertion rest || (rest.maxLength? == some 0 && endsWith assertion first)
  | choice first rest => endsWith assertion first && endsWith assertion rest
  | repeated node least _ _ => 0 < least && endsWith assertion node
  | group _ node => endsWith assertion node
  | _ => false

end TextRecords.Regex.Node
