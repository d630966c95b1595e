import Std.Data.HashMap
import TextRecords.Regex.ByteSequence
import TextRecords.Regex.Simplification

/-!
# Size of compiled expressions

How much space a regular expression takes as an automaton that reads bytes, and the limit for it.
The automaton is counted twice, once for reading a text forwards and once for reading it backwards,
and neither may grow too large. States are numbered in the order in which they are made: those of a
character set are shared where they read the same bytes and go on to the same state, as far as a
table of limited size remembers them, and the numbers decide which entries of the table collide.
-/

namespace TextRecords.Regex

open Unicode (CharSet)

/-- The states of an automaton so far: how many there are, and how many bytes they take. -/
structure Tally where
  states : Nat
  bytes : Nat

/-- The greatest number of bytes that an automaton may take. -/
def sizeLimit : Nat := 10485760

/-- The bytes of a state without its list of alternatives or transitions. -/
def stateSize : Nat := 32

/-- The bytes of one of the alternatives of a state. -/
def alternativeSize : Nat := 4

/-- The bytes of one of the transitions of a state. -/
def transitionSize : Nat := 8

namespace Tally

/-- One state more, with so many bytes besides its own, if there is room for it. -/
def add? (tally : Tally) (more : Nat) : Option Tally :=
  let bytes := tally.bytes + stateSize + more
  if bytes ≤ sizeLimit then some ⟨tally.states + 1, bytes⟩ else none

/-- So many states without alternatives or transitions, if there is room for them. -/
def addPlain? (tally : Tally) (count : Nat) : Option Tally :=
  let bytes := tally.bytes + count * stateSize
  if bytes ≤ sizeLimit then some ⟨tally.states + count, bytes⟩ else none

/-- A part of the automaton made so many times over, if there is room for all. -/
def times? (part : Tally → Option Tally) : Nat → Tally → Option Tally
  | 0, tally => some tally
  | count + 1, tally =>
    match part tally with
    | some tally => times? part count tally
    | none => none

end Tally

/-! ## Character sets -/

/-- A transition: the bytes that it reads and the number of the state it leads to. -/
structure Transition where
  bytes : ByteRange
  target : Nat
  deriving DecidableEq

/-- A hash of a list of numbers, which are taken in one after another. -/
def hashOf (values : List Nat) : UInt64 :=
  values.foldl (fun hash value => (hash ^^^ value.toUInt64) * 1099511628211) 14695981039346656037

/-- The states of an automaton with a table of those that were made for a set: each slot remembers
the last of its states by its transitions. -/
structure Shared where
  tally : Tally
  table : Std.HashMap Nat (List Transition × Nat)

/-- The number of slots of the table for reading forwards. -/
def forwardSlots : Nat := 10000

/-- The number of slots of the table for reading backwards. -/
def backwardSlots : Nat := 1000

/-- The state with the given transitions: a remembered one or else a new one. `values` are what the
slot is chosen by, and `more` are the bytes of a new state besides its own. -/
def Shared.state? (shared : Shared) (slots : Nat) (values : List Nat)
    (transitions : List Transition) (more : Nat) : Option (Nat × Shared) :=
  let slot := (hashOf values).toNat % slots
  let new := fun _ : Unit => (shared.tally.add? more).map fun tally =>
    (shared.tally.states, ⟨tally, shared.table.insert slot (transitions, shared.tally.states)⟩)
  match shared.table[slot]? with
  | some (known, number) => if known = transitions then some (number, shared) else new ()
  | none => new ()

/-- The state from which the given byte sequences are read to the state `final`. Sequences that
start with the same range go on from the same state. -/
def forwardState? (final : Nat) :
    (fuel : Nat) → List (List ByteRange) → Shared → Option (Nat × Shared)
  | 0, _, _ => none
  | fuel + 1, sequences, shared => do
    let branches := sequences.splitBy fun a b => a.head? == b.head?
    let (transitions, shared) ← branches.foldlM (fun (transitions, shared) branch => do
      match branch with
      | [[bytes]] => return (transitions ++ [⟨bytes, final⟩], shared)
      | (bytes :: _) :: _ =>
        let (target, shared) ← forwardState? final fuel (branch.map (·.drop 1)) shared
        return (transitions ++ [⟨bytes, target⟩], shared)
      | _ => none) (([] : List Transition), shared)
    let values := transitions.flatMap fun t => [t.bytes.first, t.bytes.last, t.target]
    shared.state? forwardSlots values transitions (transitions.length * transitionSize)

/-- The state from which a byte sequence is read backwards to the state `final`. -/
def backwardState? (final : Nat) (sequence : List ByteRange) (shared : Shared) :
    Option (Nat × Shared) :=
  sequence.foldlM (fun (target, shared) bytes =>
    shared.state? backwardSlots [target, bytes.first, bytes.last] [⟨bytes, target⟩] 0)
    (final, shared)

/-- The states of a character set. A set within ASCII needs one state with a transition for each
run. Read forwards, any other set is a tree of its byte sequences whose equal branches are shared;
read backwards, a choice between its byte sequences. Either way a last state joins the branches. -/
def addSet? (backward : Bool) (set : CharSet) (tally : Tally) : Option Tally :=
  if set.isAscii then do
    (← tally.add? 0).add? (set.runs.length * transitionSize)
  else if backward then do
    let sequences := byteSequences set
    let tally ← tally.add? (sequences.length * alternativeSize)
    let shared : Shared := ⟨← tally.add? 0, ∅⟩
    let shared ← sequences.foldlM
      (fun shared sequence => (backwardState? tally.states sequence shared).map (·.2)) shared
    return shared.tally
  else do
    let shared : Shared := ⟨← tally.add? 0, ∅⟩
    let (_, shared) ← forwardState? tally.states 4 (byteSequences set) shared
    return shared.tally

/-! ## Choices between texts -/

/-- The byte strings of a list that go on, cut where one ends. One that ends before any goes on cuts
once, however often it is there. -/
def cutAtEnds (strings : List (List Nat)) : List (List (List Nat)) :=
  let (ended, others) := (strings.takeWhile (·.isEmpty), strings.dropWhile (·.isEmpty))
  if ended.isEmpty then Text.splitWhen (·.isEmpty) others
  else [] :: Text.splitWhen (·.isEmpty) others

/-- The strings of a list that start with a byte, without it, for every byte that starts one. -/
def afterBytes (strings : List (List Nat)) : List (List (List Nat)) :=
  let bytes := (strings.filterMap (·.head?)).eraseDups
  bytes.map fun byte => strings.filterMap fun string =>
    if string.head? == some byte then some (string.drop 1) else none

/-- The states of a tree of byte strings. Where no string goes on there is none; elsewhere there is
one that chooses between the strings that end and those that go on, and one with the transitions of
the strings that go on between two ends. -/
def addTree? : (fuel : Nat) → List (List Nat) → Tally → Option Tally
  | 0, _, tally => some tally
  | fuel + 1, strings, tally =>
    if strings.all (·.isEmpty) then some tally
    else
      let chunks := cutAtEnds strings
      let filled := chunks.filter (!·.isEmpty)
      let choice := (tally.add? ((filled.length + chunks.length - 1) * alternativeSize))
      filled.foldl (fun tally? chunk =>
        let nexts := afterBytes chunk
        let more := if nexts.length = 1 then 0 else nexts.length * transitionSize
        let tally? := tally?.bind (·.add? more)
        nexts.foldl (fun tally? next => tally?.bind (addTree? fuel next)) tally?) choice

/-- The UTF-8 form of a text. -/
def utf8Text (chars : List Char) : List Nat :=
  chars.flatMap fun c => utf8Form c.toNat

/-- The texts of alternatives, if each of them is a text. -/
def Node.texts? (nodes : List Node) : Option (List (List Nat)) :=
  nodes.mapM fun
    | .text chars => some (utf8Text chars)
    | _ => none

/-- The states of a choice between texts, which are read from their start or from their end. -/
def addTexts? (backward : Bool) (strings : List (List Nat)) (tally : Tally) : Option Tally := do
  let strings := if backward then strings.map List.reverse else strings
  let longest := (strings.map List.length).foldl max 0
  addTree? (longest + 1) strings (← tally.add? 0)

/-! ## Expressions -/

/-- The two states that a choice between so many alternatives branches from and joins in. -/
def Tally.addJoint? (tally : Tally) (count : Nat) : Option Tally := do
  (← tally.add? (count * alternativeSize)).add? 0

/-- The states of an expression. With `tail` the expression is what remains of a choice between
alternatives of which two or more are counted already; its own two states are made after those. -/
def Node.addTo? (backward : Bool) : (tail : Bool) → Node → Tally → Option Tally
  | _, empty, tally => tally.add? 0
  | _, text chars, tally => tally.addPlain? (utf8Text chars).length
  | _, one set, tally => addSet? backward set tally
  | _, look _, tally => tally.add? 0
  | _, sequence first rest, tally =>
    if backward then (rest.addTo? backward false tally).bind (first.addTo? backward false)
    else (first.addTo? backward false tally).bind (rest.addTo? backward false)
  | true, choice first rest, tally =>
    (first.addTo? backward false tally).bind (rest.addTo? backward true)
  | false, choice first rest, tally =>
    match texts? (choice first rest).branches with
    | some strings => addTexts? backward strings tally
    | none => do
      let count := (choice first rest).branches.length
      let tally ← first.addTo? backward false tally
      match rest with
      | choice second others =>
        let tally ← (← second.addTo? backward false tally).addJoint? count
        others.addTo? backward true tally
      | second => (← second.addTo? backward false tally).addJoint? count
  | _, group _ node, tally =>
    if backward then node.addTo? backward false tally
    else do (← node.addTo? backward false (← tally.add? 0)).add? 0
  | _, repeated node least most _, tally =>
    let once := node.addTo? backward false
    match least, most with
    | 0, some 1 => do
      let tally ← once (← tally.add? (2 * alternativeSize))
      tally.add? 0
    | 0, none =>
      if node.minLength?.any (0 < ·) then do once (← tally.add? (2 * alternativeSize))
      else do
        let tally ← (← once tally).add? (2 * alternativeSize)
        (← tally.add? (2 * alternativeSize)).add? 0
    | least, none => do (← Tally.times? once least tally).add? (2 * alternativeSize)
    | least, some most => do
      let tally ← if least = 0 then tally.add? 0 else Tally.times? once least tally
      if least = most then return tally
      else
        Tally.times? (fun tally => do once (← tally.add? (2 * alternativeSize))) (most - least)
          (← tally.add? 0)

/-- The states before an expression. One that always starts at the start of the text it is read
from needs a single state, any other a loop that passes over bytes. -/
def addLead? (anchored : Bool) (tally : Tally) : Option Tally :=
  if anchored then tally.add? 0
  else do (← (← tally.add? (2 * alternativeSize)).add? 0).add? transitionSize

/-- Whether an expression is small enough, read forwards as the group that the whole match is, and
read backwards. -/
def Node.fits (node : Node) : Bool :=
  let forward := (addLead? (node.startsWith .textStart) ⟨0, 0⟩).bind fun tally =>
    ((group 0 node).addTo? false false tally).bind (·.add? 0)
  let backward := (addLead? (node.endsWith .textEnd) ⟨0, 0⟩).bind fun tally =>
    (node.addTo? true false tally).bind (·.add? 0)
  forward.isSome && backward.isSome

end TextRecords.Regex
