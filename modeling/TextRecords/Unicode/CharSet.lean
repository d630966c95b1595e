import TextRecords.Text.Blank
import TextRecords.Text.Hex

/-!
# Sets of characters

A set of characters is written by the places where membership changes on the way through all
characters in the order of their code points. A character is a member when an odd number of changes
lies at or before it. Sets with the same members have the same changes, the complement takes or
leaves one change at the start, and every Boolean operation is one walk along two lists of changes.

Places are ranks: the surrogate code points, which belong to no character, are not counted, so that
the character before them and the character after them are neighbours.
-/

namespace TextRecords.Unicode

/-- How many characters come before a code point. -/
def rank (code : Nat) : Nat :=
  if code < 0xd800 then code else code - 0x800

/-- The code point of the character that `rank` others come before. -/
def codeAt (rank : Nat) : Nat :=
  if rank < 0xd800 then rank else rank + 0x800

/-- The number of characters. -/
def charCount : Nat := 0x10f800

/-- A set of characters by the ranks where membership changes, in ascending order and all below
`charCount`. -/
structure CharSet where
  changes : List Nat
  deriving DecidableEq

namespace CharSet

/-- Whether the character that `rank` others come before belongs to a set. -/
def containsRank (set : CharSet) (rank : Nat) : Bool :=
  set.changes.countP (· ≤ rank) % 2 == 1

/-- Whether a character belongs to a set. -/
def contains (set : CharSet) (c : Char) : Bool :=
  set.containsRank (rank c.toNat)

/-- The set without members. -/
def empty : CharSet := ⟨[]⟩

/-- The set of all characters. -/
def all : CharSet := ⟨[0]⟩

/-- The characters outside a set. -/
def complement (set : CharSet) : CharSet :=
  match set.changes with
  | 0 :: changes => ⟨changes⟩
  | changes => ⟨0 :: changes⟩

/-- The changes of an operation on two sets from a place on, where `inA` and `inB` tell whether the
characters before it belong to the sets. -/
def combineFrom (operation : Bool → Bool → Bool) (inA inB : Bool) :
    List Nat → List Nat → List Nat
  | [], [] => []
  | a :: as, [] => step a (!inA) inB (combineFrom operation (!inA) inB as [])
  | [], b :: bs => step b inA (!inB) (combineFrom operation inA (!inB) [] bs)
  | a :: as, b :: bs =>
    if a < b then step a (!inA) inB (combineFrom operation (!inA) inB as (b :: bs))
    else if b < a then step b inA (!inB) (combineFrom operation inA (!inB) (a :: as) bs)
    else step a (!inA) (!inB) (combineFrom operation (!inA) (!inB) as bs)
termination_by as bs => as.length + bs.length
where
  /-- A place goes into the changes when the operation gives another answer from there on. -/
  step (place : Nat) (nextA nextB : Bool) (rest : List Nat) : List Nat :=
    if operation inA inB == operation nextA nextB then rest else place :: rest

/-- The characters for which an operation on their membership in two sets holds. The operation does
not hold outside both. -/
def combine (operation : Bool → Bool → Bool) (a b : CharSet) : CharSet :=
  ⟨combineFrom operation false false a.changes b.changes⟩

/-- The members of at least one of two sets. -/
def union (a b : CharSet) : CharSet :=
  combine or a b

/-- The members of both of two sets. -/
def intersection (a b : CharSet) : CharSet :=
  combine and a b

/-- The members of `a` outside `b`. -/
def difference (a b : CharSet) : CharSet :=
  combine (fun inA inB => inA && !inB) a b

instance : Union CharSet := ⟨union⟩

instance : Inter CharSet := ⟨intersection⟩

instance : SDiff CharSet := ⟨difference⟩

/-- The members of exactly one of two sets. -/
def symmetricDifference (a b : CharSet) : CharSet :=
  combine bne a b

/-- The members of a list of sets. -/
def unions (sets : List CharSet) : CharSet :=
  sets.foldl union empty

/-- The changes of the union of half-open intervals of ranks that ascend by their starts. The
interval from `start` to `stop` is the one being gathered. -/
def gather (start stop : Nat) : List (Nat × Nat) → List Nat
  | [] => if stop < charCount then [start, stop] else [start]
  | (first, after) :: rest =>
    if first ≤ stop then gather start (max stop after) rest
    else start :: stop :: gather first after rest

/-- The union of half-open intervals of ranks, in any order. -/
def ofIntervals (intervals : List (Nat × Nat)) : CharSet :=
  match intervals.mergeSort (·.1 ≤ ·.1) with
  | [] => empty
  | (start, stop) :: rest => ⟨gather start stop rest⟩

/-- The characters from one to another. -/
def range (first last : Char) : CharSet :=
  ofIntervals [(rank first.toNat, rank last.toNat + 1)]

/-- The set of one character. -/
def single (c : Char) : CharSet :=
  range c c

/-- The set of the characters of a list. -/
def ofList (chars : List Char) : CharSet :=
  ofIntervals (chars.map fun c => (rank c.toNat, rank c.toNat + 1))

/-- The maximal runs of members, each by the ranks of its first and its last. -/
def runs (set : CharSet) : List (Nat × Nat) :=
  pairs set.changes
where
  pairs : List Nat → List (Nat × Nat)
    | start :: stop :: rest => (start, stop - 1) :: pairs rest
    | [start] => [(start, charCount - 1)]
    | [] => []

/-- Whether all members belong to ASCII. -/
def isAscii (set : CharSet) : Bool :=
  set.runs.all (·.2 < 0x80)

/-- The member of a set with one member. -/
def single? (set : CharSet) : Option Char :=
  match set.runs with
  | [(first, last)] => if first = last then some (Char.ofNat (codeAt first)) else none
  | _ => none

end CharSet

end TextRecords.Unicode
