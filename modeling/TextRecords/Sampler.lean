/-!
# Samples

A sample is a part of a list, drawn at random without regard to the elements. Which positions are
drawn is decided by a sampler, in any order; a sample keeps the order of the list.
-/

namespace TextRecords

/-- A source of samples. A seed makes the draw repeatable. -/
structure Sampler where
  /-- So many of the positions below a size. -/
  draw : (seed : Option Nat) → (size count : Nat) → List Nat
  length_draw : ∀ {seed : Option Nat} {size count : Nat}, count ≤ size →
    (draw seed size count).length = count
  nodup_draw : ∀ {seed : Option Nat} {size count : Nat}, count ≤ size →
    (draw seed size count).Nodup
  lt_of_mem_draw : ∀ {seed : Option Nat} {size count position : Nat}, count ≤ size →
    position ∈ draw seed size count → position < size

namespace Sampler

/-- The sampler that draws the first positions. -/
def first : Sampler where
  draw _ _ count := List.range count
  length_draw _ := List.length_range
  nodup_draw _ := List.nodup_range
  lt_of_mem_draw h hmem := Nat.lt_of_lt_of_le (List.mem_range.1 hmem) h

/-- The elements of a list at ascending positions, where its first element is at `position`. List
and positions are gone through side by side. -/
def pickFrom {α : Type} (position : Nat) : List Nat → List α → List α
  | [], _ => []
  | _ :: _, [] => []
  | next :: later, element :: rest =>
    if next = position then element :: pickFrom (position + 1) later rest
    else pickFrom (position + 1) (next :: later) rest

/-- So many elements of a list, or all of it when it has no more. -/
def sample {α : Type} (sampler : Sampler) (seed : Option Nat) (count : Nat) (list : List α) :
    List α :=
  if list.length ≤ count then list
  else pickFrom 0 ((sampler.draw seed list.length count).mergeSort fun a b => a ≤ b) list

end Sampler

end TextRecords
