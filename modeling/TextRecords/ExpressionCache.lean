import TextRecords.FieldSelection.Text
import TextRecords.Selection.Grammar

/-!
# The expression cache

A cache of compiled expressions by their texts. Of each kind it keeps the expressions that were used
last, so many of them; an expression that is used again becomes the last one used. Texts that are no
expressions are not kept.
-/

namespace TextRecords

/-- The values that were used last, by their keys. -/
structure Recent (α : Type) where
  capacity : Nat
  /-- The values with their keys, the last one used first. -/
  entries : List (String × α) := []

namespace Recent

/-- The value of a key. -/
def find? {α : Type} (recent : Recent α) (key : String) : Option α :=
  (recent.entries.find? (·.1 == key)).map Prod.snd

/-- The values after the use of one, without those that no longer fit. -/
def use {α : Type} (recent : Recent α) (key : String) (value : α) : Recent α :=
  { recent with
    entries := ((key, value) :: recent.entries.filter (·.1 != key)).take recent.capacity }

end Recent

/-- A cache of compiled expressions. -/
structure ExpressionCache where
  selections : Recent Selection
  fields : Recent FieldSelection
  /-- How often an expression was found in the cache. -/
  hits : Nat := 0
  /-- How often one was not. -/
  misses : Nat := 0

namespace ExpressionCache

/-- An empty cache for so many expressions of each kind, at least for one. -/
def ofCapacity (capacity : Nat) : ExpressionCache where
  selections := { capacity := max 1 capacity }
  fields := { capacity := max 1 capacity }

/-- The selection that a text denotes, and the cache after its use. -/
def selection (cache : ExpressionCache) (text : String) :
    Except SelectionFault Selection × ExpressionCache :=
  match cache.selections.find? text with
  | some found =>
    (.ok found,
      { cache with selections := cache.selections.use text found, hits := cache.hits + 1 })
  | none =>
    let cache := { cache with misses := cache.misses + 1 }
    match Selection.ofText text with
    | .ok compiled =>
      (.ok compiled, { cache with selections := cache.selections.use text compiled })
    | .error fault => (.error fault, cache)

/-- The field selection that a text denotes, and the cache after its use. -/
def fieldSelection (cache : ExpressionCache) (text : String) :
    Except FieldSelectionFault FieldSelection × ExpressionCache :=
  match cache.fields.find? text with
  | some found =>
    (.ok found, { cache with fields := cache.fields.use text found, hits := cache.hits + 1 })
  | none =>
    let cache := { cache with misses := cache.misses + 1 }
    match FieldSelection.ofText text with
    | .ok compiled => (.ok compiled, { cache with fields := cache.fields.use text compiled })
    | .error fault => (.error fault, cache)

/-- The number of expressions in the cache. -/
def size (cache : ExpressionCache) : Nat :=
  cache.selections.entries.length + cache.fields.entries.length

/-- The number of expressions that the cache has place for. -/
def capacity (cache : ExpressionCache) : Nat :=
  cache.selections.capacity + cache.fields.capacity

/-- The part of uses that found their expression in the cache, zero before the first use. -/
def hitRate (cache : ExpressionCache) : Float :=
  let uses := cache.hits + cache.misses
  if uses = 0 then 0.0 else .ofNat cache.hits / .ofNat uses

end ExpressionCache

end TextRecords
