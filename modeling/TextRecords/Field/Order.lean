import TextRecords.Number.Decimal
import TextRecords.Unicode.Case

/-!
# The order of field values

Two field values are ordered as numbers when both are numbers, and as texts otherwise. Texts are
ordered by their characters; without letter case they are ordered by their lowercase forms.
-/

namespace TextRecords

/-- The order of two texts. -/
def compareTexts (caseless : Bool) (a b : String) : Ordering :=
  if caseless then compare (Unicode.lowercased a) (Unicode.lowercased b) else compare a b

/-- The order of two numbers. -/
def compareNumbers (x y : Float) : Ordering :=
  if x < y then .lt else if y < x then .gt else .eq

/-- The order of two values that must both be numbers. -/
def compareNumeric? (a b : String) : Option Ordering := do
  let x ← Number.ofText? a
  let y ← Number.ofText? b
  return compareNumbers x y

/-- The order of two field values. -/
def compareValues (caseless : Bool) (a b : String) : Ordering :=
  (compareNumeric? a b).getD (compareTexts caseless a b)

end TextRecords
