import TextRecords.Text.Split

/-!
# Fields

A field is a named value. Names are made of letters, digits, underscores and percent signs and do
not start with a digit; a name that starts with a percent sign belongs to a descriptor.
-/

namespace TextRecords

/-- Whether a character may stand in a field name. -/
def isNameChar (c : Char) : Bool :=
  c.isAlphanum || c == '_' || c == '%'

/-- Whether a character may start a field name. -/
def isNameStart (c : Char) : Bool :=
  c.isAlpha || c == '%' || c == '_'

/-- Whether a text is a field name. -/
def isFieldName : List Char → Bool
  | [] => false
  | c :: rest => isNameStart c && rest.all isNameChar

/-- A named value. -/
structure Field where
  name : String
  value : String
deriving DecidableEq, Repr

namespace Field

/-- Whether the name of a field is a field name. -/
def isNamed (field : Field) : Bool :=
  isFieldName field.name.toList

/-- Whether a field belongs to a descriptor: its name starts with a percent sign. -/
def isMeta (field : Field) : Bool :=
  field.name.toList.head? == some '%'

end Field

end TextRecords
