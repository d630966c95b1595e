import TextRecords.Field.Text
import TextRecords.Unicode.Case

/-!
# Records

A record is a list of fields and comments. Field names may repeat: the values of a name are counted
in the order of the record, from zero. A record that was read from a text knows where it stood;
that place is not part of its content.
-/

namespace TextRecords

/-- Where a record starts in a text. -/
structure Location where
  /-- The line, counted from one. -/
  line : Nat
  /-- The number of bytes before the line. -/
  offset : Nat
deriving DecidableEq, Repr

/-- A field or a comment of a record. The lines of a comment are joined by newlines and come without
the number sign that starts them. -/
inductive Item where
  | field (field : Field)
  | comment (text : String)
deriving DecidableEq, Repr

/-- The field that an item is, if it is one. -/
def Item.field? : Item → Option Field
  | field f => some f
  | comment _ => none

/-- The comment that an item is, if it is one. -/
def Item.comment? : Item → Option String
  | field _ => none
  | comment text => some text

/-- A list of fields and comments. -/
structure Record where
  items : List Item
  location : Option Location := none
deriving DecidableEq, Repr

namespace Record

/-- The fields of a record. -/
def fields (record : Record) : List Field :=
  record.items.filterMap Item.field?

/-- The comments of a record. -/
def comments (record : Record) : List String :=
  record.items.filterMap Item.comment?

/-- The values of a name. -/
def values (record : Record) (name : String) : List String :=
  (record.fields.filter (·.name == name)).map Field.value

/-- One of the values of a name. -/
def value? (record : Record) (name : String) (occurrence : Nat) : Option String :=
  (record.values name)[occurrence]?

/-- The first value of a name. -/
def first? (record : Record) (name : String) : Option String :=
  record.value? name 0

/-- How often a name occurs. -/
def count (record : Record) (name : String) : Nat :=
  (record.values name).length

/-- Whether a name occurs. -/
def has (record : Record) (name : String) : Bool :=
  record.fields.any (·.name == name)

/-- Whether a name has a given value. -/
def holds (record : Record) (name value : String) : Bool :=
  (record.values name).contains value

/-- Whether any field has a given value, with letter case or without. -/
def mentions (record : Record) (value : String) (caseless : Bool) : Bool :=
  if caseless then
    record.fields.any fun field => Unicode.lowercased field.value == Unicode.lowercased value
  else record.fields.any fun field => field.value == value

/-- A record without its place. -/
def unplaced (record : Record) : Record :=
  { record with location := none }

end Record

end TextRecords
