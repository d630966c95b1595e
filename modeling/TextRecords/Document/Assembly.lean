import TextRecords.Database.Basic

/-!
# Assembly of a database

The blocks of a record text build a database one after another. A block whose first field declares a
type is a descriptor: it starts a set, or goes on with the set of its type, whose descriptor it is
merged into. A block of comments is a comment of the current set. Any other block is a record of the
current set.

Before the first descriptor or record there is no set, and comments go to the prologue. A record
that comes first starts an untyped set, which takes over these comments.
-/

namespace TextRecords.Document

/-- A database that is being assembled. -/
structure Assembly where
  database : Database := {}
  /-- The position of the set that takes the next record. -/
  current : Nat := 0

/-- The name of the field that declares a type. -/
def typeMarker : String := "%rec"

/-- A descriptor with an item of another one of the same type merged into it. Fields that it has
already are dropped; a declaration that may be given once must not be given another value. -/
def mergeItem (type : String) (merged : Record) (item : Item) : Except ReadFault Record :=
  let appended := { merged with items := merged.items ++ [item] }
  match item with
  | .comment _ => .ok appended
  | .field field =>
    if field.name == typeMarker || merged.holds field.name field.value then .ok merged
    else if Schema.singletonNames.contains field.name && merged.has field.name then
      .error (.conflictingDeclaration field.name type)
    else .ok appended

/-- A descriptor with another one of the same type merged into it. -/
def mergeDescriptor (type : String) (existing : Record) (incoming : List Item) :
    Except ReadFault Record :=
  incoming.foldlM (mergeItem type) existing

namespace Assembly

/-- A database with a comment added. -/
def addComment (assembly : Assembly) (text : String) : Assembly :=
  let db := assembly.database
  if db.sets.isEmpty then
    { assembly with database := { db with prologue := db.prologue ++ [text] } }
  else
    { assembly with
      database := { db with sets := db.sets.modify assembly.current (·.push (.comment text)) } }

/-- A database with a record added. -/
def addRecord (assembly : Assembly) (record : Record) : Assembly :=
  let db := assembly.database
  if db.sets.isEmpty then
    ⟨⟨[], [{ entries := db.prologue.map .comment ++ [.record record] }]⟩, 0⟩
  else
    { assembly with
      database := { db with sets := db.sets.modify assembly.current (·.push (.record record)) } }

/-- A database with the descriptor of a type added. -/
def addDescriptor (assembly : Assembly) (type : String) (descriptor : Record) :
    Except ReadFault Assembly :=
  let db := assembly.database
  match db.typePosition? type, db.setOfType? type with
  | some position, some set =>
    match mergeDescriptor type (set.descriptor.getD ⟨[], none⟩) descriptor.items with
    | .ok merged => .ok ⟨db.replaceSet position { set with descriptor := some merged }, position⟩
    | .error fault => .error fault
  | _, _ =>
    .ok ⟨{ db with sets := db.sets ++ [{ descriptor := some descriptor }] }, db.size⟩

/-- A database with a block added, which is read as a record. -/
def add (assembly : Assembly) (block : Record) : Except ReadFault Assembly :=
  match block.fields.head? with
  | none => .ok (assembly.addComment (.ofList (Text.joinLines (block.comments.map String.toList))))
  | some field =>
    if field.name == typeMarker then
      match Text.firstWord? field.value.toList with
      | some type => assembly.addDescriptor (.ofList type) block
      | none => .error .descriptorWithoutType
    else .ok (assembly.addRecord block)

end Assembly

end TextRecords.Document
