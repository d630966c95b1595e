import TextRecords.Fault
import TextRecords.RecordSet.Basic

/-!
# Databases

A database is a list of record sets, with the comments that precede them. Types tell the sets apart.
A set without a type stands first.
-/

namespace TextRecords

/-- A list of record sets. -/
structure Database where
  /-- The comments before the first set. -/
  prologue : List String := []
  sets : List RecordSet := []
deriving DecidableEq, Repr

/-- What an operation on a database comes to: its result, and the database afterwards. -/
structure Outcome (α : Type) where
  result : Except Fault α
  database : Database

namespace Database

/-- The number of record sets. -/
def size (db : Database) : Nat :=
  db.sets.length

/-- The record set at a position. -/
def set? (db : Database) (position : Nat) : Option RecordSet :=
  db.sets[position]?

/-- The position of the set of a type. -/
def typePosition? (db : Database) (type : String) : Option Nat :=
  db.sets.findIdx? (·.typeName == some type)

/-- The set of a type. -/
def setOfType? (db : Database) (type : String) : Option RecordSet :=
  db.sets.find? (·.typeName == some type)

/-- Whether there is a set of a type. -/
def hasType (db : Database) (type : String) : Bool :=
  db.sets.any (·.typeName == some type)

/-- The position of the set that an operation is about: the set of its type, or without a type the
untyped set if there is one and the first set otherwise. There is none in an empty database. -/
def resolve (db : Database) (type : Option String) : Except Fault (Option Nat) :=
  match type with
  | some name =>
    match db.typePosition? name with
    | some position => .ok (some position)
    | none => .error (.unknownType name)
  | none =>
    if db.sets.isEmpty then .ok none
    else .ok (some ((db.sets.findIdx? (·.typeName.isNone)).getD 0))

/-- Why a set may not be inserted at a position, if it may not. -/
def insertionFault? (db : Database) (set : RecordSet) (position : Nat) : Option ArgumentFault :=
  match set.typeName with
  | some name =>
    if db.hasType name then some (.duplicateType name)
    else if position = 0 && db.sets.head?.any (·.typeName.isNone) then some .displacedUntypedSet
    else none
  | none =>
    if position ≠ 0 || db.sets.any (·.typeName.isNone) then some .misplacedUntypedSet else none

/-- Inserting a set at a position; positions past the end stand for the end. -/
def insertSet (db : Database) (set : RecordSet) (position : Nat) : Outcome Unit :=
  let position := min position db.size
  match db.insertionFault? set position with
  | some fault => ⟨.error (.argument fault), db⟩
  | none => ⟨.ok (), { db with sets := db.sets.insertIdx position set }⟩

/-- Removing the set at a position, which is returned. -/
def removeSet (db : Database) (position : Nat) : Outcome RecordSet :=
  match db.set? position with
  | some set => ⟨.ok set, { db with sets := db.sets.eraseIdx position }⟩
  | none => ⟨.error (.argument (.noSetAt position)), db⟩

/-- A database with another set at a position. -/
def replaceSet (db : Database) (position : Nat) (set : RecordSet) : Database :=
  { db with sets := db.sets.set position set }

/-- A database without the places of its records. -/
def unplaced (db : Database) : Database :=
  { db with sets := db.sets.map RecordSet.unplaced }

/-- The blocks of lines that a database is written as. -/
def blocks (db : Database) : List (List (List Char)) :=
  db.prologue.map commentLines ++ db.sets.flatMap RecordSet.blocks

/-- A written database. -/
def text (db : Database) : String :=
  textOfBlocks db.blocks

end Database

/-- How much a record set holds. -/
structure SetStatistics where
  typeName : Option String
  records : Nat
  comments : Nat
deriving DecidableEq, Repr

/-- How much a record set holds. -/
def RecordSet.statistics (set : RecordSet) : SetStatistics :=
  ⟨set.typeName, set.records.length, set.comments.length⟩

namespace Database

/-- How much every set of a database holds. -/
def statistics (db : Database) : List SetStatistics :=
  db.sets.map RecordSet.statistics

/-- The number of records of all sets. -/
def recordCount (db : Database) : Nat :=
  db.statistics.foldl (fun count set => count + set.records) 0

/-- The number of comments outside records. -/
def commentCount (db : Database) : Nat :=
  db.statistics.foldl (fun count set => count + set.comments) db.prologue.length

end Database

end TextRecords
