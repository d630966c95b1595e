import TextRecords.FieldSelection.Text
import TextRecords.Schema.Basic
import TextRecords.Selection.Grammar
import TextRecords.Text.Utf8

/-!
# Faults

Why an operation fails. Every fault is a cause; `Fault.message` is its text, which starts with the
kind of the fault and, for faults of a text that is read, the line where it was found.
-/

namespace TextRecords

/-- The kinds of faults. -/
inductive FaultKind where
  | io
  | parse
  | encoding
  | compile
  | unknownType
  | constraintViolation
  | invalidArgument
deriving DecidableEq, Repr

/-- The name of a kind. -/
def FaultKind.name : FaultKind → String
  | io => "Io"
  | parse => "Parse"
  | encoding => "Encoding"
  | compile => "Compile"
  | unknownType => "UnknownType"
  | constraintViolation => "ConstraintViolation"
  | invalidArgument => "InvalidArgument"

/-- What is wrong with a line of a record text. -/
inductive ReadFault where
  | strayContinuation
  | badField (fault : FieldFault)
  | unterminatedValue
  | descriptorWithoutType
  | conflictingDeclaration (name type : String)
deriving DecidableEq, Repr

/-- The fault in words. -/
def ReadFault.message : ReadFault → String
  | strayContinuation => "continuation line without a preceding field"
  | badField fault => fault.message
  | unterminatedValue => "unterminated multi-line value"
  | descriptorWithoutType => "descriptor without a record type"
  | conflictingDeclaration name type =>
    s!"conflicting {name} redeclared for record type '{type}'"

/-- Why a change to a record set is rejected. -/
inductive Objection where
  | violation (violation : Violation)
  | duplicateKey (key : String)
  | tooManyRecords (greatest : Nat)
  | tooFewRecords (least : Nat)
deriving DecidableEq, Repr

/-- The objection in words. -/
def Objection.message : Objection → String
  | violation v => v.message
  | duplicateKey key => s!"duplicate key '{key}'"
  | tooManyRecords greatest => s!"record set limited to {greatest} records"
  | tooFewRecords least => s!"record set needs at least {least} records"

/-- What is wrong with the arguments of an operation. -/
inductive ArgumentFault where
  | configuration
  | duplicateType (name : String)
  | displacedUntypedSet
  | misplacedUntypedSet
  | noSetAt (position : Nat)
  | recordWithoutFields
  | invalidFieldName (name : String)
  | actionWithoutArgument (action : String)
  | unknownAction (action : String)
  | notReference (field : String)
  | targetWithoutKey (type : String)
deriving DecidableEq, Repr

/-- The fault in words. -/
def ArgumentFault.message : ArgumentFault → String
  | configuration => "invalid configuration"
  | duplicateType name => s!"record type '{name}' already exists"
  | displacedUntypedSet => "the untyped record set must stay first"
  | misplacedUntypedSet => "only one untyped record set, at position 0"
  | noSetAt position => s!"no record set at position {position}"
  | recordWithoutFields => "cannot insert a record without fields"
  | invalidFieldName name => s!"invalid field name '{name}'"
  | actionWithoutArgument action => s!"action '{action}' needs an argument"
  | unknownAction action => s!"unknown set action '{action}'"
  | notReference field => s!"field '{field}' is not declared as a record reference"
  | targetWithoutKey type => s!"referenced type '{type}' declares no %key"

/-- Why an operation fails. -/
inductive Fault where
  /-- Reading or writing failed, with the reason given by the device. -/
  | io (reason : String)
  | read (line : Nat) (fault : ReadFault)
  | encoding (line : Nat) (fault : Text.Utf8Fault)
  | selection (fault : SelectionFault)
  | fieldSelection (fault : FieldSelectionFault)
  | unknownType (name : String)
  | rejected (objection : Objection)
  | argument (fault : ArgumentFault)

namespace Fault

/-- The kind of a fault. -/
def kind : Fault → FaultKind
  | io _ => .io
  | read _ _ => .parse
  | encoding _ _ => .encoding
  | selection _ | fieldSelection _ => .compile
  | unknownType _ => .unknownType
  | rejected _ => .constraintViolation
  | argument _ => .invalidArgument

/-- The line of a text where a fault was found. -/
def line? : Fault → Option Nat
  | read line _ | encoding line _ => some line
  | _ => none

/-- The fault in words, without its kind and line. -/
def context : Fault → String
  | io reason => reason
  | read _ fault => fault.message
  | encoding _ fault => fault.message
  | selection fault => fault.message
  | fieldSelection fault => fault.message
  | unknownType name => s!"no record set of type '{name}'"
  | rejected objection => objection.message
  | argument fault => fault.message

/-- The fault in words. -/
def message (fault : Fault) : String :=
  match fault.line? with
  | some line => s!"{fault.kind.name} at line {line}: {fault.context}"
  | none => s!"{fault.kind.name}: {fault.context}"

end Fault

end TextRecords
