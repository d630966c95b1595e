import TextRecords.Batch
import TextRecords.Calendar.Date
import TextRecords.Calendar.Stamp
import TextRecords.Config
import TextRecords.Database.Basic
import TextRecords.Database.Deletion
import TextRecords.Database.FieldChange
import TextRecords.Database.Insertion
import TextRecords.Database.Integrity
import TextRecords.Database.Shared
import TextRecords.Database.Target
import TextRecords.Document.Assembly
import TextRecords.Document.Block
import TextRecords.Document.Line
import TextRecords.Document.Text
import TextRecords.ExpressionCache
import TextRecords.Fault
import TextRecords.Field.Basic
import TextRecords.Field.Order
import TextRecords.Field.Text
import TextRecords.FieldSelection.Action
import TextRecords.FieldSelection.Basic
import TextRecords.FieldSelection.Text
import TextRecords.Filter
import TextRecords.Json
import TextRecords.Number.Binary
import TextRecords.Number.Decimal
import TextRecords.Number.Integer
import TextRecords.Number.Shortest
import TextRecords.Positions
import TextRecords.Query.Basic
import TextRecords.Query.Group
import TextRecords.Query.Join
import TextRecords.Query.Order
import TextRecords.Record.Basic
import TextRecords.Record.Text
import TextRecords.RecordSet.Basic
import TextRecords.Regex.Bracket
import TextRecords.Regex.ByteSequence
import TextRecords.Regex.ClassName
import TextRecords.Regex.Escape
import TextRecords.Regex.Flags
import TextRecords.Regex.Group
import TextRecords.Regex.Matching
import TextRecords.Regex.Reader
import TextRecords.Regex.Repetition
import TextRecords.Regex.Simplification
import TextRecords.Regex.Size
import TextRecords.Regex.Syntax
import TextRecords.Sampler
import TextRecords.Schema.Basic
import TextRecords.Schema.FieldType
import TextRecords.Schema.SizeRule
import TextRecords.Selection.Expr
import TextRecords.Selection.Grammar
import TextRecords.Selection.Token
import TextRecords.Selection.Value
import TextRecords.Text.Blank
import TextRecords.Text.Hex
import TextRecords.Text.Quoted
import TextRecords.Text.Split
import TextRecords.Text.Utf8
import TextRecords.Unicode.Age
import TextRecords.Unicode.Case
import TextRecords.Unicode.Category
import TextRecords.Unicode.CharSet
import TextRecords.Unicode.Character
import TextRecords.Unicode.Property
import TextRecords.Unicode.Script
import TextRecords.Unicode.Segmentation
import TextRecords.Unicode.Table
import TextRecords.Uuid
import TextRecords.Proofs.Document.Line
import TextRecords.Proofs.Sampler
import TextRecords.Proofs.Filter.Targets
import TextRecords.Proofs.Text.LineEnd
import TextRecords.Proofs.Document.Block
import TextRecords.Proofs.Document.Assembly
import TextRecords.Proofs.Document.Text
import TextRecords.Proofs.Schema.TypeName
import TextRecords.Proofs.Document.RoundTrip
import TextRecords.Proofs.Batch.Step
import TextRecords.Proofs.Batch.Keys
import TextRecords.Proofs.RecordSet.FirstUses
import TextRecords.Proofs.RecordSet.Findings
import TextRecords.Proofs.RecordSet.Reported
import TextRecords.Proofs.Batch.Clean
import TextRecords.Proofs.Database.Edits
import TextRecords.Proofs.Database.Clean
import TextRecords.Proofs.Database.FieldChange
import TextRecords.Proofs.Text.Returns
import TextRecords.Proofs.Document.Items
import TextRecords.Proofs.Database.Deletion
import TextRecords.Proofs.Field.Commented
import TextRecords.Proofs.FieldSelection.Items
import TextRecords.Proofs.Database.FieldsInText
import TextRecords.Proofs.Schema.Automatic
import TextRecords.Proofs.Database.Insertion
import TextRecords.Proofs.Batch.Counted
import TextRecords.Proofs.Database.Unchanged
import TextRecords.Proofs.Number.Order
import TextRecords.Proofs.Field.Order
import TextRecords.Proofs.Query.Sorted
import TextRecords.Proofs.Selection.Derivation
import TextRecords.Proofs.Selection.Reading
import TextRecords.Proofs.Selection.Grammar
import TextRecords.Proofs.Selection.Tokens
import TextRecords.Proofs.Selection.Composition
import TextRecords.Proofs.Query.Stages
import TextRecords.Proofs.Query.Redaction
import TextRecords.Proofs.Query.Blanked
import TextRecords.Proofs.Query.Unplaced
import TextRecords.Proofs.Query.Concealed
import TextRecords.Proofs.Query.Confidential
import TextRecords.Proofs.ExpressionCache
import TextRecords.Proofs.Database.Types
import TextRecords.Proofs.Document.Behind
import TextRecords.Proofs.Document.Concatenation
import TextRecords.Proofs.Query.References
import TextRecords.Proofs.Lists
import TextRecords.Proofs.Batch.Remains
import TextRecords.Proofs.Batch.Replacement
import TextRecords.Proofs.Query.Runs
import TextRecords.Proofs.Query.Partition
import TextRecords.Proofs.Query.Joined
import TextRecords.Proofs.FieldSelection.Added
import TextRecords.Proofs.FieldSelection.CommentedOut
import TextRecords.Proofs.Document.LineEnds
import TextRecords.Proofs.Document.Locations
import TextRecords.Proofs.Document.JoinedLines
import TextRecords.Proofs.Selection.Leaves
import TextRecords.Proofs.Selection.Comparison
import TextRecords.Proofs.FieldSelection.Untouched
import TextRecords.Proofs.Database.Matched
import TextRecords.Proofs.Document.Merging
import TextRecords.Proofs.Database.Placement
import TextRecords.Proofs.Number.Integer
import TextRecords.Proofs.RecordSet.Generated
import TextRecords.Proofs.Database.References
import TextRecords.Proofs.Schema.SizeRule
import TextRecords.Proofs.Number.Numeral
import TextRecords.Proofs.Schema.IntegerType
import TextRecords.Proofs.Database.Sampling
