import DocumentSchema.Calendar.Instant
import DocumentSchema.Command.Arguments
import DocumentSchema.Command.Engine
import DocumentSchema.Command.Error
import DocumentSchema.Command.Run
import DocumentSchema.Descriptor.Basic
import DocumentSchema.Descriptor.Kind
import DocumentSchema.Descriptor.Make
import DocumentSchema.Descriptor.Record
import DocumentSchema.Json.Basic
import DocumentSchema.Json.Number
import DocumentSchema.Json.Reader
import DocumentSchema.Json.Writer
import DocumentSchema.Main
import DocumentSchema.Numeric.Binary64
import DocumentSchema.Numeric.Checked
import DocumentSchema.Numeric.Power
import DocumentSchema.Numeric.Shortest
import DocumentSchema.Path.Descriptor
import DocumentSchema.Path.Document
import DocumentSchema.Path.Segments
import DocumentSchema.Pattern.Fault
import DocumentSchema.Pattern.Form
import DocumentSchema.Pattern.Machine
import DocumentSchema.Pattern.Meaning
import DocumentSchema.Pattern.Places
import DocumentSchema.Pattern.Reader
import DocumentSchema.Pattern.Regex
import DocumentSchema.Pattern.Tree
import DocumentSchema.Proofs.Calendar.CivilDate
import DocumentSchema.Proofs.Command.Requests
import DocumentSchema.Proofs.Command.RequiredAttributes
import DocumentSchema.Proofs.Command.Runs
import DocumentSchema.Proofs.Descriptor.Built
import DocumentSchema.Proofs.Descriptor.FieldDefaults
import DocumentSchema.Proofs.Descriptor.JsonForm
import DocumentSchema.Proofs.Descriptor.JsonImage
import DocumentSchema.Proofs.Descriptor.Make
import DocumentSchema.Proofs.Descriptor.NormalForm
import DocumentSchema.Proofs.Descriptor.Normalised
import DocumentSchema.Proofs.Descriptor.Parts
import DocumentSchema.Proofs.Descriptor.Reading
import DocumentSchema.Proofs.Descriptor.RecordText
import DocumentSchema.Proofs.Descriptor.RecordValues
import DocumentSchema.Proofs.Descriptor.RoundTrip
import DocumentSchema.Proofs.Descriptor.WellFormed
import DocumentSchema.Proofs.Descriptor.Writing
import DocumentSchema.Proofs.Json.Compact
import DocumentSchema.Proofs.Json.Cutting
import DocumentSchema.Proofs.Json.Exchange
import DocumentSchema.Proofs.Json.Reading
import DocumentSchema.Proofs.Json.RoundTrip
import DocumentSchema.Proofs.Json.Scalars
import DocumentSchema.Proofs.Numeric.Order
import DocumentSchema.Proofs.Numeric.Rounding
import DocumentSchema.Proofs.Path.Candidates
import DocumentSchema.Proofs.Path.Removal
import DocumentSchema.Proofs.Path.Replacement
import DocumentSchema.Proofs.Path.Setting
import DocumentSchema.Proofs.Pattern.Classes
import DocumentSchema.Proofs.Pattern.Groups
import DocumentSchema.Proofs.Pattern.Locality
import DocumentSchema.Proofs.Pattern.Matching
import DocumentSchema.Proofs.Pattern.Nesting
import DocumentSchema.Proofs.Pattern.Pieces
import DocumentSchema.Proofs.Pattern.Search
import DocumentSchema.Proofs.Pattern.Wrapping
import DocumentSchema.Proofs.Range.Amounts
import DocumentSchema.Proofs.Range.Bound
import DocumentSchema.Proofs.Range.Chronology
import DocumentSchema.Proofs.Range.Duration
import DocumentSchema.Proofs.Range.Instants
import DocumentSchema.Proofs.Range.Offsets
import DocumentSchema.Proofs.Range.Window
import DocumentSchema.Proofs.Schema.Building
import DocumentSchema.Proofs.Schema.Catalogue
import DocumentSchema.Proofs.Schema.Configuration
import DocumentSchema.Proofs.Schema.DebugTexts
import DocumentSchema.Proofs.Schema.File
import DocumentSchema.Proofs.Schema.Loading
import DocumentSchema.Proofs.Schema.Publication
import DocumentSchema.Proofs.Storage.EmptyDirectory
import DocumentSchema.Proofs.Storage.FileTree
import DocumentSchema.Proofs.Text.Digits
import DocumentSchema.Proofs.Text.Hex
import DocumentSchema.Proofs.Text.Parts
import DocumentSchema.Proofs.Traversal
import DocumentSchema.Proofs.Validation.Acceptance
import DocumentSchema.Proofs.Validation.Alternatives
import DocumentSchema.Proofs.Validation.Callbacks
import DocumentSchema.Proofs.Validation.Conformance
import DocumentSchema.Proofs.Validation.Congruence
import DocumentSchema.Proofs.Validation.DictionaryKeys
import DocumentSchema.Proofs.Validation.Documents
import DocumentSchema.Proofs.Validation.DottedUpdate
import DocumentSchema.Proofs.Validation.EntryUpdates
import DocumentSchema.Proofs.Validation.Files
import DocumentSchema.Proofs.Validation.FixedPoint
import DocumentSchema.Proofs.Validation.Idempotence
import DocumentSchema.Proofs.Validation.Independence
import DocumentSchema.Proofs.Validation.IntegerRanges
import DocumentSchema.Proofs.Validation.Keys
import DocumentSchema.Proofs.Validation.ListElements
import DocumentSchema.Proofs.Validation.LocaleFilling
import DocumentSchema.Proofs.Validation.Localised
import DocumentSchema.Proofs.Validation.Names
import DocumentSchema.Proofs.Validation.OperatorGrammar
import DocumentSchema.Proofs.Validation.Operators
import DocumentSchema.Proofs.Validation.Outcome
import DocumentSchema.Proofs.Validation.Overflow
import DocumentSchema.Proofs.Validation.Reacceptance
import DocumentSchema.Proofs.Validation.Requests
import DocumentSchema.Proofs.Validation.Revalidation
import DocumentSchema.Proofs.Validation.Scalars
import DocumentSchema.Proofs.Validation.UpdatePaths
import DocumentSchema.Proofs.Validation.WebHosts
import DocumentSchema.Proofs.Value.Dictionary
import DocumentSchema.Proofs.Value.Identifier
import DocumentSchema.Proofs.Value.JsonForm
import DocumentSchema.Proofs.Value.Order
import DocumentSchema.Proofs.Value.Parts
import DocumentSchema.Proofs.Value.Zeros
import DocumentSchema.Range.Basic
import DocumentSchema.Range.Temporal
import DocumentSchema.Schema.Builder
import DocumentSchema.Schema.Catalogue
import DocumentSchema.Schema.Config
import DocumentSchema.Schema.Error
import DocumentSchema.Schema.File
import DocumentSchema.Schema.Registry
import DocumentSchema.Storage.FileTree
import DocumentSchema.Text.CharSet
import DocumentSchema.Text.Digits
import DocumentSchema.Text.Format
import DocumentSchema.Text.Hex
import DocumentSchema.Text.Parts
import DocumentSchema.Text.Quoted
import DocumentSchema.Text.Unicode.Age
import DocumentSchema.Text.Unicode.CaseFolding
import DocumentSchema.Text.Unicode.Category
import DocumentSchema.Text.Unicode.Name
import DocumentSchema.Text.Unicode.Newest
import DocumentSchema.Text.Unicode.Property
import DocumentSchema.Text.Unicode.Script
import DocumentSchema.Text.Unicode.Segment
import DocumentSchema.Text.Unicode.Word
import DocumentSchema.Text.Utf8
import DocumentSchema.Validation.Document
import DocumentSchema.Validation.Error
import DocumentSchema.Validation.Locale
import DocumentSchema.Validation.Operator
import DocumentSchema.Validation.Scalar
import DocumentSchema.Validation.Value
import DocumentSchema.Value.Basic
import DocumentSchema.Value.Entries
import DocumentSchema.Value.ObjectId
