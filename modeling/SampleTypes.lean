import SampleTypes.CommandLine.Arguments
import SampleTypes.CommandLine.Failure
import SampleTypes.CommandLine.Run
import SampleTypes.Decimal.Basic
import SampleTypes.Decimal.Binary
import SampleTypes.Decimal.Coarse
import SampleTypes.Decimal.Notation
import SampleTypes.Decimal.Power
import SampleTypes.Declaration.Basic
import SampleTypes.Declaration.OfDocument
import SampleTypes.Declaration.Registry
import SampleTypes.Document
import SampleTypes.Error
import SampleTypes.Files.Fault
import SampleTypes.Files.Path
import SampleTypes.Files.Replacement
import SampleTypes.Files.Tree
import SampleTypes.Inference.Classify
import SampleTypes.Inference.Property
import SampleTypes.Inference.Shape
import SampleTypes.Inference.ValueType
import SampleTypes.Json.Fault
import SampleTypes.Json.Mismatch
import SampleTypes.Json.Number
import SampleTypes.Json.Parsed
import SampleTypes.Json.Punctuation
import SampleTypes.Json.Quoted
import SampleTypes.Json.Reader
import SampleTypes.Json.Record
import SampleTypes.Json.Relaxed
import SampleTypes.Json.Skip
import SampleTypes.Json.Source
import SampleTypes.Json.Text
import SampleTypes.Json.Token
import SampleTypes.Json.Typed
import SampleTypes.Json.Value
import SampleTypes.Json.Word
import SampleTypes.Main
import SampleTypes.Naming.Fresh
import SampleTypes.Naming.Identifier
import SampleTypes.Naming.Words
import SampleTypes.Options.Basic
import SampleTypes.Options.Draft
import SampleTypes.Options.OfDocument
import SampleTypes.Options.Token
import SampleTypes.Proofs.CommandLine.Overrides
import SampleTypes.Proofs.CommandLine.Run
import SampleTypes.Proofs.CommandLine.Targets
import SampleTypes.Proofs.Decimal.Literal
import SampleTypes.Proofs.Decimal.Nearest
import SampleTypes.Proofs.Decimal.Precision
import SampleTypes.Proofs.Decimal.Rounding
import SampleTypes.Proofs.Decimal.Shortest
import SampleTypes.Proofs.Decimal.Value
import SampleTypes.Proofs.Declaration.Conformance
import SampleTypes.Proofs.Declaration.Ledger
import SampleTypes.Proofs.Declaration.Names
import SampleTypes.Proofs.Declaration.Offenders
import SampleTypes.Proofs.Declaration.Reachability
import SampleTypes.Proofs.Declaration.References
import SampleTypes.Proofs.Declaration.Registry
import SampleTypes.Proofs.Declaration.Rows
import SampleTypes.Proofs.Declaration.Scalars
import SampleTypes.Proofs.Declaration.Sharing
import SampleTypes.Proofs.Declaration.SlotTypes
import SampleTypes.Proofs.Document.Entries
import SampleTypes.Proofs.Document.Faults
import SampleTypes.Proofs.Document.Layout
import SampleTypes.Proofs.Document.Likeness
import SampleTypes.Proofs.Files.Path
import SampleTypes.Proofs.Files.Replacement
import SampleTypes.Proofs.Files.Tree
import SampleTypes.Proofs.Inference.Agreement
import SampleTypes.Proofs.Inference.Clashes
import SampleTypes.Proofs.Inference.Classification
import SampleTypes.Proofs.Inference.Description
import SampleTypes.Proofs.Inference.Faults
import SampleTypes.Proofs.Inference.Proper
import SampleTypes.Proofs.Inference.Slots
import SampleTypes.Proofs.Inference.Tree
import SampleTypes.Proofs.Json.Blanking
import SampleTypes.Proofs.Json.Layout
import SampleTypes.Proofs.Json.Literals
import SampleTypes.Proofs.Json.Parts
import SampleTypes.Proofs.Json.Pieces
import SampleTypes.Proofs.Json.Positions
import SampleTypes.Proofs.Json.Reading
import SampleTypes.Proofs.Json.Relaxing
import SampleTypes.Proofs.Json.Strict
import SampleTypes.Proofs.Json.Strings
import SampleTypes.Proofs.Json.Tokens
import SampleTypes.Proofs.Json.Words
import SampleTypes.Proofs.Naming.Boundaries
import SampleTypes.Proofs.Naming.Casing
import SampleTypes.Proofs.Naming.Granting
import SampleTypes.Proofs.Naming.Identifiers
import SampleTypes.Proofs.Naming.Numbered
import SampleTypes.Proofs.Naming.Settling
import SampleTypes.Proofs.Naming.TypeNames
import SampleTypes.Proofs.Naming.Wordlike
import SampleTypes.Proofs.Naming.Words
import SampleTypes.Proofs.Scalar.FloatTypes
import SampleTypes.Proofs.Scalar.FractionalTypes
import SampleTypes.Proofs.Scalar.IntegerTypes
import SampleTypes.Proofs.Scalar.Moment
import SampleTypes.Proofs.Scalar.Rejection
import SampleTypes.Proofs.Scalar.Scan
import SampleTypes.Proofs.Scalar.TextTypes
import SampleTypes.Proofs.Scalar.TimeSpan
import SampleTypes.Proofs.Scalar.Uuid
import SampleTypes.Proofs.Target.Blocks
import SampleTypes.Proofs.Target.Imports
import SampleTypes.Proofs.Target.MemberNames
import SampleTypes.Proofs.Target.PythonBlocks
import SampleTypes.Proofs.Target.PythonMembers
import SampleTypes.Proofs.Target.ReadableTypes
import SampleTypes.Proofs.Target.Spelling
import SampleTypes.Proofs.Target.StringLiterals
import SampleTypes.Proofs.Unicode.CaseMapping
import SampleTypes.Proofs.Unicode.Tables
import SampleTypes.Scalar.Calendar
import SampleTypes.Scalar.Moment
import SampleTypes.Scalar.Number
import SampleTypes.Scalar.Scan
import SampleTypes.Scalar.Text
import SampleTypes.Scalar.TimeSpan
import SampleTypes.Scalar.Uuid
import SampleTypes.Target.Alias
import SampleTypes.Target.CSharp
import SampleTypes.Target.Import
import SampleTypes.Target.Python
import SampleTypes.Target.Render
import SampleTypes.Target.Spelling
import SampleTypes.Unicode.Alphanumeric
import SampleTypes.Unicode.Blank
import SampleTypes.Unicode.CaseMapping
import SampleTypes.Unicode.DecimalDigit
import SampleTypes.Unicode.Hidden
import SampleTypes.Unicode.LetterCase
import SampleTypes.Unicode.Span
