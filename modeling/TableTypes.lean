import TableTypes.Casing
import TableTypes.Casing.Words
import TableTypes.Column
import TableTypes.ColumnKind
import TableTypes.CommandLine
import TableTypes.Decimal.Binary64
import TableTypes.Decimal.Shortest
import TableTypes.Declaration
import TableTypes.Document.Column
import TableTypes.Document.Settings
import TableTypes.Document.Snapshot
import TableTypes.Enum.Registry
import TableTypes.Enum.Row
import TableTypes.FieldType
import TableTypes.FirstOccurrence
import TableTypes.Json.Fault
import TableTypes.Json.Number
import TableTypes.Json.Reader
import TableTypes.Json.Record
import TableTypes.Json.Scalar
import TableTypes.Json.Skip
import TableTypes.Json.Text
import TableTypes.Json.Value
import TableTypes.Main
import TableTypes.NameSet
import TableTypes.Proofs.Accounting
import TableTypes.Proofs.CapturedEnums
import TableTypes.Proofs.ColumnOutcome
import TableTypes.Proofs.DeclaredNames
import TableTypes.Proofs.Diagnostics
import TableTypes.Proofs.EnumMonotonicity
import TableTypes.Proofs.EnumReferences
import TableTypes.Proofs.FieldColumns
import TableTypes.Proofs.FirstOccurrence
import TableTypes.Proofs.Generation
import TableTypes.Proofs.QueryPlan
import TableTypes.Proofs.Repetition
import TableTypes.Proofs.Resolution
import TableTypes.Proofs.SchemaIsolation
import TableTypes.Proofs.Script.Identifier
import TableTypes.Proofs.Script.Line
import TableTypes.Proofs.Script.QuotedReading
import TableTypes.Proofs.Script.TypeExpression
import TableTypes.Proofs.Script.UnitLines
import TableTypes.Proofs.Script.UnitReading
import TableTypes.Proofs.SnapshotAnswers
import TableTypes.Proofs.SnapshotRun
import TableTypes.Proofs.SnapshotVisibility
import TableTypes.Proofs.TableComposition
import TableTypes.Proofs.TableSelection
import TableTypes.Report
import TableTypes.Resolution
import TableTypes.Run
import TableTypes.Script.Identifier
import TableTypes.Script.Printer
import TableTypes.Script.Statement
import TableTypes.Script.TypeExpression
import TableTypes.Settings
import TableTypes.Settings.Validation
import TableTypes.Snapshot
import TableTypes.Source
import TableTypes.Unicode.Alphabetic
import TableTypes.Unicode.CaseContext
import TableTypes.Unicode.CaseMapping
import TableTypes.Unicode.CaseRuns
import TableTypes.Unicode.Clusters
import TableTypes.Unicode.CodeRanges
import TableTypes.Unicode.GraphemeExtend
import TableTypes.Unicode.Numeric
import TableTypes.Unicode.Unprintable
import TableTypes.Unicode.Whitespace
import TableTypes.Proofs.Recasing
import TableTypes.Proofs.Enum.ArrayLiteral
import TableTypes.Proofs.OutputFile
import TableTypes.Proofs.Json.Literal
import TableTypes.Proofs.Json.Reading
import TableTypes.Proofs.Json.Record
import TableTypes.Proofs.Document.Arrangement
import TableTypes.Proofs.Document.RecordCodec
import TableTypes.Proofs.Document.RoundTrip
import TableTypes.Proofs.Unicode.CaseForms
import TableTypes.Proofs.Casing.AsciiNames
import TableTypes.Proofs.Casing.Spelled
import TableTypes.Proofs.Casing.Capitals
import TableTypes.Proofs.TypeNames
import TableTypes.Proofs.Script.EnumMembers
import TableTypes.Proofs.TypeToken
import TableTypes.Proofs.Nullability
import TableTypes.Proofs.TypePadding
import TableTypes.Enum.Index
import TableTypes.Proofs.Enum.Registration
import TableTypes.Proofs.FieldKeys
import TableTypes.Proofs.Script.TypeReading
import TableTypes.Proofs.Unicode.ByteOrder
import TableTypes.Proofs.CanonicalSelection
import TableTypes.Unicode.IdentifierClasses
import TableTypes.Proofs.Unicode.CodeRanges
import TableTypes.Proofs.Unicode.IdentifierClasses
import TableTypes.Proofs.Script.ScriptName
import TableTypes.Proofs.RepeatedColumns
import TableTypes.Proofs.Script.QuotedLiteral
