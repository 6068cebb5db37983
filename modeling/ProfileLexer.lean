import ProfileLexer.Automaton.Machine
import ProfileLexer.Automaton.State
import ProfileLexer.Chunk.Basic
import ProfileLexer.Chunk.Plan
import ProfileLexer.Chunk.Reassembler
import ProfileLexer.Chunk.Report
import ProfileLexer.Classifier
import ProfileLexer.CommandLine.Arguments
import ProfileLexer.CommandLine.Input
import ProfileLexer.CommandLine.Options
import ProfileLexer.CommandLine.Session
import ProfileLexer.CommandLine.Usage
import ProfileLexer.Decimal.Fixed
import ProfileLexer.Decimal.Shortest
import ProfileLexer.Instant
import ProfileLexer.Limits
import ProfileLexer.Log.Buffer
import ProfileLexer.Log.Code
import ProfileLexer.Log.Entry
import ProfileLexer.Log.Event
import ProfileLexer.Log.Journal
import ProfileLexer.Log.Sink
import ProfileLexer.Main
import ProfileLexer.Number.Basic
import ProfileLexer.Pool.Basic
import ProfileLexer.Pool.Crew
import ProfileLexer.Position.Basic
import ProfileLexer.Position.Lines
import ProfileLexer.Profile.Basic
import ProfileLexer.Profile.Builtin
import ProfileLexer.Profile.Definition
import ProfileLexer.Profile.DefinitionValue
import ProfileLexer.Profile.Error
import ProfileLexer.Profile.Toml
import ProfileLexer.Proofs.Automaton.Actions
import ProfileLexer.Proofs.Automaton.Comment
import ProfileLexer.Proofs.Automaton.CommentEnd
import ProfileLexer.Proofs.Automaton.Delimited
import ProfileLexer.Proofs.Automaton.Number
import ProfileLexer.Proofs.Automaton.NumberStates
import ProfileLexer.Proofs.Automaton.Reuse
import ProfileLexer.Proofs.Automaton.Stability
import ProfileLexer.Proofs.Automaton.StringEnd
import ProfileLexer.Proofs.Automaton.Symbols
import ProfileLexer.Proofs.Automaton.Verdict
import ProfileLexer.Proofs.Chunk.Accounting
import ProfileLexer.Proofs.Chunk.Arrival
import ProfileLexer.Proofs.Chunk.Finish
import ProfileLexer.Proofs.Chunk.History
import ProfileLexer.Proofs.Chunk.Partition
import ProfileLexer.Proofs.Chunk.Place
import ProfileLexer.Proofs.Chunk.Split
import ProfileLexer.Proofs.Classifier.Agreement
import ProfileLexer.Proofs.Classifier.Coherent
import ProfileLexer.Proofs.Classifier.Counts
import ProfileLexer.Proofs.Classifier.DelimitedShapes
import ProfileLexer.Proofs.Classifier.Foreign
import ProfileLexer.Proofs.Classifier.Independence
import ProfileLexer.Proofs.Classifier.Marks
import ProfileLexer.Proofs.Classifier.OpenShapes
import ProfileLexer.Proofs.Classifier.Reports
import ProfileLexer.Proofs.Classifier.Shapes
import ProfileLexer.Proofs.Classifier.Tables
import ProfileLexer.Proofs.Classifier.Undisputed
import ProfileLexer.Proofs.Decimal.Order
import ProfileLexer.Proofs.Guarded.Automaton
import ProfileLexer.Proofs.Guarded.Basic
import ProfileLexer.Proofs.Guarded.Calls
import ProfileLexer.Proofs.Guarded.Classifier
import ProfileLexer.Proofs.Guarded.Cursor
import ProfileLexer.Proofs.Guarded.Extents
import ProfileLexer.Proofs.Guarded.Number
import ProfileLexer.Proofs.Guarded.Plan
import ProfileLexer.Proofs.Guarded.Rules
import ProfileLexer.Proofs.Log.Computation
import ProfileLexer.Proofs.Log.Delivery
import ProfileLexer.Proofs.Log.Entries
import ProfileLexer.Proofs.Number.Forms
import ProfileLexer.Proofs.Number.Grammar
import ProfileLexer.Proofs.Pool.Book
import ProfileLexer.Proofs.Pool.Faults
import ProfileLexer.Proofs.Pool.Invariant
import ProfileLexer.Proofs.Pool.Ledger
import ProfileLexer.Proofs.Pool.Move
import ProfileLexer.Proofs.Pool.Outcome
import ProfileLexer.Proofs.Pool.Preservation
import ProfileLexer.Proofs.Pool.Progress
import ProfileLexer.Proofs.Pool.Script
import ProfileLexer.Proofs.Position.Lines
import ProfileLexer.Proofs.Position.Lookup
import ProfileLexer.Proofs.Position.Texts
import ProfileLexer.Proofs.Position.Walk
import ProfileLexer.Proofs.Profile.Accepted
import ProfileLexer.Proofs.Profile.Builtin
import ProfileLexer.Proofs.Profile.RoundTrip
import ProfileLexer.Proofs.Run.Balance
import ProfileLexer.Proofs.Run.Benchmark
import ProfileLexer.Proofs.Run.Classified
import ProfileLexer.Proofs.Run.Counts
import ProfileLexer.Proofs.Run.Degraded
import ProfileLexer.Proofs.Run.Diagnostics
import ProfileLexer.Proofs.Run.Foreign
import ProfileLexer.Proofs.Run.Invariance
import ProfileLexer.Proofs.Run.Log
import ProfileLexer.Proofs.Run.Lossless
import ProfileLexer.Proofs.Run.Reports
import ProfileLexer.Proofs.Run.Undisputed
import ProfileLexer.Proofs.Run.Verified
import ProfileLexer.Proofs.Scan.Alone
import ProfileLexer.Proofs.Scan.Claims
import ProfileLexer.Proofs.Scan.CommentReach
import ProfileLexer.Proofs.Scan.Cut
import ProfileLexer.Proofs.Scan.Extents
import ProfileLexer.Proofs.Scan.Forms
import ProfileLexer.Proofs.Scan.Front
import ProfileLexer.Proofs.Scan.Munch
import ProfileLexer.Proofs.Scan.Plain
import ProfileLexer.Proofs.Sorted
import ProfileLexer.Proofs.Text.Boundary
import ProfileLexer.Proofs.Token.Lookup
import ProfileLexer.Proofs.Token.Significant
import ProfileLexer.Proofs.Token.Tiling
import ProfileLexer.Proofs.Token.Verification
import ProfileLexer.Proofs.Value.Decode
import ProfileLexer.Proofs.Value.Json
import ProfileLexer.Proofs.Value.TomlDocument
import ProfileLexer.Proofs.Value.TomlString
import ProfileLexer.Rendering
import ProfileLexer.Run.Benchmark
import ProfileLexer.Run.Dispatch
import ProfileLexer.Run.Error
import ProfileLexer.Run.Info
import ProfileLexer.Run.Metrics
import ProfileLexer.Run.MetricsValue
import ProfileLexer.Run.Tokenize
import ProfileLexer.Run.Validation
import ProfileLexer.Scan.Extent
import ProfileLexer.Scan.Rule
import ProfileLexer.Scan.Scanner
import ProfileLexer.Settings.Basic
import ProfileLexer.Settings.Host
import ProfileLexer.Settings.Policy
import ProfileLexer.Sorted
import ProfileLexer.Text.Blank
import ProfileLexer.Text.Bytes
import ProfileLexer.Text.Case
import ProfileLexer.Text.CaseTable
import ProfileLexer.Text.CasedTable
import ProfileLexer.Text.Columns
import ProfileLexer.Text.Escape
import ProfileLexer.Text.HiddenTable
import ProfileLexer.Token.Basic
import ProfileLexer.Token.Kind
import ProfileLexer.Token.Stream
import ProfileLexer.Token.TokenValue
import ProfileLexer.Total
import ProfileLexer.Value.Basic
import ProfileLexer.Value.Decode
import ProfileLexer.Value.JsonReader
import ProfileLexer.Value.JsonWriter
import ProfileLexer.Value.TomlReader
import ProfileLexer.Value.TomlScalar
import ProfileLexer.Value.TomlText
import ProfileLexer.Value.TomlWriter
import ProfileLexer.Word
