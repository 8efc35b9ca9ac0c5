import Hazard.Analysis.Analyzer
import Hazard.Analysis.Codec
import Hazard.Analysis.Result
import Hazard.Analysis.Workspace
import Hazard.Command.Analyze
import Hazard.Command.Init
import Hazard.Command.Outcome
import Hazard.Command.Run
import Hazard.Command.Usage
import Hazard.Config.Basic
import Hazard.Config.Discovery
import Hazard.Config.Layer
import Hazard.Config.Load
import Hazard.Data.Issue
import Hazard.Data.Json.Load
import Hazard.Data.Json.Reader
import Hazard.Data.Json.Writer
import Hazard.Data.Read
import Hazard.Data.Value
import Hazard.Data.Yaml.Cursor
import Hazard.Data.Yaml.Fault
import Hazard.Data.Yaml.Layout
import Hazard.Data.Yaml.Load
import Hazard.Data.Yaml.Node
import Hazard.Data.Yaml.Scalar
import Hazard.Data.Yaml.Schema
import Hazard.Data.Yaml.Token
import Hazard.Detect.Basic
import Hazard.Detect.Binding
import Hazard.Detect.Body
import Hazard.Detect.Convention
import Hazard.Detect.ErrorHandling
import Hazard.Detect.Injection
import Hazard.Detect.MagicNumber
import Hazard.Detect.Naming
import Hazard.Detect.Remark
import Hazard.Detect.Secret
import Hazard.Detect.Standard
import Hazard.Event
import Hazard.Files.Exclude
import Hazard.Files.Ignore
import Hazard.Files.Path
import Hazard.Files.Scan
import Hazard.Files.Snapshot
import Hazard.Files.Store
import Hazard.Finding.Codec
import Hazard.Finding.Kind
import Hazard.Finding.Record
import Hazard.Finding.Severity
import Hazard.Finding.Timestamp
import Hazard.Main
import Hazard.Number.Binary64
import Hazard.Number.Literal
import Hazard.Number.Shortest
import Hazard.Proofs.Analysis.Bookkeeping
import Hazard.Proofs.Analysis.Course
import Hazard.Proofs.Analysis.Isolation
import Hazard.Proofs.Analysis.Listing
import Hazard.Proofs.Analysis.Schedule
import Hazard.Proofs.Analysis.Session
import Hazard.Proofs.Analysis.Summary
import Hazard.Proofs.Analysis.Threshold
import Hazard.Proofs.Config.Fields
import Hazard.Proofs.Config.Layering
import Hazard.Proofs.Config.Loading
import Hazard.Proofs.Config.Merging
import Hazard.Proofs.Config.Nearest
import Hazard.Proofs.Config.Search
import Hazard.Proofs.Data.Grouping
import Hazard.Proofs.Data.Json.Loading
import Hazard.Proofs.Data.Json.Reading
import Hazard.Proofs.Data.Json.RoundTrip
import Hazard.Proofs.Data.Json.Scanning
import Hazard.Proofs.Data.Mapping
import Hazard.Proofs.Data.Parts
import Hazard.Proofs.Data.Yaml.Keys
import Hazard.Proofs.Detect.Accesses
import Hazard.Proofs.Detect.Awaits
import Hazard.Proofs.Detect.Bindings
import Hazard.Proofs.Detect.CatchClauses
import Hazard.Proofs.Detect.CommentedCode
import Hazard.Proofs.Detect.Complexity
import Hazard.Proofs.Detect.Concatenation
import Hazard.Proofs.Detect.Dominance
import Hazard.Proofs.Detect.Extension
import Hazard.Proofs.Detect.Failure
import Hazard.Proofs.Detect.LineScan
import Hazard.Proofs.Detect.LiteralMasking
import Hazard.Proofs.Detect.Masking
import Hazard.Proofs.Detect.Numbering
import Hazard.Proofs.Detect.Patterns
import Hazard.Proofs.Detect.Recording
import Hazard.Proofs.Detect.Regions
import Hazard.Proofs.Detect.Room
import Hazard.Proofs.Detect.WellFormed
import Hazard.Proofs.Files.Exclusion
import Hazard.Proofs.Files.Floating
import Hazard.Proofs.Files.Spelling
import Hazard.Proofs.Finding.Calendar
import Hazard.Proofs.Finding.Codec
import Hazard.Proofs.Number.Digits
import Hazard.Proofs.Number.Exactness
import Hazard.Proofs.Number.IntegerLiterals
import Hazard.Proofs.Number.Literal
import Hazard.Proofs.Number.Rounding
import Hazard.Proofs.Regex.Fits
import Hazard.Proofs.Regex.Progress
import Hazard.Proofs.Regex.WholeWord
import Hazard.Proofs.Report.Console
import Hazard.Proofs.Report.Records
import Hazard.Proofs.Report.Sarif
import Hazard.Proofs.Syntax.Ancestry
import Hazard.Proofs.Syntax.Nesting
import Hazard.Proofs.Syntax.Preorder
import Hazard.Proofs.Text.LineNumbers
import Hazard.Proofs.Text.Occurrences
import Hazard.Proofs.Text.Octets
import Hazard.Proofs.Text.Places
import Hazard.Regex.Basic
import Hazard.Regex.Match
import Hazard.Regex.Parser
import Hazard.Report.Console
import Hazard.Report.Format
import Hazard.Report.Records
import Hazard.Report.Sarif
import Hazard.Report.Table
import Hazard.Syntax.Codec
import Hazard.Syntax.Function
import Hazard.Syntax.Language
import Hazard.Syntax.Site
import Hazard.Syntax.Source
import Hazard.Syntax.Tree
import Hazard.Text.Base64
import Hazard.Text.Case
import Hazard.Text.CaseTable
import Hazard.Text.CharName
import Hazard.Text.Class
import Hazard.Text.Encoding
import Hazard.Text.InvisibleTable
import Hazard.Text.Lines
import Hazard.Text.Quoted
import Hazard.Text.Similarity
import Hazard.Text.Slice
import Hazard.Text.WordTable
import Hazard.Vocabulary
