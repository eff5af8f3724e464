import SqlFrontEnd.Arguments.Fault
import SqlFrontEnd.Arguments.Grammar
import SqlFrontEnd.Arguments.Occurrence
import SqlFrontEnd.Arguments.Role
import SqlFrontEnd.Checks.Plan
import SqlFrontEnd.Checks.Run
import SqlFrontEnd.Checks.Step
import SqlFrontEnd.CommandLine.Invocation
import SqlFrontEnd.CommandLine.Manuals
import SqlFrontEnd.CommandLine.Report
import SqlFrontEnd.CommandLine.Request
import SqlFrontEnd.CommandLine.Run
import SqlFrontEnd.Failure
import SqlFrontEnd.Files.Path
import SqlFrontEnd.Files.System
import SqlFrontEnd.Files.Tree
import SqlFrontEnd.Json.Basic
import SqlFrontEnd.Json.Reader
import SqlFrontEnd.Json.Writer
import SqlFrontEnd.Lexing.Cursor
import SqlFrontEnd.Lexing.Diagnostic
import SqlFrontEnd.Lexing.Keyword
import SqlFrontEnd.Lexing.Place
import SqlFrontEnd.Lexing.Rules
import SqlFrontEnd.Lexing.Segment
import SqlFrontEnd.Lexing.Source
import SqlFrontEnd.Log
import SqlFrontEnd.Main
import SqlFrontEnd.Number.Binary64
import SqlFrontEnd.Number.Decimal
import SqlFrontEnd.Number.Hexadecimal
import SqlFrontEnd.Number.Literal
import SqlFrontEnd.Proofs.CommandLine.Lines
import SqlFrontEnd.Proofs.CommandLine.Stages
import SqlFrontEnd.Proofs.CommandLine.Tokenizing
import SqlFrontEnd.Proofs.CommandLine.Unreadable
import SqlFrontEnd.Proofs.CommandLine.Words
import SqlFrontEnd.Proofs.Files.Limits
import SqlFrontEnd.Proofs.Files.Regular
import SqlFrontEnd.Proofs.FrontEnds
import SqlFrontEnd.Proofs.Json.Layout
import SqlFrontEnd.Proofs.Json.Quoting
import SqlFrontEnd.Proofs.Json.Reading
import SqlFrontEnd.Proofs.Json.Sorting
import SqlFrontEnd.Proofs.Json.Spelling
import SqlFrontEnd.Proofs.Lexing.Automaton
import SqlFrontEnd.Proofs.Lexing.Closing
import SqlFrontEnd.Proofs.Lexing.Comment
import SqlFrontEnd.Proofs.Lexing.Diagnosis
import SqlFrontEnd.Proofs.Lexing.Driving
import SqlFrontEnd.Proofs.Lexing.Extension
import SqlFrontEnd.Proofs.Lexing.Fault
import SqlFrontEnd.Proofs.Lexing.Halting
import SqlFrontEnd.Proofs.Lexing.KeywordCase
import SqlFrontEnd.Proofs.Lexing.LineEnding
import SqlFrontEnd.Proofs.Lexing.Lookahead
import SqlFrontEnd.Proofs.Lexing.Position
import SqlFrontEnd.Proofs.Lexing.Printing
import SqlFrontEnd.Proofs.Lexing.Progress
import SqlFrontEnd.Proofs.Lexing.QuoteRuns
import SqlFrontEnd.Proofs.Lexing.Quoting
import SqlFrontEnd.Proofs.Lexing.Reconstruction
import SqlFrontEnd.Proofs.Lexing.Recovery
import SqlFrontEnd.Proofs.Lexing.Reference
import SqlFrontEnd.Proofs.Lexing.Relocation
import SqlFrontEnd.Proofs.Lexing.Segmentation
import SqlFrontEnd.Proofs.Lexing.Selection
import SqlFrontEnd.Proofs.Lexing.UpperCase
import SqlFrontEnd.Proofs.Lexing.Whitening
import SqlFrontEnd.Proofs.Lexing.WordParts
import SqlFrontEnd.Proofs.Number.Decimal
import SqlFrontEnd.Proofs.Number.Literal
import SqlFrontEnd.Proofs.Settings.Conformance
import SqlFrontEnd.Proofs.Settings.Invariance
import SqlFrontEnd.Proofs.Settings.Loading
import SqlFrontEnd.Proofs.Settings.Schema
import SqlFrontEnd.Proofs.Text.Quoted
import SqlFrontEnd.Proofs.Text.Utf8
import SqlFrontEnd.Proofs.Token.Decoding
import SqlFrontEnd.Proofs.Token.Line
import SqlFrontEnd.Proofs.Token.Serialization
import SqlFrontEnd.Proofs.Web.BodyForms
import SqlFrontEnd.Proofs.Web.View
import SqlFrontEnd.Proofs.Yaml.Construction
import SqlFrontEnd.Proofs.Yaml.Denotation
import SqlFrontEnd.Proofs.Yaml.Parts
import SqlFrontEnd.Proofs.Yaml.Refusal
import SqlFrontEnd.Proofs.Yaml.Scanning
import SqlFrontEnd.Settings.Basic
import SqlFrontEnd.Settings.Datum
import SqlFrontEnd.Settings.Fault
import SqlFrontEnd.Settings.File
import SqlFrontEnd.Settings.Reading
import SqlFrontEnd.Settings.Validation
import SqlFrontEnd.Text.Base64
import SqlFrontEnd.Text.Blank
import SqlFrontEnd.Text.CaseShift
import SqlFrontEnd.Text.Cased
import SqlFrontEnd.Text.CodePoint
import SqlFrontEnd.Text.Digit
import SqlFrontEnd.Text.Letter
import SqlFrontEnd.Text.Lower
import SqlFrontEnd.Text.Newline
import SqlFrontEnd.Text.Numeral
import SqlFrontEnd.Text.Printable
import SqlFrontEnd.Text.Quoted
import SqlFrontEnd.Text.RangeTable
import SqlFrontEnd.Text.Split
import SqlFrontEnd.Text.Stream
import SqlFrontEnd.Text.Upper
import SqlFrontEnd.Text.Utf8
import SqlFrontEnd.Text.Wide
import SqlFrontEnd.Token.Basic
import SqlFrontEnd.Token.Kind
import SqlFrontEnd.Token.Line
import SqlFrontEnd.Token.Record
import SqlFrontEnd.Web.Component
import SqlFrontEnd.Web.Exchange
import SqlFrontEnd.Web.Page
import SqlFrontEnd.Web.Site
import SqlFrontEnd.Web.Target
import SqlFrontEnd.Yaml.Alias
import SqlFrontEnd.Yaml.Document
import SqlFrontEnd.Yaml.Fault
import SqlFrontEnd.Yaml.Graph
import SqlFrontEnd.Yaml.Merge
import SqlFrontEnd.Yaml.Name
import SqlFrontEnd.Yaml.Resolution
import SqlFrontEnd.Yaml.Scalar
import SqlFrontEnd.Yaml.Spot
import SqlFrontEnd.Yaml.Timestamp
import SqlFrontEnd.Yaml.Token
import SqlFrontEnd.Yaml.TokenStream
import SqlFrontEnd.Yaml.Tree
import SqlFrontEnd.Yaml.Value
