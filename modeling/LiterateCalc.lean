import LiterateCalc.Calculation.Calculator
import LiterateCalc.Calculation.State
import LiterateCalc.CommandLine.Argument
import LiterateCalc.CommandLine.Program
import LiterateCalc.CommandLine.Request
import LiterateCalc.CommandLine.Setting
import LiterateCalc.Decimal.Binary
import LiterateCalc.Decimal.Numeral
import LiterateCalc.Decimal.Remainder
import LiterateCalc.Decimal.Rounding
import LiterateCalc.Decimal.Shortest
import LiterateCalc.Document.Basic
import LiterateCalc.Document.Diagnostic
import LiterateCalc.Document.Draft
import LiterateCalc.Document.Dump
import LiterateCalc.Document.Exchange
import LiterateCalc.Document.Format
import LiterateCalc.Document.Line
import LiterateCalc.Elementary.Circular
import LiterateCalc.Elementary.Exponential
import LiterateCalc.Elementary.Nearest
import LiterateCalc.Elementary.Root
import LiterateCalc.Elementary.Series
import LiterateCalc.Elementary.Whole
import LiterateCalc.Evaluation.Environment
import LiterateCalc.Evaluation.Error
import LiterateCalc.Evaluation.Evaluator
import LiterateCalc.Evaluation.Function
import LiterateCalc.Expression.Basic
import LiterateCalc.Expression.Lexer
import LiterateCalc.Expression.Parser
import LiterateCalc.Expression.Printer
import LiterateCalc.Expression.Token
import LiterateCalc.Files.Basic
import LiterateCalc.Files.Memory
import LiterateCalc.Fixture.Category
import LiterateCalc.Fixture.Check
import LiterateCalc.Fixture.Expectations
import LiterateCalc.Fixture.Summary
import LiterateCalc.Json.Basic
import LiterateCalc.Json.Literal
import LiterateCalc.Json.Printer
import LiterateCalc.Json.Reader
import LiterateCalc.Main
import LiterateCalc.Markup.Blocks
import LiterateCalc.Markup.Cursor
import LiterateCalc.Markup.Emphasis
import LiterateCalc.Markup.Entity
import LiterateCalc.Markup.Html
import LiterateCalc.Markup.Inline
import LiterateCalc.Markup.Link
import LiterateCalc.Markup.Opening
import LiterateCalc.Markup.Reference
import LiterateCalc.Markup.Tag
import LiterateCalc.Markup.Tree
import LiterateCalc.NameMap
import LiterateCalc.Proofs.Calculation.Dependence
import LiterateCalc.Proofs.Calculation.Formulas
import LiterateCalc.Proofs.Calculation.History
import LiterateCalc.Proofs.Calculation.LeadingNumber
import LiterateCalc.Proofs.Calculation.Lookup
import LiterateCalc.Proofs.Calculation.Pass
import LiterateCalc.Proofs.Calculation.PlainPass
import LiterateCalc.Proofs.Calculation.Reachable
import LiterateCalc.Proofs.Calculation.Record
import LiterateCalc.Proofs.CommandLine.Admission
import LiterateCalc.Proofs.CommandLine.BareCommand
import LiterateCalc.Proofs.Decimal.Comparison
import LiterateCalc.Proofs.Decimal.Counts
import LiterateCalc.Proofs.Decimal.Exact
import LiterateCalc.Proofs.Decimal.Figures
import LiterateCalc.Proofs.Decimal.Floats
import LiterateCalc.Proofs.Decimal.Longest
import LiterateCalc.Proofs.Decimal.Nearest
import LiterateCalc.Proofs.Decimal.Places
import LiterateCalc.Proofs.Decimal.Plain
import LiterateCalc.Proofs.Document.Alignment
import LiterateCalc.Proofs.Document.Arrangement
import LiterateCalc.Proofs.Document.Assignments
import LiterateCalc.Proofs.Document.CodeBlocks
import LiterateCalc.Proofs.Document.Consistency
import LiterateCalc.Proofs.Document.Contents
import LiterateCalc.Proofs.Document.Detection
import LiterateCalc.Proofs.Document.Exchange
import LiterateCalc.Proofs.Document.Layout
import LiterateCalc.Proofs.Document.LineEnds
import LiterateCalc.Proofs.Document.Order
import LiterateCalc.Proofs.Document.Prose
import LiterateCalc.Proofs.Document.Relocation
import LiterateCalc.Proofs.Document.Survey
import LiterateCalc.Proofs.Document.Tags
import LiterateCalc.Proofs.Document.Variables
import LiterateCalc.Proofs.Evaluation.Depth
import LiterateCalc.Proofs.Evaluation.FirstOffence
import LiterateCalc.Proofs.Evaluation.Heights
import LiterateCalc.Proofs.Evaluation.Messages
import LiterateCalc.Proofs.Evaluation.Offences
import LiterateCalc.Proofs.Evaluation.References
import LiterateCalc.Proofs.Evaluation.Scopes
import LiterateCalc.Proofs.Evaluation.SimpleValues
import LiterateCalc.Proofs.Evaluation.Substitution
import LiterateCalc.Proofs.Expression.Acceptance
import LiterateCalc.Proofs.Expression.Bare
import LiterateCalc.Proofs.Expression.Cuts
import LiterateCalc.Proofs.Expression.Faults
import LiterateCalc.Proofs.Expression.Grammar
import LiterateCalc.Proofs.Expression.GrammarCompleteness
import LiterateCalc.Proofs.Expression.GrammarSoundness
import LiterateCalc.Proofs.Expression.Height
import LiterateCalc.Proofs.Expression.Kept
import LiterateCalc.Proofs.Expression.Locality
import LiterateCalc.Proofs.Expression.Mentions
import LiterateCalc.Proofs.Expression.Nesting
import LiterateCalc.Proofs.Expression.Nodes
import LiterateCalc.Proofs.Expression.Parentheses
import LiterateCalc.Proofs.Expression.Placement
import LiterateCalc.Proofs.Expression.Reading
import LiterateCalc.Proofs.Expression.RoundTrip
import LiterateCalc.Proofs.Expression.Spacing
import LiterateCalc.Proofs.Expression.Spans
import LiterateCalc.Proofs.Expression.Words
import LiterateCalc.Proofs.Expression.Written
import LiterateCalc.Proofs.Fixture.FrontMatter
import LiterateCalc.Proofs.Fixture.Verdict
import LiterateCalc.Proofs.Json.Literals
import LiterateCalc.Proofs.Json.RoundTrip
import LiterateCalc.Proofs.Report.Compact
import LiterateCalc.Proofs.Report.Completeness
import LiterateCalc.Proofs.Report.Labels
import LiterateCalc.Proofs.Report.Marks
import LiterateCalc.Proofs.Text.Occurrences
import LiterateCalc.Proofs.Text.Trimming
import LiterateCalc.Report.Label
import LiterateCalc.Report.Lines
import LiterateCalc.Report.Style
import LiterateCalc.Settings.Basic
import LiterateCalc.Text.Blank
import LiterateCalc.Text.Case
import LiterateCalc.Text.Columns
import LiterateCalc.Text.Digit
import LiterateCalc.Text.Lines
import LiterateCalc.Text.Path
import LiterateCalc.Text.Punctuation
import LiterateCalc.Text.Quoted
import LiterateCalc.Text.Scanned
import LiterateCalc.Text.Span
import LiterateCalc.Toml.Basic
import LiterateCalc.Toml.Reader
import LiterateCalc.Toml.Record
import LiterateCalc.Toml.Scalar
