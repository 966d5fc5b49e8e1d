import CodeMetrics.CommandLine.Arguments
import CodeMetrics.CommandLine.Run
import CodeMetrics.Console
import CodeMetrics.Disk
import CodeMetrics.Error
import CodeMetrics.Files
import CodeMetrics.Json.Reader
import CodeMetrics.Json.Writer
import CodeMetrics.Log
import CodeMetrics.Logging
import CodeMetrics.Main
import CodeMetrics.Metrics.Analysis
import CodeMetrics.Metrics.Complexity
import CodeMetrics.Metrics.Halstead
import CodeMetrics.Metrics.Inheritance
import CodeMetrics.Metrics.Lines
import CodeMetrics.Metrics.Maintainability
import CodeMetrics.Metrics.Record
import CodeMetrics.Metrics.Scalar
import CodeMetrics.Metrics.Structure
import CodeMetrics.Metrics.Units
import CodeMetrics.Moment
import CodeMetrics.Number.Binary
import CodeMetrics.Number.Layout
import CodeMetrics.Number.Num
import CodeMetrics.Number.Shortest
import CodeMetrics.Proofs.Analysis.Bounds
import CodeMetrics.Proofs.Analysis.Documents
import CodeMetrics.Proofs.Analysis.Measuring
import CodeMetrics.Proofs.Analysis.Parts
import CodeMetrics.Proofs.Analysis.Settings
import CodeMetrics.Proofs.Analysis.Success
import CodeMetrics.Proofs.Bookkeeping
import CodeMetrics.Proofs.Calculators.Accumulation
import CodeMetrics.Proofs.Calculators.Counts
import CodeMetrics.Proofs.Calculators.Lines
import CodeMetrics.Proofs.Calculators.Maintainability
import CodeMetrics.Proofs.Calculators.Recursion
import CodeMetrics.Proofs.Calculators.Tokens
import CodeMetrics.Proofs.CommandLine.ErrorLine
import CodeMetrics.Proofs.CommandLine.Output
import CodeMetrics.Proofs.Distinct
import CodeMetrics.Proofs.Fields
import CodeMetrics.Proofs.Files
import CodeMetrics.Proofs.Inheritance.Chains
import CodeMetrics.Proofs.Inheritance.Congruence
import CodeMetrics.Proofs.Inheritance.Convergence
import CodeMetrics.Proofs.Inheritance.Depths
import CodeMetrics.Proofs.Inheritance.Divergence
import CodeMetrics.Proofs.Inheritance.Keys
import CodeMetrics.Proofs.Inheritance.Limits
import CodeMetrics.Proofs.Inheritance.Merging
import CodeMetrics.Proofs.Inheritance.Relaxation
import CodeMetrics.Proofs.Inheritance.Trees
import CodeMetrics.Proofs.Json.Numerals
import CodeMetrics.Proofs.Json.RoundTrip
import CodeMetrics.Proofs.Loading.Conversion
import CodeMetrics.Proofs.Loading.Keys
import CodeMetrics.Proofs.Loading.Locations
import CodeMetrics.Proofs.Loading.Making
import CodeMetrics.Proofs.Loading.Malformed
import CodeMetrics.Proofs.Loading.Reading
import CodeMetrics.Proofs.Loading.Tree
import CodeMetrics.Proofs.Matching
import CodeMetrics.Proofs.Number.Arithmetic
import CodeMetrics.Proofs.Number.Doubles
import CodeMetrics.Proofs.Number.Integers
import CodeMetrics.Proofs.Number.Near
import CodeMetrics.Proofs.Number.Order
import CodeMetrics.Proofs.Number.Rounding
import CodeMetrics.Proofs.Number.Shortest
import CodeMetrics.Proofs.Number.Spelling
import CodeMetrics.Proofs.Number.Values
import CodeMetrics.Proofs.Outcome
import CodeMetrics.Proofs.Parents
import CodeMetrics.Proofs.Renaming.Documents
import CodeMetrics.Proofs.Renaming.Loading
import CodeMetrics.Proofs.Renaming.Tokens
import CodeMetrics.Proofs.Renaming.Trees
import CodeMetrics.Proofs.Renaming.Units
import CodeMetrics.Proofs.Reordering.Documents
import CodeMetrics.Proofs.Reordering.Loading
import CodeMetrics.Proofs.Reordering.Measures
import CodeMetrics.Proofs.Reordering.Trees
import CodeMetrics.Proofs.Report.Agreement
import CodeMetrics.Proofs.Report.Json
import CodeMetrics.Proofs.Report.Table
import CodeMetrics.Proofs.Settings.Loading
import CodeMetrics.Proofs.Settings.Sources
import CodeMetrics.Proofs.Settings.Tables
import CodeMetrics.Proofs.Settings.Validity
import CodeMetrics.Proofs.Text.Emoji
import CodeMetrics.Proofs.Text.Markup
import CodeMetrics.Proofs.Text.Wrapping
import CodeMetrics.Proofs.Units.Discovery
import CodeMetrics.Proofs.Units.Order
import CodeMetrics.Proofs.Units.Reported
import CodeMetrics.Proofs.Units.Subtrees
import CodeMetrics.Proofs.Walking
import CodeMetrics.Report.Json
import CodeMetrics.Report.Table
import CodeMetrics.Session
import CodeMetrics.Settings.Basic
import CodeMetrics.Settings.Sources
import CodeMetrics.Syntax.Graph
import CodeMetrics.Syntax.Kind
import CodeMetrics.Syntax.Loader
import CodeMetrics.Syntax.Node
import CodeMetrics.Syntax.Parents
import CodeMetrics.Syntax.Span
import CodeMetrics.Syntax.Walk
import CodeMetrics.Text.Alphanumeric
import CodeMetrics.Text.Blank
import CodeMetrics.Text.Cased
import CodeMetrics.Text.CharacterName
import CodeMetrics.Text.CharacterName.Table
import CodeMetrics.Text.Double
import CodeMetrics.Text.Emoji
import CodeMetrics.Text.Emoji.Table
import CodeMetrics.Text.Highlight
import CodeMetrics.Text.Integer
import CodeMetrics.Text.Literal
import CodeMetrics.Text.LowerCase
import CodeMetrics.Text.Markup
import CodeMetrics.Text.Path
import CodeMetrics.Text.Pattern
import CodeMetrics.Text.Printable
import CodeMetrics.Text.Quoted
import CodeMetrics.Text.Styled
import CodeMetrics.Text.Styling
import CodeMetrics.Text.Utf8
import CodeMetrics.Text.Width
import CodeMetrics.Text.Wrap
import CodeMetrics.Toml.Reader
import CodeMetrics.Toml.Scan
import CodeMetrics.Toml.Time
import CodeMetrics.Value
import CodeMetrics.Value.Order
