import MetricsHarness.App.Forwarding
import MetricsHarness.App.Launcher
import MetricsHarness.App.Location
import MetricsHarness.App.Stopping
import MetricsHarness.Binary64.Basic
import MetricsHarness.Binary64.Layout
import MetricsHarness.Binary64.Reading
import MetricsHarness.Binary64.Rounding
import MetricsHarness.Binary64.Shortest
import MetricsHarness.CommandLine.Arguments
import MetricsHarness.CommandLine.Conduct
import MetricsHarness.Exchange.Basic
import MetricsHarness.Exchange.Following
import MetricsHarness.Failure
import MetricsHarness.Files
import MetricsHarness.Json.Number
import MetricsHarness.Json.Reader
import MetricsHarness.Json.Series
import MetricsHarness.Json.Skip
import MetricsHarness.Json.Texts
import MetricsHarness.Json.Writer
import MetricsHarness.Log.Event
import MetricsHarness.Log.Filter
import MetricsHarness.Log.Pattern
import MetricsHarness.Main
import MetricsHarness.Payload.Sha256
import MetricsHarness.Payload.Validate
import MetricsHarness.Process.Basic
import MetricsHarness.Process.Command
import MetricsHarness.Process.Ending
import MetricsHarness.Process.Program
import MetricsHarness.Process.Running
import MetricsHarness.Process.Test
import MetricsHarness.Process.World
import MetricsHarness.Proofs.Addresses
import MetricsHarness.Proofs.Agreement
import MetricsHarness.Proofs.Answers
import MetricsHarness.Proofs.AppEvents
import MetricsHarness.Proofs.Base64
import MetricsHarness.Proofs.CanonicalTargets
import MetricsHarness.Proofs.Children
import MetricsHarness.Proofs.Comparison
import MetricsHarness.Proofs.Differences
import MetricsHarness.Proofs.Digests
import MetricsHarness.Proofs.DocumentNumbers
import MetricsHarness.Proofs.DocumentSamples
import MetricsHarness.Proofs.DocumentSeries
import MetricsHarness.Proofs.DocumentTexts
import MetricsHarness.Proofs.Effects
import MetricsHarness.Proofs.EmbeddedSamples
import MetricsHarness.Proofs.Endpoints
import MetricsHarness.Proofs.Escapes
import MetricsHarness.Proofs.Forwarding
import MetricsHarness.Proofs.Grammar
import MetricsHarness.Proofs.Handles
import MetricsHarness.Proofs.Hosts
import MetricsHarness.Proofs.Independence
import MetricsHarness.Proofs.Invocations
import MetricsHarness.Proofs.Judgements
import MetricsHarness.Proofs.Layouts
import MetricsHarness.Proofs.Literals
import MetricsHarness.Proofs.Loading
import MetricsHarness.Proofs.Nearest
import MetricsHarness.Proofs.NumberTexts
import MetricsHarness.Proofs.NumberTokens
import MetricsHarness.Proofs.Numerals
import MetricsHarness.Proofs.ParameterBytes
import MetricsHarness.Proofs.Parameters
import MetricsHarness.Proofs.Passing
import MetricsHarness.Proofs.Payloads
import MetricsHarness.Proofs.Phases
import MetricsHarness.Proofs.Pieces
import MetricsHarness.Proofs.Queries
import MetricsHarness.Proofs.Readers
import MetricsHarness.Proofs.Redirections
import MetricsHarness.Proofs.Reports
import MetricsHarness.Proofs.Rounding
import MetricsHarness.Proofs.Rows
import MetricsHarness.Proofs.SampleShapes
import MetricsHarness.Proofs.Samples
import MetricsHarness.Proofs.Scaling
import MetricsHarness.Proofs.Segments
import MetricsHarness.Proofs.SeriesShapes
import MetricsHarness.Proofs.Shapes
import MetricsHarness.Proofs.Shortest
import MetricsHarness.Proofs.SpelledPassing
import MetricsHarness.Proofs.SpelledSeries
import MetricsHarness.Proofs.SpelledTokens
import MetricsHarness.Proofs.SpelledValues
import MetricsHarness.Proofs.Startup
import MetricsHarness.Proofs.Stops
import MetricsHarness.Proofs.SuiteLayout
import MetricsHarness.Proofs.SuiteMembers
import MetricsHarness.Proofs.SuiteNumbers
import MetricsHarness.Proofs.SuiteSamples
import MetricsHarness.Proofs.SuiteTexts
import MetricsHarness.Proofs.Surfaces
import MetricsHarness.Proofs.TagShapes
import MetricsHarness.Proofs.Targets
import MetricsHarness.Proofs.TextOrder
import MetricsHarness.Proofs.TextTokens
import MetricsHarness.Proofs.TreeShapes
import MetricsHarness.Proofs.Trees
import MetricsHarness.Proofs.TypedSamples
import MetricsHarness.Proofs.Unambiguous
import MetricsHarness.Proofs.Utf8
import MetricsHarness.Proofs.Verdict
import MetricsHarness.Proofs.WebUrls
import MetricsHarness.Query.Attempt
import MetricsHarness.Query.Failure
import MetricsHarness.Query.Target
import MetricsHarness.Report.Line
import MetricsHarness.Run.Basic
import MetricsHarness.Run.Effect
import MetricsHarness.Run.Launcher
import MetricsHarness.Run.Startup
import MetricsHarness.Sample.Basic
import MetricsHarness.Sample.Scalar
import MetricsHarness.Script.Command
import MetricsHarness.Script.Environment
import MetricsHarness.Script.Format
import MetricsHarness.Script.Lexeme
import MetricsHarness.Script.Reading
import MetricsHarness.Script.Sum
import MetricsHarness.Series.Basic
import MetricsHarness.Series.Compare
import MetricsHarness.Settings.Basic
import MetricsHarness.Settings.Reading
import MetricsHarness.Suite.Basic
import MetricsHarness.Suite.Reading
import MetricsHarness.Text.Base64
import MetricsHarness.Text.Blank
import MetricsHarness.Text.Hex
import MetricsHarness.Text.Letters
import MetricsHarness.Text.Numeral
import MetricsHarness.Text.Pieces
import MetricsHarness.Text.Printable
import MetricsHarness.Text.Quoted
import MetricsHarness.Text.Utf8
import MetricsHarness.Toml.Document
import MetricsHarness.Toml.Item
import MetricsHarness.Toml.Number
import MetricsHarness.Toml.Snippet
import MetricsHarness.Toml.Text
import MetricsHarness.Url.Basic
import MetricsHarness.Url.Domain
import MetricsHarness.Url.File
import MetricsHarness.Url.Form
import MetricsHarness.Url.Host
import MetricsHarness.Url.Join
import MetricsHarness.Url.LiteralDomain
import MetricsHarness.Url.Path
import MetricsHarness.Url.Percent
import MetricsHarness.Url.Reading
import MetricsHarness.Url.Tail
import MetricsHarness.Yaml.Block
import MetricsHarness.Yaml.Decode
import MetricsHarness.Yaml.Flow
import MetricsHarness.Yaml.Mark
import MetricsHarness.Yaml.Node
import MetricsHarness.Yaml.Properties
import MetricsHarness.Yaml.Tag
import MetricsHarness.Yaml.Token
import MetricsHarness.Yaml.Value
