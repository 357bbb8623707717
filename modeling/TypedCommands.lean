import TypedCommands.Main
import TypedCommands.ScannedLine
import TypedCommands.Proofs.Line.Division
import TypedCommands.Proofs.Plan
import TypedCommands.Proofs.Record.Routing
import TypedCommands.Proofs.Record.Delivery
import TypedCommands.Proofs.Record.Atomicity
import TypedCommands.Proofs.Cursor
import TypedCommands.Proofs.Command.Descent
import TypedCommands.Proofs.Command.Resolution
import TypedCommands.Proofs.Line.Run
import TypedCommands.Proofs.Line.Spelling
import TypedCommands.Proofs.Line.RawText
import TypedCommands.Proofs.Line.Breakage
import TypedCommands.Proofs.Line.FaultPlace
import TypedCommands.Proofs.Coercion
import TypedCommands.Proofs.FieldType.Sameness
import TypedCommands.Proofs.FieldType.Alternatives
import TypedCommands.Proofs.Record.Shortfall
import TypedCommands.Proofs.Command.Containment
import TypedCommands.Proofs.Line.Names
import TypedCommands.Proofs.Command.TableNames
import TypedCommands.Proofs.BindingNames
import TypedCommands.Proofs.Line.Concatenation
import TypedCommands.Proofs.Record.Reordering
import TypedCommands.Proofs.Lookahead
import TypedCommands.Proofs.Command.Outcomes
import TypedCommands.Proofs.Command.Tree
import TypedCommands.Proofs.Command.Walk
import TypedCommands.Proofs.Feed
import TypedCommands.Proofs.Interleaving
import TypedCommands.Proofs.Line.Calls
import TypedCommands.Proofs.Record.TwoSteps
import TypedCommands.Proofs.Provenance
import TypedCommands.Proofs.Record.Typing
import TypedCommands.Proofs.Terminal.Markup
import TypedCommands.Proofs.Terminal.Paragraph
import TypedCommands.Proofs.Terminal.Columns
import TypedCommands.Proofs.Terminal.Wrapping
import TypedCommands.Proofs.Terminal.Verbatim
import TypedCommands.Proofs.Terminal.Table
import TypedCommands.Proofs.Terminal.Console
import TypedCommands.Proofs.Shell.Printing
import TypedCommands.Proofs.Shell.Status
import TypedCommands.Proofs.Shell.Display
import TypedCommands.Proofs.Document.Yaml.SingleQuoted
import TypedCommands.Proofs.Document.Yaml.DoubleQuoted
import TypedCommands.Proofs.Document.Yaml.PlainText
import TypedCommands.Proofs.Document.Yaml.Steps
import TypedCommands.Proofs.Document.Yaml.Values
import TypedCommands.Proofs.Document.Yaml.Tokens
import TypedCommands.Proofs.Document.Yaml.Allowed
import TypedCommands.Proofs.Document.Yaml.Nodes
import TypedCommands.Proofs.Document.Yaml.RoundTrip
import TypedCommands.Proofs.Document.Json.Texts
import TypedCommands.Proofs.Document.Json.Numbers
import TypedCommands.Proofs.Document.Json.Values
import TypedCommands.Proofs.Document.Json.RoundTrip
import TypedCommands.Proofs.Number.Integers
import TypedCommands.Proofs.Calendar
import TypedCommands.Proofs.Planning
import TypedCommands.Proofs.FieldType.Support
import TypedCommands.Proofs.Record.PlainView
import TypedCommands.Proofs.SortKey
import TypedCommands.Proofs.Line.Unquoting
