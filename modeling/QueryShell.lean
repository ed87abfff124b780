import QueryShell.Text.Blank
import QueryShell.Text.Digit
import QueryShell.Text.Ranges
import QueryShell.Text.Printable
import QueryShell.Text.CaseIgnorable
import QueryShell.Text.Casing
import QueryShell.Text.Quoted
import QueryShell.Decimal.Power
import QueryShell.Decimal.Binary
import QueryShell.Decimal.Shortest
import QueryShell.Decimal.Notation
import QueryShell.Decimal.Reading
import QueryShell.Fault
import QueryShell.Query.Helper
import QueryShell.Value.Basic
import QueryShell.Value.Inspect
import QueryShell.Value.Equality
import QueryShell.Value.Dictionary
import QueryShell.ShellError
import QueryShell.Statement.Token
import QueryShell.Statement.Lexer
import QueryShell.Statement.Place
import QueryShell.Statement.Form
import QueryShell.Statement.Quotation
import QueryShell.Statement.Node
import QueryShell.Statement.Reader
import QueryShell.Json.Reader
import QueryShell.Json.Writer
import QueryShell.Text.Base64
import QueryShell.Query.Catalogue
import QueryShell.Query.Call
import QueryShell.Query.Wire
import QueryShell.Query.Evaluation
import QueryShell.Value.Tagged
import QueryShell.Connection.Rejection
import QueryShell.Session.Command
import QueryShell.Session.Completion
import QueryShell.Render.View
import QueryShell.Text.Cells
import QueryShell.Text.EmojiTable
import QueryShell.Text.Emoji
import QueryShell.Render.Markup
import QueryShell.Render.Wrap
import QueryShell.Render.Layout
import QueryShell.Render.Table
import QueryShell.Render.Console
import QueryShell.Render.Report
import QueryShell.Text.CodePage
import QueryShell.Text.Encoding
import QueryShell.Json.Bytes
import QueryShell.Connection.Options
import QueryShell.Connection.Url
import QueryShell.Connection.Service
import QueryShell.Connection.MediaType
import QueryShell.Connection.Client
import QueryShell.Connection.Access
import QueryShell.Session.Outcome
import QueryShell.Session.MetaLine
import QueryShell.Session.State
import QueryShell.Session.Shell
import QueryShell.Yaml.Character
import QueryShell.Yaml.Cursor
import QueryShell.Yaml.Token
import QueryShell.Yaml.ScalarText
import QueryShell.Yaml.Property
import QueryShell.Yaml.Lexer
import QueryShell.Yaml.PlainTag
import QueryShell.Yaml.Graph
import QueryShell.Yaml.Compose
import QueryShell.Yaml.Moment
import QueryShell.Yaml.Scalar
import QueryShell.Yaml.Data
import QueryShell.Yaml.Shown
import QueryShell.Yaml.Build
import QueryShell.Value.Merging
import QueryShell.Config.WrittenNumber
import QueryShell.Config.Setting
import QueryShell.Config.Field
import QueryShell.Config.VariableFile
import QueryShell.Config.Endpoint
import QueryShell.Config.Resolution
import QueryShell.CommandLine.Similarity
import QueryShell.CommandLine.Usage
import QueryShell.CommandLine.Words
import QueryShell.CommandLine.Invocation
import QueryShell.CommandLine.Terminal
import QueryShell.CommandLine.Run
import QueryShell.Main
import QueryShell.Text.HostChars
import QueryShell.Text.CombiningClass
import QueryShell.Text.NormalForm
import QueryShell.Text.Direction
import QueryShell.Text.Joining
import QueryShell.Text.Punycode
import QueryShell.Connection.HostName
import QueryShell.Proofs.Statement.Terminal
import QueryShell.Proofs.Statement.Splitting
import QueryShell.Proofs.Statement.Scanning
import QueryShell.Proofs.Statement.Grammar
import QueryShell.Proofs.Statement.Reached
import QueryShell.Proofs.Statement.Literals
import QueryShell.Proofs.Statement.BlankText
import QueryShell.Proofs.Statement.Reading
import QueryShell.Proofs.Statement.Escapes
import QueryShell.Proofs.Statement.Finality
import QueryShell.Proofs.Statement.Completion
import QueryShell.Proofs.Statement.Opening
import QueryShell.Proofs.Statement.Joining
import QueryShell.Proofs.Session.Buffering
import QueryShell.Proofs.Session.Invariant
import QueryShell.Proofs.Session.Dispatch
import QueryShell.Proofs.Session.Joining
import QueryShell.Proofs.Session.Identity
import QueryShell.Proofs.Session.Failures
import QueryShell.Proofs.Render.Printing
import QueryShell.Proofs.Session.Independence
import QueryShell.Proofs.Text.Base64
import QueryShell.Proofs.Text.Utf8
import QueryShell.Proofs.Json.ReadBack
import QueryShell.Proofs.Connection.Identity
import QueryShell.Proofs.Value.Tagging
import QueryShell.Proofs.Value.TextKeys
import QueryShell.Proofs.Value.Hashing
import QueryShell.Proofs.Query.WireForm
import QueryShell.Proofs.Query.Calls
import QueryShell.Proofs.Query.Expressible
import QueryShell.Proofs.Query.Arguments
import QueryShell.Proofs.Query.Objects
import QueryShell.Proofs.Query.Returning
import QueryShell.Proofs.Session.Release
import QueryShell.Proofs.Statement.LiteralFaults
import QueryShell.Proofs.Connection.Rejection
import QueryShell.Proofs.Session.Showing
import QueryShell.Proofs.Render.Markup
import QueryShell.Proofs.Config.Refusal
import QueryShell.Proofs.CommandLine.Startup
import QueryShell.Proofs.Query.Mentions
import QueryShell.Proofs.Session.Execution
import QueryShell.Proofs.Statement.Placement
import QueryShell.Proofs.Statement.Pieces
import QueryShell.Proofs.Render.Outline
import QueryShell.Proofs.Render.Keywords
import QueryShell.Proofs.Json.Document
import QueryShell.Proofs.Value.WellTagged
import QueryShell.Proofs.Connection.Judgement
import QueryShell.Proofs.Connection.Declared
import QueryShell.Proofs.Decimal.Rounding
import QueryShell.Proofs.Json.Numerals
import QueryShell.Proofs.Json.RoundTrip
import QueryShell.Proofs.Connection.Sending
import QueryShell.Proofs.Session.Commands
import QueryShell.Proofs.Config.Precedence
import QueryShell.Proofs.Config.Usable
import QueryShell.Proofs.Render.Reference
import QueryShell.Proofs.Query.Reference
import QueryShell.Proofs.Session.Registry
import QueryShell.Proofs.Session.Completion
import QueryShell.Proofs.Statement.Alike
import QueryShell.Proofs.Statement.Skipping
