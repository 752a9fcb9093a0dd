import Quarry.Cli.Command
import Quarry.Cli.Run
import Quarry.Cli.Words
import Quarry.Disk.Basic
import Quarry.Disk.Edit
import Quarry.Disk.Resolve
import Quarry.Document
import Quarry.Extraction
import Quarry.Fault
import Quarry.Flatten
import Quarry.Format
import Quarry.Json.Literal
import Quarry.Json.Printer
import Quarry.Json.Reader
import Quarry.Json.String
import Quarry.Json.Token
import Quarry.Json.Value
import Quarry.Markup.Entity
import Quarry.Markup.Entity.Table
import Quarry.Markup.Refusal
import Quarry.Markup.Tag
import Quarry.Markup.Token
import Quarry.Markup.Visible
import Quarry.Number.Binary64
import Quarry.Number.Integer
import Quarry.Number.Layout
import Quarry.Number.Shortest
import Quarry.Path
import Quarry.Pattern.Basic
import Quarry.Pattern.Reader
import Quarry.Policy
import Quarry.Proofs.Disk.Destination
import Quarry.Proofs.Disk.Follow
import Quarry.Proofs.Disk.Sound
import Quarry.Proofs.Disk.Visited
import Quarry.Proofs.Json.Lexing
import Quarry.Proofs.Json.Reading
import Quarry.Proofs.Path.Spelling
import Quarry.Proofs.Records.Padding
import Quarry.Proofs.Records.Significant
import Quarry.Proofs.Records.Stream
import Quarry.Proofs.Sandbox.Containment
import Quarry.Proofs.Sandbox.Isolation
import Quarry.Proofs.Text.Filled
import Quarry.Proofs.Text.Lowered
import Quarry.Proofs.Text.Margins
import Quarry.Proofs.Text.Occurrence
import Quarry.Proofs.Text.Pieces
import Quarry.Proofs.Trace
import Quarry.Proofs.Query.Concatenation
import Quarry.Proofs.Query.Exclusion
import Quarry.Proofs.Query.Keywords
import Quarry.Proofs.Query.Lexemes
import Quarry.Proofs.Query.Parts
import Quarry.Proofs.Query.Tokens
import Quarry.Query.Lexeme
import Quarry.Query.Parsed
import Quarry.Query.Projection
import Quarry.Query.Token
import Quarry.Records
import Quarry.Sandbox
import Quarry.Settings
import Quarry.Text.Basic
import Quarry.Text.Blank
import Quarry.Text.Case
import Quarry.Text.Case.Table
import Quarry.Text.Digit
import Quarry.Text.Newline
import Quarry.Text.Printable
import Quarry.Text.Quoted
import Quarry.Text.Span
import Quarry.Text.Utf8
import Quarry.Trace
import Quarry.Main
import Quarry.Proofs.Flatten.Spots
import Quarry.Proofs.Flatten.Place
import Quarry.Proofs.Flatten.Dropped
import Quarry.Proofs.Records.Listed
import Quarry.Proofs.Sandbox.Admission
import Quarry.Proofs.Text.LineEnds
import Quarry.Proofs.Text.Stray
import Quarry.Proofs.Document.Decoded
import Quarry.Proofs.Query.Literal
import Quarry.Proofs.Cli.Reported
import Quarry.Proofs.Markup.Forest
import Quarry.Proofs.Markup.Reading
import Quarry.Proofs.Markup.Serialized
import Quarry.Proofs.Flatten.Listing
import Quarry.Proofs.Flatten.OwnKey
import Quarry.Proofs.Policy.Spelling
import Quarry.Proofs.Flatten.Monotone
import Quarry.Proofs.Json.Returns
import Quarry.Proofs.Format.Returns
import Quarry.Proofs.Records.Single
import Quarry.Proofs.Document.Dispatch
import Quarry.Proofs.Flatten.Following
import Quarry.Proofs.Query.Coverage
import Quarry.Proofs.Query.Grouping
import Quarry.Proofs.Cli.Routes
import Quarry.Proofs.Settings.Stable
import Quarry.Proofs.Document.Paged
import Quarry.Proofs.Records.Skipped
import Quarry.Proofs.Document.Logged
import Quarry.Proofs.Markup.Unclosed
import Quarry.Proofs.Json.Escaped
import Quarry.Proofs.Json.Written
import Quarry.Proofs.Cli.Queries
import Quarry.Proofs.Policy.NormalForm
