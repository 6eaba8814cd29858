import DumpLens.Api.Answer
import DumpLens.Api.Client
import DumpLens.Api.Form
import DumpLens.Api.Message
import DumpLens.Api.Server
import DumpLens.Api.Site
import DumpLens.Api.Target
import DumpLens.Block.Basic
import DumpLens.Block.LineSpans
import DumpLens.Block.Tracking
import DumpLens.CommandLine.Arguments
import DumpLens.CommandLine.Command
import DumpLens.CommandLine.Listing
import DumpLens.CommandLine.Outcome
import DumpLens.CommandLine.Run
import DumpLens.Config.Basic
import DumpLens.Config.Finder
import DumpLens.Config.Reader
import DumpLens.Document.Address
import DumpLens.Document.Basic
import DumpLens.Document.Call
import DumpLens.Document.Query
import DumpLens.Document.Range
import DumpLens.Document.Uri
import DumpLens.Domain.Direction
import DumpLens.Domain.Letters
import DumpLens.Domain.Marks
import DumpLens.Domain.Name
import DumpLens.Domain.Punycode
import DumpLens.File.Access
import DumpLens.File.Tree
import DumpLens.Hover
import DumpLens.Json.Basic
import DumpLens.Json.Encoding
import DumpLens.Json.Reader
import DumpLens.Json.Visible
import DumpLens.Json.Writable
import DumpLens.Main
import DumpLens.Markup.Escape
import DumpLens.Markup.Highlight
import DumpLens.Markup.Segment
import DumpLens.Markup.Splitter
import DumpLens.Number.Double
import DumpLens.Number.Shortest
import DumpLens.Palette
import DumpLens.Path.Basic
import DumpLens.Render.Dump
import DumpLens.Render.Line
import DumpLens.Render.Page
import DumpLens.Render.Stylesheet
import DumpLens.Session.Basic
import DumpLens.Session.Request
import DumpLens.Span.Basic
import DumpLens.Span.Note
import DumpLens.Text.Ascii
import DumpLens.Text.Basic
import DumpLens.Text.Blank
import DumpLens.Text.CodePoint
import DumpLens.Text.CodeTable
import DumpLens.Text.Digit
import DumpLens.Text.Indent
import DumpLens.Text.Numeral
import DumpLens.Text.Percent
import DumpLens.Text.Printable
import DumpLens.Text.Quoted
import DumpLens.Text.Reading
import DumpLens.Text.Terminal
import DumpLens.Text.Utf16
import DumpLens.Text.Utf8
import DumpLens.Text.Word
import DumpLens.Token.Basic
import DumpLens.Token.Lexer
import DumpLens.Token.Rules
import DumpLens.Token.Scanner
import DumpLens.Toml.Calendar
import DumpLens.Toml.Document
import DumpLens.Toml.Lexeme
import DumpLens.Toml.Reader
import DumpLens.Toml.Table
import DumpLens.Toml.Value
import DumpLens.Toolchain.Compile
import DumpLens.Toolchain.Kind
import DumpLens.Toolchain.Log
import DumpLens.Toolchain.Result
import DumpLens.Workplace
import DumpLens.Proofs.Block.Innermost
import DumpLens.Proofs.Session.NewestWins
import DumpLens.Proofs.Render.Aligned
import DumpLens.Proofs.Render.PageKept
import DumpLens.Proofs.Block.OpenBraces
import DumpLens.Proofs.Span.Pattern
import DumpLens.Proofs.Document.Calls
import DumpLens.Proofs.FrontEnds
import DumpLens.Proofs.Block.Shortest
import DumpLens.Proofs.Block.Family
import DumpLens.Proofs.Markup.Composed
import DumpLens.Proofs.Markup.Styled
import DumpLens.Proofs.Markup.Kept
import DumpLens.Proofs.Block.Edited
import DumpLens.Proofs.Block.Concatenated
import DumpLens.Proofs.Token.Marked
import DumpLens.Proofs.Token.Advancing
import DumpLens.Proofs.Token.Steps
import DumpLens.Proofs.Block.Refused
import DumpLens.Proofs.Markup.Resplit
import DumpLens.Proofs.Document.Ranges
import DumpLens.Proofs.Document.SourceFile
import DumpLens.Proofs.Session.Generations
import DumpLens.Proofs.Session.Work
import DumpLens.Proofs.Session.Offers
import DumpLens.Proofs.Session.Whole
import DumpLens.Proofs.Session.Undisturbed
import DumpLens.Proofs.Api.Superseded
import DumpLens.Proofs.Session.Current
import DumpLens.Proofs.Toolchain.Reported
import DumpLens.Proofs.Token.Errors
import DumpLens.Proofs.Config.Fields
import DumpLens.Proofs.Text.Indentation
import DumpLens.Proofs.Document.Highlights
import DumpLens.Proofs.Config.Nearest
import DumpLens.Proofs.CommandLine.Misconfigured
import DumpLens.Proofs.HoverInStep
