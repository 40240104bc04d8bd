import SearchQuery.CommandLine.Grammar
import SearchQuery.CommandLine.Help
import SearchQuery.CommandLine.Reading
import SearchQuery.Files.FileSystem
import SearchQuery.Files.Path
import SearchQuery.Json
import SearchQuery.Log.Directive
import SearchQuery.Log.Event
import SearchQuery.Log.Filter
import SearchQuery.Log.Pattern
import SearchQuery.Main
import SearchQuery.Number.Binary64
import SearchQuery.Program.Configuration
import SearchQuery.Program.Outcome
import SearchQuery.Program.Queries
import SearchQuery.Program.Run
import SearchQuery.Proofs.Repair.Effect
import SearchQuery.Proofs.Repair.Passing
import SearchQuery.Query.Delimiter
import SearchQuery.Query.Document
import SearchQuery.Query.Expression
import SearchQuery.Query.Outline
import SearchQuery.Query.Parser
import SearchQuery.Query.Phrase
import SearchQuery.Query.Repair
import SearchQuery.Query.Token
import SearchQuery.Query.Tree
import SearchQuery.Settings.Basic
import SearchQuery.Settings.Decode
import SearchQuery.Settings.Discovery
import SearchQuery.Settings.Template
import SearchQuery.Terminal.Highlight
import SearchQuery.Terminal.JsonPieces
import SearchQuery.Terminal.Outline
import SearchQuery.Terminal.Piece
import SearchQuery.Terminal.Plain
import SearchQuery.Terminal.Style
import SearchQuery.Terminal.Table
import SearchQuery.Terminal.TomlPieces
import SearchQuery.Text.Alphanumeric
import SearchQuery.Text.Bytes
import SearchQuery.Text.Columns
import SearchQuery.Text.Printable
import SearchQuery.Text.Quoted
import SearchQuery.Text.Space
import SearchQuery.Toml.Document
import SearchQuery.Toml.Quoting
import SearchQuery.Toml.Scalar
import SearchQuery.Toml.Source
import SearchQuery.Toml.Table
import SearchQuery.Toml.Value
import SearchQuery.Proofs.Repair.Nesting
import SearchQuery.Proofs.Repair.Completeness
import SearchQuery.Proofs.Token.Mark
import SearchQuery.Proofs.Token.Balance
import SearchQuery.Proofs.Tree.Storage
import SearchQuery.Proofs.Tree.WellFormed
import SearchQuery.Proofs.Reading.Draft
import SearchQuery.Proofs.Token.Level
import SearchQuery.Proofs.Reading.Agreement
import SearchQuery.Proofs.Reading.Place
import SearchQuery.Proofs.Reading.Terms
import SearchQuery.Proofs.Reading.QuotedParens
import SearchQuery.Proofs.Document.Printing
import SearchQuery.Proofs.Document.Sameness
import SearchQuery.Proofs.Text.Words
import SearchQuery.Proofs.Tree.Collection
import SearchQuery.Proofs.Reading.StoredTerms
import SearchQuery.Proofs.Repair.Stretch
import SearchQuery.Proofs.Repair.ByHand
import SearchQuery.Proofs.Repair.Insertion
import SearchQuery.Proofs.Repair.Minimality
import SearchQuery.Proofs.Token.Seam
import SearchQuery.Proofs.Token.Lexical
import SearchQuery.Proofs.Reading.Parts
import SearchQuery.Proofs.Text.Quoting
import SearchQuery.Proofs.Terminal.Painting
import SearchQuery.Proofs.Outline.Lines
import SearchQuery.Proofs.Outline.Styling
import SearchQuery.Proofs.Outline.Recovery
import SearchQuery.Proofs.Files.Ancestors
import SearchQuery.Proofs.Settings.Discovery
import SearchQuery.Proofs.Settings.Resolution
import SearchQuery.Proofs.Files.Contents
import SearchQuery.Proofs.Settings.Isolation
import SearchQuery.Proofs.Toml.Comments
import SearchQuery.Proofs.Settings.Template
import SearchQuery.Proofs.Settings.NewFile
import SearchQuery.Proofs.Reading.Scope
import SearchQuery.Proofs.Reading.Modes
import SearchQuery.Proofs.Reading.Group
import SearchQuery.Proofs.Settings.Acceptance
import SearchQuery.Proofs.Toml.Lines
import SearchQuery.Proofs.Settings.Written
import SearchQuery.Proofs.Program.Initialization
import SearchQuery.Proofs.Terminal.RepairedQuery
import SearchQuery.Proofs.Log.Account
import SearchQuery.Proofs.Program.Verdicts
import SearchQuery.Proofs.Reading.Strict
import SearchQuery.Proofs.Terminal.Cutting
import SearchQuery.Proofs.Terminal.Highlighting
