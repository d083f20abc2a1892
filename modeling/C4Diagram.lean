import C4Diagram.Call.Arguments
import C4Diagram.Call.Shape
import C4Diagram.Command.Basic
import C4Diagram.Command.Files
import C4Diagram.Command.Run
import C4Diagram.Command.Usage
import C4Diagram.Deflate.Bits
import C4Diagram.Deflate.CodeLengths
import C4Diagram.Deflate.Compress
import C4Diagram.Deflate.Inflate
import C4Diagram.Deflate.Matches
import C4Diagram.Deflate.PrefixCode
import C4Diagram.Deflate.Symbols
import C4Diagram.Deflate.Token
import C4Diagram.Deflate.Tokenize
import C4Diagram.DiagramCode
import C4Diagram.Edit.Element
import C4Diagram.Edit.Placement
import C4Diagram.Edit.Quoted
import C4Diagram.Edit.Relation
import C4Diagram.Editor
import C4Diagram.Failure
import C4Diagram.Finding
import C4Diagram.Identifier
import C4Diagram.Libraries
import C4Diagram.Line
import C4Diagram.Lint
import C4Diagram.Main
import C4Diagram.Normal.Document
import C4Diagram.Normal.Fence
import C4Diagram.Normal.Header
import C4Diagram.Outline.Basic
import C4Diagram.Outline.Build
import C4Diagram.Outline.Tree
import C4Diagram.Proofs.BraceNesting
import C4Diagram.Proofs.Call.Bare
import C4Diagram.Proofs.Call.ReadBack
import C4Diagram.Proofs.Call.Shape
import C4Diagram.Proofs.Call.Values
import C4Diagram.Proofs.Call.Written
import C4Diagram.Proofs.Check
import C4Diagram.Proofs.Command
import C4Diagram.Proofs.DiagramCode
import C4Diagram.Proofs.Edit.Accepted
import C4Diagram.Proofs.Edit.AddElement
import C4Diagram.Proofs.Edit.AddRelation
import C4Diagram.Proofs.Edit.InDiagram
import C4Diagram.Proofs.Edit.Insertion
import C4Diagram.Proofs.Edit.Nested
import C4Diagram.Proofs.Edit.Printed
import C4Diagram.Proofs.Edit.ReadElement
import C4Diagram.Proofs.Edit.RelationEnds
import C4Diagram.Proofs.Edit.Relations
import C4Diagram.Proofs.Edit.Session
import C4Diagram.Proofs.Edit.Traced
import C4Diagram.Proofs.Files
import C4Diagram.Proofs.Host
import C4Diagram.Proofs.Line
import C4Diagram.Proofs.LineEnds
import C4Diagram.Proofs.Lint
import C4Diagram.Proofs.Nesting
import C4Diagram.Proofs.Normal.Clean
import C4Diagram.Proofs.Normal.Content
import C4Diagram.Proofs.Normal.Header
import C4Diagram.Proofs.Normal.Idempotence
import C4Diagram.Proofs.Normal.Settled
import C4Diagram.Proofs.PrintedTree
import C4Diagram.Proofs.Renaming
import C4Diagram.Proofs.Render
import C4Diagram.Proofs.Settings
import C4Diagram.Proofs.Sextet
import C4Diagram.Proofs.Spans
import C4Diagram.Proofs.Text.Lines
import C4Diagram.Proofs.Text.Returns
import C4Diagram.Proofs.Text.Search
import C4Diagram.Proofs.Text.Trim
import C4Diagram.Proofs.Text.Utf8
import C4Diagram.Proofs.Views
import C4Diagram.Render
import C4Diagram.Settings.Basic
import C4Diagram.Settings.Toml
import C4Diagram.Settings.Toml.Entries
import C4Diagram.Settings.Toml.Moment
import C4Diagram.Settings.Toml.Number
import C4Diagram.Settings.Toml.Quoted
import C4Diagram.Settings.Value
import C4Diagram.Sextet
import C4Diagram.Span
import C4Diagram.Starter
import C4Diagram.Text.Blank
import C4Diagram.Text.CodeRanges
import C4Diagram.Text.Lines
import C4Diagram.Text.Search
import C4Diagram.Text.Utf8
import C4Diagram.Url.Basic
import C4Diagram.Url.Domain
import C4Diagram.Url.Domain.Composition
import C4Diagram.Url.Domain.Direction
import C4Diagram.Url.Domain.Joining
import C4Diagram.Url.Domain.Kept
import C4Diagram.Url.Domain.Mapping
import C4Diagram.Url.Domain.Marks
import C4Diagram.Url.Host
import C4Diagram.Url.Operations
import C4Diagram.Url.Percent
import C4Diagram.Url.Punycode
import C4Diagram.Url.Read
import C4Diagram.Vocabulary.Element
import C4Diagram.Vocabulary.Level
import C4Diagram.Vocabulary.Relation
import C4Diagram.Vocabulary.Unknown
