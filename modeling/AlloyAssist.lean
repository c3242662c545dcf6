import AlloyAssist.Catalog.Basic
import AlloyAssist.Catalog.File
import AlloyAssist.Catalog.Suggestion
import AlloyAssist.CommandLine.Options
import AlloyAssist.CommandLine.Paths
import AlloyAssist.Document.Basic
import AlloyAssist.Document.Check
import AlloyAssist.Document.Diagnostic
import AlloyAssist.Document.Edit
import AlloyAssist.Document.Indentation
import AlloyAssist.Document.Issue
import AlloyAssist.Document.Outline
import AlloyAssist.Document.Position
import AlloyAssist.Json.Basic
import AlloyAssist.Json.Reader
import AlloyAssist.Json.Writer
import AlloyAssist.Line.Declaration
import AlloyAssist.Line.Kind
import AlloyAssist.Line.Word
import AlloyAssist.Main
import AlloyAssist.Number.Digits
import AlloyAssist.Protocol.Capabilities
import AlloyAssist.Protocol.Encoding
import AlloyAssist.Protocol.Message
import AlloyAssist.Protocol.Params
import AlloyAssist.Protocol.Parts
import AlloyAssist.Protocol.Shape
import AlloyAssist.Protocol.Unsupported
import AlloyAssist.Session.Basic
import AlloyAssist.Session.Frame
import AlloyAssist.Session.Method
import AlloyAssist.Session.Server
import AlloyAssist.Text.Blank
import AlloyAssist.Text.Column
import AlloyAssist.Text.Lines
import AlloyAssist.Text.Pieces
import AlloyAssist.Toml.Quoted
import AlloyAssist.Toml.Reader
import AlloyAssist.Toml.Scalar
import AlloyAssist.Toml.Value
import AlloyAssist.Url.Basic
import AlloyAssist.Url.Domain.Composite
import AlloyAssist.Url.Domain.Direction
import AlloyAssist.Url.Domain.Folding
import AlloyAssist.Url.Domain.Joining
import AlloyAssist.Url.Domain.Mark
import AlloyAssist.Url.Domain.Name
import AlloyAssist.Url.Domain.Normal
import AlloyAssist.Url.Domain.Table
import AlloyAssist.Url.Host
import AlloyAssist.Url.Percent
import AlloyAssist.Url.Punycode
import AlloyAssist.Url.Reader
import AlloyAssist.Workspace.Answer
import AlloyAssist.Workspace.Basic
import AlloyAssist.Proofs.Line.Grammar
import AlloyAssist.Proofs.Text.Splitting
import AlloyAssist.Proofs.Line.Core
import AlloyAssist.Proofs.Document.Stateless
import AlloyAssist.Proofs.Document.Cores
import AlloyAssist.Proofs.Document.Layout
import AlloyAssist.Proofs.Document.Settling
import AlloyAssist.Proofs.Session.Publishing
import AlloyAssist.Proofs.Text.Listing
import AlloyAssist.Proofs.Catalog.Summary
import AlloyAssist.Proofs.Document.Duplicates
import AlloyAssist.Proofs.Workspace.History
import AlloyAssist.Proofs.Session.Isolation
import AlloyAssist.Proofs.Document.Preservation
import AlloyAssist.Proofs.Document.Respelling
import AlloyAssist.Proofs.Document.Silencing
import AlloyAssist.Proofs.Document.Nesting
import AlloyAssist.Proofs.Line.Unambiguous
import AlloyAssist.Proofs.Document.Replacement
import AlloyAssist.Proofs.Document.Placement
import AlloyAssist.Proofs.Text.Column
import AlloyAssist.Proofs.Line.Word
import AlloyAssist.Proofs.Line.Scan
import AlloyAssist.Proofs.Document.Hover
import AlloyAssist.Proofs.Document.Closing
import AlloyAssist.Proofs.Document.MissingValue
import AlloyAssist.Proofs.Document.Problems
import AlloyAssist.Proofs.Document.Depth
import AlloyAssist.Proofs.Document.Floor
import AlloyAssist.Proofs.Document.Skipped
import AlloyAssist.Proofs.Text.Numbering
import AlloyAssist.Proofs.Catalog.Insertion
