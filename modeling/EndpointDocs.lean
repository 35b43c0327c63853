import EndpointDocs.Main
import EndpointDocs.Program.Run
import EndpointDocs.Proofs.Block.Strictness
import EndpointDocs.Proofs.Text.Ends
import EndpointDocs.Proofs.Text.Lines
import EndpointDocs.Proofs.Block.Marker
import EndpointDocs.Proofs.Block.PlainMarker
import EndpointDocs.Proofs.Section.Pieces
import EndpointDocs.Proofs.Block.Accounting
import EndpointDocs.Proofs.Numeral.Decimal
import EndpointDocs.Proofs.Section.Content
import EndpointDocs.Proofs.Section.Keyword
import EndpointDocs.Proofs.Section.Signature
import EndpointDocs.Proofs.Section.StatusCode
import EndpointDocs.Proofs.Section.Writing
import EndpointDocs.Proofs.Comment.Segments
import EndpointDocs.Proofs.Section.BlankEnds
import EndpointDocs.Proofs.Block.WrittenComments
import EndpointDocs.Proofs.Comment.Stacks
import EndpointDocs.Proofs.Program.WrittenSource
import EndpointDocs.Proofs.Section.Kinds
import EndpointDocs.Proofs.Document.Rows
import EndpointDocs.Proofs.Document.Tags
import EndpointDocs.Proofs.Document.Shown
import EndpointDocs.Proofs.Value.Json.Tokens
import EndpointDocs.Proofs.Value.Json.Reading
import EndpointDocs.Proofs.Document.Json
import EndpointDocs.Proofs.Path.Document
import EndpointDocs.Proofs.Path.DocumentNames
import EndpointDocs.Proofs.Program.FileStore
import EndpointDocs.Proofs.Program.Change
import EndpointDocs.Proofs.Program.Inputs
import EndpointDocs.Proofs.Program.Gathering
import EndpointDocs.Proofs.Program.Documents
import EndpointDocs.Proofs.Program.Repetition
import EndpointDocs.Proofs.Text.LineEnds
import EndpointDocs.Proofs.Block.LineEnds
import EndpointDocs.Proofs.Comment.LineEnds
import EndpointDocs.Proofs.Program.LineEnds
import EndpointDocs.Proofs.Section.WellFormed
import EndpointDocs.Proofs.Comment.Spans
import EndpointDocs.Proofs.Program.EarlyFailures
import EndpointDocs.Proofs.Settings.Winners
import EndpointDocs.Proofs.Comment.Grouping
import EndpointDocs.Proofs.Comment.NormalForm
import EndpointDocs.Proofs.Block.MarkedLines
import EndpointDocs.Proofs.Block.Directives
import EndpointDocs.Proofs.Section.SignatureFields
import EndpointDocs.Proofs.Section.Recognition
import EndpointDocs.Proofs.Section.PluralHeading
import EndpointDocs.Proofs.Document.Indentation
import EndpointDocs.Proofs.Document.Layout
import EndpointDocs.Proofs.Document.CodeBlocks
import EndpointDocs.Proofs.Document.ParameterLine
import EndpointDocs.Proofs.Program.Arguments
import EndpointDocs.Proofs.Section.Division
import EndpointDocs.Proofs.Section.Stripping
