import Sigil.Text.Basic
import Sigil.Text.Blank
import Sigil.Text.CharSet
import Sigil.Text.Letter
import Sigil.Text.Printable
import Sigil.Text.Case
import Sigil.Table
import Sigil.Reference
import Sigil.Lexeme
import Sigil.Frame
import Sigil.Brackets
import Sigil.Finding
import Sigil.Document
import Sigil.Decimal.Shortest
import Sigil.Json.Basic
import Sigil.Json.Reader
import Sigil.Json.Record
import Sigil.Arithmetic.Token
import Sigil.Arithmetic.Evaluator
import Sigil.Arithmetic.Binary64
import Sigil.Arithmetic.Content
import Sigil.Pattern.Fault
import Sigil.Pattern.Tree
import Sigil.Pattern.Cursor
import Sigil.Pattern.Escape
import Sigil.Pattern.Class
import Sigil.Pattern.Reader
import Sigil.Pattern.Property
import Sigil.Pattern.Validity
import Sigil.Argument.Basic
import Sigil.Argument.Path
import Sigil.Argument.Regex
import Sigil.Argument.Check
import Sigil.Style
import Sigil.Catalog.Definition
import Sigil.Catalog.ServiceEntry
import Sigil.Catalog.Basic
import Sigil.Catalog.Builtin
import Sigil.Scan
import Sigil.Check
import Sigil.Cursor
import Sigil.Completion.Suggestion
import Sigil.Completion
import Sigil.ReadFailure
import Sigil.Report
import Sigil.Folder
import Sigil.Server.Uri
import Sigil.Server.Position
import Sigil.Server.Message
import Sigil.Server.Params
import Sigil.Server.Basic
import Sigil.Server.Connection
import Sigil.Server.Wire
import Sigil.CommandLine.Basic
import Sigil.CommandLine.Run
import Sigil.Main
import Sigil.Proofs.BracketMatching
import Sigil.Proofs.Tokenization
import Sigil.Proofs.References
import Sigil.Proofs.BracketEvents
import Sigil.Proofs.ArgumentLists
import Sigil.Proofs.PathArguments
import Sigil.Proofs.PatternReports
import Sigil.Proofs.PatternArguments
import Sigil.Proofs.ArgumentFindings
import Sigil.Proofs.FindingOrder
import Sigil.Proofs.ScanFindings
import Sigil.Proofs.ScanComposition
import Sigil.Proofs.Arithmetic.Evaluation
import Sigil.Proofs.Arithmetic.Contents
import Sigil.Proofs.Arithmetic.Failures
import Sigil.Proofs.Arithmetic.Verdicts
import Sigil.Proofs.TextSpans
import Sigil.Proofs.TextLines
import Sigil.Proofs.FindingSpans
import Sigil.Proofs.ReportPlaces
import Sigil.Proofs.ReportMarks
import Sigil.Proofs.CursorBrackets
import Sigil.Proofs.Server.History
import Sigil.Proofs.Server.Isolation
import Sigil.Proofs.Server.Positions
import Sigil.Proofs.Server.Replies
import Sigil.Proofs.StyleFindings
import Sigil.Proofs.DefaultArguments
import Sigil.Proofs.CompletionTemplates
import Sigil.Proofs.Tables
import Sigil.Proofs.Json.RoundTrip
import Sigil.Proofs.Json.Records
import Sigil.Proofs.CatalogText
import Sigil.Proofs.CatalogLookup
import Sigil.Proofs.BracketOwners
import Sigil.Proofs.GroupExtents
import Sigil.Proofs.AttachedUnits
import Sigil.Proofs.StyleRegions
import Sigil.Proofs.Arithmetic.Machine
import Sigil.Proofs.Arithmetic.Bounds
import Sigil.Proofs.Arithmetic.TokenPlaces
import Sigil.Proofs.Arithmetic.ErrorPlaces
import Sigil.Proofs.Arithmetic.TokenRows
import Sigil.Proofs.Arithmetic.Tokens
import Sigil.Proofs.FrameHistory
