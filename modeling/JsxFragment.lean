import JsxFragment.Text.Blank
import JsxFragment.Text.Case
import JsxFragment.Text.EntityTable
import JsxFragment.Text.Newline
import JsxFragment.Text.Quoted
import JsxFragment.Text.Split
import JsxFragment.Text.WordChar
import JsxFragment.Text.Utf8
import JsxFragment.Text.Entity
import JsxFragment.Number.Shortest
import JsxFragment.Token.Lexer
import JsxFragment.Node.Nesting
import JsxFragment.Json.Reader
import JsxFragment.Json.Nesting
import JsxFragment.Json.Writer
import JsxFragment.Jsx.Layout
import JsxFragment.Config.Reader
import JsxFragment.Config.Dump
import JsxFragment.Conversion.Log
import JsxFragment.Metrics
import JsxFragment.Session
import JsxFragment.Node.RepairRecord
import JsxFragment.CommandLine.Run
import JsxFragment.Main
import JsxFragment.Proofs.Jsx.RoundTrip
import JsxFragment.Proofs.Node.EventRun
import JsxFragment.Proofs.Node.MarkupNesting
import JsxFragment.Proofs.Node.Faultless
import JsxFragment.Proofs.Node.RawContent
import JsxFragment.Proofs.Conversion.Failure
import JsxFragment.Proofs.Jsx.WrittenTags
import JsxFragment.Proofs.Node.DepthLimit
import JsxFragment.Proofs.Token.Concatenation
import JsxFragment.Proofs.Token.Location
import JsxFragment.Proofs.Jsx.WrittenAttributes
import JsxFragment.Proofs.Token.RawTextEnd
import JsxFragment.Proofs.Conversion.SessionRun
import JsxFragment.Proofs.Config.RoundTrip
import JsxFragment.Proofs.CommandLine.AllOrNothing
import JsxFragment.Proofs.Token.TagSpelling
import JsxFragment.Proofs.Node.TagLedger
import JsxFragment.Proofs.Conversion.Reports
import JsxFragment.Proofs.Jsx.SplitText
import JsxFragment.Proofs.Jsx.FormattingBlanks
import JsxFragment.Proofs.Jsx.Losses
import JsxFragment.Proofs.Jsx.StyleObject
import JsxFragment.Proofs.Jsx.EmptyText
import JsxFragment.Proofs.Jsx.Letters
import JsxFragment.Proofs.Jsx.KeptComments
import JsxFragment.Proofs.Jsx.StyleCut
import JsxFragment.Proofs.Jsx.EmptyStyle
import JsxFragment.Proofs.Jsx.StyleKey
import JsxFragment.Proofs.Config.FieldUpdate
import JsxFragment.Proofs.Jsx.LeafEnds
