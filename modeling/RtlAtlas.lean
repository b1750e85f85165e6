import RtlAtlas.Answer
import RtlAtlas.Command.Arguments
import RtlAtlas.Command.Basic
import RtlAtlas.Command.Integer
import RtlAtlas.Command.Report
import RtlAtlas.Command.Run
import RtlAtlas.Command.Show
import RtlAtlas.Config
import RtlAtlas.Config.Load
import RtlAtlas.Console.Emoji
import RtlAtlas.Console.Layout
import RtlAtlas.Console.Literal
import RtlAtlas.Console.Markup
import RtlAtlas.Console.Style
import RtlAtlas.Console.Width
import RtlAtlas.Design
import RtlAtlas.Digest.Sha1
import RtlAtlas.Digest.Sha256
import RtlAtlas.Digest.Word
import RtlAtlas.Error
import RtlAtlas.FileTree
import RtlAtlas.Graph.Basic
import RtlAtlas.Graph.Build
import RtlAtlas.Graph.Chain
import RtlAtlas.Graph.Cycle
import RtlAtlas.Graph.Describe
import RtlAtlas.Graph.Dot
import RtlAtlas.Graph.Impact
import RtlAtlas.Graph.Route
import RtlAtlas.Graph.Tree
import RtlAtlas.Index.Basic
import RtlAtlas.Index.Update
import RtlAtlas.Json.Basic
import RtlAtlas.Json.Parser
import RtlAtlas.Json.Printer
import RtlAtlas.Json.Shape
import RtlAtlas.Json.Spelling
import RtlAtlas.Main
import RtlAtlas.Number.Double
import RtlAtlas.Number.Shortest
import RtlAtlas.OrderedMap
import RtlAtlas.Path
import RtlAtlas.Path.Pattern
import RtlAtlas.Proofs.Command.Force
import RtlAtlas.Proofs.Command.Output
import RtlAtlas.Proofs.Command.Paths
import RtlAtlas.Proofs.Command.Runs
import RtlAtlas.Proofs.Console.Marked
import RtlAtlas.Proofs.FileTree
import RtlAtlas.Proofs.FileTree.Place
import RtlAtlas.Proofs.FileTree.Reopen
import RtlAtlas.Proofs.Graph.Chain
import RtlAtlas.Proofs.Graph.Circle
import RtlAtlas.Proofs.Graph.Content
import RtlAtlas.Proofs.Graph.Coverage
import RtlAtlas.Proofs.Graph.Critical
import RtlAtlas.Proofs.Graph.Cycle
import RtlAtlas.Proofs.Graph.Depth
import RtlAtlas.Proofs.Graph.FirstRoute
import RtlAtlas.Proofs.Graph.Flows
import RtlAtlas.Proofs.Graph.Impact
import RtlAtlas.Proofs.Graph.Route
import RtlAtlas.Proofs.Graph.Shape
import RtlAtlas.Proofs.Graph.Symmetry
import RtlAtlas.Proofs.Graph.Tree
import RtlAtlas.Proofs.Graph.Unfolding
import RtlAtlas.Proofs.Index.Alike
import RtlAtlas.Proofs.Index.Copies
import RtlAtlas.Proofs.Index.Listing
import RtlAtlas.Proofs.Index.Refresh
import RtlAtlas.Proofs.Index.Run
import RtlAtlas.Proofs.Index.Writes
import RtlAtlas.Proofs.Order
import RtlAtlas.Proofs.OrderedMap
import RtlAtlas.Proofs.Path.Text
import RtlAtlas.Proofs.Procedure
import RtlAtlas.Proofs.Relation
import RtlAtlas.Proofs.Result
import RtlAtlas.Proofs.Search.Answer
import RtlAtlas.Proofs.Search.Distance
import RtlAtlas.Proofs.Search.Event
import RtlAtlas.Proofs.Search.Grep
import RtlAtlas.Proofs.Search.Limit
import RtlAtlas.Proofs.Search.Ranking
import RtlAtlas.Proofs.Search.Scan
import RtlAtlas.Proofs.Source.Ansi.Basic
import RtlAtlas.Proofs.Source.Ansi.Cells
import RtlAtlas.Proofs.Source.Ansi.Header
import RtlAtlas.Proofs.Source.Ansi.RoundTrip
import RtlAtlas.Proofs.Source.Ansi.Text
import RtlAtlas.Proofs.Source.Comment
import RtlAtlas.Proofs.Source.ConnectionList
import RtlAtlas.Proofs.Source.Cursor
import RtlAtlas.Proofs.Source.Declarator
import RtlAtlas.Proofs.Source.Declared
import RtlAtlas.Proofs.Source.Dimension
import RtlAtlas.Proofs.Source.Found
import RtlAtlas.Proofs.Source.Frame
import RtlAtlas.Proofs.Source.Instantiation.Line
import RtlAtlas.Proofs.Source.Instantiation.Recorded
import RtlAtlas.Proofs.Source.Instantiation.Statement
import RtlAtlas.Proofs.Source.Lead
import RtlAtlas.Proofs.Source.LineRange
import RtlAtlas.Proofs.Source.Literal.Binding
import RtlAtlas.Proofs.Source.Literal.Bracket
import RtlAtlas.Proofs.Source.Literal.Collapse
import RtlAtlas.Proofs.Source.Literal.Cursor
import RtlAtlas.Proofs.Source.Literal.Declaration
import RtlAtlas.Proofs.Source.Literal.Declarator
import RtlAtlas.Proofs.Source.Literal.Exchange
import RtlAtlas.Proofs.Source.Literal.Extract
import RtlAtlas.Proofs.Source.Literal.Mode
import RtlAtlas.Proofs.Source.Literal.Pattern
import RtlAtlas.Proofs.Source.Literal.Scan
import RtlAtlas.Proofs.Source.Matching
import RtlAtlas.Proofs.Source.Names
import RtlAtlas.Proofs.Source.Nesting
import RtlAtlas.Proofs.Source.NonAnsi.Basic
import RtlAtlas.Proofs.Source.NonAnsi.Body
import RtlAtlas.Proofs.Source.NonAnsi.Ports
import RtlAtlas.Proofs.Source.NonAnsi.Text
import RtlAtlas.Proofs.Source.Passage
import RtlAtlas.Proofs.Source.PortMarks
import RtlAtlas.Proofs.Source.Reserved
import RtlAtlas.Proofs.Source.SearchAll
import RtlAtlas.Proofs.Source.Slot
import RtlAtlas.Proofs.Source.Splitting
import RtlAtlas.Proofs.Source.SymbolLines
import RtlAtlas.Proofs.Source.Token
import RtlAtlas.Proofs.Store.GraphRows
import RtlAtlas.Proofs.Store.Reload
import RtlAtlas.Proofs.Store.SavedGraph
import RtlAtlas.Proofs.Symbol.Identity
import RtlAtlas.Proofs.Symbol.Plain
import RtlAtlas.Proofs.Symbol.Table
import RtlAtlas.Proofs.Text.Column
import RtlAtlas.Proofs.Text.Lines
import RtlAtlas.Proofs.Text.Lower
import RtlAtlas.Proofs.Text.Token
import RtlAtlas.Proofs.Text.Utf8
import RtlAtlas.Proofs.Workspace.Coherence
import RtlAtlas.Proofs.Workspace.Failure
import RtlAtlas.Proofs.Workspace.GraphCache
import RtlAtlas.Proofs.Workspace.LastWriter
import RtlAtlas.Proofs.Workspace.Limit
import RtlAtlas.Proofs.Workspace.Overlay
import RtlAtlas.Proofs.Workspace.Reach
import RtlAtlas.Proofs.Workspace.Refresh
import RtlAtlas.Proofs.Workspace.Reopen
import RtlAtlas.Proofs.Workspace.SymbolPlaces
import RtlAtlas.Proofs.Workspace.TextSearch
import RtlAtlas.Search.Backend
import RtlAtlas.Search.Distance
import RtlAtlas.Search.Engine
import RtlAtlas.Search.Event
import RtlAtlas.Search.External
import RtlAtlas.Search.Installed
import RtlAtlas.Search.Match
import RtlAtlas.Search.Score
import RtlAtlas.Service.Reply
import RtlAtlas.Service.Request
import RtlAtlas.Slice
import RtlAtlas.Source.Binding
import RtlAtlas.Source.Bracket
import RtlAtlas.Source.Comment
import RtlAtlas.Source.Cursor
import RtlAtlas.Source.Declarator
import RtlAtlas.Source.Extraction
import RtlAtlas.Source.Keyword
import RtlAtlas.Source.Offset
import RtlAtlas.Store.Database
import RtlAtlas.Store.Snapshot
import RtlAtlas.Store.Storage
import RtlAtlas.Symbol.Table
import RtlAtlas.Text.Blank
import RtlAtlas.Text.Digit
import RtlAtlas.Text.Find
import RtlAtlas.Text.Line
import RtlAtlas.Text.Lower
import RtlAtlas.Text.Malformed
import RtlAtlas.Text.Quoted
import RtlAtlas.Text.Range
import RtlAtlas.Text.Surrogate
import RtlAtlas.Text.Utf8
import RtlAtlas.Text.Word
import RtlAtlas.Toml.Moment
import RtlAtlas.Toml.Parser
import RtlAtlas.Toml.Value
import RtlAtlas.Workspace
