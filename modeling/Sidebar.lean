import Sidebar.Overflow
import Sidebar.Geometry
import Sidebar.Binary32
import Sidebar.Color.Basic
import Sidebar.Color.Hex
import Sidebar.Border
import Sidebar.Typography
import Sidebar.Text.Lowercase
import Sidebar.Logging.Level
import Sidebar.Decimal.Shortest
import Sidebar.Decimal.Notation
import Sidebar.Text.Utf8
import Sidebar.Text.Ranges
import Sidebar.Text.Printable
import Sidebar.Text.GraphemeExtend
import Sidebar.Text.Blank
import Sidebar.Text.Quoted
import Sidebar.Json.Error
import Sidebar.Json.Cursor
import Sidebar.Json.Number
import Sidebar.Json.Str
import Sidebar.Json.Skip
import Sidebar.Json.Schema
import Sidebar.Json.Write
import Sidebar.Json.Document
import Sidebar.Config.Basic
import Sidebar.Config.Json
import Sidebar.Logging.Directives
import Sidebar.Failure
import Sidebar.Config.Load
import Sidebar.Shared
import Sidebar.Config.Manager
import Sidebar.Logging.Setup
import Sidebar.Signal
import Sidebar.Widget.Spec
import Sidebar.Widget.Builder
import Sidebar.Widget.Markup
import Sidebar.Widget.Instance
import Sidebar.Widget.Debug
import Sidebar.Panel.Basic
import Sidebar.Panel.Layout
import Sidebar.Panel.Assembly
import Sidebar.Panel.Strategy
import Sidebar.Demo
import Sidebar.Main
import Sidebar.Proofs.Sharing
import Sidebar.Proofs.StrategyRuns
import Sidebar.Proofs.GridPositions
import Sidebar.Proofs.HexRoundTrip
import Sidebar.Proofs.ConfigSharing
import Sidebar.Proofs.Notifications
import Sidebar.Proofs.WidgetCopies
import Sidebar.Proofs.JsonObjects
import Sidebar.Proofs.ConfigText
import Sidebar.Proofs.GridGrowth
import Sidebar.Proofs.HexGrammar
import Sidebar.Proofs.ScalarGrammar
import Sidebar.Proofs.RecordGrammar
import Sidebar.Proofs.ConfigGrammar
import Sidebar.Proofs.LastSetterWins
import Sidebar.Proofs.GridAppend
import Sidebar.Proofs.DirectiveGrammar
import Sidebar.Proofs.LastChange
import Sidebar.Proofs.StackSpacers
import Sidebar.Proofs.CaseFolding
import Sidebar.Proofs.MarkupDocuments
