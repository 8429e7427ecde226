import ExprScan.CommandLine.Run
import ExprScan.Cursor
import ExprScan.Diagnostic.Collector
import ExprScan.Host.FileTree
import ExprScan.Main
import ExprScan.Proofs.MaximalMunch
import ExprScan.Proofs.Reports
import ExprScan.Proofs.SessionSafety
import ExprScan.Proofs.Tiling
import ExprScan.Scan.Session
import ExprScan.Proofs.Composition
import ExprScan.Proofs.PrefixStability
import ExprScan.Proofs.Rescan
import ExprScan.Proofs.FunctionNames
import ExprScan.Proofs.Outcome
import ExprScan.Proofs.CursorZipper
import ExprScan.Proofs.ReportLines
import ExprScan.Proofs.SessionTrace
import ExprScan.Proofs.TokenStream
import ExprScan.Proofs.CollectorHistory
import ExprScan.Proofs.LinePosition
import ExprScan.Proofs.PositionOrder
import ExprScan.Proofs.AccessorReports
import ExprScan.Proofs.ReportOrder
import ExprScan.Proofs.Underline
import ExprScan.Proofs.CaretRange
import ExprScan.Proofs.ListingRows
import ExprScan.Proofs.LocateOutcome
import ExprScan.Proofs.OptionMerge
import ExprScan.Proofs.Progress
import ExprScan.Proofs.RenderTotal
