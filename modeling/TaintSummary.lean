import TaintSummary.Main
import TaintSummary.Proofs.Requests
import TaintSummary.Proofs.Paging
import TaintSummary.Proofs.Failures
import TaintSummary.Proofs.Specifier.Wrapper
import TaintSummary.Proofs.Specifier.Canonical
import TaintSummary.Proofs.ListingOrder
import TaintSummary.Proofs.Report.Csv
import TaintSummary.Proofs.Report.Json
import TaintSummary.Proofs.Report.ResourceLines
import TaintSummary.Proofs.Selection
import TaintSummary.Proofs.CommandLine.Scan
import TaintSummary.Proofs.CommandLine.Adding
import TaintSummary.Proofs.SelectedReports
import TaintSummary.Proofs.Normalization
import TaintSummary.Proofs.Inventory
import TaintSummary.Proofs.CommandLine.Accepted
import TaintSummary.Proofs.GroupVersion
import TaintSummary.Proofs.Precedence
import TaintSummary.Proofs.CommandLine.Blank
import TaintSummary.Proofs.CommandLine.Arrangement
import TaintSummary.Proofs.Extraction
import TaintSummary.Proofs.ReportOrder
import TaintSummary.Proofs.PrintedLists
import TaintSummary.Proofs.Resolution
import TaintSummary.Proofs.Report.Headers
import TaintSummary.Proofs.Namespace
import TaintSummary.Proofs.Report.Yaml
