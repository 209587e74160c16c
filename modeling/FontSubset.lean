import FontSubset.Main
import FontSubset.Proofs.Batch.Accounting
import FontSubset.Proofs.Batch.ExitCodes
import FontSubset.Proofs.Batch.Log
import FontSubset.Proofs.Batch.Rehearsal
import FontSubset.Proofs.CommandLine.ExitStatus
import FontSubset.Proofs.CommandLine.Failures
import FontSubset.Proofs.CommandLine.Precedence
import FontSubset.Proofs.CommandLine.ReportFormat
import FontSubset.Proofs.Environment.Restriction
import FontSubset.Proofs.Files.Candidates
import FontSubset.Proofs.Files.Roots
import FontSubset.Proofs.Options.Spelling
import FontSubset.Proofs.Report.Acceptance
import FontSubset.Proofs.Report.Columns
import FontSubset.Proofs.Report.RoundTrip
import FontSubset.Proofs.Text.Boundary
import FontSubset.Report.Decode
