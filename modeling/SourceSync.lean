import SourceSync.Main
import SourceSync.Proofs.Causes
import SourceSync.Proofs.CommandLine.Reporting
import SourceSync.Proofs.Connector.Checking
import SourceSync.Proofs.Connector.Completion
import SourceSync.Proofs.Connector.Isolation
import SourceSync.Proofs.Connector.Parts
import SourceSync.Proofs.Connector.Selection
import SourceSync.Proofs.Connector.Tokens
import SourceSync.Proofs.Cursor
import SourceSync.Proofs.Cursor.Numbers
import SourceSync.Proofs.Http.Delays
import SourceSync.Proofs.Http.Retryable
import SourceSync.Proofs.Http.SameHost
import SourceSync.Proofs.Http.ServerErrors
import SourceSync.Proofs.Json.Walks
import SourceSync.Proofs.Masking.Lines
import SourceSync.Proofs.Masking.Overlap
import SourceSync.Proofs.Masking.Writer
import SourceSync.Proofs.State.History
import SourceSync.Proofs.Sync.Cadence
import SourceSync.Proofs.Sync.Delivery
import SourceSync.Proofs.Sync.Failure
import SourceSync.Proofs.Sync.FullRefresh
import SourceSync.Proofs.Sync.OnDemand
import SourceSync.Proofs.Sync.Snapshot
import SourceSync.Proofs.Sync.Splitting
import SourceSync.Proofs.Template.Waiting
import SourceSync.Proofs.Wire
