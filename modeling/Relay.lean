import Relay.Main
import Relay.Proofs.Capture
import Relay.Proofs.CommandLine.Arguments
import Relay.Proofs.CommandLine.ExitCode
import Relay.Proofs.Orchestrator.Consistency
import Relay.Proofs.Orchestrator.Exclusion
import Relay.Proofs.Orchestrator.Guards
import Relay.Proofs.Orchestrator.Ledger
import Relay.Proofs.Orchestrator.Progress
import Relay.Proofs.Orchestrator.RedirectFiles
import Relay.Proofs.Orchestrator.Sequence
import Relay.Proofs.Orchestrator.Starting
import Relay.Proofs.Orchestrator.Stopping
import Relay.Proofs.Pipeline.Acceptance
import Relay.Proofs.Pipeline.Conservation
import Relay.Proofs.Pipeline.Description
import Relay.Proofs.Pipeline.File
import Relay.Proofs.Pipeline.Image
import Relay.Proofs.Pipeline.Piping
import Relay.Proofs.Pipeline.Redirect
import Relay.Proofs.Pipeline.RoundTrip
import Relay.Proofs.Reuse
import Relay.Proofs.Task.Handle
import Relay.Proofs.Task.Interruption
import Relay.Proofs.Transfer
