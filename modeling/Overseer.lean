import Overseer.Main
import Overseer.ScriptedProcess
import Overseer.Proofs.Supervisor.Frame
import Overseer.Proofs.Supervisor.Settling
import Overseer.Proofs.Supervisor.Requests
import Overseer.Proofs.Supervisor.Ticks
import Overseer.Proofs.Supervisor.Turns
import Overseer.Proofs.Supervisor.Watchful
import Overseer.Proofs.Supervisor.Starts
import Overseer.Proofs.Supervisor.Deletion
import Overseer.Proofs.Supervisor.Answers
import Overseer.Proofs.Supervisor.StopWindow
import Overseer.Proofs.Supervisor.AwaitedExit
import Overseer.Proofs.Supervisor.RestartPolicy
import Overseer.Proofs.Supervisor.Tickets
import Overseer.Proofs.Supervisor.Finality
import Overseer.Proofs.Supervisor.Conservation
import Overseer.Proofs.Supervisor.Settlement
import Overseer.Proofs.Supervisor.Accounting
import Overseer.Proofs.Supervisor.Terminations
import Overseer.Proofs.Supervisor.ManualRestart
import Overseer.Proofs.Supervisor.Parking
import Overseer.Proofs.Supervisor.Cadence
import Overseer.Proofs.Custody
import Overseer.Proofs.Supervisor.Custody
import Overseer.Proofs.Holding
import Overseer.Proofs.Supervisor.Timing
import Overseer.Proofs.Supervisor.StartTime
import Overseer.Proofs.ProcessTable
import Overseer.Proofs.Shutdown
import Overseer.Proofs.Supervisor.Muting
import Overseer.Proofs.Supervisor.Notices
import Overseer.Proofs.Supervisor.Unasked
import Overseer.Proofs.Supervisor.Signals
import Overseer.Proofs.Supervisor.Exclusion
import Overseer.Proofs.Supervisor.HandleLoss
import Overseer.Proofs.Supervisor.Cancellation
import Overseer.Proofs.Entry.Fields
import Overseer.Proofs.Budget
import Overseer.Proofs.WatchdogHistory
import Overseer.Proofs.Keyed
import Overseer.Proofs.Entry.RoundTrip
import Overseer.Proofs.Traversal
import Overseer.Proofs.Config.Loading
import Overseer.Proofs.CommandLine.Launch
import Overseer.Proofs.Config.Formats
import Overseer.Proofs.Config.Listing
import Overseer.Proofs.CommandLine.Agreement
import Overseer.Proofs.Expansion.Splits
import Overseer.Proofs.Expansion.Append
import Overseer.Proofs.Entry.Notations
import Overseer.Proofs.Entry.KnownFields
import Overseer.Proofs.Text.ByteOrder
import Overseer.Proofs.Commission
import Overseer.Proofs.Supervisor.Replies
import Overseer.Proofs.Supervisor.RestartAnswers
import Overseer.Proofs.Supervisor.Guards
import Overseer.Proofs.Shutdown.Outcome
import Overseer.Proofs.ProcessControl.Calls
import Overseer.Proofs.ProcessControl.Record
