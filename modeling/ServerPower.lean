import ServerPower.Main
import ServerPower.Proofs.AcceptedReports
import ServerPower.Proofs.Accounts
import ServerPower.Proofs.Addressed
import ServerPower.Proofs.BaseUrl
import ServerPower.Proofs.Bounded
import ServerPower.Proofs.Breakdowns
import ServerPower.Proofs.Cancelled
import ServerPower.Proofs.ChangeRequests
import ServerPower.Proofs.Completion
import ServerPower.Proofs.Decorated
import ServerPower.Proofs.DirectExecution
import ServerPower.Proofs.Ended
import ServerPower.Proofs.ExitStatus
import ServerPower.Proofs.FailedQuery
import ServerPower.Proofs.FailedSubmission
import ServerPower.Proofs.FailedTask
import ServerPower.Proofs.Inspected
import ServerPower.Proofs.Late
import ServerPower.Proofs.Overlapping
import ServerPower.Proofs.OwnTask
import ServerPower.Proofs.Polling
import ServerPower.Proofs.Reachable
import ServerPower.Proofs.ReadBack
import ServerPower.Proofs.Recorded
import ServerPower.Proofs.Renewed
import ServerPower.Proofs.Rooted
import ServerPower.Proofs.Secured
import ServerPower.Proofs.SlowWorker
import ServerPower.Proofs.TypedSettings
import ServerPower.Proofs.Undegraded
