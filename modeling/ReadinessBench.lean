import ReadinessBench.Main
import ReadinessBench.Proofs.Bench.Balanced
import ReadinessBench.Proofs.Bench.Modes
import ReadinessBench.Proofs.Bench.Paired
import ReadinessBench.Proofs.Bench.Refused
import ReadinessBench.Proofs.Cancellation.Families
import ReadinessBench.Proofs.Command.Rejected
import ReadinessBench.Proofs.Deadline.Disarmed
import ReadinessBench.Proofs.Deadline.NoFault
import ReadinessBench.Proofs.Echo.Confluence
import ReadinessBench.Proofs.Echo.Conservation
import ReadinessBench.Proofs.Exchange.InFlight
import ReadinessBench.Proofs.Plan.Wishes
import ReadinessBench.Proofs.Ring.Deaf
import ReadinessBench.Proofs.Ring.Filling
import ReadinessBench.Proofs.Stop.Heeded
import ReadinessBench.Proofs.Threads.Disbanded
import ReadinessBench.Proofs.Time.Words
import ReadinessBench.Proofs.Watch.Confined
import ReadinessBench.Proofs.Watch.Iteration
import ReadinessBench.Proofs.Workload.Faithful
import ReadinessBench.Proofs.Workload.Rates
import ReadinessBench.Proofs.Workload.Written
import ReadinessBench.Proofs.Workshop.Waiting
import ReadinessBench.Session.Play
import ReadinessBench.Session.TimedReads
