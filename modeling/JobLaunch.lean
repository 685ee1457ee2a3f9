import JobLaunch.Launcher.Options
import JobLaunch.Listing.Printer
import JobLaunch.Proofs.Acceptance
import JobLaunch.Proofs.Accounts
import JobLaunch.Proofs.Agreement
import JobLaunch.Proofs.AllOrNothing
import JobLaunch.Proofs.BatchedPoll
import JobLaunch.Proofs.Demands
import JobLaunch.Proofs.ExitReports
import JobLaunch.Proofs.FailedQuery
import JobLaunch.Proofs.FirstPoll
import JobLaunch.Proofs.Forgetting
import JobLaunch.Proofs.GridPrinted
import JobLaunch.Proofs.IdSearch
import JobLaunch.Proofs.JobArrays
import JobLaunch.Proofs.Misconfigured
import JobLaunch.Proofs.Ownership
import JobLaunch.Proofs.PbsPrinted
import JobLaunch.Proofs.Provenance
import JobLaunch.Proofs.Rehearsals
import JobLaunch.Proofs.RehearsedWords
import JobLaunch.Proofs.Script
import JobLaunch.Proofs.ScriptHeader
import JobLaunch.Proofs.SettingsRoundTrip
import JobLaunch.Proofs.SharedRegistry
import JobLaunch.Proofs.Shutdown
import JobLaunch.Proofs.Siblings
import JobLaunch.Proofs.Signalling
import JobLaunch.Proofs.Stopping
import JobLaunch.Proofs.SubmissionPaths
import JobLaunch.Proofs.SubmissionReply
import JobLaunch.Proofs.Subscription
import JobLaunch.Proofs.TakeDown
import JobLaunch.Proofs.TaskIsolation
import JobLaunch.Settings.Json
import JobLaunch.Shell.Token
import JobLaunch.ShutdownSignal
import JobLaunch.Telemetry.Filter
