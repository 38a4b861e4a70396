import IdAgents.Scheduler.AuditLog
import IdAgents.Scheduler.ClaimCap
import IdAgents.Scheduler.AttemptBudget
import IdAgents.Scheduler.SideEffects
import IdAgents.Scheduler.AttemptLink
import IdAgents.Scheduler.SweepGuard
import IdAgents.Outbox.Lease
import IdAgents.Outbox.Delivery
import IdAgents.Outbox.Journal
import IdAgents.Agent.Outcome
import IdAgents.Scheduler.CloseoutRetry
import IdAgents.Scheduler.ResumeOnce
import IdAgents.Recurrences.Passes
import IdAgents.MergeQueue.Stranded
import IdAgents.MergeQueue.Submission
import IdAgents.Checkins.Terminal
import IdAgents.Scheduling.Windows
import IdAgents.Promotion.Landing
import IdAgents.WorkLeases.Fencing
import IdAgents.Workspaces.Reaping
import IdAgents.Scheduler.Dedup
import IdAgents.Orchestration.LogicalWork
import IdAgents.Orchestration.CloseoutAgreement
import IdAgents.Orchestration.StateRaces
import IdAgents.Outputs.ClientIdempotence
import IdAgents.WorkspaceSync.Recovery
import IdAgents.Workspaces.Allocation
import IdAgents.Inbox.Runs
import IdAgents.Inbox.Entries
import IdAgents.Outputs.DetailTeams
import IdAgents.Loops.Runs
import IdAgents.DocModel.LogSoundness
import IdAgents.Orchestration.DependencyRaces
import IdAgents.Decisions.Ingest
import IdAgents.Decisions.Strangers
import IdAgents.LocalSearch.ReadMutationStores
import IdAgents.Supervisor.Watcher
import IdAgents.Outputs.Parity
import IdAgents.Orchestration.AutoPromotion
import IdAgents.Orchestration.SkippedRows
import IdAgents.UsageMeter.Windows
import IdAgents.UsageMeter.Admission
import IdAgents.Workspaces.Closeout
import IdAgents.Orchestration.TimerLoop
import IdAgents.Graph.Projection
import IdAgents.Graph.Release
import IdAgents.Orchestration.AuditedMoves
import IdAgents.Orchestration.LifecycleCycles
import IdAgents.Graph.PlanRetries
import IdAgents.Graph.PlanOrder
import IdAgents.Agent.ReplyRuns
import IdAgents.Scheduler.ClaimSelection
import IdAgents.Outputs.InboxPages
import IdAgents.ReportPublishing.Outbox
import IdAgents.Outputs.DraftRevisions
import IdAgents.Scheduler.ResetAt
import IdAgents.Scheduler.RuntimeDrift
import IdAgents.Recurrences.SeriesLaw
import IdAgents.Agent.RuntimeFailure
import IdAgents.Scheduling.Tiling
import IdAgents.TaskComments.ExactlyOnce
import IdAgents.AgentSharing.GrantRuns
import IdAgents.Loops.Rollup
import IdAgents.Inbox.RouteRaces
import IdAgents.Agent.Watchdog
import IdAgents.DispatchVerification.DoneGate
import IdAgents.Telemetry.Rollup
