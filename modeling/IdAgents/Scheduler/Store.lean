import IdAgents.Library.Table
import IdAgents.Library.Program
import IdAgents.Scheduler.Types

namespace IdAgents
open JsText KeyedTable AtomicProgram

/-- A row of `dispatch_scheduler_queue`, for one team. -/
structure Row extends DispatchDoc where
  targetUrl : Option String
  dedupKey : Option String
  supersedeLink : Option String
  reportCandidateExportStatus : Option String

def rowToDoc (row : Row) : DispatchDoc := row.toDispatchDoc

def isActiveForDedup (row : Row) : Bool :=
  (row.status = .queued || row.status = .inFlight || row.status = .bounced ||
    row.status = .needsClarification || row.status = .resumeDeliveryFailed) &&
  !(row.recoveryStatus = .moot || row.recoveryStatus = .landedReconciled ||
    row.recoveryStatus = .verifiedDone || row.recoveryStatus = .retryDone)

/-- The primary key, and the partial unique index over `(team_id, dedup_key)`. -/
instance : Schema Row String String where
  key row := row.dispatchPhid
  entry row := if isActiveForDedup row then row.dedupKey else none

structure FailureArgs where
  failureKind : FailureKind
  detail : String

structure NeedsClarificationInput where
  agentId : String
  queryId : Option String := none
  question : String
  context : Option Json := none
  urgency : Option Urgency := none
  staleMs : Option Int := none

structure ResumeInput where
  clarificationId : Option String := none
  actor : Option String := none
  answer : String
  instructions : Option Instructions := none

structure ResumeDeliveredInput where
  clarificationId : String
  transport : String
  agentQueryId : Option String := none

structure ResumeFailedInput where
  clarificationId : String
  failureDetail : String

structure RepairInput where
  action : ResumeDeliveryRepairAction
  owner : String
  receipt : String

structure StaleInput where
  clarificationId : String
  ageSeconds : Int

/-- What a claim call knows when it writes a row: its filter, the lane's in-flight count it read,
and how many rows it has already taken. None of it is part of the SQL text. -/
structure ClaimCall where
  filter : QueueEligibleFilter
  inFlight : Nat
  claimed : Nat

def bounceRecord (doc : DispatchDoc) (bounce : BounceInput) (now : Instant) : BounceRecord where
  ts := now
  kind := bounce.kind
  message := bounce.message
  nextAttemptAt := bounce.nextAttemptAt
  attempt := doc.attemptCount

def recoveryRecord (doc : DispatchDoc) (reason : String) (nextAttemptAt now : Instant) :
    BounceRecord where
  ts := now
  kind := "recovery"
  message := reason
  nextAttemptAt := nextAttemptAt
  attempt := doc.attemptCount

variable (input : NeedsClarificationInput)

def staleAt (now : Instant) : Instant :=
  now + input.staleMs.getD (2 * 60 * 60 * 1000)

def clarificationBlocker (id : String) (now : Instant) : ClarificationBlocker where
  clarificationId := id
  agentId := input.agentId
  queryId := input.queryId
  question := input.question
  context := input.context
  urgency := input.urgency.getD .normal
  createdAt := now
  staleAt := staleAt input now

def needsClarificationEvent (id : String) (now : Instant) : ClarificationEvent where
  type := .needsClarification
  clarificationId := id
  ts := now
  agentId := input.agentId
  queryId := input.queryId
  question := input.question
  context := input.context
  urgency := input.urgency.getD .normal
  staleAt := staleAt input now

def resumeEvent (input : ResumeInput) (targetId : String) (now : Instant) : ClarificationEvent where
  type := .resume
  clarificationId := targetId
  ts := now
  actor := input.actor.getD "manager"
  answer := input.answer
  instructions := input.instructions

def resumeDeliveredEvent (input : ResumeDeliveredInput) (now : Instant) : ClarificationEvent where
  type := .resumeDelivered
  clarificationId := input.clarificationId
  ts := now
  transport := input.transport
  deliveredAt := now
  agentQueryId := input.agentQueryId

def resumeDeliveryFailedEvent (input : ResumeFailedInput) (now : Instant) : ClarificationEvent where
  type := .resumeDeliveryFailed
  clarificationId := input.clarificationId
  ts := now
  failureDetail := input.failureDetail

def staleEvent (input : StaleInput) (now : Instant) : ClarificationEvent where
  type := .clarificationStale
  clarificationId := input.clarificationId
  ts := now
  ageSeconds := input.ageSeconds
  surfacedAt := now

/-- The UPDATE statements of the reactor, each with the locals its parameters are computed from. -/
inductive UpdateStmt where
  | runClaim (call : ClaimCall) (phid : String) (newAttempt : Nat) (now : Instant)
  | acceptQueued (phid agentQueryId : String) (now : Instant)
  | acceptInFlight (phid agentQueryId : String) (now : Instant)
  | markDone (phid : String) (now : Instant)
  | doneWithResult (required : SchedulerStatus) (phid : String)
      (resultJson : Option Json) (artifactPath : Option String)
      (promotionResultJson : Option Json) (reportCandidateRequestJson : Option String)
      (now : Instant)
  | markFailed (phid : String) (args : FailureArgs) (now : Instant)
  | markBounced (doc : DispatchDoc) (bounce : BounceInput) (now : Instant)
  | requeueAfterBounce (phid : String) (now : Instant)
  | cancel (doc : DispatchDoc) (detail : String) (now : Instant)
  | markRetryExhausted (doc : DispatchDoc) (detail : String) (now : Instant)
  | markNeedsClarification (doc : DispatchDoc) (input : NeedsClarificationInput)
      (clarificationId : String) (now : Instant)
  | resumeAfterClarification (doc : DispatchDoc) (input : ResumeInput) (targetId : String)
      (now : Instant)
  | markResumeDelivered (doc : DispatchDoc) (input : ResumeDeliveredInput) (now : Instant)
  | markResumeDeliveryFailed (doc : DispatchDoc) (input : ResumeFailedInput) (now : Instant)
  | recordResumeDeliveryRepair (doc : DispatchDoc) (entry : ClarificationEvent) (now : Instant)
  | markClarificationStale (doc : DispatchDoc) (input : StaleInput) (now : Instant)
  | recordPromotionResult (phid : String) (result : Json) (now : Instant)
  | requeueForRecovery (doc : DispatchDoc) (reason : String) (nextAttemptAt now : Instant)
  | markRecoveryLanded (phid : String) (status : RecoveryStatus) (reason : String) (now : Instant)
  | markMoot (phid reason : String) (now : Instant)
  | markSuperseded (phid supersedeLink reason : String) (now : Instant)
  | recordRecoveryOutcome (phid : String) (status : RecoveryStatus) (reason : String)
      (now : Instant)

namespace UpdateStmt

/-- The `dispatch_phid = ?` of the WHERE clause. -/
def phid : UpdateStmt → String
  | runClaim _ phid _ _ | acceptQueued phid _ _ | acceptInFlight phid _ _ | markDone phid _
  | doneWithResult _ phid _ _ _ _ _ | markFailed phid _ _ | requeueAfterBounce phid _
  | recordPromotionResult phid _ _ | markRecoveryLanded phid _ _ _ | markMoot phid _ _
  | markSuperseded phid _ _ _ | recordRecoveryOutcome phid _ _ _ => phid
  | markBounced doc _ _ | cancel doc _ _ | markRetryExhausted doc _ _
  | markNeedsClarification doc _ _ _ | resumeAfterClarification doc _ _ _
  | markResumeDelivered doc _ _ | markResumeDeliveryFailed doc _ _
  | recordResumeDeliveryRepair doc _ _ | markClarificationStale doc _ _
  | requeueForRecovery doc _ _ _ => doc.dispatchPhid

/-- The rest of the WHERE clause: the status the row must still have, where there is one. -/
def guard : UpdateStmt → Row → Bool
  | runClaim .., row => row.status = .queued
  | acceptQueued .., row => row.status = .queued
  | acceptInFlight .., row => row.status = .inFlight
  | markDone .., row => row.status = .inFlight
  | doneWithResult required .., row => row.status = required
  | markFailed .., row => !(row.status = .done || row.status = .cancelled)
  | markBounced doc _ _, row => row.status = doc.status
  | requeueAfterBounce .., row => row.status = .bounced
  | cancel doc _ _, row => row.status = doc.status
  | markRetryExhausted doc _ _, row => row.status = doc.status
  | requeueForRecovery .., row => row.status = .failed
  | markRecoveryLanded .., row => row.status = .failed
  | markNeedsClarification .., _ | resumeAfterClarification .., _ | markResumeDelivered .., _
  | markResumeDeliveryFailed .., _ | recordResumeDeliveryRepair .., _
  | markClarificationStale .., _ | recordPromotionResult .., _ | markMoot .., _
  | markSuperseded .., _ | recordRecoveryOutcome .., _ => true

def set : UpdateStmt → Row → Row
  | runClaim _ _ newAttempt now, row =>
    { row with status := .inFlight, attemptCount := newAttempt, startedAt := some now,
               updatedAt := now }
  | acceptQueued _ agentQueryId now, row =>
    { row with status := .inFlight, attemptCount := row.attemptCount + 1, startedAt := some now,
               updatedAt := now, agentQueryId := some agentQueryId }
  | acceptInFlight _ agentQueryId now, row =>
    { row with agentQueryId := some agentQueryId, updatedAt := now }
  | markDone _ now, row =>
    { row with status := .done, completedAt := some now, updatedAt := now }
  | doneWithResult _ _ resultJson artifactPath promotionResultJson requestJson now, row =>
    { row with status := .done, completedAt := some now, updatedAt := now,
               resultJson := resultJson, artifactPath := artifactPath,
               promotionResultJson := promotionResultJson,
               reportCandidateRequestJson := requestJson,
               reportCandidateExportStatus := requestJson.map fun _ => "pending" }
  | markFailed _ args now, row =>
    { row with status := .failed, failureKind := some args.failureKind,
               failureDetail := some args.detail, completedAt := some now, updatedAt := now }
  | markBounced doc bounce now, row =>
    { row with status := .bounced, bounceCount := row.bounceCount + 1,
               lastBounce := some (bounceRecord doc bounce now),
               bounceHistory := doc.bounceHistory ++ [bounceRecord doc bounce now],
               notBeforeAt := bounce.nextAttemptAt, updatedAt := now,
               allowAutoRetry := bounce.allowAutoRetry = some true || doc.allowAutoRetry,
               provider := bounce.provider.getD row.provider,
               runtime := bounce.runtime.getD row.runtime }
  | requeueAfterBounce _ now, row => { row with status := .queued, updatedAt := now }
  | cancel _ detail now, row =>
    { row with status := .cancelled, failureKind := some .cancelled, failureDetail := some detail,
               completedAt := some now, updatedAt := now }
  | markRetryExhausted doc detail now, row =>
    { row with status := .failed,
               failureKind := some (exhaustedFailureKind (doc.lastBounce.map (·.kind))),
               failureDetail := some detail, completedAt := some now, updatedAt := now }
  | markNeedsClarification doc input id now, row =>
    { row with status := .needsClarification, clarificationId := some id,
               activeClarification := some (clarificationBlocker input id now),
               clarificationHistory :=
                 doc.clarificationHistory ++ [needsClarificationEvent input id now],
               updatedAt := now }
  | resumeAfterClarification doc input targetId now, row =>
    { row with status := .queued, clarificationId := none, activeClarification := none,
               clarificationHistory := doc.clarificationHistory ++ [resumeEvent input targetId now],
               resumeDeliveryStatus := .pending, notBeforeAt := now, updatedAt := now }
  | markResumeDelivered doc input now, row =>
    { row with resumeDeliveryStatus := .delivered,
               clarificationHistory :=
                 doc.clarificationHistory ++ [resumeDeliveredEvent input now],
               agentQueryId := match input.agentQueryId with
                 | some q => if q = "" then row.agentQueryId else some q
                 | none => row.agentQueryId
               updatedAt := now }
  | markResumeDeliveryFailed doc input now, row =>
    { row with status := .resumeDeliveryFailed, resumeDeliveryStatus := .failed,
               clarificationHistory :=
                 doc.clarificationHistory ++ [resumeDeliveryFailedEvent input now],
               failureDetail := some input.failureDetail, updatedAt := now }
  | recordResumeDeliveryRepair doc entry now, row =>
    { row with clarificationHistory := doc.clarificationHistory ++ [entry], updatedAt := now }
  | markClarificationStale doc input now, row =>
    { row with clarificationHistory := doc.clarificationHistory ++ [staleEvent input now],
               updatedAt := now }
  | recordPromotionResult _ result now, row =>
    { row with promotionResultJson := some result, updatedAt := now }
  | requeueForRecovery doc reason nextAttemptAt now, row =>
    { row with status := .bounced, bounceCount := row.bounceCount + 1,
               lastBounce := some (recoveryRecord doc reason nextAttemptAt now),
               bounceHistory :=
                 doc.bounceHistory ++ [recoveryRecord doc reason nextAttemptAt now],
               notBeforeAt := nextAttemptAt, completedAt := none, agentQueryId := none,
               failureKind := none, failureDetail := none, recoveryStatus := .recovering,
               recoveryAttempts := row.recoveryAttempts + 1, recoveryReason := some reason,
               updatedAt := now }
  | markRecoveryLanded _ status reason now, row =>
    { row with status := .done, recoveryStatus := status,
               recoveryReason := some (row.recoveryReason.getD reason),
               completedAt := some (row.completedAt.getD now), updatedAt := now }
  | markMoot _ reason now, row =>
    { row with recoveryStatus := .moot, recoveryReason := some reason, updatedAt := now }
  | markSuperseded _ supersedeLink reason now, row =>
    { row with supersedeLink := some supersedeLink, recoveryStatus := .moot,
               recoveryReason := some reason, updatedAt := now }
  | recordRecoveryOutcome _ status reason now, row =>
    { row with recoveryStatus := status, recoveryReason := some reason, updatedAt := now }

theorem set_dispatchPhid (u : UpdateStmt) (row : Row) :
    (u.set row).dispatchPhid = row.dispatchPhid := by
  cases u <;> rfl

def toUpdate (u : UpdateStmt) : Update Row where
  at_ := u.phid
  guard := u.guard
  set := u.set
  key_set := u.set_dispatchPhid

end UpdateStmt

end IdAgents
