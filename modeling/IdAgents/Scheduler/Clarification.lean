import IdAgents.Scheduler.Reactor

namespace IdAgents
open JsText KeyedTable AtomicProgram

def mintClarificationId : Prog String := Program.stmt (S := sql) .mintClarificationId

def requireDoc (operation phid : String) : Prog DispatchDoc := do
  match ← getByPhid phid with
  | some doc => return doc
  | none => conflict s!"{operation}: dispatch {phid} not found"

def postUpdateRead (operation phid : String) : Prog DispatchDoc := do
  match ← getByPhid phid with
  | some doc => return doc
  | none => conflict s!"{operation}: post-update read failed"

structure NeedsClarificationResult where
  doc : DispatchDoc
  clarificationId : String
  idempotent : Bool

/-- The open clarification a repeated question within five minutes is answered with. -/
def idempotentClarification (doc : DispatchDoc) (input : NeedsClarificationInput) (now : Instant) :
    Option ClarificationBlocker :=
  doc.activeClarification.filter fun active =>
    doc.status = .needsClarification && active.agentId = input.agentId &&
      active.question = input.question && now - active.createdAt ≤ 5 * 60 * 1000

variable (phid : String)

def markNeedsClarification (input : NeedsClarificationInput) : Prog NeedsClarificationResult := do
  let doc ← requireDoc "markNeedsClarification" phid
  if isTerminal doc.status then
    conflict s!"markNeedsClarification cannot run from terminal {doc.status.text}"
  else
    let now ← nowFn
    match idempotentClarification doc input now with
    | some active => return ⟨doc, active.clarificationId, true⟩
    | none =>
      let clarificationId ← mintClarificationId
      let _ ← execUpdate (.markNeedsClarification doc input clarificationId now)
      let updated ← postUpdateRead "markNeedsClarification" phid
      return ⟨updated, clarificationId, false⟩

/-- The shape of the other operations on an open dispatch: their UPDATE compares nothing. -/
def writeUnguarded (operation phid : String) (reject : DispatchDoc → Option String)
    (write : DispatchDoc → Instant → UpdateStmt) : Prog DispatchDoc := do
  let doc ← requireDoc operation phid
  match reject doc with
  | some message => conflict message
  | none =>
    let now ← nowFn
    let _ ← execUpdate (write doc now)
    postUpdateRead operation phid

variable (input : ResumeInput)

/-- The clarification a resume answers: the one it names, else the active one. -/
def resumeTarget (doc : DispatchDoc) : String :=
  input.clarificationId.getD ((doc.activeClarification.map (·.clarificationId)).getD "")

def resumeRejection (doc : DispatchDoc) : Option String :=
  if doc.status ≠ .needsClarification then
    some s!"resumeAfterClarification requires needs_clarification, was {doc.status.text}"
  else match doc.activeClarification with
    | none => some "resumeAfterClarification: no active clarification"
    | some active => rejectIf (resumeTarget input doc ≠ active.clarificationId)
        s!"resumeAfterClarification: clarification_id mismatch (active={active.clarificationId}, requested={resumeTarget input doc})"

def resumeAfterClarification : Prog DispatchDoc :=
  writeUnguarded "resumeAfterClarification" phid (resumeRejection input)
    fun doc now => .resumeAfterClarification doc input (resumeTarget input doc) now

def markResumeDelivered (input : ResumeDeliveredInput) : Prog DispatchDoc :=
  writeUnguarded "markResumeDelivered" phid (fun _ => none)
    fun doc now => .markResumeDelivered doc input now

def markResumeDeliveryFailed (input : ResumeFailedInput) : Prog DispatchDoc :=
  writeUnguarded "markResumeDeliveryFailed" phid (fun _ => none)
    fun doc now => .markResumeDeliveryFailed doc input now

def repairEntry (doc : DispatchDoc) (input : RepairInput) (now : Instant) : ClarificationEvent where
  type := .resumeDeliveryRepairRecorded
  clarificationId :=
    ((doc.clarificationHistory.reverse.find? (·.type = .resumeDeliveryFailed)).map
      (·.clarificationId)).getD (doc.clarificationId.getD "")
  ts := now
  repairAction := input.action
  owner := input.owner
  receipt := input.receipt

def recordResumeDeliveryRepair (input : RepairInput) : Prog (DispatchDoc × ClarificationEvent) := do
  let doc ← requireDoc "recordResumeDeliveryRepair" phid
  if doc.status ≠ .resumeDeliveryFailed then
    conflict s!"dispatch {phid} is {doc.status.text}, not resume_delivery_failed"
  else if 20 ≤ doc.clarificationHistory.countP (·.type = .resumeDeliveryRepairRecorded) then
    conflict "resume delivery repair ledger is full (20 entries)"
  else
    let now ← nowFn
    let entry := repairEntry doc input now
    let _ ← execUpdate (.recordResumeDeliveryRepair doc entry now)
    let updated ← postUpdateRead "recordResumeDeliveryRepair" phid
    return (updated, entry)

def markClarificationStale (input : StaleInput) : Prog DispatchDoc :=
  writeUnguarded "markClarificationStale" phid (fun _ => none)
    fun doc now => .markClarificationStale doc input now

def recordPromotionResult (result : Json) : Prog DispatchDoc :=
  writeUnguarded "recordPromotionResult" phid (fun _ => none)
    fun _ now => .recordPromotionResult phid result now

/-- `true` says the dispatch was found failed, whatever the UPDATE then matched. -/
def requeueForRecovery (phid reason : String) (nextAttemptAt : Instant) : Prog Bool := do
  match ← getByPhid phid with
  | none => return false
  | some doc =>
    if doc.status ≠ .failed then return false
    else
      let now ← nowFn
      let _ ← execUpdate (.requeueForRecovery doc reason nextAttemptAt now)
      return true

def markRecoveryLanded (recoveryStatus : Option RecoveryStatus)
    (reason : Option String) : Prog Unit := do
  let now ← nowFn
  let _ ← execUpdate (.markRecoveryLanded phid (recoveryStatus.getD .landedReconciled)
    (reason.getD "reconciled: landed evidence present") now)

def markMoot (phid reason : String) : Prog (Option DispatchDoc) := do
  let now ← nowFn
  let _ ← execUpdate (.markMoot phid reason now)
  getByPhid phid

def markSuperseded (phid supersedeLink reason : String) : Prog (Option DispatchDoc) := do
  let now ← nowFn
  let _ ← execUpdate (.markSuperseded phid supersedeLink reason now)
  getByPhid phid

inductive DispatchRecoveryDecision where
  | landed | retryable | unsafeSideEffect | exhausted | needsOperator
deriving DecidableEq, Repr

def recoveryStatusForDecision : DispatchRecoveryDecision → RecoveryStatus
  | .unsafeSideEffect => .unsafeSideEffect
  | .exhausted => .exhausted
  | _ => .needsOperator

def recordRecoveryOutcome (decision : DispatchRecoveryDecision) (reason : String) : Prog Unit := do
  let now ← nowFn
  let _ ← execUpdate (.recordRecoveryOutcome phid (recoveryStatusForDecision decision) reason now)

end IdAgents
