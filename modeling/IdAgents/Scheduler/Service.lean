import IdAgents.Scheduler.Clarification
import IdAgents.Scheduler.RetryPolicy

namespace IdAgents
open JsText JsRegex KeyedTable AtomicProgram

structure Degraded where
  reason : String
  detail : String

abbrev Result (α : Type) := Except Degraded α

variable (op : String)

def mapError : ReactorError → Degraded
  | .conflict message => ⟨"conflict", s!"{op}: {message}"⟩
  | .uniqueConstraint => ⟨"reactor_error", s!"{op}: UNIQUE constraint failed"⟩
  | .other message => ⟨"reactor_error", s!"{op}: {message}"⟩

def wrap (p : Prog α) : Prog (Result α) :=
  (Except.ok <$> p).tryCatch fun e => .ret (.error (mapError op e))

def foundOr : Option α → Result α
  | some v => .ok v
  | none => .error ⟨"not_found", s!"{op}: doc not found"⟩

def wrapNullable (p : Prog (Option α)) : Prog (Result α) :=
  (foundOr op <$> p).tryCatch fun e => .ret (.error (mapError op e))

-- The client over a reactor: an error of an operation becomes a degraded result.
namespace Client

variable (phid : String)

def getByPhid : Prog (Result DispatchDoc) :=
  wrapNullable "getByPhid" (IdAgents.getByPhid phid)

def claimForStart (filter : QueueEligibleFilter) : Prog (Result (List DispatchDoc)) :=
  wrap "claim" (runClaim filter)

def recordAgentStart (phid agentQueryId : String) : Prog (Result DispatchDoc) :=
  wrapNullable "recordAgentStart" (IdAgents.recordAgentStart phid agentQueryId)

def markDone : Prog (Result DispatchDoc) :=
  wrapNullable "markDone" (IdAgents.markDone phid)

def markFailed (args : FailureArgs) : Prog (Result DispatchDoc) :=
  wrapNullable "markFailed" (IdAgents.markFailed phid args)

def markBounced (bounce : BounceInput) : Prog (Result DispatchDoc) :=
  wrapNullable "markBounced" (IdAgents.markBounced phid bounce)

def requeueAfterBounce : Prog (Result DispatchDoc) :=
  wrapNullable "requeueAfterBounce" (IdAgents.requeueAfterBounce phid)

def markRetryExhausted (phid detail : String) : Prog (Result DispatchDoc) :=
  wrapNullable "markRetryExhausted" (IdAgents.markRetryExhausted phid detail)

def dispatchesInFlight (provider : Provider) : Prog (Result (List DispatchDoc)) :=
  wrap "dispatchesInFlight" (listInFlight (some provider) none)

def dispatchBounceRetries (provider : Provider) : Prog (Result (List DispatchDoc)) :=
  wrap "dispatchBounceRetries" (listBounced (some provider) none)

def concurrencySnapshot (opts : SnapshotOpts) : Prog (Result ConcurrencySnapshot) :=
  wrap "concurrencySnapshot" (IdAgents.snapshot opts)

end Client

variable (doc : DispatchDoc)

def sendTalk : Prog AgentTransportResult :=
  Program.stmt (S := sql) (.sendTalk doc)

def getEvidence (agentQueryId : String) : Prog (Except String (Option QueryEvidence)) :=
  Program.stmt (S := sql) (.getEvidence agentQueryId)

def excludedAgents (gate : ClaimGate) : Prog (Except String (List String)) :=
  Program.stmt (S := sql) (.excludedAgents gate)

def resolveFallbackLane : Prog (Option (Provider × Runtime)) :=
  Program.stmt (S := sql) (.fallbackLane doc)

def TERMINAL_QUERY_STATUSES : List String := ["completed", "failed", "cancelled", "expired"]

def INCOMPLETE_COMPLETED_RESULT_PATTERNS : List Regex :=
  let whole (r : Regex) : Regex := .seq .wordBoundary (.seq r .wordBoundary)
  [whole (litI "waiting on"),
    whole (litI "waiting for"),
    whole (litI "before continuing"),
    whole (litI "will continue"),
    whole (.seq (litI "not ") (.seq (opt (litI "yet ")) (.alt (litI "complete")
      (.alt (litI "completed") (.alt (litI "done") (litI "finished")))))),
    whole (.seq (litI "still ") (.alt (litI "running") (.alt (litI "pending")
      (litI "in progress"))))]

def completedResultIsIncomplete (evidence : QueryEvidence) : Bool :=
  evidence.status = "completed" && match evidence.resultText.map trim with
    | some text => text ≠ "" && INCOMPLETE_COMPLETED_RESULT_PATTERNS.any (·.test text)
    | none => false

structure CapDecision where
  maxSafe : Int
  reason : String
  source : String

structure GateReport where
  excludedAgents : List String
  error : Option String

structure TickReport where
  claimed : Nat := 0
  started : Nat := 0
  bounced : Nat := 0
  failed : Nat := 0
  requeued : Nat := 0
  wedgedReaped : Nat := 0
  evidenceClosedDone : Nat := 0
  evidenceClosedFailed : Nat := 0
  evidenceSilenceBounced : Nat := 0
  evidenceLookupErrors : Nat := 0
  terminalGuardSkips : Nat := 0
  staleInFlightFailed : Nat := 0
  capDecision : CapDecision := ⟨0, "", ""⟩
  usageGate : Option GateReport := none
  admissionGate : Option GateReport := none

/-- How a scheduler is set up; a missing model policy answers every fallback with none. -/
structure SchedulerServiceOptions where
  policy : SchedulerPolicy
  provider : Provider := .anthropic
  providers : List Provider := []
  budgetState : BudgetState := .ok
  usageGateProvider : Bool := false
  admissionGateProvider : Bool := false
  queryEvidence : Bool := true

variable (opts : SchedulerServiceOptions)

def SchedulerServiceOptions.lanes : List Provider :=
  (if opts.providers = [] then [opts.provider] else opts.providers).eraseDups

inductive Phase where
  | evidence | wedged | stale | bounced | start
deriving DecidableEq, Repr

/-- Who issues a statement: a caller of the reactor, an agent's closeout, a tick or a recovery pass,
these two possibly at work on a document of a list they have read. Labels do not reach the
database. -/
inductive Label where
  | call
  | closeout
  | tick
  | on (phase : Phase) (doc : DispatchDoc)
  | recovery
  | recover (doc : DispatchDoc)

abbrev Labelled (α : Type) := Program (sql.tagged Label) ReactorError α

def docIsTerminal (phid : String) (report : TickReport) : Prog (Bool × TickReport) := do
  match ← Client.getByPhid phid with
  | .error _ => return (true, { report with terminalGuardSkips := report.terminalGuardSkips + 1 })
  | .ok doc =>
    if isTerminal doc.status then
      return (true, { report with terminalGuardSkips := report.terminalGuardSkips + 1 })
    else return (false, report)

variable (policy : SchedulerPolicy)

def applyEvidence (nowMs : Instant) (report : TickReport) (doc : DispatchDoc) : Prog TickReport :=
  match doc.agentQueryId.filter (· ≠ "") with
  | none => return report
  | some agentQueryId => do
    match ← getEvidence agentQueryId with
    | .error _ => return { report with evidenceLookupErrors := report.evidenceLookupErrors + 1 }
    | .ok none => return report
    | .ok (some evidence) =>
      if completedResultIsIncomplete evidence then do
        match ← Client.markFailed doc.dispatchPhid
          ⟨.failedVerification, "completed linked query returned incomplete/waiting text"⟩ with
        | .ok _ => return { report with evidenceClosedFailed := report.evidenceClosedFailed + 1 }
        | .error _ => return report
      else if evidence.status = "completed" then do
        match ← Client.markDone doc.dispatchPhid with
        | .ok _ => return { report with evidenceClosedDone := report.evidenceClosedDone + 1 }
        | .error _ => return report
      else if TERMINAL_QUERY_STATUSES.contains evidence.status then do
        match ← Client.markFailed doc.dispatchPhid
          ⟨.agentError, s!"linked query terminated {evidence.status}"⟩ with
        | .ok _ => return { report with evidenceClosedFailed := report.evidenceClosedFailed + 1 }
        | .error _ => return report
      else if policy.silenceThresholdMs ≤ 0 then return report
      else match evidence.lastOutputAt with
        | none => return report
        | some lastOutputAt =>
          let silence := nowMs - lastOutputAt
          if silence < policy.silenceThresholdMs then return report
          else if policy.rateLimitMaxAttempts ≤ doc.attemptCount then do
            let _ ← Client.markRetryExhausted doc.dispatchPhid
              s!"silence {silence}ms past threshold and attempts {doc.attemptCount} exhausted"
            return report
          else do
            match ← Client.markBounced doc.dispatchPhid
              { kind := "scheduler_silence"
                message :=
                  s!"silence {silence}ms past threshold {policy.silenceThresholdMs}ms"
                nextAttemptAt := nowMs + max 1000 policy.rateLimitBackoffInitialMs } with
            | .ok _ =>
              return { report with evidenceSilenceBounced := report.evidenceSilenceBounced + 1 }
            | .error _ => return report
section
variable (provider : Provider)
section
variable (report : TickReport)

def applyQueryEvidenceToInFlight : Labelled TickReport :=
  if !opts.queryEvidence then return report
  else do
    match ← (Client.dispatchesInFlight provider).tag .tick with
    | .error _ => return report
    | .ok inflight =>
      let nowMs ← nowFn.tag .tick
      Program.fold inflight report fun report doc =>
        (applyEvidence opts.policy nowMs report doc).tag (.on .evidence doc)

def reapWedged (nowMs : Instant) (report : TickReport) (doc : DispatchDoc) : Prog TickReport :=
  match doc.agentQueryId.filter (· ≠ ""), doc.startedAt with
  | some _, _ | none, none => return report
  | none, some startedAt =>
    let age := nowMs - startedAt
    if age < policy.startingTimeoutMs then return report
    else do
      let (terminal, report) ← docIsTerminal doc.dispatchPhid report
      if terminal then return report
      else
        match ← Client.markBounced doc.dispatchPhid
          { kind := "scheduler_wedged"
            message := s!"in_flight without agent_query_id for {age}ms"
            nextAttemptAt := nowMs } with
        | .error _ => return report
        | .ok _ =>
          match ← Client.requeueAfterBounce doc.dispatchPhid with
          | .ok _ => return { report with wedgedReaped := report.wedgedReaped + 1 }
          | .error _ => return report

def reapWedgedInFlight : Labelled TickReport := do
  match ← (Client.dispatchesInFlight provider).tag .tick with
  | .error _ => return report
  | .ok inflight =>
    let nowMs ← nowFn.tag .tick
    Program.fold inflight report fun report doc =>
      (reapWedged opts.policy nowMs report doc).tag (.on .wedged doc)

/-- The last activity of a dispatch, and whether there was evidence of progress. -/
def lastActivity (queryEvidence : Bool) (startedMs : Instant) (agentQueryId : String) :
    Prog (Instant × Bool) :=
  if !queryEvidence then return (startedMs, false)
  else do
    match ← getEvidence agentQueryId with
    | .error _ => return (startedMs, false)
    | .ok evidence =>
      match evidence.bind (·.lastOutputAt) with
      | some lastOutputAt => return (max startedMs lastOutputAt, true)
      | none => return (startedMs, false)

def failStale (nowMs : Instant) (report : TickReport) (doc : DispatchDoc) : Prog TickReport :=
  match doc.agentQueryId.filter (· ≠ "") with
  | none => return report
  | some agentQueryId => do
    let (lastActivityMs, hadProgress) ←
      lastActivity opts.queryEvidence (doc.startedAt.getD doc.updatedAt) agentQueryId
    let inactivity := nowMs - lastActivityMs
    if inactivity < staleTtlForRuntime opts.policy doc.runtime then return report
    else
      match ← Client.markFailed doc.dispatchPhid
        ⟨.schedulerWedged, if hadProgress then
          s!"stale in_flight: no progress for {inactivity}ms (last_output_at) with agent_query_id={agentQueryId}"
        else
          s!"stale in_flight claim with agent_query_id={agentQueryId} for {inactivity}ms (no progress evidence)"⟩ with
      | .ok _ => return { report with
          staleInFlightFailed := report.staleInFlightFailed + 1, failed := report.failed + 1 }
      | .error _ => return report

def failStaleInFlight : Labelled TickReport := do
  match ← (Client.dispatchesInFlight provider).tag .tick with
  | .error _ => return report
  | .ok inflight =>
    let nowMs ← nowFn.tag .tick
    Program.fold inflight report fun report doc =>
      (failStale opts nowMs report doc).tag (.on .stale doc)

def sweepBouncedDoc (now : Instant) (report : TickReport) (doc : DispatchDoc) : Prog TickReport :=
  if now < doc.notBeforeAt then return report
  else do
    let (terminal, report) ← docIsTerminal doc.dispatchPhid report
    if terminal then return report
    else if policy.rateLimitMaxAttempts ≤ doc.attemptCount then do
      let _ ← Client.markRetryExhausted doc.dispatchPhid
        s!"bounce_count={doc.bounceCount} attempts={doc.attemptCount}"
      return report
    else
      match ← Client.requeueAfterBounce doc.dispatchPhid with
      | .ok _ => return { report with requeued := report.requeued + 1 }
      | .error _ => return report

def sweepBounced : Labelled TickReport := do
  match ← (Client.dispatchBounceRetries provider).tag .tick with
  | .error _ => return report
  | .ok bounced =>
    let now ← nowFn.tag .tick
    Program.fold bounced report fun report doc =>
      (sweepBouncedDoc opts.policy now report doc).tag (.on .bounced doc)

end

end

variable (provider : Provider)

def startError : AgentTransportResult → Option ClassifyInput
  | .ok _ => none
  | .notOk status body cause transportError => some ⟨provider, status, body, cause, transportError⟩
  | .threw message => some ⟨provider, 0, "", some .transport, some message⟩

def failStart (classified : Classification) (report : TickReport) : Prog TickReport :=
  if classified.kind = .providerThrottle ∨ classified.kind = .transport ∨
      classified.kind = .authOrPlan then do
    let reason := retryReasonFromThrottleKind classified.kind
    let now ← nowFn
    let decision := computeRetryDecision reason doc.attemptCount now
    match decision.action, decision.nextAttemptAt with
    | .backoff, some nextAttemptAt =>
      let fallback ←
        if classified.kind = .providerThrottle then resolveFallbackLane doc else pure none
      match ← Client.markBounced doc.dispatchPhid
        { kind := classified.kind.text
          message := classified.detail
          nextAttemptAt := nextAttemptAt
          provider := fallback.map Prod.fst
          runtime := fallback.map Prod.snd } with
      | .ok _ => return { report with bounced := report.bounced + 1 }
      | .error _ => return report
    | _, _ =>
      if decision.exhausted then
        match ← Client.markRetryExhausted doc.dispatchPhid
          s!"{reason.text} after {doc.attemptCount} attempts" with
        | .ok _ => return { report with failed := report.failed + 1 }
        | .error _ => return report
      else
        match ← Client.markFailed doc.dispatchPhid
          ⟨decision.terminalKind.getD .agentError, classified.detail⟩ with
        | .ok _ => return { report with failed := report.failed + 1 }
        | .error _ => return report
  else do
    match ← Client.markFailed doc.dispatchPhid ⟨.agentError, classified.detail⟩ with
    | .ok _ => return { report with failed := report.failed + 1 }
    | .error _ => return report

def startOne (report : TickReport) (doc : DispatchDoc) : Prog TickReport := do
  let result ← sendTalk doc
  match startError provider result, result with
  | some error, _ => failStart doc (classifyAgentStartError error) report
  | none, .ok agentQueryId =>
    if agentQueryId = "" then return report
    else
      match ← Client.recordAgentStart doc.dispatchPhid agentQueryId with
      | .ok _ => return { report with started := report.started + 1 }
      | .error _ => return report
  | none, _ => return report

def representativeRuntimeForProvider : Provider → Runtime
  | .anthropic => .claudeCodeCli
  | .openai => .codex
  | .cursor => .cursorCli
  | .local_ | .other => .other

/-- The agents one gate excludes from claims; a gate that fails excludes none. -/
def computeExcludedAgents (present : Bool) (gate : ClaimGate) : Prog (Option GateReport) :=
  if !present then return none
  else do
    match ← excludedAgents gate with
    | .ok agents => return some ⟨agents, none⟩
    | .error message => return some ⟨[], some message⟩

structure TickState where
  report : TickReport
  excludeCache : Option (List String)

def getExcludedAgents (state : TickState) : Prog (List String × TickState) :=
  match state.excludeCache with
  | some agents => return (agents, state)
  | none => do
    let usage ← computeExcludedAgents opts.usageGateProvider .usage
    let admission ← computeExcludedAgents opts.admissionGateProvider .admission
    let agents := ((usage.map (·.excludedAgents)).getD [] ++
      (admission.map (·.excludedAgents)).getD []).eraseDups
    return (agents, {
      report := { state.report with
        usageGate := usage.or state.report.usageGate
        admissionGate := admission.or state.report.admissionGate }
      excludeCache := some agents })

def countInFlight : Prog Nat := do
  match ← Client.dispatchesInFlight provider with
  | .ok docs => return docs.length
  | .error _ => return 0

/-- A lane's slots: the cap decision it was made from and the agents to leave out. -/
def laneFilter (provider : Provider) (state : TickState) :
    Prog (Option QueueEligibleFilter × TickState) := do
  let currentInFlight ← countInFlight provider
  let safe := getSafeConcurrency
    { provider := provider
      runtime := representativeRuntimeForProvider provider
      budgetState := some opts.budgetState
      currentInFlight := some currentInFlight } opts.policy
  let report := if opts.lanes.head? = some provider then
    { state.report with capDecision := ⟨safe.maxSafe, safe.reason, safe.source⟩ } else state.report
  let state := { state with report := report }
  match ← Client.concurrencySnapshot { maxSafe := safe.maxSafe, provider := some provider } with
  | .error _ => return (none, state)
  | .ok snap =>
    let slots := max 0 (safe.maxSafe - snap.inFlight)
    if slots = 0 then return (none, state)
    else
      let (excludeAgents, state) ← getExcludedAgents opts state
      let now ← nowFn
      return (some {
        limit := some (min slots opts.policy.claimBatchLimit)
        provider := some provider
        now := some now
        maxInFlight := some safe.maxSafe
        excludeAgents := excludeAgents }, state)

def claimAndStartLane (provider : Provider) (state : TickState) : Labelled TickState := do
  let (filter, state) ← (laneFilter opts provider state).tag .tick
  match filter with
  | none => return state
  | some filter =>
    match ← (Client.claimForStart filter).tag .tick with
    | .error _ => return state
    | .ok claimed =>
      let report ← Program.fold claimed
        { state.report with claimed := state.report.claimed + claimed.length }
        fun report doc => (startOne opts.provider report doc).tag (.on .start doc)
      return { state with report := report }

def tickLane (state : TickState) (provider : Provider) : Labelled TickState := do
  let report ← applyQueryEvidenceToInFlight opts provider state.report
  let report ← reapWedgedInFlight opts provider report
  let report ← failStaleInFlight opts provider report
  let report ← sweepBounced opts provider report
  claimAndStartLane opts provider { state with report := report }

def tick : Labelled TickReport := do
  let state ← Program.fold opts.lanes ⟨{}, none⟩ (tickLane opts)
  return state.report

end IdAgents
