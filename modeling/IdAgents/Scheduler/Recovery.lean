import IdAgents.Scheduler.Service

namespace IdAgents
open JsText KeyedTable AtomicProgram

structure RecoveryInput where
  status : SchedulerStatus
  failureKind : Option FailureKind
  failureDetail : Option String
  agentQueryId : Option String
  attemptCount : Nat
  recoveryAttempts : Nat
  artifactPath : Option String
  promotionCompleted : Option Bool
  commitVerifiedOnBase : Option Bool
  channel : String
  sideEffect : String
  allowAutoRetry : Bool

structure RecoveryConfig where
  maxAttempts : Nat
  maxLinkedQueryRetries : Nat
  retryableDetailMarkers : List String

def DEFAULT_RECOVERY_CONFIG : RecoveryConfig where
  maxAttempts := 3
  maxLinkedQueryRetries := 1
  retryableDetailMarkers := ["linked query terminated expired", "expired", "stale in_flight",
    "scheduler_wedged", "rate_limit", "provider_server_error", "provider_timeout", "overloaded"]

def EXTERNAL_CHANNELS : List String := ["email", "payment", "sms", "webhook", "outbound"]

def isExternalChannel (channel : String) : Bool := EXTERNAL_CHANNELS.contains (toLowerCase channel)

variable (input : RecoveryInput)

def hasArtifact : Bool := input.artifactPath.any (· ≠ "")

def landed : Bool :=
  hasArtifact input || input.promotionCompleted = some true ||
    input.commitVerifiedOnBase = some true

def landedByCommitEvidenceOnly : Bool :=
  input.commitVerifiedOnBase = some true && input.promotionCompleted ≠ some true &&
    !hasArtifact input

def hasExternalSideEffect : Bool :=
  input.sideEffect ≠ "none" || isExternalChannel input.channel

def isRecoverableFailure (config : RecoveryConfig) : Bool :=
  input.failureKind = some .schedulerWedged ||
    config.retryableDetailMarkers.any fun m =>
      includes (toLowerCase (input.failureDetail.getD "")) (toLowerCase m)

def isLinkedQueryTerminalFailure : Bool :=
  input.agentQueryId.any (· ≠ "") &&
    includes (toLowerCase (input.failureDetail.getD "")) "linked query terminated"

structure RecoveryDecisionResult where
  decision : DispatchRecoveryDecision
  reason : String

def classifyRecovery (config : RecoveryConfig) : RecoveryDecisionResult :=
  if landed input then
    ⟨.landed, if landedByCommitEvidenceOnly input then
      "commit verified on base — recovered despite failed/expired marker"
      else "artifact/promotion evidence present"⟩
  else if input.status ≠ .failed then
    ⟨.needsOperator, s!"not a terminal failure (status={input.status.text})"⟩
  else if hasExternalSideEffect input && !input.allowAutoRetry then
    ⟨.unsafeSideEffect,
      s!"external side effect ({input.sideEffect}/{input.channel}) without allow_auto_retry"⟩
  else if isLinkedQueryTerminalFailure input &&
      config.maxLinkedQueryRetries ≤ input.recoveryAttempts then
    let linked := input.agentQueryId.getD ""
    ⟨.needsOperator, s!"linked query {linked} already retried {input.recoveryAttempts} time(s)"⟩
  else if config.maxAttempts ≤ input.recoveryAttempts then
    ⟨.exhausted, s!"recovery_attempts {input.recoveryAttempts} >= max {config.maxAttempts}"⟩
  else if isRecoverableFailure input config then
    let kind := (input.failureKind.map (·.text)).getD "transient"
    let failure := input.failureDetail.getD kind
    ⟨.retryable, s!"recoverable failure: {failure}"⟩
  else
    let kind := (input.failureKind.map (·.text)).getD "unknown"
    let detail := input.failureDetail.getD ""
    ⟨.needsOperator, trim s!"non-transient failure ({kind}): {detail}"⟩

def SIDE_EFFECT_VALUES : List String :=
  ["none", "external", "email", "payment", "delete", "user_visible"]

def normalizeSideEffect (raw : String) : String :=
  if SIDE_EFFECT_VALUES.contains raw then raw else "none"

/-- The repositories of a promotion result; `none` stands for anything but a list. -/
def promotionRepos (promotion : Option Json) : List Json :=
  match promotion.bind (Json.field? "repos") with
  | some (.arr repos) => repos
  | _ => []

def nonEmptyField (name : String) (v : Json) : Option String := (v.strField? name).filter (· ≠ "")

/-- A failed dispatch as a recovery pass sees it: the classifier's input, and where its promoted
commit should be. -/
structure RecoverableDispatch where
  dispatchPhid : String
  input : RecoveryInput
  promotedSha : Option String
  repoPath : Option String
  base : Option String
  promotionResultJson : Option Json

def isJsObject (v : Json) : Bool :=
  match v with
  | .obj _ | .arr _ => true
  | _ => false

def rowToRecoverable (doc : DispatchDoc) : RecoverableDispatch :=
  let repo0 := (promotionRepos doc.promotionResultJson).head?
  { dispatchPhid := doc.dispatchPhid
    input :=
      { status := doc.status
        failureKind := doc.failureKind
        failureDetail := doc.failureDetail
        agentQueryId := doc.agentQueryId
        attemptCount := doc.attemptCount
        recoveryAttempts := doc.recoveryAttempts
        artifactPath := doc.artifactPath
        promotionCompleted := (doc.promotionResultJson.filter isJsObject).map
          (Json.isTrueField "completed")
        commitVerifiedOnBase := none
        channel := doc.channel
        sideEffect := normalizeSideEffect doc.sideEffect
        allowAutoRetry := doc.allowAutoRetry }
    promotedSha := repo0.bind (nonEmptyField "promoted_sha")
    repoPath := repo0.bind (nonEmptyField "path")
    base := repo0.bind (nonEmptyField "base")
    promotionResultJson := doc.promotionResultJson }

def failedAt (row : Row) : Instant := row.completedAt.getD row.updatedAt

def failedOrder (a b : Row) : Bool :=
  failedAt a < failedAt b || (failedAt a = failedAt b && a.dispatchPhid ≤ b.dispatchPhid)

def DEFAULT_RECOVERY_LOOKBACK_MS : Int := 7 * 24 * 60 * 60 * 1000

def recoverable (sinceMs : Instant) (row : Row) : Bool :=
  row.status = .failed && sinceMs ≤ failedAt row &&
    (row.recoveryStatus = .none || row.recoveryStatus = .recovering)

def listFailedForRecovery (lookbackMs : Int) : Prog (List DispatchDoc) := do
  let now ← nowFn
  let rows ← selectRows
  return (orderBy failedOrder (rows.filter (recoverable (now - lookbackMs)))).map rowToDoc

def verifyCommitOnBase (query : CommitEvidenceQuery) : Prog (Except String (Option Bool)) :=
  Program.stmt (S := sql) (.verifyCommitOnBase query)

structure DispatchRecoveryServiceOptions where
  config : RecoveryConfig
  enabled : Bool
  budget : Nat
  backoffMs : Int
  maxBackoffMs : Int := 30 * 60000
  commitEvidence : Bool := false
  lookbackMs : Int := DEFAULT_RECOVERY_LOOKBACK_MS

structure RecoveryRunReport where
  skipped : Bool := false
  scanned : Nat := 0
  landed : Nat := 0
  retried : Nat := 0
  deferred : Nat := 0
  unsafeSideEffect : Nat := 0
  exhausted : Nat := 0
  needsOperator : Nat := 0
  errors : Nat := 0

/-- The first repository in which the promoted commit is on its base. Reading a field of a `null`
entry throws. -/
def verifyRepos : List Json → Prog (Option CommitEvidenceQuery)
  | [] => return none
  | repo :: repos =>
    if repo = .null then throw (.other "Cannot read properties of null (reading 'promoted_sha')")
    else match nonEmptyField "promoted_sha" repo, nonEmptyField "path" repo with
      | some sha, some path => do
        let query := ⟨path, (nonEmptyField "base" repo).getD "main", sha⟩
        match ← verifyCommitOnBase query with
        | .ok (some true) => return some query
        | _ => verifyRepos repos
      | _, _ => verifyRepos repos

def ownRepo (doc : RecoverableDispatch) : List Json :=
  match doc.promotedSha, doc.repoPath with
  | some sha, some path =>
    [.obj [("promoted_sha", .str sha), ("path", .str path),
      ("base", (doc.base.map Json.str).getD .null)]]
  | _, _ => []

variable (opts : DispatchRecoveryServiceOptions)

def resolveCommitEvidence (doc : RecoverableDispatch) : Prog RecoverableDispatch :=
  if !opts.commitEvidence || doc.input.commitVerifiedOnBase = some true ||
      doc.input.promotionCompleted = some true then return doc
  else do
    let repos := promotionRepos doc.promotionResultJson
    match ← verifyRepos (if repos = [] then ownRepo doc else repos) with
    | some found => return { doc with
        input := { doc.input with commitVerifiedOnBase := some true }
        promotedSha := some found.sha, repoPath := some found.repoPath, base := some found.base }
    | none => return doc

def recoveryNextAttemptAt (recoveryAttempts : Nat) (now : Instant) : Instant :=
  now + min (opts.backoffMs * 2 ^ min recoveryAttempts 16) opts.maxBackoffMs

def landedAs (resolved : RecoverableDispatch) : Option RecoveryStatus × Option String :=
  if landedByCommitEvidenceOnly resolved.input then
    let sha := resolved.promotedSha.getD "null"
    let path := resolved.repoPath.getD "?"
    let base := resolved.base.getD "main"
    (some .verifiedDone, some s!"commit {sha} verified on {path}@{base}")
  else (none, none)

variable (report : RecoveryRunReport)

def applyDecision (doc resolved : RecoverableDispatch) (decision : RecoveryDecisionResult) :
    Prog RecoveryRunReport :=
  match decision.decision with
  | .landed => do
    let _ ← markRecoveryLanded doc.dispatchPhid (landedAs resolved).1 (landedAs resolved).2
    return { report with landed := report.landed + 1 }
  | .retryable =>
    if opts.budget ≤ report.retried then return { report with deferred := report.deferred + 1 }
    else do
      let now ← nowFn
      let _ ← requeueForRecovery doc.dispatchPhid s!"recovery: {decision.reason}"
        (recoveryNextAttemptAt opts doc.input.recoveryAttempts now)
      return { report with retried := report.retried + 1 }
  | .unsafeSideEffect => do
    let _ ← recordRecoveryOutcome doc.dispatchPhid decision.decision decision.reason
    return { report with unsafeSideEffect := report.unsafeSideEffect + 1 }
  | .exhausted => do
    let _ ← recordRecoveryOutcome doc.dispatchPhid decision.decision decision.reason
    return { report with exhausted := report.exhausted + 1 }
  | .needsOperator => do
    let _ ← recordRecoveryOutcome doc.dispatchPhid decision.decision decision.reason
    return { report with needsOperator := report.needsOperator + 1 }

def applyRecovery (doc : RecoverableDispatch) : Prog RecoveryRunReport := do
  let resolved ← resolveCommitEvidence opts doc
  applyDecision opts report doc resolved (classifyRecovery resolved.input opts.config)

def recoverOne (doc : DispatchDoc) : Prog RecoveryRunReport :=
  (applyRecovery opts report (rowToRecoverable doc)).tryCatch fun _ =>
    .ret { report with errors := report.errors + 1 }

def attempt (p : Prog α) : Prog (Except ReactorError α) :=
  (Except.ok <$> p).tryCatch fun e => .ret (.error e)

def runOnce : Labelled RecoveryRunReport :=
  if !opts.enabled then return { skipped := true }
  else do
    match ← (attempt (listFailedForRecovery opts.lookbackMs)).tag .recovery with
    | .error _ => return { errors := 1 }
    | .ok docs =>
      Program.fold docs { scanned := docs.length } fun report doc =>
        (recoverOne opts report doc).tag (.recover doc)

end IdAgents
