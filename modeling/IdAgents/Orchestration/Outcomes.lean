import IdAgents.Scheduler.Recovery
import IdAgents.Orchestration.Storage

namespace IdAgents.Orchestration
open JsText JsMap JsRegex AtomicProgram

variable (row : DispatchRow)

/-- `moot` is a status to the backlog. -/
def dispatchStatus : String :=
  if row.recoveryStatus = .moot then "moot" else row.status.text

def getDispatchStatusesByPhid (phids : List String) : Prog (Dict String String) :=
  let unique := phids.filter (· ≠ "")
  if unique.isEmpty then .ret .empty
  else (issue .selectDispatches).bind fun (rows : List DispatchRow) =>
    .ret ((rows.filter fun row => unique.contains row.dispatchPhid).foldl
      (fun statuses row => statuses.set row.dispatchPhid (dispatchStatus row)) .empty)

structure DispatchOutcome where
  dispatchPhid : String
  status : String
  recoveryStatus : RecoveryStatus
  reliabilityClassification : Option String
  failureKind : Option FailureKind
  failureDetail : Option String
  recoveryAttempts : Nat
  promotionResultJson : Option Json

def outcomeOf : DispatchOutcome where
  dispatchPhid := row.dispatchPhid
  status := dispatchStatus row
  recoveryStatus := row.recoveryStatus
  reliabilityClassification := row.reliabilityClassification
  failureKind := row.failureKind
  failureDetail := row.failureDetail
  recoveryAttempts := row.recoveryAttempts
  promotionResultJson := row.promotionResultJson

def identifiersOf : List String :=
  row.dispatchPhid :: row.queryId :: row.agentQueryId.toList

/-- `getDispatchOutcomesByIdentifier` -/
def getDispatchOutcomesByPhid (identifiers : List String) : Prog (Dict String DispatchOutcome) :=
  let unique := (identifiers.map trim).filter (· ≠ "")
  if unique.isEmpty then .ret .empty
  else (issue .selectDispatches).bind fun (rows : List DispatchRow) =>
    .ret ((rows.filter fun row => (identifiersOf row).any unique.contains).foldl
      (fun outcomes row => ((identifiersOf row).filter (· ≠ "")).foldl
        (fun outcomes key => outcomes.set key (outcomeOf row)) outcomes) .empty)

def dispatchFailureRetryable (failureKind : Option FailureKind) (failureDetail : Option String) :
    Bool :=
  failureKind = some .schedulerWedged ||
    DEFAULT_RECOVERY_CONFIG.retryableDetailMarkers.any fun marker =>
      includes (toLowerCase (failureDetail.getD "")) (toLowerCase marker)

def promotionCompletedAndVerified (result : Option Json) : Bool :=
  match result with
  | some promotion =>
    promotion.isTrueField "completed" && match promotion.field? "repos" with
      | some (.arr repos) => !repos.isEmpty && repos.all (·.isTrueField "verified")
      | _ => false
  | none => false

/-- `terminal` is that there is a status. -/
structure DuplicateDispatchTerminalDisposition where
  status : Option String
  promotionVerified : Bool

variable (outcome : DispatchOutcome)

def duplicateDispatchTerminalDisposition : DuplicateDispatchTerminalDisposition :=
  let promotionVerified := promotionCompletedAndVerified outcome.promotionResultJson
  if promotionVerified || outcome.recoveryStatus = .landedReconciled ||
      outcome.recoveryStatus = .verifiedDone || outcome.recoveryStatus = .retryDone then
    ⟨some "done", promotionVerified⟩
  else if outcome.reliabilityClassification = some "superseded" then ⟨some "superseded", false⟩
  else if outcome.recoveryStatus = .moot || outcome.status = "moot" then ⟨some "moot", false⟩
  else if outcome.status = "done" then ⟨some "done", promotionVerified⟩
  else if ["cancelled", "moot", "superseded"].contains outcome.status then
    ⟨some outcome.status, false⟩
  else ⟨none, false⟩

inductive DuplicateDispatchRetryDisposition where
  | close | supersede | markRetrySafe
deriving DecidableEq, Repr

inductive DuplicateDispatchRetryOperatorDisposition where
  | close | retry | reroute | hold
deriving DecidableEq, Repr

inductive DuplicateDispatchFailureClass where
  | linkedQueryExpired | dispatchRouteNotFound | failedVerification | needsInput | liveOrQueued
  | staleDuplicate | retryableTransient | nonRetryableFailure | missingPriorDispatch
deriving DecidableEq, Repr

def isLinkedQueryExpired : Bool :=
  includes (toLowerCase (outcome.failureDetail.getD "")) "linked query terminated expired"

def notFoundPattern : Regex :=
  alts [seqs [.wordBoundary, litI "http", .many (.one isSpace), lit "404", .wordBoundary],
    seqs [.wordBoundary, lit "404", .wordBoundary], litI "not found", litI "not_found",
    litI "no url for agent",
    seqs [litI "agent ", .many (.one (· ≠ '\n')), litI " not found"]]

def routePattern : Regex :=
  alts (["dispatch", "route", "routing", "target", "agent", "gaudi", "verification",
    "verify"].map litI)

def isDispatchRouteNotFound : Bool :=
  let text := toLowerCase ((outcome.failureKind.map FailureKind.text).getD "" ++ "\n" ++
    outcome.failureDetail.getD "")
  notFoundPattern.test text && routePattern.test text

/-- A promotion result that is there and not verified; reading a field of `null` throws, which
counts as one. -/
def isFailedVerification : Bool :=
  match outcome.promotionResultJson with
  | none => false
  | some result =>
    !(duplicateDispatchTerminalDisposition outcome).promotionVerified &&
      (result = .null || result.field? "completed" = some (.bool false) ||
        result.isTrueField "required" || match result.field? "repos" with
          | some (.arr _) => true
          | _ => false)

def classifyDuplicateDispatchFailure (outcome : Option DispatchOutcome) :
    DuplicateDispatchFailureClass :=
  match outcome with
  | none => .missingPriorDispatch
  | some outcome =>
    if (duplicateDispatchTerminalDisposition outcome).status.isSome then .staleDuplicate
    else if outcome.status = "needs_clarification" then .needsInput
    else if ["queued", "in_flight", "bounced"].contains outcome.status then .liveOrQueued
    else if outcome.status ≠ "failed" then .liveOrQueued
    else if isDispatchRouteNotFound outcome then .dispatchRouteNotFound
    else if isLinkedQueryExpired outcome then .linkedQueryExpired
    else if isFailedVerification outcome then .failedVerification
    else if dispatchFailureRetryable outcome.failureKind outcome.failureDetail then
      .retryableTransient
    else .nonRetryableFailure

/-- The recommended and the operator's disposition; `retry_safe_recommendation` is `set_true` where
the recommended one marks the row. -/
def classifyDuplicateDispatchRetryDisposition (outcome : Option DispatchOutcome) :
    DuplicateDispatchRetryDisposition × DuplicateDispatchRetryOperatorDisposition :=
  match outcome with
  | none => (.supersede, .hold)
  | some outcome =>
    match (duplicateDispatchTerminalDisposition outcome).status with
    | some status => if status = "done" then (.close, .close) else (.supersede, .close)
    | none =>
      if outcome.status ≠ "failed" then (.supersede, .hold)
      else if isDispatchRouteNotFound outcome then (.supersede, .reroute)
      else if isLinkedQueryExpired outcome then (.supersede, .close)
      else if dispatchFailureRetryable outcome.failureKind outcome.failureDetail then
        (.markRetrySafe, .retry)
      else if isFailedVerification outcome then (.supersede, .hold)
      else (.supersede, .close)

variable (item : BacklogRow)

def deriveBacklogRetryReadiness (outcome : Option DispatchOutcome) : BacklogRetryReadiness :=
  let readiness (status : BacklogRetryReadinessStatus) (nextAction : RetryNextAction)
      (reason : String) : BacklogRetryReadiness :=
    ⟨status, reason, nextAction, outcome.map (·.status)⟩
  if (item.readinessState ≠ .needsReview && item.readinessState ≠ .ready) ||
      (given item.lastDispatchPhid).isNone then
    readiness .notRetryCandidate .none
      "row is not an already-dispatched ready/needs_review retry candidate"
  else match outcome with
    | none => readiness .waitingOnLiveDispatch .wait
        "prior dispatch outcome is not readable yet; do not re-fire blindly"
    | some outcome =>
      let attempts := max item.dispatchRetryCount outcome.recoveryAttempts
      let cap := DEFAULT_RECOVERY_CONFIG.maxAttempts
      if ["queued", "in_flight", "needs_clarification"].contains outcome.status then
        readiness .waitingOnLiveDispatch .wait
          ("prior dispatch is " ++ outcome.status ++ "; retrying now would duplicate live work")
      else if (duplicateDispatchTerminalDisposition outcome).status.isSome then
        readiness .staleDuplicate .closeOrIgnore
          ("prior dispatch is terminal or landed; this backlog row is stale duplicate state, " ++
            "not retry fuel")
      else if outcome.status ≠ "failed" then
        readiness .nonRetryableFailedRow .operatorReview
          ("prior dispatch status " ++ outcome.status ++
            " is not retryable by the backlog reconciler")
      else if !dispatchFailureRetryable outcome.failureKind outcome.failureDetail then
        readiness .nonRetryableFailedRow .operatorReview
          ("prior dispatch failed non-transiently (" ++
            (outcome.failureKind.map FailureKind.text).getD "unknown" ++ ")")
      else if cap ≤ attempts then
        readiness .retryCapReached .operatorReview
          s!"prior dispatch failed transiently but retry cap reached ({attempts}/{cap})"
      else readiness .retryableFailedRow .retry
          s!"prior dispatch failed with retryable transient; retry {attempts + 1}/{cap} is allowed"

/-- `attachBacklogRetryReadiness` of one row, as admission sees it. -/
def attachBacklogRetryReadiness (outcomes : Dict String DispatchOutcome) (item : BacklogRow) :
    BacklogItem :=
  { rowToBacklogItem item with
    retryReadiness := deriveBacklogRetryReadiness item
      (outcomes.get? (item.lastDispatchPhid.getD "")) }

inductive MarkRetrySafeResult where
  | refused (status : Nat) (error reason : String)
  | marked (item : BacklogRow) (retryCount : Nat)

/-- What a mark checks of the prior dispatch; the attempts so far, when it passes. -/
def markRefusal (outcome : Option DispatchOutcome) : Except MarkRetrySafeResult Nat :=
  match outcome with
  | none => .error (.refused 409 "prior_dispatch_unreadable"
      "prior dispatch outcome is not readable")
  | some outcome =>
    let attempts := max item.dispatchRetryCount outcome.recoveryAttempts
    let retryCap := DEFAULT_RECOVERY_CONFIG.maxAttempts
    if outcome.status ≠ "failed" then
      .error (.refused 409 "prior_dispatch_not_failed" ("prior dispatch " ++ outcome.dispatchPhid ++
        " is " ++ outcome.status ++ "; retry_safe is only allowed for failed retryable rows"))
    else if !dispatchFailureRetryable outcome.failureKind outcome.failureDetail then
      .error (.refused 409 "prior_dispatch_not_retryable" ("prior dispatch " ++
        outcome.dispatchPhid ++ " failed non-transiently (" ++
        (outcome.failureKind.map FailureKind.text).getD "unknown" ++ ")"))
    else if retryCap ≤ attempts then
      .error (.refused 409 "retry_cap_reached" s!"retry cap reached ({attempts}/{retryCap})")
    else .ok attempts

def writeMark (actor reason : String) (retryCount : Nat) : Prog MarkRetrySafeResult :=
  (issue .now).bind fun (now : Instant) =>
  (execUpdate (.markRetrySafe item actor reason retryCount now)).bind fun _ =>
  (getBacklogItem item.itemId).bind fun updated =>
    match updated.filter (·.retrySafe) with
    | some updated => .ret (.marked updated retryCount)
    | none => .ret (.refused 409 "retry_safe_not_updated"
        "row changed before retry-safe marker was applied")

def markFailedDuplicateDispatchRetrySafe (itemId actor reason : String) :
    Prog MarkRetrySafeResult :=
  let actor := trim actor
  let reason := trim reason
  if actor = "" then .ret (.refused 400 "actor_required" "actor is required")
  else if reason = "" then .ret (.refused 400 "reason_required" "reason is required")
  else (getBacklogItem itemId).bind fun item =>
    match item with
    | none => .ret (.refused 404 "not_found" "backlog item not found")
    | some item =>
      if item.readinessState ≠ .ready then
        .ret (.refused 409 "not_ready_duplicate_dispatch_row"
          ("cannot mark retry-safe from " ++ item.readinessState.text))
      else match given item.lastDispatchPhid with
        | none => .ret (.refused 409 "missing_prior_dispatch" "row has no prior dispatch phid")
        | some phid => (getDispatchOutcomesByPhid [phid]).bind fun outcomes =>
          match markRefusal item (outcomes.get? phid) with
          | .error refusal => .ret refusal
          | .ok attempts => writeMark item actor reason (attempts + 1)

end IdAgents.Orchestration
