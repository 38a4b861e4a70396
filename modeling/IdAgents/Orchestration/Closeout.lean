import IdAgents.Orchestration.Outcomes

namespace IdAgents.Orchestration
open JsText JsMap JsRegex AtomicProgram

structure DispatchedRow where
  item : BacklogRow
  dispatch : Option DispatchRow

def joinDispatch (dispatches : List DispatchRow) (item : BacklogRow) : DispatchedRow :=
  ⟨item, dispatches.find? fun row => item.lastDispatchPhid = some row.dispatchPhid⟩

def readyReconcileTerminalStatuses : List String :=
  ["done", "failed", "cancelled", "moot", "superseded"]

variable (row : DispatchedRow)

def DispatchedRow.terminalRank : Nat :=
  match row.dispatch with
  | none => 2
  | some dispatch =>
    if dispatch.recoveryStatus = .moot || dispatch.status = .done ||
      dispatch.status = .cancelled then 0
    else if dispatch.status = .failed then 1 else 2

def byTerminalRank (a b : DispatchedRow) : Ordering :=
  (compare a.terminalRank b.terminalRank).then
    ((compare a.item.updatedAt b.item.updatedAt).then (compare a.item.createdAt b.item.createdAt))

/-- The outcome that a reconciliation goes by: the raw status, `failed` when there is no row. -/
def DispatchedRow.outcome : DispatchOutcome where
  dispatchPhid := row.item.lastDispatchPhid.getD ""
  status := (row.dispatch.map (·.status.text)).getD "failed"
  recoveryStatus := (row.dispatch.map (·.recoveryStatus)).getD .none
  reliabilityClassification := row.dispatch.bind (·.reliabilityClassification)
  failureKind := row.dispatch.bind (·.failureKind)
  failureDetail := row.dispatch.bind (·.failureDetail)
  recoveryAttempts := 0
  promotionResultJson := row.dispatch.bind (·.promotionResultJson)

structure ReconcileStaleOptions where
  dryRun : Bool := false
  actor : Option String := none
  itemId : Option String := none
  reason : Option String := none
  maxRows : Int := 25
  operatorReviewedNonRetryable : Bool := false

def trimmedOr (default_ : String) (text : Option String) : String :=
  (given (text.map trim)).getD default_

variable (opts : ReconcileStaleOptions)

def staleCandidates (rows : List BacklogRow) (dispatches : List DispatchRow) : List DispatchedRow :=
  let listed := rows.filter fun row =>
    (given (opts.itemId.map trim)).all (row.itemId = ·) &&
      (row.readinessState = .ready || row.readinessState = .needsReview) &&
      row.lastDispatchPhid.isSome && !row.retrySafe
  (((listed.map (joinDispatch dispatches)).insertionSort fun a b => (byTerminalRank a b).isLE)).take
    (max 1 (min 100 opts.maxRows)).toNat

/-- The state a stale row is closed to, and the status its dispatch ended with. -/
structure StaleDisposition where
  toState : ReadinessState
  status : String

def staleDisposition (row : DispatchedRow) : Option StaleDisposition :=
  let terminal := duplicateDispatchTerminalDisposition row.outcome
  let status := terminal.status.getD row.outcome.status
  let disposition := classifyDuplicateDispatchRetryDisposition (some { row.outcome with status })
  let reviewed := opts.operatorReviewedNonRetryable && (given (opts.itemId.map trim)).isSome
  if disposition.2 ≠ .close && !reviewed then none
  else if terminal.status.isNone && !readyReconcileTerminalStatuses.contains row.outcome.status then
    none
  else some ⟨if terminal.status = some "done" || terminal.promotionVerified then .done
    else .superseded, status⟩

variable (item : BacklogRow)

def staleReceipt (stale : StaleDisposition) (now : Instant) : StaleDuplicateCloseoutReceipt where
  closedBy := trimmedOr "operator" opts.actor
  closedAt := now
  fromState := item.readinessState
  toState := stale.toState
  reason := .closeOrIgnore
  track := item.track
  nextAction := if stale.toState = .done then .closeDuplicateRow else .supersedeDuplicateRow
  priorDispatchPhid := item.lastDispatchPhid.getD ""
  priorDispatchStatus := stale.status
  supersessionReason := given (opts.reason.map trim)
  safeToNotRedispatch := true
  redispatchReason := trimmedOr
    (if stale.toState = .done then
      "prior dispatch already reached terminal done state; reopening would duplicate completed work"
    else "prior dispatch is " ++ stale.status ++ " with close disposition; this row is stale " ++
      "duplicate backlog state and not retry fuel") opts.reason

/-- `appendSourceRefs` -/
def appendSourceRefs (sourceRefs : List String) (refs : List (Option String)) : List String :=
  (refs.filterMap given).foldl
    (fun sourceRefs ref => if sourceRefs.contains ref then sourceRefs else sourceRefs ++ [ref])
    sourceRefs

def closeoutSourceRefs : List String :=
  appendSourceRefs row.item.sourceRefs
    [(given (row.dispatch.bind (·.artifactPath))).map ("dispatch_artifact:" ++ ·),
      some ("manager:/orchestration/backlog/" ++ row.item.itemId ++
        "#stale-duplicate-closeout-receipt")]

structure StaleReadyItem where
  itemId : String
  toState : ReadinessState

/-- One row of a reconciliation: closed, when it is live, unless it has changed since. -/
def closeStaleRow (closed : List StaleReadyItem)
    (row : DispatchedRow) : Prog (List StaleReadyItem) :=
  match staleDisposition opts row with
  | none => .ret closed
  | some stale =>
    let listed := closed ++ [⟨row.item.itemId, stale.toState⟩]
    (issue .now).bind fun (now : Instant) =>
      if opts.dryRun then .ret listed
      else
        let receipt := staleReceipt opts row.item stale now
        (execUpdate (.closeDuplicate row.item [.ready, .needsReview] stale.toState
          (closeoutSourceRefs row) receipt receipt.closedBy now)).bind fun rowCount =>
          .ret (if rowCount ≠ 1 then closed else listed)

def reconcileStaleAlreadyDispatchedReadyRows : Prog (List StaleReadyItem) :=
  (issue .selectWithDispatches).bind fun (tables : List BacklogRow × List DispatchRow) =>
  Program.fold (staleCandidates opts tables.1 tables.2) [] (closeStaleRow opts)

inductive CloseStaleDuplicateResult where
  | refused (status : Nat) (error reason : String)
  | closed (item : BacklogRow)

/-- `buildStaleDuplicateCloseoutReceipt`, without the receipt. -/
def closeoutDisposition : Option StaleDisposition := do
  let dispatch ← row.dispatch
  let status := dispatchStatus dispatch
  let verified := promotionCompletedAndVerified dispatch.promotionResultJson
  if !readyReconcileTerminalStatuses.contains status then none
  else if status = "failed" && !verified &&
    dispatchFailureRetryable dispatch.failureKind dispatch.failureDetail then none
  else some ⟨if status = "done" || verified then .done else .superseded, status⟩

def duplicateReceipt (actor : String) (item : BacklogRow) (stale : StaleDisposition)
    (now : Instant) : StaleDuplicateCloseoutReceipt where
  closedBy := actor
  closedAt := now
  fromState := .ready
  toState := stale.toState
  reason := .closeOrIgnore
  track := item.track
  nextAction := if stale.toState = .done then .closeDuplicateRow else .supersedeDuplicateRow
  priorDispatchPhid := item.lastDispatchPhid.getD ""
  priorDispatchStatus := stale.status
  safeToNotRedispatch := true
  redispatchReason :=
    if stale.toState = .done then
      "prior dispatch already reached terminal done state; reopening would duplicate completed work"
    else "prior dispatch is terminal " ++ stale.status ++
      "; this row is stale duplicate backlog state and not retry fuel"

def closeoutRefusal (expectedLastDispatchPhid : Option String) : Option CloseStaleDuplicateResult :=
  let phid := item.lastDispatchPhid.getD ""
  if item.readinessState ≠ .ready then
    some (.refused 409 "not_ready_duplicate_dispatch_row"
      ("cannot close stale duplicate from " ++ item.readinessState.text))
  else if item.retrySafe then
    some (.refused 409 "retry_safe_duplicate_dispatch_row"
      "retry_safe rows require explicit retry handling, not stale duplicate closeout")
  else if phid = "" then
    some (.refused 409 "missing_prior_dispatch" "row has no prior dispatch phid")
  else (given expectedLastDispatchPhid).bind fun expected =>
    if phid = expected then none
    else some (.refused 409 "last_dispatch_mismatch"
      ("row now points at " ++ phid ++ ", expected " ++ expected))

/-- The write of a closeout that has passed its checks; `row` is read again for it. -/
def writeCloseout (actor : String) (row : DispatchedRow) (stale : StaleDisposition) :
    Prog CloseStaleDuplicateResult :=
  (issue .now).bind fun (now : Instant) =>
  (execUpdate (.closeDuplicate row.item [.ready] stale.toState (closeoutSourceRefs row)
    (duplicateReceipt actor row.item stale now) actor now)).bind fun _ =>
  (getBacklogItem row.item.itemId).bind fun updated =>
    match updated.filter fun updated =>
      updated.readinessState ≠ .ready && updated.staleDuplicateCloseoutReceipt.isSome with
    | some updated => .ret (.closed updated)
    | none => .ret (.refused 409 "stale_duplicate_not_updated"
        "row changed before stale duplicate closeout was applied")

def closeStaleDuplicateBacklogRow (itemId actor : String)
    (expectedLastDispatchPhid : Option String) : Prog CloseStaleDuplicateResult :=
  let actor := trim actor
  if actor = "" then .ret (.refused 400 "actor_required" "actor is required")
  else (getBacklogItem itemId).bind fun item =>
    match item with
    | none => .ret (.refused 404 "not_found" "backlog item not found")
    | some item =>
      match closeoutRefusal item expectedLastDispatchPhid with
      | some refusal => .ret refusal
      | none => (issue .selectWithDispatches).bind
          fun (tables : List BacklogRow × List DispatchRow) =>
            match tables.1.find? (·.itemId = itemId) with
            | none => .ret (.refused 404 "not_found" "backlog item not found")
            | some row =>
              let row := joinDispatch tables.2 row
              match closeoutDisposition row with
              | none => .ret (.refused 409 "prior_dispatch_not_terminal_or_safe"
                  "prior dispatch does not have terminal evidence safe for stale duplicate closeout")
              | some stale => writeCloseout actor row stale

inductive DispositionResult where
  | refused (status : Nat) (error : String)
  | idempotent (item : BacklogRow)
  | disposed (item : Option BacklogRow) (toState : ReadinessState)

def dispositionAnswer (disposition : DuplicateDispatchRetryDisposition) :
    Option DispositionResult :=
  let existing := item.staleDuplicateCloseoutReceipt.filter fun _ =>
    item.readinessState = .done || item.readinessState = .superseded
  match existing with
  | some receipt =>
    let existingDisposition : DuplicateDispatchRetryDisposition :=
      if receipt.toState = .done then .close else .supersede
    if existingDisposition ≠ disposition then
      some (.refused 409 ("item was already dispositioned as " ++
        if receipt.toState = .done then "close" else "supersede"))
    else some (.idempotent item)
  | none =>
    if (item.readinessState ≠ .ready && item.readinessState ≠ .needsReview) ||
        (given item.lastDispatchPhid).isNone || item.retrySafe then
      some (.refused 409 "item is not an eligible duplicate-dispatch blocker")
    else none

def dispositionRefusal (outcome : Option DispatchOutcome)
    (disposition : DuplicateDispatchRetryDisposition) : Option DispositionResult :=
  let failureClass := classifyDuplicateDispatchFailure outcome
  let recommended := (classifyDuplicateDispatchRetryDisposition outcome).1
  if !([.nonRetryableFailure, .dispatchRouteNotFound, .linkedQueryExpired].contains failureClass) ||
      recommended = .markRetrySafe then
    some (.refused 409 "bounded disposition only supports non-transient failed prior dispatches")
  else if recommended ≠ disposition then
    some (.refused 409 ("safe disposition is " ++
      if recommended = .close then "close" else "supersede"))
  else none

/-- `POST /orchestration/backlog/:id/disposition`; `disposition` is `close` or `supersede`. -/
def disposeBacklogRow (itemId actor reason : String)
    (disposition : DuplicateDispatchRetryDisposition) : Prog DispositionResult :=
  let reason := trim reason
  if disposition = .markRetrySafe then
    .ret (.refused 400 "disposition must be close or supersede")
  else if actor = "" || reason = "" then .ret (.refused 400 "actor and reason are required")
  else (getBacklogItem itemId).bind fun item =>
    match item with
    | none => .ret (.refused 404 "backlog item not found")
    | some item =>
      match dispositionAnswer item disposition with
      | some answer => .ret answer
      | none =>
        (getDispatchOutcomesByPhid item.lastDispatchPhid.toList).bind fun outcomes =>
        match dispositionRefusal (outcomes.get? (item.lastDispatchPhid.getD "")) disposition with
        | some refusal => .ret refusal
        | none =>
          (reconcileStaleAlreadyDispatchedReadyRows {
            actor := actor, itemId := itemId, reason := reason,
            operatorReviewedNonRetryable := true }).bind fun disposed =>
            match disposed.head? with
            | none => .ret (.refused 409 "item disposition did not apply")
            | some disposed => (getBacklogItem itemId).bind fun item =>
                .ret (.disposed item disposed.toState)

end IdAgents.Orchestration
