import IdAgents.Orchestration.Closeout

namespace IdAgents.Orchestration
open JsText JsMap JsRegex AtomicProgram

structure ClassifiedItem where
  itemId : String
  failureKind : Option FailureKind
  failureClass : DuplicateDispatchFailureClass
  recommended : DuplicateDispatchRetryDisposition

def classifyItem (outcomes : Dict String DispatchOutcome) (item : BacklogRow) : ClassifiedItem :=
  let outcome := outcomes.get? (item.lastDispatchPhid.getD "")
  { itemId := item.itemId
    failureKind := outcome.bind (·.failureKind)
    failureClass := classifyDuplicateDispatchFailure outcome
    recommended := (classifyDuplicateDispatchRetryDisposition outcome).1 }

/-- The ids of rows have one form, so that their code units order them as `localeCompare` does. -/
def buildDuplicateDispatchRetryClassificationReport (items : List BacklogRow)
    (outcomes : Dict String DispatchOutcome) : List ClassifiedItem :=
  (orderBy (fun a b => compare a.itemId b.itemId) (items.filter fun item =>
    (item.readinessState = .ready || item.readinessState = .needsReview) &&
      (given item.lastDispatchPhid).isSome && !item.retrySafe)).map (classifyItem outcomes)

inductive LifecycleAction where
  | autoClose | supersede | markRetrySafe | hold
deriving DecidableEq, Repr

inductive LifecycleOutcome where
  | applied | wouldApply | held | conflict
deriving DecidableEq, Repr

structure LifecycleReconciliationActionReceipt where
  itemId : String
  action : LifecycleAction
  outcome : LifecycleOutcome

structure LifecycleOptions where
  actor : String
  dryRun : Bool
  maxActions : Int

def DuplicateDispatchFailureClass.text : DuplicateDispatchFailureClass → String
  | .linkedQueryExpired => "linked_query_expired"
  | .dispatchRouteNotFound => "dispatch_route_not_found"
  | .failedVerification => "failed_verification"
  | .needsInput => "needs_input"
  | .liveOrQueued => "live_or_queued"
  | .staleDuplicate => "stale_duplicate"
  | .retryableTransient => "retryable_transient"
  | .nonRetryableFailure => "non_retryable_failure"
  | .missingPriorDispatch => "missing_prior_dispatch"

variable (opts : LifecycleOptions)

def closeClassified (item : ClassifiedItem) (action : LifecycleAction)
    (toState : ReadinessState) : Prog LifecycleReconciliationActionReceipt :=
  (reconcileStaleAlreadyDispatchedReadyRows {
    dryRun := opts.dryRun, actor := opts.actor, itemId := item.itemId, maxRows := 1 }).bind
      fun closed =>
        let applied := closed.any (·.toState = toState)
        .ret ⟨item.itemId, action,
          if !applied then .conflict else if opts.dryRun then .wouldApply else .applied⟩

def applyClassified (item : ClassifiedItem) : Prog LifecycleReconciliationActionReceipt :=
  if item.failureClass = .staleDuplicate && item.recommended = .close then
    closeClassified opts item .autoClose .done
  else if item.failureClass = .staleDuplicate && item.recommended = .supersede then
    closeClassified opts item .supersede .superseded
  else if item.failureClass = .retryableTransient && item.recommended = .markRetrySafe then
    if opts.dryRun then .ret ⟨item.itemId, .markRetrySafe, .wouldApply⟩
    else
      (markFailedDuplicateDispatchRetrySafe item.itemId opts.actor
        ("verified environmental failure: " ++
          (item.failureKind.map FailureKind.text).getD item.failureClass.text)).bind fun result =>
        .ret ⟨item.itemId, .markRetrySafe, match result with
          | .marked .. => .applied
          | .refused .. => .conflict⟩
  else .ret ⟨item.itemId, .hold, .held⟩

def lifecycleStep (receipts : List LifecycleReconciliationActionReceipt)
    (item : ClassifiedItem) : Prog (List LifecycleReconciliationActionReceipt) :=
  (applyClassified opts item).bind fun receipt => .ret (receipts ++ [receipt])

def runBoundedLifecycleReconciliationCycle : Prog (List LifecycleReconciliationActionReceipt) :=
  (listBacklogByState .ready).bind fun candidates =>
  (getDispatchOutcomesByPhid (candidates.filterMap (given ·.lastDispatchPhid))).bind
    fun outcomes =>
  let selected := (buildDuplicateDispatchRetryClassificationReport candidates outcomes).take
    (max 1 (min 100 opts.maxActions)).toNat
  (Program.fold selected [] (lifecycleStep opts)).bind fun receipts =>
    if opts.dryRun then .ret receipts
    else appendDecisions.bind fun _ => .ret receipts

def agentNamed (agents : List AgentRow) (name : String) : Option AgentRow :=
  (agents.find? fun a => a.name = name && a.status = "running") <|> agents.find? (·.name = name)

def canonicalRuntime (runtime : Option String) : Option Runtime := (given runtime).map normalizeRuntime

variable (item : BacklogRow)

def currentProvider : Option String :=
  item.provider <|> (canonicalRuntime item.runtime).map fun runtime =>
    (resolveProviderFromRuntime (runtimeText runtime)).text

def isClaudeRuntime (runtime : Option Runtime) : Bool :=
  runtime = some .claudeCodeCli || runtime = some .claudeAgentSdk || runtime = some .claudeCodeLocal

def artifactLike (value : String) : Bool :=
  value = "output" || value = "output/" || includes value "/output/" ||
    "/output".toList.isSuffixOf value.toList || "output/".toList.isPrefixOf value.toList ||
    "artifact:".toList.isPrefixOf value.toList || "artifacts/".toList.isPrefixOf value.toList

def isArtifactOnlyReadyRow : Bool :=
  let normalized (texts : List String) := (texts.map fun t => toLowerCase (trim t)).filter (· ≠ "")
  let writeScopes := normalized item.writeScope
  let sourceRefs := normalized item.sourceRefs
  if writeScopes.isEmpty then !sourceRefs.isEmpty && sourceRefs.all artifactLike
  else writeScopes.all artifactLike

def legacyCodexOwnerLanes : List String := ["roger", "regina"]

def legacyClaudeOwnerLanes : List String := ["cto", "maestra", "claude"]

def targetLane : String := toLowerCase (trim (item.toAgent.getD ""))

def shouldRepairReadyRowToClaude (agent : Option AgentRow) : Bool :=
  let targetRuntime := canonicalRuntime (agent.bind (·.runtime))
  isArtifactOnlyReadyRow item &&
    (isClaudeRuntime targetRuntime || legacyClaudeOwnerLanes.contains (targetLane item)) &&
    !(canonicalRuntime item.runtime = some .claudeCodeCli &&
      currentProvider item = some "anthropic")

def shouldRepairReadyRowToCodex (agent : Option AgentRow) : Bool :=
  canonicalRuntime (agent.bind (·.runtime)) = some .codex ||
    "pool:".toList.isPrefixOf (targetLane item).toList ||
    ((currentProvider item = some "anthropic" ||
        isClaudeRuntime (canonicalRuntime item.runtime)) &&
      legacyCodexOwnerLanes.contains (targetLane item) && agent.map (·.status) ≠ some "running")

structure ReadyRuntimeRepair where
  itemId : String
  toProvider : String
  toRuntime : String

def runtimeRepair (agents : List AgentRow) (item : BacklogRow) : Option ReadyRuntimeRepair :=
  let agent := item.toAgent.bind (agentNamed agents)
  let toClaude := shouldRepairReadyRowToClaude item agent
  if !toClaude && !shouldRepairReadyRowToCodex item agent then none
  else
    let targetRuntime : Runtime := if toClaude then .claudeCodeCli else .codex
    let targetProvider := (resolveProviderFromRuntime (runtimeText targetRuntime)).text
    if canonicalRuntime item.runtime = some targetRuntime &&
        currentProvider item = some targetProvider &&
        item.runtime.map trim = some (runtimeText targetRuntime) then none
    else some ⟨item.itemId, targetProvider, runtimeText targetRuntime⟩

def isRepairCandidate : Bool :=
  item.readinessState = .ready && item.approvedBy.isSome && item.approvedAt.isSome &&
    item.toAgent.isSome

def repairRow (apply : Bool) (repairs : List ReadyRuntimeRepair) (repair : ReadyRuntimeRepair) :
    Prog (List ReadyRuntimeRepair) :=
  if apply then
    (issue .now).bind fun (now : Instant) =>
    (execUpdate (.repairRuntime repair.itemId repair.toProvider repair.toRuntime now)).bind fun _ =>
      .ret (repairs ++ [repair])
  else .ret (repairs ++ [repair])

def repairReadyCodexRuntimeMetadata (apply : Bool) : Prog (List ReadyRuntimeRepair) :=
  (issue .selectWithAgents).bind fun (tables : List BacklogRow × List AgentRow) =>
  Program.fold ((tables.1.filter isRepairCandidate).filterMap (runtimeRepair tables.2)) []
    (repairRow apply)

def offlineAgentStatuses : List String := ["stopped", "offline", "deleted", "unhealthy", "error"]

def isOfflineTargetAgent (target : Option String) : Prog Bool :=
  match given (target.map trim) with
  | none => .ret true
  | some name =>
    if "pool:".toList.isPrefixOf name.toList then .ret false
    else (issue .selectAgents).bind fun (agents : List AgentRow) =>
      let status := ((agentNamed agents name).map fun a => toLowerCase (trim a.status)).getD ""
      .ret (status = "" || offlineAgentStatuses.contains status)

/-- `/\bwave\s*66\b/i` -/
def wave66Pattern : Regex :=
  seqs [.wordBoundary, litI "wave", .many (.one isSpace), lit "66", .wordBoundary]

def itemContainsWave66 : Bool :=
  wave66Pattern.test (String.intercalate " " ([item.title] ++ item.dispatchBody.toList ++
    item.logicalKey.toList ++ item.track.toList ++ item.sourceRefs))

def offlineReceipt (actor reason : String) (stale superseding : BacklogRow) (now : Instant) :
    StaleDuplicateCloseoutReceipt where
  closedBy := actor
  closedAt := now
  fromState := .ready
  toState := .superseded
  reason := .offlineTargetSupersededByFresherWave66
  track := stale.track
  nextAction := .supersedeOfflineReadyRow
  priorDispatchPhid := stale.lastDispatchPhid.getD ""
  priorDispatchStatus := "target_offline"
  successorDispatchPhid := superseding.lastDispatchPhid
  oldTargetAgent := stale.toAgent
  supersedingCoitemId := some superseding.itemId
  supersessionReason := some reason
  safeToNotRedispatch := true
  redispatchReason := reason

def offlineRequestError (itemId supersedingCoitemId reason : String) : Option String :=
  if itemId = "" then some "item_id is required"
  else if supersedingCoitemId = "" then some "superseding_coitem_id is required"
  else if reason = "" then some "reason is required"
  else if itemId = supersedingCoitemId then
    some "superseding_coitem_id must differ from item_id"
  else none

def offlineSupersessionError (stale superseding : BacklogRow) (offline : Bool) : Option String :=
  if !offline then some ("target agent is not offline: " ++ stale.toAgent.getD "(none)")
  else if !itemContainsWave66 superseding then
    some ("superseding coitem is not marked as Wave66 work: " ++ superseding.itemId)
  else if superseding.createdAt < stale.createdAt then
    some ("superseding coitem is not fresher than " ++ stale.itemId)
  else none

def supersedeOfflineRow (actor reason : String) (dryRun : Bool) (stale superseding : BacklogRow) :
    Prog Unit :=
  (isOfflineTargetAgent stale.toAgent).bind fun offline =>
  match offlineSupersessionError stale superseding offline with
  | some error => .throw error
  | none =>
    (issue .now).bind fun (now : Instant) =>
    if dryRun then .ret ()
    else
      (execUpdate (.supersedeOffline stale
        (appendSourceRefs stale.sourceRefs [some ("superseded_by:" ++ superseding.itemId)])
        (offlineReceipt actor reason stale superseding now) actor now)).bind fun _ => .ret ()

def reconcileOfflineSupersededReadyRow (itemId supersedingCoitemId reason : String)
    (actor : Option String) (dryRun : Bool) : Prog Unit :=
  let itemId := trim itemId
  let supersedingCoitemId := trim supersedingCoitemId
  let reason := trim reason
  match offlineRequestError itemId supersedingCoitemId reason with
  | some error => .throw error
  | none => selectRows.bind fun rows =>
    match rows.find? (·.itemId = itemId), rows.find? (·.itemId = supersedingCoitemId) with
    | none, _ => .throw ("ready row not found: " ++ itemId)
    | some _, none => .throw ("superseding coitem not found: " ++ supersedingCoitemId)
    | some stale, some superseding =>
      if stale.readinessState ≠ .ready then
        .throw ("cannot supersede " ++ itemId ++ " from " ++ stale.readinessState.text)
      else supersedeOfflineRow (trimmedOr "operator" actor) reason dryRun stale superseding

end IdAgents.Orchestration
