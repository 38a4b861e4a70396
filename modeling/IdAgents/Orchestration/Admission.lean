import IdAgents.Orchestration.Types

namespace IdAgents.Orchestration
open JsText JsMap

def autoRunRisk : List RiskClass := [.routine, .build]

inductive NonAdmissionCode where
  | notReady | noInFlightSlots | tickAdmissionCap | riskRequiresApproval | brokenDependency
  | blockedDependency | poolCapacityFull | noFreePoolBuilder | singleWriterLaneBusy
  | missingDispatchTarget | targetUnhealthy | providerRuntimeMismatch | clarificationBlocker
  | promotionBlocker | diskWarningFloor | diskCriticalFloor | staleQueuedPriorDispatch
  | duplicateDispatchRetryRequired
deriving DecidableEq, Repr

def NonAdmissionCode.text : NonAdmissionCode → String
  | .notReady => "not_ready"
  | .noInFlightSlots => "no_in_flight_slots"
  | .tickAdmissionCap => "tick_admission_cap"
  | .riskRequiresApproval => "risk_requires_approval"
  | .brokenDependency => "broken_dependency"
  | .blockedDependency => "blocked_dependency"
  | .poolCapacityFull => "pool_capacity_full"
  | .noFreePoolBuilder => "no_free_pool_builder"
  | .singleWriterLaneBusy => "single_writer_lane_busy"
  | .missingDispatchTarget => "missing_dispatch_target"
  | .targetUnhealthy => "target_unhealthy"
  | .providerRuntimeMismatch => "provider_runtime_mismatch"
  | .clarificationBlocker => "clarification_blocker"
  | .promotionBlocker => "promotion_blocker"
  | .diskWarningFloor => "disk_warning_floor"
  | .diskCriticalFloor => "disk_critical_floor"
  | .staleQueuedPriorDispatch => "stale_queued_prior_dispatch"
  | .duplicateDispatchRetryRequired => "duplicate_dispatch_retry_required"

def reasonClass : NonAdmissionCode → String
  | .riskRequiresApproval => "risk_class"
  | .providerRuntimeMismatch => "provider_runtime"
  | .brokenDependency => "broken_dependency"
  | .blockedDependency => "blocked_dependency"
  | .targetUnhealthy | .noFreePoolBuilder => "agent_availability"
  | .singleWriterLaneBusy => "write_scope_lock"
  | .clarificationBlocker => "clarification_blocker"
  | .promotionBlocker => "promotion_blocker"
  | .diskWarningFloor | .diskCriticalFloor => "infra_resource"
  | .duplicateDispatchRetryRequired => "retry_safety"
  | .staleQueuedPriorDispatch => "route_sync"
  | .tickAdmissionCap | .noInFlightSlots | .poolCapacityFull => "config_cap"
  | .notReady | .missingDispatchTarget => "readiness"

def nonAdmission (itemId : String) (action : DecisionAction) (code : NonAdmissionCode)
    (reason : String) (extra : List (String × Json)) : DecisionRecord where
  itemId := itemId
  action := action
  reason := reason
  metadata :=
    let fields : List (String × Json) :=
      [("code", .str code.text), ("class", .str (reasonClass code))] ++ extra
    fields.foldl (fun d field => d.set field.1 field.2) .empty

def strings (texts : List String) : Json := .arr (texts.map .str)

def stringOrNull : Option String → Json
  | some text => .str text
  | none => .null

def number (n : Int) : Json := .num (toString n)

def given (text : Option String) : Option String := text.filter (· ≠ "")

def cleanupTerms : List String :=
  ["cleanup", "clean-up", "disk", "enospc", "hygiene", "free space", "prune", "reclaim", "reaper",
    "worktree hygiene", "node_modules cleanup"]

def deploySafeTerms : List String :=
  ["deploy", "deployment", "promotion", "promote-to-main", "release proof", "release-proof",
    "smoke"]

variable (item : BacklogItem)

def admissionSearchText : String :=
  toLowerCase (String.intercalate "\n" (item.track.toList ++ [item.title] ++
    item.dispatchBody.toList ++ item.writeScope ++ item.sourceRefs))

def isDiskCleanupAdmissionItem : Bool :=
  autoRunRisk.contains item.riskClass &&
    cleanupTerms.any (includes (admissionSearchText item))

def isDeploySafeAdmissionItem : Bool :=
  autoRunRisk.contains item.riskClass &&
    (item.track.any (fun track => "T-DEPLOY".toList.isPrefixOf (toUpperCase track).toList) ||
      deploySafeTerms.any (includes (admissionSearchText item)))

def diskMetadata (disk : DiskHeadroom) (cleanup deploySafe : Bool) : List (String × Json) :=
  [("disk_state", .str disk.state.text),
    ("available_bytes", match disk.availableBytes with
      | some n => number n
      | none => .null),
    ("min_free_bytes", number disk.minFreeBytes), ("warn_free_bytes", number disk.warnFreeBytes),
    ("cleanup_safe", .bool cleanup), ("deploy_safe", .bool deploySafe)]

def diskAdmissionBlocker (disk : Option DiskHeadroom) : Option DecisionRecord := do
  let disk ← disk
  let cleanup := isDiskCleanupAdmissionItem item
  let deploySafe := isDeploySafeAdmissionItem item
  match disk.state with
  | .ok | .unknown => none
  | .critical =>
    if cleanup then none
    else some (nonAdmission item.itemId .held .diskCriticalFloor
      ("disk headroom is critical; only cleanup rows may be admitted until available disk is above "
        ++ toString disk.minFreeBytes ++ " bytes")
      (diskMetadata disk cleanup deploySafe))
  | .warn =>
    if cleanup || deploySafe then none
    else some (nonAdmission item.itemId .held .diskWarningFloor
      ("disk headroom is below warning floor; only cleanup or deploy-safe rows may be admitted " ++
        "until available disk is above " ++ toString disk.warnFreeBytes ++ " bytes")
      (diskMetadata disk cleanup deploySafe))

def runtimeText : Runtime → String
  | .claudeCodeCli => "claude-code-cli"
  | .claudeAgentSdk => "claude-agent-sdk"
  | .claudeCodeLocal => "claude-code-local"
  | .codex => "codex"
  | .cursorCli => "cursor-cli"
  | .openrouter => "openrouter"
  | .publicAgentRemote => "public-agent-remote"
  | .other => "other"

def normalizeRuntime (raw : String) : Runtime :=
  match toLowerCase (trim raw) with
  | "claude" | "claude-code-cli" => .claudeCodeCli
  | "claude-agent-sdk" => .claudeAgentSdk
  | "claude-code-local" => .claudeCodeLocal
  | "codex" => .codex
  | "cursor" | "cursor-cli" => .cursorCli
  | "openrouter" => .openrouter
  | "public-agent-remote" => .publicAgentRemote
  | _ => .other

def resolveProviderFromRuntime (runtime : String) : Provider :=
  match normalizeRuntime runtime with
  | .claudeCodeCli | .claudeAgentSdk | .claudeCodeLocal => .anthropic
  | .codex => .openai
  | .cursorCli => .cursor
  | .openrouter | .publicAgentRemote | .other => .other

structure LaneMismatch where
  reason : String
  metadata : List (String × Json)

def providerMismatch (provider : String) (runtime : Runtime) : Option LaneMismatch :=
  let expected := (resolveProviderFromRuntime (runtimeText runtime)).text
  if provider = expected then none
  else some {
    reason := "provider/runtime mismatch: provider=" ++ provider ++ " does not match runtime=" ++
      runtimeText runtime ++ " (expected provider=" ++ expected ++ ")"
    metadata := [("provider", .str provider), ("runtime", .str (runtimeText runtime)),
      ("expected_provider", .str expected)] }

def targetMismatch (provider : Option String) (runtime : Runtime) (target : Option String)
    (targetRuntime : String) : Option LaneMismatch :=
  let requestedProvider :=
    provider.getD (resolveProviderFromRuntime (runtimeText runtime)).text
  let normalizedTargetRuntime := normalizeRuntime targetRuntime
  let targetProvider := (resolveProviderFromRuntime (runtimeText normalizedTargetRuntime)).text
  if runtime = normalizedTargetRuntime then none
  else some {
    reason := "provider/runtime mismatch: ready row requests " ++ requestedProvider ++ "/" ++
      runtimeText runtime ++ " but target agent " ++ target.getD "(unknown)" ++
      " is registered for " ++ targetProvider ++ "/" ++ runtimeText normalizedTargetRuntime
    metadata := [("provider", .str requestedProvider), ("runtime", .str (runtimeText runtime)),
      ("target", stringOrNull target),
      ("target_runtime", .str (runtimeText normalizedTargetRuntime)),
      ("target_provider", .str targetProvider)] }

def providerRuntimeMismatch (target targetRuntime : Option String) : Option LaneMismatch := do
  let runtime := normalizeRuntime (← given item.runtime)
  (do providerMismatch (← given item.provider) runtime) <|>
    (do targetMismatch item.provider runtime target (← given targetRuntime))

variable (ctx : AdmissionContext)

def targetRuntimeOf (agent : String) : Option String :=
  ctx.targetAgentRuntimes.bind (·.get? agent)

def poolBuilderMatchesRequestedRuntime (builder : String) (ctx : AdmissionContext) : Bool :=
  let targetRuntime := targetRuntimeOf ctx builder
  if (given item.runtime).isSome && (given targetRuntime).isNone then false
  else (providerRuntimeMismatch item builder targetRuntime).isNone

def isHealthy (agent : String) : Bool :=
  ctx.healthyAgents.all (·.contains agent)

def healthyAlternateRecommendation (target : String) (ctx : AdmissionContext) :
    List (String × Json) :=
  let pools := match ctx.poolFreeBuilders with
    | some builders => builders.entries
    | none => []
  let alternate := pools.findSome? fun (poolId, builders) =>
    (given (builders.find? fun agent => agent ≠ target && isHealthy ctx agent)).map (poolId, ·)
  match alternate with
  | some (poolId, agent) =>
    [("unhealthy_target", .str target), ("healthy_alternate_owner", .str agent),
      ("healthy_alternate_pool", .str poolId),
      ("recommended_action", .str ("reroute to " ++ agent ++ " via pool:" ++ poolId))]
  | none =>
    [("unhealthy_target", .str target), ("healthy_alternate_owner", .null),
      ("healthy_alternate_pool", .null),
      ("recommended_action", .str ("restore " ++ target ++
        " health or reroute to a compatible healthy owner before admission"))]

def readinessGate : Option DecisionRecord :=
  if item.readinessState = .ready then none
  else some (nonAdmission item.itemId .skipped .notReady
    ("not ready (" ++ item.readinessState.text ++ ")")
    [("readiness_state", .str item.readinessState.text)])

def ReadyItemBlockerCode.nonAdmission : ReadyItemBlockerCode → NonAdmissionCode
  | .clarificationBlocker => .clarificationBlocker
  | .promotionBlocker => .promotionBlocker
section
variable (item : BacklogItem)

def blockerGate : Option DecisionRecord := do
  let blocker ← ctx.readyItemBlockers.bind (·.get? item.itemId)
  nonAdmission item.itemId .held blocker.code.nonAdmission blocker.reason
    (blocker.metadata.getD [])

/-- A row that has been dispatched waits until it is marked as safe to retry. -/
def retryGate : Option DecisionRecord :=
  match given item.lastDispatchPhid with
  | none => none
  | some phid =>
    let stale := item.retryReadiness.filter fun r =>
      r.status = .waitingOnLiveDispatch && r.priorDispatchStatus = some "queued"
    if item.retrySafe then none
    else match stale with
      | some readiness => some (nonAdmission item.itemId .held .staleQueuedPriorDispatch
        readiness.reason
        [("last_dispatch_phid", .str phid),
          ("prior_dispatch_status", stringOrNull readiness.priorDispatchStatus),
          ("next_action", .str readiness.nextAction.text)])
      | none => some (nonAdmission item.itemId .held .duplicateDispatchRetryRequired
        ("previously-dispatched row " ++ phid ++
          " requires retry_safe=true before it can fire again")
        [("last_dispatch_phid", .str phid)])

def capGate (slotsFree limit : Int) (admitted : Nat) (item : BacklogItem) : Option DecisionRecord :=
  if (admitted : Int) < limit then none
  else if slotsFree = 0 then
    nonAdmission item.itemId .held .noInFlightSlots "no in-flight slots free" []
  else nonAdmission item.itemId .held .tickAdmissionCap "tick admission cap reached" []

def riskGate : Option DecisionRecord :=
  let isApproved := item.approvedAt.isSome || item.autoReadyApprovedAt.isSome
  if autoRunRisk.contains item.riskClass || isApproved then none
  else nonAdmission item.itemId .held .riskRequiresApproval
    ("risk_class=" ++ item.riskClass.text ++ " requires approval batch")
    [("risk_class", .str item.riskClass.text)]

def brokenDeps : List String :=
  item.dependencies.filter fun d => (ctx.dependencyIndex.get? d).isNone

def pendingDeps : List String :=
  item.dependencies.filter fun d => ctx.dependencyIndex.get? d = some false

def dependencyGate : Option DecisionRecord :=
  let broken := brokenDeps ctx item
  let pending := pendingDeps ctx item
  if broken ≠ [] then
    nonAdmission item.itemId .held .brokenDependency
      ("dependency references no known item (item_id or logical_key): " ++
        String.intercalate ", " broken) [("dependencies", strings broken)]
  else if pending ≠ [] then
    nonAdmission item.itemId .skipped .blockedDependency
      ("blocked: dependency not done (" ++ String.intercalate ", " pending ++ ")")
      [("dependencies", strings pending)]
  else none

def rowGate (slotsFree limit : Int) (admitted : Nat) (item : BacklogItem) : Option DecisionRecord :=
  readinessGate item <|> blockerGate ctx item <|> retryGate item <|>
    diskAdmissionBlocker item ctx.diskHeadroom <|> capGate slotsFree limit admitted item <|>
      riskGate item <|> dependencyGate ctx item

structure Running where
  lockedScopes : List String
  poolSlots : Dict String Int
  poolBuilders : Dict String (List String)

/-- The builder that is preferred for a row, if there is one to take: the first that suits its
runtime, or else the first. -/
def builderIndex (builders : List String) : Option Nat :=
  builders.findIdx? (fun builder =>
    isHealthy ctx builder && poolBuilderMatchesRequestedRuntime item builder ctx) <|>
      builders.findIdx? (isHealthy ctx)

/-- `builders.splice(index, 1)`: the builder taken and those left. -/
def takeBuilder (builders : List String) : Option String × List String :=
  match builderIndex ctx item builders with
  | some index => (builders[index]?, builders.eraseIdx index)
  | none => (none, builders)

def laneBlockers (poolId : String) : List PoolLaneBlocker :=
  (ctx.poolLaneBlockers.bind (·.get? poolId)).getD []

def PoolLaneBlocker.json (blocker : PoolLaneBlocker) : Json :=
  .obj [("agent", .str blocker.agent), ("code", .str blocker.code),
    ("reason", .str blocker.reason)]

def poolFull (poolId : String) : DecisionRecord :=
  nonAdmission item.itemId .held .poolCapacityFull ("pool capacity full: " ++ poolId)
    [("pool_id", .str poolId),
      ("lane_blockers", .arr ((laneBlockers ctx poolId).map PoolLaneBlocker.json))]

def noBuilder (poolId : String) (builders : List String) : DecisionRecord :=
  let blockers := laneBlockers ctx poolId
  let unhealthyTargets := (blockers.filter (·.code = "target_unhealthy")).map (·.agent)
  let reason :=
    if unhealthyTargets ≠ [] then "pool " ++ poolId ++ " has no healthy/online builder"
    else if ctx.healthyAgents.isSome && builders ≠ [] then
      "no healthy free builder in pool: " ++ poolId
    else "no free builder in pool: " ++ poolId
  nonAdmission item.itemId .held
    (if unhealthyTargets ≠ [] then .targetUnhealthy else .noFreePoolBuilder) reason
    ([("pool_id", .str poolId)] ++
      (if ctx.healthyAgents.isSome then [("candidate_builders", strings builders)] else []) ++
        [("lane_blockers", .arr (blockers.map PoolLaneBlocker.json))] ++
          match unhealthyTargets with
          | first :: _ => [("target", .str first), ("targets", strings unhealthyTargets)]
          | [] => [])

/-- The lane that a row may go to: a pool with one of its builders, or its own target. -/
inductive Lane where
  | pool (poolId builder : String)
  | own

def poolOf : Option String :=
  given (ctx.poolFor item)

/-- A free slot and a builder of a pool; the builder is taken from the pool's list at once. -/
def poolLane (running : Running) (item : BacklogItem)
    (poolId : String) : Except DecisionRecord Lane × Running :=
  if (running.poolSlots.get? poolId).getD 0 ≤ 0 then (.error (poolFull ctx item poolId), running)
  else
    let (assigned, builders) :=
      takeBuilder ctx item ((running.poolBuilders.get? poolId).getD [])
    let running :=
      if running.poolBuilders.has poolId then
        { running with poolBuilders := running.poolBuilders.set poolId builders }
      else running
    match given assigned with
    | some builder => (.ok (.pool poolId builder), running)
    | none => (.error (noBuilder ctx item poolId builders), running)

def ownLane (running : Running) (item : BacklogItem) : Except DecisionRecord Lane :=
  match given (item.writeScope.find? running.lockedScopes.contains) with
  | some scopeClash => .error (nonAdmission item.itemId .skipped .singleWriterLaneBusy
      ("single-writer lane busy: " ++ scopeClash) [("write_scope", .str scopeClash)])
  | none => .ok .own

def laneOf (running : Running) (item : BacklogItem) : Except DecisionRecord Lane × Running :=
  match poolOf ctx item with
  | some poolId => poolLane ctx running item poolId
  | none => (ownLane running item, running)

def Lane.target : Lane → Option String
  | .pool _ builder => some builder
  | .own => item.toAgent

def targetGate (lane : Lane) : Option DecisionRecord :=
  let reached := match lane with
    | .pool .. => true
    | .own => (given item.toAgent).isSome
  if (given item.dispatchBody).isSome && reached then none
  else nonAdmission item.itemId .skipped .missingDispatchTarget
    "ready item missing to_agent or dispatch_body"
    [("has_to_agent", .bool (given item.toAgent).isSome),
      ("has_dispatch_body", .bool (given item.dispatchBody).isSome)]

def mismatchGate (lane : Lane) : Option DecisionRecord := do
  let target := lane.target item
  let mismatch ← providerRuntimeMismatch item target
    ((given target).bind (targetRuntimeOf ctx))
  nonAdmission item.itemId .held .providerRuntimeMismatch mismatch.reason mismatch.metadata

def healthGate (lane : Lane) : Option DecisionRecord :=
  match given (lane.target item) with
  | none => none
  | some target =>
    if isHealthy ctx target then none
    else some (nonAdmission item.itemId .held .targetUnhealthy
      ("target agent '" ++ target ++ "' is not healthy/online (RD-014 admission health gate); " ++
        "reroute to a healthy compatible owner or restore target health before retry")
      (("target", .str target) :: healthyAlternateRecommendation target ctx))

def laneGate (lane : Lane) : Option DecisionRecord :=
  targetGate item lane <|> mismatchGate ctx item lane <|> healthGate ctx item lane

end

structure Progress where
  admits : List BacklogItem := []
  assignments : Dict String String := .empty
  skipped : List DecisionRecord := []
  running : Running

def Progress.skip (p : Progress) (record : DecisionRecord) : Progress :=
  { p with skipped := p.skipped ++ [record] }

def Progress.admitted (p : Progress) (item : BacklogItem) : Lane → Progress
  | .pool poolId builder =>
    { p with
      admits := p.admits ++ [item]
      assignments := p.assignments.set item.itemId builder
      running := { p.running with
        poolSlots :=
          p.running.poolSlots.set poolId ((p.running.poolSlots.get? poolId).getD 0 - 1) } }
  | .own =>
    { p with
      admits := p.admits ++ [item]
      running := { p.running with lockedScopes := p.running.lockedScopes ++ item.writeScope } }

def consider (slotsFree limit : Int) (p : Progress) (item : BacklogItem) : Progress :=
  match rowGate ctx slotsFree limit p.admits.length item with
  | some record => p.skip record
  | none =>
    match laneOf ctx p.running item with
    | (.error record, running) => { p with running }.skip record
    | (.ok lane, running) =>
      match laneGate ctx item lane with
      | some record => { p with running }.skip record
      | none => { p with running }.admitted item lane

def tickHalt : Option String :=
  if ctx.killSwitchActive then some "kill switch present"
  else match ctx.mode with
    | .stopped => some "mode=stopped"
    | .paused => some "mode=paused"
    | .drainOnly => some "mode=drain_only (no new admission)"
    | .approveOnly => some "mode=approve_only (candidates batch for approval, not fired)"
    | .running => if ctx.hardPaused then some "usage gate hard-paused" else none

def slotsFree (config : ContinuousOrchestrationConfig) : Int :=
  max 0 (config.maxInFlight - ctx.inFlight)

def admissionLimit (config : ContinuousOrchestrationConfig) : Int :=
  max 0 (min ctx.admitLimit (slotsFree ctx config))

def AdmissionContext.running : Running where
  lockedScopes := ctx.activeWriteScopes
  poolSlots := ctx.poolFreeSlots.getD .empty
  poolBuilders := ctx.poolFreeBuilders.getD .empty

def planAdmission (candidates : List BacklogItem) (ctx : AdmissionContext)
    (config : ContinuousOrchestrationConfig) : AdmissionPlan :=
  match tickHalt ctx with
  | some reason => ⟨some reason, [], .empty, []⟩
  | none =>
    let p := candidates.foldl (consider ctx (slotsFree ctx config) (admissionLimit ctx config))
      { running := ctx.running }
    ⟨none, p.admits, p.assignments, p.skipped⟩

end IdAgents.Orchestration
