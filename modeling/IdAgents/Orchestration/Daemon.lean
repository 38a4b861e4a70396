import IdAgents.Orchestration.Selection

namespace IdAgents.Orchestration
open JsText JsMap AtomicProgram

structure DaemonConfig extends ContinuousOrchestrationConfig where
  dryRun : Bool
  dailyTokenCeiling : Int
  maxNewPerTick : Int
  lifecycleReconciliationEnabled : Bool
  lifecycleReconciliationMaxPerTick : Int
  stallThresholdTicks : Int
  maxEnqueuesPerTick : Int
  staleInFlightMs : Int
  poolStaleInFlightMs : Int
  autoFleshEnabled : Bool
  minReadyFuel : Int
  minReadyLanes : Int
  maxFleshPerTick : Int
  autoPromoteEnabled : Bool
  autoPromoteFloor : Int
  autoPromoteMinLanes : Int
  autoPromoteMaxPerTick : Int
  flesh : FleshConfig

def defaultConfig : DaemonConfig where
  maxInFlight := 2
  dryRun := true
  dailyTokenCeiling := 5000000
  maxNewPerTick := 1
  lifecycleReconciliationEnabled := false
  lifecycleReconciliationMaxPerTick := 25
  stallThresholdTicks := 3
  maxEnqueuesPerTick := 0
  staleInFlightMs := 1800000
  poolStaleInFlightMs := 600000
  autoFleshEnabled := false
  minReadyFuel := 8
  minReadyLanes := 1
  maxFleshPerTick := 5
  autoPromoteEnabled := true
  autoPromoteFloor := 12
  autoPromoteMinLanes := 2
  autoPromoteMaxPerTick := 5
  flesh := defaultFleshConfig

structure DaemonDeps where
  config : DaemonConfig
  pools : Option PoolRouting

def terminalDispatchStatuses : List String :=
  ["done", "failed", "failed_needs_operator", "cancelled", "moot"]

variable (config : DaemonConfig)

/-- The state a dispatched row is released to: by the status its dispatch has ended with, or by the
reaper, which takes rows that are in flight for too long. -/
def releaseState (nowMs : Instant) (status : Option String)
    (item : BacklogRow) : Option ReadinessState :=
  match status.filter terminalDispatchStatuses.contains with
  | some status =>
    some (if status = "done" then .done else if status = "cancelled" then .cancelled
      else .needsReview)
  | none =>
    let isPoolBuild := item.writeScope.any (includes · "/.worktrees/")
    let window := if isPoolBuild then config.poolStaleInFlightMs else config.staleInFlightMs
    if item.readinessState = .inFlight && window < nowMs - item.updatedAt then some .needsReview
    else none

def reconcileItem (nowMs : Instant) (statuses : Dict String String)
    (reconciled : List String) (item : BacklogRow) : Prog (List String) :=
  match releaseState config nowMs ((given item.lastDispatchPhid).bind statuses.get?) item with
  | none => .ret reconciled
  | some toState =>
    if config.dryRun then .ret (reconciled ++ [item.itemId])
    else (setItemState item toState).bind fun _ => .ret (reconciled ++ [item.itemId])

def reconcileDispatchedItems (nowMs : Instant) : Prog (List String) :=
  (listBacklogByState .queued).bind fun queuedItems =>
  (listBacklogByState .inFlight).bind fun inFlightItems =>
  let items := queuedItems ++ inFlightItems
  if items.isEmpty then .ret []
  else (getDispatchStatusesByPhid (items.filterMap (given ·.lastDispatchPhid))).bind
    fun statuses => Program.fold items [] (reconcileItem config nowMs statuses)

def reconcileStaleReady : Prog Unit :=
  if config.lifecycleReconciliationEnabled then .ret ()
  else (reconcileStaleAlreadyDispatchedReadyRows {
    dryRun := config.dryRun, actor := "continuous-orchestration" }).bind fun _ => .ret ()

def reconcileLifecycle : Prog (List String) :=
  if config.lifecycleReconciliationEnabled then
    (runBoundedLifecycleReconciliationCycle {
      actor := "continuous-orchestration:lifecycle-reconciler"
      dryRun := config.dryRun
      maxActions := config.lifecycleReconciliationMaxPerTick }).bind fun receipts =>
      .ret ((receipts.filter fun r => r.action = .markRetrySafe && r.outcome = .applied).map
        (·.itemId))
  else (reconcileStaleReady config).bind fun _ => .ret []

structure TickReadings where
  state : Mode.OrchestrationState
  killSwitch : Bool
  usage : UsageReading
  inFlight : List BacklogRow
  diskHeadroom : Option DiskHeadroom
section
variable (r : TickReadings)

def TickReadings.refills : Bool :=
  r.state.mode = .running && !r.killSwitch && !r.usage.hardPaused

def nonUsefulProviderRuntimeReadyFuelIds (ready : List BacklogRow) : Prog (List String) :=
  let readyBuild := ready.filter (·.riskClass = .build)
  if readyBuild.isEmpty then .ret []
  else (getAgentRuntimeMap (readyBuild.filterMap (given ·.toAgent))).bind fun runtimes =>
    .ret ((readyBuild.filter fun item => (providerRuntimeMismatch (rowToBacklogItem item)
      item.toAgent ((given item.toAgent).bind runtimes.get?)).isSome).map (·.itemId))

def autoPromoteItem (promoted : Nat) (item : BacklogRow) : Prog Nat :=
  (promoteToReady item.itemId "auto-promote-policy" false).bind fun result =>
    .ret (match result with
      | .promoted _ => promoted + 1
      | .refused _ => promoted)

def autoPromote (promote : List BacklogRow) : Prog Nat :=
  if config.dryRun then .ret promote.length else Program.fold promote 0 autoPromoteItem

/-- The promotion inside the `try`. -/
def autoPromoteFuel : Prog (Option Nat) :=
  listReadyItems.bind fun ready =>
  (listBacklogByState .needsReview).bind fun needsReview =>
  (listBacklogByState .inFlight).bind fun inFlight =>
  (nonUsefulProviderRuntimeReadyFuelIds ready).bind fun nonUseful =>
  match (usefulReadyBuild ready inFlight config.maxInFlight nonUseful).bind fun fuel =>
      selectAutoPromotions needsReview fuel {
        floor := config.autoPromoteFloor
        minLanes := config.autoPromoteMinLanes
        maxPerPass := config.autoPromoteMaxPerTick } with
  | none => .ret none
  | some promote => (autoPromote config promote).bind fun promoted => .ret (some promoted)

def maybeAutoPromote : Prog (Option Nat) :=
  if !config.autoFleshEnabled || !config.autoPromoteEnabled || !r.refills then .ret none
  else (autoPromoteFuel config).tryCatch fun _ => .ret none

def unlimitedAdmit : Int := 9007199254740991

structure TickWriteCaps where
  refuelCap : Int
  admitCap : Int

def tickWriteCaps (refuelFleshed : Int) : TickWriteCaps :=
  let budget := config.maxEnqueuesPerTick
  let maxFlesh := max 0 config.maxFleshPerTick
  if budget ≤ 0 then ⟨maxFlesh, unlimitedAdmit⟩
  else
    let fleshed := max 0 refuelFleshed
    ⟨min maxFlesh budget, if 0 < fleshed then 0 else max 0 (budget - fleshed)⟩

def fleshPass (limit : Int) : Prog (Option FleshRunSummary) :=
  ((runFleshPass config.flesh config.maxFleshPerTick {
    dryRun := config.dryRun
    limit := limit
    remainingDaemonBudget := some (max 0 (config.dailyTokenCeiling - r.usage.dailyTokensUsed))
      }).bind fun summary => .ret (some summary)).tryCatch fun _ => .ret none

def maybeRefuel : Prog (Option FleshRunSummary) :=
  if !config.autoFleshEnabled || !r.refills then .ret none
  else
    listReadyItems.bind fun ready =>
    (listBacklogByState .inFlight).bind fun inFlight =>
    if config.maxInFlight ≤ inFlight.length ||
        !needsRefuel ready config.minReadyFuel config.minReadyLanes then .ret none
    else fleshPass config r (min config.maxFleshPerTick (tickWriteCaps config 0).refuelCap)

end

structure ReadyProjection where
  ready : List BacklogRow
  ordered : List BacklogRow
  outcomes : Dict String DispatchOutcome
  gate : Option PoolGate
  healthyAgents : List String
  targetAgentRuntimes : Dict String String

variable (p : ReadyProjection)

def ReadyProjection.candidates : List BacklogItem :=
  p.ordered.map (attachBacklogRetryReadiness p.outcomes)

def projectReady (pools : Option PoolRouting) (ready : List BacklogRow) : Prog ReadyProjection :=
  let ordered := fairInterleaveByLane (orderCandidates ready)
  (getDispatchOutcomesByPhid (ready.filterMap (given ·.lastDispatchPhid))).bind fun outcomes =>
  (buildPoolGate pools (ordered.map (attachBacklogRetryReadiness outcomes))).bind fun gate =>
  let names := ordered.filterMap (given ·.toAgent) ++
    (gate.map fun g => g.freeBuilders.values.flatten).getD []
  (getHealthyAgentNames names).bind fun healthyAgents =>
  (getAgentRuntimeMap names).bind fun runtimes =>
  .ret ⟨ready, ordered, outcomes, gate.map (applyPoolHealthGate · healthyAgents), healthyAgents,
    runtimes⟩

def rerouteTarget (busyAgents : List String)
    (equivalentTarget : BacklogItem → String → List String → List String → Dict String String →
      Option String) (item : BacklogRow) : Option String :=
  (given (item.toAgent.map trim)).bind fun unhealthyTarget =>
    if p.healthyAgents.contains unhealthyTarget || (given item.lastDispatchPhid).isSome then none
    else equivalentTarget (attachBacklogRetryReadiness p.outcomes item) unhealthyTarget
      p.healthyAgents busyAgents p.targetAgentRuntimes

def rerouteItem (target : BacklogRow → Option String) (changed : Bool)
    (item : BacklogRow) : Prog Bool :=
  match target item with
  | none => .ret changed
  | some target =>
    if config.dryRun then .ret changed
    else (updateBacklogFields item.itemId { toAgent := some (some target) }
      (some (some "continuous-orchestration"))).bind fun updated =>
        .ret (changed || updated.isSome)

variable (deps : DaemonDeps)

def rerouteTargetUnhealthyReadyRows (p : ReadyProjection) : Prog Bool :=
  match deps.pools.bind (·.healthyEquivalentTarget) with
  | none => .ret false
  | some equivalentTarget =>
    (listBacklogByState .inFlight).bind fun inFlight =>
    (getDispatchOutcomesByPhid (p.ordered.filterMap (given ·.lastDispatchPhid))).bind fun _ =>
    Program.fold p.ordered false (rerouteItem deps.config
      (rerouteTarget p (inFlight.filterMap (given ·.toAgent)) equivalentTarget))

structure ReadyReadings where
  projection : ReadyProjection
  dependencyIndex : Dict String Bool
  readyItemBlockers : Dict String ReadyItemBlocker

def readReady (markedThisCycle : List String) : Prog ReadyReadings :=
  (repairReadyCodexRuntimeMetadata true).bind fun _ =>
  (reconcileTerminalBacklogDependencies 100 deps.config.dryRun
    "continuous-orchestration:dependency-reconciler").bind fun _ =>
  listReadyItems.bind fun ready =>
  listDependencyResolution.bind fun dependencyIndex =>
  (projectReady deps.pools (ready.filter fun item => !markedThisCycle.contains item.itemId)).bind
    fun projection =>
  (issue .readyItemBlockers).bind fun (blockers : Dict String ReadyItemBlocker) =>
  (rerouteTargetUnhealthyReadyRows deps projection).bind fun changed =>
    if changed && !deps.config.dryRun then
      listReadyItems.bind fun ready =>
      (projectReady deps.pools ready).bind fun projection =>
      .ret ⟨projection, dependencyIndex, blockers⟩
    else .ret ⟨projection, dependencyIndex, blockers⟩

def tickAdmitLimit : Int := max config.maxInFlight config.maxNewPerTick

def admissionContext (r : TickReadings) (refuel : Option FleshRunSummary)
    (rr : ReadyReadings) : AdmissionContext where
  mode := r.state.mode
  killSwitchActive := r.killSwitch
  hardPaused := r.usage.hardPaused
  inFlight := r.inFlight.length
  activeWriteScopes := r.inFlight.flatMap (·.writeScope)
  dependencyIndex := rr.dependencyIndex
  admitLimit := min (tickAdmitLimit config)
    (tickWriteCaps config ((refuel.map fun s => (s.autoReady : Int)).getD 0)).admitCap
  poolFor := (rr.projection.gate.map (·.poolFor)).getD fun _ => none
  poolFreeSlots := rr.projection.gate.map (·.freeSlots)
  poolFreeBuilders := rr.projection.gate.map (·.freeBuilders)
  poolLaneBlockers := rr.projection.gate.map (·.laneBlockers)
  healthyAgents := rr.projection.healthyAgents
  targetAgentRuntimes := rr.projection.targetAgentRuntimes
  readyItemBlockers := rr.readyItemBlockers
  diskHeadroom := r.diskHeadroom

def scheduled : IdAgents.Prog α → Prog α
  | .ret a => .ret a
  | .throw (.conflict message) | .throw (.other message) => .throw message
  | .throw .uniqueConstraint => .throw "UNIQUE constraint failed"
  | .issue c k => .issue (S := sql) (.scheduler c) fun a => scheduled (k a)

variable (item : BacklogRow)

def dedupKeyOf : String :=
  item.logicalKey.getD ("orchestration-item:" ++ item.itemId)

def enqueueInput (payload : EnqueuePayload) : EnqueueInput where
  queryId := payload.queryId
  toAgent := item.toAgent.getD ""
  fromActor := "continuous-orchestration"
  channel := "dispatch"
  subject := payload.subject
  bodyMarkdown := payload.bodyMarkdown
  provider := resolveProviderFromRuntime (runtimeText payload.runtime)
  runtime := payload.runtime
  priority := some item.priority
  dedupKey := some (dedupKeyOf item)

def enqueue : Prog String :=
  if (given item.toAgent).isNone then .throw "enqueue: to_agent required"
  else if (given item.dispatchBody).isNone then .throw "enqueue: message required"
  else (issue (.enqueuePayload item)).bind fun (payload : Except String EnqueuePayload) =>
    (returned payload).bind fun payload =>
    (scheduled (IdAgents.enqueue (enqueueInput item payload))).bind fun doc =>
      .ret doc.dispatchPhid

def bindToPool (assignments : Dict String String) (view : BacklogItem)
    (item : BacklogRow) : Prog (Option BacklogRow) :=
  match given (assignments.get? item.itemId), deps.pools.bind (·.poolForItem view) with
  | some builder, some pool =>
    (issue (.allocateWorktree builder view pool)).bind fun (path : Except String String) =>
    (returned path).bind fun path =>
    (bindItemForFire item.itemId builder [path]).bind fun _ =>
      .ret (some { item with toAgent := builder, writeScope := [path] })
  | _, _ => .ret none

def revertBind (bound : Option BacklogRow) : Prog Unit :=
  if bound.isSome then bindItemForFire item.itemId item.toAgent item.writeScope else .ret ()

def fire (assignments : Dict String String) (view : BacklogItem)
    (item : BacklogRow) : Prog String :=
  (bindToPool deps assignments view item).bind fun bound =>
  ((enqueue (bound.getD item)).tryCatch fun e => (revertBind item bound).bind fun _ =>
    .throw e).bind fun phid =>
  (setItemState item .inFlight (some phid)).bind fun _ => .ret phid

inductive FireDecision where
  | wouldDispatch (itemId : String)
  | dispatched (itemId dispatchPhid : String)
  | skipped (itemId reason : String)
deriving DecidableEq

def admittedRows (plan : AdmissionPlan) : List BacklogRow :=
  plan.admits.filterMap fun item => p.ordered.find? (·.itemId = item.itemId)

def fireStep (p : ReadyProjection) (plan : AdmissionPlan)
    (decisions : List FireDecision) (item : BacklogRow) : Prog (List FireDecision) :=
  if deps.config.dryRun then .ret (decisions ++ [.wouldDispatch item.itemId])
  else
    (((fire deps plan.assignments (attachBacklogRetryReadiness p.outcomes item) item).bind
      fun phid => .ret (FireDecision.dispatched item.itemId phid)).tryCatch fun e =>
        .ret (.skipped item.itemId ("enqueue failed: " ++ e))).bind fun decision =>
      .ret (decisions ++ [decision])

def fireAdmitted (p : ReadyProjection) (plan : AdmissionPlan) : Prog (List FireDecision) :=
  Program.fold (admittedRows p plan) [] (fireStep deps p plan)

def evaluateStall (previous : Int) (mode : OrchestrationMode) (halted : Bool)
    (candidatesAvailable admitted : Nat) : Int :=
  if mode = .running && !halted && 0 < candidatesAvailable && admitted = 0 then previous + 1 else 0

def FireDecision.isAdmitted : FireDecision → Bool
  | skipped .. => false
  | _ => true

def nonUsefulReadyBlockerCodes : List String :=
  ["blocked_dependency", "broken_dependency", "duplicate_dispatch_guard",
    "duplicate_dispatch_retry_required", "no_free_pool_builder", "provider_runtime_mismatch",
    "target_unhealthy"]

def DecisionRecord.code (d : DecisionRecord) : Option String :=
  match d.metadata.get? "code" with
  | some (.str code) => some code
  | _ => none

def usefulReadyCount (plan : AdmissionPlan) : Int :=
  max 0 (p.ready.length - (plan.skipped.countP fun d =>
    d.code.any nonUsefulReadyBlockerCodes.contains : Nat))

def stallWatchdog (r : TickReadings) (refuel : Option FleshRunSummary)
    (zeroTicks usefulReady : Int) : Prog Unit :=
  let inFlightCapacityFull := 0 < config.maxInFlight && config.maxInFlight ≤ r.inFlight.length
  if !inFlightCapacityFull && config.stallThresholdTicks ≤ zeroTicks &&
      usefulReady < config.minReadyFuel && refuel.isNone then
    (fleshPass config r config.maxFleshPerTick).bind fun _ => .ret ()
  else .ret ()

structure TickResult where
  halted : Option String
  candidates : Nat
  reconciled : List String
  autoPromoted : Option Nat
  refuel : Option FleshRunSummary
  decisions : List FireDecision
  skipped : List DecisionRecord
  zeroTicks : Int

structure Prepared where
  readings : TickReadings
  reconciled : List String
  markedThisCycle : List String
  autoPromoted : Option Nat
  refuel : Option FleshRunSummary

def prepareTick : Prog Prepared :=
  (issue .now).bind fun (nowMs : Instant) =>
  (issue .orchestrationState).bind fun (state : Mode.OrchestrationState) =>
  (issue .killSwitchActive).bind fun (killSwitch : Bool) =>
  (reconcileDispatchedItems config nowMs).bind fun reconciled =>
  (reconcileLifecycle config).bind fun markedThisCycle =>
  (issue .readUsage).bind fun (usage : UsageReading) =>
  (listBacklogByState .inFlight).bind fun inFlight =>
  (issue .diskHeadroom).bind fun (diskHeadroom : Option DiskHeadroom) =>
  let r : TickReadings := ⟨state, killSwitch, usage, inFlight, diskHeadroom⟩
  (maybeAutoPromote config r).bind fun autoPromoted =>
  (reconcileStaleReady config).bind fun _ =>
  (maybeRefuel config r).bind fun refuel =>
  (reconcileStaleReady config).bind fun _ =>
  .ret ⟨r, reconciled, markedThisCycle, autoPromoted, refuel⟩

def finishTick (prepared : Prepared) (p : ReadyProjection)
    (plan : AdmissionPlan) : Prog TickResult :=
  (fireAdmitted deps p plan).bind fun decisions =>
  let admitted := decisions.countP (·.isAdmitted)
  let zeroTicks := evaluateStall prepared.readings.state.consecutiveZeroTicks
    prepared.readings.state.mode plan.halt.isSome p.ordered.length admitted
  (stallWatchdog deps.config prepared.readings prepared.refuel zeroTicks
    (usefulReadyCount p plan)).bind fun _ =>
  appendDecisions.bind fun _ =>
  ((issue (.recordTickOutcome zeroTicks (0 < admitted && !deps.config.dryRun))).bind
    returned).bind fun _ =>
  .ret {
    halted := plan.halt
    candidates := p.ordered.length
    reconciled := prepared.reconciled
    autoPromoted := prepared.autoPromoted
    refuel := prepared.refuel
    decisions := decisions
    skipped := plan.skipped
    zeroTicks := zeroTicks }

def runTickOnce : Prog TickResult :=
  (prepareTick deps.config).bind fun prepared =>
  (readReady deps prepared.markedThisCycle).bind fun rr =>
  finishTick deps prepared rr.projection (planAdmission rr.projection.candidates
    (admissionContext deps.config prepared.readings prepared.refuel rr)
    deps.config.toContinuousOrchestrationConfig)

def daemonLoop (deps : DaemonDeps) : Nat → Prog Unit
  | 0 => .ret ()
  | n + 1 => (((runTickOnce deps).bind fun _ => .ret ()).tryCatch fun _ => .ret ()).bind
      fun _ => daemonLoop deps n

end IdAgents.Orchestration
