import IdAgents.Library.Table
import IdAgents.Orchestration.Types

namespace IdAgents.Orchestration
open JsText KeyedTable

inductive FleshStatus where
  | unfleshed | fleshing | fleshed | approvedReady | needsChrisBatch | failed | stale
deriving DecidableEq, Repr

inductive ReadyDecision where
  | autoReady | needsChrisBatch
deriving DecidableEq, Repr

structure FleshPatch where
  toAgent : String
  dispatchBody : String
  riskClass : RiskClass
  writeScope : List String
  dependencies : List String
  tokenEstimate : Int
  provider : String
  runtime : String
  valueScore : Option Rat
  priority : Int
  confidence : Rat
  readyDecision : ReadyDecision
  reason : String
deriving DecidableEq

inductive CloseoutReason where
  | closeOrIgnore | offlineTargetSupersededByFresherWave66 | dependencyBlockerCleared
deriving DecidableEq, Repr

inductive CloseoutAction where
  | closeDuplicateRow | supersedeDuplicateRow | supersedeOfflineReadyRow | clearDependencyBlocker
deriving DecidableEq, Repr

structure StaleDuplicateCloseoutReceipt where
  closedBy : String
  closedAt : Instant
  fromState : ReadinessState
  toState : ReadinessState
  reason : CloseoutReason
  track : Option String
  nextAction : CloseoutAction
  priorDispatchPhid : String
  priorDispatchStatus : String
  successorDispatchPhid : Option String := none
  oldTargetAgent : Option String := none
  supersedingCoitemId : Option String := none
  supersessionReason : Option String := none
  safeToNotRedispatch : Bool
  redispatchReason : String
deriving DecidableEq

/-- A row of `orchestration_backlog_item`, for one team. The JSON columns hold their lists. -/
structure BacklogRow where
  itemId : String
  logicalKey : Option String
  title : String
  track : Option String
  toAgent : Option String
  dispatchBody : Option String
  priority : Int
  valueScore : Option Rat
  readinessState : ReadinessState
  riskClass : RiskClass
  writeScope : List String
  dependencies : List String
  tokenEstimate : Option Rat
  provider : Option String
  runtime : Option String
  isNorthStar : Bool
  sourceRefs : List String
  approvedBy : Option String
  approvedAt : Option Instant
  lastDispatchPhid : Option String
  retrySafe : Bool
  retrySafeActor : Option String
  retrySafeReason : Option String
  retrySafeMarkedAt : Option Instant
  dispatchRetryCount : Nat
  staleDuplicateCloseoutReceipt : Option StaleDuplicateCloseoutReceipt
  updatedBy : Option String
  trackDrift : Bool
  fleshStatus : FleshStatus
  fleshSource : Option String
  fleshConfidence : Option Rat
  fleshError : Option String
  fleshAttempts : Nat
  fleshedAt : Option Instant
  autoReadyApprovedAt : Option Instant
  autoReadyPolicyVersion : Option String
  fleshPatch : Option FleshPatch
  createdAt : Instant
  updatedAt : Instant
deriving DecidableEq

def rowToBacklogItem (r : BacklogRow) : BacklogItem where
  itemId := r.itemId
  title := r.title
  track := r.track
  toAgent := r.toAgent
  dispatchBody := r.dispatchBody
  readinessState := r.readinessState
  riskClass := r.riskClass
  writeScope := r.writeScope
  dependencies := r.dependencies
  provider := r.provider
  runtime := r.runtime
  sourceRefs := r.sourceRefs
  approvedAt := r.approvedAt.map toISOString
  lastDispatchPhid := r.lastDispatchPhid
  retrySafe := r.retrySafe
  retryReadiness := none
  autoReadyApprovedAt := r.autoReadyApprovedAt.map toISOString

/-- The table has a primary key and no unique index besides it. -/
instance : Schema BacklogRow String Unit where
  key row := row.itemId
  entry _ := none

structure NewBacklogItem where
  logicalKey : Option String := none
  title : String
  track : Option String := none
  toAgent : Option String := none
  dispatchBody : Option String := none
  priority : Option Int := none
  valueScore : Option Rat := none
  readinessState : Option ReadinessState := none
  riskClass : Option RiskClass := none
  writeScope : Option (List String) := none
  dependencies : Option (List String) := none
  tokenEstimate : Option Rat := none
  provider : Option String := none
  runtime : Option String := none
  isNorthStar : Bool := false
  sourceRefs : Option (List String) := none
  retrySafe : Bool := false
  trackDrift : Bool := false

/-- The row that `insertBacklogItem` inserts. -/
def insertedRow (input : NewBacklogItem) (itemId : String) (now : Instant) : BacklogRow where
  itemId := itemId
  logicalKey := input.logicalKey
  title := input.title
  track := input.track
  toAgent := input.toAgent
  dispatchBody := input.dispatchBody
  priority := input.priority.getD 5
  valueScore := input.valueScore
  readinessState := input.readinessState.getD .draft
  riskClass := input.riskClass.getD .routine
  writeScope := input.writeScope.getD []
  dependencies := input.dependencies.getD []
  tokenEstimate := input.tokenEstimate
  provider := input.provider
  runtime := input.runtime
  isNorthStar := input.isNorthStar
  sourceRefs := input.sourceRefs.getD []
  approvedBy := none
  approvedAt := none
  lastDispatchPhid := none
  retrySafe := input.retrySafe
  retrySafeActor := none
  retrySafeReason := none
  retrySafeMarkedAt := none
  dispatchRetryCount := 0
  staleDuplicateCloseoutReceipt := none
  updatedBy := none
  trackDrift := input.trackDrift
  fleshStatus := .unfleshed
  fleshSource := none
  fleshConfidence := none
  fleshError := none
  fleshAttempts := 0
  fleshedAt := none
  autoReadyApprovedAt := none
  autoReadyPolicyVersion := none
  fleshPatch := none
  createdAt := now
  updatedAt := now

/-- The fields a PATCH may set; a missing field is left alone, a null one is cleared. -/
structure BacklogPatch where
  title : Option String := none
  track : Option (Option String) := none
  toAgent : Option (Option String) := none
  dispatchBody : Option (Option String) := none
  priority : Option Int := none
  valueScore : Option (Option Rat) := none
  riskClass : Option RiskClass := none
  writeScope : Option (List String) := none
  dependencies : Option (List String) := none
  tokenEstimate : Option (Option Rat) := none
  provider : Option (Option String) := none
  runtime : Option (Option String) := none
  isNorthStar : Option Bool := none

def BacklogPatch.isEmpty (p : BacklogPatch) : Bool :=
  p.title.isNone && p.track.isNone && p.toAgent.isNone && p.dispatchBody.isNone &&
    p.priority.isNone && p.valueScore.isNone && p.riskClass.isNone && p.writeScope.isNone &&
    p.dependencies.isNone && p.tokenEstimate.isNone && p.provider.isNone && p.runtime.isNone &&
    p.isNorthStar.isNone

structure FleshOutcome where
  itemId : String
  fleshStatus : FleshStatus
  fleshSource : String
  fleshConfidence : Rat
  fleshError : Option String := none
  policyVersion : Option String := none
  patch : Option FleshPatch := none
  promote : Bool := false
  approvedBy : Option String := none

def isAuthored (text : Option String) : Bool := text.any fun t => trim t ≠ ""

def FleshOutcome.promotes (outcome : FleshOutcome) : Bool := outcome.promote && outcome.patch.isSome

/-- The UPDATE statements on the backlog, each with the locals its parameters are computed from:
`item` is the row as the caller has read it. -/
inductive UpdateStmt where
  | promoteToReady (item : BacklogRow) (approvedBy : String) (retrySafe : Bool) (now : Instant)
  | updateBacklogFields (itemId : String) (patch : BacklogPatch)
      (updatedBy : Option (Option String)) (now : Instant)
  | setItemState (item : BacklogRow) (state : ReadinessState) (dispatchPhid : Option String)
      (now : Instant)
  | bindItemForFire (itemId : String) (toAgent : Option String) (writeScope : List String)
      (now : Instant)
  | markRetrySafe (item : BacklogRow) (actor reason : String) (retryCount : Nat) (now : Instant)
  | reconcileDependencies (item : BacklogRow) (toState : ReadinessState)
      (dependencies : List String) (actor : String) (now : Instant)
  | clearDependencyBlocker (item : BacklogRow) (dependencies : List String)
      (receipt : StaleDuplicateCloseoutReceipt) (actor : String) (now : Instant)
  | closeDuplicate (item : BacklogRow) (fromStates : List ReadinessState)
      (toState : ReadinessState) (sourceRefs : List String)
      (receipt : StaleDuplicateCloseoutReceipt) (actor : String) (now : Instant)
  | supersedeOffline (item : BacklogRow) (sourceRefs : List String)
      (receipt : StaleDuplicateCloseoutReceipt) (actor : String) (now : Instant)
  | repairRuntime (itemId provider runtime : String) (now : Instant)
  | recordFleshOutcome (item : BacklogRow) (outcome : FleshOutcome) (now : Instant)

namespace UpdateStmt

/-- The `item_id = ?` of the WHERE clause. -/
def itemId : UpdateStmt → String
  | promoteToReady item _ _ _ | setItemState item _ _ _ | markRetrySafe item _ _ _ _
  | reconcileDependencies item _ _ _ _ | clearDependencyBlocker item _ _ _ _
  | closeDuplicate item _ _ _ _ _ _ | supersedeOffline item _ _ _ _ => item.itemId
  | updateBacklogFields itemId _ _ _ | bindItemForFire itemId _ _ _
  | repairRuntime itemId _ _ _ => itemId
  | recordFleshOutcome _ outcome _ => outcome.itemId

def guard : UpdateStmt → BacklogRow → Bool
  | markRetrySafe item .., row => row.readinessState = .ready &&
      row.lastDispatchPhid = some (item.lastDispatchPhid.getD "") && !row.retrySafe
  | reconcileDependencies .., row => row.readinessState = .blockedDependency
  | closeDuplicate item fromStates .., row => fromStates.contains row.readinessState &&
      !row.retrySafe && row.lastDispatchPhid = some (item.lastDispatchPhid.getD "")
  | supersedeOffline .., row => row.readinessState = .ready
  | repairRuntime .., row => row.readinessState = .ready && row.approvedBy.isSome &&
      row.approvedAt.isSome
  | promoteToReady .., _ | updateBacklogFields .., _ | setItemState .., _ | bindItemForFire .., _
  | clearDependencyBlocker .., _ | recordFleshOutcome .., _ => true

/-- The columns that a patch sets beside the bookkeeping of a flesh pass: an authored body, an
authored pair of provider and runtime, and an authored or routed target stay. -/
def applyPatch (item : BacklogRow) (patch : FleshPatch) (row : BacklogRow) : BacklogRow :=
  let keepsLane := isAuthored item.provider && isAuthored item.runtime
  let keepsTarget := item.updatedBy.isSome || isAuthored item.toAgent
  { row with
    dispatchBody := if isAuthored item.dispatchBody then row.dispatchBody else patch.dispatchBody
    riskClass := patch.riskClass
    writeScope := patch.writeScope
    dependencies := patch.dependencies
    tokenEstimate := some patch.tokenEstimate
    provider := if keepsLane then row.provider else patch.provider
    runtime := if keepsLane then row.runtime else patch.runtime
    valueScore := patch.valueScore.or row.valueScore
    toAgent := if keepsTarget then row.toAgent else patch.toAgent
    priority := if keepsTarget then row.priority else patch.priority }

def stampFlesh (item : BacklogRow) (outcome : FleshOutcome) (now : Instant) (row : BacklogRow) :
    BacklogRow :=
  { row with
    fleshStatus := outcome.fleshStatus
    fleshSource := outcome.fleshSource
    fleshConfidence := outcome.fleshConfidence
    fleshError := outcome.fleshError
    fleshAttempts := item.fleshAttempts + 1
    fleshedAt := now
    autoReadyPolicyVersion := outcome.policyVersion
    fleshPatch := outcome.patch
    updatedAt := now }

def approveFlesh (outcome : FleshOutcome) (now : Instant) (row : BacklogRow) : BacklogRow :=
  { row with
    readinessState := .ready
    approvedBy := outcome.approvedBy.getD "continuous-orchestration"
    approvedAt := now
    autoReadyApprovedAt := now }

def set : UpdateStmt → BacklogRow → BacklogRow
  | promoteToReady _ approvedBy retrySafe now, row =>
    { row with readinessState := .ready, approvedBy := approvedBy, approvedAt := now,
               retrySafe := retrySafe || row.retrySafe, updatedAt := now }
  | updateBacklogFields _ patch updatedBy now, row =>
    { row with title := patch.title.getD row.title, track := patch.track.getD row.track,
               toAgent := patch.toAgent.getD row.toAgent,
               dispatchBody := patch.dispatchBody.getD row.dispatchBody,
               priority := patch.priority.getD row.priority,
               valueScore := patch.valueScore.getD row.valueScore,
               riskClass := patch.riskClass.getD row.riskClass,
               writeScope := patch.writeScope.getD row.writeScope,
               dependencies := patch.dependencies.getD row.dependencies,
               tokenEstimate := patch.tokenEstimate.getD row.tokenEstimate,
               provider := patch.provider.getD row.provider,
               runtime := patch.runtime.getD row.runtime,
               isNorthStar := patch.isNorthStar.getD row.isNorthStar,
               updatedBy := updatedBy.getD row.updatedBy, updatedAt := now }
  | setItemState _ state dispatchPhid now, row =>
    { row with readinessState := state, updatedAt := now,
               lastDispatchPhid := dispatchPhid.or row.lastDispatchPhid }
  | bindItemForFire _ toAgent writeScope now, row =>
    { row with toAgent := toAgent, writeScope := writeScope, updatedAt := now }
  | markRetrySafe _ actor reason retryCount now, row =>
    { row with retrySafe := true, retrySafeActor := actor, retrySafeReason := reason,
               retrySafeMarkedAt := now, dispatchRetryCount := retryCount, updatedBy := actor,
               updatedAt := now }
  | reconcileDependencies _ toState dependencies actor now, row =>
    { row with readinessState := toState, dependencies := dependencies, updatedBy := actor,
               updatedAt := now }
  | clearDependencyBlocker _ dependencies receipt actor now, row =>
    { row with readinessState := .ready, dependencies := dependencies,
               staleDuplicateCloseoutReceipt := receipt, updatedBy := actor, updatedAt := now }
  | closeDuplicate _ _ toState sourceRefs receipt actor now, row =>
    { row with readinessState := toState, sourceRefs := sourceRefs, retrySafe := false,
               staleDuplicateCloseoutReceipt := receipt, updatedBy := actor, updatedAt := now }
  | supersedeOffline _ sourceRefs receipt actor now, row =>
    { row with readinessState := .superseded, sourceRefs := sourceRefs, retrySafe := false,
               staleDuplicateCloseoutReceipt := receipt, updatedBy := actor, updatedAt := now }
  | repairRuntime _ provider runtime now, row =>
    { row with provider := provider, runtime := runtime, updatedAt := now }
  | recordFleshOutcome item outcome now, row =>
    let stamped := stampFlesh item outcome now row
    match outcome.patch with
    | none => stamped
    | some patch =>
      let patched := applyPatch item patch stamped
      if outcome.promote then approveFlesh outcome now patched else patched

theorem set_itemId (u : UpdateStmt) (row : BacklogRow) : (u.set row).itemId = row.itemId := by
  cases u with
  | recordFleshOutcome item outcome now =>
    simp only [set]
    split
    · rfl
    · split <;> rfl
  | _ => rfl

theorem set_logicalKey (u : UpdateStmt) (row : BacklogRow) :
    (u.set row).logicalKey = row.logicalKey := by
  cases u with
  | recordFleshOutcome item outcome now =>
    simp only [set]
    split
    · rfl
    · split <;> rfl
  | _ => rfl

def toUpdate (u : UpdateStmt) : Update BacklogRow where
  at_ := u.itemId
  guard := u.guard
  set := u.set
  key_set := u.set_itemId

end UpdateStmt

end IdAgents.Orchestration
