import Mathlib.Data.List.Lex
import IdAgents.Orchestration.Lifecycle
import IdAgents.Orchestration.Flesh

namespace IdAgents.Orchestration
open JsText JsMap AtomicProgram

def upTo (mark : List Char) : List Char → List Char
  | [] => []
  | c :: cs => if mark.isPrefixOf (c :: cs) then [] else c :: upTo mark cs

def normalizeLaneScope (scope : String) : String :=
  String.ofList (upTo "/.worktrees/".toList scope.toList)

/-- The default order of `sort`. -/
def byCodeUnits (a b : String) : Bool :=
  decide (a.toList.flatMap codeUnits ≤ b.toList.flatMap codeUnits)

variable (item : BacklogRow)

def laneKeyOf : String :=
  if item.writeScope.isEmpty then "∅"
  else String.intercalate "|" ((item.writeScope.map normalizeLaneScope).insertionSort
    fun a b => byCodeUnits a b)

def byCandidateRank (a b : BacklogRow) : Ordering :=
  (compare (!a.isNorthStar) (!b.isNorthStar)).then
    ((compare a.priority b.priority).then
      ((compare (b.valueScore.getD 0) (a.valueScore.getD 0)).then
        ((compare a.createdAt b.createdAt).then (compare a.itemId b.itemId))))

def orderCandidates (items : List BacklogRow) : List BacklogRow := orderBy byCandidateRank items

def laneBuckets (ordered : List BacklogRow) : List (List BacklogRow) :=
  (ordered.map laneKeyOf).eraseDups.map fun key => ordered.filter (laneKeyOf · = key)

def rounds : Nat → List (List α) → List α
  | 0, _ => []
  | n + 1, buckets => buckets.filterMap List.head? ++ rounds n (buckets.map List.tail)

def fairInterleaveByLane (ordered : List BacklogRow) : List BacklogRow :=
  let buckets := laneBuckets ordered
  if buckets.length ≤ 1 then ordered else rounds ordered.length buckets

def isUsefulReadyFuelItem : Bool :=
  match item.staleDuplicateCloseoutReceipt with
  | none => true
  | some receipt => !(receipt.fromState = .ready &&
      (receipt.toState = .done || receipt.toState = .superseded) && receipt.safeToNotRedispatch)

def laneCount (items : List BacklogRow) : Nat := (items.map laneKeyOf).eraseDups.length

def needsRefuel (ready : List BacklogRow) (minReadyFuel minReadyLanes : Int) : Bool :=
  let useful := ready.filter isUsefulReadyFuelItem
  (useful.length : Int) < minReadyFuel || (laneCount useful : Int) < minReadyLanes

/-- The rows that count toward the floor of build fuel; `none` where the capacity is occupied. -/
def usefulReadyBuild (ready inFlight : List BacklogRow) (maxInFlight : Int)
    (nonUsefulReadyItemIds : List String) : Option (List BacklogRow) :=
  if 0 < maxInFlight && maxInFlight ≤ inFlight.length then none
  else some (ready.filter fun item => item.riskClass = .build && isUsefulReadyFuelItem item &&
    !nonUsefulReadyItemIds.contains item.itemId)

structure AutoPromoteOptions where
  floor : Int
  minLanes : Int
  maxPerPass : Int
  confidenceThreshold : Rat := autoReadyConfidenceThreshold

def decimalText (q : Rat) : String :=
  let decimals := ((List.range 21).find? fun n => (q * 10 ^ n).den = 1).getD 20
  let scaled := (q * 10 ^ decimals).floor.natAbs
  (if q < 0 then "-" else "") ++ toString (scaled / 10 ^ decimals) ++
    (if decimals = 0 then "" else "." ++ padLeft decimals (toString (scaled % 10 ^ decimals)))

def autoPromoteRejections
    (confidenceThreshold : Rat := autoReadyConfidenceThreshold) : List String :=
  let explicitlyApproved := (given item.approvedBy).isSome || item.fleshStatus = .approvedReady ||
    item.autoReadyApprovedAt.isSome
  errorIf (item.readinessState ≠ .needsReview)
    ("state " ++ item.readinessState.text ++ " (only needs_review is auto-promotable)") ++
  errorIf ((given item.toAgent).isNone || (given item.dispatchBody).isNone)
    "missing to_agent or dispatch_body (not fleshed)" ++
  errorIf (item.riskClass ≠ .build)
    ("risk_class '" ++ item.riskClass.text ++ "' is not auto-promotable (build only)") ++
  errorIf item.writeScope.isEmpty "empty write_scope (build work must declare a lane)" ++
  errorIf (!item.dependencies.isEmpty)
    ("blocked dependencies not done (" ++ String.intercalate ", " item.dependencies ++ ")") ++
  (match matchesHighRiskDenylist [item.dispatchBody, some item.title] with
    | some hit => ["high-risk denylist match: /" ++ hit ++ "/"]
    | none => []) ++
  errorIf ((given item.lastDispatchPhid).isSome && !item.retrySafe)
    ("already dispatched once (last_dispatch_phid=" ++ item.lastDispatchPhid.getD "" ++
      ") — requires human /promote, not auto-promote") ++
  (if explicitlyApproved then []
    else match item.fleshConfidence with
      | none => ["no flesh_confidence (cannot assert it is high-confidence)"]
      | some confidence => errorIf (confidence < confidenceThreshold)
          ("confidence " ++ toFixed2 confidence ++ " < " ++ decimalText confidenceThreshold))

def compareValue : Option Rat → Option Rat → Ordering
  | none, none => .eq
  | none, some _ => .lt
  | some _, none => .gt
  | some a, some b => compare a b

def byPromotionRank (a b : BacklogRow) : Ordering :=
  (compare (b.fleshConfidence.getD 0) (a.fleshConfidence.getD 0)).then
    ((compareValue b.valueScore a.valueScore).then
      ((compare a.priority b.priority).then (compare a.itemId b.itemId)))

structure Selected where
  promote : List BacklogRow := []
  lanes : List String
  total : Int

def Selected.add (s : Selected) (item : BacklogRow) : Selected where
  promote := s.promote ++ [item]
  lanes := if s.lanes.contains (laneKeyOf item) then s.lanes else s.lanes ++ [laneKeyOf item]
  total := s.total + 1

def coverLane (opts : AutoPromoteOptions) (passLimit : Int) (s : Selected) (item : BacklogRow) :
    Selected :=
  if passLimit ≤ s.promote.length || opts.minLanes ≤ s.lanes.length ||
    s.lanes.contains (laneKeyOf item) then s else s.add item

def topUp (opts : AutoPromoteOptions) (passLimit : Int) (s : Selected) (item : BacklogRow) :
    Selected :=
  if passLimit ≤ s.promote.length || opts.floor ≤ s.total ||
    (s.promote.map (·.itemId)).contains item.itemId then s else s.add item

/-- The rows to promote; `none` where the fuel is above its floors. -/
def selectAutoPromotions (needsReview ready : List BacklogRow) (opts : AutoPromoteOptions) :
    Option (List BacklogRow) :=
  let buildReady := ready.filter (·.riskClass = .build)
  let buildLanes := (buildReady.map laneKeyOf).eraseDups
  if opts.floor ≤ buildReady.length && opts.minLanes ≤ buildLanes.length then none
  else
    let ranked := orderBy byPromotionRank
      (needsReview.filter fun item => (autoPromoteRejections item opts.confidenceThreshold).isEmpty)
    let passLimit := max 0 (max opts.maxPerPass (max (max 0 (opts.minLanes - buildLanes.length))
      (max 0 (opts.floor - buildReady.length))))
    let covered := ranked.foldl (coverLane opts passLimit)
      { lanes := buildLanes, total := buildReady.length }
    some (ranked.foldl (topUp opts passLimit) covered).promote

def getHealthyAgentNames (names : List String) : Prog (List String) :=
  let unique := names.filter (· ≠ "")
  if unique.isEmpty then .ret []
  else (issue .selectAgents).bind fun (agents : List AgentRow) =>
    .ret ((agents.filter fun a => unique.contains a.name && a.status = "running").map
      (·.name)).eraseDups

def getAgentRuntimeMap (names : List String) : Prog (Dict String String) :=
  let unique := names.filter (· ≠ "")
  if unique.isEmpty then .ret .empty
  else (issue .selectAgents).bind fun (agents : List AgentRow) =>
    let known := agents.filter fun a => unique.contains a.name
    .ret ((known.filter (·.status = "running") ++ known.filter (·.status ≠ "running")).foldl
      (fun runtimes a => match given a.runtime with
        | some runtime => if runtimes.has a.name then runtimes else runtimes.set a.name runtime
        | none => runtimes) .empty)

structure PoolRouting where
  poolForItem : BacklogItem → Option ResolvedPool
  /-- The members of a pool that are not among the ones building. -/
  availableBuilders : ResolvedPool → List String → List String
  /-- A healthy agent in place of an unhealthy target, by the healthy agents, the busy ones and the
  runtimes of the targets. -/
  healthyEquivalentTarget : Option (BacklogItem → String → List String → List String →
    Dict String String → Option String)

structure PoolGate where
  poolFor : BacklogItem → Option String
  freeSlots : Dict String Int
  freeBuilders : Dict String (List String)
  laneBlockers : Dict String (List PoolLaneBlocker)

def isVirtualPoolTarget (agent : String) : Bool :=
  "pool:".toList.isPrefixOf (toLowerCase (trim agent)).toList

variable (pools : PoolRouting)

def resolvedPools (items : List BacklogItem) : Dict String ResolvedPool :=
  (items.filterMap pools.poolForItem).foldl (fun resolved pool => resolved.set pool.poolId pool)
    .empty

def poolInFlight (inFlight : List BacklogItem) (poolId : String) : List BacklogItem :=
  inFlight.filter fun item => (pools.poolForItem item).any (·.poolId = poolId)

def poolBlockers (pool : ResolvedPool) (building available : List String) : List PoolLaneBlocker :=
  (pool.members.filter building.contains).map (fun agent =>
    ⟨agent, "lane_busy", "builder already has an in-flight pool item"⟩) ++
  (available.filter isVirtualPoolTarget).map fun agent =>
    ⟨agent, "virtual_pool_alias",
      "virtual pool aliases are dispatch targets, not runnable builder agents"⟩

/-- A pool of the gate: its free slots, its free builders and what blocks the others. -/
def PoolGate.add (inFlight : List BacklogItem) (gate : PoolGate)
    (entry : String × ResolvedPool) : PoolGate :=
  let running := poolInFlight pools inFlight entry.1
  let building := running.filterMap (given ·.toAgent)
  let available := pools.availableBuilders entry.2 building
  { gate with
    freeSlots := gate.freeSlots.set entry.1 (max 0 (entry.2.maxParallel - running.length))
    freeBuilders := gate.freeBuilders.set entry.1
      (available.filter fun agent => !isVirtualPoolTarget agent)
    laneBlockers := gate.laneBlockers.set entry.1 (poolBlockers entry.2 building available) }

def poolGate (inFlight candidates : List BacklogItem) : PoolGate :=
  (resolvedPools pools (inFlight ++ candidates)).entries.foldl (PoolGate.add pools inFlight)
    { poolFor := fun item => (pools.poolForItem item).map (·.poolId)
      freeSlots := .empty
      freeBuilders := .empty
      laneBlockers := .empty }

/-- `buildPoolGate` -/
def buildPoolGate (pools : Option PoolRouting) (candidates : List BacklogItem) :
    Prog (Option PoolGate) :=
  match pools with
  | none => .ret none
  | some pools => (listBacklogByState .inFlight).bind fun inFlight =>
      .ret (some (poolGate pools (inFlight.map rowToBacklogItem) candidates))

def applyPoolHealthGate (gate : PoolGate) (healthyAgents : List String) : PoolGate :=
  gate.freeBuilders.entries.foldl (fun gate entry =>
    let unhealthy := entry.2.filter fun agent => !healthyAgents.contains agent
    { gate with
      freeBuilders := gate.freeBuilders.set entry.1
        (entry.2.filter fun agent => healthyAgents.contains agent)
      laneBlockers :=
        if unhealthy.isEmpty then gate.laneBlockers
        else gate.laneBlockers.set entry.1 ((gate.laneBlockers.get? entry.1).getD [] ++
          unhealthy.map fun agent =>
            ⟨agent, "target_unhealthy", "agent is not healthy/online"⟩) }) gate

end IdAgents.Orchestration
