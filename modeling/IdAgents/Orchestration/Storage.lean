import Mathlib.Data.List.Sort
import IdAgents.Orchestration.Admission
import IdAgents.Orchestration.World

namespace IdAgents.Orchestration
open JsText JsMap KeyedTable AtomicProgram

def issue (c : Stmt) : Prog c.Ans := Program.stmt (S := sql) c

def returned : Except String α → Prog α
  | .ok a => .ret a
  | .error e => .throw e

def selectRows : Prog (List BacklogRow) := issue .select

def execInsert (row : BacklogRow) : Prog Unit := (issue (.insert row)).bind returned

def execUpdate (u : UpdateStmt) : Prog Nat := (issue (.update u)).bind returned

def appendDecisions : Prog Unit := (issue .appendDecisions).bind returned

variable (itemId : String)

def insertFleshLog : Prog Unit := (issue (.insertFleshLog itemId)).bind returned

/-- `ORDER BY` a sequence of comparisons. -/
def orderBy (order : BacklogRow → BacklogRow → Ordering) (rows : List BacklogRow) :
    List BacklogRow :=
  rows.insertionSort fun a b => (order a b).isLE

theorem mem_orderBy : row ∈ orderBy order rows ↔ row ∈ rows :=
  List.mem_insertionSort _

def byPriority (a b : BacklogRow) : Ordering :=
  (compare a.priority b.priority).then (compare a.createdAt b.createdAt)

def logicalRank : ReadinessState → Nat
  | .inFlight => 0
  | .queued => 1
  | .ready => 2
  | .needsChrisBatch => 3
  | .done => 4
  | .needsReview => 5
  | .draft => 6
  | _ => 7

def byLogicalRank (a b : BacklogRow) : Ordering :=
  (compare (logicalRank a.readinessState) (logicalRank b.readinessState)).then
    ((compare b.updatedAt a.updatedAt).then (compare a.createdAt b.createdAt))

variable (rows : List BacklogRow)

def logicalPeer (logicalKey : String) : Option BacklogRow :=
  (orderBy byLogicalRank (rows.filter (·.logicalKey = some logicalKey))).head?

variable (limit : Int)

/-- `LIMIT`, where a negative number is none. -/
def limitTo (rows : List BacklogRow) : List BacklogRow :=
  if limit < 0 then rows else rows.take limit.toNat

def getBacklogItem : Prog (Option BacklogRow) :=
  selectRows.bind fun rows => .ret (rows.find? (·.itemId = itemId))

def getBacklogItemByLogicalKey (logicalKey : String) : Prog (Option BacklogRow) :=
  selectRows.bind fun rows => .ret (logicalPeer rows logicalKey)

variable (state : ReadinessState)

def listBacklogByState (limit : Nat := 500) : Prog (List BacklogRow) :=
  selectRows.bind fun rows =>
    .ret ((orderBy byPriority (rows.filter (·.readinessState = state))).take limit)

def listReadyItems : Prog (List BacklogRow) := listBacklogByState .ready

def listAllItemIds : Prog (List String) :=
  selectRows.bind fun rows => .ret (rows.map (·.itemId))

/-- What rows show under their id and under their logical key; of two rows under one name the later
one counts. -/
def dependencyIndex (show_ : BacklogRow → α) (rows : List BacklogRow) : Dict String α :=
  rows.foldl (fun index row =>
    let index := index.set row.itemId (show_ row)
    match given row.logicalKey with
    | some key => index.set key (show_ row)
    | none => index) .empty

def listDependencyResolution : Prog (Dict String Bool) :=
  selectRows.bind fun rows => .ret (dependencyIndex (·.readinessState = .done) rows)

def listDependencyStates : Prog (Dict String ReadinessState) :=
  selectRows.bind fun rows => .ret (dependencyIndex (·.readinessState) rows)

variable (input : NewBacklogItem)

def insertBacklogItem : Prog BacklogRow :=
  (issue .now).bind fun (now : Instant) =>
  (issue .mintItemId).bind fun (uuid : String) =>
  let itemId := "coitem_" ++ uuid
  (execInsert (insertedRow input itemId now)).bind fun _ =>
  (getBacklogItem itemId).bind fun got =>
    match got with
    | some item => .ret item
    | none => .throw "insertBacklogItem: row not found after insert"

def lookupKey : Option String := given (input.logicalKey.map trim)

def insertBacklogItemIfAbsentByLogicalKey : Prog (BacklogRow × Bool) :=
  let insert := (insertBacklogItem input).bind fun item => .ret (item, true)
  match lookupKey input with
  | none => insert
  | some key => (getBacklogItemByLogicalKey key).bind fun existing =>
    match existing with
    | some existing => .ret (existing, false)
    | none => insert

inductive PromoteResult where
  | refused (reason : String)
  | promoted (item : Option BacklogRow)

def isFleshable : Bool := state = .draft || state = .needsReview

def blocksLogicalPromotion : Bool :=
  [.ready, .queued, .inFlight, .blockedDependency, .needsChrisBatch, .waitingWindow,
    .done].contains state

variable (item : BacklogRow)

def promotionRefusal (retrySafe : Bool) : Option String :=
  if !isFleshable item.readinessState then some s!"cannot promote from {item.readinessState.text}"
  else if (given item.toAgent).isNone || (given item.dispatchBody).isNone then
    some "missing to_agent or dispatch_body"
  else if (given item.lastDispatchPhid).isSome && !retrySafe && !item.retrySafe then
    some "previously dispatched row requires retry_safe=true to promote"
  else none

def peerRefusal (peer : Option BacklogRow) : Option String :=
  match peer with
  | some existing =>
    if existing.itemId ≠ item.itemId && blocksLogicalPromotion existing.readinessState then
      some s!"logical work already {existing.readinessState.text}"
    else none
  | none => none

def writePromotion (approvedBy : String) (retrySafe : Bool) : Prog PromoteResult :=
  (issue .now).bind fun (now : Instant) =>
  (execUpdate (.promoteToReady item approvedBy retrySafe now)).bind fun _ =>
  (getBacklogItem item.itemId).bind fun updated => .ret (.promoted updated)

def promoteToReady (itemId approvedBy : String) (retrySafe : Bool) : Prog PromoteResult :=
  (getBacklogItem itemId).bind fun item =>
    match item with
    | none => .ret (.refused "not_found")
    | some item =>
      match promotionRefusal item retrySafe with
      | some reason => .ret (.refused reason)
      | none =>
        match given item.logicalKey with
        | none => writePromotion item approvedBy retrySafe
        | some key => (getBacklogItemByLogicalKey key).bind fun existing =>
          match peerRefusal item existing with
          | some reason => .ret (.refused reason)
          | none => writePromotion item approvedBy retrySafe

def updateBacklogFields (patch : BacklogPatch)
    (updatedBy : Option (Option String) := none) : Prog (Option BacklogRow) :=
  if patch.isEmpty && updatedBy.isNone then getBacklogItem itemId
  else
    (issue .now).bind fun (now : Instant) =>
    (execUpdate (.updateBacklogFields itemId patch updatedBy now)).bind fun _ =>
    getBacklogItem itemId

/-- `item` is the row that the caller has read under the id. -/
def setItemState (state : ReadinessState) (dispatchPhid : Option String := none) : Prog Unit :=
  (issue .now).bind fun (now : Instant) =>
  (execUpdate (.setItemState item state dispatchPhid now)).bind fun _ => .ret ()

def bindItemForFire (toAgent : Option String) (writeScope : List String) : Prog Unit :=
  (issue .now).bind fun (now : Instant) =>
  (execUpdate (.bindItemForFire itemId toAgent writeScope now)).bind fun _ => .ret ()

def isLanded : Bool := state = .done || state = .superseded

structure DependencyTransition where
  itemId : String
  toState : ReadinessState
  dependenciesAfter : List String
  resolved : List (String × ReadinessState)
  applied : Bool

variable (states : Dict String ReadinessState)

def resolvedDependencies (item : BacklogRow) : List (String × ReadinessState) :=
  item.dependencies.filterMap fun dependency =>
    ((states.get? dependency).filter isLanded).map fun state => (dependency, state)

def dependencyTransition (item : BacklogRow) : Option DependencyTransition :=
  let resolved := resolvedDependencies states item
  if resolved.isEmpty then none
  else
    let dependenciesAfter := item.dependencies.filter fun d => !(resolved.map Prod.fst).contains d
    some {
      itemId := item.itemId
      toState := if dependenciesAfter.isEmpty then .ready else .blockedDependency
      dependenciesAfter := dependenciesAfter
      resolved := resolved
      applied := false }

/-- One row of a reconciliation: its transition, applied when it is live and not lost. -/
def reconcileRow (dryRun : Bool) (actor : String)
    (transitions : List DependencyTransition) (item : BacklogRow) :
    Prog (List DependencyTransition) :=
  match dependencyTransition states item with
  | none => .ret transitions
  | some transition =>
    if dryRun then .ret (transitions ++ [transition])
    else
      (issue .now).bind fun (now : Instant) =>
      (execUpdate (.reconcileDependencies item transition.toState transition.dependenciesAfter
        actor now)).bind fun rowCount =>
        if rowCount ≠ 1 then .ret (transitions ++ [transition])
        else appendDecisions.bind fun _ =>
          .ret (transitions ++ [{ transition with applied := true }])

def byPriorityAndId (a b : BacklogRow) : Ordering :=
  (byPriority a b).then (compare a.itemId b.itemId)

def reconcileTerminalBacklogDependencies (dryRun : Bool) (actor : String) :
    Prog (List DependencyTransition) :=
  let cap := (max 0 (min 500 limit)).toNat
  if cap = 0 then .ret []
  else
    selectRows.bind fun rows =>
    let candidates := (orderBy byPriorityAndId
      (rows.filter (·.readinessState = .blockedDependency))).take cap
    listDependencyStates.bind fun states =>
    Program.fold candidates [] (reconcileRow states dryRun actor)

inductive ClearResult where
  | refused (status : Nat) (error reason : String)
  | cleared (item : BacklogRow) (dependencyState : ReadinessState) (cleared : Bool)

/-- The row a dependency names: the one with that id, or else the latest with that logical key. -/
def upstreamOf (dependency : String) : Option BacklogRow :=
  (orderBy (fun a b =>
    (compare (if a.itemId = dependency then 0 else 1) (if b.itemId = dependency then 0 else 1)).then
      (compare b.updatedAt a.updatedAt))
    (rows.filter fun row => row.itemId = dependency || row.logicalKey = some dependency)).head?

def clearedReceipt (item upstream : BacklogRow) (actor reason : String) (now : Instant) :
    StaleDuplicateCloseoutReceipt where
  closedBy := actor
  closedAt := now
  fromState := item.readinessState
  toState := .ready
  reason := .dependencyBlockerCleared
  track := item.track
  nextAction := .clearDependencyBlocker
  priorDispatchPhid := item.lastDispatchPhid.getD ""
  priorDispatchStatus := upstream.readinessState.text
  safeToNotRedispatch := true
  redispatchReason := reason

def clearRefusal (dependency : String) : Option ClearResult :=
  if item.readinessState ≠ .ready && item.readinessState ≠ .blockedDependency then
    some (.refused 409 s!"cannot clear dependency blocker from {item.readinessState.text}"
      "invalid_state")
  else if !item.dependencies.contains dependency then
    some (.refused 409 "dependency is not attached to backlog item" "dependency_not_attached")
  else none

def writeClear (item upstream : BacklogRow) (dependency actor reason : String) : Prog ClearResult :=
  let nextDependencies := item.dependencies.filter (· ≠ dependency)
  (issue .now).bind fun (now : Instant) =>
  (execUpdate (.clearDependencyBlocker item nextDependencies
    (clearedReceipt item upstream actor reason now) actor now)).bind fun _ =>
  appendDecisions.bind fun _ =>
  (getBacklogItem item.itemId).bind fun updated =>
    match updated with
    | none => .throw "clearBacklogDependencyBlocker: row not found after update"
    | some updated => .ret (.cleared updated upstream.readinessState
        (nextDependencies.length < item.dependencies.length))

def clearBacklogDependencyBlocker (itemId dependency actor reason : String) : Prog ClearResult :=
  let dependency := trim dependency
  let actor := trim actor
  let reason := trim reason
  if dependency = "" then .ret (.refused 400 "dependency required" "dependency_required")
  else if actor = "" then .ret (.refused 400 "actor required" "actor_required")
  else if reason = "" then .ret (.refused 400 "reason required" "reason_required")
  else (getBacklogItem itemId).bind fun item =>
    match item with
    | none => .ret (.refused 404 "backlog item not found" "not_found")
    | some item =>
      match clearRefusal item dependency with
      | some refusal => .ret refusal
      | none => selectRows.bind fun rows =>
        match (upstreamOf rows dependency).filter (isLanded ·.readinessState) with
        | none => .ret (.refused 409 "dependency is not landed or superseded"
            "dependency_not_terminal")
        | some upstream => writeClear item upstream dependency actor reason

/-- `logicalWorkNotBlockedByPeer` -/
def notBlockedByPeer (row : BacklogRow) : Bool :=
  row.logicalKey.isNone || !rows.any fun peer => peer.logicalKey = row.logicalKey &&
    peer.itemId ≠ row.itemId && blocksLogicalPromotion peer.readinessState

def byNorthStar (a b : BacklogRow) : Ordering :=
  (compare (!a.isNorthStar) (!b.isNorthStar)).then (byPriority a b)

/-- `item_ids` that are given and not empty take the place of the flesh status and the limit. -/
def fleshCandidates (itemIds : List String) (rows : List BacklogRow) : List BacklogRow :=
  let open_ := rows.filter fun row => isFleshable row.readinessState && notBlockedByPeer rows row
  if itemIds.isEmpty then
    limitTo limit (orderBy byNorthStar (open_.filter fun row => row.fleshStatus = .unfleshed ||
      (row.fleshStatus = .failed && row.fleshAttempts < 3)))
  else orderBy byPriority (open_.filter fun row => itemIds.contains row.itemId)

def listFleshCandidates (itemIds : List String) : Prog (List BacklogRow) :=
  selectRows.bind fun rows => .ret (fleshCandidates limit itemIds rows)

def recordFleshOutcome (outcome : FleshOutcome) : Prog (Option BacklogRow) :=
  (getBacklogItem outcome.itemId).bind fun item =>
    match item with
    | none => .ret none
    | some item =>
      if !isFleshable item.readinessState then .ret (some item)
      else
        (issue .now).bind fun (now : Instant) =>
        (execUpdate (.recordFleshOutcome item outcome now)).bind fun _ =>
        getBacklogItem outcome.itemId

end IdAgents.Orchestration
