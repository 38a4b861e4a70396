import Mathlib.Data.List.Sort
import IdAgents.Scheduler.World

namespace IdAgents
open JsText KeyedTable AtomicProgram

def nowFn : Prog Instant := Program.stmt (S := sql) .now

def selectRows : Prog (List Row) := Program.stmt (S := sql) .select

def mintPhid : Prog String := Program.stmt (S := sql) .mintPhid

def insertRow (row : Row) : Prog (Option Unit) := Program.stmt (S := sql) (.insert row)

variable (phid : String)

def pendingDependencies : Prog Bool :=
  Program.stmt (S := sql) (.pendingDependencies phid)

def conflict (message : String) : Prog α := .throw (.conflict message)

/-- An UPDATE, returning its `rowCount`. -/
def execUpdate (u : UpdateStmt) : Prog Nat := do
  match ← (Program.stmt (S := sql) (.update u) : Prog (Option Nat)) with
  | some rowCount => return rowCount
  | none => throw .uniqueConstraint

def getByPhid : Prog (Option DispatchDoc) := do
  let rows ← selectRows
  return (rows.find? (·.dispatchPhid = phid)).map rowToDoc

/-- `ORDER BY` a decidable order; every order used ends in the primary key, so it is total. -/
def orderBy (le : Row → Row → Bool) (rows : List Row) : List Row :=
  rows.insertionSort (fun a b => le a b)

/-- `LIMIT ?`: SQLite reads a negative limit as none. -/
def limitTo (limit : Int) (rows : List α) : List α :=
  if limit < 0 then rows else rows.take limit.toNat

theorem limitTo_sublist (limit : Int) (rows : List α) : (limitTo limit rows).Sublist rows := by
  rw [limitTo]
  split
  · exact List.Sublist.refl _
  · exact List.take_sublist _ _

variable (provider : Option Provider)

def lane (runtime : Option Runtime) (doc : DispatchDoc) : Bool :=
  provider.all (· = doc.provider) && runtime.all (· = doc.runtime)

/-- `findActiveByDedupKey`; the SELECT by phid that follows it reads the row again. -/
def findActiveByDedupKey (dedupKey : String) : Prog (Option DispatchDoc) := do
  let rows ← selectRows
  let matching := rows.filter fun row => row.dedupKey = some dedupKey && isActiveForDedup row
  let sorted := orderBy (fun a b => a.updatedAt < b.updatedAt ||
    (a.updatedAt = b.updatedAt && a.dispatchPhid ≤ b.dispatchPhid)) matching
  match sorted.head? with
  | some row => getByPhid row.dispatchPhid
  | none => return none

variable (input : EnqueueInput)

def enqueuedRow (promotion : PromotionDefaults) (phid : String) (now : Instant) : Row where
  dispatchPhid := phid
  queryId := input.queryId
  toAgent := input.toAgent
  fromActor := input.fromActor
  channel := input.channel
  subject := input.subject
  bodyMarkdown := input.bodyMarkdown
  provider := input.provider
  runtime := input.runtime
  priority := clampPriority input.priority
  status := .queued
  notBeforeAt := input.notBeforeAt.getD now
  attemptCount := 0
  bounceCount := 0
  lastBounce := none
  bounceHistory := []
  startedAt := none
  completedAt := none
  updatedAt := now
  agentQueryId := none
  usagePolicySnapshot := input.usagePolicySnapshot
  failureKind := none
  failureDetail := none
  resultJson := none
  reportCandidateRequestJson := none
  clarificationId := none
  activeClarification := none
  clarificationHistory := []
  resumeDeliveryStatus := .none
  promote := promotion.promote
  promotionStrategy := promotion.promotionStrategy
  promotionRequiredReason := promotion.promotionRequiredReason
  promotionResultJson := none
  artifactPath := none
  recoveryStatus := .none
  recoveryAttempts := 0
  recoveryReason := none
  sideEffect := "none"
  allowAutoRetry := false
  promotionInput := promotion.promotionInput
  targetUrl := input.targetUrl
  dedupKey := input.dedupKey
  supersedeLink := none
  reportCandidateExportStatus := none

def freshRow : Row :=
  enqueuedRow { queryId := "query-" ++ phid, toAgent := "coder", fromActor := "manager",
                channel := "talk", subject := "task", bodyMarkdown := "do it",
                provider := .anthropic, runtime := .claudeCodeCli }
    ⟨false, .auto, none, none⟩ phid 0

/-- The lookup of an enqueue that carries a non-empty `dedup_key`. -/
def findExisting : Prog (Option DispatchDoc) :=
  match input.dedupKey with
  | some key => if key = "" then return none else findActiveByDedupKey key
  | none => return none

def enqueue : Prog DispatchDoc := do
  let now ← nowFn
  match ← findExisting input with
  | some existing => return existing
  | none =>
    let phid ← mintPhid
    match defaultPromotionFields input with
    | .error message => throw (.other message)
    | .ok promotion =>
      let row := enqueuedRow input promotion phid now
      match ← insertRow row with
      | some _ => return rowToDoc row
      | none =>
        -- a concurrent enqueue won the unique index: its row is the one to reuse
        match ← findExisting input with
        | some existing => return existing
        | none => throw .uniqueConstraint

/-- The rows whose graph node, if any, is not `pending_dependencies`. -/
def graphFilteredRows : List Row → Prog (List Row)
  | [] => return []
  | row :: rows => do
    let pending ← pendingDependencies row.dispatchPhid
    let rest ← graphFilteredRows rows
    return if pending then rest else row :: rest

def claimRows (filter : QueueEligibleFilter) (inFlight : Nat) (now : Instant) :
    List Row → List DispatchDoc → Prog (List DispatchDoc)
  | [], claimed => return claimed
  | row :: rows, claimed => do
    let rowCount ← execUpdate (.runClaim ⟨filter, inFlight, claimed.length⟩ row.dispatchPhid
      (row.attemptCount + 1) now)
    if rowCount = 0 then claimRows filter inFlight now rows claimed
    else match ← getByPhid row.dispatchPhid with
      | some fresh => claimRows filter inFlight now rows (claimed ++ [fresh])
      | none => claimRows filter inFlight now rows claimed

variable (filter : QueueEligibleFilter)

def eligible (now : Instant) (row : Row) : Bool :=
  row.status = .queued && row.notBeforeAt ≤ now &&
    lane filter.provider filter.runtime row.toDispatchDoc && !filter.excludeAgents.contains row.toAgent

def claimOrder (a b : Row) : Bool :=
  b.priority < a.priority || (a.priority = b.priority && (a.notBeforeAt < b.notBeforeAt ||
    (a.notBeforeAt = b.notBeforeAt && a.dispatchPhid ≤ b.dispatchPhid)))
section
variable (runtime : Option Runtime)

def laneInFlight (rows : List Row) : Nat :=
  rows.countP fun row => row.status = .inFlight && lane provider runtime row.toDispatchDoc

def claimEligible (inFlight : Nat) (limit : Int) (now : Instant) : Prog (List DispatchDoc) :=
  if limit = 0 then return []
  else do
    let rows ← selectRows
    let eligibleRows := limitTo limit (orderBy claimOrder (rows.filter (eligible filter now)))
    let ready ← graphFilteredRows eligibleRows
    claimRows filter inFlight now ready []

/-- The body of `claim`; the promise lock around it orders the calls of one instance only. -/
def runClaim : Prog (List DispatchDoc) := do
  let now ← filter.now.elim nowFn .ret
  let limit := filter.limit.getD 10
  match filter.maxInFlight with
  | some maxInFlight =>
    let rows ← selectRows
    let inFlight := laneInFlight filter.provider filter.runtime rows
    let headroom := max 0 (maxInFlight - inFlight)
    claimEligible filter inFlight (min limit headroom) now
  | none => claimEligible filter 0 limit now

def acceptDispatchStart (phid agentQueryIdInput : String) : Prog (Option DispatchDoc) := do
  match ← getByPhid phid with
  | none => return none
  | some doc =>
    let agentQueryId := trim agentQueryIdInput
    if agentQueryId = "" then conflict "acceptDispatchStart requires non-empty agent_query_id"
    else
      let now ← nowFn
      match doc.status with
      | .queued =>
        let rowCount ← execUpdate (.acceptQueued phid agentQueryId now)
        if rowCount = 0 then conflict s!"acceptDispatchStart lost queued transition for {phid}"
        else getByPhid phid
      | .inFlight =>
        match doc.agentQueryId.filter fun q => q ≠ "" && q ≠ agentQueryId with
        | some q => conflict s!"acceptDispatchStart conflict: in_flight has agent_query_id {q}"
        | none =>
          let rowCount ← execUpdate (.acceptInFlight phid agentQueryId now)
          if rowCount = 0 then
            conflict s!"acceptDispatchStart lost in_flight transition for {phid}"
          else getByPhid phid
      | .done | .failed | .cancelled =>
        if doc.agentQueryId = some agentQueryId then return some doc
        else conflict s!"acceptDispatchStart cannot run from terminal {doc.status.text}"
      | .bounced | .needsClarification | .resumeDeliveryFailed =>
        conflict s!"acceptDispatchStart requires queued or in_flight, was {doc.status.text}"

def recordAgentStart (phid agentQueryId : String) : Prog (Option DispatchDoc) :=
  acceptDispatchStart phid agentQueryId

inductive TerminalExpected where
  | done (resultJson : Option Json) (reportCandidateRequestJson : Option String)
      (promotionResultJson : Option Json)
  | failure (status : SchedulerStatus) (failureKind : FailureKind) (failureDetail : String)

def TerminalExpected.isExact (winner : DispatchDoc) : TerminalExpected → Bool
  | .done resultJson requestJson promotionResultJson =>
    winner.status = .done && winner.resultJson = resultJson &&
      winner.reportCandidateRequestJson = requestJson &&
      winner.promotionResultJson = promotionResultJson
  | .failure status failureKind failureDetail =>
    winner.status = status && winner.failureKind = some failureKind &&
      winner.failureDetail = some failureDetail

def resolveTerminalCasResult (phid operation : String) (expected : TerminalExpected) :
    Prog (Option DispatchDoc) := do
  match ← getByPhid phid with
  | none => return none
  | some winner =>
    if expected.isExact winner then getByPhid phid
    else conflict s!"{operation} lost terminal compare-and-set; winner is {winner.status.text}"

/-- The shape most transitions share: the row is read, refused by its status or by the clock, and
written by one UPDATE whose row count tells whether the compare-and-set was won. -/
structure Transition where
  reject : DispatchDoc → Option String
  rejectAt : DispatchDoc → Instant → Option String := fun _ _ => none
  write : DispatchDoc → Instant → UpdateStmt
  lost : DispatchDoc → Prog (Option DispatchDoc)

def Transition.exec (t : Transition) (phid : String) : Prog (Option DispatchDoc) := do
  match ← getByPhid phid with
  | none => return none
  | some doc =>
    match t.reject doc with
    | some message => conflict message
    | none =>
      let now ← nowFn
      match t.rejectAt doc now with
      | some message => conflict message
      | none =>
        let rowCount ← execUpdate (t.write doc now)
        if rowCount = 0 then t.lost doc else getByPhid phid

def rejectIf (bad : Bool) (message : String) : Option String := if bad then some message else none

def markDone : Prog (Option DispatchDoc) :=
  Transition.exec {
    reject doc := rejectIf (doc.status ≠ .inFlight)
      s!"markDone requires in_flight, was {doc.status.text}"
    write _ now := .markDone phid now
    lost _ := resolveTerminalCasResult phid "markDone" (.done none none none) } phid

/-- The result a closeout stores, with the optional promotion payload: `none` is `undefined`. -/
structure DoneResult where
  result : Option Json
  reportCandidateRequestJson : Option String := none
  promotionResultJson : Option (Option Json) := none

/-- `result.artifact_path` when it is a non-empty text. -/
def artifactPath (result : Option Json) : Option String :=
  (result.bind (Json.strField? "artifact_path")).filter (· ≠ "")

/-- `markDoneWithResult` and `markQueuedDoneWithResult` differ in the status they require. -/
def closeWithResult (required : SchedulerStatus) (operation : String) (phid : String)
    (args : DoneResult) : Prog (Option DispatchDoc) :=
  let effectivePromotionResultJson (doc : DispatchDoc) :=
    args.promotionResultJson.getD doc.promotionResultJson
  Transition.exec {
    reject doc := rejectIf (doc.status ≠ required)
      s!"{operation} requires {required.text}, was {doc.status.text}"
    write doc now := .doneWithResult required phid args.result (artifactPath args.result)
      (effectivePromotionResultJson doc) args.reportCandidateRequestJson now
    lost doc := resolveTerminalCasResult phid operation (.done args.result
      args.reportCandidateRequestJson (effectivePromotionResultJson doc)) } phid

def markDoneWithResult (args : DoneResult) : Prog (Option DispatchDoc) :=
  closeWithResult .inFlight "markDoneWithResult" phid args

def markQueuedDoneWithResult (args : DoneResult) : Prog (Option DispatchDoc) :=
  closeWithResult .queued "markQueuedDoneWithResult" phid args

def verifiedRepo (repo : Json) : Bool :=
  repo.isObj && repo.isTrueField "verified" && repo.isTrueField "pushed" &&
    match repo.strField? "promoted_sha" with
    | some sha => sha ≠ "" && repo.field? "remote_main_sha" = some (.str sha)
    | none => false

def hasVerifiedPromotion (value : Option Json) : Bool :=
  match value with
  | some promotion =>
    promotion.isTrueField "completed" && match promotion.field? "repos" with
      | some (.arr repos) => !repos.isEmpty && repos.all verifiedRepo
      | _ => false
  | none => false

def recordRejectedTerminalOverwrite (doc : DispatchDoc) (args : FailureArgs) : Prog Unit := do
  let occurredAt ← nowFn
  Program.stmt (S := sql) (.insertEvent ⟨doc.dispatchPhid, occurredAt, args,
    doc.promotionResultJson⟩)

/-- What `markFailed` does when its UPDATE found no row to fail. -/
def markFailedLost (args : FailureArgs) : Prog (Option DispatchDoc) := do
  match ← getByPhid phid with
  | some latest =>
    if latest.status = .done ∧ hasVerifiedPromotion latest.promotionResultJson then do
      recordRejectedTerminalOverwrite latest args
      return some latest
    else conflict s!"markFailed lost transition for {phid}; latest status {latest.status.text}"
  | none => conflict s!"markFailed lost transition for {phid}; latest status missing"

def markFailed (args : FailureArgs) : Prog (Option DispatchDoc) := do
  match ← getByPhid phid with
  | none => return none
  | some doc =>
    if doc.status = .done ∧ hasVerifiedPromotion doc.promotionResultJson then do
      recordRejectedTerminalOverwrite doc args
      return some doc
    else if doc.status = .done ∨ doc.status = .cancelled then
      conflict s!"markFailed cannot run from terminal {doc.status.text}"
    else
      let now ← nowFn
      let rowCount ← execUpdate (.markFailed phid args now)
      if rowCount = 0 then markFailedLost phid args else getByPhid phid

def markBounced (bounce : BounceInput) : Prog (Option DispatchDoc) :=
  Transition.exec {
    reject doc := rejectIf (isTerminal doc.status)
      s!"markBounced cannot run from terminal {doc.status.text}"
    write doc now := .markBounced doc bounce now
    lost doc := conflict s!"markBounced lost compare-and-set from {doc.status.text}" } phid

def requeueAfterBounce : Prog (Option DispatchDoc) :=
  Transition.exec {
    reject doc := rejectIf (doc.status ≠ .bounced)
      s!"requeue requires bounced, was {doc.status.text}"
    rejectAt doc now := rejectIf (now < doc.notBeforeAt)
      s!"requeue blocked until {toISOString doc.notBeforeAt}"
    write _ now := .requeueAfterBounce phid now
    lost _ := conflict "requeue lost compare-and-set from bounced" } phid

def cancel (phid detail : String) : Prog (Option DispatchDoc) :=
  Transition.exec {
    reject doc := rejectIf (isTerminal doc.status)
      s!"cancel cannot run from terminal {doc.status.text}"
    write doc now := .cancel doc detail now
    lost _ := resolveTerminalCasResult phid "cancel" (.failure .cancelled .cancelled detail) } phid

def markRetryExhausted (phid detail : String) : Prog (Option DispatchDoc) :=
  Transition.exec {
    reject doc := rejectIf (isTerminal doc.status)
      s!"markRetryExhausted cannot run from terminal {doc.status.text}"
    write doc now := .markRetryExhausted doc detail now
    lost doc := resolveTerminalCasResult phid "markRetryExhausted"
      (.failure .failed (exhaustedFailureKind (doc.lastBounce.map (·.kind))) detail) } phid

def listByStatus (status : SchedulerStatus) (le : Row → Row → Bool) (provider : Option Provider)
    (runtime : Option Runtime) : Prog (List DispatchDoc) := do
  let rows ← selectRows
  let matching := rows.filter fun row =>
    row.status = status && lane provider runtime row.toDispatchDoc
  return (orderBy le matching).map rowToDoc

/-- `started_at ASC, dispatch_phid ASC`; SQLite sorts a null first. -/
def startedOrder (a b : Row) : Bool :=
  match a.startedAt, b.startedAt with
  | some s, some t => s < t || (s = t && a.dispatchPhid ≤ b.dispatchPhid)
  | none, none => a.dispatchPhid ≤ b.dispatchPhid
  | none, some _ => true
  | some _, none => false

def notBeforeOrder (a b : Row) : Bool :=
  a.notBeforeAt < b.notBeforeAt ||
    (a.notBeforeAt = b.notBeforeAt && a.dispatchPhid ≤ b.dispatchPhid)

def listInFlight : Prog (List DispatchDoc) :=
  listByStatus .inFlight startedOrder provider runtime

def listBounced : Prog (List DispatchDoc) :=
  listByStatus .bounced notBeforeOrder provider runtime

def listQueued : Prog (List DispatchDoc) :=
  listByStatus .queued claimOrder provider runtime

end

structure SnapshotOpts where
  maxSafe : Int
  provider : Option Provider := none
  runtime : Option Runtime := none

/-- The document a reduce keeps: the later last bounce, the earlier document on a tie. -/
def laterBounce (best d : DispatchDoc) : DispatchDoc :=
  match d.lastBounce, best.lastBounce with
  | some b, some c => if c.ts < b.ts then d else best
  | some _, none => d
  | none, _ => best

def lastBounceKind : List DispatchDoc → Option String
  | [] => none
  | doc :: docs => (docs.foldl laterBounce doc).lastBounce.map (·.kind)

def snapshotOf (opts : SnapshotOpts) (now : Instant) (inFlight queued bounced : List DispatchDoc) :
    ConcurrencySnapshot where
  inFlight := inFlight.length
  queued := queued.length
  bounced := bounced.length
  maxSafe := opts.maxSafe
  availableSlots := max 0 (opts.maxSafe - inFlight.length)
  oldestQueuedAgeMs := (queued.map fun doc => now - doc.notBeforeAt).foldl max 0
  lastBounceKind := lastBounceKind bounced

def snapshot (opts : SnapshotOpts) : Prog ConcurrencySnapshot := do
  let now ← nowFn
  let inFlight ← listInFlight opts.provider opts.runtime
  let queued ← listQueued opts.provider opts.runtime
  let bounced ← listBounced opts.provider opts.runtime
  return snapshotOf opts now inFlight queued bounced

end IdAgents
