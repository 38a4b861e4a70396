import IdAgents.Library.Table
import IdAgents.Recurrences.Reducer
import IdAgents.Library.Interleaving

namespace IdAgents.Loops
open JsText KeyedTable AtomicProgram List

inductive ActorKind where
  | agent | user | system | service | unknown
deriving DecidableEq, Repr

def ActorKind.text : ActorKind → String
  | .agent => "agent"
  | .user => "user"
  | .system => "system"
  | .service => "service"
  | .unknown => "unknown"

structure ActorRef where
  kind : ActorKind
  id : String
  label : Option String := none
deriving DecidableEq

inductive ManualSurface where
  | dashboard | cli | telegram | api
deriving DecidableEq, Repr

def ManualSurface.text : ManualSurface → String
  | .dashboard => "dashboard"
  | .cli => "cli"
  | .telegram => "telegram"
  | .api => "api"

inductive HygieneSource where
  | promoteToMain | supervisor | orchestration | api
deriving DecidableEq, Repr

inductive WorktreeHygieneIncidentCode where
  | dirtyCheckout | dirtyPrimaryCheckout | staleBase | branchHeldByWorktree
  | aheadBehindDivergence | unlinkedBranch
deriving DecidableEq, Repr

inductive WorktreeHygieneAction where
  | routeToWorktreeHygiene | createOrUpdateHygieneTask | createFreshBranchFromBase
  | inventoryAndPreserveDirtyPaths | linkOrRetireBranch | useCleanCloneOrWorktree
  | needsOperatorInput
deriving DecidableEq, Repr

inductive LoopTrigger where
  | manual (actor : ActorRef) (surface : ManualSurface) (idempotencyKey : String)
      (reason : Option String)
  | scheduled (recurrencePhid : String) (recurrenceInstancePhid : Option String)
      (scheduledFor dedupKey : String)
  | promotionHygiene (source : HygieneSource) (repo branch : String)
      (incidentCode : WorktreeHygieneIncidentCode)
      (linkedTask linkedDispatch linkedRd : Option String) (action : WorktreeHygieneAction)
      (dedupeKey observedAt : String)
deriving DecidableEq

inductive LoopRunStatus where
  | queued | admitted | collecting | reasoning | postprocessing | succeeded | partialResult
  | failed | cancelled
deriving DecidableEq, Repr

inductive LoopFailureReason where
  | manualRunNotAllowed | loopDisabled | admissionThrottled | inputPacketInvalid
  | collectorFailed | llmStepFailed | postprocessFailed | artifactMissing | childDispatchFailed
deriving DecidableEq, Repr

inductive StepPhase where
  | admission | collector | llmStep | postprocess | dispatchSpawn | rollup
deriving DecidableEq, Repr

inductive StepStatus where
  | queued | running | succeeded | failed | skipped
deriving DecidableEq, Repr

structure LoopStepLog where
  stepId : String
  phase : StepPhase
  name : String
  status : StepStatus
  startedAt : Option String := none
  finishedAt : Option String := none
  failureReason : Option LoopFailureReason := none
  detail : Option String := none
  evidenceRefs : List (String × String) := []
deriving DecidableEq

inductive LoopOutputKind where
  | markdownReport | dispatchBundle | telegramMessage | structuredJson
deriving DecidableEq, Repr

inductive DeliveryStatus where
  | notApplicable | queued | sent | failed
deriving DecidableEq, Repr

structure LoopOutputRef where
  kind : LoopOutputKind
  artifactPhid : Option String := none
  path : Option String := none
  href : Option String := none
  dispatchPhids : List String := []
  deliveryStatus : DeliveryStatus := .notApplicable
  required : Bool := false
deriving DecidableEq

/-- A row of `loop_runs`, its JSON columns parsed. -/
structure LoopRunRecord where
  loopRunPhid : String
  loopPhid : String
  trigger : LoopTrigger
  status : LoopRunStatus
  failureReason : Option LoopFailureReason
  failureDetail : Option String
  stepLog : List LoopStepLog
  outputRefs : List LoopOutputRef
  spawnedDispatchPhids : List String
  idempotencyKey : String
  retryOfPhid : Option String
  firedAt : String
  queuedAt : String
  admittedAt : Option String
  startedAt : Option String
  finishedAt : Option String
  createdBy : ActorRef
  updatedAt : String
deriving DecidableEq

/-- What `UNIQUE(loop_phid, idempotency_key)` is over. -/
def LoopRunRecord.slot (run : LoopRunRecord) : String × String :=
  (run.loopPhid, run.idempotencyKey)

instance : Schema LoopRunRecord String (String × String) where
  key run := run.loopRunPhid
  entry run := some run.slot

def loopRunPhid (loopPhid idempotencyKey : String) : String :=
  "phid:looprun-" ++ Recurrences.simpleHash (loopPhid ++ "|" ++ idempotencyKey)

structure LoopRecord where
  loopPhid : String
  enabled : Bool := true
  allowManualRun : Bool := true

inductive ManualRejectCode where
  | loopDisabled | manualRunNotAllowed
deriving DecidableEq, Repr

def evaluateManualTrigger (loop : LoopRecord) : Option ManualRejectCode :=
  if !loop.enabled then some .loopDisabled
  else if !loop.allowManualRun then some .manualRunNotAllowed
  else none

structure RequestActor where
  type : Option String := none
  kind : Option String := none
  id : Option String := none
  label : Option String := none

structure ManualTriggerRequest where
  idempotencyKey : Option String := none
  actor : Option RequestActor := none
  surface : Option String := none
  reason : Option String := none

def normalizeActor (raw : Option RequestActor) : ActorRef :=
  let given := trim ((raw.bind (·.id)).getD "operator")
  let id := if given = "" then "operator" else given
  let k := toLowerCase (((raw.bind (·.kind)).or (raw.bind (·.type))).getD "")
  let kind : ActorKind :=
    if k = "human" || k = "user" then .user
    else if k = "agent" then .agent
    else if k = "system" then .system
    else if k = "service" then .service
    else .user
  { kind, id, label := some ((raw.bind (·.label)).getD id) }

def normalizeSurface (raw : Option String) : ManualSurface :=
  let s := toLowerCase (raw.getD "")
  (([.dashboard, .cli, .telegram, .api] : List ManualSurface).find? (·.text = s)).getD .api

def minuteOf (nowIso : String) : String := String.ofList (nowIso.toList.take 16)

def synthesizeIdempotencyKey (loopPhid : String) (actor : ActorRef) (surface : ManualSurface)
    (nowIso : String) : String :=
  s!"manual:{loopPhid}:{actor.id}:{surface.text}:{minuteOf nowIso}"

def buildManualRun (loop : LoopRecord) (req : ManualTriggerRequest) (nowIso : String) :
    LoopRunRecord :=
  let actor := normalizeActor req.actor
  let surface := normalizeSurface req.surface
  let given := trim (req.idempotencyKey.getD "")
  let idempotencyKey :=
    if given = "" then synthesizeIdempotencyKey loop.loopPhid actor surface nowIso else given
  { loopRunPhid := loopRunPhid loop.loopPhid idempotencyKey
    loopPhid := loop.loopPhid
    trigger := .manual actor surface idempotencyKey req.reason
    status := .queued
    failureReason := none
    failureDetail := none
    stepLog := [{
      stepId := "admission", phase := .admission, name := "manual trigger admitted"
      status := .succeeded, startedAt := some nowIso, finishedAt := some nowIso
      detail := s!"manual run by {actor.kind.text}:{actor.id} via {surface.text}"
      evidenceRefs := [("trigger", "manual:" ++ idempotencyKey)] }]
    outputRefs := []
    spawnedDispatchPhids := []
    idempotencyKey
    retryOfPhid := none
    firedAt := nowIso
    queuedAt := nowIso
    admittedAt := none
    startedAt := none
    finishedAt := none
    createdBy := actor
    updatedAt := nowIso }

structure TransitionPatch where
  status : Option LoopRunStatus := none
  failureReason : Option LoopFailureReason := none
  failureDetail : Option String := none
  appendSteps : List LoopStepLog := []
  appendOutputs : List LoopOutputRef := []
  appendDispatchPhids : List String := []
  admittedAt : Option String := none
  startedAt : Option String := none
  finishedAt : Option String := none

def TransitionPatch.next (patch : TransitionPatch) (current : LoopRunRecord) (nowIso : String) :
    LoopRunRecord :=
  { current with
    status := patch.status.getD current.status
    failureReason := patch.failureReason.or current.failureReason
    failureDetail := patch.failureDetail.or current.failureDetail
    stepLog := current.stepLog ++ patch.appendSteps
    outputRefs := current.outputRefs ++ patch.appendOutputs
    spawnedDispatchPhids := current.spawnedDispatchPhids ++ patch.appendDispatchPhids
    admittedAt := patch.admittedAt.or current.admittedAt
    startedAt := patch.startedAt.or current.startedAt
    finishedAt := patch.finishedAt.or current.finishedAt
    updatedAt := nowIso }

def LoopRunRecord.written (next row : LoopRunRecord) : LoopRunRecord :=
  { row with
    status := next.status
    failureReason := next.failureReason
    failureDetail := next.failureDetail
    stepLog := next.stepLog
    outputRefs := next.outputRefs
    spawnedDispatchPhids := next.spawnedDispatchPhids
    admittedAt := next.admittedAt
    startedAt := next.startedAt
    finishedAt := next.finishedAt
    updatedAt := next.updatedAt }

inductive Stmt where
  | getLoopRun (loopRunPhid : String)
  | getLoopRunByKey (loopPhid idempotencyKey : String)
  | insert (run : LoopRunRecord)
  | update (loopRunPhid : String) (current : LoopRunRecord) (patch : TransitionPatch)
      (nowIso : String)

/-- The table `loop_runs`. -/
abbrev World := Table LoopRunRecord

def World.byKey (w : World) (loopPhid idempotencyKey : String) : Option LoopRunRecord :=
  w.rows.find? (·.slot = (loopPhid, idempotencyKey))

def transitionUpdate (loopRunPhid : String) (next : LoopRunRecord) : Update LoopRunRecord where
  at_ := loopRunPhid
  guard _ := true
  set := next.written
  key_set _ := rfl

namespace Stmt

def Ans : Stmt → Type
  | getLoopRun _ | getLoopRunByKey .. => Option LoopRunRecord
  | insert _ => Except String Unit
  | update .. => Unit

/-- `ON CONFLICT(loop_phid, idempotency_key) DO NOTHING` is tried before the primary key. -/
def answer : (c : Stmt) → World → c.Ans
  | getLoopRun loopRunPhid, w => w.get? loopRunPhid
  | getLoopRunByKey loopPhid idempotencyKey, w => w.byKey loopPhid idempotencyKey
  | insert run, w =>
    if (w.byKey run.loopPhid run.idempotencyKey).isSome then .ok ()
    else if (w.get? run.loopRunPhid).isSome then
      .error "UNIQUE constraint failed: loop_runs.loop_run_phid"
    else .ok ()
  | update .., _ => ()

def effect : Stmt → World → World
  | insert run, w => Table.insert w run
  | update loopRunPhid current patch nowIso, w =>
    Table.update w (transitionUpdate loopRunPhid (patch.next current nowIso))
  | _, w => w

end Stmt

abbrev sql : Signature := ⟨Stmt, Stmt.Ans⟩

instance : Store sql World where
  answer := Stmt.answer
  effect := Stmt.effect

abbrev Prog (α : Type) := Program sql String α

def issue (c : Stmt) : Prog c.Ans := Program.stmt (S := sql) c

inductive CreateRunResult where
  | created (run : LoopRunRecord)
  | duplicate (run : LoopRunRecord)

def CreateRunResult.run : CreateRunResult → LoopRunRecord
  | created run | duplicate run => run

def settle (run : LoopRunRecord) (settled : Option LoopRunRecord) : CreateRunResult :=
  match settled with
  | some other => if other.loopRunPhid ≠ run.loopRunPhid then .duplicate other else .created other
  | none => .created run

def createLoopRun (run : LoopRunRecord) : Prog CreateRunResult :=
  (issue (.getLoopRunByKey run.loopPhid run.idempotencyKey)).bind fun existing =>
    match (existing : Option LoopRunRecord) with
    | some existing => .ret (.duplicate existing)
    | none => (issue (.insert run)).bind fun inserted =>
      match (inserted : Except String Unit) with
      | .error e => .throw e
      | .ok () => (issue (.getLoopRunByKey run.loopPhid run.idempotencyKey)).bind
          fun settled => .ret (settle run settled)

def transitionLoopRun (loopRunPhid : String) (patch : TransitionPatch) (nowIso : String) :
    Prog (Option LoopRunRecord) :=
  (issue (.getLoopRun loopRunPhid)).bind fun current =>
    match (current : Option LoopRunRecord) with
    | none => .ret none
    | some current => (issue (.update loopRunPhid current patch nowIso)).bind fun _ =>
      .ret (some (patch.next current nowIso))

variable {w : World}

theorem World.byKey_some (h : w.byKey loopPhid key = some run) :
    run ∈ w.rows ∧ run.slot = (loopPhid, key) := by
  have hslot := find?_some h
  exact ⟨mem_of_find?_eq_some h, by simpa using hslot⟩

theorem World.byKey_isSome :
    (w.byKey loopPhid key).isSome ↔ ∃ run ∈ w.rows, run.slot = (loopPhid, key) := by
  simp [byKey, find?_isSome]

theorem World.insert_new (hkey : w.byKey run.loopPhid run.idempotencyKey = none)
    (hphid : w.get? run.loopRunPhid = none) : (Table.insert w run).rows = w.rows ++ [run] := by
  have hkeys : ((w.rows ++ [run]).map Schema.key).Nodup := by
    rw [map_append, nodup_append]
    refine ⟨w.key_nodup, by simp, ?_⟩
    rintro k hk _ hr rfl
    obtain ⟨old, hold, rfl⟩ := mem_map.mp hk
    rw [map_singleton, mem_singleton] at hr
    have hfound : w.get? run.loopRunPhid = some old := Table.get?_eq_some.mpr ⟨hold, hr⟩
    rw [hphid] at hfound
    cases hfound
  have hentries : ((w.rows ++ [run]).filterMap Schema.entry).Nodup := by
    rw [filterMap_append, nodup_append]
    refine ⟨w.entry_nodup, by simp [Schema.entry], ?_⟩
    rintro k hk _ hr rfl
    obtain ⟨old, hold, hentry⟩ := mem_filterMap.mp hk
    have hslot : old.slot = run.slot := by
      have hrun : k = run.slot := by simpa [Schema.entry, eq_comm] using hr
      exact (Option.some.inj hentry).trans hrun
    have hfound := World.byKey_isSome.mpr ⟨old, hold, hslot⟩
    rw [hkey] at hfound
    cases hfound
  rw [Table.insert, dif_pos ⟨hkeys, hentries⟩]

theorem World.insert_taken
    (h : (w.byKey run.loopPhid run.idempotencyKey).isSome) : Table.insert w run = w := by
  obtain ⟨old, hold, hslot⟩ := World.byKey_isSome.mp h
  rw [Table.insert, dif_neg]
  rintro ⟨_, hentries⟩
  rw [filterMap_append, nodup_append] at hentries
  exact hentries.2.2 run.slot (mem_filterMap.mpr ⟨old, hold, congrArg some hslot⟩) run.slot
    (by simp [Schema.entry]) rfl

end IdAgents.Loops
