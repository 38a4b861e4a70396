import Mathlib.Data.List.Sort
import IdAgents.Library.Text
import IdAgents.Library.Table
import IdAgents.Library.Interleaving

namespace IdAgents.MergeQueue
open JsText KeyedTable AtomicProgram

inductive MergeState where
  | queued | merging | rebasing | merged | conflict | failed | abandoned
deriving DecidableEq, Repr

inductive MergeStrategy where
  | auto | fastForward | mergeCommit | squash
deriving DecidableEq, Repr

inductive MergeFailureReason where
  | conflictExhausted | smokeFailed | pushRejected | abiMismatch | operatorCanceled
deriving DecidableEq, Repr

structure MergeFailure where
  reason : MergeFailureReason
  detail : String
  followUpDispatchId : Option String
  at_ : String
deriving DecidableEq, Repr

/-- A row of `merge_requests`. -/
structure MergeRequest where
  mrId : String
  idempotencyKey : String
  repoAlias : String
  repoRoot : String
  poolId : String
  base : String
  branch : String
  builder : String
  dispatchId : String
  leaseId : Option String
  headSha : String
  strategy : MergeStrategy
  state : MergeState
  attempts : Nat
  maxAttempts : Nat
  promotedSha : Option String
  failure : Option MergeFailure
  priority : Int
  isNorthStar : Bool
  enqueuedAt : String
  startedAt : Option String
  completedAt : Option String
deriving DecidableEq, Repr

instance : Schema MergeRequest String String where
  key mr := mr.mrId
  entry mr := some mr.idempotencyKey

structure MergeRequestPatch where
  state : Option MergeState := none
  attempts : Option Nat := none
  promotedSha : Option String := none
  failure : Option MergeFailure := none
  headSha : Option String := none
  startedAt : Option String := none
  completedAt : Option String := none
deriving DecidableEq

def MergeRequestPatch.set (patch : MergeRequestPatch) (mr : MergeRequest) : MergeRequest :=
  { mr with
    state := patch.state.getD mr.state
    attempts := patch.attempts.getD mr.attempts
    promotedSha := patch.promotedSha <|> mr.promotedSha
    failure := patch.failure <|> mr.failure
    headSha := patch.headSha.getD mr.headSha
    startedAt := patch.startedAt <|> mr.startedAt
    completedAt := patch.completedAt <|> mr.completedAt }

/-- `UPDATE merge_requests SET … WHERE mr_id = ?` -/
def patchUpdate (mrId : String) (patch : MergeRequestPatch) : Update MergeRequest where
  at_ := mrId
  guard _ := true
  set := patch.set
  key_set _ := rfl

structure FetchResult where
  ok : Bool
  error : Option String := none

structure RebaseResult where
  ok : Bool
  conflict : Bool
  newHeadSha : Option String := none
  error : Option String := none

structure SmokeResult where
  ok : Bool
  detail : Option String := none

structure MergePromoteResult where
  ok : Bool
  promotedSha : Option String := none
  reason : Option MergeFailureReason := none
  detail : Option String := none

/-- The calls the worker makes to git, to the smoke gate and to `promote-to-main`. -/
inductive Call where
  | fetchBase (repoRoot remote base : String)
  | needsRebase (repoRoot branch base : String)
  | rebaseOntoBase (repoRoot branch base : String)
  | smoke (mr : MergeRequest)
  | promote (mr : MergeRequest)

def Call.Result : Call → Type
  | fetchBase .. => FetchResult
  | needsRebase .. => Bool
  | rebaseOntoBase .. => RebaseResult
  | smoke _ => SmokeResult
  | promote _ => MergePromoteResult

structure Environment where
  clock : Nat → Instant
  run : Nat → (c : Call) → Except String c.Result
  lock : Nat → String → Except String Unit
  emitFixForward : Nat → MergeRequest → MergeFailure → Except String (Option String)
  releaseLease : Nat → String → Except String Unit

structure World where
  table : Table MergeRequest
  held : List String
  step : Nat
  env : Environment

inductive Stmt where
  | now
  | select
  | update (mrId : String) (patch : MergeRequestPatch)
  | acquireRepoLock (repoRoot : String)
  | release (repoRoot : String)
  | call (c : Call)
  | emitFixForward (mr : MergeRequest) (failure : MergeFailure)
  | releaseLease (leaseId : String)

namespace Stmt

def Ans : Stmt → Type
  | now => Instant
  | select => List MergeRequest
  | update .. => Unit
  | acquireRepoLock _ => Except String Unit
  | release _ => Unit
  | call c => Except String c.Result
  | emitFixForward .. => Except String (Option String)
  | releaseLease _ => Except String Unit

def answer : (c : Stmt) → World → c.Ans
  | now, w => w.env.clock w.step
  | select, w => w.table.rows
  | update .., _ => ()
  | acquireRepoLock repoRoot, w => w.env.lock w.step repoRoot
  | release _, _ => ()
  | call c, w => w.env.run w.step c
  | emitFixForward mr failure, w => w.env.emitFixForward w.step mr failure
  | releaseLease leaseId, w => w.env.releaseLease w.step leaseId

def held : Stmt → World → List String
  | acquireRepoLock repoRoot, w => match w.env.lock w.step repoRoot with
    | .ok _ => repoRoot :: w.held
    | .error _ => w.held
  | release repoRoot, w => w.held.filter (· ≠ repoRoot)
  | _, w => w.held

def effect (c : Stmt) (w : World) : World where
  table := match c with
    | update mrId patch => w.table.update (patchUpdate mrId patch)
    | _ => w.table
  held := c.held w
  step := w.step + 1
  env := w.env

end Stmt

abbrev sql : Signature := ⟨Stmt, Stmt.Ans⟩

instance : Store sql World where
  answer := Stmt.answer
  effect := Stmt.effect

abbrev Prog (α : Type) := Program sql String α

def selectRows : Prog (List MergeRequest) := Program.stmt (S := sql) .select

def nowIso : Prog String := do
  let now ← (Program.stmt (S := sql) .now : Prog Instant)
  return toISOString now

def orThrow (p : Prog (Except String α)) : Prog α := do
  match ← p with
  | .ok a => return a
  | .error e => throw e

def callOut (c : Call) : Prog c.Result := orThrow (Program.stmt (S := sql) (.call c))

def acquireRepoLock (repoRoot : String) : Prog Unit :=
  orThrow (Program.stmt (S := sql) (.acquireRepoLock repoRoot))

def release (repoRoot : String) : Prog Unit := Program.stmt (S := sql) (.release repoRoot)

def getMergeRequest (mrId : String) : Prog (Option MergeRequest) := do
  let rows ← selectRows
  return rows.find? (·.mrId = mrId)

def updateMergeRequest (mrId : String) (patch : MergeRequestPatch) : Prog (Option MergeRequest) := do
  let _ ← (Program.stmt (S := sql) (.update mrId patch) : Prog Unit)
  getMergeRequest mrId

variable (mr : MergeRequest)

def patched (patch : MergeRequestPatch) : Prog MergeRequest := do
  let updated ← updateMergeRequest mr.mrId patch
  return updated.getD mr

def MergeState.isDrainable (s : MergeState) : Bool := s = .queued || s = .conflict

/-- `ORDER BY is_north_star DESC, priority ASC, enqueued_at ASC` -/
def drainOrder (a b : MergeRequest) : Bool :=
  (a.isNorthStar && !b.isNorthStar) || (a.isNorthStar = b.isNorthStar &&
    (a.priority < b.priority || (a.priority = b.priority && a.enqueuedAt ≤ b.enqueuedAt)))

def dequeueOldestQueued (repoAlias : String) : Prog (Option MergeRequest) := do
  let rows ← selectRows
  let drainable := rows.filter fun mr => mr.repoAlias = repoAlias && mr.state.isDrainable
  return (drainable.insertionSort (fun a b => drainOrder a b)).head?

structure MergeWorkerDeps where
  remote : Option String := none
  smoke : Bool := false
  releaseLease : Bool := false

def fail (reason : MergeFailureReason) (detail : String) : Prog MergeRequest := do
  let at_ ← nowIso
  let failure : MergeFailure := ⟨reason, detail, none, at_⟩
  let emitted ← (Program.stmt (S := sql) (.emitFixForward mr failure) :
    Prog (Except String (Option String)))
  let followUp := match emitted with
    | .ok followUp => followUp
    | .error _ => none
  let failure := { failure with followUpDispatchId := followUp }
  let updated ← updateMergeRequest mr.mrId
    { state := some .failed, failure := some failure, completedAt := some at_ }
  return updated.getD { mr with state := .failed, failure := some failure, completedAt := some at_ }

variable (deps : MergeWorkerDeps)

def releaseMerged (merged : MergeRequest) : Prog MergeRequest :=
  match merged.leaseId.filter (· ≠ "") with
  | some leaseId =>
    if deps.releaseLease then do
      let _ ← (Program.stmt (S := sql) (.releaseLease leaseId) : Prog (Except String Unit))
      return merged
    else return merged
  | none => return merged

def promoteClaimed (mr : MergeRequest) : Prog MergeRequest := do
  let result ← callOut (.promote mr)
  match result.promotedSha.filter fun sha => result.ok && sha ≠ "" with
  | some sha =>
    let at_ ← nowIso
    let updated ← updateMergeRequest mr.mrId
      { state := some .merged, promotedSha := some sha, completedAt := some at_ }
    releaseMerged deps
      (updated.getD { mr with state := .merged, promotedSha := some sha, completedAt := some at_ })
  | none =>
    fail mr (result.reason.getD .pushRejected) (result.detail.getD "promote-to-main failed")

def recordHead (newHeadSha : Option String) : Prog MergeRequest :=
  match newHeadSha.filter (· ≠ "") with
  | some sha => patched mr { headSha := some sha }
  | none => return mr

def smoke : Prog SmokeResult := callOut (.smoke mr)
section
variable (mr : MergeRequest)

def smokeGate : Prog SmokeResult :=
  if deps.smoke then smoke mr else return ⟨true, none⟩

def finishRebase (newHeadSha : Option String) : Prog MergeRequest := do
  let mr ← recordHead mr newHeadSha
  let smoked ← smokeGate deps mr
  if smoked.ok = false then
    fail mr .smokeFailed ("smoke failed on rebased branch: " ++ smoked.detail.getD "")
  else
    let mr ← patched mr { state := some .merging }
    promoteClaimed deps mr

def rebaseClaimed : Prog MergeRequest := do
  let mr ← patched mr { state := some .rebasing }
  let reb ← callOut (.rebaseOntoBase mr.repoRoot mr.branch mr.base)
  if reb.conflict = false ∧ reb.ok = false then
    fail mr .pushRejected ("rebase failed: " ++ reb.error.getD "unknown")
  else if reb.conflict then
    if mr.maxAttempts ≤ mr.attempts then
      fail mr .conflictExhausted s!"rebase conflict after {mr.attempts} attempt(s)"
    else patched mr { state := some .conflict }
  else finishRebase deps mr reb.newHeadSha

def mergeClaimed : Prog MergeRequest := do
  let remote := deps.remote.getD "origin"
  let fetched ← callOut (.fetchBase mr.repoRoot remote mr.base)
  if fetched.ok = false then
    fail mr .pushRejected (s!"fetch {remote} {mr.base} failed: " ++ fetched.error.getD "unknown")
  else
    let stale : Bool ← callOut (.needsRebase mr.repoRoot mr.branch mr.base)
    if stale then rebaseClaimed deps mr
    else promoteClaimed deps mr

end

/-- `claimed.started_at ?? nowIso(deps)` -/
def startTime (claimed : MergeRequest) : Prog String :=
  match claimed.startedAt with
  | some startedAt => return startedAt
  | none => nowIso

def drainPicked (picked : MergeRequest) : Prog (Option MergeRequest) := do
  match ← getMergeRequest picked.mrId with
  | none => return none
  | some claimed =>
    if claimed.state.isDrainable = false then return some claimed
    else
      let startedAt ← startTime claimed
      let mr ← patched claimed
        { state := some .merging, attempts := some (claimed.attempts + 1)
          startedAt := some startedAt }
      some <$> mergeClaimed deps mr

/-- `try … finally` -/
def finally_ (body : Prog α) (cleanup : Prog Unit) : Prog α := do
  let result ← body.tryCatch fun e => cleanup.bind fun _ => Program.throw e
  let _ ← cleanup
  return result

def drainOneMergeRequest (repoAlias : String) (deps : MergeWorkerDeps) :
    Prog (Option MergeRequest) := do
  match ← dequeueOldestQueued repoAlias with
  | none => return none
  | some picked =>
    let _ ← acquireRepoLock picked.repoRoot
    finally_ (drainPicked deps picked) (release picked.repoRoot)

end IdAgents.MergeQueue
