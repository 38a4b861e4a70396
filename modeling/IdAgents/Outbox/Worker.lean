import IdAgents.Library.Timestamp
import IdAgents.Scheduler.Reactor

namespace IdAgents.Outbox
open JsText KeyedTable AtomicProgram

structure DispatchOperationEnvelope where
  operationType : String
  dispatchId : String
  idempotencyKey : String
  actor : String
  causationId : Option String
  occurredAt : String
  fromStatus : Option String
  toStatus : String
deriving DecidableEq, Repr

/-- A row of `dispatch_operation_outbox`; its instants are texts, and compared as such. -/
structure OutboxRow where
  operationId : String
  envelope : DispatchOperationEnvelope
  createdAt : String
  availableAt : String
  claimedAt : Option String := none
  claimedBy : Option String := none
  deliveredAt : Option String := none
  attemptCount : Nat := 0
  lastError : Option String := none
  deadLetteredAt : Option String := none
deriving DecidableEq, Repr

instance : Schema OutboxRow String String where
  key row := row.operationId
  entry row := some row.envelope.idempotencyKey

/-- `datetime(?, '-5 minutes')`, null for a year SQLite does not read. -/
def leaseCutoff (now : Instant) : Option String :=
  if FourDigitYear now then some (sqliteDatetime (now - 300000)) else none

def OutboxRow.isOpen (row : OutboxRow) : Bool :=
  row.deliveredAt = none && row.deadLetteredAt = none

/-- `claimed_at IS NULL OR claimed_at < datetime(?, '-5 minutes')` -/
def OutboxRow.leaseExpired (now : Instant) (row : OutboxRow) : Bool :=
  match row.claimedAt, leaseCutoff now with
  | none, _ => true
  | some claimedAt, some cutoff => claimedAt < cutoff
  | some _, none => false

inductive OutboxUpdate where
  | claim (now : Instant) (workerId operationId : String)
  | acknowledge (now : Instant) (operationId : String)
  | fail (attempts : Nat) (error retryAt : String) (deadLetteredAt : Option String)
      (operationId : String)

namespace OutboxUpdate

def operationId : OutboxUpdate → String
  | claim _ _ operationId | acknowledge _ operationId | fail _ _ _ _ operationId => operationId

def guard : OutboxUpdate → OutboxRow → Bool
  | claim now _ _, row => row.isOpen && row.leaseExpired now
  | acknowledge .., _ | fail .., _ => true

def set : OutboxUpdate → OutboxRow → OutboxRow
  | claim now workerId _, row =>
    { row with claimedAt := some (toISOString now), claimedBy := some workerId }
  | acknowledge now _, row =>
    { row with deliveredAt := some (toISOString now), claimedAt := none, claimedBy := none,
               attemptCount := row.attemptCount + 1, lastError := none }
  | fail attempts error retryAt deadLetteredAt _, row =>
    { row with claimedAt := none, claimedBy := none, attemptCount := attempts,
               lastError := some error, availableAt := retryAt, deadLetteredAt := deadLetteredAt }

theorem set_operationId (u : OutboxUpdate) (row : OutboxRow) :
    (u.set row).operationId = row.operationId := by
  cases u <;> rfl

@[simp] theorem set_envelope (u : OutboxUpdate) (row : OutboxRow) :
    (u.set row).envelope = row.envelope := by
  cases u <;> rfl

def toUpdate (u : OutboxUpdate) : Update OutboxRow where
  at_ := u.operationId
  guard := u.guard
  set := u.set
  key_set := u.set_operationId

end OutboxUpdate

structure Environment where
  clock : Nat → Instant
  append : Nat → DispatchOperationEnvelope → Except String Unit

structure World where
  table : Table OutboxRow
  accepted : List DispatchOperationEnvelope
  step : Nat
  env : Environment

inductive Stmt where
  | now
  | select
  | update (u : OutboxUpdate)
  | append (envelope : DispatchOperationEnvelope)

namespace Stmt

def Ans : Stmt → Type
  | now => Instant
  | select => List OutboxRow
  | update _ => Nat
  | append _ => Except String Unit

def answer : (c : Stmt) → World → c.Ans
  | now, w => w.env.clock w.step
  | select, w => w.table.rows
  | update u, w => w.table.rowCount u.toUpdate
  | append envelope, w => w.env.append w.step envelope

def effect (c : Stmt) (w : World) : World where
  table := match c with
    | update u => w.table.update u.toUpdate
    | _ => w.table
  accepted := match c with
    | append envelope => match w.env.append w.step envelope with
      | .ok _ => w.accepted ++ [envelope]
      | .error _ => w.accepted
    | _ => w.accepted
  step := w.step + 1
  env := w.env

end Stmt

abbrev sql : Signature := ⟨Stmt, Stmt.Ans⟩

instance : Store sql World where
  answer := Stmt.answer
  effect := Stmt.effect

abbrev Prog (α : Type) := Program sql Empty α

def nowFn : Prog Instant := Program.stmt (S := sql) .now

def selectRows : Prog (List OutboxRow) := Program.stmt (S := sql) .select

def execUpdate (u : OutboxUpdate) : Prog Nat := Program.stmt (S := sql) (.update u)

def append (envelope : DispatchOperationEnvelope) : Prog (Except String Unit) :=
  Program.stmt (S := sql) (.append envelope)

structure DispatchOperationOutboxWorker where
  workerId : String
  maxAttempts : Nat := 10

structure ReplayReport where
  delivered : Nat := 0
  failed : Nat := 0
  deadLettered : Nat := 0

def eligible (now : Instant) (row : OutboxRow) : Bool :=
  row.isOpen && row.availableAt ≤ toISOString now && row.leaseExpired now

def createdOrder (a b : OutboxRow) : Bool :=
  a.createdAt < b.createdAt || (a.createdAt = b.createdAt && a.operationId ≤ b.operationId)

def batchRows (now : Instant) (limit : Int) (rows : List OutboxRow) : List OutboxRow :=
  limitTo limit ((rows.filter (eligible now)).insertionSort (fun a b => createdOrder a b))

def retryDelay (attempts : Nat) : Int := min 300000 (1000 * 2 ^ min attempts 8)
section
variable (worker : DispatchOperationOutboxWorker)

def failRow (report : ReplayReport) (row : OutboxRow) (error : String) : Prog ReplayReport := do
  let attempts := row.attemptCount + 1
  let dead := worker.maxAttempts ≤ attempts
  let failedAt ← nowFn
  let retryAt := toISOString (failedAt + retryDelay attempts)
  let deadLetteredAt ← if dead then some <$> nowFn else pure none
  let _ ← execUpdate (.fail attempts (sliceUnits 2000 error) retryAt
    (deadLetteredAt.map toISOString) row.operationId)
  return { report with
    failed := report.failed + 1
    deadLettered := if dead then report.deadLettered + 1 else report.deadLettered }

def replayRow (now : Instant) (report : ReplayReport) (row : OutboxRow) : Prog ReplayReport := do
  let rowCount ← execUpdate (.claim now worker.workerId row.operationId)
  if rowCount = 0 then return report
  else
    match ← append row.envelope with
    | .ok _ =>
      let deliveredAt ← nowFn
      let _ ← execUpdate (.acknowledge deliveredAt row.operationId)
      return { report with delivered := report.delivered + 1 }
    | .error error => failRow worker report row error

def replayBatch (limit : Int) : Prog ReplayReport := do
  let now ← nowFn
  let rows ← selectRows
  Program.fold (batchRows now limit rows) {} (replayRow worker now)

end

end IdAgents.Outbox
