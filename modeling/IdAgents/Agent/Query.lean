import IdAgents.Library.Json
import IdAgents.Library.Program
import IdAgents.Agent.Harness

namespace IdAgents.Agent
open JsText AtomicProgram

inductive QueryStatus where
  | pending | processing | completed | failed | expired | cancelled
deriving DecidableEq, Repr

/-- A row of `queries` of the team. -/
structure QueryRow where
  queryId : String
  agentId : Option String
  status : QueryStatus
  prompt : Option String
  created : Int
  completed : Option Int := none
  result : Option Json := none
  error : Option String := none
  sessionId : Option String := none
  managerDispatchId : Option String := none
  managerQueryId : Option String := none
deriving DecidableEq

structure ActiveQuery where
  id : String
  prompt : String
  status : QueryStatus
  created : Int
  completed : Option Int := none
  result : Option Json := none
  error : Option String := none
deriving DecidableEq

structure Job where
  queryId : String
  prompt : String
  resume : Option String := none
  sender : Option String := none
  noAutoReply : Bool := false
deriving DecidableEq

/-- What `executeQuery` reads of its server. -/
structure Settings where
  agentId : String
  runtimeDisplay : String
  allowSessionResume : Bool
  supportsCancel : Bool
  model : String
  retryPolicy : HarnessRetryPolicy
  /-- The prompt with the sender and the messaging skill. -/
  enhancePrompt : Job → String
  /-- `JSON.parse`, where it does not throw. -/
  parseJson : String → Option Json

/-- The outside as of a step: the clock, what the runtime does in an attempt of a query, and which
calls throw. -/
structure Environment where
  clock : Nat → Int
  harness : String → Nat → RuntimeRun
  dbFails : Nat → Option String
  newsFails : Nat → Option String

/-- The table, and the memory of an agent server: its map of queries in the order they entered it,
its queue, the query whose process runs, and the queries a handler has taken on whose execution
has not ended. -/
structure World where
  rows : List QueryRow
  active : List ActiveQuery
  queue : List Job
  running : Option String
  inHand : List String
  lastSessionId : Option String
  step : Nat
  settings : Settings
  env : Environment

inductive Outcome where
  | completed (result : Json)
  | failed (error : String)

/-- The query whose process a cancellation has killed, and the query it has marked. -/
structure Cancelled where
  killed : Option String
  marked : Option String
deriving DecidableEq

/-- The statements of the server's handlers, of its query queue and of the manager's writers. -/
inductive Stmt where
  | settings
  | prewrite (job : Job) (managerDispatchId managerQueryId : Option String)
  | startQuery (job : Job)
  | takeJob
  | activate (job : Job)
  | readSession
  | spawn (queryId : String) (attempt : Nat) (resume : Option String)
  | finish (queryId : String) (attempt : Nat)
  | setSession (sessionId : Option String)
  | settle (queryId : String) (outcome : Outcome) (sessionId : Option String)
  | endQuery (queryId : String)
  | addNews (type queryId : String)
  | sendReply (queryId : String) (success : Bool) (sessionId : Option String)
  | cancel
  | complete (queryId : String) (result : Option Json)
  | markFailed (queryId : String) (error : Option String)
  | expireStale (cutoffCreated : Int) (statuses : List QueryStatus)
  | selectOpen (agentId : String)
  | cancelOpen (agentId : String)

namespace World

variable (w : World)

def row? (queryId : String) : Option QueryRow :=
  w.rows.find? (·.queryId = queryId)

def active? (queryId : String) : Option ActiveQuery :=
  w.active.find? (·.id = queryId)

/-- `INSERT … ON CONFLICT (team_id, query_id) DO UPDATE` -/
def upsert (row : QueryRow) : List QueryRow :=
  if w.rows.any (·.queryId = row.queryId) then
    w.rows.map fun r => if r.queryId = row.queryId then
      { row with prompt := r.prompt, created := r.created
                 managerDispatchId := row.managerDispatchId <|> r.managerDispatchId
                 managerQueryId := row.managerQueryId <|> r.managerQueryId }
    else r
  else w.rows ++ [row]

variable (query : ActiveQuery)

/-- `Map.set`, which keeps the place of a key that is there. -/
def setActive : List ActiveQuery :=
  if w.active.any (·.id = query.id) then
    w.active.map fun q => if q.id = query.id then query else q
  else w.active ++ [query]

def now : Int := w.env.clock w.step

def dbFails : Option String := w.env.dbFails w.step

/-- The row `dbUpsertQuery` writes. -/
def rowOf (sessionId : Option String) : QueryRow where
  queryId := query.id
  agentId := some w.settings.agentId
  status := query.status
  prompt := some query.prompt
  created := query.created
  completed := query.completed
  result := query.result
  error := query.error
  sessionId := sessionId

def started (job : Job) : ActiveQuery :=
  { id := job.queryId, prompt := job.prompt, status := .processing, created := w.now }

def settled : Outcome → ActiveQuery
  | .completed result =>
    { query with status := .completed, completed := some w.now, result := some result }
  | .failed error =>
    { query with status := .failed, completed := some w.now, error := some error }

/-- `this.activeQueries.values().next().value` -/
def firstActive : Option ActiveQuery := w.active.head?

/-- What `harness.cancel()` kills, and what the handler then marks: the first query of the map, if it
is processing. -/
def cancelled : Cancelled :=
  if w.settings.supportsCancel then match w.running with
    | some id => ⟨some id, (w.firstActive.filter (·.status = .processing)).map (·.id)⟩
    | none => ⟨none, none⟩
  else ⟨none, none⟩

end World

def QueryStatus.isOpen (s : QueryStatus) : Bool := s = .pending || s = .processing

def QueryRow.isOver (row : QueryRow) : Bool := !row.status.isOpen

namespace Stmt

def Ans : Stmt → Type
  | settings => Settings
  | prewrite .. | activate _ | settle .. | addNews .. => Except String Unit
  | takeJob => Option Job
  | readSession => Option String
  | finish .. => RuntimeRun
  | cancel => Cancelled
  | selectOpen _ => List String
  | _ => Unit

def answer : (c : Stmt) → World → c.Ans
  | settings, w => w.settings
  | prewrite .., w | activate _, w | settle .., w => match w.dbFails with
    | some e => .error e
    | none => .ok ()
  | addNews .., w => match w.env.newsFails w.step with
    | some e => .error e
    | none => .ok ()
  | takeJob, w => w.queue.head?
  | readSession, w => w.lastSessionId
  | finish queryId attempt, w => w.env.harness queryId attempt
  | cancel, w => w.cancelled
  | selectOpen agentId, w =>
    (w.rows.filter fun r => r.agentId = some agentId && r.status.isOpen).map (·.queryId)
  | startQuery _, _ | spawn .., _ | setSession _, _ | endQuery _, _ | sendReply .., _
  | complete .., _ | markFailed .., _ | expireStale .., _ | cancelOpen _, _ => ()

variable (c : Stmt)

/-- The row a statement leaves of a row: the `UPDATE`s of the manager. -/
def rewrite (now : Int) (r : QueryRow) : QueryRow :=
  match c with
  | complete queryId result =>
    if r.queryId = queryId ∧ r.status = .pending then
      { r with status := .completed, completed := some now, result := result } else r
  | markFailed queryId error =>
    if r.queryId = queryId ∧ r.status = .pending then
      { r with status := .failed, completed := some now, error := error } else r
  | expireStale cutoffCreated statuses =>
    if r.status ∈ statuses ∧ r.created < cutoffCreated then
      { r with status := .expired, completed := some now } else r
  | cancelOpen agentId =>
    if r.agentId = some agentId ∧ r.status.isOpen then
      { r with status := .cancelled, completed := some now } else r
  | _ => r

variable (w : World)

def rows : List QueryRow :=
  match c with
  | prewrite job managerDispatchId managerQueryId =>
    if w.dbFails.isSome then w.rows
    else w.upsert { queryId := job.queryId, agentId := some w.settings.agentId, status := .pending,
                    prompt := some job.prompt, created := w.now, sessionId := job.resume,
                    managerDispatchId, managerQueryId }
  | activate job => if w.dbFails.isSome then w.rows else w.upsert (w.rowOf (w.started job) none)
  | settle queryId outcome sessionId => match w.active? queryId with
    | some query =>
      if w.dbFails.isSome then w.rows
      else w.upsert (w.rowOf (w.settled query outcome)
        (match outcome with | .completed _ => sessionId | .failed _ => none))
    | none => w.rows
  | c => w.rows.map (c.rewrite w.now)

def active : List ActiveQuery :=
  match c with
  | activate job => w.setActive (w.started job)
  | settle queryId outcome _ => match w.active? queryId with
    | some query => w.setActive (w.settled query outcome)
    | none => w.active
  | cancel => match w.cancelled.marked with
    | some id => w.active.map fun q => if q.id = id then
        { q with status := .failed, error := some "Query was cancelled" } else q
    | none => w.active
  | _ => w.active

def running : Option String :=
  match c with
  | spawn queryId .. => some queryId
  | finish .. => none
  | cancel => if w.cancelled.killed.isSome then none else w.running
  | _ => w.running

def inHand : List String :=
  match c with
  | prewrite job .. | startQuery job => job.queryId :: w.inHand
  | endQuery queryId => w.inHand.filter (· ≠ queryId)
  | _ => w.inHand

def effect : World where
  rows := c.rows w
  active := c.active w
  queue := match c with
    | startQuery job => w.queue ++ [job]
    | takeJob => w.queue.tail
    | _ => w.queue
  running := c.running w
  inHand := c.inHand w
  lastSessionId := match c with
    | setSession sessionId => sessionId
    | _ => w.lastSessionId
  step := w.step + 1
  settings := w.settings
  env := w.env

end Stmt

abbrev sql : Signature := ⟨Stmt, Stmt.Ans⟩

instance : Store sql World where
  answer := Stmt.answer
  effect := Stmt.effect

abbrev Prog (α : Type) := Program sql String α

def orThrow (p : Prog (Except String Unit)) : Prog Unit := do
  match ← p with
  | .ok () => return ()
  | .error e => throw e

/-- `.catch(() => {})` -/
def ignoring (p : Prog (Except String Unit)) : Prog Unit := do
  let _ ← p
  return ()

def addNews (type queryId : String) : Prog (Except String Unit) :=
  Program.stmt (S := sql) (.addNews type queryId)

def setSession (sessionId : Option String) : Prog Unit :=
  Program.stmt (S := sql) (.setSession sessionId)

end IdAgents.Agent
