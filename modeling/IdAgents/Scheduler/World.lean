import IdAgents.Scheduler.Store

namespace IdAgents
open JsText KeyedTable AtomicProgram Table

/-- Why `sendTalk` says it failed. -/
inductive TransportCause where
  | transport | localUsagePause | http
deriving DecidableEq, Repr

/-- The outcomes of `transport.sendTalk`: a result, or a throw with its message. An `ok` result
without a query id carries the empty text. -/
inductive AgentTransportResult where
  | ok (agentQueryId : String)
  | notOk (status : Int) (body : String) (cause : Option TransportCause)
      (transportError : Option String)
  | threw (message : String)
deriving DecidableEq, Repr

structure QueryEvidence where
  status : String
  lastOutputAt : Option Instant
  resultText : Option String
deriving DecidableEq, Repr

inductive ClaimGate where
  | usage | admission
deriving DecidableEq, Repr

/-- The question whether a commit has landed on the base branch of a repository. -/
structure CommitEvidenceQuery where
  repoPath : String
  base : String
  sha : String

/-- Everything the reactor, the scheduler and the recovery ask of the outside, answered as of a step. -/
structure Environment where
  clock : Nat → Instant
  mintPhid : Nat → String
  mintClarificationId : Nat → String
  pendingDependencies : Nat → String → Bool
  sendTalk : Nat → DispatchDoc → AgentTransportResult
  getEvidence : Nat → String → Except String (Option QueryEvidence)
  excludedAgents : Nat → ClaimGate → Except String (List String)
  fallbackLane : Nat → DispatchDoc → Option (Provider × Runtime)
  verifyCommitOnBase : Nat → CommitEvidenceQuery → Except String (Option Bool)

/-- The audit row `dispatch:terminal_overwrite_rejected` of the event log. -/
structure TerminalOverwriteRejected where
  subjectId : String
  occurredAt : Instant
  args : FailureArgs
  promotionResult : Option Json

structure World where
  table : Table Row
  eventLog : List TerminalOverwriteRejected
  step : Nat
  env : Environment

/-- An outside in which nothing is pending and the clock shows the step count. -/
def Environment.quiet : Environment where
  clock n := n
  mintPhid n := s!"phid:disp-{n}"
  mintClarificationId n := s!"clar_{n}"
  pendingDependencies _ _ := false
  sendTalk _ _ := .ok ""
  getEvidence _ _ := .ok none
  excludedAgents _ _ := .ok []
  fallbackLane _ _ := none
  verifyCommitOnBase _ _ := .ok none

/-- The world that holds `rows`, before any step. -/
def World.start (rows : List Row) (env : Environment) : World where
  table := .ofRows rows
  eventLog := []
  step := 0
  env := env

inductive ReactorError where
  | conflict (message : String)
  | uniqueConstraint
  | other (message : String)
deriving DecidableEq, Repr

/-- One await of the reactor and of what is built on it: a SQL statement or a call to the outside. -/
inductive Stmt where
  | now
  | mintPhid
  | mintClarificationId
  | select
  | pendingDependencies (phid : String)
  | insert (row : Row)
  | update (u : UpdateStmt)
  | insertEvent (event : TerminalOverwriteRejected)
  | sendTalk (doc : DispatchDoc)
  | getEvidence (agentQueryId : String)
  | excludedAgents (gate : ClaimGate)
  | fallbackLane (doc : DispatchDoc)
  | verifyCommitOnBase (query : CommitEvidenceQuery)

namespace Stmt

/-- A SELECT answers with the whole table: each query filters, sorts and cuts it as its SQL says.
An INSERT or an UPDATE answers `none` when a unique index refuses it. -/
def Ans : Stmt → Type
  | now => Instant
  | mintPhid => String
  | mintClarificationId => String
  | select => List Row
  | pendingDependencies _ => Bool
  | insert _ => Option Unit
  | update _ => Option Nat
  | insertEvent _ => Unit
  | sendTalk _ => AgentTransportResult
  | getEvidence _ => Except String (Option QueryEvidence)
  | excludedAgents _ => Except String (List String)
  | fallbackLane _ => Option (Provider × Runtime)
  | verifyCommitOnBase _ => Except String (Option Bool)

def answer : (c : Stmt) → World → c.Ans
  | now, w => w.env.clock w.step
  | mintPhid, w => w.env.mintPhid w.step
  | mintClarificationId, w => w.env.mintClarificationId w.step
  | select, w => w.table.rows
  | pendingDependencies phid, w => w.env.pendingDependencies w.step phid
  | insert row, w => if w.table.insertRefused row then none else some ()
  | update u, w =>
    if w.table.updateRefused u.toUpdate then none else some (w.table.rowCount u.toUpdate)
  | insertEvent _, _ => ()
  | sendTalk doc, w => w.env.sendTalk w.step doc
  | getEvidence q, w => w.env.getEvidence w.step q
  | excludedAgents gate, w => w.env.excludedAgents w.step gate
  | fallbackLane doc, w => w.env.fallbackLane w.step doc
  | verifyCommitOnBase query, w => w.env.verifyCommitOnBase w.step query

def table : Stmt → Table Row → Table Row
  | insert row, t => t.insert row
  | update u, t => t.update u.toUpdate
  | _, t => t

def effect (c : Stmt) (w : World) : World where
  table := c.table w.table
  eventLog := match c with
    | insertEvent event => w.eventLog ++ [event]
    | _ => w.eventLog
  step := w.step + 1
  env := w.env

end Stmt

abbrev sql : Signature := ⟨Stmt, Stmt.Ans⟩

instance : Store sql World where
  answer := Stmt.answer
  effect := Stmt.effect

abbrev Prog (α : Type) := Program sql ReactorError α

def World.row? (w : World) (phid : String) : Option Row := w.table.get? phid

variable (c : Stmt)

@[simp] theorem Stmt.effect_table (w : World) : (c.effect w).table = c.table w.table := rfl

@[simp] theorem Stmt.effect_step (w : World) : (c.effect w).step = w.step + 1 := rfl

@[simp] theorem Stmt.effect_env (w : World) : (c.effect w).env = w.env := rfl

variable {u : UpdateStmt}

theorem UpdateStmt.hits_iff : u.toUpdate.hits row ↔ row.dispatchPhid = u.phid ∧ u.guard row := by
  change (decide (row.dispatchPhid = u.phid) && u.guard row) = true ↔ _
  rw [Bool.and_eq_true, decide_eq_true_iff]

theorem Stmt.mem_effect {c : Stmt} (h : r ∈ (c.effect w).table.rows) :
    r ∈ w.table.rows ∨ c = .insert r ∨
      ∃ u, c = .update u ∧ ∃ s ∈ w.table.rows, u.toUpdate.hits s ∧ r = u.set s := by
  cases c with
  | insert row =>
    obtain h | rfl := mem_insert h
    · exact .inl h
    · exact .inr (.inl rfl)
  | update u =>
    obtain h | h := mem_update h
    · exact .inl h
    · exact .inr (.inr ⟨u, rfl, h⟩)
  | _ => exact .inl h

variable {w : World}

theorem Stmt.row?_effect (h : w.row? p = some r) :
    World.row? (c.effect w) p = some r ∨ ∃ u, c = .update u ∧ u.phid = p ∧ u.guard r ∧
      World.row? (c.effect w) p = some (u.set r) := by
  cases c with
  | insert row => exact .inl (get?_insert row h)
  | update u =>
    obtain h | ⟨hp, hg, h⟩ := get?_update_cases u.toUpdate h
    · exact .inl h
    · exact .inr ⟨u, rfl, hp, hg, h⟩
  | _ => exact .inl h

theorem World.row?_mem (h : w.row? p = some r) : r ∈ w.table.rows ∧ r.dispatchPhid = p :=
  get?_some h

theorem World.row?_of_mem (h : r ∈ w.table.rows) : w.row? r.dispatchPhid = some r :=
  get?_of_mem h

theorem Stmt.row?_isSome_effect (h : (w.row? p).isSome) : (World.row? (c.effect w) p).isSome := by
  obtain ⟨r, hr⟩ := Option.isSome_iff_exists.mp h
  obtain h | ⟨u, _, _, _, h⟩ := c.row?_effect hr <;> simp [h]

theorem UpdateStmt.exists_of_rowCount
    (h : w.table.rowCount u.toUpdate ≠ 0) : ∃ row, w.row? u.phid = some row ∧ u.guard row := by
  by_contra hnone
  push Not at hnone
  apply h
  rw [rowCount_eq_zero]
  intro row hrow
  exact eq_false_of_ne_true (hnone row hrow)

theorem UpdateStmt.answer_some (h : Stmt.answer (.update u) w = some n) :
    w.table.updateRefused u.toUpdate = false ∧ w.table.rowCount u.toUpdate = n := by
  have hn : (if w.table.updateRefused u.toUpdate then none
    else some (w.table.rowCount u.toUpdate)) = some n := h
  simpa [Option.ite_none_left_eq_some] using hn

theorem UpdateStmt.table_of_refused
    (h : Stmt.answer (.update u) w = none) : (Stmt.effect (.update u) w).table = w.table := by
  have hn : (if w.table.updateRefused u.toUpdate then none
    else some (w.table.rowCount u.toUpdate)) = none := h
  have hrefused : w.table.updateRefused u.toUpdate := by simpa using hn
  exact update_of_refused hrefused

theorem UpdateStmt.row?_effect_self (h : w.row? u.phid = some row)
    (hg : u.guard row) (hrefused : w.table.updateRefused u.toUpdate = false) :
    World.row? (Stmt.effect (.update u) w) u.phid = some (u.set row) :=
  get?_update_self h hg hrefused

end IdAgents
