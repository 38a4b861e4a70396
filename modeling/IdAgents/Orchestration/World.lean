import IdAgents.Scheduler.World
import IdAgents.Orchestration.Backlog
import IdAgents.Orchestration.Mode

namespace IdAgents.Orchestration
open JsText JsMap KeyedTable AtomicProgram Table World

/-- A row of `agents` that is not deleted. -/
structure AgentRow where
  name : String
  runtime : Option String
  status : String

structure ResolvedPool where
  poolId : String
  repoRoot : String
  maxParallel : Int
  members : List String

structure UsageReading where
  hardPaused : Bool
  dailyTokensUsed : Int

/-- A row of `dispatch_scheduler_queue` with the column that the reliability pass of the read model
fills. -/
structure DispatchRow extends Row where
  reliabilityClassification : Option String

/-- What `SchedulerHandle.enqueue` settles of a dispatch before the reactor sees it: the query id it
mints, the texts that its write guard lets through, and the runtime of the target. -/
structure EnqueuePayload where
  queryId : String
  subject : String
  bodyMarkdown : String
  runtime : Runtime

/-- Everything the orchestration asks of the outside, answered as of a step; `fails` says that a
write to the storage throws. The worktree of a build is answered by its path. -/
structure Environment where
  clock : Nat → Instant
  mintItemId : Nat → String
  fails : Nat → Bool
  orchestrationState : Nat → Mode.OrchestrationState
  killSwitchActive : Nat → Bool
  readUsage : Nat → UsageReading
  diskHeadroom : Nat → Option DiskHeadroom
  readyItemBlockers : Nat → Dict String ReadyItemBlocker
  agents : Nat → List AgentRow
  allocateWorktree : Nat → String → BacklogItem → ResolvedPool → Except String String
  enqueuePayload : Nat → BacklogRow → Except String EnqueuePayload
  reliabilityClassification : Nat → String → Option String

structure World where
  backlog : Table BacklogRow
  scheduler : IdAgents.World
  step : Nat
  env : Environment

inductive Stmt where
  | now
  | mintItemId
  | orchestrationState
  | killSwitchActive
  | readUsage
  | diskHeadroom
  | readyItemBlockers
  | selectAgents
  | allocateWorktree (agent : String) (item : BacklogItem) (pool : ResolvedPool)
  | enqueuePayload (item : BacklogRow)
  | select
  | selectDispatches
  | selectWithDispatches
  | selectWithAgents
  | insert (row : BacklogRow)
  | update (u : UpdateStmt)
  | appendDecisions
  | insertFleshLog (itemId : String)
  | recordTickOutcome (zeroTicks : Int) (fired : Bool)
  | scheduler (c : IdAgents.Stmt)

namespace Stmt

/-- A SELECT answers with the whole tables: each query joins, filters, sorts and cuts them as its
SQL says. A write answers with what it throws, or with the rows it has found. -/
def Ans : Stmt → Type
  | now => Instant
  | mintItemId => String
  | orchestrationState => Mode.OrchestrationState
  | killSwitchActive => Bool
  | readUsage => UsageReading
  | diskHeadroom => Option DiskHeadroom
  | readyItemBlockers => Dict String ReadyItemBlocker
  | selectAgents => List AgentRow
  | allocateWorktree .. => Except String String
  | enqueuePayload _ => Except String EnqueuePayload
  | select => List BacklogRow
  | selectDispatches => List DispatchRow
  | selectWithDispatches => List BacklogRow × List DispatchRow
  | selectWithAgents => List BacklogRow × List AgentRow
  | insert _ | appendDecisions | insertFleshLog _ | recordTickOutcome .. => Except String Unit
  | update _ => Except String Nat
  | scheduler c => c.Ans

def dispatches (w : World) : List DispatchRow :=
  w.scheduler.table.rows.map fun row =>
    { row with
      reliabilityClassification := w.env.reliabilityClassification w.step row.dispatchPhid }

def written (w : World) (a : α) : Except String α :=
  if w.env.fails w.step then .error "database write failed" else .ok a

def answer : (c : Stmt) → World → c.Ans
  | now, w => w.env.clock w.step
  | mintItemId, w => w.env.mintItemId w.step
  | orchestrationState, w => w.env.orchestrationState w.step
  | killSwitchActive, w => w.env.killSwitchActive w.step
  | readUsage, w => w.env.readUsage w.step
  | diskHeadroom, w => w.env.diskHeadroom w.step
  | readyItemBlockers, w => w.env.readyItemBlockers w.step
  | selectAgents, w => w.env.agents w.step
  | allocateWorktree agent item pool, w => w.env.allocateWorktree w.step agent item pool
  | enqueuePayload item, w => w.env.enqueuePayload w.step item
  | select, w => w.backlog.rows
  | selectDispatches, w => dispatches w
  | selectWithDispatches, w => (w.backlog.rows, dispatches w)
  | selectWithAgents, w => (w.backlog.rows, w.env.agents w.step)
  | insert row, w =>
    if w.backlog.insertRefused row then
      .error "UNIQUE constraint failed: orchestration_backlog_item.item_id"
    else written w ()
  | appendDecisions, w | insertFleshLog _, w | recordTickOutcome .., w => written w ()
  | update u, w => written w (w.backlog.rowCount u.toUpdate)
  | scheduler c, w => c.answer w.scheduler

def backlog : Stmt → World → Table BacklogRow
  | insert row, w => if w.env.fails w.step then w.backlog else w.backlog.insert row
  | update u, w => if w.env.fails w.step then w.backlog else w.backlog.update u.toUpdate
  | _, w => w.backlog

def effect (c : Stmt) (w : World) : World where
  backlog := c.backlog w
  scheduler := match c with
    | scheduler c => c.effect w.scheduler
    | _ => w.scheduler
  step := w.step + 1
  env := w.env

end Stmt

abbrev sql : Signature := ⟨Stmt, Stmt.Ans⟩

instance : Store sql World where
  answer := Stmt.answer
  effect := Stmt.effect

abbrev Prog (α : Type) := Program sql String α

def World.row? (w : World) (itemId : String) : Option BacklogRow := w.backlog.get? itemId

variable (c : Stmt)

@[simp] theorem Stmt.effect_backlog (w : World) : (c.effect w).backlog = c.backlog w := rfl

@[simp] theorem Stmt.effect_step (w : World) : (c.effect w).step = w.step + 1 := rfl

@[simp] theorem Stmt.effect_env (w : World) : (c.effect w).env = w.env := rfl

variable {w : World}

theorem World.row?_mem (h : w.row? itemId = some row) :
    row ∈ w.backlog.rows ∧ row.itemId = itemId :=
  get?_some h

theorem World.row?_of_mem (h : row ∈ w.backlog.rows) : w.row? row.itemId = some row :=
  get?_of_mem h

theorem Stmt.mem_effect {c : Stmt} (h : row ∈ (c.effect w).backlog.rows) :
    row ∈ w.backlog.rows ∨ c = .insert row ∨
      ∃ u, c = .update u ∧ ∃ old ∈ w.backlog.rows, u.toUpdate.hits old ∧ row = u.set old := by
  cases c with
  | insert new =>
    simp only [effect_backlog, backlog] at h
    split at h
    · exact .inl h
    · rcases mem_insert h with hold | rfl
      · exact .inl hold
      · exact .inr (.inl rfl)
  | update u =>
    simp only [effect_backlog, backlog] at h
    split at h
    · exact .inl h
    · rcases mem_update h with hold | hwritten
      · exact .inl hold
      · exact .inr (.inr ⟨u, rfl, hwritten⟩)
  | _ => exact .inl h

theorem Stmt.row?_effect (h : w.row? itemId = some row) :
    World.row? (c.effect w) itemId = some row ∨ ∃ u, c = .update u ∧ u.itemId = itemId ∧
      u.guard row ∧ World.row? (c.effect w) itemId = some (u.set row) := by
  cases c with
  | insert new =>
    left
    simp only [World.row?, effect_backlog, backlog]
    split
    · exact h
    · exact get?_insert new h
  | update u =>
    simp only [World.row?, effect_backlog, backlog]
    split
    · exact .inl h
    · rcases get?_update_cases u.toUpdate h with hsame | ⟨hid, hguard, hset⟩
      · exact .inl hsame
      · exact .inr ⟨u, rfl, hid, hguard, hset⟩
  | _ => exact .inl h

theorem Stmt.row?_insert (hrefused : w.backlog.insertRefused row = false)
    (hfails : w.env.fails w.step = false) :
    World.row? (Stmt.effect (.insert row) w) row.itemId = some row := by
  simp only [World.row?, effect_backlog, backlog, hfails, Bool.false_eq_true, if_false]
  exact (get?_insert_self hrefused).2

theorem Stmt.row?_isSome_effect (h : (w.row? itemId).isSome) :
    (World.row? (c.effect w) itemId).isSome := by
  obtain ⟨row, hrow⟩ := Option.isSome_iff_exists.mp h
  rcases c.row?_effect hrow with hsame | ⟨u, _, _, _, hset⟩
  · rw [hsame]
    rfl
  · rw [hset]
    rfl

end IdAgents.Orchestration
