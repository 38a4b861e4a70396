import Mathlib.Data.List.Sort
import IdAgents.Library.Json
import IdAgents.Library.Regex
import IdAgents.Library.Table
import IdAgents.Library.Text
import IdAgents.Library.Interleaving

namespace IdAgents.Checkins
open JsText JsRegex KeyedTable AtomicProgram Table

inductive CheckinStatus where
  | active | snoozed | closed | expired
deriving DecidableEq, Repr

/-- `TERMINAL_STATUSES` -/
def CheckinStatus.isTerminal (s : CheckinStatus) : Bool := s = .closed || s = .expired

inductive CheckinPriority where
  | low | normal | high
deriving DecidableEq, Repr

def CheckinPriority.text : CheckinPriority → String
  | .low => "low"
  | .normal => "normal"
  | .high => "high"

/-- A row of `checkins`; times are milliseconds since the epoch. -/
structure CheckinRow where
  id : String
  teamId : String
  ownerAgentId : Option String
  linkedTaskId : Option String
  intervalSeconds : Int
  priority : CheckinPriority
  status : CheckinStatus
  maxIterations : Option Int
  iterationCount : Int
  nextFireAt : Option Int
  snoozeUntil : Option Int
  ttlExpiresAt : Option Int
  lastFireAt : Option Int
  lastEventSeq : Option Int
  updatedAt : Int
  closedAt : Option Int
  closedReason : Option String
deriving DecidableEq, Repr

instance : Schema CheckinRow String Empty where
  key row := row.id
  entry _ := none

/-- The columns an `updateFields` sets, where it sets them. -/
structure MutableCheckinFields where
  ownerAgentId : Option (Option String) := none
  linkedTaskId : Option (Option String) := none
  intervalSeconds : Option Int := none
  priority : Option CheckinPriority := none
  status : Option CheckinStatus := none
  maxIterations : Option (Option Int) := none
  iterationCount : Option Int := none
  nextFireAt : Option (Option Int) := none
  snoozeUntil : Option (Option Int) := none
  ttlExpiresAt : Option (Option Int) := none
  lastFireAt : Option (Option Int) := none
  lastEventSeq : Option (Option Int) := none
  closedAt : Option (Option Int) := none
  closedReason : Option (Option String) := none
  updatedAt : Int

def MutableCheckinFields.set (f : MutableCheckinFields) (row : CheckinRow) : CheckinRow :=
  { row with
    ownerAgentId := f.ownerAgentId.getD row.ownerAgentId
    linkedTaskId := f.linkedTaskId.getD row.linkedTaskId
    intervalSeconds := f.intervalSeconds.getD row.intervalSeconds
    priority := f.priority.getD row.priority
    status := f.status.getD row.status
    maxIterations := f.maxIterations.getD row.maxIterations
    iterationCount := f.iterationCount.getD row.iterationCount
    nextFireAt := f.nextFireAt.getD row.nextFireAt
    snoozeUntil := f.snoozeUntil.getD row.snoozeUntil
    ttlExpiresAt := f.ttlExpiresAt.getD row.ttlExpiresAt
    lastFireAt := f.lastFireAt.getD row.lastFireAt
    lastEventSeq := f.lastEventSeq.getD row.lastEventSeq
    closedAt := f.closedAt.getD row.closedAt
    closedReason := f.closedReason.getD row.closedReason
    updatedAt := f.updatedAt }

inductive TaskStatus where
  | todo | doing | done
deriving DecidableEq, Repr

def TaskStatus.text : TaskStatus → String
  | .todo => "todo"
  | .doing => "doing"
  | .done => "done"

/-- A row of `tasks`; `updatedAt` is in seconds. -/
structure TaskRow where
  id : String
  name : String
  teamId : Option String
  title : String
  description : Option String
  status : TaskStatus
  owner : Option String
  updatedAt : Int
deriving DecidableEq, Repr

structure AgentRow where
  name : String
  alias_ : Option String

/-- An entry of `event_log` before it has a number. -/
structure EventEntry where
  teamId : String
  topic : String
  actorAgentId : Option String
  subjectKind : Option String
  subjectId : Option String
  occurredAt : Int
  data : Json
deriving DecidableEq

structure NewsItem where
  timestamp : Int
  type : String
  message : String
  data : Json
  kind : String
  replyExpected : Bool

def truthy (s : Option String) : Option String := s.filter (· ≠ "")

def canonicalTaskTerminalReason : String := "canonical_task_terminal"

def replacementImplementationCommitReason : String := "replacement_implementation_commit"

def digits (n : Nat) : Regex := exactly n (.one Char.isDigit)

/-- `\bword:\d{4}-\d{2}-\d{2}\b` under the flag `i` -/
def datedWord (word : String) : Regex :=
  .seq .wordBoundary (.seq (litI (word ++ ":")) (.seq (digits 4) (.seq (lit "-") (.seq (digits 2)
    (.seq (lit "-") (.seq (digits 2) .wordBoundary))))))

/-- What `extractTaskScheduleFacts` reads of a task beside its priority and due date. -/
structure TaskScheduleFacts where
  done : Bool
  archived : Bool

def taskText (task : TaskRow) : String := task.title ++ "\n" ++ task.description.getD ""

def extractTaskScheduleFacts (task : TaskRow) : TaskScheduleFacts where
  done := task.status = .done || (datedWord "done").test (taskText task)
  archived := (datedWord "archived").test (taskText task)

/-- `\b(?:superseded|moot|cancelled|canceled)\b` under the flag `i` -/
def supersededRe : Regex :=
  .seq .wordBoundary (.seq (.alt (litI "superseded") (.alt (litI "moot")
    (.alt (litI "cancelled") (litI "canceled")))) .wordBoundary)

def isHex (c : Char) : Bool := c.isDigit || ('a' ≤ c.toLower && c.toLower ≤ 'f')

/-- `\bphrase\b\s*:?\s*[0-9a-f]{7,40}\b` under the flag `i` -/
def commitRe (phrase : String) : Regex :=
  let spaces := Regex.many (.one isSpace)
  let hex := (List.range 33).foldr (fun _ r => opt (.seq (.one isHex) r)) .empty
  .seq .wordBoundary (.seq (litI phrase) (.seq .wordBoundary (.seq spaces (.seq (opt (lit ":"))
    (.seq spaces (.seq (exactly 7 (.one isHex)) (.seq hex .wordBoundary)))))))

def hasReplacementImplementationCommitEvidence (text : String) : Bool :=
  (commitRe "replacement implementation commit").test text ||
    (commitRe "implemented by commit").test text

def classifyCheckinRecurrenceSuppression (task : TaskRow) : Option String :=
  let facts := extractTaskScheduleFacts task
  if facts.done || facts.archived then some canonicalTaskTerminalReason
  else if supersededRe.test (taskText task) then some canonicalTaskTerminalReason
  else if hasReplacementImplementationCommitEvidence (taskText task) then
    some replacementImplementationCommitReason
  else none

example : classifyCheckinRecurrenceSuppression
    ⟨"t", "t", none, "ship", some "Implemented by commit: 0123abcd.", .doing, none, 0⟩ =
      some "replacement_implementation_commit" := by
  decide +kernel

def defaultLimit : Int := 100

def maxLimit : Int := 1000

def recordOnlyChainThreshold : Int := 3

def clampLimit (limit : Option Int) : Int :=
  match limit with
  | none => defaultLimit
  | some limit => if limit ≤ 0 then defaultLimit else min limit maxLimit

structure CheckinFilters where
  teamId : String
  owner : Option String := none
  linkedTaskId : Option String := none
  status : List CheckinStatus := []
  dueBefore : Option Int := none
  limit : Option Int := none

def CheckinFilters.selects (filters : CheckinFilters) (row : CheckinRow) : Bool :=
  row.teamId = filters.teamId &&
  filters.owner.all (row.ownerAgentId = some ·) &&
  filters.linkedTaskId.all (row.linkedTaskId = some ·) &&
  (filters.status.isEmpty || filters.status.contains row.status) &&
  filters.dueBefore.all fun due => row.nextFireAt.any (· ≤ due)

/-- `ORDER BY next_fire_at ASC` of rows that have one. -/
def firesBefore (a b : CheckinRow) : Bool := a.nextFireAt.getD 0 ≤ b.nextFireAt.getD 0

def CheckinFilters.run (filters : CheckinFilters) (rows : List CheckinRow) : List CheckinRow :=
  let order := if filters.dueBefore.isSome then firesBefore
    else fun a b => decide (b.updatedAt ≤ a.updatedAt)
  ((rows.filter filters.selects).insertionSort fun a b => order a b).take
    (clampLimit filters.limit).toNat

/-- The rows `claimDue` works on. -/
def isDue (teamId : String) (now : Int) (row : CheckinRow) : Bool :=
  row.teamId = teamId && !row.status.isTerminal && row.nextFireAt.any (· ≤ now)

def fieldsSweep (id teamId : String) (fields : MutableCheckinFields) : Sweep CheckinRow where
  guard row := row.id = id && row.teamId = teamId
  set := fields.set
  key_set _ := rfl
  entry_set _ := rfl

def CheckinRow.close (closedAt : Int) (reason : String) (row : CheckinRow) : CheckinRow :=
  { row with
    status := .closed
    closedAt := some closedAt
    closedReason := some reason
    nextFireAt := none
    snoozeUntil := none
    updatedAt := closedAt }

def closeSweep (closedAt : Int) (reason : String) (guard : CheckinRow → Bool) :
    Sweep CheckinRow where
  guard row := guard row && !row.status.isTerminal
  set := CheckinRow.close closedAt reason
  key_set _ := rfl
  entry_set _ := rfl

def taskTerminal (tasks : List TaskRow) (teamId : String) (now : Int) (row : CheckinRow) : Bool :=
  isDue teamId now row &&
  row.linkedTaskId.any fun id =>
    tasks.any fun task => task.id = id && task.teamId = some teamId && task.status = .done

def recordOnlyExhausted (tasks : List TaskRow) (teamId : String) (now : Int)
    (row : CheckinRow) : Bool :=
  isDue teamId now row && recordOnlyChainThreshold ≤ row.iterationCount &&
  row.lastFireAt.any fun fired => row.linkedTaskId.any fun id =>
    tasks.any fun task => task.id = id && task.teamId = some teamId && task.status = .doing &&
      task.updatedAt * 1000 ≤ fired

structure CheckinWakeDispatchInput where
  teamId : String
  checkinId : String
  ownerAgentId : String
  priority : CheckinPriority
  iterationCount : Int
  nextFireAt : Int
  message : String
  data : Json

/-- What is outside the `checkins` table as of a step: the clock, the other tables, an insert that
the database refuses, and the POST that wakes an agent. -/
structure Environment where
  clock : Nat → Int
  teams : Nat → List String
  tasks : Nat → List TaskRow
  agents : Nat → String → Option AgentRow
  refuses : Nat → Option String
  wake : Nat → CheckinWakeDispatchInput → Except String Unit

structure World where
  checkins : Table CheckinRow
  /-- The last number `event_log` has given out. -/
  lastSeq : Int
  step : Nat
  env : Environment

inductive Stmt where
  | clock
  | listTeams
  | list (filters : CheckinFilters)
  | get (id teamId : String)
  | insert (row : CheckinRow)
  | updateFields (id teamId : String) (fields : MutableCheckinFields)
  | close (id teamId : String) (closedAt : Int) (reason : String)
  | closeForTerminalTask (taskId teamId : String) (closedAt : Int) (reason : String)
  | closeTaskTerminal (teamId : String) (now : Int)
  | closeRecordOnly (teamId : String) (now : Int)
  | selectDue (teamId : String) (now : Int) (limit : Int)
  | selectTasks (ids : List String)
  | selectAgent (id : String)
  | insertEvent (event : EventEntry)
  | addNews (teamId agentId : String) (item : NewsItem)
  | wake (input : CheckinWakeDispatchInput)

namespace Stmt

def Ans : Stmt → Type
  | clock => Int
  | listTeams => List String
  | list _ => List CheckinRow
  | get .. => Option CheckinRow
  | insert _ => Except String Unit
  | updateFields .. | closeTaskTerminal .. | closeRecordOnly .. => Unit
  | close .. | closeForTerminalTask .. => Nat
  | selectDue .. => List CheckinRow
  | selectTasks _ => List TaskRow
  | selectAgent _ => Option AgentRow
  | insertEvent _ => Except String Int
  | addNews .. | wake _ => Except String Unit

def sweep : Stmt → World → Sweep CheckinRow
  | updateFields id teamId fields, _ => fieldsSweep id teamId fields
  | close id teamId closedAt reason, _ =>
    closeSweep closedAt reason fun row => row.id = id && row.teamId = teamId
  | closeForTerminalTask taskId teamId closedAt reason, _ =>
    closeSweep closedAt reason fun row => row.linkedTaskId = some taskId && row.teamId = teamId
  | closeTaskTerminal teamId now, w =>
    closeSweep now canonicalTaskTerminalReason (taskTerminal (w.env.tasks w.step) teamId now)
  | closeRecordOnly teamId now, w =>
    closeSweep now "record_only_chain_exhausted"
      (recordOnlyExhausted (w.env.tasks w.step) teamId now)
  | _, _ => .none

def answer : (c : Stmt) → World → c.Ans
  | clock, w => w.env.clock w.step
  | listTeams, w => w.env.teams w.step
  | list filters, w => filters.run w.checkins.rows
  | get id teamId, w => (w.checkins.get? id).filter (·.teamId = teamId)
  | insert row, w =>
    if w.checkins.insertRefused row then .error "UNIQUE constraint failed: checkins.id" else .ok ()
  | updateFields .., _ | closeTaskTerminal .., _ | closeRecordOnly .., _ => ()
  | c@(close ..), w | c@(closeForTerminalTask ..), w => (w.checkins.found (c.sweep w)).length
  | selectDue teamId now limit, w =>
    ((w.checkins.rows.filter (isDue teamId now)).insertionSort fun a b => firesBefore a b).take
      (clampLimit (some limit)).toNat
  | selectTasks ids, w => (w.env.tasks w.step).filter (ids.contains ·.id)
  | selectAgent id, w => w.env.agents w.step id
  | insertEvent _, w =>
    match w.env.refuses w.step with
    | some e => .error e
    | none => .ok (w.lastSeq + 1)
  | addNews .., w =>
    match w.env.refuses w.step with
    | some e => .error e
    | none => .ok ()
  | wake input, w => w.env.wake w.step input

def effect (c : Stmt) (w : World) : World where
  checkins := match c with
    | insert row => w.checkins.insert row
    | c => w.checkins.updateAll (c.sweep w)
  lastSeq := match c with
    | insertEvent _ => if (w.env.refuses w.step).isSome then w.lastSeq else w.lastSeq + 1
    | _ => w.lastSeq
  step := w.step + 1
  env := w.env

end Stmt

abbrev sql : Signature := ⟨Stmt, Stmt.Ans⟩

instance : Store sql World where
  answer := Stmt.answer
  effect := Stmt.effect

abbrev Prog (α : Type) := Program sql String α

theorem effect_mem (c : Stmt) (h : row ∈ w.checkins.rows) :
    (c.sweep w).rewrite row ∈ (c.effect w).checkins.rows := by
  cases c with
  | insert new =>
    have hget := get?_insert new (get?_of_mem h)
    exact (get?_some hget).1
  | _ => exact mem_updateAll.mpr ⟨row, h, rfl⟩

theorem mem_effect {c : Stmt} {w : World} {row : CheckinRow}
    (h : row ∈ (c.effect w).checkins.rows) :
    (∃ old ∈ w.checkins.rows, row = (c.sweep w).rewrite old) ∨ c = .insert row := by
  cases c with
  | insert new =>
    rcases mem_insert h with hold | rfl
    · exact .inl ⟨row, hold, rfl⟩
    · exact .inr rfl
  | _ =>
    obtain ⟨old, hold, hrow⟩ := mem_updateAll.mp h
    exact .inl ⟨old, hold, hrow.symm⟩

end IdAgents.Checkins
