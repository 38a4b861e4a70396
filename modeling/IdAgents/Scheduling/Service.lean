import IdAgents.Library.Rely
import IdAgents.Scheduling.Evaluator

namespace IdAgents.Scheduling
open JsText KeyedTable AtomicProgram

inductive RunStatus where
  | pending | sent | failed | skipped
deriving DecidableEq, Repr

/-- The primary key of `schedule_runs`. -/
structure RunKey where
  scheduleId : String
  agentId : String
  scheduledKey : String
deriving DecidableEq, Repr

/-- A row of `schedule_runs`. -/
structure ScheduleRunRow where
  key : RunKey
  scheduledAt : Int
  firedAt : Int
  status : RunStatus
  error : Option String
deriving DecidableEq, Repr

instance : Schema ScheduleRunRow RunKey Empty where
  key r := r.key
  entry _ := none

structure DispatchTarget where
  id : String
  name : String
  endpoint : String
  talkPath : String
  schedulePath : Option String
  status : String

structure TaskRow where
  name : String
  title : String
  status : String
  owner : Option String
  teamId : Option String

structure LinkedTaskSummary where
  name : String
  title : String
  status : String
  owner : Option String
  team : Option String
deriving DecidableEq

/-- What `/talk` or `/schedule` of an agent is sent. -/
structure SchedulePayload where
  from_ : String
  mode : DeliveryMode
  scheduleId : String
  kind : ScheduleKind
  title : String
  scheduledKey : String
  message : String
  linkedTasks : List LinkedTaskSummary

inductive PostAnswer where
  | ok
  | http (status : Nat)
  | failed (message : String)

structure Environment where
  clock : Nat → Int
  fails : Nat → Option String
  resolveAgent : Nat → String → Option DispatchTarget
  tasks : Nat → String → List TaskRow
  agents : Nat → String → Option String
  teams : Nat → String → Option String
  post : Nat → String → SchedulePayload → PostAnswer

structure World where
  definitions : Table ScheduleDefinitionRow
  targets : List (String × String)
  runs : Table ScheduleRunRow
  lastTickAtSec : Nat → Int
  step : Nat
  env : Environment

/-- `UPDATE schedule_runs SET status = ?, error = ? WHERE …` of the row with a key. -/
def statusUpdate (key : RunKey) (status : RunStatus) (error : Option String) :
    Update ScheduleRunRow where
  at_ := key
  guard _ := true
  set r := { r with status, error }
  key_set _ := rfl

/-- `COUNT(*)` of the runs of a schedule and an agent that have been sent. -/
def World.sent (w : World) (scheduleId agentId : String) : Nat :=
  w.runs.rows.countP fun r =>
    r.key.scheduleId = scheduleId && r.key.agentId = agentId && r.status = .sent

def World.has (w : World) (key : RunKey) : Prop := (w.runs.get? key).isSome

inductive Stmt where
  /-- The start of a tick of a service: the clock and the cursor. -/
  | startTick (service : Nat)
  | endTick (service : Nat) (windowEnd : Int)
  | listActive
  | listTargets (scheduleId : String)
  | countRuns (scheduleId agentId : String)
  | insertRun (row : ScheduleRunRow)
  | updateRunStatus (key : RunKey) (status : RunStatus) (error : Option String)
  | resolveAgent (agentId : String)
  | selectTasks (scheduleId : String)
  | selectAgent (agentId : String)
  | selectTeam (teamId : String)
  /-- The POST for a run, to an agent's endpoint. -/
  | post (key : RunKey) (url : String) (payload : SchedulePayload)

namespace Stmt

def fallible : Stmt → Bool
  | startTick _ | endTick .. | post .. => false
  | _ => true

def fails (c : Stmt) (w : World) : Option String :=
  if c.fallible then w.env.fails w.step else none

def Ans : Stmt → Type
  | startTick _ => Int × Int
  | endTick .. => Unit
  | listActive => Except String (List ScheduleDefinitionRow)
  | listTargets _ => Except String (List String)
  | countRuns .. => Except String Nat
  | insertRun _ => Except String Bool
  | updateRunStatus .. => Except String Unit
  | resolveAgent _ => Except String (Option DispatchTarget)
  | selectTasks _ => Except String (List TaskRow)
  | selectAgent _ | selectTeam _ => Except String (Option String)
  | post .. => PostAnswer

def answerOr (fails : Option String) (a : α) : Except String α :=
  match fails with
  | some e => .error e
  | none => .ok a

def answer : (c : Stmt) → World → c.Ans
  | startTick service, w => (w.env.clock w.step, w.lastTickAtSec service)
  | endTick .., _ => ()
  | listActive, w => answerOr (w.env.fails w.step) (w.definitions.rows.filter (·.active))
  | listTargets scheduleId, w => answerOr (w.env.fails w.step)
    ((w.targets.filter (·.1 = scheduleId)).map Prod.snd)
  | countRuns scheduleId agentId, w =>
    answerOr (w.env.fails w.step) (w.sent scheduleId agentId)
  | insertRun row, w => answerOr (w.env.fails w.step) (!w.runs.insertRefused row)
  | updateRunStatus .., w => answerOr (w.env.fails w.step) ()
  | resolveAgent agentId, w => answerOr (w.env.fails w.step) (w.env.resolveAgent w.step agentId)
  | selectTasks scheduleId, w => answerOr (w.env.fails w.step) (w.env.tasks w.step scheduleId)
  | selectAgent agentId, w => answerOr (w.env.fails w.step) (w.env.agents w.step agentId)
  | selectTeam teamId, w => answerOr (w.env.fails w.step) (w.env.teams w.step teamId)
  | post _ url payload, w => w.env.post w.step url payload

def effect (c : Stmt) (w : World) : World where
  definitions := w.definitions
  targets := w.targets
  runs := match c, c.fails w with
    | insertRun row, none => w.runs.insert row
    | updateRunStatus key status error, none => w.runs.update (statusUpdate key status error)
    | _, _ => w.runs
  lastTickAtSec := match c with
    | endTick service windowEnd => fun s => if s = service then windowEnd else w.lastTickAtSec s
    | _ => w.lastTickAtSec
  step := w.step + 1
  env := w.env

end Stmt

abbrev sql : Signature := ⟨Stmt, Stmt.Ans⟩

instance : Store sql World where
  answer := Stmt.answer
  effect := Stmt.effect

abbrev Prog (α : Type) := Program sql String α

def issue (c : Stmt) : Prog c.Ans := Program.stmt (S := sql) c

def thrown : Except String α → Prog α
  | .ok a => .ret a
  | .error e => .throw e

def listActiveDefinitions : Prog (List ScheduleDefinitionRow) := (issue .listActive).bind thrown

def listTargets (scheduleId : String) : Prog (List String) :=
  (issue (.listTargets scheduleId)).bind thrown

def countRuns (scheduleId agentId : String) : Prog Nat :=
  (issue (.countRuns scheduleId agentId)).bind thrown

def insertRun (row : ScheduleRunRow) : Prog Bool := (issue (.insertRun row)).bind thrown

def updateRunStatus (key : RunKey) (status : RunStatus) (error : Option String) : Prog Unit :=
  (issue (.updateRunStatus key status error)).bind thrown

structure DispatchResult where
  success : Bool
  error : Option String
deriving DecidableEq, Repr

variable (d : ScheduleDefinitionRow)

def schedulePayload (scheduledKey : String)
    (linkedTasks : List LinkedTaskSummary) : SchedulePayload where
  from_ := if d.sender = "" then "schedule" else d.sender
  mode := d.deliveryMode
  scheduleId := d.id
  kind := d.kind
  title := d.title
  scheduledKey := scheduledKey
  message := d.message
  linkedTasks := linkedTasks

def deliveryPath (target : DispatchTarget) : Except String String :=
  if target.status ≠ "running" then
    .error ("Agent " ++ target.name ++ " not running (status: " ++ target.status ++ ")")
  else if target.endpoint = "" then .error ("Agent " ++ target.name ++ " has no endpoint")
  else match d.deliveryMode with
    | .talk => .ok target.talkPath
    | .internal => match target.schedulePath.filter (· ≠ "") with
      | some path => .ok path
      | none => .error ("Agent " ++ target.name ++ " does not advertise /schedule")

def PostAnswer.result : PostAnswer → DispatchResult
  | .ok => ⟨true, none⟩
  | .http status => ⟨false, some ("HTTP " ++ toString status)⟩
  | .failed message => ⟨false, some message⟩

def dispatch (target : DispatchTarget) (key : RunKey)
    (linkedTasks : List LinkedTaskSummary) : Prog DispatchResult :=
  match deliveryPath d target with
  | .error e => .ret ⟨false, some e⟩
  | .ok path =>
    (issue (.post key (target.endpoint ++ path)
      (schedulePayload d key.scheduledKey linkedTasks))).bind fun (a : PostAnswer) => .ret a.result

def lookup (id : Option String) (select : String → Prog (Option String)) : Prog (Option String) :=
  match id.filter (· ≠ "") with
  | none => .ret none
  | some id => select id

def linkTask (t : TaskRow) : Prog LinkedTaskSummary :=
  (lookup t.owner fun id => (issue (.selectAgent id)).bind thrown).bind fun owner =>
  (lookup t.teamId fun id => (issue (.selectTeam id)).bind thrown).bind fun team =>
  .ret ⟨t.name, t.title, t.status, owner, team⟩

def linkTasks : List LinkedTaskSummary → List TaskRow → Prog (List LinkedTaskSummary)
  | acc, [] => .ret acc
  | acc, t :: ts =>
    (((linkTask t).bind fun s => .ret (some s)).tryCatch fun _ => .ret none).bind fun
      | some s => linkTasks (acc ++ [s]) ts
      | none => .ret acc

def linkedTasks : Prog (List LinkedTaskSummary) :=
  if d.kind = .calendar then
    (((issue (.selectTasks d.id)).bind thrown).tryCatch fun _ => .ret []).bind (linkTasks [])
  else .ret []

def dueRuns (intl : Intl) (windowStart windowEnd : Int) :
    List ScheduleDefinitionRow → Except String (List DueRun)
  | [] => .ok []
  | d :: ds => do
    let runs ← evaluate intl d windowStart windowEnd
    let rest ← dueRuns intl windowStart windowEnd ds
    return runs ++ rest

def hasBudget (scheduleId agentId : String) : Prog Bool :=
  match d.maxRuns with
  | none => .ret true
  | some maxRuns => (countRuns scheduleId agentId).bind fun sentCount =>
    .ret (decide ((sentCount : Int) < maxRuns))

def deliver (key : RunKey) (target : DispatchTarget) : Prog Unit :=
  (linkedTasks d).bind fun tasks =>
  (dispatch d target key tasks).bind fun result =>
    if result.success then updateRunStatus key .sent none
    else updateRunStatus key .failed result.error

def fire (nowSec : Int) (d : ScheduleDefinitionRow) (run : DueRun) (agentId : String) : Prog Unit :=
  let key : RunKey := ⟨run.scheduleId, agentId, run.scheduledKey⟩
  (insertRun ⟨key, run.scheduledAt, nowSec, .pending, none⟩).bind fun inserted =>
    if inserted then
      ((issue (.resolveAgent agentId)).bind thrown).bind fun (target : Option DispatchTarget) =>
        match target with
        | none => updateRunStatus key .skipped (some "Agent not found")
        | some target => deliver d key target
    else .ret ()

def tickAgent (nowSec : Int) (d : ScheduleDefinitionRow) (run : DueRun) (agentId : String) :
    Prog Unit :=
  (hasBudget d run.scheduleId agentId).bind fun left =>
    if left then fire nowSec d run agentId else .ret ()

def tickRun (nowSec : Int) (defs : List ScheduleDefinitionRow) (run : DueRun) : Prog Unit :=
  match defs.find? (·.id = run.scheduleId) with
  | none => .ret ()
  | some d => (listTargets run.scheduleId).bind fun agentIds =>
    Program.fold agentIds () fun _ agentId => tickAgent nowSec d run agentId

def tickBody (intl : Intl) (nowSec windowStart : Int) : Prog Unit :=
  listActiveDefinitions.bind fun defs =>
  (thrown (dueRuns intl windowStart nowSec defs)).bind fun due =>
    Program.fold due () fun _ run => tickRun nowSec defs run

def tick (intl : Intl) (service : Nat) : Prog Unit :=
  (issue (.startTick service)).bind fun (start : Int × Int) =>
  ((tickBody intl start.1 start.2).tryCatch fun _ => .ret ()).bind fun _ =>
  issue (.endTick service start.1)

def Stmt.plain : Stmt → Prop
  | .selectTasks _ | .selectAgent _ | .selectTeam _ => True
  | _ => False

theorem thrown_plain (r : Except String α) : (thrown r).Meets Stmt.plain fun _ => True := by
  cases r with
  | ok a => trivial
  | error e => trivial

theorem linkTask_plain (t : TaskRow) : (linkTask t).Meets Stmt.plain fun _ => True := by
  have howner : (lookup t.owner fun id => (issue (.selectAgent id)).bind thrown).Meets
      Stmt.plain fun _ => True := by
    rw [lookup]
    cases t.owner.filter (· ≠ "") with
    | none => trivial
    | some id => exact ⟨trivial, fun _ => thrown_plain _⟩
  have hteam : (lookup t.teamId fun id => (issue (.selectTeam id)).bind thrown).Meets
      Stmt.plain fun _ => True := by
    rw [lookup]
    cases t.teamId.filter (· ≠ "") with
    | none => trivial
    | some id => exact ⟨trivial, fun _ => thrown_plain _⟩
  apply howner.bind
  intro owner _
  apply hteam.bind
  intro team _
  trivial

theorem linkTasks_plain (acc : List LinkedTaskSummary) (ts : List TaskRow) :
    (linkTasks acc ts).Meets Stmt.plain fun _ => True := by
  induction ts generalizing acc with
  | nil => trivial
  | cons t ts ih =>
    have hfirst : (((linkTask t).bind fun s => .ret (some s)).tryCatch
        fun _ => .ret none).Meets Stmt.plain fun _ => True := by
      apply Program.Meets.tryCatch
      · exact (linkTask_plain t).bind fun _ _ => trivial
      · intro e
        trivial
    apply hfirst.bind
    intro found _
    cases found with
    | none => trivial
    | some s => exact ih (acc ++ [s])

theorem linkedTasks_plain : (linkedTasks d).Meets Stmt.plain fun _ => True := by
  rw [linkedTasks]
  split
  · have hrows : (((issue (.selectTasks d.id)).bind thrown).tryCatch
        fun _ => .ret []).Meets Stmt.plain fun _ => True := by
      apply Program.Meets.tryCatch
      · exact ⟨trivial, fun _ => thrown_plain _⟩
      · intro e
        trivial
    exact hrows.bind fun ts _ => linkTasks_plain [] ts
  · trivial

end IdAgents.Scheduling
