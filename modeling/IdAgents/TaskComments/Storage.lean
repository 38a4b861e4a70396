import Mathlib.Data.Rat.Floor
import IdAgents.Library.Json
import IdAgents.Library.Pool
import IdAgents.Library.Text

namespace IdAgents.TaskComments
open JsText AtomicProgram

structure TaskRow where
  id : String
  name : String
  uuid : Option String
  title : String

/-- The input of one call; `occurredNow` and `now` are what the clock shows at its two readings. A
source line that is not a finite number counts as none. -/
structure AppendTaskCommentInput where
  teamId : String
  task : TaskRow
  sourcePath : Option String := none
  sourceLine : Option Rat := none
  text : String
  actor : String
  occurredAtMs : Option Int := none
  clientOpId : Option String := none
  occurredNow : Int := 0
  now : Int := 0

structure TaskCommentRow where
  id : String
  teamId : String
  taskId : String
  taskUuid : Option String
  taskName : String
  taskTitle : String
  sourcePath : Option String
  sourceLine : Option Int
  commentText : String
  actor : String
  occurredAt : Int
  hash : String
  clientOpId : Option String
  createdAt : Int
  updatedAt : Int
deriving DecidableEq

structure AppendTaskCommentResult where
  row : TaskCommentRow
  inserted : Bool
deriving DecidableEq

def normalizeCommentText (text : String) : String :=
  String.ofList (collapseSpaces (trim text).toList)

def normalizeClientOpId (value : Option String) : Option String :=
  value.bind fun value => if trim value = "" then none else some (sliceUnits 200 (trim value))

example : normalizeCommentText " a \n\t b " = "a b" := by decide +kernel

namespace AppendTaskCommentInput

variable (input : AppendTaskCommentInput)

def normalPath : Option String :=
  input.sourcePath.bind fun path => if trim path = "" then none else some (trim path)

/-- `Math.max(1, Math.floor(sourceLine))` -/
def normalLine : Option Int :=
  input.sourceLine.map fun line => max 1 ⌊line⌋

/-- `taskUuid || taskId` -/
def stableTask : String :=
  match input.task.uuid with
  | some uuid => if uuid = "" then input.task.id else uuid
  | none => input.task.id

def opId : Option String := normalizeClientOpId input.clientOpId

end AppendTaskCommentInput

variable (sha256Hex : String → String)
section
variable (input : AppendTaskCommentInput)

def stableTaskCommentHash : String :=
  sha256Hex (Json.stringify (.obj [
    ("team_id", .str input.teamId),
    ("task", .str input.stableTask),
    ("source_path", .str (input.normalPath.getD "")),
    ("source_line", input.normalLine.elim .null fun line => .num (toString line)),
    ("actor", .str (trim (trim input.actor))),
    ("text", .str (normalizeCommentText (trim input.text)))]))

def taskCommentId : String :=
  "task_comment_" ++ sliceUnits 24 (stableTaskCommentHash sha256Hex input)

def commentRow : TaskCommentRow :=
  ⟨taskCommentId sha256Hex input, input.teamId, input.task.id, input.task.uuid, input.task.name,
    input.task.title, input.normalPath, input.normalLine, trim input.text, trim input.actor,
    input.occurredAtMs.getD input.occurredNow, stableTaskCommentHash sha256Hex input, input.opId,
    input.now, input.now⟩

end

inductive Stmt where
  | selectByHash (teamId hash : String)
  | selectByClientOpId (teamId clientOpId : String)
  /-- `INSERT … ON CONFLICT(team_id, hash) DO NOTHING` -/
  | insert (row : TaskCommentRow)

abbrev Stmt.Ans : Stmt → Type
  | .insert _ => Except String Nat
  | _ => Option TaskCommentRow

abbrev sql : Signature := ⟨Stmt, Stmt.Ans⟩

abbrev Prog (α : Type) := Program sql String α

variable (rows : List TaskCommentRow)

variable (row : TaskCommentRow)

def conflictsOnHash : Bool :=
  rows.any fun r => r.teamId = row.teamId && r.hash = row.hash

def brokenKey : Option String :=
  if rows.any fun r => r.id = row.id then some "UNIQUE constraint failed: task_comment_events.id"
  else if rows.any fun r =>
      r.teamId = row.teamId && r.clientOpId.isSome && r.clientOpId = row.clientOpId then
    some ("UNIQUE constraint failed: task_comment_events.team_id, " ++
      "task_comment_events.client_op_id")
  else none

def insertAnswer : Except String Nat :=
  if conflictsOnHash rows row then .ok 0
  else match brokenKey rows row with
    | some message => .error message
    | none => .ok 1

instance : Store sql (List TaskCommentRow) where
  answer
    | .selectByHash teamId hash, rows => rows.find? fun r => r.teamId = teamId && r.hash = hash
    | .selectByClientOpId teamId op, rows =>
      rows.find? fun r => r.teamId = teamId && r.clientOpId = some op
    | .insert row, rows => insertAnswer rows row
  effect
    | .insert row, rows =>
      match insertAnswer rows row with
      | .ok 1 => rows ++ [row]
      | _ => rows
    | _, rows => rows

def getTaskCommentByHash (teamId hash : String) : Prog (Option TaskCommentRow) :=
  .issue (.selectByHash teamId hash) fun row => .ret row

def getTaskCommentByClientOpId (teamId clientOpId : String) : Prog (Option TaskCommentRow) :=
  match normalizeClientOpId (some clientOpId) with
  | none => .ret none
  | some normalized => .issue (.selectByClientOpId teamId normalized) fun row => .ret row

def recordedComment (rowCount : Nat) : Option TaskCommentRow → Prog AppendTaskCommentResult
  | none => .throw "task comment insert/read failed"
  | some row => .ret ⟨row, rowCount > 0⟩
section
variable (input : AppendTaskCommentInput)

def readBack (rowCount : Nat) : Prog AppendTaskCommentResult :=
  (match input.opId with
    | some op => getTaskCommentByClientOpId input.teamId op
    | none => getTaskCommentByHash input.teamId (stableTaskCommentHash sha256Hex input)).bind
  (recordedComment rowCount)

def insertComment : Prog AppendTaskCommentResult :=
  .issue (.insert (commentRow sha256Hex input)) fun inserted => match inserted with
    | .error message => .throw message
    | .ok rowCount => readBack sha256Hex input rowCount

def appendTaskComment : Prog AppendTaskCommentResult :=
  match input.opId with
  | none => insertComment sha256Hex input
  | some op =>
    (getTaskCommentByClientOpId input.teamId op).bind fun existing => match existing with
      | some row => .ret ⟨row, false⟩
      | none => insertComment sha256Hex input

end

end IdAgents.TaskComments
