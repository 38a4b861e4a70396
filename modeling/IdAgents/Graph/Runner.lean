import Mathlib.Data.List.Sort
import Mathlib.Data.List.Lex
import IdAgents.Library.Dict
import IdAgents.Scheduler.Types
import IdAgents.Library.Program
import IdAgents.Library.Table

namespace IdAgents.Graph
open JsMap KeyedTable AtomicProgram

inductive GraphStatus where
  | draft | active | blocked | complete | failed | cancelled
deriving DecidableEq, Repr

inductive NodeState where
  | pendingDependencies | ready | queued | inFlight | needsClarification | done | failed
  | cancelled | skipped
deriving DecidableEq, Repr

def NodeState.text : NodeState → String
  | .pendingDependencies => "pending_dependencies"
  | .ready => "ready"
  | .queued => "queued"
  | .inFlight => "in_flight"
  | .needsClarification => "needs_clarification"
  | .done => "done"
  | .failed => "failed"
  | .cancelled => "cancelled"
  | .skipped => "skipped"

inductive NodeKind where
  | dispatch | task | approval
deriving DecidableEq, Repr

inductive DependencyPredicate where
  | dispatchSuccess (upstreamNodeId : String)
  | dispatchTerminal (upstreamNodeId : String) (terminalStates : List String)
  | dispatchVerificationPassed (upstreamNodeId : String)
  | taskDone (taskPhid : String)
  | operatorApproval (approvalId : String)
deriving DecidableEq, Repr

inductive BlockerKind where
  | blockedOnChris | blockedOnFailure
deriving DecidableEq, Repr

structure BlockerSummary where
  kind : BlockerKind
  sourceNodeId : Option String
  dispatchId : Option String := none
  question : Option String := none
deriving DecidableEq, Repr

structure NodeRow where
  nodeId : String
  graphId : String
  title : String
  kind : NodeKind
  dispatchId : Option String
  taskPhid : Option String
  state : NodeState
  blockerSummary : Option BlockerSummary
deriving DecidableEq, Repr

structure EdgeRow where
  graphId : String
  fromNodeId : String
  toNodeId : String
  /-- `none` where the text of the predicate is malformed or of no known type. -/
  predicate : Option DependencyPredicate
deriving DecidableEq, Repr

inductive ReadinessResult where
  | notReady (reason : String)
  | ready (reason : String)
  | blocked (reason : String) (blocker : BlockerSummary)
deriving DecidableEq, Repr

structure UpstreamInfo where
  node : NodeRow
  dispatchStatus : Option SchedulerStatus
  clarificationQuestion : Option String

abbrev UpstreamMap := Dict String UpstreamInfo

abbrev TaskStatusMap := Dict String String

def UpstreamInfo.has (upstream : UpstreamInfo) (text : String) : Bool :=
  upstream.node.state.text = text || upstream.dispatchStatus.any (·.text = text)

def UpstreamInfo.blocker (upstream : UpstreamInfo) (nodeId : String) (kind : BlockerKind) :
    BlockerSummary where
  kind := kind
  sourceNodeId := nodeId
  dispatchId := upstream.node.dispatchId
  question := if kind = .blockedOnChris then upstream.clarificationQuestion else none

variable (nodeId : String)

def evaluateDispatchSuccess (upstreams : UpstreamMap) : ReadinessResult :=
  match upstreams.get? nodeId with
  | none => .notReady ("Upstream node " ++ nodeId ++ " not found.")
  | some upstream =>
    if upstream.has "done" then .ready ("Upstream " ++ nodeId ++ " completed successfully.")
    else if upstream.has "needs_clarification" then
      .blocked ("Upstream " ++ nodeId ++ " needs clarification.")
        (upstream.blocker nodeId .blockedOnChris)
    else if upstream.has "failed" || upstream.has "cancelled" then
      .blocked ("Upstream " ++ nodeId ++ " " ++ upstream.node.state.text ++
        " — dependency requires success.") (upstream.blocker nodeId .blockedOnFailure)
    else .notReady ("Upstream " ++ nodeId ++ " still in progress (state: " ++
      upstream.node.state.text ++ ", dispatch: " ++
      (upstream.dispatchStatus.map SchedulerStatus.text).getD "n/a" ++ ").")

def evaluateDispatchTerminal (terminalStates : List String)
    (upstreams : UpstreamMap) : ReadinessResult :=
  match upstreams.get? nodeId with
  | none => .notReady ("Upstream node " ++ nodeId ++ " not found.")
  | some upstream =>
    let state := upstream.node.state.text
    if terminalStates.any upstream.has then
      .ready ("Upstream " ++ nodeId ++ " reached allowed terminal state.")
    else if upstream.has "needs_clarification" then
      .blocked ("Upstream " ++ nodeId ++ " needs clarification.")
        (upstream.blocker nodeId .blockedOnChris)
    else if (state = "failed" || state = "cancelled") && !terminalStates.contains state then
      .blocked ("Upstream " ++ nodeId ++ " " ++ state ++ " — not in allowed terminal states [" ++
        String.intercalate ", " terminalStates ++ "].") (upstream.blocker nodeId .blockedOnFailure)
    else .notReady ("Upstream " ++ nodeId ++ " not yet terminal (state: " ++ state ++
      ", dispatch: " ++ (upstream.dispatchStatus.map SchedulerStatus.text).getD "n/a" ++ ").")

def evaluateTaskDone (taskPhid : String) (tasks : TaskStatusMap) : ReadinessResult :=
  match tasks.get? taskPhid with
  | none => .notReady ("Upstream task " ++ taskPhid ++ " not found in tasks table.")
  | some status =>
    if status = "done" then .ready ("Upstream task " ++ taskPhid ++ " is done.")
    else .notReady ("Upstream task " ++ taskPhid ++ " still in progress (status: " ++ status ++
      ").")

def evaluateOperatorApproval (approvalId : String) (upstreams : UpstreamMap) : ReadinessResult :=
  match upstreams.get? approvalId with
  | none => .notReady ("Approval node " ++ approvalId ++ " not found in graph upstream map.")
  | some upstream =>
    if upstream.node.state = .done then
      .ready ("Operator approval " ++ approvalId ++ " granted (node done).")
    else .blocked ("Approval " ++ approvalId ++ " in state " ++ upstream.node.state.text ++
        "; waiting for operator approval.")
      { kind := .blockedOnChris
        sourceNodeId := approvalId
        question := some ("Waiting for operator approval: " ++ upstream.node.title) }

def evaluatePredicate (predicate : DependencyPredicate) (upstreams : UpstreamMap)
    (tasks : TaskStatusMap) : ReadinessResult :=
  match predicate with
  | .dispatchSuccess nodeId => evaluateDispatchSuccess nodeId upstreams
  | .dispatchTerminal nodeId terminalStates =>
    evaluateDispatchTerminal nodeId terminalStates upstreams
  | .dispatchVerificationPassed _ =>
    .notReady "Predicate dispatch_verification_passed not yet implemented."
  | .taskDone taskPhid => evaluateTaskDone taskPhid tasks
  | .operatorApproval approvalId => evaluateOperatorApproval approvalId upstreams

def evaluateEdges (upstreams : UpstreamMap) (tasks : TaskStatusMap) :
    List EdgeRow → Except String ReadinessResult
  | [] => .ok (.ready "All dependency predicates satisfied.")
  | edge :: edges =>
    match edge.predicate with
    | none => .error "malformed predicate"
    | some predicate =>
      match evaluatePredicate predicate upstreams tasks with
      | .ready _ => evaluateEdges upstreams tasks edges
      | result => .ok result

def terminalForEval : List NodeState :=
  [.queued, .inFlight, .done, .failed, .cancelled, .skipped]

variable (node : NodeRow)

def evaluateNodeReadiness (incoming : List EdgeRow) (upstreams : UpstreamMap)
    (tasks : TaskStatusMap) : Except String ReadinessResult :=
  if terminalForEval.contains node.state then
    .ok (.notReady ("Node already in state " ++ node.state.text ++ "; no transition needed."))
  else if incoming.isEmpty then .ok (.ready "No dependencies; node is ready.")
  else evaluateEdges upstreams tasks incoming

structure GraphRow where
  graphId : String
  status : GraphStatus
  version : Nat
deriving DecidableEq, Repr

inductive DecisionResult where
  | notReady | queued | blocked
deriving DecidableEq, Repr

structure DecisionRow where
  graphId : String
  nodeId : String
  idempotencyKey : String
  result : DecisionResult
  reason : String
  inputRevision : String
deriving DecidableEq, Repr

/-- What `getDispatchState` reads of a dispatch; the question is the one in its active
clarification. -/
structure DispatchState where
  status : SchedulerStatus
  clarificationQuestion : Option String
deriving DecidableEq, Repr

instance : Schema GraphRow String Empty where
  key row := row.graphId
  entry _ := none

instance : Schema NodeRow String Empty where
  key row := row.nodeId
  entry _ := none

/-- The idempotency key is unique. -/
instance : Schema DecisionRow String Empty where
  key row := row.idempotencyKey
  entry _ := none

structure GraphDb where
  graphs : Table GraphRow
  nodes : Table NodeRow
  edges : List EdgeRow
  decisions : Table DecisionRow
  dispatches : Dict String DispatchState
  tasks : Dict String String

inductive Stmt where
  | getGraph (graphId : String)
  | getNodes (graphId : String)
  | getEdges (graphId : String)
  | getIncomingEdges (nodeId : String)
  | getTaskStatus (taskId : String)
  | getDispatchState (dispatchId : String)
  | updateNodeState (nodeId : String) (state : NodeState) (blocker : Option BlockerSummary)
  | appendDecision (row : DecisionRow)
  | updateGraphStatus (graphId : String) (status : GraphStatus)

variable (state : NodeState)

def setNode (blocker : Option BlockerSummary) : Update NodeRow where
  at_ := nodeId
  guard _ := true
  set row := { row with state := state, blockerSummary := blocker }
  key_set _ := rfl

def setGraphStatus (graphId : String) (status : GraphStatus) : Update GraphRow where
  at_ := graphId
  guard _ := true
  set row := { row with status := status, version := row.version + 1 }
  key_set _ := rfl

namespace Stmt

def Ans : Stmt → Type
  | getGraph _ => Option GraphRow
  | getNodes _ => List NodeRow
  | getEdges _ | getIncomingEdges _ => List EdgeRow
  | getTaskStatus _ => Option String
  | getDispatchState _ => Option DispatchState
  | updateNodeState .. | updateGraphStatus .. => Unit
  | appendDecision _ => Bool

/-- An append answers whether its key was free. -/
def answer : (c : Stmt) → GraphDb → c.Ans
  | getGraph graphId, db => db.graphs.get? graphId
  | getNodes graphId, db => db.nodes.rows.filter (·.graphId = graphId)
  | getEdges graphId, db => db.edges.filter (·.graphId = graphId)
  | getIncomingEdges nodeId, db => db.edges.filter (·.toNodeId = nodeId)
  | getTaskStatus taskId, db => db.tasks.get? taskId
  | getDispatchState dispatchId, db => db.dispatches.get? dispatchId
  | updateNodeState .., _ | updateGraphStatus .., _ => ()
  | appendDecision row, db => !db.decisions.insertRefused row

def effect : Stmt → GraphDb → GraphDb
  | updateNodeState nodeId state blocker, db =>
    { db with nodes := db.nodes.update (setNode nodeId state blocker) }
  | appendDecision row, db => { db with decisions := db.decisions.insert row }
  | updateGraphStatus graphId status, db =>
    { db with graphs := db.graphs.update (setGraphStatus graphId status) }
  | _, db => db

end Stmt

abbrev sql : Signature := ⟨Stmt, Stmt.Ans⟩

instance : Store sql GraphDb where
  answer := Stmt.answer
  effect := Stmt.effect

abbrev Prog (α : Type) := Program sql String α

def issue (c : Stmt) : Prog c.Ans := Program.stmt (S := sql) c

def returned : Except String α → Prog α
  | .ok a => .ret a
  | .error e => .throw e

def taskPhids (nodes : List NodeRow) (edges : List EdgeRow) : List String :=
  ((nodes.filterMap fun node => node.taskPhid.filter (· ≠ "")) ++
    edges.filterMap fun edge => match edge.predicate with
      | some (.taskDone taskPhid) => some taskPhid
      | _ => none).eraseDups

variable (tasks : TaskStatusMap)

def loadTask (phid : String) : Prog TaskStatusMap :=
  (issue (.getTaskStatus phid)).bind fun (status : Option String) =>
    .ret (match status with
      | some status => tasks.set phid status
      | none => tasks)

def dispatchProjection (status : SchedulerStatus) : Option NodeState :=
  if status = .done && state ≠ .done then some .done
  else if status = .needsClarification && state ≠ .needsClarification then some .needsClarification
  else if status = .inFlight && state ≠ .inFlight && state ≠ .needsClarification then some .inFlight
  else if status = .failed && state ≠ .failed then some .failed
  else if status = .cancelled && state ≠ .cancelled then some .cancelled
  else if status = .queued && state = .ready then some .queued
  else none

def taskProjection (status : Option String) : Option NodeState :=
  if status = some "done" && state ≠ .done then some .done
  else if status = some "doing" &&
    state ∉ [NodeState.inFlight, .done, .failed, .cancelled, .skipped] then some .inFlight
  else none

def takeOver (state : Option NodeState) (blocker : Option BlockerSummary) : Prog NodeRow :=
  match state with
  | some state => (issue (.updateNodeState node.nodeId state blocker)).bind fun _ =>
      .ret { node with state := state }
  | none => .ret node

def syncDispatch : Option DispatchState → Prog UpstreamInfo
  | none => .ret ⟨node, none, none⟩
  | some dispatch =>
    let blocker : BlockerSummary :=
      { kind := .blockedOnChris
        sourceNodeId := some node.nodeId
        dispatchId := node.dispatchId
        question := dispatch.clarificationQuestion }
    (takeOver node (dispatchProjection node.state dispatch.status)
      (if dispatch.status = .needsClarification then some blocker else none)).bind fun node =>
        .ret ⟨node, some dispatch.status, dispatch.clarificationQuestion⟩

def projectDispatch : Prog UpstreamInfo :=
  match node.dispatchId.filter (· ≠ "") with
  | none => .ret ⟨node, none, none⟩
  | some dispatchId => (issue (.getDispatchState dispatchId)).bind (syncDispatch node)

def NodeRow.taskStatus : Option String :=
  if node.kind = .task then (node.taskPhid.filter (· ≠ "")).bind tasks.get? else none

def projectNode (infos : List UpstreamInfo) (node : NodeRow) : Prog (List UpstreamInfo) :=
  (projectDispatch node).bind fun info =>
  (takeOver info.node (taskProjection info.node.state (info.node.taskStatus tasks)) none).bind
    fun node => .ret (infos ++ [{ info with node }])

def upstreamMap (infos : List UpstreamInfo) : UpstreamMap :=
  infos.foldl (fun upstreams info => upstreams.set info.node.nodeId info) .empty

structure EvaluateGraphResult where
  evaluated : Nat := 0
  transitioned : Nat := 0
  decisions : List (String × DecisionResult × String) := []
  graphStatus : GraphStatus
deriving DecidableEq, Repr

def upstreamState (upstreams : UpstreamMap) (tasks : TaskStatusMap) (edge : EdgeRow) : String :=
  let info := upstreams.get? edge.fromNodeId
  edge.fromNodeId ++ ":" ++ (info.map (·.node.state.text)).getD "unknown" ++ ":" ++
    ((info.bind (·.dispatchStatus)).map SchedulerStatus.text).getD "unknown" ++
    match edge.predicate with
    | some (.taskDone taskPhid) =>
      ":task=" ++ taskPhid ++ ":" ++ (tasks.get? taskPhid).getD "missing"
    | _ => ""

def computeGraphStatus (nodes : List NodeRow) : GraphStatus :=
  let states := nodes.map (·.state)
  if states.isEmpty then .draft
  else if states.all fun s => s = .done || s = .skipped then .complete
  else if states.any (· = .failed) then .failed
  else if states.all fun s => s = .cancelled || s = .skipped then .cancelled
  else if states.any (fun s => s = .pendingDependencies || s = .needsClarification) &&
    !states.any fun s => s = .queued || s = .inFlight || s = .ready then .blocked
  else .active

section Evaluate
-- `createHash('sha256').update(text).digest('hex')`
variable (sha256Hex : String → String)

def computeInputRevision (nodeId : String) (upstreamStates : List String) : String :=
  let sorted := upstreamStates.insertionSort fun a b =>
    a.toList.flatMap JsText.codeUnits ≤ b.toList.flatMap JsText.codeUnits
  JsText.sliceUnits 16 (sha256Hex (nodeId ++ ":" ++ String.intercalate "," sorted))

def inputRevision (nodeId : String) (incoming : List EdgeRow) (upstreams : UpstreamMap)
    (tasks : TaskStatusMap) : String :=
  computeInputRevision sha256Hex nodeId (incoming.map (upstreamState upstreams tasks))

def decisionRow (graphId nodeId revision : String) (result : DecisionResult) (reason : String) :
    DecisionRow where
  graphId := graphId
  nodeId := nodeId
  idempotencyKey := graphId ++ ":" ++ nodeId ++ ":" ++ revision
  result := result
  reason := reason
  inputRevision := revision

def EvaluateGraphResult.add (result : EvaluateGraphResult) (nodeId : String)
    (decision : DecisionResult) (reason : String) (transitioned : Bool) : EvaluateGraphResult :=
  { result with
    evaluated := result.evaluated + 1
    transitioned := result.transitioned + if transitioned then 1 else 0
    decisions := result.decisions ++ [(nodeId, decision, reason)] }

def recordVerdict (row : DecisionResult → String → DecisionRow) (result : EvaluateGraphResult)
    (nodeId : String) : ReadinessResult → Prog EvaluateGraphResult
  | .ready reason =>
    (issue (.appendDecision (row .queued reason))).bind fun (appended : Bool) =>
      if appended then (issue (.updateNodeState nodeId .queued none)).bind fun _ =>
        .ret (result.add nodeId .queued reason true)
      else .ret (result.add nodeId .queued reason false)
  | .blocked reason blocker =>
    (issue (.appendDecision (row .blocked reason))).bind fun _ =>
    (issue (.updateNodeState nodeId .pendingDependencies (some blocker))).bind fun _ =>
      .ret (result.add nodeId .blocked reason false)
  | .notReady reason =>
    (issue (.appendDecision (row .notReady reason))).bind fun _ =>
      .ret (result.add nodeId .notReady reason false)

variable (graphId : String)

def decideNode (upstreams : UpstreamMap) (tasks : TaskStatusMap)
    (result : EvaluateGraphResult) (node : NodeRow) : Prog EvaluateGraphResult :=
  if node.state ≠ .pendingDependencies ∧ node.state ≠ .ready then .ret result
  else (issue (.getIncomingEdges node.nodeId)).bind fun (incoming : List EdgeRow) =>
    (returned (evaluateNodeReadiness node incoming upstreams tasks)).bind
      (recordVerdict (decisionRow graphId node.nodeId
        (inputRevision sha256Hex node.nodeId incoming upstreams tasks)) result node.nodeId)

def refreshStatus (graph : GraphRow) (result : EvaluateGraphResult) : Prog EvaluateGraphResult :=
  (issue (.getNodes graph.graphId)).bind fun (refreshed : List NodeRow) =>
    let graphStatus := computeGraphStatus refreshed
    if graphStatus ≠ graph.status then
      (issue (.updateGraphStatus graph.graphId graphStatus)).bind fun _ =>
        .ret { result with graphStatus }
    else .ret result

theorem refreshStatus_meets {P : Stmt → Prop} (hnodes : ∀ graphId, P (.getNodes graphId))
    (hstatus : ∀ graphId status, P (.updateGraphStatus graphId status)) (graph : GraphRow)
    (result : EvaluateGraphResult) : (refreshStatus graph result).Meets P fun _ => True := by
  constructor
  · exact hnodes _
  · intro refreshed
    change Program.Meets _ _ (if computeGraphStatus refreshed ≠ graph.status then
      Program.issue _ _ else Program.ret result)
    split
    · exact ⟨hstatus _ _, fun _ => trivial⟩
    · trivial

def decideNodes (graph : GraphRow) (infos : List UpstreamInfo) (tasks : TaskStatusMap) :
    Prog EvaluateGraphResult :=
  Program.fold (infos.map (·.node)) { graphStatus := graph.status }
    (decideNode sha256Hex graph.graphId (upstreamMap infos) tasks)

def evaluateFound : Option GraphRow → Prog EvaluateGraphResult
  | none => .throw ("Graph not found: " ++ graphId)
  | some graph =>
    (issue (.getNodes graphId)).bind fun (nodes : List NodeRow) =>
    (issue (.getEdges graphId)).bind fun (edges : List EdgeRow) =>
    (Program.fold (taskPhids nodes edges) .empty loadTask).bind fun tasks =>
    (Program.fold nodes [] (projectNode tasks)).bind fun infos =>
    (decideNodes sha256Hex graph infos tasks).bind (refreshStatus graph)

def evaluateGraph : Prog EvaluateGraphResult :=
  (issue (.getGraph graphId)).bind (evaluateFound sha256Hex graphId)

end Evaluate

end IdAgents.Graph
