import IdAgents.Graph.Plan
import IdAgents.Library.Rely

namespace IdAgents.Graph
open JsMap KeyedTable AtomicProgram

inductive EnqueueOutcome where
  | done | refused (error : String) | lost (error : String)
deriving DecidableEq, Repr

structure EnqueueResult where
  dispatchPhid : String
  queryId : String
deriving DecidableEq, Repr

structure PlanEnvironment where
  uuid : Nat → String
  fails : Nat → Bool
  enqueue : Nat → EnqueueOutcome
  mintDispatch : Nat → EnqueueResult

structure PlanWorld where
  db : GraphDb
  planKeys : Dict String String
  clientNodeIds : Dict String String
  step : Nat
  env : PlanEnvironment

inductive PlanStmt where
  | base (c : Stmt)
  | getGraphByIdempotencyKey (key : String)
  | createGraph
  | enqueue (node : DispatchPlanNodeInput)
  | addNode (graphId dispatchId : String) (node : DispatchPlanNodeInput)
  | addEdge (graphId fromNodeId toNodeId : String)
  | setGraphIdempotencyKey (graphId key : String)
  | setDispatch (dispatchId : String) (state : DispatchState)
  | getPlanNodes (graphId : String)

namespace PlanStmt

def Value : PlanStmt → Type
  | base c => c.Ans
  | getGraphByIdempotencyKey _ => Option GraphRow
  | createGraph => GraphRow
  | enqueue _ => EnqueueResult
  | addNode .. => NodeRow
  | addEdge .. | setGraphIdempotencyKey .. | setDispatch .. => Unit
  | getPlanNodes _ => List (NodeRow × Option String)

def Ans (c : PlanStmt) : Type := Except String c.Value

end PlanStmt

namespace PlanWorld

variable (w : PlanWorld)

def newGraph : GraphRow := ⟨"graph-" ++ w.env.uuid w.step, .draft, 1⟩

def newNode (graphId dispatchId : String) (node : DispatchPlanNodeInput) : NodeRow where
  nodeId := "node-" ++ w.env.uuid w.step
  graphId := graphId
  title := node.title
  kind := .dispatch
  dispatchId := some dispatchId
  taskPhid := none
  state := .pendingDependencies
  blockerSummary := none

def graphOf (key : String) : Option GraphRow :=
  w.db.graphs.rows.find? fun row => w.planKeys.get? row.graphId = some key

def keyTaken (graphId key : String) : Bool :=
  w.planKeys.entries.any fun entry => entry.2 = key && entry.1 ≠ graphId

def nodeRefused (graphId dispatchId : String) (node : DispatchPlanNodeInput) : Bool :=
  w.db.nodes.insertRefused (w.newNode graphId dispatchId node) ||
    w.db.nodes.rows.any fun row =>
      row.graphId = graphId && w.clientNodeIds.get? row.nodeId = some node.clientNodeId

end PlanWorld

namespace PlanStmt

def value : (c : PlanStmt) → PlanWorld → Except String c.Value
  | base c, w => .ok (Stmt.answer c w.db)
  | getGraphByIdempotencyKey key, w => .ok (w.graphOf key)
  | createGraph, w =>
    if w.db.graphs.insertRefused w.newGraph then .error "UNIQUE constraint failed"
    else .ok w.newGraph
  | enqueue _, w => match w.env.enqueue w.step with
    | .done => .ok (w.env.mintDispatch w.step)
    | .refused error | .lost error => .error error
  | addNode graphId dispatchId node, w =>
    if w.nodeRefused graphId dispatchId node then .error "UNIQUE constraint failed"
    else .ok (w.newNode graphId dispatchId node)
  | addEdge .., _ | setDispatch .., _ => .ok ()
  | setGraphIdempotencyKey graphId key, w =>
    if w.keyTaken graphId key then .error "UNIQUE constraint failed" else .ok ()
  | getPlanNodes graphId, w => .ok ((Stmt.answer (.getNodes graphId) w.db).map fun row =>
      (row, w.clientNodeIds.get? row.nodeId))

def answer (c : PlanStmt) (w : PlanWorld) : c.Ans :=
  if w.env.fails w.step then .error "database is locked" else c.value w

def write (c : PlanStmt) (w : PlanWorld) : PlanWorld :=
  match c with
  | base c => { w with db := Stmt.effect c w.db }
  | getGraphByIdempotencyKey _ | getPlanNodes _ => w
  | createGraph => { w with db := { w.db with graphs := w.db.graphs.insert w.newGraph } }
  | enqueue _ => match w.env.enqueue w.step with
    | .refused _ => w
    | .done | .lost _ =>
      { w with db := { w.db with
          dispatches := w.db.dispatches.set (w.env.mintDispatch w.step).dispatchPhid
            ⟨.queued, none⟩ } }
  | addNode graphId dispatchId node =>
    if w.nodeRefused graphId dispatchId node then w
    else
      { w with
        db := { w.db with nodes := w.db.nodes.insert (w.newNode graphId dispatchId node) }
        clientNodeIds := w.clientNodeIds.set (w.newNode graphId dispatchId node).nodeId
          node.clientNodeId }
  | addEdge graphId fromNodeId toNodeId =>
    { w with db := { w.db with
        edges := w.db.edges ++ [⟨graphId, fromNodeId, toNodeId,
          some (.dispatchSuccess fromNodeId)⟩] } }
  | setGraphIdempotencyKey graphId key =>
    if w.keyTaken graphId key then w else { w with planKeys := w.planKeys.set graphId key }
  | setDispatch dispatchId state =>
    { w with db := { w.db with dispatches := w.db.dispatches.set dispatchId state } }

def effect (c : PlanStmt) (w : PlanWorld) : PlanWorld :=
  { if w.env.fails w.step then w else c.write w with step := w.step + 1 }

end PlanStmt

abbrev planSql : Signature := ⟨PlanStmt, PlanStmt.Ans⟩

instance : Store planSql PlanWorld where
  answer := PlanStmt.answer
  effect := PlanStmt.effect

abbrev PlanProg (α : Type) := Program planSql String α

def ask (c : PlanStmt) : PlanProg c.Value :=
  .issue (S := planSql) c fun (answer : Except String c.Value) => match answer with
    | .ok value => .ret value
    | .error e => .throw e

def onPlan : Prog α → PlanProg α
  | .ret a => .ret a
  | .throw e => .throw e
  | .issue c k => (ask (.base c)).bind fun answer => onPlan (k answer)

structure DispatchPlanNodeResult where
  clientNodeId : String
  nodeId : String
  dispatchId : String
  queryId : String
  state : NodeState
  waitsOn : Option (List String)
deriving DecidableEq, Repr

structure DispatchPlanResponse where
  graphId : String
  status : GraphStatus
  nodes : List DispatchPlanNodeResult
  evaluated : Nat := 0
  transitioned : Nat := 0
  graphStatus : GraphStatus
deriving DecidableEq, Repr

structure PlanProgress where
  nodes : List DispatchPlanNodeResult := []
  errors : List (String × String) := []

variable (graphId : String)

def addPlanNode (node : DispatchPlanNodeInput) (progress : PlanProgress)
    (enqueued : EnqueueResult) : PlanProg PlanProgress :=
  (ask (.addNode graphId enqueued.dispatchPhid node)).bind fun (row : NodeRow) =>
    .ret { progress with
      nodes := progress.nodes ++ [⟨node.clientNodeId, row.nodeId, enqueued.dispatchPhid,
        enqueued.queryId, .pendingDependencies, node.waitsOn⟩] }

def enqueueNode (node : DispatchPlanNodeInput) (progress : PlanProgress) : PlanProg PlanProgress :=
  (ask (.enqueue node)).bind (addPlanNode graphId node progress)

def planNode (progress : PlanProgress) (node : DispatchPlanNodeInput) : PlanProg PlanProgress :=
  (enqueueNode graphId node progress).tryCatch fun error =>
    .ret { progress with errors := progress.errors ++ [(node.clientNodeId, error)] }

def partialMessage (errors : List (String × String)) : String :=
  "Partial enqueue failure — " ++ toString errors.length ++ " node(s) failed: " ++
    String.intercalate "; " (errors.map fun e => e.1 ++ ": " ++ e.2)

def nodeIdOf (nodes : List DispatchPlanNodeResult) (clientNodeId : String) : String :=
  ((nodes.find? (·.clientNodeId = clientNodeId)).map (·.nodeId)).getD ""

def addWaitEdges (nodes : List DispatchPlanNodeResult)
    (node : DispatchPlanNodeInput) : PlanProg Unit :=
  Program.fold (node.waitsOn.getD []) () fun _ upstream =>
    ask (.addEdge graphId (nodeIdOf nodes upstream) (nodeIdOf nodes node.clientNodeId))

def refresh (refreshed : List NodeRow) (node : DispatchPlanNodeResult) : DispatchPlanNodeResult :=
  match refreshed.find? (·.nodeId = node.nodeId) with
  | some row => { node with state := row.state }
  | none => node

section Execute
variable (sha256Hex : String → String)

variable (req : DispatchPlanRequest)

def activatePlan (graph : GraphRow)
    (sorted : List DispatchPlanNodeInput) (nodes : List DispatchPlanNodeResult) :
    PlanProg DispatchPlanResponse :=
  (Program.fold sorted () fun _ node => addWaitEdges graph.graphId nodes node).bind fun _ =>
  (ask (.base (.updateGraphStatus graph.graphId .active))).bind fun _ =>
  (onPlan (evaluateGraph sha256Hex graph.graphId)).bind fun result =>
  (ask (.setGraphIdempotencyKey graph.graphId req.idempotencyKey)).bind fun _ =>
  (ask (.base (.getNodes graph.graphId))).bind fun (refreshed : List NodeRow) =>
  (ask (.base (.getGraph graph.graphId))).bind fun (refreshedGraph : Option GraphRow) =>
    .ret {
      graphId := graph.graphId
      status := (refreshedGraph.map (·.status)).getD .active
      nodes := nodes.map (refresh refreshed)
      evaluated := result.evaluated
      transitioned := result.transitioned
      graphStatus := result.graphStatus }

def executeSorted (graph : GraphRow)
    (sorted : List DispatchPlanNodeInput) : PlanProg DispatchPlanResponse :=
  (Program.fold sorted {} (planNode graph.graphId)).bind fun progress =>
    if !progress.errors.isEmpty then .throw (partialMessage progress.errors)
    else activatePlan sha256Hex req graph sorted progress.nodes

def createPlan : PlanProg DispatchPlanResponse :=
  (ask .createGraph).bind fun (graph : GraphRow) =>
  match topoSort req.nodes with
  | .error e => .throw e
  | .ok sorted => executeSorted sha256Hex req graph sorted

def shownId (nodes : List (NodeRow × Option String)) (nodeId : String) : String :=
  ((nodes.find? (·.1.nodeId = nodeId)).bind (·.2)).getD nodeId

def existingNode (nodes : List (NodeRow × Option String)) (results : List DispatchPlanNodeResult)
    (node : NodeRow × Option String) : PlanProg (List DispatchPlanNodeResult) :=
  (ask (.base (.getIncomingEdges node.1.nodeId))).bind fun (incoming : List EdgeRow) =>
    .ret (results ++ [⟨node.2.getD node.1.nodeId, node.1.nodeId, node.1.dispatchId.getD "", "",
      node.1.state,
      if incoming.isEmpty then none
      else some (incoming.map fun edge => shownId nodes edge.fromNodeId)⟩])

def buildResponseFromExistingGraph (graphId : String) : PlanProg DispatchPlanResponse :=
  (ask (.base (.getGraph graphId))).bind fun (graph : Option GraphRow) =>
  match graph with
  | none => .throw ("Graph not found: " ++ graphId)
  | some graph =>
    (ask (.getPlanNodes graphId)).bind fun (nodes : List (NodeRow × Option String)) =>
    (ask (.base (.getEdges graphId))).bind fun _ =>
    (Program.fold nodes [] (existingNode nodes)).bind fun results =>
      .ret { graphId := graphId, status := graph.status, nodes := results,
             graphStatus := graph.status }

def completed (existing : Option GraphRow) : Option GraphRow :=
  existing.filter (·.status ≠ .draft)

def executeDispatchPlan : PlanProg DispatchPlanResponse :=
  (ask (.getGraphByIdempotencyKey req.idempotencyKey)).bind fun (existing : Option GraphRow) =>
  match completed existing with
  | some graph => buildResponseFromExistingGraph graph.graphId
  | none => createPlan sha256Hex req

end Execute

end IdAgents.Graph
