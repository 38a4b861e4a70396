import IdAgents.Graph.Runner

namespace IdAgents.Graph
open JsMap KeyedTable AtomicProgram List Program GraphDb Option

/-- A call of `evaluateGraph`, one that ends after some of its statements, or a change that comes
from elsewhere. -/
inductive GraphEvent where
  | evaluate (graphId : String)
  | interrupted (graphId : String) (statements : Nat)
  | dispatch (dispatchId : String) (state : DispatchState)
  | task (taskId status : String)
  | addNode (row : NodeRow)
  | addEdge (row : EdgeRow)
  | write (c : Stmt)

section
variable (sha256Hex : String → String)

def GraphEvent.step (db : GraphDb) : GraphEvent → GraphDb
  | .evaluate graphId => ((evaluateGraph sha256Hex graphId).run db).2
  | .interrupted graphId statements =>
    (((evaluateGraph sha256Hex graphId).trace db).take statements).foldl
      (fun db e => Stmt.effect e.stmt db) db
  | .dispatch dispatchId state => { db with dispatches := db.dispatches.set dispatchId state }
  | .task taskId status => { db with tasks := db.tasks.set taskId status }
  | .addNode row => { db with nodes := db.nodes.insert row }
  | .addEdge row => { db with edges := db.edges ++ [row] }
  | .write c => c.effect db

def runGraph (events : List GraphEvent) (db : GraphDb) : GraphDb :=
  events.foldl (GraphEvent.step sha256Hex) db

/-- `before` is the database as a run calls `evaluateGraph` on a graph that exists. -/
def Called (events : List GraphEvent) (db : GraphDb) (graphId : String) (before : GraphDb) : Prop :=
  ∃ past future, events = past ++ .evaluate graphId :: future ∧
    before = runGraph sha256Hex past db ∧ (before.graphs.get? graphId).isSome

end

def NodeState.waits (state : NodeState) : Bool := state = .pendingDependencies || state = .ready

namespace GraphDb
section
variable (db : GraphDb)

def stateOf (nodeId : String) : Option NodeState :=
  (db.nodes.get? nodeId).map (·.state)

def nodesOf (graphId : String) : List NodeRow :=
  db.nodes.rows.filter (·.graphId = graphId)

def edgesOf (graphId : String) : List EdgeRow :=
  db.edges.filter (·.graphId = graphId)

def incomingEdges (nodeId : String) : List EdgeRow :=
  db.edges.filter (·.toNodeId = nodeId)

def dispatchOf (node : NodeRow) : Option DispatchState :=
  (node.dispatchId.filter (· ≠ "")).bind db.dispatches.get?

def dispatchStatus (node : NodeRow) : Option SchedulerStatus :=
  (db.dispatchOf node).map (·.status)

def taskOf (node : NodeRow) : Option String :=
  if node.kind = .task then (node.taskPhid.filter (· ≠ "")).bind db.tasks.get? else none

def addTask (tasks : TaskStatusMap) (phid : String) : TaskStatusMap :=
  match db.tasks.get? phid with
  | some status => tasks.set phid status
  | none => tasks

def tasksOf (graphId : String) : TaskStatusMap :=
  (taskPhids (db.nodesOf graphId) (db.edgesOf graphId)).foldl db.addTask .empty

end

end GraphDb

def dispatchedState (state : NodeState) (dispatch : Option SchedulerStatus) : NodeState :=
  (dispatch.bind (dispatchProjection state)).getD state

def projectState (state : NodeState) (dispatch : Option SchedulerStatus) (task : Option String) :
    NodeState :=
  (taskProjection (dispatchedState state dispatch) task).getD (dispatchedState state dispatch)

def GraphDb.infoOf (db : GraphDb) (tasks : TaskStatusMap) (node : NodeRow) : UpstreamInfo where
  node := { node with
    state := projectState node.state (db.dispatchStatus node) (node.taskStatus tasks) }
  dispatchStatus := db.dispatchStatus node
  clarificationQuestion := (db.dispatchOf node).bind (·.clarificationQuestion)

def GraphDb.infosOf (db : GraphDb) (graphId : String) : List UpstreamInfo :=
  (db.nodesOf graphId).map (db.infoOf (db.tasksOf graphId))

theorem effect_inputs (c : Stmt) (db : GraphDb) :
    (c.effect db).edges = db.edges ∧ (c.effect db).dispatches = db.dispatches := by
  cases c <;> exact ⟨rfl, rfl⟩

theorem run_inputs (p : Prog α) (db : GraphDb) :
    (p.run db).2.edges = db.edges ∧ (p.run db).2.dispatches = db.dispatches := by
  induction p generalizing db with
  | ret a => exact ⟨rfl, rfl⟩
  | throw e => exact ⟨rfl, rfl⟩
  | issue c k ih =>
    rw [run_issue, (ih _ _).1, (ih _ _).2]
    exact effect_inputs c db

structure SameInputs (db db' : GraphDb) : Prop where
  edges : db'.edges = db.edges
  decisions : db'.decisions = db.decisions
  dispatches : db'.dispatches = db.dispatches
  tasks : db'.tasks = db.tasks

theorem SameInputs.refl (db : GraphDb) : SameInputs db db := ⟨rfl, rfl, rfl, rfl⟩

theorem SameInputs.trans {a b c : GraphDb} (h : SameInputs a b) (g : SameInputs b c) :
    SameInputs a c :=
  ⟨g.edges.trans h.edges, g.decisions.trans h.decisions, g.dispatches.trans h.dispatches,
    g.tasks.trans h.tasks⟩

variable {db : GraphDb}

theorem SameInputs.infoOf {db' : GraphDb} (h : SameInputs db db') (tasks : TaskStatusMap) :
    db'.infoOf tasks = db.infoOf tasks := by
  funext node
  simp only [GraphDb.infoOf, GraphDb.dispatchStatus, GraphDb.dispatchOf, h.dispatches]

theorem setNode_not_refused (t : Table NodeRow) (nodeId : String) (state : NodeState)
    (blocker : Option BlockerSummary) : t.updateRefused (setNode nodeId state blocker) = false :=
  Table.not_refused_of_entry fun _ _ => rfl

theorem stateOf_setNode (db : GraphDb) (nodeId : String) (state : NodeState)
    (blocker : Option BlockerSummary) (id : String) :
    (Stmt.effect (.updateNodeState nodeId state blocker) db).stateOf id =
      if id = nodeId then (db.stateOf id).map fun _ => state else db.stateOf id := by
  simp only [stateOf, Stmt.effect]
  split
  · next h =>
    subst h
    rw [Table.get?_update, setNode_not_refused, if_neg Bool.false_ne_true, Option.map_map,
      Option.map_map]
    apply Option.map_congr
    intro row hrow
    have hkey : Schema.key row = id := (Table.get?_some hrow).2
    have hits : (setNode id state blocker).hits row := by simp [Update.hits, setNode, hkey]
    simp only [Function.comp_apply, Update.rewrite_of_hits hits]
    rfl
  · next h => rw [Table.get?_update_ne (Ne.symm h)]

structure Puts (nodeId : String) (state : NodeState) (db db' : GraphDb) : Prop where
  same : SameInputs db db'
  self : db'.stateOf nodeId = some state
  other : ∀ id ≠ nodeId, db'.stateOf id = db.stateOf id

theorem Puts.refl (h : db.stateOf nodeId = some state) : Puts nodeId state db db :=
  ⟨.refl db, h, fun _ _ => rfl⟩

theorem Puts.trans (h : Puts nodeId s a b) (g : Puts nodeId t b c) : Puts nodeId t a c :=
  ⟨h.same.trans g.same, g.self, fun id hid => (g.other id hid).trans (h.other id hid)⟩

theorem takeOver_run (node : NodeRow)
    (h : db.stateOf node.nodeId = some node.state) (state : Option NodeState)
    (blocker : Option BlockerSummary) : ∃ db', (takeOver node state blocker).run db =
        (.ok { node with state := state.getD node.state }, db') ∧
      Puts node.nodeId (state.getD node.state) db db' := by
  cases state with
  | none => exact ⟨db, rfl, .refl h⟩
  | some state =>
    refine ⟨Stmt.effect (.updateNodeState node.nodeId state blocker) db, rfl,
      ⟨rfl, rfl, rfl, rfl⟩, ?_, ?_⟩
    · rw [stateOf_setNode, if_pos rfl, h]
      rfl
    · intro id hid
      rw [stateOf_setNode, if_neg hid]

variable {node : NodeRow}

theorem projectDispatch_run (h : db.stateOf node.nodeId = some node.state) :
    ∃ db', (projectDispatch node).run db =
        (.ok ⟨{ node with state := dispatchedState node.state (db.dispatchStatus node) },
          db.dispatchStatus node, (db.dispatchOf node).bind (·.clarificationQuestion)⟩, db') ∧
      Puts node.nodeId (dispatchedState node.state (db.dispatchStatus node)) db db' := by
  unfold projectDispatch dispatchStatus dispatchOf
  cases node.dispatchId.filter (· ≠ "") with
  | none => exact ⟨db, rfl, .refl h⟩
  | some dispatchId =>
    rw [bind_some]
    change ∃ db', (syncDispatch node (db.dispatches.get? dispatchId)).run db = _ ∧ _
    cases db.dispatches.get? dispatchId with
    | none => exact ⟨db, rfl, .refl h⟩
    | some dispatch =>
      obtain ⟨db', hrun, hputs⟩ := takeOver_run node h
        (dispatchProjection node.state dispatch.status)
        (if dispatch.status = .needsClarification then some
          { kind := .blockedOnChris
            sourceNodeId := some node.nodeId
            dispatchId := node.dispatchId
            question := dispatch.clarificationQuestion } else none)
      refine ⟨db', ?_, hputs⟩
      rw [syncDispatch, run_bind_ok hrun]
      rfl

theorem projectNode_run (tasks : TaskStatusMap)
    (infos : List UpstreamInfo) (h : db.stateOf node.nodeId = some node.state) :
    ∃ db', (projectNode tasks infos node).run db = (.ok (infos ++ [db.infoOf tasks node]), db') ∧
      Puts node.nodeId (db.infoOf tasks node).node.state db db' := by
  obtain ⟨db₁, hrun₁, hputs₁⟩ := projectDispatch_run h
  rw [projectNode]
  rw [run_bind_ok hrun₁]
  obtain ⟨db₂, hrun₂, hputs₂⟩ := takeOver_run
    { node with state := dispatchedState node.state (db.dispatchStatus node) }
    hputs₁.self (taskProjection _ (node.taskStatus tasks)) none
  refine ⟨db₂, ?_, hputs₁.trans hputs₂⟩
  exact run_bind_ok hrun₂ _

theorem projectNodes_run {nodes : List NodeRow} (tasks : TaskStatusMap)
    (infos : List UpstreamInfo) (hnodup : (nodes.map (·.nodeId)).Nodup)
    (hstored : ∀ node ∈ nodes, db.stateOf node.nodeId = some node.state) :
    ∃ db', (fold nodes infos (projectNode tasks)).run db =
        (.ok (infos ++ nodes.map (db.infoOf tasks)), db') ∧ SameInputs db db' ∧
      (∀ node ∈ nodes, db'.stateOf node.nodeId = some (db.infoOf tasks node).node.state) ∧
      ∀ id ∉ nodes.map (·.nodeId), db'.stateOf id = db.stateOf id := by
  induction nodes generalizing infos db with
  | nil => exact ⟨db, by simp, .refl db, by simp, fun _ _ => rfl⟩
  | cons node nodes ih =>
    rw [map_cons, nodup_cons] at hnodup
    obtain ⟨db₁, hrun, hputs⟩ := projectNode_run tasks infos (hstored node (by simp))
    have hstored₁ : ∀ other ∈ nodes, db₁.stateOf other.nodeId = some other.state := by
      intro other hother
      have hne : other.nodeId ≠ node.nodeId :=
        fun heq => hnodup.1 (heq ▸ mem_map_of_mem hother)
      rw [hputs.other _ hne]
      exact hstored other (by simp [hother])
    obtain ⟨db₂, hrun₂, hsame, hself, hother⟩ :=
      ih (infos ++ [db.infoOf tasks node]) hnodup.2 hstored₁
    rw [hputs.same.infoOf] at hrun₂ hself
    refine ⟨db₂, ?_, hputs.same.trans hsame, ?_, ?_⟩
    · rw [fold_cons, run_bind_ok hrun, hrun₂]
      simp
    · intro n hn
      obtain rfl | hn := mem_cons.1 hn
      · rw [hother _ hnodup.1, hputs.self]
      · exact hself n hn
    · intro id hid
      rw [map_cons, mem_cons, not_or] at hid
      rw [hother id hid.2, hputs.other id hid.1]

theorem loadTasks_run (phids : List String) (tasks : TaskStatusMap) (db : GraphDb) :
    (fold phids tasks loadTask).run db = (.ok (phids.foldl db.addTask tasks), db) := by
  induction phids generalizing tasks with
  | nil => rfl
  | cons phid phids ih => exact ih _

theorem get?_addTask_ne {other : String} (db : GraphDb) (tasks : TaskStatusMap) (h : phid ≠ other) :
    (db.addTask tasks other).get? phid = tasks.get? phid := by
  rw [addTask]
  split
  · exact Dict.get?_set_ne h
  · rfl

theorem get?_addTask_self (db : GraphDb) (tasks : TaskStatusMap) (phid : String) :
    (db.addTask tasks phid).get? phid = (db.tasks.get? phid).or (tasks.get? phid) := by
  rw [addTask]
  cases db.tasks.get? phid with
  | none => rfl
  | some status => exact Dict.get?_set_self tasks phid status

theorem get?_addTasks (db : GraphDb) (phids : List String) (tasks : TaskStatusMap) (phid : String) :
    (phids.foldl db.addTask tasks).get? phid =
      if phid ∈ phids then (db.tasks.get? phid).or (tasks.get? phid) else tasks.get? phid := by
  induction phids generalizing tasks with
  | nil => rfl
  | cons first phids ih =>
    rw [foldl_cons, ih]
    by_cases heq : phid = first
    · subst heq
      rw [get?_addTask_self, if_pos mem_cons_self]
      cases db.tasks.get? phid <;> simp
    · rw [get?_addTask_ne db tasks heq]
      simp only [mem_cons, heq, false_or]

theorem taskStatus_tasksOf (h : node ∈ db.nodesOf graphId) :
    node.taskStatus (db.tasksOf graphId) = db.taskOf node := by
  rw [NodeRow.taskStatus, taskOf]
  congr 1
  cases hphid : node.taskPhid.filter (· ≠ "") with
  | none => rfl
  | some phid =>
    have hmem : phid ∈ taskPhids (db.nodesOf graphId) (db.edgesOf graphId) := by
      rw [taskPhids, mem_eraseDups, mem_append]
      exact .inl (mem_filterMap.2 ⟨node, h, hphid⟩)
    rw [bind_some, bind_some, tasksOf, get?_addTasks, if_pos hmem]
    simp

theorem infosOf_nodup (db : GraphDb) (graphId : String) :
    (((db.infosOf graphId).map (·.node)).map (·.nodeId)).Nodup := by
  rw [GraphDb.infosOf, List.map_map, List.map_map]
  exact db.nodes.key_nodup.sublist (List.filter_sublist.map _)

theorem evaluateGraph_run (sha256Hex : String → String) {graph : GraphRow}
    (h : db.graphs.get? graphId = some graph) : ∃ mid, (evaluateGraph sha256Hex graphId).run db =
        ((decideNodes sha256Hex graph (db.infosOf graphId) (db.tasksOf graphId)).bind
          (refreshStatus graph)).run mid ∧ SameInputs db mid ∧
      ∀ info ∈ db.infosOf graphId, mid.stateOf info.node.nodeId = some info.node.state := by
  have hnodup : ((db.nodesOf graphId).map (·.nodeId)).Nodup :=
    db.nodes.key_nodup.sublist (filter_sublist.map _)
  have hstored : ∀ node ∈ db.nodesOf graphId, db.stateOf node.nodeId = some node.state := by
    intro node hnode
    rw [stateOf, show db.nodes.get? node.nodeId = some node from
      Table.get?_of_mem (mem_of_mem_filter hnode)]
    rfl
  obtain ⟨mid, hrun, hsame, hself, -⟩ :=
    projectNodes_run (db.tasksOf graphId) [] hnodup hstored
  refine ⟨mid, ?_, hsame, ?_⟩
  · change (evaluateFound sha256Hex graphId (db.graphs.get? graphId)).run db = _
    rw [h]
    change run (Program.bind (fold (taskPhids (db.nodesOf graphId)
      (db.edgesOf graphId)) .empty loadTask) _) db = _
    rw [run_bind_ok (loadTasks_run _ _ db)]
    exact run_bind_ok hrun _
  · intro info hinfo
    obtain ⟨node, hnode, rfl⟩ := mem_map.1 hinfo
    exact hself node hnode

end IdAgents.Graph
