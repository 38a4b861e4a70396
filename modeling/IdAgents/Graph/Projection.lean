import IdAgents.Graph.History

namespace IdAgents.Graph
open JsMap KeyedTable AtomicProgram

def phases : List NodeState := [.inFlight, .needsClarification, .done, .failed, .cancelled]

def ShowsPhase (state : NodeState) (status : SchedulerStatus) : Prop :=
  ∀ phase ∈ phases, state = phase ↔ status.text = phase.text

instance (state : NodeState) (status : SchedulerStatus) : Decidable (ShowsPhase state status) :=
  inferInstanceAs (Decidable (∀ phase ∈ phases, state = phase ↔ status.text = phase.text))

def ShowsDispatches (graphId : String) (db after : GraphDb) : Prop :=
  ∀ node ∈ db.nodesOf graphId, ∀ status state, after.dispatchStatus node = some status →
    after.stateOf node.nodeId = some state → state.waits = false → ShowsPhase state status

/-- What a node shows before its dispatch is looked at does not hide a status of the dispatch: a
paused one does not resume, one that has begun does not go back to wait, and a task that is
linked as well does not say otherwise. -/
def NodeState.LetsThrough (state : NodeState) (status : SchedulerStatus) (task : Option String) :
    Prop :=
  if task = some "done" then status = .done
  else if task = some "doing" then
    status ∈ [SchedulerStatus.inFlight, .done, .failed, .cancelled] ∨
      (status ≠ .needsClarification ∧ state = .skipped)
  else (status = .inFlight → state ≠ .needsClarification) ∧
    (status ∈ [SchedulerStatus.queued, .bounced, .resumeDeliveryFailed] → state ∉ phases)

def LetsThrough (graphId : String) (db : GraphDb) : Prop :=
  ∀ node ∈ db.nodesOf graphId, ∀ status, db.dispatchStatus node = some status →
    node.state.LetsThrough status (db.taskOf node)

theorem showsPhase_projectState (state : NodeState) (status : SchedulerStatus)
    (task : Option String) : ShowsPhase (projectState state (some status) task) status ↔
      state.LetsThrough status task := by
  rw [NodeState.LetsThrough]
  by_cases hdone : task = some "done"
  · rw [if_pos hdone, hdone]
    cases state <;> cases status <;> decide
  by_cases hdoing : task = some "doing"
  · rw [if_neg hdone, if_pos hdoing, hdoing]
    cases state <;> cases status <;> decide
  · have htask : ∀ s, taskProjection s task = none := by
      intro s
      simp [taskProjection, hdone, hdoing]
    rw [if_neg hdone, if_neg hdoing, projectState, htask, Option.getD_none]
    cases state <;> cases status <;> decide

/-- What the decisions write: the log, and the state of a node of `nodes` that waits. -/
def WritesWaiting (nodes : List NodeRow) : Stmt → Prop
  | .updateNodeState nodeId state _ => (state = .queued ∨ state = .pendingDependencies) ∧
      ∃ node ∈ nodes, node.nodeId = nodeId ∧ node.state.waits
  | _ => True

def Settled (nodes : List NodeRow) (db : GraphDb) : Prop :=
  ∀ node ∈ nodes, ∃ state, db.stateOf node.nodeId = some state ∧
    (state = node.state ∨ node.state.waits ∧ (state = .queued ∨ state = .pendingDependencies))

variable {nodes : List NodeRow}

theorem recordVerdict_meets (row : DecisionResult → String → DecisionRow)
    {node : NodeRow} (hnode : node ∈ nodes) (hwaits : node.state.waits)
    (result : EvaluateGraphResult) (readiness : ReadinessResult) :
    (recordVerdict row result node.nodeId readiness).Meets (WritesWaiting nodes) fun _ => True := by
  have hwrites : ∃ n ∈ nodes, n.nodeId = node.nodeId ∧ n.state.waits := ⟨node, hnode, rfl, hwaits⟩
  cases readiness with
  | ready reason =>
    constructor
    · trivial
    · intro appended
      cases appended with
      | true => exact ⟨⟨.inl rfl, hwrites⟩, fun _ => trivial⟩
      | false => trivial
  | blocked reason blocker => exact ⟨trivial, fun _ => ⟨⟨.inr rfl, hwrites⟩, fun _ => trivial⟩⟩
  | notReady reason => exact ⟨trivial, fun _ => trivial⟩

theorem decideNode_meets (sha256Hex : String → String) (graphId : String)
    (upstreams : UpstreamMap) (tasks : TaskStatusMap) {node : NodeRow}
    (hnode : node ∈ nodes) (result : EvaluateGraphResult) :
    (decideNode sha256Hex graphId upstreams tasks result node).Meets (WritesWaiting nodes)
      fun _ => True := by
  rw [decideNode]
  split
  · trivial
  · next hstate =>
    have hwaits : node.state.waits := by
      rw [NodeState.waits, Bool.or_eq_true, decide_eq_true_eq, decide_eq_true_eq]
      tauto
    constructor
    · trivial
    · intro incoming
      change ((returned (evaluateNodeReadiness node incoming upstreams tasks)).bind
        (recordVerdict _ result node.nodeId)).Meets _ _
      cases evaluateNodeReadiness node incoming upstreams tasks with
      | error e => trivial
      | ok verdict => exact recordVerdict_meets _ hnode hwaits result verdict

variable {db : GraphDb}

theorem Settled.effect (hnodup : (nodes.map (·.nodeId)).Nodup)
    (h : Settled nodes db) {c : Stmt} (hc : WritesWaiting nodes c) :
    Settled nodes (c.effect db) := by
  cases c with
  | updateNodeState nodeId state blocker =>
    obtain ⟨hstate, other, hother, hid, hwaits⟩ := hc
    intro node hnode
    obtain ⟨old, hold, hkept⟩ := h node hnode
    rw [stateOf_setNode, hold]
    split
    · next heq =>
      have hsame : node = other := List.inj_on_of_nodup_map hnodup hnode hother (heq.trans hid.symm)
      exact ⟨state, rfl, .inr ⟨hsame ▸ hwaits, hstate⟩⟩
    · exact ⟨old, rfl, hkept⟩
  | _ => exact h
section
variable (sha256Hex : String → String)

theorem evaluateGraph_settled {graph : GraphRow} (h : db.graphs.get? graphId = some graph) :
    Settled ((db.infosOf graphId).map (·.node)) ((evaluateGraph sha256Hex graphId).run db).2 := by
  obtain ⟨mid, hrun, -, hstored⟩ := evaluateGraph_run sha256Hex h
  have hmeets : ((decideNodes sha256Hex graph (db.infosOf graphId) (db.tasksOf graphId)).bind
      (refreshStatus graph)).Meets (WritesWaiting ((db.infosOf graphId).map (·.node)))
      fun _ => True := by
    apply Program.Meets.bind (R := fun _ => True)
    · exact Program.Meets.fold _ fun result node hnode =>
        decideNode_meets sha256Hex _ _ _ hnode result
    · exact fun result _ => refreshStatus_meets (fun _ => trivial) (fun _ _ => trivial) graph result
  have hmid : Settled ((db.infosOf graphId).map (·.node)) mid := by
    intro node hnode
    obtain ⟨info, hinfo, rfl⟩ := List.mem_map.1 hnode
    exact ⟨_, hstored info hinfo, .inl rfl⟩
  rw [hrun]
  exact ((Program.run_chain _ mid).invariant hmid fun e he hbefore =>
    hbefore.effect (infosOf_nodup db graphId) (hmeets.trace mid e he)).1

theorem projectState_of_waits {dispatch : Option SchedulerStatus}
    (h : (projectState state dispatch task).waits) :
    projectState state dispatch task = dispatchedState state dispatch := by
  rw [projectState, taskProjection] at h ⊢
  split at h
  · exact absurd h Bool.false_ne_true
  · split at h
    · exact absurd h Bool.false_ne_true
    · next hdone hdoing => rw [if_neg hdone, if_neg hdoing, Option.getD_none]

theorem showsPhase_of_waits {status : SchedulerStatus}
    (h : (projectState state (some status) task).waits) :
    ShowsPhase (projectState state (some status) task) status := by
  have hdispatch := projectState_of_waits h
  rw [hdispatch] at h ⊢
  revert h
  cases state <;> cases status <;> decide

theorem ShowsPhase.of_waits {status : SchedulerStatus} (h : ShowsPhase state status)
    (hwaits : state.waits) (hlater : later = .queued ∨ later = .pendingDependencies) :
    ShowsPhase later status := by
  intro phase hphase
  rw [← h phase hphase]
  obtain rfl | rfl := hlater <;> revert hphase hwaits <;> cases phase <;> cases state <;> decide

theorem evaluateGraph_shows (h : (db.graphs.get? graphId).isSome) :
    ShowsDispatches graphId db ((evaluateGraph sha256Hex graphId).run db).2 ↔
      LetsThrough graphId db := by
  obtain ⟨graph, hgraph⟩ := Option.isSome_iff_exists.1 h
  have hsettled := evaluateGraph_settled sha256Hex hgraph
  have hstatus : ∀ node : NodeRow, ((evaluateGraph sha256Hex graphId).run db).2.dispatchStatus
      node = db.dispatchStatus node := by
    intro node
    rw [GraphDb.dispatchStatus, GraphDb.dispatchStatus, GraphDb.dispatchOf, GraphDb.dispatchOf,
      (run_inputs _ db).2]
  have hafter : ∀ node ∈ db.nodesOf graphId, ∀ status, db.dispatchStatus node = some status →
      ∃ state, ((evaluateGraph sha256Hex graphId).run db).2.stateOf node.nodeId = some state ∧
        (state = projectState node.state (some status) (db.taskOf node) ∨
          (projectState node.state (some status) (db.taskOf node)).waits ∧
            (state = .queued ∨ state = .pendingDependencies)) := by
    intro node hnode status hdispatch
    have hinfo : (db.infoOf (db.tasksOf graphId) node).node ∈
        (db.infosOf graphId).map (·.node) := List.mem_map_of_mem (List.mem_map_of_mem hnode)
    obtain ⟨state, hstate, hkept⟩ := hsettled _ hinfo
    rw [GraphDb.infoOf, taskStatus_tasksOf hnode, hdispatch] at hkept
    exact ⟨state, hstate, hkept⟩
  constructor
  · intro hshows node hnode status hdispatch
    obtain ⟨state, hstate, hkept⟩ := hafter node hnode status hdispatch
    rw [← showsPhase_projectState]
    cases hwaits : (projectState node.state (some status) (db.taskOf node)).waits with
    | true => exact showsPhase_of_waits hwaits
    | false =>
      have heq : state = projectState node.state (some status) (db.taskOf node) :=
        hkept.resolve_right fun hlater => by simp [hwaits] at hlater
      subst heq
      exact hshows node hnode status _ ((hstatus node).trans hdispatch) hstate hwaits
  · intro hlets node hnode status state hdispatch hstate hreleased
    rw [hstatus] at hdispatch
    obtain ⟨kept, hkept, hcases⟩ := hafter node hnode status hdispatch
    obtain rfl : kept = state := Option.some.inj (hkept.symm.trans hstate)
    have hshows := (showsPhase_projectState _ _ _).2 (hlets node hnode status hdispatch)
    obtain rfl | ⟨hwaits, hlater⟩ := hcases
    · exact hshows
    · exact hshows.of_waits hwaits hlater

def EachCallShows (events : List GraphEvent) (db : GraphDb) : Prop :=
  ∀ graphId before, Called sha256Hex events db graphId before →
    ShowsDispatches graphId before (GraphEvent.step sha256Hex before (.evaluate graphId))

end

theorem eachCallShows_iff (sha256Hex : String → String) (events : List GraphEvent) (db : GraphDb) :
    EachCallShows sha256Hex events db ↔
      ∀ graphId before, Called sha256Hex events db graphId before → LetsThrough graphId before := by
  have hcall : ∀ graphId before, Called sha256Hex events db graphId before →
      (ShowsDispatches graphId before (GraphEvent.step sha256Hex before (.evaluate graphId)) ↔
        LetsThrough graphId before) := by
    rintro graphId before ⟨past, future, -, -, hgraph⟩
    exact evaluateGraph_shows sha256Hex hgraph
  exact forall_congr' fun graphId => forall_congr' fun before =>
    forall_congr' fun h => hcall graphId before h

def releasedNode : GraphDb where
  graphs := .ofRows [⟨"g", .active, 1⟩]
  nodes := .ofRows [⟨"n", "g", "build", .dispatch, some "d", none, .queued, none⟩]
  edges := []
  decisions := .ofRows []
  dispatches := Dict.empty.set "d" ⟨.inFlight, none⟩
  tasks := .empty

def pauseAndResume : List GraphEvent :=
  [.evaluate "g", .dispatch "d" ⟨.needsClarification, some "which?"⟩, .evaluate "g",
    .dispatch "d" ⟨.inFlight, none⟩, .evaluate "g"]

theorem resumed_not_shown : ¬ EachCallShows id pauseAndResume releasedNode := by
  intro hshows
  have hcalled : Called id pauseAndResume releasedNode "g"
      (runGraph id (pauseAndResume.take 4) releasedNode) :=
    ⟨_, [], rfl, rfl, by decide +kernel⟩
  have hnodes : (runGraph id (pauseAndResume.take 4) releasedNode).nodesOf "g" =
      [⟨"n", "g", "build", .dispatch, some "d", none, .needsClarification, some
        ⟨.blockedOnChris, some "n", some "d", some "which?"⟩⟩] := by decide +kernel
  have hphase := hshows "g" _ hcalled _ (hnodes ▸ List.mem_singleton_self _) .inFlight
    .needsClarification (by decide +kernel) (by decide +kernel) rfl
  exact absurd hphase (by decide)

end IdAgents.Graph
