import IdAgents.Graph.History

namespace IdAgents.Graph
open JsMap KeyedTable AtomicProgram Program List GraphDb String

def isHexDigit (c : Char) : Bool := c.isDigit || ('a' ≤ c && c ≤ 'f')

/-- What `digest('hex')` returns for a digest of 32 bytes. -/
def IsHexDigest (text : String) : Prop := text.length = 64 ∧ text.toList.all isHexDigit

def idempotencyKey (graphId nodeId revision : String) : String :=
  graphId ++ ":" ++ nodeId ++ ":" ++ revision

theorem sliceChars_of_bmp (n : Nat) {cs : List Char} (h : ∀ c ∈ cs, c.toNat < 0x10000) :
    JsText.sliceChars n cs = cs.take n := by
  induction cs generalizing n with
  | nil => cases n with
    | zero => rfl
    | succ n => cases n <;> rfl
  | cons c cs ih =>
    have hc := h c (by simp)
    cases n with
    | zero => rfl
    | succ n => cases n with
      | zero => simp [JsText.sliceChars, hc]
      | succ n =>
        rw [JsText.sliceChars, if_pos hc, ih _ fun d hd => h d (by simp [hd])]
        rfl

theorem toNat_lt_of_isHexDigit {c : Char} (h : isHexDigit c) : c.toNat < 0x10000 := by
  have hle : c ≤ 'f' := by
    simp only [isHexDigit, Char.isDigit, Bool.or_eq_true, Bool.and_eq_true, decide_eq_true_eq] at h
    obtain h | h := h
    · exact Char.le_trans (show c ≤ '9' from h.2) (by decide)
    · exact h.2
  exact Nat.lt_of_le_of_lt (UInt32.le_iff_toNat_le.1 hle) (by decide)

theorem length_sliceUnits {text : String} (h : IsHexDigest text) :
    (JsText.sliceUnits 16 text).length = 16 := by
  have hbmp : ∀ c ∈ text.toList, c.toNat < 0x10000 := fun c hc =>
    toNat_lt_of_isHexDigit (all_eq_true.1 h.2 c hc)
  rw [JsText.sliceUnits, sliceChars_of_bmp 16 hbmp, length_ofList, length_take,
    length_toList, h.1]
  rfl

theorem idempotencyKey_inj {a b r s : String} (hlength : r.length = s.length)
    (h : idempotencyKey graphId a r = idempotencyKey graphId b s) : a = b := by
  have hlists : (graphId ++ ":" ++ a ++ ":").toList ++ r.toList =
      (graphId ++ ":" ++ b ++ ":").toList ++ s.toList := by
    rw [← toList_append, ← toList_append]
    exact congrArg toList h
  have hfront := (append_inj' hlists (by simpa [length_toList] using hlength)).1
  apply toList_injective
  simpa using hfront

section
variable (sha256Hex : String → String)

namespace GraphDb
variable (db : GraphDb) (graphId : String) (node : NodeRow)

def readiness : Except String ReadinessResult :=
  evaluateNodeReadiness node (db.incomingEdges node.nodeId) (upstreamMap (db.infosOf graphId))
    (db.tasksOf graphId)

def revisionOf : String :=
  inputRevision sha256Hex node.nodeId (db.incomingEdges node.nodeId)
    (upstreamMap (db.infosOf graphId)) (db.tasksOf graphId)

def keyOf : String := idempotencyKey graphId node.nodeId (db.revisionOf sha256Hex graphId node)

/-- A call gets to `node`, which waits, and finds it ready: it has thrown at none before it. -/
def FindsReady : Prop :=
  ∃ earlier later, (db.infosOf graphId).map (·.node) = earlier ++ node :: later ∧
    (∀ other ∈ earlier, other.state.waits → ∃ verdict, db.readiness graphId other = .ok verdict) ∧
    node.state.waits ∧ ∃ reason, db.readiness graphId node = .ok (.ready reason)

end GraphDb

def ReleasesReady (graphId : String) (db after : GraphDb) : Prop :=
  ∀ node, db.FindsReady graphId node → after.stateOf node.nodeId = some .queued

def KeysFree (graphId : String) (db : GraphDb) : Prop :=
  ∀ node, db.FindsReady graphId node →
    db.decisions.get? (db.keyOf sha256Hex graphId node) = none

/-- A statement writes of no other nodes than `nodes`, neither state nor decision. -/
def About (graphId : String) (nodes : List NodeRow) : Stmt → Prop
  | .updateNodeState nodeId _ _ => ∃ node ∈ nodes, node.nodeId = nodeId
  | .appendDecision row => ∃ node ∈ nodes, ∃ revision : String, revision.length = 16 ∧
      row.idempotencyKey = idempotencyKey graphId node.nodeId revision
  | _ => True

structure SameNode (graphId nodeId revision : String) (db db' : GraphDb) : Prop where
  state : db'.stateOf nodeId = db.stateOf nodeId
  decision : db'.decisions.get? (idempotencyKey graphId nodeId revision) =
    db.decisions.get? (idempotencyKey graphId nodeId revision)

variable {nodes : List NodeRow} {revision : String}

theorem About.sameNode {c : Stmt} (h : About graphId nodes c)
    (hnode : nodeId ∉ nodes.map (·.nodeId)) (hlength : revision.length = 16)
    (db : GraphDb) : SameNode graphId nodeId revision db (c.effect db) := by
  cases c with
  | updateNodeState id state blocker =>
    obtain ⟨node, hmem, rfl⟩ := h
    have hne : nodeId ≠ node.nodeId := fun heq => hnode (heq ▸ mem_map_of_mem hmem)
    exact ⟨by rw [stateOf_setNode, if_neg hne], rfl⟩
  | appendDecision row =>
    obtain ⟨node, hmem, other, hother, hkey⟩ := h
    refine ⟨rfl, Table.get?_insert_ne ?_⟩
    intro heq
    have hid := idempotencyKey_inj (hother.trans hlength.symm) (hkey.symm.trans heq)
    exact hnode (hid ▸ mem_map_of_mem hmem)
  | _ => exact ⟨rfl, rfl⟩

theorem sameNode_run {p : Prog α}
    (h : p.Meets (About graphId nodes) fun _ => True) (hnode : nodeId ∉ nodes.map (·.nodeId))
    (hlength : revision.length = 16) (db : GraphDb) :
    SameNode graphId nodeId revision db (p.run db).2 := by
  apply (p.run_chain db).related
  · exact fun db => ⟨rfl, rfl⟩
  · exact fun a b c hab hbc =>
      ⟨hbc.state.trans hab.state, hbc.decision.trans hab.decision⟩
  · exact fun e he => (h.trace db e he).sameNode hnode hlength e.before

variable {node : NodeRow}

theorem recordVerdict_about (hnode : node ∈ nodes) (hlength : revision.length = 16)
    (result : EvaluateGraphResult) (readiness : ReadinessResult) :
    (recordVerdict (decisionRow graphId node.nodeId revision) result node.nodeId readiness).Meets
      (About graphId nodes) fun _ => True := by
  have happend : ∃ n ∈ nodes, ∃ r : String, r.length = 16 ∧
      idempotencyKey graphId node.nodeId revision = idempotencyKey graphId n.nodeId r :=
    ⟨node, hnode, revision, hlength, rfl⟩
  have hwrite : ∃ n ∈ nodes, n.nodeId = node.nodeId := ⟨node, hnode, rfl⟩
  cases readiness with
  | ready reason =>
    constructor
    · exact happend
    · intro appended
      cases appended with
      | true => exact ⟨hwrite, fun _ => trivial⟩
      | false => trivial
  | blocked reason blocker => exact ⟨happend, fun _ => ⟨hwrite, fun _ => trivial⟩⟩
  | notReady reason => exact ⟨happend, fun _ => trivial⟩

variable {sha256Hex}

theorem decideNode_about (hsha : ∀ text, IsHexDigest (sha256Hex text)) (hnode : node ∈ nodes)
    (upstreams : UpstreamMap) (tasks : TaskStatusMap) (result : EvaluateGraphResult) :
    (decideNode sha256Hex graphId upstreams tasks result node).Meets (About graphId nodes)
      fun _ => True := by
  rw [decideNode]
  split
  · trivial
  · constructor
    · trivial
    · intro incoming
      change ((returned (evaluateNodeReadiness node incoming upstreams tasks)).bind
        (recordVerdict _ result node.nodeId)).Meets _ _
      cases evaluateNodeReadiness node incoming upstreams tasks with
      | error e => trivial
      | ok verdict => exact recordVerdict_about hnode (length_sliceUnits (hsha _)) result verdict

theorem insertRefused_iff {t : Table DecisionRow} {row : DecisionRow} :
    t.insertRefused row = false ↔ t.get? row.idempotencyKey = none := by
  cases h : t.insertRefused row with
  | true =>
    have htaken := Table.isSome_of_refused (fun _ => rfl) h
    have hne : t.get? row.idempotencyKey ≠ none := by
      intro hnone
      rw [show Schema.key row = row.idempotencyKey from rfl, hnone] at htaken
      exact Bool.false_ne_true htaken
    simp [hne]
  | false => simp [show t.get? row.idempotencyKey = none from (Table.get?_insert_self h).1]

theorem waits_iff {state : NodeState} :
    state.waits ↔ ¬ (state ≠ .pendingDependencies ∧ state ≠ .ready) := by
  cases state <;> decide

variable {db : GraphDb}

theorem decideNode_run (sha256Hex : String → String)
    (hwaits : node.state.waits) {upstreams : UpstreamMap} {tasks : TaskStatusMap}
    (h : evaluateNodeReadiness node (db.incomingEdges node.nodeId) upstreams tasks = .ok verdict)
    (graphId : String) (result : EvaluateGraphResult) :
    (decideNode sha256Hex graphId upstreams tasks result node).run db =
      (recordVerdict (decisionRow graphId node.nodeId (inputRevision sha256Hex node.nodeId
        (db.incomingEdges node.nodeId) upstreams tasks)) result node.nodeId verdict).run db := by
  rw [decideNode, if_neg (waits_iff.1 hwaits)]
  change ((returned (evaluateNodeReadiness node (db.incomingEdges node.nodeId) upstreams
    tasks)).bind (recordVerdict _ result node.nodeId)).run db = _
  rw [h]
  rfl

variable (row : DecisionResult → String → DecisionRow)

variable (result : EvaluateGraphResult)

theorem recordVerdict_ready_run (nodeId reason : String) (db : GraphDb) :
    (recordVerdict row result nodeId (.ready reason)).run db =
      if db.decisions.insertRefused (row .queued reason) then
        (.ok (result.add nodeId .queued reason false),
          Stmt.effect (.appendDecision (row .queued reason)) db)
      else (.ok (result.add nodeId .queued reason true),
        Stmt.effect (.updateNodeState nodeId .queued none)
          (Stmt.effect (.appendDecision (row .queued reason)) db)) := by
  change Program.run (if (!db.decisions.insertRefused (row .queued reason)) = true
    then Program.issue _ _ else Program.ret _) _ = _
  cases db.decisions.insertRefused (row .queued reason) <;> rfl

theorem recordVerdict_returns (nodeId : String) (verdict : ReadinessResult) (db : GraphDb) :
    ∃ result' db', (recordVerdict row result nodeId verdict).run db = (.ok result', db') := by
  cases verdict with
  | ready reason =>
    rw [recordVerdict_ready_run]
    split <;> exact ⟨_, _, rfl⟩
  | blocked reason blocker => exact ⟨_, _, rfl⟩
  | notReady reason => exact ⟨_, _, rfl⟩

theorem recordVerdict_ready (hstored : db.stateOf nodeId = some state)
    (hwaits : state.waits) (reason : String) :
    ((recordVerdict row result nodeId (.ready reason)).run db).2.stateOf nodeId = some .queued ↔
      db.decisions.get? (row .queued reason).idempotencyKey = none := by
  have happended : (Stmt.effect (.appendDecision (row .queued reason)) db).stateOf nodeId =
      some state := hstored
  rw [← insertRefused_iff, recordVerdict_ready_run]
  cases db.decisions.insertRefused (row .queued reason) with
  | true =>
    have hne : state ≠ .queued := by
      rintro rfl
      exact Bool.false_ne_true hwaits
    simp [happended, hne]
  | false =>
    simp [stateOf_setNode, happended]

theorem decideNodes_returns (sha256Hex : String → String) (graphId : String)
    (upstreams : UpstreamMap) (tasks : TaskStatusMap)
    (h : ∀ node ∈ nodes, node.state.waits → ∃ verdict,
      evaluateNodeReadiness node (db.incomingEdges node.nodeId) upstreams tasks = .ok verdict)
    (result : EvaluateGraphResult) : ∃ result' db', (fold nodes result
      (decideNode sha256Hex graphId upstreams tasks)).run db = (.ok result', db') := by
  induction nodes generalizing result db with
  | nil => exact ⟨_, _, rfl⟩
  | cons node nodes ih =>
    have hnode : ∃ result' db', (decideNode sha256Hex graphId upstreams tasks result node).run db =
        (.ok result', db') := by
      cases hwaits : node.state.waits with
      | true =>
        obtain ⟨verdict, hverdict⟩ := h node (by simp) hwaits
        rw [decideNode_run sha256Hex hwaits hverdict]
        exact recordVerdict_returns _ _ _ _ _
      | false =>
        have hleft : node.state ≠ .pendingDependencies ∧ node.state ≠ .ready := by
          by_contra hnot
          exact absurd (waits_iff.2 hnot) (by simp [hwaits])
        rw [decideNode, if_pos hleft]
        exact ⟨_, _, rfl⟩
    obtain ⟨result₁, db₁, hrun⟩ := hnode
    have hedges : db₁.edges = db.edges := by
      have hinputs := (run_inputs (decideNode sha256Hex graphId upstreams tasks result node) db).1
      rwa [hrun] at hinputs
    rw [fold_cons, run_bind_ok hrun]
    apply ih
    intro other hother hwaits
    rw [incomingEdges, hedges]
    exact h other (by simp [hother]) hwaits

theorem decideNodes_about (hsha : ∀ text, IsHexDigest (sha256Hex text)) (graphId : String)
    (upstreams : UpstreamMap) (tasks : TaskStatusMap) (nodes : List NodeRow)
    (result : EvaluateGraphResult) :
    (fold nodes result (decideNode sha256Hex graphId upstreams tasks)).Meets
      (About graphId nodes) fun _ => True :=
  .fold result fun result _ hnode => decideNode_about hsha hnode upstreams tasks result

theorem decideNodes_at (hsha : ∀ text, IsHexDigest (sha256Hex text)) (graphId : String)
    {upstreams : UpstreamMap} {tasks : TaskStatusMap} {earlier later : List NodeRow}
    (hearlier : ∀ other ∈ earlier, other.state.waits → ∃ verdict,
      evaluateNodeReadiness other (db.incomingEdges other.nodeId) upstreams tasks = .ok verdict)
    (hready : evaluateNodeReadiness node (db.incomingEdges node.nodeId) upstreams tasks =
      .ok (.ready reason))
    (hbefore : node.nodeId ∉ earlier.map (·.nodeId)) (hafter : node.nodeId ∉ later.map (·.nodeId))
    (hstate : db.stateOf node.nodeId = some node.state) (hwaits : node.state.waits)
    {rest : EvaluateGraphResult → Prog EvaluateGraphResult}
    (hrest : ∀ result, (rest result).Meets (About graphId later) fun _ => True)
    (result : EvaluateGraphResult) : (((fold (earlier ++ node :: later) result
        (decideNode sha256Hex graphId upstreams tasks)).bind rest).run db).2.stateOf node.nodeId =
        some .queued ↔
      db.decisions.get? (idempotencyKey graphId node.nodeId (inputRevision sha256Hex node.nodeId
        (db.incomingEdges node.nodeId) upstreams tasks)) = none := by
  have hlength : (inputRevision sha256Hex node.nodeId (db.incomingEdges node.nodeId) upstreams
      tasks).length = 16 := length_sliceUnits (hsha _)
  -- up to the node
  obtain ⟨result₁, db₁, hrun₁⟩ :=
    decideNodes_returns sha256Hex graphId upstreams tasks hearlier result
  have hsame₁ := sameNode_run (decideNodes_about hsha graphId upstreams tasks earlier result)
    hbefore hlength db
  have hedges₁ := (run_inputs (fold earlier result
    (decideNode sha256Hex graphId upstreams tasks)) db).1
  rw [hrun₁] at hsame₁ hedges₁
  have hincoming : db₁.incomingEdges node.nodeId = db.incomingEdges node.nodeId := by
    rw [incomingEdges, hedges₁, incomingEdges]
  -- at the node
  rw [← hincoming] at hready
  have hrun₂ := decideNode_run sha256Hex hwaits hready graphId result₁
  obtain ⟨result₂, db₂, hreturn⟩ := recordVerdict_returns (decisionRow graphId node.nodeId
    (inputRevision sha256Hex node.nodeId (db₁.incomingEdges node.nodeId) upstreams tasks)) result₁
    node.nodeId (.ready reason) db₁
  have hqueued := recordVerdict_ready (decisionRow graphId node.nodeId
    (inputRevision sha256Hex node.nodeId (db₁.incomingEdges node.nodeId) upstreams tasks)) result₁
    (hsame₁.state.trans hstate) hwaits reason
  rw [hreturn] at hrun₂ hqueued
  -- after the node
  have hsame₃ := sameNode_run ((decideNodes_about hsha graphId upstreams tasks later
    result₂).bind fun result _ => hrest result) hafter hlength db₂
  rw [fold_append, bind_assoc, run_bind_ok hrun₁, fold_cons,
    bind_assoc, run_bind_ok hrun₂, hsame₃.state, hqueued, ← hsame₁.decision,
    hincoming]
  rfl

theorem evaluateGraph_releases (hsha : ∀ text, IsHexDigest (sha256Hex text))
    (hgraph : (db.graphs.get? graphId).isSome) (h : db.FindsReady graphId node) :
    ((evaluateGraph sha256Hex graphId).run db).2.stateOf node.nodeId = some .queued ↔
      db.decisions.get? (db.keyOf sha256Hex graphId node) = none := by
  obtain ⟨graph, hgraph⟩ := Option.isSome_iff_exists.1 hgraph
  obtain rfl : graph.graphId = graphId := (Table.get?_some hgraph).2
  obtain ⟨earlier, later, hnodes, hearlier, hwaits, reason, hready⟩ := h
  obtain ⟨mid, hrun, hsame, hstored⟩ := evaluateGraph_run sha256Hex hgraph
  have hnodup := infosOf_nodup db graph.graphId
  rw [hnodes, map_append, map_cons, nodup_append, nodup_cons] at hnodup
  have hincoming : ∀ nodeId, db.incomingEdges nodeId = mid.incomingEdges nodeId := by
    intro nodeId
    rw [incomingEdges, incomingEdges, hsame.edges]
  have hstate : mid.stateOf node.nodeId = some node.state := by
    have hmem : node ∈ (db.infosOf graph.graphId).map (·.node) := by simp [hnodes]
    obtain ⟨info, hinfo, rfl⟩ := mem_map.1 hmem
    exact hstored info hinfo
  simp only [readiness, hincoming] at hearlier hready
  rw [hrun, decideNodes, hnodes, keyOf, revisionOf, hincoming, ← hsame.decisions]
  exact decideNodes_at hsha graph.graphId hearlier hready
    (fun hmem => hnodup.2.2 _ hmem _ mem_cons_self rfl) hnodup.2.1.1 hstate hwaits
    (refreshStatus_meets (fun _ => trivial) (fun _ _ => trivial) graph) _

def EachCallReleases (sha256Hex : String → String) (events : List GraphEvent) (db : GraphDb) :
    Prop :=
  ∀ graphId before, Called sha256Hex events db graphId before →
    ReleasesReady graphId before (GraphEvent.step sha256Hex before (.evaluate graphId))

end

/-- The digest of `n:`, what the revision of the one node below is cut from. -/
def soleDigest : String → String :=
  fun _ => "1f8dc03d51e3ddcc59b608508bba5c34aecac15f1b250390a629a4231ad80a9a"

def soleNode : GraphDb where
  graphs := .ofRows [⟨"g", .active, 1⟩]
  nodes := .ofRows [⟨"n", "g", "build", .dispatch, none, none, .pendingDependencies, none⟩]
  edges := []
  decisions := .ofRows []
  dispatches := .empty
  tasks := .empty

/-- The digest of `b:a:done:unknown`, what the revisions of the node `b` below are cut from. -/
def approvalDigest : String → String :=
  fun _ => "e99b4ba29dd5a1d7002d422bec17b1dbf23a9ea34a3db6c712c0175ab01527fd"

/-- The edge from `a` to `b` waits for the approval `c`. -/
def approvalGraph : GraphDb where
  graphs := .ofRows [⟨"g", .active, 1⟩]
  nodes := .ofRows [⟨"a", "g", "plan", .dispatch, none, none, .done, none⟩,
    ⟨"b", "g", "build", .dispatch, none, none, .pendingDependencies, none⟩,
    ⟨"c", "g", "go", .approval, none, none, .queued, none⟩]
  edges := [⟨"g", "a", "b", some (.operatorApproval "c")⟩]
  decisions := .ofRows []
  dispatches := .empty
  tasks := .empty

def approveBetween : List GraphEvent :=
  [.evaluate "g", .write (.updateNodeState "c" .done none), .evaluate "g"]

end IdAgents.Graph
