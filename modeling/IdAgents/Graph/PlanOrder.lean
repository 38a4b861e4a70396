import Mathlib.Order.WellFoundedSet
import IdAgents.Graph.Plan
import IdAgents.Library.Regex

namespace IdAgents.Graph
open JsMap JsRegex

section
variable (nodes : List DispatchPlanNodeInput)

/-- `detectCycle`: the loop of `topoSort`, of which only the number of nodes reached is kept. -/
def detectCycle : Except String Bool :=
  (dependencies nodes).map fun deps => (topoOrder nodes deps).length ≠ nodes.length

/-- The node `id` waits on the node `upstream`. -/
def WaitsOn (id upstream : String) : Prop :=
  ∃ node ∈ nodes, node.clientNodeId = id ∧ upstream ∈ node.waitsOn.getD []

def Acyclic : Prop :=
  ∀ id, ¬ Relation.TransGen (WaitsOn nodes) id id

end

/-- The ids of the nodes are distinct, and they wait on nodes of the list. -/
structure Plausible (nodes : List DispatchPlanNodeInput) : Prop where
  nodup : (nodes.map (·.clientNodeId)).Nodup
  known : ∀ id upstream, WaitsOn nodes id upstream → upstream ∈ nodes.map (·.clientNodeId)

/-- Every node comes after all the nodes it waits on. -/
def Ordered (sorted : List DispatchPlanNodeInput) : Prop :=
  ∀ before node after, sorted = before ++ node :: after →
    ∀ upstream ∈ node.waitsOn.getD [], upstream ∈ before.map (·.clientNodeId)

section
variable (nodes : List DispatchPlanNodeInput)

def edges : List (String × String) :=
  nodes.flatMap fun node => (node.waitsOn.getD []).map (node.clientNodeId, ·)

theorem mem_edges {nodes : List DispatchPlanNodeInput} {id upstream : String} :
    (id, upstream) ∈ edges nodes ↔ WaitsOn nodes id upstream := by
  simp only [edges, WaitsOn, List.mem_flatMap, List.mem_map, Prod.mk.injEq]
  constructor
  · rintro ⟨node, hnode, _, hup, rfl, rfl⟩
    exact ⟨node, hnode, rfl, hup⟩
  · rintro ⟨node, hnode, rfl, hup⟩
    exact ⟨node, hnode, _, hup, rfl, rfl⟩

theorem foldlM_addWaits (deps : Dependencies) : nodes.foldlM Dependencies.addWaits deps =
      (edges nodes).foldlM (fun deps e => deps.addWait e.1 e.2) deps := by
  induction nodes generalizing deps with
  | nil => rfl
  | cons node nodes ih =>
    rw [edges, List.flatMap_cons, List.foldlM_append, List.foldlM_map, List.foldlM_cons]
    exact congrArg _ (funext ih)

/-- What the maps hold of the ids once some edges are entered. -/
structure Dependencies.Enters (ids : List String) (es : List (String × String))
    (deps : Dependencies) : Prop where
  indegree : ∀ id ∈ ids, deps.indegree.get? id = some (es.countP (·.1 = id) : Int)
  adj : ∀ id ∈ ids, deps.adj.get? id = some ((es.filter (·.2 = id)).map (·.1))

theorem enters_nodes :
    (nodes.foldl Dependencies.addNode ⟨.empty, .empty⟩).Enters (nodes.map (·.clientNodeId)) [] := by
  induction nodes using List.reverseRecOn with
  | nil => exact ⟨nofun, nofun⟩
  | append_singleton nodes node ih =>
    rw [List.foldl_append, List.map_append]
    constructor
    · intro id hid
      change Dict.get? (Dict.set _ _ _) _ = _
      rw [Dict.get?_set]
      split
      · rfl
      · next hne => exact ih.indegree id (by simpa [hne] using hid)
    · intro id hid
      change Dict.get? (Dict.set _ _ _) _ = _
      rw [Dict.get?_set]
      split
      · rfl
      · next hne => exact ih.adj id (by simpa [hne] using hid)

end

variable {ids : List String}

theorem enters_edges (es : List (String × String)) {deps : Dependencies}
    (h : deps.Enters ids done) (hes : ∀ e ∈ es, e.1 ∈ ids ∧ e.2 ∈ ids) :
    ∃ deps', es.foldlM (fun deps e => deps.addWait e.1 e.2) deps = .ok deps' ∧
      deps'.Enters ids (done ++ es) := by
  induction es generalizing done deps with
  | nil => exact ⟨deps, rfl, by rwa [List.append_nil]⟩
  | cons e es ih =>
    obtain ⟨hdown, hup⟩ := hes e List.mem_cons_self
    have hstep : deps.addWait e.1 e.2 = .ok
        ⟨deps.adj.set e.2 ((done.filter (·.2 = e.2)).map (·.1) ++ [e.1]),
          deps.indegree.set e.1 ((done.countP (·.1 = e.1) : Int) + 1)⟩ := by
      rw [Dependencies.addWait, h.adj e.2 hup, h.indegree e.1 hdown]
      rfl
    have henters : Dependencies.Enters ids (done ++ [e])
        ⟨deps.adj.set e.2 ((done.filter (·.2 = e.2)).map (·.1) ++ [e.1]),
          deps.indegree.set e.1 ((done.countP (·.1 = e.1) : Int) + 1)⟩ := by
      constructor
      · intro id hid
        rw [Dict.get?_set, List.countP_append, List.countP_singleton]
        by_cases heq : id = e.1
        · subst heq
          simp
        · rw [if_neg heq, h.indegree id hid, if_neg (by simpa using Ne.symm heq), Nat.add_zero]
      · intro id hid
        rw [Dict.get?_set, List.filter_append, List.map_append]
        by_cases heq : id = e.2
        · subst heq
          simp
        · rw [if_neg heq, h.adj id hid]
          simp [Ne.symm heq]
    obtain ⟨deps', hrun, hdeps'⟩ := ih henters fun f hf => hes f (List.mem_cons_of_mem _ hf)
    rw [List.foldlM_cons, hstep]
    rw [List.append_assoc] at hdeps'
    exact ⟨deps', hrun, hdeps'⟩

theorem Plausible.dependencies {nodes : List DispatchPlanNodeInput} (h : Plausible nodes) :
    ∃ deps, dependencies nodes = .ok deps ∧
      deps.Enters (nodes.map (·.clientNodeId)) (edges nodes) := by
  rw [Graph.dependencies, foldlM_addWaits]
  apply enters_edges _ (enters_nodes nodes)
  rintro ⟨id, upstream⟩ he
  obtain ⟨node, hnode, rfl, hup⟩ := mem_edges.mp he
  exact ⟨List.mem_map_of_mem hnode, h.known _ _ ⟨node, hnode, rfl, hup⟩⟩

/-- The indegrees are what is left of them, and the nodes sorted or queued are those with nothing
left. -/
structure Ready (ids : List String) (left : String → Nat) (state : Dict String Int × List String)
    (result : List String) : Prop where
  degree : ∀ id ∈ ids, state.1.get? id = some (left id : Int)
  ready : ∀ id ∈ ids, id ∈ result ++ state.2 ↔ left id = 0
  released : Released ids state.1 (result ++ state.2)

theorem Ready.release (h : Ready ids left state result) (hnext : next ∈ ids)
    (hleft : 0 < left next) :
    Ready ids (fun id => left id - if id = next then 1 else 0) (release state next) result := by
  obtain ⟨indegree, queue⟩ := state
  refine ⟨?_, ?_, h.released.release next⟩
  · intro id hid
    change Dict.get? (Dict.set _ _ _) _ = _
    rw [Dict.get?_set, h.degree next hnext, Option.getD_some]
    split
    · next heq =>
      subst heq
      congr 1
      omega
    · rw [Nat.sub_zero]
      exact h.degree id hid
  · intro id hid
    change id ∈ result ++
      (if (indegree.get? next).getD 0 - 1 = 0 then queue ++ [next] else queue) ↔ _
    rw [h.degree next hnext, Option.getD_some]
    have hready : id ∈ result ++ queue ↔ left id = 0 := h.ready id hid
    by_cases heq : id = next
    · subst heq
      rw [if_pos rfl]
      split
      · simp
        omega
      · rw [hready]
        omega
    · rw [if_neg heq, Nat.sub_zero, ← hready]
      split <;> simp [heq]

theorem Ready.releaseAll (waiting : List String)
    (h : Ready ids left state result) (hwaiting : waiting ⊆ ids)
    (hleft : ∀ id, waiting.count id ≤ left id) :
    Ready ids (fun id => left id - waiting.count id) (waiting.foldl Graph.release state)
      result := by
  induction waiting generalizing left state with
  | nil => simpa using h
  | cons next waiting ih =>
    rw [List.cons_subset] at hwaiting
    have hcount (id : String) : (next :: waiting).count id =
        waiting.count id + if id = next then 1 else 0 := by
      rw [List.count_cons]
      by_cases heq : id = next
      · simp [heq]
      · simp [heq, Ne.symm heq]
    have hpos : 0 < left next := by
      have := hleft next
      rw [hcount, if_pos rfl] at this
      omega
    have hrest := ih (h.release hwaiting.1 hpos) hwaiting.2 (by
      intro id
      have := hleft id
      rw [hcount] at this
      omega)
    have hsame : (fun id => left id - (next :: waiting).count id) =
        fun id => left id - (if id = next then 1 else 0) - waiting.count id := by
      funext id
      rw [hcount]
      omega
    rw [hsame]
    exact hrest

/-- The edges of a node to nodes that are not sorted. -/
def unsorted (es : List (String × String)) (result : List String) (id : String) : Nat :=
  es.countP fun e => e.1 = id && !result.contains e.2

theorem unsorted_concat (hcur : cur ∉ result) (id : String) :
    unsorted es result id - ((es.filter (·.2 = cur)).map (·.1)).count id =
        unsorted es (result ++ [cur]) id ∧
      ((es.filter (·.2 = cur)).map (·.1)).count id ≤ unsorted es result id := by
  have hsum : unsorted es result id =
      unsorted es (result ++ [cur]) id + ((es.filter (·.2 = cur)).map (·.1)).count id := by
    induction es with
    | nil => rfl
    | cons e es ih =>
      simp only [unsorted, List.countP_cons, List.filter_cons] at ih ⊢
      by_cases hid : e.1 = id <;> by_cases hup : e.2 = cur <;> by_cases hmem : e.2 ∈ result <;>
        simp_all <;> omega
  omega

/-- A list in which every node comes after those it has edges to. -/
def Sorted (es : List (String × String)) (result : List String) : Prop :=
  ∀ before id after, result = before ++ id :: after → ∀ e ∈ es, e.1 = id → e.2 ∈ before

theorem Sorted.concat (h : Sorted es result) (hcur : unsorted es result cur = 0) :
    Sorted es (result ++ [cur]) := by
  intro before id after hsplit e he hid
  rcases List.eq_nil_or_concat after with rfl | ⟨after, last, rfl⟩
  · obtain ⟨rfl, heq⟩ := List.append_inj' hsplit rfl
    obtain rfl : cur = id := by simpa using heq
    have hnone := List.countP_eq_zero.mp hcur e he
    simpa [hid] using hnone
  · rw [List.concat_eq_append, ← List.cons_append, ← List.append_assoc] at hsplit
    exact h before id after (List.append_inj' hsplit rfl).1 e he hid

/-- The end of the loop: no node is left that waits on sorted nodes only. -/
structure Finished (ids : List String) (es : List (String × String)) (result : List String) :
    Prop where
  nodup : result.Nodup
  known : result ⊆ ids
  sorted : Sorted es result
  finished : ∀ id ∈ ids, id ∈ result ↔ unsorted es result id = 0

theorem Ready.finished (h : Ready ids (unsorted es result) state result)
    (hsorted : Sorted es result) (hqueue : state.2 = []) : Finished ids es result := by
  obtain ⟨_, hready, hreleased⟩ := h
  rw [hqueue, List.append_nil] at hreleased hready
  exact ⟨hreleased.nodup, hreleased.known, hsorted, hready⟩

theorem Ready.drain (adj : Dict String (List String))
    (hadj : ∀ id ∈ ids, adj.get? id = some ((es.filter (·.2 = id)).map (·.1)))
    (hes : ∀ e ∈ es, e.1 ∈ ids) (fuel : Nat) (h : Ready ids (unsorted es result) state result)
    (hsorted : Sorted es result) (hfuel : ids.length ≤ result.length + fuel) :
    Finished ids es (Graph.drain adj fuel state result) := by
  induction fuel generalizing state result with
  | zero =>
    -- as many nodes are sorted as there are
    have hlength := (h.released.nodup.subperm h.released.known).length_le
    rw [List.length_append] at hlength
    exact h.finished hsorted (List.length_eq_zero_iff.mp (by omega))
  | succ fuel ih =>
    obtain ⟨indegree, queue⟩ := state
    cases queue with
    | nil => exact h.finished hsorted rfl
    | cons cur queue =>
      have hmem : cur ∈ result ++ cur :: queue := by simp
      have hcur : cur ∈ ids := h.released.known cur hmem
      have hfresh : cur ∉ result := fun hin =>
        (List.nodup_append.mp h.released.nodup).2.2 cur hin cur List.mem_cons_self rfl
      have hpopped : Ready ids (unsorted es result) (indegree, queue) (result ++ [cur]) := by
        refine ⟨h.degree, ?_, ?_⟩
        · intro id hid
          rw [← h.ready id hid, List.append_assoc]
          rfl
        · rw [List.append_assoc]
          exact h.released
      have hnext := hpopped.releaseAll ((es.filter (·.2 = cur)).map (·.1)) (by
        intro id hid
        obtain ⟨e, he, rfl⟩ := List.mem_map.mp hid
        exact hes e (List.mem_filter.mp he).1) fun id => (unsorted_concat hfresh id).2
      have hconcat (id : String) := (@unsorted_concat _ _ es hfresh id).1
      rw [funext hconcat] at hnext
      rw [Graph.drain, hadj cur hcur, Option.getD_some]
      apply ih hnext (hsorted.concat ((h.ready cur hcur).mp hmem))
      rw [List.length_append, List.length_singleton]
      omega

theorem Plausible.topoOrder (h : Plausible nodes) : ∃ deps, Graph.dependencies nodes = .ok deps ∧
      Finished (nodes.map (·.clientNodeId)) (edges nodes) (Graph.topoOrder nodes deps) := by
  obtain ⟨deps, hdeps, henters⟩ := h.dependencies
  refine ⟨deps, hdeps, ?_⟩
  have hunsorted (id : String) :
      unsorted (edges nodes) [] id = (edges nodes).countP (·.1 = id) := by simp [unsorted]
  have hstart : Ready (nodes.map (·.clientNodeId)) (unsorted (edges nodes) [])
      (deps.indegree, roots deps.indegree) [] := by
    refine ⟨fun id hid => hunsorted id ▸ henters.indegree id hid, ?_,
      roots_released (dependencies_counts hdeps)⟩
    intro id hid
    have hdegree := henters.indegree id hid
    rw [hunsorted]
    constructor
    · intro hroot
      obtain ⟨⟨_, d⟩, hentry, rfl⟩ := List.mem_map.mp hroot
      obtain ⟨hmem, hzero⟩ := List.mem_filter.mp hentry
      obtain rfl : d = 0 := of_decide_eq_true hzero
      rw [Dict.get?_of_mem hmem] at hdegree
      exact (Int.ofNat.inj (Option.some.inj hdegree)).symm
    · intro hzero
      rw [hzero] at hdegree
      exact List.mem_map.mpr ⟨_, List.mem_filter.mpr ⟨Dict.mem_of_get? hdegree, rfl⟩, rfl⟩
  apply hstart.drain deps.adj henters.adj
  · rintro ⟨id, upstream⟩ he
    obtain ⟨node, hnode, rfl, _⟩ := mem_edges.mp he
    exact List.mem_map_of_mem hnode
  · exact fun before id after hsplit => by simp at hsplit
  · simp

theorem Finished.acyclic {nodes : List DispatchPlanNodeInput} (h : Plausible nodes)
    (hdone : Finished (nodes.map (·.clientNodeId)) (edges nodes) order) :
    order.length = nodes.length ↔ Acyclic nodes := by
  have hperm : order.Subperm (nodes.map (·.clientNodeId)) := hdone.nodup.subperm hdone.known
  constructor
  · intro hlength id hcycle
    have hall : ∀ id ∈ nodes.map (·.clientNodeId), id ∈ order := fun id hid =>
      (hperm.perm_of_length_le (by rw [List.length_map, hlength])).mem_iff.mpr hid
    -- along the edges the places in the order go down
    have hdown {a b : String} (hab : Relation.TransGen (WaitsOn nodes) a b) :
        order.idxOf b < order.idxOf a := by
      have hone {a b : String} (hab : WaitsOn nodes a b) : order.idxOf b < order.idxOf a := by
        obtain ⟨node, hnode, rfl, hup⟩ := hab
        have hmem := hall _ (List.mem_map_of_mem hnode)
        obtain ⟨before, after, hsplit, hnot⟩ := List.eq_append_cons_of_mem hmem
        have hb := hdone.sorted before _ after hsplit _ (mem_edges.mpr ⟨node, hnode, rfl, hup⟩) rfl
        rw [hsplit, List.idxOf_append_of_mem hb, List.idxOf_append_of_notMem hnot,
          List.idxOf_cons_self, Nat.add_zero]
        exact List.idxOf_lt_length_of_mem hb
      induction hab with
      | single hab => exact hone hab
      | tail _ hbc ih => exact (hone hbc).trans ih
    exact lt_irrefl _ (hdown hcycle)
  · intro hacyclic
    apply le_antisymm
    · simpa using hperm.length_le
    · have hstrict : IsStrictOrder String (flip (Relation.TransGen (WaitsOn nodes))) :=
        { irrefl := hacyclic, trans := fun _ _ _ hab hbc => Relation.TransGen.trans hbc hab }
      have hwf := (nodes.map (·.clientNodeId)).finite_toSet.wellFoundedOn
        (r := flip (Relation.TransGen (WaitsOn nodes)))
      -- by induction along the edges: a node whose upstreams are sorted is sorted
      have hall : nodes.map (·.clientNodeId) ⊆ order := by
        intro id hid
        apply hwf.induction hid
        intro id hid ih
        rw [hdone.finished id hid, unsorted, List.countP_eq_zero]
        rintro ⟨down, upstream⟩ he
        simp only [Bool.and_eq_true, decide_eq_true_eq, Bool.not_eq_true', not_and]
        rintro rfl
        have hwaits := mem_edges.mp he
        simpa using ih upstream (h.known _ _ hwaits) (.single hwaits)
      simpa using (h.nodup.subperm hall).length_le

theorem byId_get? {nodes : List DispatchPlanNodeInput}
    (h : (nodes.map (·.clientNodeId)).Nodup) (hnode : node ∈ nodes) :
    (nodes.foldl (fun byId node => byId.set node.clientNodeId node)
      (Dict.empty : Dict String DispatchPlanNodeInput)).get? node.clientNodeId = some node := by
  induction nodes using List.reverseRecOn with
  | nil => cases hnode
  | append_singleton nodes last ih =>
    rw [List.foldl_append]
    change Dict.get? (Dict.set _ _ _) _ = _
    rw [Dict.get?_set]
    split
    · next heq => rw [List.inj_on_of_nodup_map h hnode (by simp) heq]
    · next hne =>
      rw [List.map_append] at h
      have hother : node ∈ nodes := by
        obtain hnode | rfl := List.mem_append.mp hnode |>.imp_right List.mem_singleton.mp
        · exact hnode
        · exact absurd rfl hne
      exact ih (List.nodup_append.mp h).1 hother

theorem Plausible.sorts {nodes : List DispatchPlanNodeInput} (h : Plausible nodes) :
    ∃ cycle sorted, detectCycle nodes = .ok cycle ∧ topoSort nodes = .ok sorted ∧
      (cycle = false ↔ Acyclic nodes) ∧ (Acyclic nodes → sorted.Perm nodes ∧ Ordered sorted) := by
  obtain ⟨deps, hdeps, hdone⟩ := h.topoOrder
  rw [detectCycle, topoSort, hdeps]
  refine ⟨_, _, rfl, rfl, by simpa using hdone.acyclic h, ?_⟩
  intro hacyclic
  set order := Graph.topoOrder nodes deps
  set byId := nodes.foldl (fun byId node => byId.set node.clientNodeId node)
    (Dict.empty : Dict String DispatchPlanNodeInput)
  have hperm : order.Perm (nodes.map (·.clientNodeId)) := by
    apply (hdone.nodup.subperm hdone.known).perm_of_length_le
    rw [List.length_map, (hdone.acyclic h).mpr hacyclic]
  have hnodes : (nodes.map (·.clientNodeId)).filterMap byId.get? = nodes := by
    rw [List.filterMap_map]
    exact (List.filterMap_congr fun node hnode => byId_get? h.nodup hnode).trans
      List.filterMap_some
  have hsorted : (order.filterMap byId.get?).Perm nodes := by
    have := hperm.filterMap byId.get?
    rwa [hnodes] at this
  refine ⟨hsorted, ?_⟩
  intro before node after hsplit upstream hup
  change order.filterMap byId.get? = before ++ node :: after at hsplit
  have hids : (order.filterMap byId.get?).map (·.clientNodeId) = order := by
    rw [List.map_filterMap]
    refine (List.filterMap_congr fun id hid => ?_).trans List.filterMap_some
    obtain ⟨node, hnode, rfl⟩ := List.mem_map.mp (hdone.known hid)
    rw [byId_get? h.nodup hnode]
    rfl
  have hnode : node ∈ nodes := hsorted.mem_iff.mp (hsplit ▸ by simp)
  rw [hsplit, List.map_append, List.map_cons] at hids
  exact hdone.sorted _ _ _ hids.symm _ (mem_edges.mpr ⟨node, hnode, rfl, hup⟩) rfl

structure PlanWait where
  clientNodeId : String
  predicate : String := "dispatch_success"
deriving DecidableEq

/-- A node of a request that is not validated; a text that is absent is empty. -/
structure PlanNode where
  clientNodeId : String
  title : String
  toAgent : String
  message : String
  repo : String := ""
  branch : String := ""
  promote : Option Bool := none
  promotionSkipReason : String := ""
  waitsOn : List PlanWait := []
deriving DecidableEq

def PlanNode.input (node : PlanNode) : DispatchPlanNodeInput :=
  ⟨node.clientNodeId, node.title, node.toAgent, node.message,
    some (node.waitsOn.map (·.clientNodeId))⟩

structure PlanRequest where
  title : String
  idempotencyKey : String
  nodes : List PlanNode

/-- `/^[a-zA-Z][a-zA-Z0-9_-]{0,63}$/` -/
def clientNodeIdRe : Regex :=
  .seq (.one Char.isAlpha) (atMost 63 (.one fun c => c.isAlphanum || c = '_' || c = '-'))

def waitError (ids : List String) (node : PlanNode) (dep : PlanWait) : Option String :=
  if !ids.contains dep.clientNodeId then
    some ("node \"" ++ node.clientNodeId ++ "\": waits_on references unknown client_node_id \"" ++
      dep.clientNodeId ++ "\"")
  else if dep.predicate ≠ "dispatch_success" then
    some ("node \"" ++ node.clientNodeId ++ "\": v0 only supports predicate \"dispatch_success\"")
  else none

/-- The errors of a node's own fields that are found before, and those found after its id is
entered. -/
def idError (node : PlanNode) : Option String :=
  if node.clientNodeId = "" then some "each node requires a client_node_id"
  else if !clientNodeIdRe.isWhole node.clientNodeId then
    some ("client_node_id \"" ++ node.clientNodeId ++
      "\" must match /^[a-zA-Z][a-zA-Z0-9_-]\x7b0,63\x7d$/")
  else none

def fieldError (node : PlanNode) : Option String :=
  let fails (text : String) := some ("node \"" ++ node.clientNodeId ++ "\": " ++ text)
  if node.title = "" then fails "title is required"
  else if node.toAgent = "" then fails "to_agent is required"
  else if node.message = "" then fails "message is required"
  else if (node.repo ≠ "" || node.branch ≠ "") && node.promote = some false &&
      node.promotionSkipReason = "" then fails "promote:false requires promotion_skip_reason"
  else none

def validateNode (ids : List String) (node : PlanNode) : Except String (List String) :=
  match idError node with
  | some error => .error error
  | none =>
    if ids.contains node.clientNodeId then
      .error ("duplicate client_node_id: \"" ++ node.clientNodeId ++ "\"")
    else match fieldError node with
    | some error => .error error
    | none =>
      match node.waitsOn.findSome? (waitError (ids ++ [node.clientNodeId]) node) with
      | some error => .error error
      | none => .ok (ids ++ [node.clientNodeId])

def headError (req : PlanRequest) : Option String :=
  if req.title = "" then some "title is required"
  else if req.idempotencyKey = "" then some "idempotency_key is required"
  else if req.nodes = [] then some "nodes[] is required and must not be empty"
  else if 5 < req.nodes.length then some "nodes[] must have at most 5 entries for v0"
  else none

/-- `.error` where the function throws, else its result. -/
def validateDispatchPlanRequest (req : PlanRequest) : Except String (Option String) :=
  match headError req with
  | some error => .ok (some error)
  | none =>
    match req.nodes.foldlM validateNode [] with
    | .error error => .ok (some error)
    | .ok _ => (detectCycle (req.nodes.map (·.input))).map fun cycle =>
      if cycle then some "nodes[] contain a dependency cycle" else none

def Accepts (req : PlanRequest) : Prop := validateDispatchPlanRequest req = .ok none

instance : Decidable (Accepts req) := inferInstanceAs (Decidable (_ = _))

def PlanNode.Waits (known : List String) (node : PlanNode) : Prop :=
  ∀ dep ∈ node.waitsOn, dep.clientNodeId ∈ known ∧ dep.predicate = "dispatch_success"

/-- Every node waits only on nodes listed before it, or on itself. -/
def Backward (nodes : List PlanNode) : Prop :=
  ∀ before node after, nodes = before ++ node :: after →
    node.Waits (before.map (·.clientNodeId) ++ [node.clientNodeId])

/-- The rules of a request that do not depend on the order of its nodes. -/
structure Acceptable (req : PlanRequest) : Prop where
  head : headError req = none
  fields : ∀ node ∈ req.nodes, idError node = none ∧ fieldError node = none
  nodup : (req.nodes.map (·.clientNodeId)).Nodup
  known : ∀ node ∈ req.nodes, node.Waits (req.nodes.map (·.clientNodeId))
  acyclic : Acyclic (req.nodes.map (·.input))

theorem waitError_none {node : PlanNode} :
    node.waitsOn.findSome? (waitError ids node) = none ↔ node.Waits ids := by
  rw [List.findSome?_eq_none_iff]
  refine forall₂_congr fun dep _ => ?_
  rw [waitError]
  by_cases hid : dep.clientNodeId ∈ ids <;> by_cases hp : dep.predicate = "dispatch_success" <;>
    simp [hid, hp]

theorem validateNode_ok {ids' : List String} {node : PlanNode} :
    validateNode ids node = .ok ids' ↔ ids' = ids ++ [node.clientNodeId] ∧
      (idError node = none ∧ fieldError node = none) ∧ node.clientNodeId ∉ ids ∧
        node.Waits (ids ++ [node.clientNodeId]) := by
  rw [validateNode, ← waitError_none]
  split
  · next h => simp [h]
  · next hid =>
    split
    · next h => simp_all
    · next hnew =>
      split
      · next h => simp [h]
      · next hfield =>
        split
        · next h => simp [h]
        · next hwaits => simp_all [eq_comm]

theorem backward_concat : Backward (nodes ++ [node]) ↔ Backward nodes ∧
      node.Waits (nodes.map (·.clientNodeId) ++ [node.clientNodeId]) := by
  constructor
  · intro h
    refine ⟨fun before first after hsplit => h before first (after ++ [node]) ?_,
      h nodes node [] rfl⟩
    rw [hsplit, List.append_assoc, List.cons_append]
  · rintro ⟨h, hlast⟩ before first after hsplit
    rcases List.eq_nil_or_concat after with rfl | ⟨after, last, rfl⟩
    · obtain ⟨rfl, heq⟩ := List.append_inj' hsplit rfl
      obtain rfl : node = first := by simpa using heq
      exact hlast
    · rw [List.concat_eq_append, ← List.cons_append, ← List.append_assoc] at hsplit
      exact h before first after (List.append_inj' hsplit rfl).1

theorem foldlM_validateNode (nodes : List PlanNode) (ids : List String) :
    nodes.foldlM validateNode [] = .ok ids ↔ ids = nodes.map (·.clientNodeId) ∧
      (∀ node ∈ nodes, idError node = none ∧ fieldError node = none) ∧
        (nodes.map (·.clientNodeId)).Nodup ∧ Backward nodes := by
  induction nodes using List.reverseRecOn generalizing ids with
  | nil =>
    refine ⟨fun h => ?_, fun h => h.1 ▸ rfl⟩
    cases h
    exact ⟨rfl, nofun, List.nodup_nil, fun _ _ _ h => by simp at h⟩
  | append_singleton nodes node ih =>
    have hnodup : ((nodes ++ [node]).map (·.clientNodeId)).Nodup ↔
        (nodes.map (·.clientNodeId)).Nodup ∧
          node.clientNodeId ∉ nodes.map (·.clientNodeId) := by
      rw [List.map_append, List.nodup_append_comm, List.map_singleton, List.singleton_append,
        List.nodup_cons, and_comm]
    rw [List.foldlM_append, hnodup, backward_concat, List.forall_mem_append,
      List.forall_mem_singleton]
    constructor
    · intro hrun
      cases hnodes : nodes.foldlM validateNode [] with
      | error e => rw [hnodes] at hrun; cases hrun
      | ok before =>
        obtain ⟨rfl, hfields, hbefore, hback⟩ := (ih before).mp hnodes
        rw [hnodes] at hrun
        change (validateNode _ node).bind .ok = _ at hrun
        cases hnode : validateNode (nodes.map (·.clientNodeId)) node with
        | error e => rw [hnode] at hrun; cases hrun
        | ok after =>
          obtain ⟨rfl, hfield, hnew, hwaits⟩ := validateNode_ok.mp hnode
          rw [hnode] at hrun
          cases hrun
          exact ⟨by simp, ⟨hfields, hfield⟩, ⟨hbefore, hnew⟩, hback, hwaits⟩
    · rintro ⟨rfl, ⟨hfields, hfield⟩, ⟨hbefore, hnew⟩, hback, hwaits⟩
      rw [(ih _).mpr ⟨rfl, hfields, hbefore, hback⟩]
      change (validateNode _ node).bind .ok = _
      rw [validateNode_ok.mpr ⟨rfl, hfield, hnew, hwaits⟩]
      simp [Except.bind]

theorem waitsOn_input {nodes : List PlanNode} {id upstream : String} :
    WaitsOn (nodes.map (·.input)) id upstream ↔
      ∃ node ∈ nodes, node.clientNodeId = id ∧
        ∃ dep ∈ node.waitsOn, dep.clientNodeId = upstream := by
  simp [WaitsOn, PlanNode.input]

theorem Backward.known (h : Backward nodes) :
    ∀ node ∈ nodes, node.Waits (nodes.map (·.clientNodeId)) := by
  intro node hnode dep hdep
  obtain ⟨before, after, rfl⟩ := List.append_of_mem hnode
  obtain ⟨hid, hp⟩ := h before node after rfl dep hdep
  refine ⟨?_, hp⟩
  rw [List.map_append, List.map_cons]
  rcases List.mem_append.mp hid with hid | hid
  · exact List.mem_append_left _ hid
  · rw [List.mem_singleton.mp hid]
    simp

theorem plausible_inputs {nodes : List PlanNode} (hnodup : (nodes.map (·.clientNodeId)).Nodup)
    (hknown : ∀ node ∈ nodes, node.Waits (nodes.map (·.clientNodeId))) :
    Plausible (nodes.map (·.input)) := by
  have hids : (nodes.map (·.input)).map (·.clientNodeId) = nodes.map (·.clientNodeId) := by
    rw [List.map_map]
    rfl
  refine ⟨hids ▸ hnodup, ?_⟩
  intro id upstream hwaits
  obtain ⟨node, hnode, _, dep, hdep, rfl⟩ := waitsOn_input.mp hwaits
  exact hids ▸ (hknown node hnode dep hdep).1

/-- A request is accepted if it keeps the rules and its nodes stand in an order of their waits. -/
theorem accepts_iff (req : PlanRequest) : Accepts req ↔ Acceptable req ∧ Backward req.nodes := by
  have hcycle (hnodup : (req.nodes.map (·.clientNodeId)).Nodup)
      (hknown : ∀ node ∈ req.nodes, node.Waits (req.nodes.map (·.clientNodeId))) :
      ((detectCycle (req.nodes.map (·.input))).map fun cycle =>
        if cycle then some "nodes[] contain a dependency cycle" else none) = .ok none ↔
        Acyclic (req.nodes.map (·.input)) := by
    obtain ⟨cycle, _, hcycle, _, hiff, _⟩ := (plausible_inputs hnodup hknown).sorts
    rw [hcycle, ← hiff]
    cases cycle <;> simp [Except.map]
  rw [Accepts, validateDispatchPlanRequest]
  constructor
  · intro haccepts
    split at haccepts
    · cases haccepts
    · next hhead =>
      split at haccepts
      · cases haccepts
      · next ids hids =>
        obtain ⟨_, hfields, hnodup, hback⟩ := (foldlM_validateNode _ _).mp hids
        exact ⟨⟨hhead, hfields, hnodup, hback.known, (hcycle hnodup hback.known).mp haccepts⟩,
          hback⟩
  · rintro ⟨h, hback⟩
    rw [h.head, (foldlM_validateNode _ _).mpr ⟨rfl, h.fields, h.nodup, hback⟩]
    exact (hcycle h.nodup h.known).mpr h.acyclic

theorem Acceptable.perm {req : PlanRequest} (h : Acceptable req) (hperm : nodes.Perm req.nodes) :
    Acceptable { req with nodes } := by
  have hids := hperm.map (·.clientNodeId)
  refine ⟨?_, fun node hnode => h.fields node (hperm.mem_iff.mp hnode), hids.nodup_iff.mpr h.nodup,
    ?_, ?_⟩
  · have hnil : nodes = [] ↔ req.nodes = [] := by
      rw [← List.length_eq_zero_iff, hperm.length_eq, List.length_eq_zero_iff]
    rw [← h.head, headError, headError, hperm.length_eq]
    simp only [hnil]
  · intro node hnode dep hdep
    obtain ⟨hid, hp⟩ := h.known node (hperm.mem_iff.mp hnode) dep hdep
    exact ⟨hids.mem_iff.mpr hid, hp⟩
  · have hwaits : WaitsOn (nodes.map (·.input)) = WaitsOn (req.nodes.map (·.input)) := by
      ext id upstream
      simp only [waitsOn_input, hperm.mem_iff]
    rw [Acyclic, hwaits]
    exact h.acyclic

/-- For every list of nodes the cycle test and the sort are right. The orders in which the nodes
wait backward are accepted alike, by rules that do not depend on the order, and the others are
refused. -/
theorem dispatchPlan_order (req : PlanRequest) :
    (∀ nodes, Plausible nodes → ∃ cycle sorted, detectCycle nodes = .ok cycle ∧
      topoSort nodes = .ok sorted ∧ (cycle = false ↔ Acyclic nodes) ∧
        (Acyclic nodes → sorted.Perm nodes ∧ Ordered sorted)) ∧ ∀ nodes, nodes.Perm req.nodes →
      (Backward nodes → (Accepts { req with nodes } ↔ Acceptable req)) ∧
        (¬ Backward nodes → ¬ Accepts { req with nodes }) := by
  refine ⟨fun nodes h => h.sorts, fun nodes hperm => ⟨fun hback => ?_, fun hnot haccepts => ?_⟩⟩
  · rw [accepts_iff]
    exact ⟨fun h => h.1.perm hperm.symm, fun h => ⟨h.perm hperm, hback⟩⟩
  · exact hnot ((accepts_iff _).mp haccepts).2

def reviewAfterBuild : PlanRequest where
  title := "release"
  idempotencyKey := "r1"
  nodes := [⟨"review", "Review", "liz", "review it", "", "", none, "", [⟨"build", "dispatch_success"⟩]⟩,
    ⟨"build", "Build", "max", "build it", "", "", none, "", []⟩]

/-- A node listed before the one it waits on makes the request unacceptable. -/
theorem reviewAfterBuild_refused : ¬ ∀ req nodes, nodes.Perm req.nodes →
    (Accepts { req with nodes } ↔ Accepts req) := by
  intro h
  have := h reviewAfterBuild reviewAfterBuild.nodes.reverse (List.reverse_perm _)
  revert this
  decide +kernel

end IdAgents.Graph
