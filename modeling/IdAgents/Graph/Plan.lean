import IdAgents.Graph.Runner

namespace IdAgents.Graph
open JsMap KeyedTable AtomicProgram List Dict Option

structure DispatchPlanNodeInput where
  clientNodeId : String
  title : String
  toAgent : String
  message : String
  waitsOn : Option (List String) := none
deriving DecidableEq, Repr

structure DispatchPlanRequest where
  title : String
  idempotencyKey : String
  nodes : List DispatchPlanNodeInput
deriving DecidableEq, Repr

structure Dependencies where
  adj : Dict String (List String)
  indegree : Dict String Int

def Dependencies.addNode (deps : Dependencies) (node : DispatchPlanNodeInput) : Dependencies :=
  ⟨deps.adj.set node.clientNodeId [], deps.indegree.set node.clientNodeId 0⟩

def Dependencies.addWait (clientNodeId : String) (deps : Dependencies) (upstream : String) :
    Except String Dependencies :=
  match deps.adj.get? upstream with
  | none => .error "Cannot read properties of undefined (reading 'push')"
  | some waiting => .ok
    ⟨deps.adj.set upstream (waiting ++ [clientNodeId]),
      deps.indegree.set clientNodeId ((deps.indegree.get? clientNodeId).getD 0 + 1)⟩

def Dependencies.addWaits (deps : Dependencies) (node : DispatchPlanNodeInput) :
    Except String Dependencies :=
  (node.waitsOn.getD []).foldlM (Dependencies.addWait node.clientNodeId) deps
section
variable (nodes : List DispatchPlanNodeInput)

def dependencies : Except String Dependencies :=
  nodes.foldlM Dependencies.addWaits (nodes.foldl Dependencies.addNode ⟨.empty, .empty⟩)

def release (state : Dict String Int × List String) (next : String) :
    Dict String Int × List String :=
  let d := (state.1.get? next).getD 0 - 1
  (state.1.set next d, if d = 0 then state.2 ++ [next] else state.2)

def drain (adj : Dict String (List String)) :
    Nat → Dict String Int × List String → List String → List String
  | 0, _, result => result
  | _ + 1, (_, []), result => result
  | fuel + 1, (indegree, cur :: queue), result =>
    drain adj fuel (((adj.get? cur).getD []).foldl release (indegree, queue)) (result ++ [cur])

def roots (indegree : Dict String Int) : List String :=
  (indegree.entries.filter (·.2 = 0)).map (·.1)

def topoOrder (deps : Dependencies) : List String :=
  drain deps.adj nodes.length (deps.indegree, roots deps.indegree) []

def topoSort : Except String (List DispatchPlanNodeInput) :=
  (dependencies nodes).map fun deps =>
    let byId : Dict String DispatchPlanNodeInput :=
      nodes.foldl (fun byId node => byId.set node.clientNodeId node) .empty
    (topoOrder nodes deps).filterMap byId.get?

end

structure Released (ids : List String) (indegree : Dict String Int) (released : List String) :
    Prop where
  nodup : released.Nodup
  zero : ∀ id ∈ released, (indegree.get? id).getD 0 ≤ 0
  known : ∀ id ∈ released, id ∈ ids
  keys : ∀ id d, indegree.get? id = some d → 0 < d → id ∈ ids

theorem Released.release (h : Released ids state.1 (result ++ state.2)) (next : String) :
    Released ids (release state next).1 (result ++ (release state next).2) := by
  obtain ⟨indegree, queue⟩ := state
  have hset : ∀ id d, (indegree.set next ((indegree.get? next).getD 0 - 1)).get? id = some d →
      0 < d → id ∈ ids := by
    intro id d hd hpos
    rw [get?_set] at hd
    split at hd
    · next heq =>
      cases hd
      cases hnext : indegree.get? next with
      | none =>
        rw [hnext, getD_none] at hpos
        omega
      | some e =>
        rw [hnext, getD_some] at hpos
        exact heq ▸ h.keys next e hnext (by omega)
    · exact h.keys id d hd hpos
  have hle : ∀ id, (indegree.get? id).getD 0 ≤ 0 →
      ((indegree.set next ((indegree.get? next).getD 0 - 1)).get? id).getD 0 ≤ 0 := by
    intro id hid
    rw [get?_set]
    split
    · next heq =>
      rw [getD_some, ← heq]
      omega
    · exact hid
  rw [Graph.release]
  dsimp only
  by_cases hzero : (indegree.get? next).getD 0 - 1 = 0
  · rw [if_pos hzero]
    have hone : (indegree.get? next).getD 0 = 1 := by omega
    have hfresh : next ∉ result ++ queue := by
      intro hmem
      have hle' : (indegree.get? next).getD 0 ≤ 0 := h.zero next hmem
      omega
    have hknown : next ∈ ids := by
      cases hnext : indegree.get? next with
      | none =>
        rw [hnext] at hone
        cases hone
      | some d =>
        rw [hnext, getD_some] at hone
        exact h.keys next d hnext (by omega)
    rw [← append_assoc]
    constructor
    · rw [← concat_eq_append]
      exact h.nodup.concat hfresh
    · intro id hid
      rcases mem_append.mp hid with hid | hid
      · exact hle id (h.zero id hid)
      · rw [mem_singleton.mp hid, get?_set_self, getD_some]
        omega
    · intro id hid
      rcases mem_append.mp hid with hid | hid
      · exact h.known id hid
      · exact mem_singleton.mp hid ▸ hknown
    · exact hset
  · rw [if_neg hzero]
    exact ⟨h.nodup, fun id hid => hle id (h.zero id hid), h.known, hset⟩

theorem Released.releaseAll (waiting : List String) (h : Released ids state.1 (result ++ state.2)) :
    Released ids (waiting.foldl Graph.release state).1
      (result ++ (waiting.foldl Graph.release state).2) := by
  induction waiting generalizing state with
  | nil => exact h
  | cons next waiting ih => exact ih (h.release next)

theorem Released.drain (adj : Dict String (List String)) (fuel : Nat)
    (h : Released ids state.1 (result ++ state.2)) : (drain adj fuel state result).Nodup := by
  induction fuel generalizing state result with
  | zero => exact (nodup_append.mp h.nodup).1
  | succ fuel ih =>
    obtain ⟨indegree, queue⟩ := state
    cases queue with
    | nil => exact (nodup_append.mp h.nodup).1
    | cons cur queue =>
      apply ih
      apply Released.releaseAll
      rw [append_assoc]
      exact h

def Dependencies.Counts (ids : List String) (deps : Dependencies) : Prop :=
  ∀ id d, deps.indegree.get? id = some d → id ∈ ids

theorem Dependencies.Counts.set {deps : Dependencies} (h : deps.Counts ids) (hid : node ∈ ids)
    (adj : Dict String (List String)) (d : Int) :
    Dependencies.Counts ids ⟨adj, deps.indegree.set node d⟩ := by
  intro id e he
  dsimp only at he
  rw [get?_set] at he
  split at he
  · next heq => exact heq ▸ hid
  · exact h id e he

theorem foldlM_keeps {f : β → α → Except ε β} {P : β → Prop} {l : List α}
    (hf : ∀ b, ∀ a ∈ l, P b → ∀ b', f b a = .ok b' → P b') (hb : P b)
    (h : l.foldlM f b = .ok b') : P b' := by
  induction l generalizing b with
  | nil =>
    cases h
    exact hb
  | cons a l ih =>
    rw [foldlM_cons] at h
    cases hfirst : f b a with
    | error e =>
      rw [hfirst] at h
      cases h
    | ok c =>
      rw [hfirst] at h
      exact ih (fun b a ha => hf b a (mem_cons_of_mem _ ha))
        (hf b a mem_cons_self hb c hfirst) h

variable {nodes : List DispatchPlanNodeInput}

theorem dependencies_counts
    (h : dependencies nodes = .ok deps) : deps.Counts (nodes.map (·.clientNodeId)) := by
  have hstart (done : List DispatchPlanNodeInput) (hdone : done ⊆ nodes) (deps : Dependencies)
      (hdeps : deps.Counts (nodes.map (·.clientNodeId))) :
      (done.foldl Dependencies.addNode deps).Counts (nodes.map (·.clientNodeId)) := by
    induction done generalizing deps with
    | nil => exact hdeps
    | cons node done ih =>
      rw [cons_subset] at hdone
      exact ih hdone.2 _ (hdeps.set (mem_map_of_mem hdone.1) _ 0)
  apply foldlM_keeps _ (hstart nodes (List.Subset.refl _) _ fun _ _ hd => by cases hd) h
  intro deps node hnode hdeps deps' hwaits
  apply foldlM_keeps _ hdeps hwaits
  intro deps upstream _ hdeps deps' hwait
  rw [Dependencies.addWait] at hwait
  split at hwait
  · cases hwait
  · cases hwait
    exact hdeps.set (mem_map_of_mem hnode) _ _

theorem roots_released {deps : Dependencies} (h : deps.Counts ids) :
    Released ids deps.indegree (roots deps.indegree) := by
  have hroot : ∀ id ∈ roots deps.indegree, deps.indegree.get? id = some 0 := by
    intro id hid
    obtain ⟨⟨id', d⟩, hentry, rfl⟩ := mem_map.mp hid
    obtain ⟨hmem, hzero⟩ := mem_filter.mp hentry
    have hd : d = 0 := of_decide_eq_true hzero
    exact get?_of_mem (hd ▸ hmem)
  constructor
  · exact deps.indegree.nodup.sublist (filter_sublist.map _)
  · intro id hid
    rw [hroot id hid, getD_some]
  · exact fun id hid => h id 0 (hroot id hid)
  · exact fun id d hd _ => h id d hd

theorem topoOrder_nodup (h : dependencies nodes = .ok deps) : (topoOrder nodes deps).Nodup := by
  have hroots : Released (nodes.map (·.clientNodeId)) (deps.indegree, roots deps.indegree).1
      ([] ++ (deps.indegree, roots deps.indegree).2) := roots_released (dependencies_counts h)
  exact hroots.drain deps.adj nodes.length

theorem byId_clientNodeId (nodes : List DispatchPlanNodeInput)
    {byId : Dict String DispatchPlanNodeInput}
    (hbyId : ∀ id node, byId.get? id = some node → node.clientNodeId = id) :
    ∀ id node, (nodes.foldl (fun byId node => byId.set node.clientNodeId node) byId).get? id =
      some node → node.clientNodeId = id := by
  induction nodes generalizing byId with
  | nil => exact hbyId
  | cons first nodes ih =>
    apply ih
    intro id node hnode
    rw [get?_set] at hnode
    split at hnode
    · next heq =>
      cases hnode
      exact heq.symm
    · exact hbyId id node hnode

theorem topoSort_nodup (h : topoSort nodes = .ok sorted) : (sorted.map (·.clientNodeId)).Nodup := by
  rw [topoSort] at h
  cases hdeps : dependencies nodes with
  | error e =>
    rw [hdeps] at h
    cases h
  | ok deps =>
    rw [hdeps] at h
    cases h
    have hempty : ∀ id node, (empty : Dict String DispatchPlanNodeInput).get? id =
        some node → node.clientNodeId = id := by
      intro id node hnode
      cases hnode
    have hbyId := byId_clientNodeId nodes hempty
    rw [List.Nodup, pairwise_map, pairwise_filterMap]
    apply (topoOrder_nodup hdeps).imp
    intro id id' hne node hnode node' hnode' heq
    exact hne ((hbyId id node hnode).symm.trans (heq.trans (hbyId id' node' hnode')))

end IdAgents.Graph
