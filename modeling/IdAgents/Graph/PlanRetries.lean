import IdAgents.Graph.PlanExecution
import IdAgents.Library.Precedence

namespace IdAgents.Graph
open JsMap KeyedTable AtomicProgram List

abbrev PlanEvent := Event planSql PlanWorld

structure PlanRun where
  sha256Hex : String → String
  calls : List DispatchPlanRequest
  others : List (PlanProg DispatchPlanResponse)
  schedule : List Nat
  start : PlanWorld

namespace PlanRun
section
variable (run : PlanRun)

def threads : List (PlanProg DispatchPlanResponse) :=
  run.calls.map (executeDispatchPlan run.sha256Hex) ++ run.others

/-- The threads and the database after `n` turns. -/
def moment (n : Nat) : List (PlanProg DispatchPlanResponse) × PlanWorld :=
  interleave (run.schedule.take n) run.threads run.start

def eventsTo (n : Nat) : List (Nat × PlanEvent) :=
  interleaveEvents (run.schedule.take n) run.threads run.start

def events : List (Nat × PlanEvent) :=
  interleaveEvents run.schedule run.threads run.start

end

end PlanRun

def enqueuedBy (e : PlanEvent) : Option (String × String) :=
  match e.stmt with
  | .enqueue node =>
    if e.before.env.fails e.before.step then none
    else match e.before.env.enqueue e.before.step with
      | .refused _ => none
      | .done | .lost _ =>
        some (node.clientNodeId, (e.before.env.mintDispatch e.before.step).dispatchPhid)
  | _ => none

def PlanWorld.claimable (w : PlanWorld) (dispatchId : String) : Bool :=
  (w.db.dispatches.get? dispatchId).any (·.status = .queued) &&
    !w.db.nodes.rows.any fun row =>
      row.dispatchId = some dispatchId && row.state = .pendingDependencies

def missedKey (e : PlanEvent) : Option String :=
  match e.stmt with
  | .getGraphByIdempotencyKey key =>
    if e.before.env.fails e.before.step then none
    else if (completed (e.before.graphOf key)).isNone then some key else none
  | _ => none

namespace PlanRun
section
variable (run : PlanRun)

def BecomesClaimable (key clientNodeId dispatchId : String) : Prop :=
  ∃ i req e n, run.calls[i]? = some req ∧ req.idempotencyKey = key ∧ (i, e) ∈ run.events ∧
    enqueuedBy e = some (clientNodeId, dispatchId) ∧ (run.moment n).2.claimable dispatchId

def AtMostOnce : Prop :=
  ∀ key clientNodeId d d', run.BecomesClaimable key clientNodeId d →
    run.BecomesClaimable key clientNodeId d' → d = d'

def EndedIdle (n j : Nat) : Prop :=
  (∃ p, (run.moment n).1[j]? = some p ∧ p.ended) ∧
    ∀ f, (j, f) ∈ run.eventsTo n → enqueuedBy f = none

/-- If in turn `n` a call finds no graph under its key, then no other call has found none under it
before, or such a call has ended without an enqueue. -/
def StartsAlone (n : Nat) : Prop :=
  ∀ i e key, run.eventsTo (n + 1) = run.eventsTo n ++ [(i, e)] → i < run.calls.length →
    missedKey e = some key → ∀ j f, j < run.calls.length → j ≠ i → (j, f) ∈ run.eventsTo n →
      missedKey f = some key → run.EndedIdle n j

end

end PlanRun

structure PlanGhost where
  free : Bool
  key : String
  missed : Bool := false
  planned : List String := []

def planScript : Script planSql PlanGhost where
  see g c a := match c, a with
    | .getGraphByIdempotencyKey _, .ok existing =>
      { g with missed := (completed existing).isNone }
    | .enqueue node, _ => { g with planned := g.planned ++ [node.clientNodeId] }
    | _, _ => g
  due g c := g.free ∨ match c with
    | .getGraphByIdempotencyKey key => key = g.key
    | .enqueue node => g.missed ∧ node.clientNodeId ∉ g.planned
    | _ => True

def Calm : PlanStmt → Prop
  | .getGraphByIdempotencyKey _ | .enqueue _ => False
  | _ => True

theorem Calm.see (h : Calm c) (g : PlanGhost) (a : PlanStmt.Ans c) : planScript.see g c a = g := by
  cases c with
  | getGraphByIdempotencyKey key => exact h.elim
  | enqueue node => exact h.elim
  | _ => rfl

theorem Calm.due (h : Calm c) (g : PlanGhost) : planScript.due g c := by
  cases c with
  | getGraphByIdempotencyKey key => exact h.elim
  | enqueue node => exact h.elim
  | _ => exact .inr trivial

def CalmProg (p : PlanProg α) : Prop := p.Meets Calm fun _ => True

theorem CalmProg.keeps (h : CalmProg p) (hR : ∀ r, R r g) : p.keeps planScript R g := by
  have hkeeps := Program.Meets.keeps (m := planScript) (J := (· = g)) h rfl fun g' c hg hc =>
    ⟨hc.due g', fun a => (hc.see g' a).trans hg⟩
  apply Program.keeps_mono hkeeps
  intro r g' hg
  rw [hg.1]
  exact hR r

theorem ask_calm (h : Calm c) : CalmProg (ask c) := by
  refine ⟨h, fun a => ?_⟩
  cases a <;> trivial

theorem CalmProg.bind (h : CalmProg p) (hf : ∀ a, CalmProg (f a)) : CalmProg (p.bind f) :=
  Program.Meets.bind h fun a _ => hf a

theorem CalmProg.fold (h : ∀ acc x, CalmProg (body acc x)) : CalmProg (Program.fold xs acc body) :=
  Program.Meets.fold acc fun acc x _ => h acc x

theorem onPlan_calm (p : Prog α) : CalmProg (onPlan p) := by
  induction p with
  | ret a => trivial
  | throw e => trivial
  | issue c k ih => exact (ask_calm (c := .base c) trivial).bind fun answer => ih answer

theorem existing_calm (graphId : String) : CalmProg (buildResponseFromExistingGraph graphId) := by
  apply (ask_calm (c := .base _) trivial).bind
  intro graph
  cases graph with
  | none => trivial
  | some graph =>
    apply (ask_calm (c := .getPlanNodes _) trivial).bind
    intro nodes
    apply (ask_calm (c := .base _) trivial).bind
    intro edges
    apply CalmProg.bind
    · apply CalmProg.fold
      intro results node
      exact (ask_calm (c := .base _) trivial).bind fun _ => trivial
    · exact fun _ => trivial

theorem addPlanNode_calm (graphId : String) (node : DispatchPlanNodeInput)
    (progress : PlanProgress) (enqueued : EnqueueResult) :
    CalmProg (addPlanNode graphId node progress enqueued) :=
  (ask_calm (c := .addNode _ _ _) trivial).bind fun _ => trivial

theorem activatePlan_calm (sha256Hex : String → String) (req : DispatchPlanRequest)
    (graph : GraphRow) (sorted : List DispatchPlanNodeInput) (nodes : List DispatchPlanNodeResult) :
    CalmProg (activatePlan sha256Hex req graph sorted nodes) := by
  apply CalmProg.bind
  · apply CalmProg.fold
    intro _ node
    apply CalmProg.fold
    exact fun _ upstream => ask_calm (c := .addEdge _ _ _) trivial
  intro _
  apply (ask_calm (c := .base _) trivial).bind
  intro _
  apply (onPlan_calm _).bind
  intro result
  apply (ask_calm (c := .setGraphIdempotencyKey _ _) trivial).bind
  intro _
  apply (ask_calm (c := .base _) trivial).bind
  intro refreshed
  exact (ask_calm (c := .base _) trivial).bind fun _ => trivial

theorem ask_keeps
    (hdue : planScript.due g c) (hR : ∀ a : PlanStmt.Ans c, R a (planScript.see g c a)) :
    (ask c).keeps planScript R g := by
  refine ⟨hdue, fun a => ?_⟩
  cases a with
  | ok value => exact hR (.ok value)
  | error e => exact hR (.error e)

structure Planning (nodes : List DispatchPlanNodeInput) (g : PlanGhost) : Prop where
  missed : g.missed
  nodup : (nodes.map (·.clientNodeId)).Nodup
  fresh : ∀ node ∈ nodes, node.clientNodeId ∉ g.planned

theorem Planning.next (h : Planning (node :: nodes) g) :
    Planning nodes { g with planned := g.planned ++ [node.clientNodeId] } := by
  obtain ⟨hmissed, hnodup, hfresh⟩ := h
  rw [map_cons, nodup_cons] at hnodup
  refine ⟨hmissed, hnodup.2, fun other hother hmem => ?_⟩
  rcases mem_append.mp hmem with hmem | hmem
  · exact hfresh other (mem_cons_of_mem _ hother) hmem
  · exact hnodup.1 (mem_singleton.mp hmem ▸ mem_map_of_mem hother)

theorem planNode_keeps (h : Planning (node :: nodes) g) (graphId : String)
    (progress : PlanProgress) :
    (planNode graphId progress node).keeps planScript (fun _ g => Planning nodes g) g := by
  apply Program.keeps_tryCatch (T := fun _ g => Planning nodes g)
  · apply Program.keeps_seq (T := fun _ g => Planning nodes g)
    · apply ask_keeps
      · exact .inr ⟨h.missed, h.fresh node mem_cons_self⟩
      · exact fun _ => h.next
    · intro enqueued g hg
      exact (addPlanNode_calm graphId node progress enqueued).keeps fun _ => hg
    · exact fun _ _ hg => hg
  · exact fun _ _ hg => hg
  · exact fun _ _ hg => hg

theorem executeDispatchPlan_keeps (sha256Hex : String → String) (req : DispatchPlanRequest) :
    (executeDispatchPlan sha256Hex req).keeps planScript (fun _ _ => True)
      ⟨false, req.idempotencyKey, false, []⟩ := by
  apply Program.keeps_seq (T := fun r g => ∀ existing, r = .ok existing →
    g = ⟨false, req.idempotencyKey, (completed existing).isNone, []⟩)
  · apply ask_keeps
    · exact .inr rfl
    · rintro a existing rfl
      rfl
  · intro existing g hg
    rw [hg existing rfl]
    cases hcompleted : completed existing with
    | some graph => exact (existing_calm graph.graphId).keeps fun _ => trivial
    | none =>
      apply Program.keeps_seq ((ask_calm (c := .createGraph) trivial).keeps
        (R := fun _ g => g = ⟨false, req.idempotencyKey, true, []⟩) fun _ => rfl)
      · rintro graph _ rfl
        cases hsort : topoSort req.nodes with
        | error e => trivial
        | ok sorted =>
          have hplanning : Planning sorted ⟨false, req.idempotencyKey, true, []⟩ :=
            ⟨rfl, topoSort_nodup hsort, fun _ _ => not_mem_nil⟩
          apply Program.keeps_seq (T := fun _ _ => True)
          · apply Program.keeps_fold _ hplanning
            · intro progress node nodes g hg
              apply Program.keeps_mono (planNode_keeps hg graph.graphId progress)
              intro r g hg
              cases r with
              | ok progress => exact hg
              | error e => trivial
            · exact fun _ _ _ => trivial
          · intro progress g _
            split
            · trivial
            · exact (activatePlan_calm _ _ _ _ _).keeps fun _ => trivial
          · exact fun _ _ _ => trivial
      · exact fun _ _ _ => trivial
  · exact fun _ _ _ => trivial

theorem see_free (g : PlanGhost) (c : PlanStmt) (a : PlanStmt.Ans c) :
    (planScript.see g c a).free = g.free := by
  cases c with
  | getGraphByIdempotencyKey key => cases a <;> rfl
  | _ => rfl

theorem see_key (g : PlanGhost) (c : PlanStmt) (a : PlanStmt.Ans c) :
    (planScript.see g c a).key = g.key := by
  cases c with
  | getGraphByIdempotencyKey key => cases a <;> rfl
  | _ => rfl

theorem see_planned
    (h : clientNodeId ∈ g.planned) : clientNodeId ∈ (planScript.see g c a).planned := by
  cases c with
  | getGraphByIdempotencyKey key => cases a <;> exact h
  | enqueue node => exact mem_append_left _ h
  | _ => exact h

theorem see_missed (h : (planScript.see g f.stmt (Store.answer f.stmt f.before)).missed = true)
    (hf : ¬ ∃ key, missedKey f = some key) : g.missed = true := by
  obtain ⟨c, w⟩ := f
  cases c with
  | getGraphByIdempotencyKey key =>
    change (planScript.see g _ (PlanStmt.answer (.getGraphByIdempotencyKey key) w)).missed = true
      at h
    by_cases hfails : w.env.fails w.step
    · have hanswer : PlanStmt.answer (.getGraphByIdempotencyKey key) w =
          Except.error "database is locked" := if_pos hfails
      rw [hanswer] at h
      exact h
    · have hanswer : PlanStmt.answer (.getGraphByIdempotencyKey key) w =
          Except.ok (w.graphOf key) := if_neg hfails
      rw [hanswer] at h
      refine absurd ⟨key, ?_⟩ hf
      change (completed (w.graphOf key)).isNone = true at h
      change (if w.env.fails w.step then none
        else if (completed (w.graphOf key)).isNone then some key else none) = some key
      rw [if_neg hfails, if_pos h]
  | _ => exact h

theorem stmt_of_enqueued (h : enqueuedBy e = some (clientNodeId, dispatchId)) :
    ∃ node, e.stmt = .enqueue node ∧ node.clientNodeId = clientNodeId := by
  obtain ⟨c, w⟩ := e
  cases c with
  | enqueue node =>
    refine ⟨node, rfl, ?_⟩
    rw [enqueuedBy] at h
    dsimp only at h
    split at h
    · cases h
    · split at h
      · cases h
      · cases h
        rfl
      · cases h
        rfl
  | _ => cases h

theorem stmt_of_missed (h : missedKey e = some key) : e.stmt = .getGraphByIdempotencyKey key := by
  obtain ⟨c, w⟩ := e
  cases c with
  | getGraphByIdempotencyKey key' =>
    rw [missedKey] at h
    dsimp only at h
    split at h
    · cases h
    · split at h
      · cases h
        rfl
      · cases h
  | _ => cases h

namespace PlanRun
variable {run : PlanRun}

def ghost (run : PlanRun) (i : Nat) : PlanGhost :=
  match run.calls[i]? with
  | some req => ⟨false, req.idempotencyKey, false, []⟩
  | none => ⟨true, "", false, []⟩

theorem threads_keep (run : PlanRun) (i : Nat) (p : PlanProg DispatchPlanResponse)
    (hp : run.threads[i]? = some p) : p.keeps planScript (fun _ _ => True) (run.ghost i) := by
  rw [ghost]
  cases hreq : run.calls[i]? with
  | some req =>
    have hlt : i < (run.calls.map (executeDispatchPlan run.sha256Hex)).length := by
      rw [List.length_map]
      exact (List.getElem?_eq_some_iff.mp hreq).1
    rw [threads] at hp
    rw [getElem?_append_left hlt, getElem?_map, hreq] at hp
    cases hp
    exact executeDispatchPlan_keeps run.sha256Hex req
  | none =>
    have hmeets : p.Meets (fun _ => True) fun _ => True :=
      .of_forall p (fun _ => trivial) fun _ => trivial
    apply Program.keeps_mono (Program.Meets.keeps (J := (·.free = true)) hmeets rfl _)
    · exact fun _ _ _ => trivial
    · intro g c hfree _
      exact ⟨.inl hfree, fun a => (see_free g c a).trans hfree⟩

end PlanRun

theorem over_key (g : PlanGhost) (es : List PlanEvent) :
    (planScript.over g es).key = g.key ∧ (planScript.over g es).free = g.free := by
  induction es generalizing g with
  | nil => exact ⟨rfl, rfl⟩
  | cons e es ih =>
    rw [Script.over_cons, (ih _).1, (ih _).2]
    exact ⟨see_key g e.stmt _, see_free g e.stmt _⟩

theorem over_planned (h : clientNodeId ∈ g.planned) :
    clientNodeId ∈ (planScript.over g es).planned := by
  induction es generalizing g with
  | nil => exact h
  | cons e es ih => exact ih (see_planned h)

theorem mem_planned (h : e ∈ es) (henqueue : enqueuedBy e = some (clientNodeId, dispatchId)) :
    clientNodeId ∈ (planScript.over g es).planned := by
  induction es generalizing g with
  | nil => exact absurd h not_mem_nil
  | cons f es ih =>
    rcases mem_cons.mp h with rfl | h
    · obtain ⟨node, hstmt, rfl⟩ := stmt_of_enqueued henqueue
      obtain ⟨c, w⟩ := e
      cases hstmt
      rw [Script.over_cons]
      apply over_planned
      exact mem_append_right _ (mem_singleton_self _)
    · exact ih h

theorem missed_of_over (hmissed : (planScript.over g es).missed = true) :
    g.missed = true ∨ ∃ f ∈ es, ∃ key, missedKey f = some key := by
  induction es generalizing g with
  | nil => exact .inl hmissed
  | cons f es ih =>
    rcases ih hmissed with hhead | ⟨f', hmem, hkey⟩
    · by_cases hf : ∃ key, missedKey f = some key
      · exact .inr ⟨f, mem_cons_self, hf⟩
      · exact .inl (see_missed hhead hf)
    · exact .inr ⟨f', mem_cons_of_mem _ hmem, hkey⟩

namespace PlanRun
variable {run : PlanRun}

theorem due (hi : run.calls[i]? = some req) (hsplit : run.events = es ++ (i, e) :: fs) :
    planScript.due (planScript.over ⟨false, req.idempotencyKey, false, []⟩ (eventsOf i es))
      e.stmt := by
  have hdue := interleave_keeps (m := planScript) (R := fun _ _ _ => True) run.schedule run.start
    run.threads_keep es i e fs hsplit
  unfold Script.ghost ghost at hdue
  rw [hi] at hdue
  exact hdue

theorem missedKey_eq (hi : run.calls[i]? = some req) (he : (i, e) ∈ run.events)
    (hmissed : missedKey e = some key) : key = req.idempotencyKey := by
  obtain ⟨es, fs, hsplit⟩ := append_of_mem he
  have hdue := due hi hsplit
  obtain ⟨c, w⟩ := e
  cases stmt_of_missed hmissed
  rcases hdue with hfree | hkey
  · rw [(over_key _ _).2] at hfree
    cases hfree
  · exact hkey.trans (over_key _ _).1

theorem enqueue_due (hi : run.calls[i]? = some req) (hsplit : run.events = es ++ (i, e) :: fs)
    (henqueue : enqueuedBy e = some (clientNodeId, dispatchId)) :
    (∃ f, (i, f) ∈ es ∧ missedKey f = some req.idempotencyKey) ∧
      ∀ f d, (i, f) ∈ es → enqueuedBy f ≠ some (clientNodeId, d) := by
  have hdue := due hi hsplit
  obtain ⟨node, hstmt, rfl⟩ := stmt_of_enqueued henqueue
  obtain ⟨c, w⟩ := e
  cases hstmt
  rcases hdue with hfree | ⟨hmissed, hfresh⟩
  · rw [(over_key _ _).2] at hfree
    cases hfree
  · constructor
    · rcases missed_of_over hmissed with hmissed | ⟨f, hf, key, hkey⟩
      · cases hmissed
      · have hmem := mem_eventsOf.mp hf
        have hevent : (i, f) ∈ run.events := hsplit ▸ mem_append_left _ hmem
        exact ⟨f, hmem, missedKey_eq hi hevent hkey ▸ hkey⟩
    · intro f d hf hsame
      exact hfresh (mem_planned (mem_eventsOf.mpr hf) hsame)

theorem idle_of_earlier (halone : ∀ n, run.StartsAlone n) (hj : j < run.calls.length)
    (hi : i < run.calls.length) (hne : i ≠ j)
    (hsplit : run.events = es ++ (j, g) :: fs) (hg : missedKey g = some key)
    (hmem : (i, f) ∈ es) (hf : missedKey f = some key) (he : (i, e) ∈ run.events) :
    enqueuedBy e = none := by
  obtain ⟨n, hbefore, _, hnext, _⟩ := interleave_moment hsplit
  have hnext' : run.eventsTo (n + 1) = run.eventsTo n ++ [(j, g)] := by
    unfold eventsTo
    rw [hbefore, hnext]
  have hmem' : (i, f) ∈ run.eventsTo n := by
    rw [eventsTo]
    rw [hbefore]
    exact hmem
  obtain ⟨⟨p, hp, hended⟩, hidle⟩ := halone n j g key hnext' hj hg i f hi hne hmem' hf
  have hevents : run.events = run.eventsTo n ++ interleaveEvents (run.schedule.drop n)
      (run.moment n).1 (run.moment n).2 := by
    unfold events eventsTo moment
    rw [← interleaveEvents_append, take_append_drop]
  rw [hevents] at he
  rcases mem_append.mp he with he | he
  · exact hidle e he
  · exact absurd he (interleave_ended hp hended _ _ e)

theorem same_call (halone : ∀ n, run.StartsAlone n) (hi : run.calls[i]? = some req)
    (hj : run.calls[j]? = some req') (hkey : req.idempotencyKey = req'.idempotencyKey)
    (hx : (i, x) ∈ run.events) (hy : (j, y) ∈ run.events)
    (hxe : enqueuedBy x = some (clientNodeId, d))
    (hye : enqueuedBy y = some (clientNodeId', d')) : i = j := by
  by_contra hne
  have hi' := (List.getElem?_eq_some_iff.mp hi).1
  have hj' := (List.getElem?_eq_some_iff.mp hj).1
  obtain ⟨as, bs, hxs⟩ := append_of_mem hx
  obtain ⟨cs, ds, hys⟩ := append_of_mem hy
  obtain ⟨⟨f, hf, hmf⟩, _⟩ := enqueue_due hi hxs hxe
  obtain ⟨⟨g, hg, hmg⟩, _⟩ := enqueue_due hj hys hye
  have hfe : (i, f) ∈ run.events := hxs ▸ mem_append_left _ hf
  have hge : (j, g) ∈ run.events := hys ▸ mem_append_left _ hg
  obtain ⟨es, fs, hsplit⟩ := append_of_mem hge
  rw [hsplit, mem_append, mem_cons] at hfe
  rcases hfe with hearlier | hsame | hlater
  · have hnone := idle_of_earlier halone hj' hi' hne hsplit hmg hearlier (hkey ▸ hmf) hx
    rw [hnone] at hxe
    cases hxe
  · exact hne (Prod.mk.inj hsame).1
  · obtain ⟨gs, hs, hfs⟩ := append_of_mem hlater
    have hsplit' : run.events = (es ++ (j, g) :: gs) ++ (i, f) :: hs := by
      rw [hsplit, hfs, append_assoc]
      rfl
    have hmem : (j, g) ∈ es ++ (j, g) :: gs :=
      mem_append_right _ mem_cons_self
    have hnone := idle_of_earlier halone hi' hj' (Ne.symm hne) hsplit' hmf hmem (hkey ▸ hmg) hy
    rw [hnone] at hye
    cases hye

theorem same_enqueue (hi : run.calls[i]? = some req) (hx : (i, x) ∈ run.events)
    (hy : (i, y) ∈ run.events) (hxe : enqueuedBy x = some (clientNodeId, d))
    (hye : enqueuedBy y = some (clientNodeId, d')) : d = d' := by
  obtain ⟨as, bs, hsplit⟩ := append_of_mem hx
  have hmem := hy
  rw [hsplit, mem_append, mem_cons] at hmem
  rcases hmem with hearlier | hsame | hlater
  · exact absurd hye ((enqueue_due hi hsplit hxe).2 y d' hearlier)
  · obtain ⟨_, rfl⟩ := Prod.mk.inj hsame
    rw [hxe] at hye
    exact (Prod.mk.inj (Option.some.inj hye)).2
  · obtain ⟨cs, ds, hbs⟩ := append_of_mem hlater
    have hsplit' : run.events = (as ++ (i, x) :: cs) ++ (i, y) :: ds := by
      rw [hsplit, hbs, append_assoc]
      rfl
    have hmem' : (i, x) ∈ as ++ (i, x) :: cs := mem_append_right _ mem_cons_self
    exact absurd hxe ((enqueue_due hi hsplit' hye).2 x d hmem')

/-- Where each call that finds no graph under its key is alone in it, no node of a plan has two
claimable dispatches. -/
theorem atMostOnce (halone : ∀ n, run.StartsAlone n) : run.AtMostOnce := by
  rintro key clientNodeId d d' ⟨i, req, x, _, hi, hkey, hx, hxe, _⟩
    ⟨j, req', y, _, hj, hkey', hy, hye, _⟩
  obtain rfl := same_call halone hi hj (hkey.trans hkey'.symm) hx hy hxe hye
  exact same_enqueue hi hx hy hxe hye

def misses (run : PlanRun) : List (Nat × String) :=
  run.events.filterMap fun event => (missedKey event.2).map (event.1, ·)

theorem mem_misses (he : (i, e) ∈ run.eventsTo n) (hkey : missedKey e = some key) :
    (i, key) ∈ run.misses := by
  refine mem_filterMap.mpr ⟨(i, e), mem_interleaveEvents_of_take n he, ?_⟩
  rw [hkey]
  rfl

theorem startsAlone_of_misses
    (h : ∀ a ∈ run.misses, ∀ b ∈ run.misses, a.2 = b.2 → a.1 = b.1) (n : Nat) :
    run.StartsAlone n := by
  intro i e key hnext _ hkey j f _ hne hf hfkey
  have he : (i, e) ∈ run.eventsTo (n + 1) := by
    rw [hnext]
    exact mem_append_right _ (mem_singleton_self _)
  exact absurd (h _ (mem_misses hf hfkey) _ (mem_misses he hkey) rfl) hne

end PlanRun

def buildNode : DispatchPlanNodeInput where
  clientNodeId := "build"
  title := "build"
  toAgent := "coder"
  message := "build it"

def buildPlan : DispatchPlanRequest where
  title := "release"
  idempotencyKey := "release-1"
  nodes := [buildNode]

def twoCalls (schedule : List Nat) : PlanRun where
  sha256Hex := id
  calls := [buildPlan, buildPlan]
  others := []
  schedule := schedule
  start := {
    db := {
      graphs := .ofRows [], nodes := .ofRows [], edges := [], decisions := .ofRows []
      dispatches := .empty, tasks := .empty }
    planKeys := .empty
    clientNodeIds := .empty
    step := 0
    env := {
      uuid := fun n => s!"{n}"
      fails := fun _ => false
      enqueue := fun _ => .done
      mintDispatch := fun n => ⟨s!"phid:disp-{n}", s!"query-{n}"⟩ } }

/-- The second call looks the key up when the first has ended. -/
theorem atMostOnce_sequential : (twoCalls (replicate 20 0 ++ replicate 20 1)).AtMostOnce :=
  PlanRun.atMostOnce (PlanRun.startsAlone_of_misses (by decide +kernel))

/-- Both calls look the key up before either writes it. -/
theorem overlapping_not_atMostOnce : ¬ (twoCalls [0, 1, 0, 1, 0, 1]).AtMostOnce := by
  intro hrun
  have hfirst : (twoCalls [0, 1, 0, 1, 0, 1]).BecomesClaimable "release-1" "build"
      "phid:disp-4" :=
    ⟨0, buildPlan, ⟨.enqueue buildNode, ((twoCalls [0, 1, 0, 1, 0, 1]).moment 4).2⟩, 5, rfl, rfl,
      mem_of_getElem? (i := 4) rfl, by rfl, by decide +kernel⟩
  have hsecond : (twoCalls [0, 1, 0, 1, 0, 1]).BecomesClaimable "release-1" "build"
      "phid:disp-5" :=
    ⟨1, buildPlan, ⟨.enqueue buildNode, ((twoCalls [0, 1, 0, 1, 0, 1]).moment 5).2⟩, 6, rfl, rfl,
      mem_of_getElem? (i := 5) rfl, by rfl, by decide +kernel⟩
  exact absurd (hrun "release-1" "build" _ _ hfirst hsecond) (by decide)

end IdAgents.Graph
