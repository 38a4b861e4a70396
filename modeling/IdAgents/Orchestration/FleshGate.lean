import IdAgents.Orchestration.Flesh
import IdAgents.Orchestration.Writes

namespace IdAgents.Orchestration
open JsText KeyedTable AtomicProgram List

/-- A flesh pass, or any other program on the same storage: an operator's edit, a tick. -/
inductive FleshCall where
  | pass (config : FleshConfig) (maxFleshPerTick : Int) (opts : FleshRunOptions)
  | edit (p : Prog Unit)

def FleshCall.prog : FleshCall → Prog Unit
  | pass config maxFleshPerTick opts =>
    (runFleshPass config maxFleshPerTick opts).bind fun _ => .ret ()
  | edit p => p

/-- Flesh passes and edits on one storage, in any interleaving of their statements. -/
structure FleshRun where
  calls : List FleshCall
  schedule : List Nat
  start : World

namespace FleshRun

variable (run : FleshRun)

def threads : List (Prog Unit) := run.calls.map FleshCall.prog

def events : List (Nat × Event sql World) :=
  interleaveEvents run.schedule run.threads run.start

def IsPass (i : Nat) (es : List (Event sql World)) : Prop :=
  (∃ config maxFleshPerTick opts, run.calls[i]? = some (.pass config maxFleshPerTick opts)) ∧
    eventsOf i run.events = es

/-- What the policy asks of a row that has gone from `row` to `ready`, when the pass has begun with
`listed` under its id. -/
structure Gated (listed row ready : BacklogRow) (w : World) : Prop where
  allowed : matchesHighRiskDenylist [ready.dispatchBody, some ready.title] = none
  authored : autoRunRisk.contains listed.riskClass
  known : ∀ d ∈ ready.dependencies, (w.row? d).isSome
  reviewed : isFleshable row.readinessState

def Gates : Prop :=
  ∀ i f fs, run.IsPass i (f :: fs) → ∀ e ∈ fs, ∀ itemId row ready,
    e.before.row? itemId = some row → World.row? e.after itemId = some ready →
    row.readinessState ≠ .ready → ready.readinessState = .ready →
    ∃ listed, f.before.row? itemId = some listed ∧ Gated listed row ready e.after

/-- The pass has listed the row with a risk class that may run unattended, and its UPDATE finds the
row as it has listed it and as it has read it again. -/
def settled (listed item row : BacklogRow) : Bool :=
  autoRunRisk.contains listed.riskClass && row.title = listed.title &&
    item.dispatchBody = listed.dispatchBody && row.dispatchBody = listed.dispatchBody &&
    row.readinessState = item.readinessState

/-- The event promotes no row but a settled one of a pass that has listed `w`. -/
def promotesSettled (w : World) (e : Event sql World) : Bool :=
  match e.stmt with
  | .update (.recordFleshOutcome item outcome _) => !outcome.promotes ||
      (w.row? outcome.itemId).all fun listed => (e.before.row? outcome.itemId).all fun row =>
        settled listed item row
  | _ => true

def Settles : Prop :=
  ∀ i f fs, run.IsPass i (f :: fs) → ∀ e ∈ fs, promotesSettled f.before e

end FleshRun

variable (config : FleshConfig)

/-- What a pass writes of a candidate: the outcome of `fleshItem`. -/
def WritesOutcome (knownItemIds : List String) (budget : Option Int)
    (candidates : List BacklogRow) (u : UpdateStmt) : Prop :=
  ∃ candidate ∈ candidates, ∃ item now, isFleshable item.readinessState ∧
    u = .recordFleshOutcome item
      (fleshOutcome candidate (fleshItem ⟨candidate, config, knownItemIds, budget⟩)) now

theorem fleshCandidates_meet (knownItemIds : List String)
    (budget : Option Int) (candidates : List BacklogRow) (summary : FleshRunSummary) :
    (Program.fold candidates summary (fleshCandidate config knownItemIds budget)).Meets
      (Stmt.Quiet (WritesOutcome config knownItemIds budget candidates)) fun _ => True := by
  apply Program.Meets.fold
  intro summary candidate hcandidate
  rw [fleshCandidate]
  cases hdry : summary.dryRun with
  | true => trivial
  | false =>
    apply Program.Meets.bind
    · apply recordFleshOutcome_meets
      intro item now _ hstate
      exact ⟨candidate, hcandidate, item, now, hstate, rfl⟩
    intro _ _
    apply (insertFleshLog_meets trivial).bind
    intro _ _
    trivial

theorem runFleshPass_meets (maxFleshPerTick : Int) (opts : FleshRunOptions) :
    (runFleshPass config maxFleshPerTick opts).Meets (Stmt.Quiet fun u => ∃ item outcome now,
      isFleshable item.readinessState ∧ u = .recordFleshOutcome item outcome now)
      fun _ => True := by
  refine ⟨trivial, fun rows => ⟨trivial, fun rows' => ?_⟩⟩
  apply (fleshCandidates_meet config _ _ _ _).mono _ fun _ _ => trivial
  intro c hc
  cases c with
  | update u =>
    obtain ⟨candidate, _, item, now, hstate, rfl⟩ := hc
    exact ⟨item, _, now, hstate, rfl⟩
  | insert row => exact hc
  | _ => trivial

theorem fleshItem_autoReady (h : (fleshItem input).readyDecision = .autoReady) :
    matchesHighRiskDenylist [some (fleshItem input).dispatchBody, some input.item.title] = none ∧
      ∀ d ∈ input.item.dependencies, d ∈ input.knownItemIds := by
  have hreasons : (fleshDecision input).reasons = [] := by
    have hdecision : (if (fleshDecision input).reasons.isEmpty then ReadyDecision.autoReady
      else .needsChrisBatch) = .autoReady := h
    split at hdecision
    · next hempty => exact isEmpty_iff.mp hempty
    · cases hdecision
  simp only [fleshDecision, evaluateAutoReady, autoReadyReasons, append_eq_nil_iff,
    errorIf] at hreasons
  obtain ⟨⟨⟨⟨⟨hdeny, _⟩, _⟩, _⟩, hdependencies⟩, _⟩ := hreasons
  constructor
  · split at hdeny
    · cases hdeny
    · next hnone => exact hnone
  · intro d hd
    simp only [ite_eq_right_iff, Bool.not_eq_true', isEmpty_eq_false_iff] at hdependencies
    by_contra hunknown
    have hmem : d ∈ input.item.dependencies.filter fun d => !input.knownItemIds.contains d := by
      simp [hd, hunknown]
    exact absurd (hdependencies (ne_nil_of_mem hmem)) (cons_ne_nil _ _)

theorem fleshItem_body (h : isAuthored input.item.dispatchBody) :
    some (fleshItem input).dispatchBody = input.item.dispatchBody := by
  obtain ⟨body, hbody, htrim⟩ := (Option.any_eq_true _ _).mp h
  change some ((input.item.dispatchBody.filter fun body => trim body ≠ "").getD _) = _
  rw [hbody, Option.filter_some, if_pos htrim, Option.getD_some]

theorem mem_of_limitTo (h : row ∈ limitTo limit rows) : row ∈ rows := by
  rw [limitTo] at h
  split at h
  · exact h
  · exact mem_of_mem_take h

theorem mem_of_fleshCandidates (h : row ∈ fleshCandidates limit itemIds rows) : row ∈ rows := by
  simp only [fleshCandidates] at h
  split at h
  · exact mem_of_mem_filter (mem_of_mem_filter (mem_orderBy.mp (mem_of_limitTo h)))
  · exact mem_of_mem_filter (mem_of_mem_filter (mem_orderBy.mp h))

namespace FleshRun

theorem IsPass.events {run : FleshRun} (h : run.IsPass i (f :: fs)) (he : e ∈ fs) :
    e.stmt = .select ∨ ∃ g gs config knownItemIds budget candidates,
      fs = g :: gs ∧ e ∈ gs ∧ (∀ row ∈ candidates, row ∈ f.before.backlog.rows) ∧
      (∀ d ∈ knownItemIds, (g.before.row? d).isSome) ∧
      e.stmt.Quiet (WritesOutcome config knownItemIds budget candidates) := by
  obtain ⟨⟨config, maxFleshPerTick, opts, hcall⟩, hevents⟩ := h
  have hthread : run.threads[i]? =
      some (FleshCall.prog (.pass config maxFleshPerTick opts)) := by
    rw [threads, getElem?_map, hcall]
    rfl
  obtain ⟨q, _, hl⟩ := interleave_leads run.schedule run.start hthread
  change Leads _ ((eventsOf i run.events).map Event.observed) q at hl
  rw [hevents] at hl
  obtain ⟨w, rfl, hlisted⟩ := Leads.issue_head hl
  cases fs with
  | nil => cases he
  | cons g gs =>
    obtain ⟨v, rfl, hknown⟩ := Leads.issue_head hlisted
    rcases mem_cons.mp he with rfl | hmem
    · exact .inl rfl
    · right
      let candidates := fleshCandidates (opts.limit.getD maxFleshPerTick) opts.itemIds
        w.backlog.rows
      let knownItemIds := v.backlog.rows.map (·.itemId)
      refine ⟨_, gs, config, knownItemIds, opts.remainingDaemonBudget, candidates, rfl, hmem,
        fun row hrow => mem_of_fleshCandidates hrow, fun d hd => ?_, ?_⟩
      · obtain ⟨row, hrow, rfl⟩ := mem_map.mp hd
        change (World.row? v row.itemId).isSome
        rw [World.row?_of_mem hrow]
        rfl
      · have hmeets := (fleshCandidates_meet config knownItemIds opts.remainingDaemonBudget
          candidates ⟨opts.dryRun, candidates.length, 0, 0, []⟩).bind
          (T := fun _ => True) (f := fun _ => Program.ret ()) fun _ _ => trivial
        exact (hknown.meets hmeets).2 e.observed (mem_map_of_mem hmem)

theorem row?_later {run : FleshRun} (h : eventsOf i run.events = es ++ f :: fs) (he : e ∈ fs)
    (hrow : (f.before.row? itemId).isSome) : (World.row? e.after itemId).isSome := by
  obtain ⟨gs, hs, rfl⟩ := append_of_mem he
  obtain ⟨ks, hchain, _⟩ := interleave_order h
  have hf : (World.row? f.after itemId).isSome := f.stmt.row?_isSome_effect hrow
  have he' := (hchain.invariant (I := fun w => (World.row? w itemId).isSome) hf
    fun g _ hg => g.stmt.row?_isSome_effect hg).1
  exact e.stmt.row?_isSome_effect he'

theorem promoted_fields (item : BacklogRow) (outcome : FleshOutcome)
    (now : Instant) (row : BacklogRow) (hpatch : outcome.patch = some patch)
    (hpromote : outcome.promote = true) :
    let ready := (UpdateStmt.recordFleshOutcome item outcome now).set row
    ready.title = row.title ∧ ready.dependencies = patch.dependencies ∧ ready.dispatchBody =
        if isAuthored item.dispatchBody then row.dispatchBody else some patch.dispatchBody := by
  simp only [UpdateStmt.set, hpatch, hpromote, if_true]
  exact ⟨rfl, rfl, rfl⟩

theorem gated_of_settled (h : settled input.item item row)
    (hready : (fleshItem input).readyDecision = .autoReady)
    (hitem : isFleshable item.readinessState)
    (hknown : ∀ d ∈ input.knownItemIds, (w.row? d).isSome) (now : Instant) :
    Gated input.item row ((UpdateStmt.recordFleshOutcome item
      (fleshOutcome input.item (fleshItem input)) now).set row) w := by
  simp only [settled, Bool.and_eq_true, decide_eq_true_eq] at h
  obtain ⟨⟨⟨⟨hrisk, hlistedTitle⟩, hread⟩, hfound⟩, hstate⟩ := h
  obtain ⟨hallowed, hdependencies⟩ := fleshItem_autoReady hready
  obtain ⟨htitle, hneeds, hbody⟩ := promoted_fields item
    (fleshOutcome input.item (fleshItem input)) now row rfl (by simp [fleshOutcome, hready])
  have hjudged : ((UpdateStmt.recordFleshOutcome item (fleshOutcome input.item
      (fleshItem input)) now).set row).dispatchBody = some (fleshItem input).dispatchBody := by
    rw [hbody]
    split
    · next hauthored =>
      rw [hread] at hauthored
      rw [hfound, fleshItem_body hauthored]
    · rfl
  constructor
  · rw [hjudged, htitle, hlistedTitle]
    exact hallowed
  · exact hrisk
  · rw [hneeds]
    intro d hd
    exact hknown d (hdependencies d hd)
  · rw [hstate]
    exact hitem

/-- In every run whose promotions are settled, every row a flesh pass moves to ready is gated. -/
theorem Settles.gates {run : FleshRun} (h : run.Settles) : run.Gates := by
  intro i f fs hpass e he itemId row ready hbefore hafter hnot hready
  rcases e.stmt.row?_effect hbefore with hsame | ⟨u, hu, rfl, _, hset⟩
  · obtain rfl := Option.some.inj (hsame.symm.trans hafter)
    exact absurd hready hnot
  obtain rfl := Option.some.inj (hset.symm.trans hafter)
  rcases hpass.events he with hselect | ⟨g, gs, config, knownItemIds, budget, candidates, rfl,
    hgs, hcandidates, hknown, hupdates⟩
  · rw [hselect] at hu
    cases hu
  rw [hu] at hupdates
  obtain ⟨candidate, hcandidate, item, now, hitem, rfl⟩ := hupdates
  have hdecision : (fleshItem ⟨candidate, config, knownItemIds, budget⟩).readyDecision =
      .autoReady := by
    by_contra hheld
    apply hnot
    simpa [UpdateStmt.set, fleshOutcome, hheld, UpdateStmt.applyPatch, UpdateStmt.stampFlesh]
      using hready
  have hlisted : f.before.row? candidate.itemId = some candidate :=
    World.row?_of_mem (hcandidates candidate hcandidate)
  refine ⟨candidate, hlisted, ?_⟩
  have hpromotes : (fleshOutcome candidate
      (fleshItem ⟨candidate, config, knownItemIds, budget⟩)).promotes := by
    simp [FleshOutcome.promotes, fleshOutcome, hdecision]
  have hsettled : settled candidate item row := by
    have hpromotion := h i f (g :: gs) hpass e he
    simp only [promotesSettled, hu, hpromotes, Bool.not_true, Bool.false_or] at hpromotion
    change (f.before.row? candidate.itemId).all (fun listed =>
      (e.before.row? candidate.itemId).all fun row => settled listed item row) at hpromotion
    have hfound : e.before.row? candidate.itemId = some row := hbefore
    rwa [hlisted, hfound] at hpromotion
  apply gated_of_settled hsettled hdecision hitem _ now
  intro d hd
  have hsplit : eventsOf i run.events = [f] ++ g :: gs := hpass.2
  exact row?_later hsplit hgs (hknown d hd)

end FleshRun

/-- A world that holds `rows` and an empty queue, before any step. -/
def World.holding (rows : List BacklogRow) : World where
  backlog := .ofRows rows
  scheduler := .start [] .quiet
  step := 0
  env := {
    clock := fun n => n
    mintItemId := fun n => s!"{n}"
    fails := fun _ => false
    orchestrationState := fun n => {
      teamId := "default", mode := .running, consecutiveZeroTicks := 0,
      lastAdmissionBlockReasons := .empty, lastTickAt := none, lastDispatchAt := none,
      autoPaused := false, autoPauseReason := none, updatedAt := s!"{n}" }
    killSwitchActive := fun _ => false
    readUsage := fun _ => ⟨false, 0⟩
    diskHeadroom := fun _ => none
    readyItemBlockers := fun _ => .empty
    agents := fun _ => []
    allocateWorktree := fun _ agent _ pool => .ok (pool.repoRoot ++ "/.worktrees/" ++ agent)
    enqueuePayload := fun n item =>
      .ok ⟨s!"query_{n}", item.title, item.dispatchBody.getD "", .claudeCodeCli⟩
    reliabilityClassification := fun _ _ => none }

variable (riskClass : RiskClass)

def authoredRow : BacklogRow :=
  insertedRow {
    title := "wipe it"
    track := some "T-ORCH"
    toAgent := some "roger"
    dispatchBody := some "[project: kapelle][T-1] roger: test, promote"
    readinessState := some .needsReview
    riskClass := some riskClass } "item" 0

def fleshAlone : FleshRun where
  calls := [.pass defaultFleshConfig 5 {}]
  schedule := List.replicate 8 0
  start := .holding [authoredRow riskClass]

/-- The pass lists the row of that class, and its fifth statement moves it to ready. -/
def promotesListed : Bool :=
  let events := eventsOf 0 (fleshAlone riskClass).events
  events[0]?.any (fun f => f.before.row? "item" = some (authoredRow riskClass)) &&
    events.tail[3]?.any fun e =>
      (e.before.row? "item").any (·.readinessState = .needsReview) &&
        (World.row? e.after "item").any (·.readinessState = .ready)

theorem fleshAlone_isPass (h : eventsOf 0 (fleshAlone riskClass).events = f :: fs) :
    (fleshAlone riskClass).IsPass 0 (f :: fs) :=
  ⟨⟨_, _, _, rfl⟩, h⟩

theorem destructive_promoted : promotesListed .destructive := by decide +kernel

theorem not_gates : ¬ (fleshAlone .destructive).Gates := by
  intro h
  have hpromoted := destructive_promoted
  rw [promotesListed] at hpromoted
  generalize hevents : eventsOf 0 (fleshAlone .destructive).events = events at hpromoted
  cases events with
  | nil => simp at hpromoted
  | cons f fs =>
    simp only [getElem?_cons_zero, tail_cons, Option.any_some, Bool.and_eq_true,
      decide_eq_true_eq, Option.any_eq_true] at hpromoted
    obtain ⟨hlisted, e, he, ⟨row, hrow, hreview⟩, ready, hready, hstate⟩ := hpromoted
    have hnot : row.readinessState ≠ .ready := by
      rw [hreview]
      decide
    obtain ⟨listed, hlisted', hgated⟩ := h 0 f fs (fleshAlone_isPass .destructive hevents) e
      (mem_of_getElem? he) "item" row ready hrow hready hnot hstate
    cases hlisted.symm.trans hlisted'
    exact absurd hgated.authored (by decide)

def settlesAlone : Bool :=
  match eventsOf 0 (fleshAlone riskClass).events with
  | [] => true
  | f :: fs => fs.all (FleshRun.promotesSettled f.before)

theorem gates_build : promotesListed .build ∧ (fleshAlone .build).Gates := by
  refine ⟨by decide +kernel, FleshRun.Settles.gates ?_⟩
  have hsettles : settlesAlone .build := by decide +kernel
  intro i f fs hpass e he
  obtain ⟨⟨config, maxFleshPerTick, opts, hcall⟩, hevents⟩ := hpass
  obtain rfl : i = 0 := by
    cases i with
    | zero => rfl
    | succ i => cases hcall
  rw [settlesAlone, hevents] at hsettles
  exact all_eq_true.mp hsettles e he

end IdAgents.Orchestration
