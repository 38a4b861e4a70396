import IdAgents.Supervisor.Alerts

namespace IdAgents.Supervisor
open JsText JsMap List

def QueueRow.isTerminal (d : QueueRow) : Bool :=
  d.status = .done || d.status = .failed || d.status = .cancelled

/-- `WHERE team_id = $1 AND status IN (…) AND completed_at >= $2` -/
def finishedSince (teamId : String) (since : Instant) (d : QueueRow) : Bool :=
  d.teamId = teamId && d.isTerminal && d.completedAt.any (since ≤ ·)

/-- `ORDER BY completed_at DESC` -/
def laterFirst (a b : QueueRow) : Bool := b.completedAt.getD 0 ≤ a.completedAt.getD 0

def readTerminalDispatches (teamId : String) (queue : List QueueRow) (since : Instant) :
    List QueueRow :=
  ((queue.filter (finishedSince teamId since)).mergeSort laterFirst).take 100

/-- A tick beside the terminal dispatches: whether their read fails, what `evaluateStuckQueries` and
`evaluateAgentDown` find before them, and what `evaluateRepeatedNewsErrors` finds after them. -/
structure TickSources where
  terminalFails : Bool := false
  before : List RuleFinding := []
  after : List RuleFinding := []

def evaluateAllRules (sources : TickSources) (snapshot : SourceSnapshot) :
    Except String (List RuleFinding) :=
  (evaluatePromotionFailures snapshot).map fun promotions =>
    sources.before ++ (evaluateModelApiErrors snapshot ++ (evaluateBuildFailures snapshot ++
      (promotions ++ sources.after)))

structure SupervisorWatcher where
  lastTerminalCheck : Instant
  alertState : AlertStateManager

def SupervisorWatcher.new (now : Instant) (alertState : AlertStateManager) : SupervisorWatcher :=
  ⟨now - 3600000, alertState⟩

structure World where
  queue : List QueueRow
  clock : Instant
  watcher : SupervisorWatcher
  sink : List SupervisorAlertRecord := []

namespace World

def collectSources (w : World) (teamId : String) (sources : TickSources) : SourceSnapshot where
  collectedAt := w.clock
  terminalDispatches := if sources.terminalFails then []
    else readTerminalDispatches teamId w.queue w.watcher.lastTerminalCheck

def tick (w : World) (enabled : Bool) (teamId : String) (sources : TickSources) : World :=
  if !enabled then w
  else match evaluateAllRules sources (w.collectSources teamId sources) with
  | .error _ => w
  | .ok findings =>
    { w with
      watcher.lastTerminalCheck := w.clock
      watcher.alertState := (w.watcher.alertState.processTick findings w.clock).2
      sink := w.sink ++ (w.watcher.alertState.processTick findings w.clock).1 }

def finished (w : World) (d : QueueRow) : QueueRow := { d with completedAt := some w.clock }

def finish (w : World) (d : QueueRow) : World :=
  if w.queue.any (·.dispatchPhid = d.dispatchPhid) then w
  else { w with queue := w.queue ++ [w.finished d] }

end World

inductive Step where
  | advance (ms : Nat)
  | finish (d : QueueRow)
  | tick (sources : TickSources)

structure WatcherRun where
  teamId : String
  enabled : Bool
  queue : List QueueRow
  started : Instant
  replayed : AlertStateManager := {}
  steps : List Step

namespace WatcherRun
section
variable (run : WatcherRun)

def step (w : World) : Step → World
  | .advance ms => { w with clock := w.clock + ms }
  | .finish d => w.finish d
  | .tick sources => w.tick run.enabled run.teamId sources

def start : World where
  queue := run.queue
  clock := run.started
  watcher := .new run.started run.replayed

def world (n : Nat) : World := (run.steps.take n).foldl run.step run.start

def IsTick (k : Nat) : Prop := ∃ sources, run.steps[k]? = some (.tick sources)

/-- Step `k` is a tick that reads the terminal dispatches. -/
def Reads (k : Nat) (sources : TickSources) : Prop :=
  run.enabled ∧ run.steps[k]? = some (.tick sources) ∧ sources.terminalFails = false

end

/-- A dispatch of the watched team finishes at step `m`, and step `k` is the first later tick that
reads the terminal dispatches. -/
structure FirstRead (run : WatcherRun) (m k : Nat) (d : QueueRow) (sources : TickSources) :
    Prop where
  finishes : run.steps[m]? = some (.finish d)
  watched : d.teamId = run.teamId
  once : (run.world m).queue.any (·.dispatchPhid = d.dispatchPhid) = false
  later : m < k
  reads : run.Reads k sources
  first : ∀ j, m < j → j < k → ∀ other, ¬ run.Reads j other

def Flags (now : Instant) (d : QueueRow) (finding : RuleFinding) : Prop :=
  d.modelApiError now = some finding ∨ d.buildFailure now = some finding ∨
    d.promotionFailure now = .ok (some finding)

def Opened (w : World) (d : QueueRow) (finding : RuleFinding) : Prop :=
  ∃ record ∈ w.sink, record.status = .opened ∧ record.dedupeKey = finding.dedupeKey ∧
    record.dispatchId = some d.dispatchPhid

def AlertsAll (run : WatcherRun) : Prop :=
  ∀ (m k : Nat) (d : QueueRow) sources finding, run.FirstRead m k d sources →
    Flags (run.world k).clock ((run.world m).finished d) finding →
      Opened (run.world (k + 1)) d finding

/-- Tick `k` is not too late for the dispatch that has finished at `m`, nor is it crowded out. -/
structure InSight (run : WatcherRun) (m k : Nat) (d : QueueRow) (sources : TickSources)
    (finding : RuleFinding) : Prop where
  punctual : ∀ j, m < j → j < k → run.IsTick j → (run.world j).clock = (run.world m).clock
  few : (run.world k).queue.countP (fun row =>
    finishedSince run.teamId (run.world k).watcher.lastTerminalCheck row &&
      (run.world m).clock ≤ row.completedAt.getD 0) ≤ 100
  sound : ∀ row ∈ ((run.world k).collectSources run.teamId sources).terminalDispatches,
    (row.promotionFailure (run.world k).clock).isOk
  closed : (run.world k).watcher.alertState.openAlerts.get? finding.dedupeKey = none
  own : ∀ findings other, evaluateAllRules sources
    ((run.world k).collectSources run.teamId sources) = .ok findings →
    findings.find? (·.dedupeKey = finding.dedupeKey) = some other →
    other.dispatchId = some d.dispatchPhid

def NothingMissed (run : WatcherRun) : Prop :=
  ∀ (m k : Nat) (d : QueueRow) sources finding, run.FirstRead m k d sources →
    Flags (run.world k).clock ((run.world m).finished d) finding →
      run.InSight m k d sources finding

end WatcherRun

theorem WatcherRun.Flags.terminal (h : WatcherRun.Flags now d finding) : d.isTerminal := by
  have hstatus : d.status = .failed ∨ d.status = .done := by
    rcases h with h | h | h
    · left
      rw [QueueRow.modelApiError] at h
      by_contra hnot
      rw [if_pos hnot] at h
      cases h
    · left
      rw [QueueRow.buildFailure] at h
      by_contra hnot
      rw [if_pos hnot] at h
      cases h
    · right
      rw [QueueRow.promotionFailure] at h
      by_contra hnot
      rw [if_pos hnot] at h
      cases h
  rw [QueueRow.isTerminal]
  rcases hstatus with h | h <;> simp [h]

theorem promotionFailures_ok (h : ∀ d ∈ ds, (d.promotionFailure now).isOk) :
    ∃ findings, promotionFailures now ds = .ok findings := by
  induction ds with
  | nil => exact ⟨[], rfl⟩
  | cons d ds ih =>
    obtain ⟨findings, hrest⟩ := ih fun e he => h e (mem_cons_of_mem _ he)
    have hd := h d mem_cons_self
    cases hfound : d.promotionFailure now with
    | error why =>
      rw [hfound] at hd
      cases hd
    | ok finding =>
      refine ⟨finding.toList ++ findings, ?_⟩
      rw [promotionFailures, hfound, hrest]
      rfl

theorem mem_promotionFailures (h : promotionFailures now ds = .ok findings)
    (hd : d ∈ ds) (hfound : d.promotionFailure now = .ok (some finding)) : finding ∈ findings := by
  induction ds generalizing findings with
  | nil => cases hd
  | cons e ds ih =>
    rw [promotionFailures] at h
    cases he : e.promotionFailure now with
    | error why =>
      rw [he] at h
      cases h
    | ok first =>
      rw [he] at h
      cases hrest : promotionFailures now ds with
      | error why =>
        rw [hrest] at h
        cases h
      | ok rest =>
        rw [hrest] at h
        cases h
        rcases mem_cons.mp hd with rfl | hd
        · rw [hfound] at he
          cases he
          exact mem_cons_self
        · exact mem_append_right _ (ih hrest hd)

theorem mem_evaluateAllRules {snapshot : SourceSnapshot}
    (h : evaluateAllRules sources snapshot = .ok findings) (hd : d ∈ snapshot.terminalDispatches)
    (hflags : WatcherRun.Flags snapshot.collectedAt d finding) : finding ∈ findings := by
  unfold evaluateAllRules evaluatePromotionFailures at h
  cases hpromotions : promotionFailures snapshot.collectedAt snapshot.terminalDispatches with
  | error why =>
    rw [hpromotions] at h
    cases h
  | ok promotions =>
    rw [hpromotions] at h
    cases h
    apply mem_append_right
    rcases hflags with hfound | hfound | hfound
    · exact mem_append_left _ (mem_filterMap.mpr ⟨d, hd, hfound⟩)
    · apply mem_append_right
      exact mem_append_left _ (mem_filterMap.mpr ⟨d, hd, hfound⟩)
    · apply mem_append_right
      apply mem_append_right
      exact mem_append_left _ (mem_promotionFailures hpromotions hd hfound)

theorem mem_take_of_countP {α : Type} {r : α → α → Prop} {l : List α} {a : α}
    (hsorted : l.Pairwise r) (p : α → Bool) (ha : a ∈ l) (hself : p a) (hbefore : ∀ b, r b a → p b)
    (hfew : l.countP p ≤ n) : a ∈ l.take n := by
  obtain ⟨s, t, rfl⟩ := append_of_mem ha
  have hs : s.countP p = s.length := by
    rw [countP_eq_length]
    intro b hb
    exact hbefore b ((pairwise_append.mp hsorted).2.2 b hb a mem_cons_self)
  rw [countP_append, hs, countP_cons_of_pos hself] at hfew
  have hlength : s.length < n := by omega
  rw [take_append, mem_append]
  right
  obtain ⟨j, hj⟩ : ∃ j, n - s.length = j + 1 := ⟨n - s.length - 1, by omega⟩
  rw [hj, take_succ_cons]
  exact mem_cons_self

theorem laterFirst_total (a b : QueueRow) : laterFirst a b || laterFirst b a := by
  simp only [laterFirst, Bool.or_eq_true, decide_eq_true_eq]
  exact Int.le_total _ _

theorem laterFirst_trans (a b c : QueueRow) (h : laterFirst a b) (h' : laterFirst b c) :
    laterFirst a c := by
  simp only [laterFirst, decide_eq_true_eq] at h h' ⊢
  exact Int.le_trans h' h

theorem mem_readTerminalDispatches {queue : List QueueRow} {since : Instant} (hd : d ∈ queue)
    (hsince : finishedSince teamId since d)
    (hfew : queue.countP (fun row => finishedSince teamId since row &&
      d.completedAt.getD 0 ≤ row.completedAt.getD 0) ≤ 100) :
    d ∈ readTerminalDispatches teamId queue since := by
  have hperm := mergeSort_perm (queue.filter (finishedSince teamId since)) laterFirst
  apply mem_take_of_countP (r := fun a b => laterFirst a b)
    (pairwise_mergeSort laterFirst_trans laterFirst_total _)
    fun row => d.completedAt.getD 0 ≤ row.completedAt.getD 0
  · exact hperm.mem_iff.mpr (mem_filter.mpr ⟨hd, hsince⟩)
  · exact decide_eq_true (Int.le_refl _)
  · intro row hrow
    exact hrow
  · rw [hperm.countP_eq, countP_filter]
    have hsame : queue.countP (fun row =>
        decide (d.completedAt.getD 0 ≤ row.completedAt.getD 0) && finishedSince teamId since row) =
        queue.countP (fun row => finishedSince teamId since row &&
          decide (d.completedAt.getD 0 ≤ row.completedAt.getD 0)) :=
      countP_congr fun row _ => by rw [Bool.and_comm]
    rw [hsame]
    exact hfew

theorem World.tick_queue (w : World) (enabled : Bool) (teamId : String) (sources : TickSources) :
    (w.tick enabled teamId sources).queue = w.queue := by
  rw [World.tick]
  split
  · rfl
  · split <;> rfl

theorem World.tick_clock (w : World) (enabled : Bool) (teamId : String) (sources : TickSources) :
    (w.tick enabled teamId sources).clock = w.clock := by
  rw [World.tick]
  split
  · rfl
  · split <;> rfl

theorem World.tick_marker (w : World) (enabled : Bool) (teamId : String) (sources : TickSources) :
    (w.tick enabled teamId sources).watcher.lastTerminalCheck = w.watcher.lastTerminalCheck ∨
      (w.tick enabled teamId sources).watcher.lastTerminalCheck = w.clock := by
  rw [World.tick]
  split
  · exact .inl rfl
  · split
    · exact .inl rfl
    · exact .inr rfl

theorem World.tick_sink (henabled : enabled = true)
    (hfindings : evaluateAllRules sources (World.collectSources w teamId sources) = .ok findings) :
    (w.tick enabled teamId sources).sink =
      w.sink ++ (w.watcher.alertState.processTick findings w.clock).1 := by
  rw [World.tick]
  rw [henabled, hfindings]
  rfl

theorem World.mem_finish {w : World} (hd : d ∈ w.queue) (other : QueueRow) :
    d ∈ (w.finish other).queue := by
  rw [World.finish]
  split
  · exact hd
  · exact mem_append_left _ hd

theorem World.finish_clock (w : World) (d : QueueRow) : (w.finish d).clock = w.clock := by
  rw [World.finish]
  split <;> rfl

theorem World.finish_watcher (w : World) (d : QueueRow) : (w.finish d).watcher = w.watcher := by
  rw [World.finish]
  split <;> rfl

theorem World.finished_mem {w : World} (h : w.queue.any (·.dispatchPhid = d.dispatchPhid) = false) :
    w.finished d ∈ (w.finish d).queue := by
  rw [World.finish]
  rw [h]
  exact mem_append_right _ (mem_singleton_self _)

namespace WatcherRun
variable {run : WatcherRun}

theorem world_succ (h : run.steps[n]? = some s) : run.world (n + 1) = run.step (run.world n) s := by
  rw [world]
  rw [take_add_one, h, Option.toList_some, foldl_append]
  rfl

theorem world_end (h : run.steps[n]? = none) : run.world (n + 1) = run.world n := by
  unfold world
  rw [take_add_one, h, Option.toList_none, append_nil]

theorem queue_step (hd : d ∈ (run.world n).queue) : d ∈ (run.world (n + 1)).queue := by
  cases h : run.steps[n]? with
  | none =>
    rw [world_end h]
    exact hd
  | some s =>
    rw [world_succ h]
    cases s with
    | advance ms => exact hd
    | finish other => exact World.mem_finish hd other
    | tick sources =>
      rw [step, World.tick_queue]
      exact hd

theorem queue_mono (hmn : m ≤ n) (hd : d ∈ (run.world m).queue) : d ∈ (run.world n).queue := by
  induction hmn with
  | refl => exact hd
  | step _ ih => exact queue_step ih

theorem marker_le_clock (run : WatcherRun) (n : Nat) :
    (run.world n).watcher.lastTerminalCheck ≤ (run.world n).clock := by
  induction n with
  | zero =>
    exact Int.sub_le_self run.started (by decide)
  | succ n ih =>
    cases h : run.steps[n]? with
    | none =>
      rw [world_end h]
      exact ih
    | some s =>
      rw [world_succ h]
      cases s with
      | advance ms =>
        exact Int.le_trans ih (Int.le_add_of_nonneg_right (Int.natCast_nonneg ms))
      | finish d =>
        rw [step, World.finish_watcher, World.finish_clock]
        exact ih
      | tick sources =>
        rw [step, World.tick_clock]
        rcases World.tick_marker (run.world n) run.enabled run.teamId sources with hkept | hset
        · rw [hkept]
          exact ih
        · exact Int.le_of_eq hset

theorem marker_le_finished (hpunctual : ∀ j, m < j → j < k → run.IsTick j →
      (run.world j).clock = (run.world m).clock)
    (hfinish : run.steps[m]? = some (.finish d)) (hn : m < n) (hnk : n ≤ k) :
    (run.world n).watcher.lastTerminalCheck ≤ (run.world m).clock := by
  induction hn with
  | refl =>
    rw [world_succ hfinish, step, World.finish_watcher]
    exact run.marker_le_clock m
  | @step n hn ih =>
    have ih := ih (by omega)
    cases h : run.steps[n]? with
    | none =>
      rw [world_end h]
      exact ih
    | some s =>
      rw [world_succ h]
      cases s with
      | advance ms => exact ih
      | finish d =>
        rw [step, World.finish_watcher]
        exact ih
      | tick sources =>
        rcases World.tick_marker (run.world n) run.enabled run.teamId sources with hkept | hset
        · rw [step, hkept]
          exact ih
        · rw [step, hset]
          exact Int.le_of_eq (hpunctual n hn (by omega) ⟨sources, h⟩)

theorem InSight.mem (h : run.InSight m k d sources finding) (hread : run.FirstRead m k d sources)
    (hflags : Flags (run.world k).clock ((run.world m).finished d) finding) :
    (run.world m).finished d ∈
      ((run.world k).collectSources run.teamId sources).terminalDispatches := by
  have hreads : sources.terminalFails = false := hread.reads.2.2
  rw [World.collectSources]
  rw [hreads]
  apply mem_readTerminalDispatches
  · apply queue_mono (m := m + 1) hread.later
    rw [world_succ hread.finishes]
    exact World.finished_mem hread.once
  · have hmarker := marker_le_finished h.punctual hread.finishes hread.later (Nat.le_refl k)
    rw [finishedSince]
    rw [hflags.terminal]
    refine Bool.and_eq_true_iff.mpr ⟨?_, decide_eq_true hmarker⟩
    exact Bool.and_eq_true_iff.mpr ⟨decide_eq_true hread.watched, rfl⟩
  · exact h.few

/-- A run in which no flagged dispatch is missed alerts all of them. -/
theorem alertsAll_of_nothingMissed (run : WatcherRun) (h : run.NothingMissed) : run.AlertsAll := by
  intro m k d sources finding hread hflags
  have hsight := h m k d sources finding hread hflags
  obtain ⟨promotions, hpromotions⟩ := promotionFailures_ok hsight.sound
  obtain ⟨findings, hfindings⟩ : ∃ findings, evaluateAllRules sources
      ((run.world k).collectSources run.teamId sources) = .ok findings := by
    unfold evaluateAllRules evaluatePromotionFailures
    exact ⟨_, congrArg (Except.map _) hpromotions⟩
  have hmem : finding ∈ findings :=
    mem_evaluateAllRules hfindings (hsight.mem hread hflags) hflags
  obtain ⟨other, hother⟩ : ∃ other,
      findings.find? (·.dedupeKey = finding.dedupeKey) = some other := by
    apply Option.isSome_iff_exists.mp
    exact find?_isSome.mpr ⟨finding, hmem, decide_eq_true rfl⟩
  have hopened := AlertStateManager.processTick_open hsight.closed hother (run.world k).clock
  have hown := hsight.own findings other hfindings hother
  refine ⟨other.record .opened (run.world k).clock (run.world k).clock, ?_, rfl, ?_, hown⟩
  · rw [world_succ hread.reads.2.1, step, World.tick_sink hread.reads.1 hfindings]
    exact mem_append_right _ hopened
  · have hkey := find?_some hother
    exact of_decide_eq_true hkey

end WatcherRun

def exhausted : QueueRow where
  teamId := "t1"
  dispatchPhid := "d1"
  queryId := "q1"
  toAgent := "a1"
  status := .failed
  completedAt := none
  subject := "Write the report"
  failureKind := some "model_api_error_exhausted"
  failureDetail := none
  promote := false
  promotionResult := .null
  promotionInput := .null

def alertedRun : WatcherRun where
  teamId := "t1"
  enabled := true
  queue := []
  started := 1780000000000
  steps := [.finish exhausted, .advance 30000, .tick {}]

theorem alertedRun_nothingMissed : alertedRun.NothingMissed := by
  intro m k d sources finding hread hflags
  obtain rfl : m = 0 := by
    have hm := hread.finishes
    rcases m with _ | _ | _ | m
    · rfl
    · cases hm
    · cases hm
    · cases hm
  cases hread.finishes
  obtain rfl : k = 2 := by
    have hk := hread.reads.2.1
    rcases k with _ | _ | _ | k
    · cases hk
    · cases hk
    · rfl
    · cases hk
  cases hread.reads.2.1
  have hkey : finding.dedupeKey = "model_api_error:d1" := by
    rcases hflags with h | h | h
    · have hfound : (((alertedRun.world 0).finished exhausted).modelApiError
          (alertedRun.world 2).clock).map (·.dedupeKey) = some "model_api_error:d1" := by
        decide +kernel
      rw [h] at hfound
      exact Option.some.inj hfound
    · have hnone : ((alertedRun.world 0).finished exhausted).buildFailure
          (alertedRun.world 2).clock = none := by decide +kernel
      cases hnone.symm.trans h
    · cases h
  refine ⟨?_, by decide +kernel, by decide +kernel, ?_, ?_⟩
  · intro j hj hjk htick
    obtain rfl : j = 1 := by omega
    obtain ⟨_, hstep⟩ := htick
    cases hstep
  · rw [hkey]
    decide +kernel
  · intro findings other hfindings hother
    have hall : (evaluateAllRules {} ((alertedRun.world 2).collectSources "t1" {})).toOption.any
        (fun found => found.all (·.dispatchId = some "d1")) := by decide +kernel
    have hfindings : evaluateAllRules {} ((alertedRun.world 2).collectSources "t1" {}) =
      .ok findings := hfindings
    rw [hfindings] at hall
    have hother := all_eq_true.mp hall other (mem_of_find?_eq_some hother)
    exact of_decide_eq_true hother

theorem alertsAll_alertedRun : alertedRun.AlertsAll :=
  alertedRun.alertsAll_of_nothingMissed alertedRun_nothingMissed

def missedRun : WatcherRun :=
  { alertedRun with
    steps := [.finish exhausted, .advance 30000, .tick { terminalFails := true }, .advance 30000,
      .tick {}] }

/-- The failed read moves the marker past the dispatch. -/
theorem not_alertsAll : ¬ ∀ run : WatcherRun, run.AlertsAll := by
  intro h
  have hread : missedRun.FirstRead 0 4 exhausted {} :=
    { finishes := rfl
      watched := rfl
      once := rfl
      later := by decide
      reads := ⟨rfl, rfl, rfl⟩
      first := by
        intro j hj hjk other hreads
        obtain ⟨_, hstep, hread⟩ := hreads
        obtain rfl | rfl | rfl : j = 1 ∨ j = 2 ∨ j = 3 := by omega
        · cases hstep
        · cases hstep
          cases hread
        · cases hstep }
  obtain ⟨finding, hfinding⟩ : ∃ finding,
      ((missedRun.world 0).finished exhausted).modelApiError (missedRun.world 4).clock =
        some finding := ⟨_, rfl⟩
  obtain ⟨record, hrecord, _⟩ := h missedRun 0 4 exhausted {} finding hread (.inl hfinding)
  have hnone : (missedRun.world 5).sink = [] := by decide +kernel
  rw [hnone] at hrecord
  cases hrecord

end IdAgents.Supervisor
