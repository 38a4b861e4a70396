import IdAgents.Scheduler.Sweeps

namespace IdAgents
open JsText KeyedTable AtomicProgram

/-- Activities in progress together: `schedule` names, step by step, the activity whose next
statement reaches the database. -/
structure Overlap where
  activities : List Activity
  schedule : List Nat
  start : World

namespace Overlap

def threads (run : Overlap) : List (Labelled Unit) := run.activities.map Activity.prog

def events (run : Overlap) : List (Nat × Event (sql.tagged Label) World) :=
  interleaveEvents run.schedule run.threads run.start

end Overlap

def Label.isSweep : Label → Bool
  | on .evidence _ | on .stale _ => true
  | _ => false

def SweepsSpare (run : Overlap) : Prop :=
  ∀ e ∈ run.events, (e.2.stmt : Label × Stmt).1.isSweep → ∀ p row, e.2.before.row? p = some row →
    row.status ≠ .inFlight → e.2.after.row? p = some row

def UpdateStmt.actsInFlight (u : UpdateStmt) (w : World) : Bool :=
  match u with
  | .markFailed p _ _ =>
    (w.row? p).all fun row => row.status = .inFlight || row.status = .done || row.status = .cancelled
  | .markBounced doc _ _ | .markRetryExhausted doc _ _ => doc.status = .inFlight
  | _ => true

def sweepsInFlight (e : Event (sql.tagged Label) World) : Bool :=
  match (e.stmt : Label × Stmt) with
  | (l, .update u) => !l.isSweep || u.actsInFlight e.before
  | _ => true

def SweepStmt : Label × Stmt → Prop
  | (l, .update u) => l.isSweep → u.Sweeps
  | _ => True

abbrev Sweeping (c : Stmt) : Prop := ∀ l, SweepStmt (l, c)

theorem sweeping_quiet : Quiet Sweeping := by
  intro c hc l
  cases c <;> trivial

theorem sweeping_reaps : Reaps Sweeping where
  quiet := sweeping_quiet
  reap _ hu _ _ := hu

abbrev Sparing (p : Labelled α) : Prop := p.Meets SweepStmt fun _ => True

theorem Sparing.bind (h : Sparing p) (hf : ∀ a, Sparing (f a)) : Sparing (p.bind f) :=
  Program.Meets.bind h fun a _ => hf a

theorem Sparing.map {p : Labelled α} (h : Sparing p) (f : α → β) : Sparing (f <$> p) :=
  h.bind fun _ => trivial

theorem sparing_of_not_sweep {p : Prog α} (hl : l.isSweep = false) : Sparing (p.tag l) := by
  induction p with
  | ret a => trivial
  | throw e => trivial
  | issue c k ih =>
    refine ⟨?_, fun a => ih a⟩
    cases c with
    | update u =>
      intro h
      rw [hl] at h
      cases h
    | _ => trivial

theorem sparing_of_sweeping (h : Allowed Sweeping p) : Sparing (p.tag l) :=
  (h.tag l).mono (fun c hc => hc c.1) fun _ h => h

theorem sweep_sparing {body : Instant → TickReport → DispatchDoc → Prog TickReport}
    {list : Prog (Result (List DispatchDoc))} {label : DispatchDoc → Label}
    (h : ∀ now report doc, Sparing ((body now report doc).tag (label doc))) (report : TickReport) :
    Sparing (do
      match ← list.tag Label.tick with
        | .error _ => return report
        | .ok docs =>
          let now ← nowFn.tag Label.tick
          Program.fold docs report fun report doc =>
            (body now report doc).tag (label doc) : Labelled TickReport) := by
  apply (sparing_of_not_sweep rfl).bind
  intro r
  cases r with
  | error e => trivial
  | ok docs =>
    apply (sparing_of_not_sweep rfl).bind
    intro now
    exact Program.Meets.fold _ fun report doc _ => h now report doc

theorem claimAndStartLane_sparing : Sparing (claimAndStartLane opts provider state) := by
  apply (sparing_of_not_sweep rfl).bind
  rintro ⟨filter, state⟩
  cases filter with
  | none => trivial
  | some filter =>
    apply (sparing_of_not_sweep rfl).bind
    intro r
    cases r with
    | error e => trivial
    | ok claimed =>
      apply Sparing.bind
      · exact Program.Meets.fold _ fun _ _ _ => sparing_of_not_sweep rfl
      · intros
        trivial

theorem tick_sparing : Sparing (tick opts) := by
  have hlane : ∀ state provider, Sparing (tickLane opts state provider) := by
    intro state provider
    have hevidence : Sparing (applyQueryEvidenceToInFlight opts provider state.report) := by
      rw [applyQueryEvidenceToInFlight]
      split
      · trivial
      · exact sweep_sparing (fun _ _ _ => sparing_of_sweeping (applyEvidence_allowed sweeping_reaps)) _
    apply hevidence.bind
    intro report
    apply (sweep_sparing (fun _ _ _ => sparing_of_not_sweep rfl) report).bind
    intro report
    apply (sweep_sparing (fun _ _ _ => sparing_of_sweeping (failStale_allowed sweeping_reaps)) report).bind
    intro report
    apply (sweep_sparing (fun _ _ _ => sparing_of_not_sweep rfl) report).bind
    intro report
    exact claimAndStartLane_sparing
  apply Sparing.bind
  · exact Program.Meets.fold _ fun state provider _ => hlane state provider
  · intros
    trivial

theorem runOnce_sparing : Sparing (runOnce opts) := by
  rw [runOnce]
  split
  · trivial
  · apply (sparing_of_not_sweep rfl).bind
    intro r
    cases r with
    | error e => trivial
    | ok docs => exact Program.Meets.fold _ fun _ _ _ => sparing_of_not_sweep rfl

theorem Activity.prog_sparing (a : Activity) : Sparing a.prog := by
  cases a with
  | call | agentDone => exact (sparing_of_not_sweep rfl).map _
  | tick => exact tick_sparing.map _
  | recovery => exact runOnce_sparing.map _

theorem Overlap.sweep_stmt (run : Overlap) (h : e ∈ run.events) : SweepStmt e.2.stmt := by
  apply interleaveEvents_meet (Q := fun _ => SweepStmt) (R := fun _ => True) run.schedule run.start
    _ e h
  intro i p hp
  have hthread : ∃ a, run.activities[i]? = some a ∧ p = a.prog := by
    simpa [threads, List.getElem?_map, eq_comm] using hp
  obtain ⟨a, _, rfl⟩ := hthread
  exact a.prog_sparing

theorem UpdateStmt.Sweeps.inFlight {u : UpdateStmt} (h : u.Sweeps) (hc : u.actsInFlight w)
    (hrow : w.row? u.phid = some row) (hg : u.guard row) : row.status = .inFlight := by
  cases u with
  | markDone => simpa [guard] using hg
  | markFailed p args now =>
    have hrow' : w.row? p = some row := hrow
    simp only [actsInFlight, hrow', Option.all_some, Bool.or_eq_true, decide_eq_true_eq] at hc
    obtain (hs | hs) | hs := hc
    · exact hs
    all_goals
      simp only [guard, hs] at hg
      cases hg
  | markBounced doc | markRetryExhausted doc =>
    have hdoc : doc.status = .inFlight := by simpa [actsInFlight] using hc
    have hs : row.status = doc.status := by simpa [guard] using hg
    exact hs.trans hdoc
  | _ => cases h

/-- In every interleaving in which failures hit dispatches in flight and bounces were decided on
them, the two sweeps change no other dispatch. -/
theorem sweeps_spare (run : Overlap) (hc : ∀ e ∈ run.events, sweepsInFlight e.2) :
    SweepsSpare run := by
  intro e he hl p row hrow hs
  obtain hkeep | ⟨u, hw, rfl⟩ := row?_after e.2 hrow
  · exact hkeep
  · obtain ⟨⟨l, hstmt⟩, _, hg, _⟩ := wrote_eq_some hw
    have hsweeps := run.sweep_stmt he
    have hacts := hc e he
    rw [hstmt] at hsweeps hl
    have hl : l.isSweep := hl
    simp only [sweepsInFlight, hstmt, hl, Bool.not_true, Bool.false_or] at hacts
    exact absurd ((hsweeps hl : u.Sweeps).inFlight hacts hrow hg) hs

def runningRow : Row :=
  { freshRow "d" with
    status := .inFlight
    attemptCount := 1
    startedAt := some 0
    agentQueryId := some "q1" }

def overtakenSweep (op : Op) : Overlap where
  activities := [.tick { policy := POLICY_DEFAULTS }, .call op]
  schedule := List.replicate 4 0 ++ List.replicate 8 1 ++ List.replicate 5 0
  start := .start [runningRow]
    { Environment.quiet with getEvidence := fun _ _ => .ok (some ⟨"failed", none, none⟩) }

def askingSweep : Overlap :=
  overtakenSweep (.markNeedsClarification "d" { agentId := "coder", question := "which branch?" })

/-- A sweep's event that changes the row of `p`, which was not in flight. -/
def overwrites (p : String) (e : Nat × Event (sql.tagged Label) World) : Bool :=
  (e.2.stmt : Label × Stmt).1.isSweep &&
    match e.2.before.row? p, e.2.after.row? p with
    | some row, some row' => row.status ≠ .inFlight && row'.status ≠ row.status
    | _, _ => false

theorem asking_overwritten : askingSweep.events.any (overwrites "d") := by
  decide +kernel

/-- The sweep fails the dispatch that waits for the answer to its question. -/
theorem not_sweeps_spare : ¬ SweepsSpare askingSweep := by
  intro h
  obtain ⟨e, he, hover⟩ := List.any_eq_true.mp asking_overwritten
  simp only [overwrites, Bool.and_eq_true] at hover
  obtain ⟨hl, hchanged⟩ := hover
  split at hchanged
  · next row row' hrow hrow' =>
    simp only [Bool.and_eq_true, decide_eq_true_eq] at hchanged
    obtain ⟨hs, hne⟩ := hchanged
    have hkept := h e he hl "d" row hrow hs
    rw [hrow'] at hkept
    obtain rfl := Option.some.inj hkept
    exact hne rfl
  · cases hchanged

/-- The agent reports its work done instead. -/
theorem sweeps_spare_reported :
    SweepsSpare (overtakenSweep (.markDoneWithResult "d" { result := none })) :=
  sweeps_spare _ (by decide +kernel)

end IdAgents
