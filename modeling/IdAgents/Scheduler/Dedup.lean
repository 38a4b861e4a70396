import IdAgents.Scheduler.Operation

namespace IdAgents
open JsText KeyedTable AtomicProgram

def isFinished (s : SchedulerStatus) : Bool := s = .done || s = .cancelled

def FinishedIsKept (run : Run) : Prop :=
  ∀ m n phid row, m ≤ n → (run.after m).row? phid = some row → isFinished row.status →
    ∃ row', (run.after n).row? phid = some row' ∧ row'.status = row.status

def UpdateStmt.writesStatusUnguarded : UpdateStmt → Bool
  | .markNeedsClarification .. | .resumeAfterClarification .. | .markResumeDeliveryFailed .. => true
  | _ => false

def sparesFinished (e : Event sql World) : Bool :=
  match e.stmt with
  | .update u =>
    !u.writesStatusUnguarded || (e.before.row? u.phid).all fun row => !isFinished row.status
  | _ => true

theorem isTerminal_of_isFinished (h : isFinished s) : isTerminal s := by
  cases s <;> simp_all [isFinished, isTerminal]

variable {u : UpdateStmt}

theorem UpdateStmt.set_status_of_finished (hi : u.Issued)
    (hu : u.writesStatusUnguarded = false) (hg : u.guard row) (hf : isFinished row.status) :
    (u.set row).status = row.status := by
  have ht := isTerminal_of_isFinished hf
  cases u with
  | runClaim | acceptQueued | acceptInFlight | markDone | markFailed | requeueAfterBounce
  | requeueForRecovery | markRecoveryLanded => simp_all [guard, isFinished]
  | doneWithResult required =>
    obtain rfl | rfl := hi <;> simp_all [guard, isFinished]
  | markBounced doc | cancel doc | markRetryExhausted doc =>
    have hs : row.status = doc.status := by simpa [guard] using hg
    rw [hs, hi] at ht
    cases ht
  | markNeedsClarification | resumeAfterClarification | markResumeDeliveryFailed => cases hu
  | markResumeDelivered | recordResumeDeliveryRepair | markClarificationStale
  | recordPromotionResult | markMoot | markSuperseded | recordRecoveryOutcome => rfl

variable {e : Event sql World}

theorem finished_step (hi : e.stmt.Issued) (hs : sparesFinished e)
    (h : ∃ row, e.before.row? phid = some row ∧ row.status = s ∧ isFinished s) :
    ∃ row, e.after.row? phid = some row ∧ row.status = s ∧ isFinished s := by
  obtain ⟨row, hrow, rfl, hf⟩ := h
  obtain hkeep | ⟨u, hu, rfl, hg, hset⟩ := e.stmt.row?_effect hrow
  · exact ⟨row, hkeep, rfl, hf⟩
  · rw [hu] at hi
    have hun : u.writesStatusUnguarded = false := by
      simpa [sparesFinished, hu, hrow, hf] using hs
    exact ⟨u.set row, hset, u.set_status_of_finished hi hun hg hf, hf⟩

/-- In every run whose unguarded status UPDATEs spare finished dispatches, all of them stay
finished. -/
theorem finished_is_kept (run : Run) (h : ∀ e ∈ run.events, sparesFinished e.2) :
    FinishedIsKept run := by
  intro m n phid row hmn hrow hf
  obtain ⟨es, hchain, hes⟩ := run.between hmn
  obtain ⟨⟨row', hrow', hs, _⟩, _⟩ := hchain.invariant
    (I := fun w => ∃ r, w.row? phid = some r ∧ r.status = row.status ∧ isFinished row.status)
    ⟨row, hrow, rfl, hf⟩ fun e he => by
      obtain ⟨i, hi⟩ := hes e he
      exact finished_step (run.events_issued hi) (h _ hi)
  exact ⟨row', hrow', hs⟩

def pausedRow : Row :=
  { freshRow "d" with
    status := .needsClarification
    clarificationId := some "clar_1"
    activeClarification := some ⟨"clar_1", "coder", none, "which branch?", none, .normal, 0, 9⟩ }

def lateDeliveryFailure : Run where
  calls := [.resumeAfterClarification "d" { answer := "main" },
    .markQueuedDoneWithResult "d" { result := none },
    .markResumeDeliveryFailed "d" { clarificationId := "clar_1", failureDetail := "timeout" }]
  schedule := [0, 0, 0, 0, 1, 1, 1, 1, 2, 2, 2, 2]
  start := .start [pausedRow] .quiet

theorem late_delivery_failure_status :
    ((lateDeliveryFailure.after 8).row? "d").map (·.status) = some .done ∧
      ((lateDeliveryFailure.after 12).row? "d").map (·.status) = some .resumeDeliveryFailed := by
  decide +kernel

theorem finished_is_not_kept : ¬ FinishedIsKept lateDeliveryFailure := by
  intro h
  obtain ⟨hdone, hfailed⟩ := late_delivery_failure_status
  obtain ⟨row, hrow, hs⟩ := Option.map_eq_some_iff.mp hdone
  obtain ⟨row', hrow', hs'⟩ := h 8 12 "d" row (by decide) hrow (by rw [hs]; rfl)
  rw [hrow', Option.map_some, Option.some.injEq, hs', hs] at hfailed
  cases hfailed

def overtakenCancel : Run where
  calls := [.resumeAfterClarification "d" { answer := "main" },
    .markQueuedDoneWithResult "d" { result := none }, .cancel "d" "operator"]
  schedule := [0, 0, 0, 0, 2, 2, 1, 1, 1, 1, 2, 2]
  start := .start [pausedRow] .quiet

theorem finished_is_kept_overtaken : FinishedIsKept overtakenCancel :=
  finished_is_kept _ (by decide +kernel)

def isSettled (s : RecoveryStatus) : Bool :=
  s = .moot || s = .landedReconciled || s = .verifiedDone || s = .retryDone

/-- The dispatch runs, waits for an answer or a retry, or is queued and due at `now`. -/
def isClaimableOrRunning (now : Instant) (row : Row) : Bool :=
  (row.status = .queued && row.notBeforeAt ≤ now) || row.status = .bounced ||
    row.status = .inFlight || row.status = .needsClarification ||
    row.status = .resumeDeliveryFailed

/-- At `now` the dispatch `phid` can run for the logical work `key`. -/
def World.CanRun (w : World) (now : Instant) (key phid : String) : Prop :=
  ∃ row, w.row? phid = some row ∧ row.dedupKey = some key ∧ isClaimableOrRunning now row

/-- Once the call has ended, it has returned the dispatch `phid`. -/
def Run.Returns (run : Run) (i : Nat) (phid : String) : Prop :=
  ∀ q, (interleave run.schedule run.threads run.start).1[i]? = some q → q.ended →
    ∃ doc, q = .ret (.doc doc) ∧ doc.dispatchPhid = phid

structure Run.Deduplicates (run : Run) : Prop where
  one : ∀ n now key p q, (run.after n).CanRun now key p → (run.after n).CanRun now key q → p = q
  /-- The dispatch can run when an enqueue, its clock once read, looks for it. -/
  reused : ∀ i input key, run.calls[i]? = some (.enqueue input) → input.dedupKey = some key →
    ∀ e f es, eventsOf i run.events = e :: f :: es →
    ∀ now phid, f.before.CanRun now key phid → run.Returns i phid
  /-- The dispatch can run when an enqueue inserts its own. -/
  refused : ∀ i input key, run.calls[i]? = some (.enqueue input) → input.dedupKey = some key →
    ∀ row w, (i, (⟨.insert row, w⟩ : Event sql World)) ∈ run.events →
    ∀ now phid, w.CanRun now key phid → Stmt.answer (.insert row) w = none
  /-- The dispatch can run when an enqueue goes on after its insert. -/
  joined : ∀ i input key, run.calls[i]? = some (.enqueue input) → input.dedupKey = some key →
    ∀ es row e f fs, eventsOf i run.events = es ++ e :: f :: fs → e.stmt = .insert row →
    ∀ now phid, f.before.CanRun now key phid → run.Returns i phid

def UpdateStmt.settles : UpdateStmt → Bool
  | .markMoot .. | .markSuperseded .. => true
  | .recordRecoveryOutcome _ status _ _ => isSettled status
  | _ => false

def sparesKeyed (e : Event sql World) : Bool :=
  match e.stmt with
  | .update u => (e.before.row? u.phid).all fun row => row.dedupKey.isNone ||
      ((!u.settles || isTerminal row.status) &&
        (!u.writesStatusUnguarded || !isSettled row.recoveryStatus))
  | _ => true

def World.NoneMooted (w : World) : Prop :=
  ∀ row ∈ w.table.rows, row.dedupKey.isSome → isTerminal row.status = false →
    isSettled row.recoveryStatus = false

structure Run.KeepsKeys (run : Run) : Prop where
  start : run.start.NoneMooted
  spares : ∀ e ∈ run.events, sparesKeyed e.2
  keyed : ∀ i input, run.calls[i]? = some (.enqueue input) → input.dedupKey = some "" →
    ∀ e, (i, e) ∈ run.events → ∀ row ∈ e.before.table.rows, row.dedupKey = some "" →
      isTerminal row.status

theorem isActiveForDedup_eq (row : Row) :
    isActiveForDedup row = (!isTerminal row.status && !isSettled row.recoveryStatus) := by
  unfold isActiveForDedup isTerminal isSettled
  cases row.status <;> simp

theorem isTerminal_of_claimable (h : isClaimableOrRunning now row) :
    isTerminal row.status = false := by
  rw [isClaimableOrRunning] at h
  cases hs : row.status <;> simp_all [isTerminal]

variable {w : World}

theorem World.CanRun.active (hw : w.NoneMooted) (h : w.CanRun now key phid) :
    ∃ row ∈ w.table.rows, row.dispatchPhid = phid ∧ row.dedupKey = some key ∧
      isActiveForDedup row := by
  obtain ⟨row, hrow, hkey, hrun⟩ := h
  obtain ⟨hmem, hphid⟩ := World.row?_mem hrow
  have hlive := isTerminal_of_claimable hrun
  have hposture := hw row hmem (by rw [hkey]; rfl) hlive
  refine ⟨row, hmem, hphid, hkey, ?_⟩
  rw [isActiveForDedup_eq, hlive, hposture]
  rfl

theorem entry_of_active {row : Row} (h : isActiveForDedup row) : Schema.entry row = row.dedupKey :=
  if_pos h

theorem active_unique {t : Table Row} (hr : r ∈ t.rows) (hs : s ∈ t.rows)
    (hrk : r.dedupKey = some key) (hsk : s.dedupKey = some key) (hra : isActiveForDedup r)
    (hsa : isActiveForDedup s) : r = s := by
  apply Table.eq_of_entry hr hs
  · rw [entry_of_active hra, hrk]
  · rw [entry_of_active hsa, hsk]

theorem World.CanRun.unique (hw : w.NoneMooted) (hp : w.CanRun now key p)
    (hq : w.CanRun now' key q) : p = q := by
  obtain ⟨r, hr, rfl, hrk, hra⟩ := hp.active hw
  obtain ⟨s, hs, rfl, hsk, hsa⟩ := hq.active hw
  rw [active_unique hr hs hrk hsk hra hsa]

theorem UpdateStmt.set_live (hi : u.Issued) (hg : u.guard row)
    (h : isTerminal (u.set row).status = false) :
    isTerminal row.status = false ∨ u.writesStatusUnguarded ∨
      (u.set row).recoveryStatus = .recovering := by
  cases u with
  | markNeedsClarification | resumeAfterClarification | markResumeDeliveryFailed =>
    exact .inr (.inl rfl)
  | requeueForRecovery => exact .inr (.inr rfl)
  | runClaim | acceptQueued | acceptInFlight | requeueAfterBounce =>
    left
    simp_all [guard, isTerminal]
  | markBounced doc =>
    have hs : row.status = doc.status := by simpa [guard] using hg
    exact .inl (hs ▸ hi)
  | markDone | doneWithResult | markFailed | cancel | markRetryExhausted | markRecoveryLanded =>
    cases h
  | markResumeDelivered | recordResumeDeliveryRepair | markClarificationStale
  | recordPromotionResult | markMoot | markSuperseded | recordRecoveryOutcome => exact .inl h

theorem UpdateStmt.set_posture (u : UpdateStmt) (row : Row) (hu : u.settles = false) :
    (u.set row).recoveryStatus = row.recoveryStatus ∨
      isSettled (u.set row).recoveryStatus = false ∨ isTerminal (u.set row).status := by
  cases u with
  | markMoot | markSuperseded => cases hu
  | requeueForRecovery => exact .inr (.inl rfl)
  | recordRecoveryOutcome => exact .inr (.inl hu)
  | markRecoveryLanded => exact .inr (.inr rfl)
  | _ => exact .inl rfl

theorem UpdateStmt.set_status_of_settles (hu : u.settles) : (u.set row).status = row.status := by
  cases u with
  | markMoot | markSuperseded | recordRecoveryOutcome => rfl
  | _ => cases hu

theorem UpdateStmt.set_dedupKey (u : UpdateStmt) (row : Row) :
    (u.set row).dedupKey = row.dedupKey := by
  cases u <;> rfl

theorem noneMooted_step (hi : e.stmt.Issued) (hs : sparesKeyed e)
    (h : e.before.NoneMooted) : e.after.NoneMooted := by
  intro row hrow hkey hlive
  rcases Stmt.mem_effect hrow with hmem | hinsert | ⟨u, hu, old, hold, hhits, rfl⟩
  · exact h row hmem hkey hlive
  · rw [hinsert] at hi
    obtain ⟨input, promotion, phid, now, rfl⟩ := hi
    rfl
  · rw [hu] at hi
    obtain ⟨hphid, hg⟩ := UpdateStmt.hits_iff.mp hhits
    rw [u.set_dedupKey] at hkey
    have hfound : e.before.row? u.phid = some old := hphid ▸ World.row?_of_mem hold
    have hnone : old.dedupKey.isNone = false := by simpa using hkey
    have hspares : (u.settles = false ∨ isTerminal old.status) ∧
        (u.writesStatusUnguarded = false ∨ isSettled old.recoveryStatus = false) := by
      simpa [sparesKeyed, hu, hfound, hnone] using hs
    have hbefore : isTerminal old.status = false → isSettled old.recoveryStatus = false :=
      h old hold hkey
    cases hset : u.settles with
    | true =>
      have hterminal : isTerminal old.status := by simpa [hset] using hspares.1
      rw [u.set_status_of_settles hset, hterminal] at hlive
      cases hlive
    | false =>
      rcases u.set_posture old hset with hsame | hopen | hterminal
      · rcases u.set_live hi hg hlive with hbefore | hunguarded | hrecovering
        · rw [hsame]
          exact h old hold hkey hbefore
        · have hopen : isSettled old.recoveryStatus = false := by
            simpa [hunguarded] using hspares.2
          rw [hsame]
          exact hopen
        · rw [hrecovering]
          rfl
      · exact hopen
      · rw [hlive] at hterminal
        cases hterminal

theorem Run.noneMooted (run : Run) (h : run.KeepsKeys) :
    (∀ n, (run.after n).NoneMooted) ∧ ∀ e ∈ run.events, e.2.before.NoneMooted := by
  have hstep : ∀ i e, (i, e) ∈ run.events → e.before.NoneMooted → e.after.NoneMooted :=
    fun i e he => noneMooted_step (run.events_issued he) (h.spares _ he)
  constructor
  · intro n
    obtain ⟨es, hchain, hes⟩ := run.between (Nat.zero_le n)
    apply (hchain.invariant h.start _).1
    intro e he
    obtain ⟨i, hi⟩ := hes e he
    exact hstep i e hi
  · rintro ⟨i, e⟩ he
    have hchain := interleave_chain run.schedule run.threads run.start
    apply (hchain.invariant h.start _).2 e (List.mem_map_of_mem he)
    intro f hf
    obtain ⟨⟨j, f⟩, hj, rfl⟩ := List.mem_map.mp hf
    exact hstep j f hj

theorem World.CanRun.head (hw : w.NoneMooted) (h : w.CanRun now key phid) (le : Row → Row → Bool) :
    ∃ row, (orderBy le (w.table.rows.filter fun row =>
      row.dedupKey = some key && isActiveForDedup row)).head? = some row ∧
        row.dispatchPhid = phid := by
  obtain ⟨row, hmem, hphid, hkey, hactive⟩ := h.active hw
  generalize hsorted : orderBy le _ = sorted
  have hsub : ∀ r, r ∈ sorted ↔
      r ∈ w.table.rows ∧ r.dedupKey = some key ∧ isActiveForDedup r := by
    intro r
    rw [← hsorted, orderBy, List.mem_insertionSort, List.mem_filter]
    simp
  have hin : row ∈ sorted := (hsub row).mpr ⟨hmem, hkey, hactive⟩
  cases sorted with
  | nil => cases hin
  | cons r rest =>
    obtain ⟨hr, hrkey, hractive⟩ := (hsub r).mp List.mem_cons_self
    have hsame : r = row := active_unique hr hmem hrkey hkey hractive hactive
    exact ⟨r, rfl, hsame ▸ hphid⟩

variable {es : List (Event sql World)} {input : EnqueueInput}

theorem findExisting_leads {f : Option DispatchDoc → Prog α} (hkey : input.dedupKey = some key)
    (hne : key ≠ "") (hw : e.before.NoneMooted) (h : e.before.CanRun now key phid)
    (hl : Leads ((findExisting input).bind f) ((e :: es).map Event.observed) q) (hq : q.ended) :
    ∃ g gs, es = g :: gs ∧
      Leads (f ((g.before.row? phid).map rowToDoc)) (gs.map Event.observed) q := by
  have hlookup : findExisting input = findActiveByDedupKey key := by
    simp [findExisting, hkey, hne]
  rw [hlookup] at hl
  obtain ⟨w, fs, hes, hl⟩ := Leads.issue_events (S := sql) (c := .select) hl hq
  obtain ⟨rfl, rfl⟩ := List.cons.inj hes
  obtain ⟨row, hhead, rfl⟩ := h.head hw fun a b => a.updatedAt < b.updatedAt ||
    (a.updatedAt = b.updatedAt && a.dispatchPhid ≤ b.dispatchPhid)
  have hread : ∀ found : List Row → Prog (Option DispatchDoc),
      ((Program.ret w.table.rows).bind found).bind f = (found w.table.rows).bind f := fun _ => rfl
  change Leads (((Program.ret w.table.rows).bind _).bind f) _ q at hl
  rw [hread] at hl
  dsimp only at hhead hl
  rw [hhead] at hl
  obtain ⟨w', gs, hgs, hrest⟩ := Leads.issue_events (S := sql) (c := .select) hl hq
  exact ⟨_, gs, hgs, hrest⟩

theorem row?_isSome_chain {w' : World} (h : Chain w es w')
    (hrow : (w.row? phid).isSome) : (w'.row? phid).isSome :=
  (h.invariant (I := fun w => (w.row? phid).isSome) hrow fun e _ =>
    e.stmt.row?_isSome_effect).1

variable {run : Run}

theorem Run.row?_isSome_later {gs : List (Event sql World)}
    {g : Event sql World} (h : eventsOf i run.events = es ++ e :: g :: gs)
    (hrow : e.before.CanRun now key phid) :
    ∃ row, g.before.row? phid = some row ∧ row.dispatchPhid = phid := by
  obtain ⟨row, hrow, _⟩ := hrow
  have hcut : eventsOf i run.events = es ++ e :: ([] ++ g :: gs) := h
  obtain ⟨fs, hchain, _⟩ := interleave_order hcut
  have hafter : (e.after.row? phid).isSome :=
    e.stmt.row?_isSome_effect (by rw [hrow]; rfl)
  obtain ⟨row', hrow'⟩ := Option.isSome_iff_exists.mp (row?_isSome_chain hchain hafter)
  exact ⟨row', hrow', (World.row?_mem hrow').2⟩

def afterRefusal : Option DispatchDoc → Prog OpResult
  | some existing => .ret (.doc existing)
  | none => .throw .uniqueConstraint
section
variable (input : EnqueueInput)

def fromInsert (row : Row) : Prog OpResult :=
  .issue (S := sql) (.insert row) fun inserted : Option Unit =>
    match inserted with
    | some _ => .ret (.doc (rowToDoc row))
    | none => (findExisting input).bind afterRefusal

def afterLookup (now : Instant) : Option DispatchDoc → Prog OpResult
  | some existing => .ret (.doc existing)
  | none => .issue (S := sql) .mintPhid fun phid =>
    match defaultPromotionFields input with
    | .error message => .throw (.other message)
    | .ok promotion => fromInsert input (enqueuedRow input promotion phid now)

theorem Op.prog_enqueue : Op.prog (.enqueue input) =
    .issue (S := sql) .now fun now => (findExisting input).bind (afterLookup input now) := by
  change Program.issue (S := sql) .now (fun now => Program.bind (Program.bind (findExisting input) _) _) = _
  congr 1
  funext now
  rw [Program.bind_assoc]
  congr 1
  funext existing
  cases existing with
  | some existing => rfl
  | none =>
    change Program.issue (S := sql) .mintPhid (fun phid => Program.bind _ _) = _
    simp only [afterLookup]
    congr 1
    funext phid
    cases defaultPromotionFields input with
    | error message => rfl
    | ok promotion =>
      change Program.issue (S := sql) (.insert _) (fun inserted => Program.bind _ _) = _
      simp only [fromInsert]
      congr 1
      funext inserted
      cases (inserted : Option Unit) with
      | some _ => rfl
      | none =>
        change Program.bind (Program.bind (findExisting input) _) _ = _
        rw [Program.bind_assoc]
        congr 1
        funext existing
        cases existing <;> rfl

end

theorem returned_again {gs : List (Event sql World)} {g : Event sql World}
    {f : Option DispatchDoc → Prog OpResult} (hf : ∀ doc, f (some doc) = .ret (.doc doc))
    (h : eventsOf i run.events = es ++ e :: g :: gs) (hrow : e.before.CanRun now key phid)
    (hl : Leads (f ((g.before.row? phid).map rowToDoc)) (gs.map Event.observed) q) :
    ∃ doc, q = .ret (.doc doc) ∧ doc.dispatchPhid = phid := by
  obtain ⟨row, hfound, hphid⟩ := run.row?_isSome_later h hrow
  rw [hfound, Option.map_some, hf] at hl
  exact ⟨rowToDoc row, hl.of_ret.2, hphid⟩

theorem Run.enqueue_leads (hcall : run.calls[i]? = some (.enqueue input))
    (hq : (interleave run.schedule run.threads run.start).1[i]? = some q) :
    Leads (Op.prog (.enqueue input)) ((eventsOf i run.events).map Event.observed) q := by
  have hthread : run.threads[i]? = some (Op.prog (.enqueue input)) := by
    rw [threads, List.getElem?_map, hcall]
    rfl
  obtain ⟨q', hq', hl⟩ := interleave_leads run.schedule run.start hthread
  cases hq.symm.trans hq'
  exact hl

theorem Run.KeepsKeys.before (h : run.KeepsKeys)
    (he : e ∈ eventsOf i run.events) : e.before.NoneMooted :=
  (run.noneMooted h).2 (i, e) (mem_eventsOf.mp he)

theorem Run.KeepsKeys.key_ne {i : Nat}
    (h : run.KeepsKeys) (hcall : run.calls[i]? = some (.enqueue input))
    (hkey : input.dedupKey = some key) (he : e ∈ eventsOf i run.events)
    (hrow : e.before.CanRun now key phid) : key ≠ "" := by
  rintro rfl
  obtain ⟨row, hmem, _, hrowkey, hactive⟩ := hrow.active (h.before he)
  have hterminal := h.keyed i input hcall hkey e (mem_eventsOf.mp he) row hmem hrowkey
  rw [isActiveForDedup_eq, hterminal] at hactive
  cases hactive

theorem Run.KeepsKeys.reused (h : run.KeepsKeys)
    (hcall : run.calls[i]? = some (.enqueue input)) (hkey : input.dedupKey = some key)
    (hevents : eventsOf i run.events = e :: f :: es) (hrow : f.before.CanRun now key phid) :
    run.Returns i phid := by
  intro q hq hended
  have hl := enqueue_leads hcall hq
  rw [hevents, Op.prog_enqueue] at hl
  obtain ⟨w, fs, hfs, hlookup⟩ := hl.issue_events hended
  obtain ⟨rfl, rfl⟩ := List.cons.inj hfs
  have hf : f ∈ eventsOf i run.events := by
    rw [hevents]
    simp
  obtain ⟨g, gs, rfl, hrest⟩ := findExisting_leads hkey (h.key_ne hcall hkey hf hrow)
    (h.before hf) hrow hlookup hended
  have hcut : eventsOf i run.events = [⟨Stmt.now, w⟩] ++ f :: g :: gs := hevents
  exact returned_again (fun _ => rfl) hcut hrow hrest

theorem append_cons_unique {P : α → Prop} {xs ys us vs : List α} {a b : α}
    (h : xs ++ a :: ys = us ++ b :: vs) (ha : ¬ P a) (hus : ∀ u ∈ us, P u)
    (hvs : ∀ v ∈ vs, P v) : a = b ∧ ys = vs := by
  induction us generalizing xs with
  | nil =>
    cases xs with
    | nil => exact List.cons.inj h
    | cons x xs =>
      obtain ⟨_, hvs'⟩ := List.cons.inj h
      have hmem : a ∈ xs ++ a :: ys := List.mem_append_right xs List.mem_cons_self
      exact absurd (hvs a (hvs' ▸ hmem)) ha
  | cons u us ih =>
    cases xs with
    | nil => exact absurd (hus a (by rw [(List.cons.inj h).1]; exact List.mem_cons_self)) ha
    | cons x xs => exact ih (List.cons.inj h).2 fun v hv => hus v (List.mem_cons_of_mem u hv)

theorem findExisting_quiet
    (h : Leads (findExisting input) (es.map Event.observed) q) : ∀ e ∈ es, e.stmt.isQuiet := by
  have hall := (h.meets (findExisting_allowed (Q := fun c => c.isQuiet) fun _ hc => hc)).2
  intro e he
  exact hall e.observed (List.mem_map_of_mem he)

theorem afterRefusal_quiet
    (h : Leads ((findExisting input).bind afterRefusal) (es.map Event.observed) q)
    (hq : q.ended) : ∀ e ∈ es, e.stmt.isQuiet := by
  rcases h.bind_cases hq with ⟨existing, os, os', hsplit, hlookup, hrest⟩ | ⟨e, _, hlookup⟩
  · obtain ⟨us, vs, rfl, rfl, rfl⟩ := List.map_eq_append_iff.mp hsplit
    have hvs : vs = [] := by
      cases existing with
      | some existing => exact List.map_eq_nil_iff.mp hrest.of_ret.1
      | none => exact List.map_eq_nil_iff.mp hrest.of_throw.1
    rw [hvs, List.append_nil]
    exact findExisting_quiet hlookup
  · exact findExisting_quiet hlookup

theorem enqueue_events
    (h : Leads (Op.prog (.enqueue input)) (es.map Event.observed) q) (hq : q.ended) :
    (∀ e ∈ es, e.stmt.isQuiet) ∨ ∃ us e vs, es = us ++ e :: vs ∧ (∀ u ∈ us, u.stmt.isQuiet) ∧
      (vs = [] ∨ Leads ((findExisting input).bind afterRefusal) (vs.map Event.observed) q) := by
  rw [Op.prog_enqueue] at h
  obtain ⟨w, es, rfl, hlookups⟩ := h.issue_events hq
  rcases hlookups.bind_cases hq with ⟨existing, os, os', hsplit, hlookup, hrest⟩ | ⟨_, _, hlookup⟩
  · obtain ⟨us, vs, rfl, rfl, rfl⟩ := List.map_eq_append_iff.mp hsplit
    have hus := findExisting_quiet hlookup
    cases existing with
    | some existing =>
      obtain rfl : vs = [] := List.map_eq_nil_iff.mp hrest.of_ret.1
      left
      simpa using ⟨rfl, hus⟩
    | none =>
      obtain ⟨w', vs, rfl, hminted⟩ := hrest.issue_events hq
      cases hfields : defaultPromotionFields input with
      | error message =>
        rw [hfields] at hminted
        obtain rfl : vs = [] := List.map_eq_nil_iff.mp hminted.of_throw.1
        left
        intro e he
        simp only [List.mem_cons, List.mem_append, List.not_mem_nil, or_false] at he
        rcases he with rfl | he | rfl
        · rfl
        · exact hus e he
        · rfl
      | ok promotion =>
        rw [hfields] at hminted
        obtain ⟨w'', vs, rfl, hinserted⟩ := hminted.issue_events hq
        right
        have hcut : ∀ x, ⟨Stmt.now, w⟩ :: (us ++ ⟨Stmt.mintPhid, w'⟩ :: x :: vs) =
            ⟨Stmt.now, w⟩ :: us ++ [⟨Stmt.mintPhid, w'⟩] ++ x :: vs := by simp
        refine ⟨_, _, vs, hcut _, ?_, ?_⟩
        · intro e he
          simp only [List.cons_append, List.mem_cons, List.mem_append, List.not_mem_nil,
            or_false] at he
          rcases he with rfl | he | rfl
          · rfl
          · exact hus e he
          · rfl
        · generalize Store.answer (S := sql) _ w'' = inserted at hinserted
          cases (inserted : Option Unit) with
          | some _ => exact .inl (List.map_eq_nil_iff.mp hinserted.of_ret.1)
          | none => exact .inr hinserted
  · left
    simpa using ⟨rfl, findExisting_quiet hlookup⟩

theorem insert_leads (hcall : run.calls[i]? = some (.enqueue input))
    (hq : (interleave run.schedule run.threads run.start).1[i]? = some q) (hended : q.ended)
    {fs : List (Event sql World)} {f : Event sql World}
    (h : eventsOf i run.events = es ++ e :: f :: fs) (he : e.stmt = .insert row) :
    Leads ((findExisting input).bind afterRefusal) ((f :: fs).map Event.observed) q := by
  have hinserts : ¬ e.stmt.isQuiet := by
    rw [he]
    exact Bool.false_ne_true
  rcases enqueue_events (Run.enqueue_leads hcall hq) hended with hquiet | ⟨us, x, vs, hsplit, hus, hvs⟩
  · exact absurd (hquiet e (by rw [h]; simp)) hinserts
  · have hvsq : ∀ v ∈ vs, v.stmt.isQuiet := by
      rcases hvs with rfl | hl
      · simp
      · exact afterRefusal_quiet hl hended
    obtain ⟨_, rfl⟩ := append_cons_unique (h.symm.trans hsplit) hinserts hus hvsq
    rcases hvs with hnil | hl
    · cases hnil
    · exact hl

theorem Run.KeepsKeys.joined (h : run.KeepsKeys)
    (hcall : run.calls[i]? = some (.enqueue input)) (hkey : input.dedupKey = some key)
    (hevents : eventsOf i run.events = es ++ e :: f :: fs) (he : e.stmt = .insert row)
    (hrow : f.before.CanRun now key phid) : run.Returns i phid := by
  intro q hq hended
  have hl := insert_leads hcall hq hended hevents he
  have hf : f ∈ eventsOf i run.events := by
    rw [hevents]
    simp
  obtain ⟨g, gs, rfl, hrest⟩ := findExisting_leads hkey (h.key_ne hcall hkey hf hrow)
    (h.before hf) hrow hl hended
  have hsplit : eventsOf i run.events = (es ++ [e]) ++ f :: g :: gs := by
    rw [hevents, List.append_assoc, List.singleton_append]
  exact returned_again (fun _ => rfl) hsplit hrow hrest

theorem Run.inserted_active (hcall : run.calls[i]? = some (.enqueue input))
    (he : (i, (⟨.insert row, w⟩ : Event sql World)) ∈ run.events) :
    row.dedupKey = input.dedupKey ∧ isActiveForDedup row := by
  have hmeets := interleaveEvents_meet (R := fun _ => True)
    (Q := fun j c => ∀ op row, run.calls[j]? = some op → c = Stmt.insert row → op.Inserts row)
    run.schedule run.start (fun j p hp => by
      obtain ⟨op, hop, rfl⟩ := thread_call hp
      apply op.prog_allowed
      · intro c hc op' row' _ hrow'
        rw [hrow'] at hc
        cases hc
      · intro row' hrow' op' row'' hop' heq
        cases hop.symm.trans hop'
        cases heq
        exact hrow'
      · intro u _ op' row' _ heq
        cases heq) _ he
  obtain ⟨promotion, phid, now, rfl⟩ := hmeets _ row hcall rfl
  exact ⟨rfl, rfl⟩

theorem Run.KeepsKeys.refused (h : run.KeepsKeys)
    (hcall : run.calls[i]? = some (.enqueue input)) (hkey : input.dedupKey = some key)
    (he : (i, (⟨.insert row, w⟩ : Event sql World)) ∈ run.events)
    (hrow : w.CanRun now key phid) : Stmt.answer (.insert row) w = none := by
  obtain ⟨hrowkey, hactive⟩ := run.inserted_active hcall he
  obtain ⟨old, hold, _, holdkey, holdactive⟩ := hrow.active ((run.noneMooted h).2 _ he)
  cases hrefused : w.table.insertRefused row with
  | true => exact if_pos hrefused
  | false =>
    have hentry : Schema.entry row = some key := by
      rw [entry_of_active hactive, hrowkey, hkey]
    have hfree := Table.entry_ne_of_insert hrefused hold hentry
    rw [entry_of_active holdactive] at hfree
    exact absurd holdkey hfree

/-- In every run that moots no dispatch that could run and gives each keyed call a key of its own,
at most one dispatch for each work item can run, and every enqueue for the item returns it. -/
theorem Run.KeepsKeys.deduplicates {run : Run} (h : run.KeepsKeys) : run.Deduplicates where
  one n _ _ _ _ hp hq := hp.unique ((run.noneMooted h).1 n) hq
  reused _ _ _ hcall hkey _ _ _ hevents _ _ hrow := h.reused hcall hkey hevents hrow
  refused _ _ _ hcall hkey _ _ he _ _ hrow := h.refused hcall hkey he hrow
  joined _ _ _ hcall hkey _ _ _ _ _ hevents he _ _ hrow := h.joined hcall hkey hevents he hrow

def keyedInput (key : String) : EnqueueInput where
  queryId := "query-1"
  toAgent := "coder"
  fromActor := "continuous-orchestration"
  channel := "talk"
  subject := "task"
  bodyMarkdown := "do it"
  provider := .anthropic
  runtime := .claudeCodeCli
  dedupKey := key

def mootedWhileQueued : Run where
  calls := [.enqueue (keyedInput "item"), .markMoot "phid:disp-2" "no longer wanted",
    .enqueue (keyedInput "item")]
  schedule := [0, 0, 0, 0, 1, 1, 1, 2, 2, 2, 2]
  start := .start [] .quiet

theorem mooted_and_fresh_can_run : ["phid:disp-2", "phid:disp-9"].all fun phid =>
      ((mootedWhileQueued.after 11).row? phid).any fun row =>
        row.dedupKey = some "item" && isClaimableOrRunning 11 row := by
  decide +kernel

theorem not_deduplicates : ¬ mootedWhileQueued.Deduplicates := by
  intro h
  have hboth := List.all_eq_true.mp mooted_and_fresh_can_run
  have hrun : ∀ phid ∈ ["phid:disp-2", "phid:disp-9"],
      (mootedWhileQueued.after 11).CanRun 11 "item" phid := by
    intro phid hphid
    obtain ⟨row, hrow, hrun⟩ := (Option.any_eq_true _ _).mp (hboth phid hphid)
    simp only [Bool.and_eq_true, decide_eq_true_eq] at hrun
    exact ⟨row, hrow, hrun.1, hrun.2⟩
  have hsame := h.one 11 11 "item" _ _ (hrun "phid:disp-2" (by simp)) (hrun "phid:disp-9" (by simp))
  exact absurd hsame (by decide)

def enqueuedTogether : Run where
  calls := [.enqueue (keyedInput "item"), .enqueue (keyedInput "item")]
  schedule := [0, 0, 1, 1, 0, 1, 0, 1, 1, 1]
  start := .start [] .quiet

theorem deduplicates_together : enqueuedTogether.Deduplicates := by
  apply Run.KeepsKeys.deduplicates
  constructor
  · intro row hrow
    cases hrow
  · decide +kernel
  · intro i input hcall hkey
    have hmem := List.mem_of_getElem? hcall
    simp only [enqueuedTogether, List.mem_cons, Op.enqueue.injEq, List.not_mem_nil, or_false,
      or_self] at hmem
    rw [hmem] at hkey
    simp [keyedInput] at hkey

end IdAgents
