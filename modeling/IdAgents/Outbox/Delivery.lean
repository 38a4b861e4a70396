import IdAgents.Library.Rely
import IdAgents.Outbox.Worker

namespace IdAgents.Outbox
open JsText KeyedTable AtomicProgram List Table Option OutboxUpdate

/-- Batches in progress together: `schedule` names, step by step, the batch whose next statement is
executed. -/
structure Replay where
  batches : List (DispatchOperationOutboxWorker × Int)
  schedule : List Nat
  start : World

namespace Replay

def threads (run : Replay) : List (Prog ReplayReport) :=
  run.batches.map fun batch => replayBatch batch.1 batch.2

/-- The world after the first `n` steps. -/
def after (run : Replay) (n : Nat) : World :=
  (interleave (run.schedule.take n) run.threads run.start).2

def events (run : Replay) : List (Nat × Event sql World) :=
  interleaveEvents run.schedule run.threads run.start

end Replay

def OutboxRow.SameDelivery (a b : OutboxRow) : Prop :=
  a.attemptCount = b.attemptCount ∧ a.lastError = b.lastError ∧ a.availableAt = b.availableAt

structure DeliversOnce (run : Replay) : Prop where
  accepted : ∀ n, ∀ row ∈ (run.after n).table.rows, row.deliveredAt ≠ none →
    row.envelope ∈ (run.after n).accepted
  apart : ∀ n, ∀ row ∈ (run.after n).table.rows,
    row.deliveredAt = none ∨ row.deadLetteredAt = none
  kept : ∀ e ∈ run.events, ∀ p row, e.2.before.table.get? p = some row → row.deliveredAt ≠ none →
    ∃ row', e.2.after.table.get? p = some row' ∧ row'.SameDelivery row

def writesOpen (e : Event sql World) : Bool :=
  match (e.stmt : Stmt) with
  | .update (.acknowledge _ p) => (e.before.table.get? p).all (·.isOpen)
  | .update (.fail _ _ _ _ p) => (e.before.table.get? p).all (·.deliveredAt = none)
  | _ => true

structure Seen where
  rows : List OutboxRow := []
  accepted : List DispatchOperationEnvelope := []

def replayScript : Script sql Seen where
  see g c := match c with
    | .select => fun (rows : List OutboxRow) => { g with rows := rows }
    | .append envelope => fun (result : Except String Unit) => match result with
      | .ok _ => { g with accepted := g.accepted ++ [envelope] }
      | .error _ => g
    | .now | .update _ => fun _ => g
  due g c := match c with
    | .update (.acknowledge _ p) =>
      ∃ row ∈ g.rows, row.operationId = p ∧ row.envelope ∈ g.accepted
    | _ => True

variable {g : Seen}

theorem replayRow_keeps (h : row ∈ g.rows) : (replayRow worker now report row).keeps replayScript
      (fun _ g' => g'.rows = g.rows) g := by
  refine ⟨trivial, fun (rowCount : Nat) => ?_⟩
  dsimp only [Program.bind]
  split
  · rfl
  · refine ⟨trivial, fun (result : Except String Unit) => ?_⟩
    cases result with
    | ok =>
      refine ⟨trivial, fun _ => ⟨⟨row, h, rfl, ?_⟩, fun _ => rfl⟩⟩
      simp [replayScript]
    | error error =>
      refine ⟨trivial, fun _ => ?_⟩
      dsimp only [Program.bind]
      split
      · exact ⟨trivial, fun _ => ⟨trivial, fun _ => rfl⟩⟩
      · exact ⟨trivial, fun _ => rfl⟩

theorem replayBatch_keeps : (replayBatch worker limit).keeps replayScript (fun _ _ => True) g := by
  refine ⟨trivial, fun (now : Instant) => ⟨trivial, fun (rows : List OutboxRow) => ?_⟩⟩
  have hsub : batchRows now limit rows ⊆ rows := by
    intro x hx
    have hsorted := (limitTo_sublist limit _).subset hx
    exact mem_of_mem_filter ((perm_insertionSort _ _).subset hsorted)
  apply Program.keeps_fold (J := fun xs (g : Seen) => xs ⊆ g.rows)
  · exact hsub
  · intro report row xs g hxs
    apply Program.keeps_mono (replayRow_keeps (hxs mem_cons_self))
    rintro (e | report) g' hrows
    · trivial
    · intro x hx
      rw [hrows]
      exact hxs (mem_cons_of_mem _ hx)
  · intros
    trivial

theorem accepted_effect (c : Stmt) (w : World) : w.accepted ⊆ (c.effect w).accepted := by
  intro envelope h
  cases c with
  | append sent =>
    change envelope ∈ (match w.env.append w.step sent with
      | .ok _ => w.accepted ++ [sent]
      | .error _ => w.accepted)
    split
    · exact mem_append_left _ h
    · exact h
  | _ => exact h

theorem get?_effect (c : Stmt) (h : w.table.get? p = some row) :
    (c.effect w).table.get? p = some row ∨ ∃ u, c = .update u ∧ u.operationId = p ∧ u.guard row ∧
      (c.effect w).table.get? p = some (u.set row) := by
  cases c with
  | update u =>
    obtain h | ⟨hp, hg, h⟩ := get?_update_cases u.toUpdate h
    · exact .inl h
    · exact .inr ⟨u, rfl, hp, hg, h⟩
  | _ => exact .inl h

theorem get?_isSome_effect (c : Stmt) :
    ((c.effect w).table.get? p).isSome = (w.table.get? p).isSome := by
  cases c with
  | update u => exact get?_isSome_update w.table u.toUpdate p
  | _ => rfl

structure Sound (ghost : Nat → Seen) (w : World) : Prop where
  rows : ∀ i, ∀ x ∈ (ghost i).rows, ∃ row, w.table.get? x.operationId = some row ∧
    row.envelope = x.envelope
  accepted : ∀ i, (ghost i).accepted ⊆ w.accepted
  delivered : ∀ p row, w.table.get? p = some row → row.deliveredAt ≠ none →
    row.envelope ∈ w.accepted ∧ row.deadLetteredAt = none

variable {e : Event sql World}

theorem delivered_kept (hopen : writesOpen e)
    (hrow : e.before.table.get? p = some row) (hdelivered : row.deliveredAt ≠ none) :
    e.after.table.get? p = some row := by
  obtain hsame | ⟨u, hstmt, rfl, hguard, _⟩ := get?_effect e.stmt hrow
  · exact hsame
  · exfalso
    rw [writesOpen, hstmt] at hopen
    cases u with
    | claim now workerId q =>
      simp [OutboxUpdate.guard, OutboxRow.isOpen, hdelivered] at hguard
    | acknowledge now q =>
      rw [operationId] at hrow
      simp [hrow, OutboxRow.isOpen, hdelivered] at hopen
    | fail attempts error retryAt deadLetteredAt q =>
      rw [operationId] at hrow
      simp [hrow, hdelivered] at hopen

theorem delivered_of_after (hopen : writesOpen e)
    (hrow : e.after.table.get? p = some row) (hdelivered : row.deliveredAt ≠ none) :
    e.before.table.get? p = some row ∨ ∃ now old, e.stmt = .update (.acknowledge now p) ∧
      e.before.table.get? p = some old ∧ old.envelope = row.envelope ∧
      row.deadLetteredAt = none := by
  have hsome : (e.before.table.get? p).isSome := by
    rw [← get?_isSome_effect e.stmt]
    exact isSome_of_eq_some hrow
  obtain ⟨old, hold⟩ := isSome_iff_exists.mp hsome
  by_cases hbefore : old.deliveredAt = none
  · obtain hsame | ⟨u, hstmt, rfl, _, hset⟩ := get?_effect e.stmt hold
    · obtain rfl : old = row := Option.some.inj (hsame.symm.trans hrow)
      exact absurd hbefore hdelivered
    · obtain rfl : u.set old = row := Option.some.inj (hset.symm.trans hrow)
      cases u with
      | acknowledge now q =>
        right
        rw [writesOpen, hstmt] at hopen
        rw [operationId] at hold
        have hdead : old.deadLetteredAt = none := by
          simp only [hold, all_some, OutboxRow.isOpen, Bool.and_eq_true,
            decide_eq_true_eq] at hopen
          exact hopen.2
        exact ⟨now, old, hstmt, hold, rfl, hdead⟩
      | claim | fail => exact absurd hbefore hdelivered
  · left
    have hkept := delivered_kept hopen hold hbefore
    rw [hold, ← hrow, hkept]

theorem mem_see_rows (h : x ∈ (replayScript.see g e.stmt (Store.answer e.stmt e.before)).rows) :
    x ∈ g.rows ∨ x ∈ e.before.table.rows := by
  obtain ⟨c, w⟩ := e
  cases c with
  | select => exact .inr h
  | append envelope =>
    left
    change x ∈ (match w.env.append w.step envelope with
      | .ok _ => { g with accepted := g.accepted ++ [envelope] }
      | .error _ => g : Seen).rows at h
    split at h <;> exact h
  | now | update => exact .inl h

theorem mem_see_accepted
    (h : x ∈ (replayScript.see g e.stmt (Store.answer e.stmt e.before)).accepted) :
    x ∈ g.accepted ∨ x ∈ e.after.accepted := by
  obtain ⟨c, w⟩ := e
  cases c with
  | append envelope =>
    change x ∈ (match w.env.append w.step envelope with
      | .ok _ => { g with accepted := g.accepted ++ [envelope] }
      | .error _ => g : Seen).accepted at h
    change x ∈ g.accepted ∨ x ∈ (match w.env.append w.step envelope with
      | .ok _ => w.accepted ++ [envelope]
      | .error _ => w.accepted)
    cases hsink : w.env.append w.step envelope with
    | ok =>
      rw [hsink] at h
      obtain h | h := mem_append.mp h
      · exact .inl h
      · exact .inr (mem_append_right _ h)
    | error =>
      rw [hsink] at h
      exact .inl h
  | now | select | update => exact .inl h

theorem envelope_kept (h : e.before.table.get? p = some row) :
    ∃ row', e.after.table.get? p = some row' ∧ row'.envelope = row.envelope := by
  obtain hsame | ⟨u, _, rfl, _, hset⟩ := get?_effect e.stmt h
  · exact ⟨row, hsame, rfl⟩
  · exact ⟨u.set row, hset, u.set_envelope row⟩

theorem Sound.step (h : Sound ghost e.before)
    (hopen : writesOpen e) (hdue : replayScript.due (ghost i) e.stmt)
    (hghost : ∀ j, ghost' j = if i = j then
      replayScript.see (ghost i) e.stmt (Store.answer e.stmt e.before) else ghost j) :
    Sound ghost' e.after where
  rows := by
    intro j x hx
    have hread : ∃ row, e.before.table.get? x.operationId = some row ∧
        row.envelope = x.envelope := by
      rw [hghost] at hx
      split at hx
      · obtain hx | hx := mem_see_rows hx
        · exact h.rows i x hx
        · exact ⟨x, get?_of_mem hx, rfl⟩
      · exact h.rows j x hx
    obtain ⟨row, hrow, henvelope⟩ := hread
    obtain ⟨row', hrow', hkept⟩ := envelope_kept hrow
    exact ⟨row', hrow', hkept.trans henvelope⟩
  accepted := by
    intro j x hx
    rw [hghost] at hx
    split at hx
    · obtain hx | hx := mem_see_accepted hx
      · exact accepted_effect e.stmt e.before (h.accepted i hx)
      · exact hx
    · exact accepted_effect e.stmt e.before (h.accepted j hx)
  delivered := by
    intro p row hrow hdelivered
    obtain hbefore | ⟨now, old, hstmt, hold, henvelope, hdead⟩ :=
      delivered_of_after hopen hrow hdelivered
    · obtain ⟨haccepted, hdead⟩ := h.delivered p row hbefore hdelivered
      exact ⟨accepted_effect e.stmt e.before haccepted, hdead⟩
    · -- what the batch acknowledges it has read and appended
      rw [hstmt] at hdue
      obtain ⟨x, hx, rfl, haccepted⟩ := hdue
      obtain ⟨found, hfound, hsame⟩ := h.rows i x hx
      obtain rfl : old = found := Option.some.inj (hold.symm.trans hfound)
      have henvelope' : row.envelope = x.envelope := henvelope.symm.trans hsame
      rw [henvelope']
      exact ⟨accepted_effect e.stmt e.before (h.accepted i haccepted), hdead⟩

def waitingRow : OutboxRow where
  operationId := "dop_1"
  envelope := {
    operationType := "dispatch.requested"
    dispatchId := "d"
    idempotencyKey := "d:requested"
    actor := "manager"
    causationId := some "query-d"
    occurredAt := toISOString 0
    fromStatus := none
    toStatus := "queued" }
  createdAt := toISOString 0
  availableAt := toISOString 0
  attemptCount := 9

/-- The clock jumps to the next day at step 3, and the sink fails from step `failsAt` on. -/
def waitingOutbox (failsAt : Nat) : World where
  table := .ofRows [waitingRow]
  accepted := []
  step := 0
  env := {
    clock := fun n => if n < 3 then 0 else 86700000
    append := fun n _ => if n < failsAt then .ok () else .error "Error: sink unavailable" }

def stalledReplay : Replay where
  batches := [(⟨"worker-1", 10⟩, 50), (⟨"worker-2", 10⟩, 50)]
  schedule := [0, 0, 0, 1, 1, 1, 1, 1, 1, 0, 0, 0, 0]
  start := waitingOutbox 9

theorem stalled_dead_lettered : (stalledReplay.after 13).table.rows.all
    (fun row => row.deliveredAt ≠ none && row.deadLetteredAt ≠ none) = true := by
  decide +kernel

def orderlyReplay : Replay where
  batches := [(⟨"worker-1", 10⟩, 50), (⟨"worker-2", 10⟩, 50)]
  schedule := [0, 0, 1, 1, 0, 0, 1, 0, 0]
  start := waitingOutbox 9

end IdAgents.Outbox
