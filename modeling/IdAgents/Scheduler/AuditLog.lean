import IdAgents.Scheduler.Operation

namespace IdAgents
open JsText KeyedTable AtomicProgram

inductive AuditRecord where
  | bounce (record : BounceRecord)
  | clarification (event : ClarificationEvent)

def UpdateStmt.record? : UpdateStmt → Option AuditRecord
  | .markBounced doc bounce now => some (.bounce (bounceRecord doc bounce now))
  | .requeueForRecovery doc reason nextAttemptAt now =>
    some (.bounce (recoveryRecord doc reason nextAttemptAt now))
  | .markNeedsClarification _ input id now =>
    some (.clarification (needsClarificationEvent input id now))
  | .resumeAfterClarification _ input targetId now =>
    some (.clarification (resumeEvent input targetId now))
  | .markResumeDelivered _ input now => some (.clarification (resumeDeliveredEvent input now))
  | .markResumeDeliveryFailed _ input now =>
    some (.clarification (resumeDeliveryFailedEvent input now))
  | .recordResumeDeliveryRepair _ entry _ => some (.clarification entry)
  | .markClarificationStale _ input now => some (.clarification (staleEvent input now))
  | _ => none

def Row.holds (row : Row) : AuditRecord → Prop
  | .bounce record => record ∈ row.bounceHistory
  | .clarification event => event ∈ row.clarificationHistory

/-- The logs of `row'` are those of `row` with entries appended. -/
structure Row.LogsExtend (row row' : Row) : Prop where
  bounces : row.bounceHistory <+: row'.bounceHistory
  clarifications : row.clarificationHistory <+: row'.clarificationHistory

abbrev Row.Counted (row : Row) : Prop := row.bounceCount = row.bounceHistory.length

/-- By step `n` some call has returned, and it had issued an UPDATE that appends `record`. -/
def Run.Reported (run : Run) (n : Nat) (phid : String) (record : AuditRecord) : Prop :=
  ∃ i r u w, (interleave (run.schedule.take n) run.threads run.start).1[i]? = some (.ret r) ∧
    (i, (⟨.update u, w⟩ : Event sql World)) ∈
      interleaveEvents (run.schedule.take n) run.threads run.start ∧
    u.phid = phid ∧ u.record? = some record

structure AuditKept (run : Run) : Prop where
  counted : ∀ n phid row, (run.after n).row? phid = some row → row.Counted
  extended : ∀ m n phid row row', m ≤ n → (run.after m).row? phid = some row →
    (run.after n).row? phid = some row' → row.LogsExtend row'
  reported : ∀ m n phid record row, m ≤ n → run.Reported m phid record →
    (run.after n).row? phid = some row → row.holds record

/-- The log an UPDATE rewrites is, on the row it writes, the log its call read. A recovery requeue
reports success without looking at its row count, so its row must also still be failed. -/
def UpdateStmt.extendsStoredLog (u : UpdateStmt) (stored : Option Row) : Bool :=
  match u with
  | .markBounced doc _ _ =>
    stored.all fun row => !u.guard row || row.bounceHistory = doc.bounceHistory
  | .requeueForRecovery doc _ _ _ =>
    stored.any fun row => u.guard row && row.bounceHistory = doc.bounceHistory
  | .markNeedsClarification doc _ _ _ | .resumeAfterClarification doc _ _ _
  | .markResumeDelivered doc _ _ | .markResumeDeliveryFailed doc _ _
  | .recordResumeDeliveryRepair doc _ _ | .markClarificationStale doc _ _ =>
    stored.any fun row => row.clarificationHistory = doc.clarificationHistory
  | _ => true

def extendsStoredLog (e : Event sql World) : Bool :=
  match e.stmt with
  | .update u => u.extendsStoredLog (e.before.row? u.phid)
  | _ => true

theorem Row.LogsExtend.refl (row : Row) : row.LogsExtend row :=
  ⟨List.prefix_refl _, List.prefix_refl _⟩

theorem Row.LogsExtend.trans {row row' row'' : Row} (h : row.LogsExtend row')
    (h' : row'.LogsExtend row'') : row.LogsExtend row'' :=
  ⟨h.bounces.trans h'.bounces, h.clarifications.trans h'.clarifications⟩

theorem Row.LogsExtend.holds {row row' : Row} (h : row.LogsExtend row') (hr : row.holds record) :
    row'.holds record := by
  cases record with
  | bounce record => exact h.bounces.subset hr
  | clarification event => exact h.clarifications.subset hr

theorem UpdateStmt.set_logs {u : UpdateStmt} (hg : u.guard row)
    (he : u.extendsStoredLog (some row)) :
    row.LogsExtend (u.set row) ∧ (row.Counted → (u.set row).Counted) ∧
      ∀ record, u.record? = some record → (u.set row).holds record := by
  cases u with
  | markBounced | requeueForRecovery =>
    simp only [extendsStoredLog, Option.all_some, Option.any_some, hg, Bool.not_true,
      Bool.false_or, Bool.true_and, decide_eq_true_eq] at he
    refine ⟨⟨?_, List.prefix_refl _⟩, fun hc => ?_, fun record hr => ?_⟩
    · simp only [set, ← he]
      exact List.prefix_append _ _
    · simp only [Row.Counted, set, ← he, List.length_append, List.length_singleton] at hc ⊢
      omega
    · cases hr
      simp [Row.holds, set]
  | markNeedsClarification | resumeAfterClarification | markResumeDelivered
  | markResumeDeliveryFailed | recordResumeDeliveryRepair | markClarificationStale =>
    simp only [extendsStoredLog, Option.any_some, decide_eq_true_eq] at he
    refine ⟨⟨List.prefix_refl _, ?_⟩, fun hc => hc, fun record hr => ?_⟩
    · simp only [set, ← he]
      exact List.prefix_append _ _
    · cases hr
      simp [Row.holds, set]
  | runClaim | acceptQueued | acceptInFlight | markDone | doneWithResult | markFailed
  | requeueAfterBounce | cancel | markRetryExhausted | recordPromotionResult
  | markRecoveryLanded | markMoot | markSuperseded | recordRecoveryOutcome =>
    exact ⟨⟨List.prefix_refl _, List.prefix_refl _⟩, fun hc => hc, fun _ hr => by cases hr⟩

variable {e : Event sql World}

theorem counted_step (hi : e.stmt.Issued) (he : extendsStoredLog e)
    (h : ∀ row ∈ e.before.table.rows, row.Counted) : ∀ row ∈ e.after.table.rows, row.Counted := by
  intro row hrow
  obtain hrow | hins | ⟨u, hu, s, hs, hhit, rfl⟩ := Stmt.mem_effect hrow
  · exact h row hrow
  · rw [hins] at hi
    obtain ⟨input, promotion, phid, now, rfl⟩ := hi
    rfl
  · obtain ⟨hphid, hg⟩ := UpdateStmt.hits_iff.mp hhit
    have hstored := World.row?_of_mem hs
    rw [extendsStoredLog, hu] at he
    simp only [← hphid, hstored] at he
    exact (UpdateStmt.set_logs hg he).2.1 (h s hs)

theorem extended_step (he : extendsStoredLog e) (h : e.before.row? phid = some row) :
    ∃ row', e.after.row? phid = some row' ∧ row.LogsExtend row' := by
  obtain hkeep | ⟨u, hu, rfl, hg, hset⟩ := e.stmt.row?_effect h
  · exact ⟨row, hkeep, .refl row⟩
  · rw [extendsStoredLog, hu] at he
    simp only [h] at he
    exact ⟨u.set row, hset, (UpdateStmt.set_logs hg he).1⟩

/-- Every dispatch of `w` is in `w'`, with its logs extended. -/
def World.LogsExtend (w w' : World) : Prop :=
  ∀ phid row, w.row? phid = some row → ∃ row', w'.row? phid = some row' ∧ row.LogsExtend row'

theorem chain_logsExtend {es : List (Event sql World)} (h : Chain s es t)
    (he : ∀ e ∈ es, extendsStoredLog e) : s.LogsExtend t := by
  refine h.related (R := World.LogsExtend) ?_ ?_ fun e hmem phid row hrow =>
    extended_step (he e hmem) hrow
  · exact fun w phid row hrow => ⟨row, hrow, .refl row⟩
  · intro w w' w'' h h' phid row hrow
    obtain ⟨row', hrow', hext⟩ := h phid row hrow
    obtain ⟨row'', hrow'', hext'⟩ := h' phid row' hrow'
    exact ⟨row'', hrow'', hext.trans hext'⟩

def UpdateStmt.throwsOnLoss : UpdateStmt → Bool
  | .markBounced .. => true
  | _ => false

def Answered : (c : Stmt) → c.Ans → Prop
  | .update u, a => ∃ n : Nat, (a : Option Nat) = some n ∧ (u.throwsOnLoss → n ≠ 0)
  | _, _ => True

abbrev AnsweredOnReturn (p : Prog α) : Prop := p.OnReturn Answered

theorem nowFn_answered : AnsweredOnReturn nowFn := fun _ => .inr ⟨trivial, trivial⟩

theorem getByPhid_answered : AnsweredOnReturn (getByPhid phid) := fun _ => .inr ⟨trivial, trivial⟩

theorem execUpdate_answered (h : u.throwsOnLoss = false) : AnsweredOnReturn (execUpdate u) := by
  intro a
  cases (a : Option Nat) with
  | none => exact .inl trivial
  | some n => exact .inr ⟨⟨n, rfl, by simp [h]⟩, trivial⟩

theorem execUpdate_guarded_answered {f : Nat → Prog α} (h0 : (f 0).Fails)
    (hf : ∀ n, AnsweredOnReturn (f n)) : AnsweredOnReturn ((execUpdate u).bind f) := by
  intro a
  cases (a : Option Nat) with
  | none => exact .inl trivial
  | some n =>
    cases n with
    | zero => exact .inl h0
    | succ n => exact .inr ⟨⟨n + 1, rfl, fun _ => Nat.succ_ne_zero n⟩, hf (n + 1)⟩

theorem requireDoc_answered : AnsweredOnReturn (requireDoc operation phid) := by
  apply getByPhid_answered.bind
  intro doc
  cases doc <;> trivial

theorem postUpdateRead_answered : AnsweredOnReturn (postUpdateRead operation phid) := by
  apply getByPhid_answered.bind
  intro doc
  cases doc <;> trivial

theorem writeUnguarded_answered {write : DispatchDoc → Instant → UpdateStmt}
    (hw : ∀ doc now, (write doc now).throwsOnLoss = false) :
    AnsweredOnReturn (writeUnguarded operation phid reject write) := by
  apply requireDoc_answered.bind
  intro doc
  cases reject doc with
  | some message => trivial
  | none =>
    apply nowFn_answered.bind
    intro now
    exact (execUpdate_answered (hw doc now)).bind fun _ => postUpdateRead_answered

theorem markBounced_answered : AnsweredOnReturn (markBounced phid bounce) := by
  apply getByPhid_answered.bind
  intro doc
  cases doc with
  | none => trivial
  | some doc =>
    dsimp only
    split
    · trivial
    · apply nowFn_answered.bind
      intro now
      apply execUpdate_guarded_answered
      · trivial
      · intro n
        split
        · trivial
        · exact getByPhid_answered

theorem markNeedsClarification_answered : AnsweredOnReturn (markNeedsClarification phid input) := by
  apply requireDoc_answered.bind
  intro doc
  split
  · trivial
  · apply nowFn_answered.bind
    intro now
    cases idempotentClarification doc input now with
    | some active => trivial
    | none =>
      intro id
      refine .inr ⟨trivial, ?_⟩
      exact (execUpdate_answered rfl).bind fun _ => postUpdateRead_answered.bind fun _ => trivial

theorem recordResumeDeliveryRepair_answered :
    AnsweredOnReturn (recordResumeDeliveryRepair phid input) := by
  apply requireDoc_answered.bind
  intro doc
  split
  · trivial
  · split
    · trivial
    · apply nowFn_answered.bind
      intro now
      exact (execUpdate_answered rfl).bind fun _ => postUpdateRead_answered.bind fun _ => trivial

theorem requeueForRecovery_answered :
    AnsweredOnReturn (requeueForRecovery phid reason nextAttemptAt) := by
  apply getByPhid_answered.bind
  intro doc
  cases doc with
  | none => trivial
  | some doc =>
    dsimp only
    split
    · trivial
    · apply nowFn_answered.bind
      intro now
      exact (execUpdate_answered rfl).bind fun _ => trivial

theorem AnsweredOnReturn.map {p : Prog α} (h : AnsweredOnReturn p) (f : α → β) :
    AnsweredOnReturn (f <$> p) :=
  h.bind fun _ => trivial

theorem Op.prog_answered {op : Op} (hw : op.Writes u) (hr : u.record? = some record) :
    AnsweredOnReturn op.prog := by
  cases op with
  | markBounced => exact markBounced_answered.map _
  | markNeedsClarification => exact markNeedsClarification_answered.map _
  | resumeAfterClarification | markResumeDelivered | markResumeDeliveryFailed
  | markClarificationStale => exact AnsweredOnReturn.map (writeUnguarded_answered fun _ _ => rfl) _
  | recordResumeDeliveryRepair => exact recordResumeDeliveryRepair_answered.map _
  | requeueForRecovery => exact requeueForRecovery_answered.map _
  | _ =>
    exfalso
    cases u <;> first | exact hw | cases hr

theorem Op.answered_of_returned {op : Op} (h : Leads op.prog os (.ret r))
    (hu : (⟨.update u, a⟩ : Observation sql) ∈ os) (hr : u.record? = some record) :
    Answered (.update u) a := by
  have hwrites : Allowed (fun c => ∀ v, c = .update v → op.Writes v) op.prog := by
    apply op.prog_allowed
    · intro c hc v hv
      subst hv
      cases hc
    · intro row _ v hv
      cases hv
    · intro v hv w hw
      cases hw
      exact hv
  have hw : op.Writes u := (h.meets hwrites).2 _ hu u rfl
  exact h.onReturn rfl (op.prog_answered hw hr) _ hu

theorem UpdateStmt.exists_of_extendsStoredLog {u : UpdateStmt} (hr : u.record? = some record)
    (hloss : u.throwsOnLoss = false) (he : u.extendsStoredLog stored) :
    ∃ row, stored = some row ∧ u.guard row := by
  cases u with
  | markBounced => cases hloss
  | requeueForRecovery | markNeedsClarification | resumeAfterClarification | markResumeDelivered
  | markResumeDeliveryFailed | recordResumeDeliveryRepair | markClarificationStale =>
    simp only [extendsStoredLog, Option.any_eq_true, Bool.and_eq_true] at he
    obtain ⟨row, hrow, he⟩ := he
    simp_all [guard]
  | _ => cases hr

theorem recorded_after {w : World} (ha : Answered (.update u) (Stmt.answer (.update u) w))
    (he : u.extendsStoredLog (w.row? u.phid)) (hr : u.record? = some record) :
    ∃ row, World.row? (Stmt.effect (.update u) w) u.phid = some row ∧ row.holds record := by
  obtain ⟨n, hn, hloss⟩ := ha
  obtain ⟨hrefused, hcount⟩ := UpdateStmt.answer_some hn
  obtain ⟨row, hrow, hg⟩ : ∃ row, w.row? u.phid = some row ∧ u.guard row := by
    cases ht : u.throwsOnLoss with
    | true => exact UpdateStmt.exists_of_rowCount (hcount ▸ hloss ht)
    | false => exact UpdateStmt.exists_of_extendsStoredLog hr ht he
  rw [hrow] at he
  exact ⟨u.set row, UpdateStmt.row?_effect_self hrow hg hrefused,
    (UpdateStmt.set_logs hg he).2.2 record hr⟩

theorem Run.returned_leads {run : Run} {i : Nat}
    (hret : (interleave (run.schedule.take m) run.threads run.start).1[i]? = some (.ret r))
    (he : (i, e) ∈ interleaveEvents (run.schedule.take m) run.threads run.start) :
    ∃ (op : Op) (os : List (Observation sql)), Leads op.prog os (.ret r) ∧ e.observed ∈ os := by
  have hi : i < run.threads.length := by
    rw [← interleave_length (run.schedule.take m) run.threads run.start]
    exact (List.getElem?_eq_some_iff.mp hret).1
  obtain ⟨q, hq, hleads⟩ := interleave_leads (run.schedule.take m) run.start
    (List.getElem?_eq_getElem hi)
  cases hret.symm.trans hq
  obtain ⟨op, _, hop⟩ := thread_call (List.getElem?_eq_getElem hi)
  rw [hop] at hleads
  exact ⟨op, _, hleads, List.mem_map_of_mem (mem_eventsOf.mpr he)⟩

theorem Run.reported_kept {run : Run} (h : ∀ e ∈ run.events, extendsStoredLog e.2)
    (hmn : m ≤ n) (hrep : run.Reported m phid record) (hrow : (run.after n).row? phid = some row) :
    row.holds record := by
  obtain ⟨i, r, u, w, hret, hevent, rfl, hr⟩ := hrep
  obtain ⟨es, hchain, hes⟩ := interleave_from _ _ _ hmn hevent
  have hmem : (i, (⟨.update u, w⟩ : Event sql World)) ∈ run.events := by
    rw [events, ← List.take_append_drop m run.schedule, interleaveEvents_append]
    exact List.mem_append_left _ hevent
  obtain ⟨op, os, hleads, hobs⟩ := returned_leads hret hevent
  have hanswered : Answered (.update u) (Stmt.answer (.update u) w) :=
    Op.answered_of_returned hleads hobs hr
  obtain ⟨row₁, hrow₁, hholds⟩ := recorded_after hanswered (h _ hmem) hr
  have hext : World.LogsExtend _ _ := chain_logsExtend hchain fun e he => by
    obtain ⟨j, hj⟩ := hes e he
    exact h _ hj
  obtain ⟨row₂, hrow₂, hlogs⟩ := hext _ _ hrow₁
  cases hrow.symm.trans hrow₂
  exact hlogs.holds hholds

/-- In every run whose log-writing UPDATEs extend the logs stored at that moment, the audit logs
lose nothing. -/
theorem audit_is_kept (run : Run) (hstart : ∀ row ∈ run.start.table.rows, row.Counted)
    (h : ∀ e ∈ run.events, extendsStoredLog e.2) : AuditKept run where
  counted n phid row hrow := by
    obtain ⟨es, hchain, hes⟩ := run.between (Nat.zero_le n)
    have hcounted : ∀ row ∈ (run.after n).table.rows, row.Counted := by
      apply (hchain.invariant (I := fun w => ∀ row ∈ w.table.rows, row.Counted) _ _).1
      · simpa [Run.after, interleave] using hstart
      · intro e he
        obtain ⟨i, hi⟩ := hes e he
        exact counted_step (run.events_issued hi) (h _ hi)
    exact hcounted row (World.row?_mem hrow).1
  extended m n phid row row' hmn hrow hrow' := by
    obtain ⟨es, hchain, hes⟩ := run.between hmn
    have hext : World.LogsExtend _ _ := chain_logsExtend hchain fun e he => by
      obtain ⟨i, hi⟩ := hes e he
      exact h _ hi
    obtain ⟨row₂, hrow₂, hlogs⟩ := hext _ _ hrow
    cases hrow'.symm.trans hrow₂
    exact hlogs
  reported m n phid record row hmn hrep hrow := Run.reported_kept h hmn hrep hrow

def inFlightRow : Row :=
  { freshRow "d" with status := .inFlight, attemptCount := 1, startedAt := some 0 }

def bounceAt (kind : String) (t : Instant) : BounceInput where
  kind := kind
  message := kind
  nextAttemptAt := t

def doubleBounce : Run where
  calls := [.markBounced "d" (bounceAt "transport" 1),
    .markBounced "d" (bounceAt "scheduler_silence" 2), .markBounced "d" (bounceAt "overloaded" 3)]
  schedule := [0, 0, 0, 0, 1, 1, 2, 2, 1, 1, 2, 2]
  start := .start [inFlightRow] .quiet

theorem double_bounce_counts :
    ((doubleBounce.after 12).row? "d").map (fun row => (row.bounceCount, row.bounceHistory.length)) =
      some (3, 2) := by
  decide +kernel

theorem audit_is_not_kept : ¬ AuditKept doubleBounce := by
  intro h
  obtain ⟨row, hrow, hcounts⟩ := Option.map_eq_some_iff.mp double_bounce_counts
  have hcounted : row.bounceCount = row.bounceHistory.length := h.counted 12 "d" row hrow
  simp only [Prod.mk.injEq] at hcounts
  omega

def orderlyBounces : Run where
  calls := [.markBounced "d" (bounceAt "transport" 1),
    .markBounced "d" (bounceAt "scheduler_silence" 2),
    .markClarificationStale "d" { clarificationId := "clar_1", ageSeconds := 60 }]
  schedule := [0, 0, 2, 0, 0, 2, 1, 1, 2, 1, 1, 2]
  start := .start [inFlightRow] .quiet

theorem audit_is_kept_orderly : AuditKept orderlyBounces :=
  audit_is_kept _ (by decide +kernel) (by decide +kernel)

end IdAgents
