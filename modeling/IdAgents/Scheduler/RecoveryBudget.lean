import IdAgents.Scheduler.History

namespace IdAgents
open JsText KeyedTable AtomicProgram List UpdateStmt

def Activity.isScheduled : Activity → Bool
  | tick _ | recovery _ => true
  | _ => false

def requeues (p : String) (e : Event (sql.tagged Label) World) : Bool :=
  match wrote e with
  | some (.requeueForRecovery doc _ _ _, _) => doc.dispatchPhid = p
  | _ => false

def claims (p : String) (e : Event (sql.tagged Label) World) : Bool :=
  match wrote e with
  | some (.runClaim _ q n _, row) => q = p && n = row.attemptCount + 1
  | _ => false

def fails (p : String) (e : Event (sql.tagged Label) World) : Bool :=
  match wrote e with
  | some (u, row) => u.phid = p && row.status ≠ .failed && (u.set row).status = .failed
  | none => false

structure BuysAttempts (run : History) : Prop where
  claimed : ∀ p es e fs f gs, run.events = es ++ e :: (fs ++ f :: gs) → requeues p e →
    fails p f → ∃ c ∈ fs, claims p c
  capped : ∀ p, run.events.countP (requeues p) ≤ run.config.maxAttempts

def requeuesWithAttempts (policy : SchedulerPolicy) (e : Event (sql.tagged Label) World) : Bool :=
  match wrote e with
  | some (.requeueForRecovery .., row) => row.attemptCount < policy.rateLimitMaxAttempts
  | _ => true

def Owed (policy : SchedulerPolicy) (p : String) (w : World) : Prop :=
  ∃ row, w.row? p = some row ∧ (row.status = .bounced ∨ row.status = .queued) ∧
    row.attemptCount < policy.rateLimitMaxAttempts

theorem World.Shows.row_eq {w : World} (h : w.Shows s doc) (hp : p = doc.dispatchPhid)
    (hrow : w.row? p = some row) : row.status = s ∧ row.attemptCount = doc.attemptCount ∧
      row.recoveryAttempts = doc.recoveryAttempts := by
  subst hp
  have hdoc := h.doc_eq hrow
  obtain ⟨hs, _⟩ := h
  rw [← hdoc] at hs ⊢
  exact ⟨hs, rfl, rfl⟩

theorem Phase.Acts.requeue_of_owed {phase : Phase} (h : phase.Acts policy doc u w)
    (hrow : w.row? u.phid = some row) (hs : row.status = .bounced ∨ row.status = .queued)
    (hm : row.attemptCount < policy.rateLimitMaxAttempts) :
    ∃ q now, u = .requeueAfterBounce q now := by
  obtain ⟨hwrites, hshows⟩ | ⟨_, ⟨now, rfl⟩, _⟩ := h
  · obtain ⟨hstatus, hattempts, _⟩ := hshows.row_eq hwrites.phid hrow
    cases phase with
    | bounced =>
      cases u with
      | markRetryExhausted d =>
        have hmax : policy.rateLimitMaxAttempts ≤ doc.attemptCount := hwrites.2
        rw [hattempts] at hm
        omega
      | requeueAfterBounce p now => exact ⟨_, now, rfl⟩
      | _ => cases hwrites
    | _ =>
      rw [hstatus] at hs
      obtain hs | hs := hs <;> cases hs
  · exact ⟨_, now, rfl⟩

theorem RecoverWrites.phid (h : RecoverWrites config doc u) : u.phid = doc.dispatchPhid := by
  cases u with
  | requeueForRecovery d =>
    obtain ⟨rfl, _⟩ := h
    rfl
  | markRecoveryLanded | recordRecoveryOutcome => exact h
  | _ => cases h

theorem owed_write {e : Event (sql.tagged Label) World}
    (h : HistoryStmt policy config (fun a => a.isScheduled) unsent e.stmt e.before)
    (hw : wrote e = some (u, row)) (hs : row.status = .bounced ∨ row.status = .queued)
    (hm : row.attemptCount < policy.rateLimitMaxAttempts) :
    claims u.phid e ∨ ∃ q now, u = .requeueAfterBounce q now := by
  obtain ⟨⟨l, hl⟩, hrow, _, _⟩ := wrote_eq_some hw
  rw [hl] at h
  obtain ⟨_, ⟨op, hop, _⟩, _⟩ | ⟨_, ⟨opts, args, hop⟩, _⟩ | ⟨doc, _, hwrites, hshows⟩ |
    ⟨call, p, n, now, rfl, hn⟩ | ⟨phase, doc, _, hacts⟩ := h.update_cases
  · cases hop
  · cases hop
  · obtain ⟨hstatus, _⟩ := hshows.row_eq hwrites.phid hrow
    rw [hstatus] at hs
    obtain hs | hs := hs <;> cases hs
  · left
    simp [claims, hw, hn row hrow, phid]
  · exact .inr (hacts.requeue_of_owed hrow hs hm)

theorem owed_step (h : HistoryStmt policy config (fun a => a.isScheduled) unsent e.stmt e.before)
    (ho : Owed policy p e.before) (hc : claims p e = false) :
    Owed policy p e.after ∧ fails p e = false := by
  obtain ⟨row, hrow, hs, hm⟩ := ho
  have hrequeue : ∀ u r, wrote e = some (u, r) → u.phid = p →
      r = row ∧ ∃ q now, u = .requeueAfterBounce q now := by
    rintro u r hw rfl
    obtain ⟨_, hr, _⟩ := wrote_eq_some hw
    obtain rfl : r = row := Option.some.inj (hr.symm.trans hrow)
    obtain hclaim | hrequeue := owed_write h hw hs hm
    · rw [hc] at hclaim
      cases hclaim
    · exact ⟨rfl, hrequeue⟩
  constructor
  · obtain hkeep | ⟨u, hw, rfl⟩ := row?_after e hrow
    · exact ⟨row, hkeep, hs, hm⟩
    · obtain ⟨_, q, now, rfl⟩ := hrequeue u row hw rfl
      obtain ⟨_, _, _, hafter⟩ := wrote_eq_some hw
      exact ⟨_, hafter, .inr rfl, hm⟩
  · cases hw : wrote e with
    | none => simp [fails, hw]
    | some pair =>
      obtain ⟨u, r⟩ := pair
      by_cases hp : u.phid = p
      · obtain ⟨_, q, now, rfl⟩ := hrequeue u r hw hp
        simp [fails, hw, UpdateStmt.set]
      · simp [fails, hw, hp]

theorem not_fails_of_claims (h : claims p e) : fails p e = false := by
  rw [claims] at h
  split at h
  · next hw => simp [fails, hw, UpdateStmt.set]
  · cases h

theorem owed_of_requeue (h : requeues p e)
    (hc : requeuesWithAttempts policy e) : Owed policy p e.after := by
  rw [requeues] at h
  split at h
  · next doc reason at_ now row hw =>
    obtain ⟨_, _, _, hafter⟩ := wrote_eq_some hw
    obtain rfl : doc.dispatchPhid = p := by simpa using h
    have hm : row.attemptCount < policy.rateLimitMaxAttempts := by
      simpa [requeuesWithAttempts, hw] using hc
    exact ⟨_, hafter, .inl rfl, hm⟩
  · cases h

theorem UpdateStmt.set_recoveryAttempts (u : UpdateStmt) (row : Row) :
    (u.set row).recoveryAttempts = row.recoveryAttempts + match u with
      | .requeueForRecovery .. => 1
      | _ => 0 := by
  cases u <;> rfl

def Requeued (config : RecoveryConfig) (p : String) (n : Nat) (w : World) : Prop :=
  n ≤ config.maxAttempts ∧ (n = 0 ∨ ∃ row, w.row? p = some row ∧ n ≤ row.recoveryAttempts)

theorem requeued_step {e : Event (sql.tagged Label) World}
    (h : HistoryStmt policy config (fun a => a.isScheduled) unsent e.stmt e.before)
    (hn : Requeued config p n e.before) :
    Requeued config p (n + if requeues p e then 1 else 0) e.after := by
  obtain ⟨hcap, hrow⟩ := hn
  have hkept : n = 0 ∨ ∃ row, e.after.row? p = some row ∧ n ≤ row.recoveryAttempts := by
    obtain hzero | ⟨row, hrow, hle⟩ := hrow
    · exact .inl hzero
    · obtain hkeep | ⟨u, hw, rfl⟩ := row?_after e hrow
      · exact .inr ⟨row, hkeep, hle⟩
      · obtain ⟨_, _, _, hafter⟩ := wrote_eq_some hw
        refine .inr ⟨u.set row, hafter, ?_⟩
        rw [u.set_recoveryAttempts]
        omega
  by_cases hr : requeues p e
  · rw [if_pos hr]
    rw [requeues] at hr
    split at hr
    · next doc reason at_ now row hw =>
      obtain ⟨⟨l, hl⟩, hbefore, _, hafter⟩ := wrote_eq_some hw
      obtain rfl : doc.dispatchPhid = p := by simpa using hr
      rw [hl] at h
      obtain ⟨_, ⟨op, hop, _⟩, _⟩ | ⟨_, ⟨opts, args, hop⟩, _⟩ | ⟨doc', _, hwrites, hshows⟩ |
        ⟨_, _, _, _, hu, _⟩ | ⟨phase, doc', _, hacts⟩ := h.update_cases
      · cases hop
      · cases hop
      · obtain ⟨rfl, hlt, _⟩ := hwrites
        obtain ⟨_, _, hattempts⟩ := hshows.row_eq rfl hbefore
        have hle : n ≤ row.recoveryAttempts := by
          obtain rfl | ⟨row', hrow', hle⟩ := hrow
          · exact Nat.zero_le _
          · obtain rfl : row' = row := Option.some.inj (hrow'.symm.trans hbefore)
            exact hle
        refine ⟨by omega, .inr ⟨_, hafter, ?_⟩⟩
        rw [set_recoveryAttempts]
        dsimp only
        omega
      · cases hu
      · obtain ⟨hwrites, _⟩ | ⟨_, ⟨_, hu⟩, _⟩ := hacts
        · cases phase <;> cases hwrites
        · cases hu
    · cases hr
  · rw [if_neg hr]
    exact ⟨hcap, hkept⟩

/-- When every requeue for recovery finds attempts left, it buys a claim, and in any case there
are no more requeues than allowed. -/
theorem buys_attempts (run : History) (ha : ∀ a ∈ run.activities, a.isScheduled)
    (hc : ∀ e ∈ run.events, requeuesWithAttempts run.policy e) : BuysAttempts run where
  claimed p es e fs f gs hsplit he hf := by
    have hmem : ∀ x, x ∈ e :: (fs ++ f :: gs) → x ∈ run.events := by
      intro x hx
      rw [hsplit]
      exact mem_append_right _ hx
    have hchain := run.chain
    rw [hsplit] at hchain
    have hfs : Chain e.after fs f.before := (hchain.split.2).split.1
    by_contra hnone
    push Not at hnone
    have howed : Owed run.policy p f.before := by
      refine (hfs.invariant (owed_of_requeue he (hc e (hmem e (by simp)))) fun c hcs ho => ?_).1
      obtain ⟨unsent, hdue⟩ := run.due ha (hmem c (by simp [hcs]))
      exact (owed_step hdue ho (eq_false_of_ne_true (hnone c hcs))).1
    obtain ⟨unsent, hdue⟩ := run.due ha (hmem f (by simp))
    by_cases hclaim : claims p f
    · rw [not_fails_of_claims hclaim] at hf
      cases hf
    · rw [(owed_step hdue howed (eq_false_of_ne_true hclaim)).2] at hf
      cases hf
  capped p := by
    have hstart : Requeued run.config p ([].countP (requeues p)) run.start :=
      ⟨Nat.zero_le _, .inl rfl⟩
    have hend := run.chain.invariant_along (I := fun es => Requeued run.config p (es.countP (requeues p)))
      hstart fun fs e gs hsplit hI => by
        obtain ⟨unsent, hdue⟩ := run.due ha (e := e) (by rw [hsplit]; simp)
        rw [countP_append, countP_singleton]
        exact requeued_step hdue hI
    exact hend.1

def staleRow (attempts : Nat) : Row :=
  { freshRow "d" with
    status := .inFlight
    attemptCount := attempts
    startedAt := some 0
    agentQueryId := some "q1" }

def hourly : Environment := { Environment.quiet with clock := fun n => 3600000 * n }

def recoveryDefaults : DispatchRecoveryServiceOptions where
  config := DEFAULT_RECOVERY_CONFIG
  enabled := true
  budget := 10
  backoffMs := 60000

def staleRecovery (attempts : Nat) : History where
  policy := POLICY_DEFAULTS
  config := DEFAULT_RECOVERY_CONFIG
  activities := [.tick { policy := POLICY_DEFAULTS }, .recovery recoveryDefaults,
    .tick { policy := POLICY_DEFAULTS }]
  same_settings a h := by
    simp only [List.mem_cons, List.not_mem_nil, or_false] at h
    obtain rfl | rfl | rfl := h <;> exact rfl
  start := .start [staleRow attempts] hourly

inductive RecoveryStep where
  | requeued | claimed | failed
deriving DecidableEq, Repr

def recoveryStep (p : String) (e : Event (sql.tagged Label) World) : Option RecoveryStep :=
  if requeues p e then some .requeued
  else if claims p e then some .claimed
  else if fails p e then some .failed
  else none

def recoveryLog (run : History) (p : String) : List RecoveryStep :=
  run.events.filterMap (recoveryStep p)

theorem stale_recovery_log : recoveryLog (staleRecovery 5) "d" = [.failed, .requeued, .failed] ∧
      recoveryLog (staleRecovery 4) "d" = [.failed, .requeued, .claimed] := by
  decide +kernel

/-- The fifth attempt goes stale and is requeued, and the bounce sweep fails it at once: it counts
the attempts, not the recovery's. -/
theorem not_buys_attempts : ¬ BuysAttempts (staleRecovery 5) := by
  intro h
  obtain ⟨_, _, es, hsplit, _, _, hlog⟩ := filterMap_eq_cons_iff.mp stale_recovery_log.1
  obtain ⟨fs, e, gs, rfl, _, he, hlog⟩ := filterMap_eq_cons_iff.mp hlog
  obtain ⟨hs, f, ks, rfl, hnone, hf, _⟩ := filterMap_eq_cons_iff.mp hlog
  have hrequeues : requeues "d" e := by
    by_contra hr
    simp only [recoveryStep, hr, if_false] at he
    split at he
    · cases he
    split at he
    · cases he
    · cases he
  have hfails : fails "d" f := by
    simp only [recoveryStep] at hf
    split at hf
    · cases hf
    split at hf
    · cases hf
    split at hf
    · assumption
    · cases hf
  rw [← cons_append, ← append_assoc] at hsplit
  obtain ⟨c, hc, hclaims⟩ := h.claimed "d" _ e hs f ks hsplit hrequeues hfails
  have hstep := hnone c hc
  simp only [recoveryStep, hclaims, if_true] at hstep
  split at hstep <;> cases hstep

theorem buys_attempts_stale : BuysAttempts (staleRecovery 4) :=
  buys_attempts _ (by decide) (by decide +kernel)

end IdAgents
