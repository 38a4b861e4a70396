import IdAgents.Scheduler.Tick

namespace IdAgents
open JsText KeyedTable AtomicProgram

/-- A scheduler left alone with a queue: tick after tick of one policy, under an environment that
answers as it likes. What is set from outside between ticks may differ from tick to tick. -/
structure Ticking where
  policy : SchedulerPolicy
  ticks : List SchedulerServiceOptions
  same_policy : ∀ opts ∈ ticks, opts.policy = policy
  start : World

def handsOver (p : String) (e : Event (sql.tagged Label) World) : Bool :=
  match (e.stmt : Label × Stmt) with
  | (_, .sendTalk doc) => doc.dispatchPhid = p
  | _ => false

def reapsWithinBudget (policy : SchedulerPolicy) (e : Event (sql.tagged Label) World) : Bool :=
  match (e.stmt : Label × Stmt) with
  | (.on .wedged _, .update (.requeueAfterBounce p _)) =>
    (e.before.row? p).all fun row => row.attemptCount < policy.rateLimitMaxAttempts
  | _ => true

namespace Ticking

variable (run : Ticking)

def prog : Labelled Unit :=
  Program.fold run.ticks () fun _ opts => (fun _ => ()) <$> tick opts

def events : List (Event (sql.tagged Label) World) := run.prog.trace run.start

/-- How often a dispatch is handed to `sendTalk` before it becomes terminal. -/
def talks (p : String) : Nat :=
  (run.events.takeWhile fun e =>
    (e.before.row? p).all fun row => !isTerminal row.status).countP (handsOver p)

def AttemptsBounded : Prop :=
  ∀ p, (run.talks p : Int) ≤ run.policy.rateLimitMaxAttempts

end Ticking

/-- `k` counts the hand-overs of a dispatch, made or owed to its claim: no more than its attempts,
and fewer than allowed while it is queued, unless it has had none. -/
structure WithinBudget (policy : SchedulerPolicy) (p : String) (k : Nat) (w : World) : Prop where
  bound : (k : Int) ≤ policy.rateLimitMaxAttempts
  attempts : ∀ row, w.row? p = some row → k ≤ row.attemptCount
  queued : ∀ row, w.row? p = some row → row.status = .queued →
    k = 0 ∨ row.attemptCount < policy.rateLimitMaxAttempts
  absent : w.row? p = none → k = 0

theorem WithinBudget.congr (h : WithinBudget policy p k w) (hw : w'.row? p = w.row? p) :
    WithinBudget policy p k w' where
  bound := h.bound
  attempts row hrow := h.attempts row (hw ▸ hrow)
  queued row hrow := h.queued row (hw ▸ hrow)
  absent hrow := h.absent (hw ▸ hrow)

theorem WithinBudget.rewrite (h : WithinBudget policy p k w) (hrow : w.row? p = some row)
    (hw : w'.row? p = some row') (ha : row'.attemptCount = row.attemptCount)
    (hq : row'.status = .queued → row'.attemptCount < policy.rateLimitMaxAttempts) :
    WithinBudget policy p k w' := by
  refine ⟨h.bound, fun r hr => ?_, fun r hr hs => ?_, fun hnone => ?_⟩
  · obtain rfl : row' = r := Option.some.inj (hw.symm.trans hr)
    rw [ha]
    exact h.attempts row hrow
  · obtain rfl : row' = r := Option.some.inj (hw.symm.trans hr)
    exact .inr (hq hs)
  · rw [hw] at hnone
    cases hnone

theorem Phase.Writes.budget {phase : Phase} (h : phase.Writes policy doc u) (row : Row)
    (hg : u.guard row) : (u.set row).attemptCount = row.attemptCount ∧
      ((u.set row).status = .queued → doc.attemptCount < policy.rateLimitMaxAttempts) := by
  cases u with
  | markFailed | markDone | markBounced | markRetryExhausted => exact ⟨rfl, fun hs => nomatch hs⟩
  | acceptInFlight =>
    have hs : row.status = .inFlight := by simpa [UpdateStmt.guard] using hg
    refine ⟨rfl, fun hq => ?_⟩
    have hq' : row.status = .queued := hq
    rw [hs] at hq'
    cases hq'
  | requeueAfterBounce =>
    cases phase with
    | bounced => exact ⟨rfl, fun _ => h.2⟩
    | _ => cases h
  | _ => cases phase <;> cases h

variable {e : Event (sql.tagged Label) World}

theorem update_budget (he : e.stmt = (Label.on phase doc, Stmt.update u))
    (hd : phase.Acts policy doc u e.before)
    (hc : reapsWithinBudget policy e) (hrow : e.before.row? u.phid = some row) (hg : u.guard row) :
    (u.set row).attemptCount = row.attemptCount ∧
      ((u.set row).status = .queued → row.attemptCount < policy.rateLimitMaxAttempts) := by
  obtain ⟨hwrites, hshows⟩ | ⟨rfl, ⟨now, rfl⟩, _⟩ := hd
  · rw [hwrites.phid] at hrow
    have hdoc : (rowToDoc row).attemptCount = doc.attemptCount := by rw [hshows.doc_eq hrow]
    have hsame : row.attemptCount = doc.attemptCount := hdoc
    rw [hsame]
    exact hsame ▸ hwrites.budget row hg
  · refine ⟨rfl, fun _ => ?_⟩
    have hrow' : e.before.row? doc.dispatchPhid = some row := hrow
    simpa [reapsWithinBudget, he, hrow'] using hc

theorem within_of_update
    (he : e.stmt = (l, c)) (hi : ∀ row, c ≠ .insert row) (h : WithinBudget policy p k e.before)
    (hu : ∀ u row, c = .update u → u.phid = p → e.before.row? p = some row → u.guard row →
      (u.set row).attemptCount = row.attemptCount ∧
        ((u.set row).status = .queued → row.attemptCount < policy.rateLimitMaxAttempts)) :
    WithinBudget policy p k e.after := by
  have hafter : e.after = c.effect e.before := by
    change Stmt.effect (e.stmt : Label × Stmt).2 e.before = _
    rw [he]
  rw [hafter]
  cases hrow : e.before.row? p with
  | none =>
    refine h.congr ?_
    cases c with
    | insert row => exact absurd rfl (hi row)
    | update u =>
      have hnone := Table.get?_isSome_update e.before.table u.toUpdate p
      change ((World.row? (Stmt.effect (.update u) e.before) p).isSome) =
        (e.before.row? p).isSome at hnone
      rw [hrow] at hnone
      rw [hrow]
      simpa using hnone
    | _ => rfl
  | some row =>
    obtain hkeep | ⟨u, rfl, rfl, hg, hset⟩ := c.row?_effect hrow
    · exact h.congr (hkeep.trans hrow.symm)
    · obtain ⟨ha, hq⟩ := hu u row rfl rfl hrow hg
      refine h.rewrite hrow hset ha fun hs => ?_
      rw [ha]
      exact hq hs

theorem within_of_claim (hM : 1 ≤ policy.rateLimitMaxAttempts)
    (hn : ∀ row, w.row? p = some row → n = row.attemptCount + 1)
    (h : WithinBudget policy p (k + unsent.count p) w) : WithinBudget policy p
      (k + (seeStart unsent (l, .update (.runClaim call p n now)) w).count p)
      (Stmt.effect (.update (.runClaim call p n now)) w) := by
  cases hanswer : Stmt.answer (.update (.runClaim call p n now)) w with
  | none =>
    have hsee : seeStart unsent (l, .update (.runClaim call p n now)) w = unsent := by
      simp only [seeStart, hanswer]
    have htable : (Stmt.effect (.update (.runClaim call p n now)) w).table = w.table :=
      UpdateStmt.table_of_refused hanswer
    rw [hsee]
    exact h.congr (World.row?_congr htable p)
  | some m =>
    rw [seeStart_claim hanswer]
    split
    · next hzero =>
      refine h.congr (row?_of_rowCount_zero ?_ p)
      rw [(UpdateStmt.answer_some hanswer).2, hzero]
    · next hcount =>
      obtain ⟨hrefused, hm⟩ := UpdateStmt.answer_some hanswer
      rw [← hm] at hcount
      obtain ⟨row, hrow, hg⟩ := UpdateStmt.exists_of_rowCount hcount
      have hset := UpdateStmt.row?_effect_self hrow hg hrefused
      have hqueued : row.status = .queued := by simpa [UpdateStmt.guard] using hg
      have hattempts := h.attempts row hrow
      have hbound : ((k + unsent.count p + 1 : Nat) : Int) ≤ policy.rateLimitMaxAttempts := by
        obtain hzero | hlt := h.queued row hrow hqueued
        · omega
        · omega
      rw [List.count_cons_self, ← Nat.add_assoc]
      refine ⟨hbound, fun r hr => ?_, fun r hr hs => ?_, fun hnone => ?_⟩
      · obtain rfl := Option.some.inj (hset.symm.trans hr)
        change k + unsent.count p + 1 ≤ n
        rw [hn row hrow]
        omega
      · obtain rfl := Option.some.inj (hset.symm.trans hr)
        cases hs
      · have hsome : World.row? (Stmt.effect (.update (.runClaim call p n now)) w) p = _ := hset
        rw [hsome] at hnone
        cases hnone

theorem within_step (hM : 1 ≤ policy.rateLimitMaxAttempts)
    (hd : TickStmt policy unsent e.stmt e.before) (hc : reapsWithinBudget policy e)
    (h : WithinBudget policy p (n + unsent.count p) e.before) : WithinBudget policy p
      ((n + if handsOver p e then 1 else 0) + (seeStart unsent e.stmt e.before).count p)
      e.after := by
  obtain ⟨⟨l, c⟩, w⟩ := e
  obtain hq | ⟨call, q, m, now, rfl, hn⟩ | ⟨phase, doc, u, rfl, rfl, hu⟩ | ⟨doc, rfl, _, hmem⟩ :=
    hd.cases
  · have hsee : seeStart unsent (l, c) w = unsent := (tickMonitor_unmoved policy l).see unsent c w hq
    have hover : handsOver p ⟨(l, c), w⟩ = false := by
      cases c <;> first | rfl | cases hq
    rw [hover, hsee]
    exact h.congr (World.row?_congr (Stmt.table_of_isQuiet hq w) p)
  · by_cases hqp : q = p
    · subst hqp
      exact within_of_claim hM hn h
    · have hcount : (seeStart unsent (l, .update (.runClaim call q m now)) w).count p =
          unsent.count p := by
        simp only [seeStart]
        split
        · exact List.count_cons_of_ne hqp
        · rfl
      refine WithinBudget.congr (w := w) ?_ (update_spares p (Ne.symm hqp))
      simpa [handsOver, hcount] using h
  · have hkeep : WithinBudget policy p (n + unsent.count p) _ :=
      within_of_update rfl (fun row => by simp) h fun v row hv hp hrow hg => by
        obtain rfl := Stmt.update.inj hv
        exact update_budget rfl hu hc (hp ▸ hrow) hg
    rw [seeStart_update fun _ _ _ _ => hu.not_claim]
    exact hkeep
  · have hkeep : WithinBudget policy p (n + unsent.count p)
        (Stmt.effect (.sendTalk doc) w) := h.congr (World.row?_congr rfl p)
    by_cases hp : doc.dispatchPhid = p
    · subst hp
      have hpos : 0 < unsent.count doc.dispatchPhid := List.count_pos_iff.mpr hmem
      have hsum : (n + 1) + (unsent.erase doc.dispatchPhid).count doc.dispatchPhid =
          n + unsent.count doc.dispatchPhid := by
        rw [List.count_erase_self]
        omega
      have hover : handsOver doc.dispatchPhid ⟨(l, .sendTalk doc), w⟩ := by simp [handsOver]
      rw [if_pos hover]
      change WithinBudget policy _ ((n + 1) + (unsent.erase doc.dispatchPhid).count _) _
      rw [hsum]
      exact hkeep
    · have hover : handsOver p ⟨(l, .sendTalk doc), w⟩ = false := by simp [handsOver, hp]
      have hcount : (unsent.erase doc.dispatchPhid).count p = unsent.count p :=
        List.count_erase_of_ne (Ne.symm hp)
      rw [hover]
      change WithinBudget policy _ (n + (unsent.erase doc.dispatchPhid).count _) _
      rw [hcount]
      exact hkeep

theorem within_run (hM : 1 ≤ policy.rateLimitMaxAttempts) (hchain : Chain w es w')
    (hd : ∀ es₁ e es₂, es = es₁ ++ e :: es₂ →
      TickStmt policy ((tickMonitor policy).over unsent es₁) e.stmt e.before)
    (hc : ∀ e ∈ es, reapsWithinBudget policy e) (h : WithinBudget policy p (n + unsent.count p) w) :
    ((n + es.countP (handsOver p) : Nat) : Int) ≤ policy.rateLimitMaxAttempts := by
  induction es generalizing w n unsent with
  | nil =>
    have hbound := h.bound
    simp only [List.countP_nil]
    omega
  | cons e es ih =>
    obtain ⟨rfl, hchain⟩ := hchain
    have hhead : TickStmt policy unsent e.stmt e.before := hd [] e es rfl
    have hnext := within_step hM hhead (hc e (by simp)) h
    have htail := ih hchain (fun es₁ f es₂ hsplit => hd (e :: es₁) f es₂ (by rw [hsplit]; rfl))
      (fun f hf => hc f (by simp [hf])) hnext
    rw [List.countP_cons]
    omega

namespace Ticking

theorem prog_wp (run : Ticking) :
    run.prog.wp (tickMonitor run.policy) (fun _ _ _ => True) g run.start := by
  have hticks : ∀ ticks : List SchedulerServiceOptions, (∀ o ∈ ticks, o.policy = run.policy) →
      ∀ g w, (Program.fold ticks () fun _ opts => (fun _ => ()) <$> tick opts).wp
        (tickMonitor run.policy) (fun _ _ _ => True) g w := by
    intro ticks hp g w
    apply Program.wp_fold (J := fun ticks _ _ => ∀ o ∈ ticks, o.policy = run.policy) () hp
    · rintro ⟨⟩ opts ticks g w hp
      rw [← hp opts (by simp)]
      apply Program.wp_then (tick_wp opts)
      intro report g w _
      exact ⟨(), rfl, fun o ho => by rw [hp o (by simp [ho]), hp opts (by simp)]⟩
    · intros
      trivial
  exact hticks run.ticks run.same_policy g run.start

/-- When reaped starts are requeued with attempts left only, and at least one attempt is allowed,
no dispatch is handed over more often than allowed. -/
theorem attempts_bounded (run : Ticking) (hM : 1 ≤ run.policy.rateLimitMaxAttempts)
    (hc : ∀ e ∈ run.events, reapsWithinBudget run.policy e) : run.AttemptsBounded := by
  intro p
  obtain ⟨_, hdue⟩ := Program.wp_sound (run.prog_wp (g := []))
  have hstart : WithinBudget run.policy p (0 + [].count p) run.start := by
    refine ⟨?_, ?_, ?_, ?_⟩
    · simp only [List.count_nil]
      omega
    · simp
    · simp
    · simp
  have hall := within_run hM (Program.run_chain run.prog run.start) hdue hc hstart
  have hprefix : run.talks p ≤ run.events.countP (handsOver p) :=
    (List.takeWhile_prefix _).sublist.countP_le
  change ((0 + run.events.countP (handsOver p) : Nat) : Int) ≤ _ at hall
  omega

end Ticking

def silentTransport : Environment :=
  { Environment.quiet with clock := fun n => 60000 * n }

def silentTicks (n : Nat) : Ticking where
  policy := POLICY_DEFAULTS
  ticks := List.replicate n { policy := POLICY_DEFAULTS }
  same_policy opts h := by rw [List.eq_of_mem_replicate h]
  start := .start [freshRow "d"] silentTransport

theorem silent_ticks_talks : (silentTicks 6).talks "d" = 6 := by decide +kernel

/-- The wedged reap requeues without asking for the attempts: the default policy allows five. -/
theorem attempts_not_bounded : ¬ (silentTicks 6).AttemptsBounded := by
  intro h
  have hbound := h "d"
  rw [silent_ticks_talks] at hbound
  exact absurd hbound (by decide)

theorem attempts_bounded_silent : (silentTicks 5).AttemptsBounded :=
  (silentTicks 5).attempts_bounded (by decide) (by decide +kernel)

end IdAgents
