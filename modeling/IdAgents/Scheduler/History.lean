import IdAgents.Scheduler.Tick
import IdAgents.Scheduler.Closeout
import IdAgents.Scheduler.Recovery

namespace IdAgents
open JsText KeyedTable AtomicProgram Program World

inductive Activity where
  | call (op : Op)
  | agentDone (opts : CloseoutOptions) (args : AgentDone)
  | tick (opts : SchedulerServiceOptions)
  | recovery (opts : DispatchRecoveryServiceOptions)

def Activity.prog : Activity → Labelled Unit
  | call op => (fun _ => ()) <$> (attempt op.prog).tag Label.call
  | agentDone opts args => (fun _ => ()) <$> (attempt (handleAgentDone opts args)).tag Label.closeout
  | tick opts => (fun _ => ()) <$> IdAgents.tick opts
  | recovery opts => (fun _ => ()) <$> runOnce opts

def Activity.Under (policy : SchedulerPolicy) (config : RecoveryConfig) : Activity → Prop
  | tick opts => opts.policy = policy
  | recovery opts => opts.config = config
  | _ => True

/-- A queue and what happens to it: ticks do not overlap, nor do recovery passes, and a call is
answered before the next begins. -/
structure History where
  policy : SchedulerPolicy
  config : RecoveryConfig
  activities : List Activity
  same_settings : ∀ a ∈ activities, a.Under policy config
  start : World

namespace History

def prog (run : History) : Labelled Unit := Program.fold run.activities () fun _ a => a.prog

def events (run : History) : List (Event (sql.tagged Label) World) := run.prog.trace run.start

/-- The run comes to the world `w` after its first events `es`. -/
def Reaches (run : History) (es : List (Event (sql.tagged Label) World)) (w : World) : Prop :=
  ∃ fs, run.events = es ++ fs ∧ Chain run.start es w

end History

def World.Has (w : World) (doc : DispatchDoc) : Prop :=
  ∃ row, w.row? doc.dispatchPhid = some row ∧ rowToDoc row = doc

def UpdateStmt.BouncesCurrent (u : UpdateStmt) (w : World) : Prop :=
  ∀ doc bounce now, u = .markBounced doc bounce now → w.Has doc

/-- What a call of an operation among the activities `P` does alone. -/
def CallStmt (P : Activity → Prop) : Stmt → World → Prop
  | .insert row, _ => (∃ op, P (.call op)) ∧ Enqueued row
  | .update u, w => (∃ op, P (.call op) ∧ op.Writes u) ∧ u.BouncesCurrent w
  | c, _ => c.isQuiet

def CloseoutWrites : UpdateStmt → Prop
  | .markFailed .. | .doneWithResult .. | .markBounced .. => True
  | _ => False

/-- What a closeout among the activities `P` does alone. -/
def CloseoutStmt (P : Activity → Prop) : Stmt → World → Prop
  | .update u, w =>
    (∃ opts args, P (.agentDone opts args)) ∧ CloseoutWrites u ∧ u.BouncesCurrent w
  | c, _ => c.isQuiet

def RecoverWrites (config : RecoveryConfig) (doc : DispatchDoc) : UpdateStmt → Prop
  | .requeueForRecovery d _ _ _ => d = doc ∧ doc.recoveryAttempts < config.maxAttempts ∧
    (hasExternalSideEffect (rowToRecoverable doc).input → doc.allowAutoRetry)
  | .markRecoveryLanded p _ _ _ | .recordRecoveryOutcome p _ _ _ => p = doc.dispatchPhid
  | _ => False
section
variable (policy : SchedulerPolicy)
section
variable (config : RecoveryConfig)
section
variable (P : Activity → Prop)

def HistoryStmt (unsent : List String) : Label × Stmt → World → Prop
  | (.call, c), w => CallStmt P c w
  | (.closeout, c), w => CloseoutStmt P c w
  | (.recover doc, .update u), w => RecoverWrites config doc u ∧ w.Shows .failed doc
  | c, w => TickStmt policy unsent c w

def historyMonitor : Monitor (sql.tagged Label) World (List String) where
  see := seeStart
  due := HistoryStmt policy config P

theorem historyMonitor_unmoved (l : Label) :
    Unmoved ((historyMonitor policy config P).labelled l) where
  due g c w h := by
    change HistoryStmt policy config P g (l, c) w
    cases c with
    | insert | update | sendTalk => cases h
    | _ => cases l <;> exact rfl
  see := (tickMonitor_unmoved policy l).see

end

end

end

theorem HistoryStmt.of_tick (h : TickStmt policy unsent c w) :
    HistoryStmt policy config P unsent c w := by
  obtain ⟨l, c⟩ := c
  have hquiet : ∀ {l}, (l = .call ∨ l = .closeout ∨ ∃ doc, l = .recover doc) →
      TickStmt policy unsent (l, c) w → c.isQuiet := by
    rintro l (rfl | rfl | ⟨doc, rfl⟩) h <;> exact h
  cases l with
  | call =>
    have hq := hquiet (.inl rfl) h
    cases c <;> first | exact hq | cases hq
  | closeout =>
    have hq := hquiet (.inr (.inl rfl)) h
    cases c <;> first | exact hq | cases hq
  | recover doc =>
    have hq := hquiet (.inr (.inr ⟨doc, rfl⟩)) h
    cases c <;> first | exact hq | cases hq
  | _ => exact h

section
variable {policy : SchedulerPolicy} {config : RecoveryConfig} {P : Activity → Prop}

variable {M : Monitor sql World γ}

theorem allowed_wp (hp : Allowed Q p)
    (hdue : ∀ g c w, Q c → M.due g c w) : p.wp M (fun _ _ _ => True) g w := by
  apply wp_mono (wp_of_meets (I := fun _ _ => True) hp trivial
    fun g c w hc _ => ⟨hdue g c w hc, trivial⟩)
  intros
  trivial

theorem attempt_wp {p : Prog α} {R : Except ReactorError α → γ → World → Prop} (h : p.wp M R g w) :
    (attempt p).wp M (fun r g w => ∃ v, r = .ok v ∧ R v g w) g w := by
  have hwrapped : (Except.ok <$> p : Prog (Except ReactorError α)).wp M (fun r g w => match r with
      | .ok v => R v g w
      | .error e => R (.error e) g w) g w := by
    apply wp_seq h
    · intro a g w hR
      exact hR
    · intro e g w hR
      exact hR
  apply wp_tryCatch hwrapped
  · intro v g w hR
    exact ⟨v, rfl, hR⟩
  · intro e g w hR
    exact ⟨_, rfl, hR⟩

theorem World.has_of_row {w : World} (h : w.row? p = some row) : w.Has (rowToDoc row) :=
  ⟨row, (congrArg w.row? (row?_mem h).2).trans h, rfl⟩

theorem op_wp (op : Op) (hop : P (.call op)) :
    op.prog.wp ((historyMonitor policy config P).labelled .call) (fun _ _ _ => True) g w := by
  by_cases hb : ∃ p bounce, op = .markBounced p bounce
  · obtain ⟨p, bounce, rfl⟩ := hb
    have hsole : SoleWrite ((historyMonitor policy config P).labelled .call) (fun _ => True)
        (markBounced p bounce) g w := by
      apply markBounced_wp (historyMonitor_unmoved _ _ _ _)
      intro row now hrow ht
      refine ⟨trivial, fun w' h' => ⟨⟨⟨_, hop, (row?_mem hrow).2, rfl, ht⟩, ?_⟩, rfl⟩⟩
      rintro _ _ _ ⟨⟩
      exact has_of_row ((row?_congr h' p).trans hrow)
    apply wp_seq hsole
    · intros
      trivial
    · intros
      trivial
  · have hwrites : Allowed (fun c => ∀ w, CallStmt P c w) op.prog := by
      apply op.prog_allowed
      · intro c hc w
        cases c <;> first | exact hc | cases hc
      · intro row hrow w
        exact ⟨⟨op, hop⟩, hrow.enqueued⟩
      · rintro u hu w
        refine ⟨⟨op, hop, hu⟩, ?_⟩
        rintro doc bounce now rfl
        cases op with
        | markBounced p b => exact absurd ⟨p, b, rfl⟩ hb
        | _ => cases hu
    exact allowed_wp hwrites fun g c w hc => hc w

theorem wrapNullable_allowed (h : Allowed Q p) : Allowed Q (wrapNullable op p) :=
  (h.map _).tryCatch fun _ => trivial

theorem requireAgentDoneMutation_allowed : Allowed Q (requireAgentDoneMutation operation r) := by
  cases r with
  | ok doc => trivial
  | error e =>
    by_cases h : e.reason = "conflict"
    · simp only [requireAgentDoneMutation, if_pos h]
      trivial
    · simp only [requireAgentDoneMutation, if_neg h]
      trivial

theorem reconcileTerminalFailure_allowed : Allowed Q (reconcileTerminalFailure doc args) := by
  rw [reconcileTerminalFailure]
  split <;> trivial

theorem failCloseout_allowed (hq : Quiet Q)
    (hw : ∀ now, Q (.update (.markFailed doc.dispatchPhid args now))) :
    Allowed Q (failCloseout operation doc args) := by
  rw [failCloseout]
  split
  · exact reconcileTerminalFailure_allowed
  · apply (wrapNullable_allowed (markFailed_allowed hq hw)).bind
    intro r
    apply requireAgentDoneMutation_allowed.bind
    intro failed
    split <;> trivial

theorem succeedCloseout_allowed (hq : Quiet Q) (hw : ∀ required p result path promotion request now,
      required = .inFlight ∨ required = .queued →
      Q (.update (.doneWithResult required p result path promotion request now))) :
    Allowed Q (succeedCloseout doc args) := by
  rw [succeedCloseout]
  split
  · apply Allowed.map
    rw [reconcileTerminalSuccess]
    split <;> trivial
  · dsimp only
    split
    · exact closeWithResult_allowed hq fun _ _ => hw _ _ _ _ _ _ _ (.inr rfl)
    · exact closeWithResult_allowed hq fun _ _ => hw _ _ _ _ _ _ _ (.inl rfl)

theorem reportedDoc_allowed (hq : Quiet Q) : Allowed Q (reportedDoc args) := by
  have hquery : ∀ queryId, Allowed Q (getByQueryId queryId) := fun _ =>
    (selectRows_allowed hq).bind fun _ => trivial
  have hagent : ∀ agentQueryId, Allowed Q (getByAgentQueryId agentQueryId) := fun _ =>
    (selectRows_allowed hq).bind fun _ => trivial
  have hdoc : Allowed Q (docByQueryId args) := by
    rw [docByQueryId]
    split
    · exact (wrapNullable_allowed (hquery _)).map _
    · trivial
  apply hdoc.bind
  intro doc
  split
  · trivial
  · exact hagent _
  · trivial

theorem bounceCloseout_wp (hP : P (.agentDone opts args)) :
    (bounceCloseout doc limit classifiedAt).wp ((historyMonitor policy config P).labelled .closeout)
      (fun _ _ _ => True) g w := by
  apply stmt_wp (historyMonitor_unmoved _ _ _ _) (c := .fallbackLane doc) rfl
  intro (fallback : Option (Provider × Runtime)) w₁ _
  dsimp only
  split
  · trivial
  · rw [bind_eq]
    have hsole : ∀ bounce, SoleWrite ((historyMonitor policy config P).labelled .closeout)
        (fun _ => True) (markBounced doc.dispatchPhid bounce) g w₁ := by
      intro bounce
      apply markBounced_wp (historyMonitor_unmoved _ _ _ _)
      intro row now hrow _
      refine ⟨trivial, fun w' h' => ⟨⟨⟨opts, args, hP⟩, trivial, ?_⟩, rfl⟩⟩
      rintro _ _ _ ⟨⟩
      exact has_of_row ((row?_congr h' _).trans hrow)
    apply wp_then (wrapNullable_wp (hsole _))
    intro r g w _
    exact allowed_wp (Q := fun _ => False) requireAgentDoneMutation_allowed fun _ _ _ h => h.elim

abbrev Closes (P : Activity → Prop) (c : Stmt) : Prop := ∀ w, CloseoutStmt P c w

theorem closes_quiet : Quiet (Closes P) := by
  intro c hc w
  cases c <;> first | exact hc | cases hc

theorem closes_wp (hp : Allowed (Closes P) p) :
    p.wp ((historyMonitor policy config P).labelled .closeout) (fun _ _ _ => True) g w :=
  allowed_wp hp fun _ _ w hc => hc w

theorem fails_closeout {failure : FailureArgs} (hP : P (.agentDone opts args)) :
    Allowed (Closes P) (failCloseout operation doc failure) := by
  apply failCloseout_allowed closes_quiet
  intro now w
  exact ⟨⟨opts, args, hP⟩, trivial, fun _ _ _ h => by cases h⟩

theorem succeeds_closeout (hP : P (.agentDone opts args)) :
    Allowed (Closes P) (succeedCloseout doc args) := by
  apply succeedCloseout_allowed closes_quiet
  intro required p result path promotion request now _ w
  exact ⟨⟨opts, args, hP⟩, trivial, fun _ _ _ h => by cases h⟩

theorem closeClassified_wp (hP : P (.agentDone opts args)) {classification : Option FailedClassification} :
    (closeClassified opts args doc classifiedAt classification).wp
      ((historyMonitor policy config P).labelled .closeout) (fun _ _ _ => True) g w := by
  cases classification with
  | none => exact closes_wp (succeeds_closeout hP)
  | some failure =>
    simp only [closeClassified]
    generalize parseStrictModeFlag opts.rawStrictMode = flag
    by_cases hlimit : failure.reason = .rateLimitError ∧
        failure.matchedPattern = "text:claude-session-limit"
    · rw [if_pos hlimit]
      apply wp_seq (bounceCloseout_wp hP)
      · intros
        trivial
      · intros
        trivial
    · rw [if_neg hlimit]
      by_cases henforce : flag = .enforce
      · rw [if_pos henforce]
        exact closes_wp ((fails_closeout hP).map _)
      · rw [if_neg henforce]
        exact closes_wp (succeeds_closeout hP)

theorem handleAgentDone_wp (hP : P (.agentDone opts args)) :
    (handleAgentDone opts args).wp ((historyMonitor policy config P).labelled .closeout)
      (fun _ _ _ => True) g w := by
  apply wp_seq (closes_wp (reportedDoc_allowed closes_quiet))
  · intro doc g w _
    cases doc with
    | none => trivial
    | some doc =>
      dsimp only
      split
      · exact closes_wp ((fails_closeout hP).map _)
      · apply nowFn_wp (historyMonitor_unmoved _ _ _ _)
        intro classifiedAt w₁ _
        exact closeClassified_wp hP
  · intros
    trivial

theorem verifyRepos_allowed (hq : Quiet Q) (repos : List Json) : Allowed Q (verifyRepos repos) := by
  induction repos with
  | nil => trivial
  | cons repo repos ih =>
    rw [verifyRepos]
    split
    · trivial
    · split
      · refine ⟨hq (.verifyCommitOnBase _) rfl, fun (verified : Except String (Option Bool)) => ?_⟩
        match verified with
        | .ok (some true) => trivial
        | .ok (some false) | .ok none | .error _ => exact ih
      · exact ih

theorem resolveCommitEvidence_meets (hq : Quiet Q) :
    (resolveCommitEvidence opts doc).Meets Q fun resolved =>
      ∃ verified, resolved.input = { doc.input with commitVerifiedOnBase := verified } := by
  have hkeep : ∃ verified, doc.input = { doc.input with commitVerifiedOnBase := verified } :=
    ⟨doc.input.commitVerifiedOnBase, rfl⟩
  rw [resolveCommitEvidence]
  split
  · exact hkeep
  · apply Program.Meets.bind (verifyRepos_allowed hq _)
    intro found _
    cases found with
    | none => exact hkeep
    | some found => exact ⟨some true, rfl⟩

theorem classifyRecovery_retryable (h : (classifyRecovery input config).decision = .retryable) :
    input.recoveryAttempts < config.maxAttempts ∧
      (hasExternalSideEffect input → input.allowAutoRetry) := by
  rw [classifyRecovery] at h
  split at h
  · cases h
  split at h
  · cases h
  split at h
  · cases h
  split at h
  · cases h
  split at h
  · cases h
  · next hexternal _ hmax =>
    refine ⟨not_le.mp hmax, fun hex => ?_⟩
    cases hallow : input.allowAutoRetry with
    | true => rfl
    | false => exact absurd (by rw [hex, hallow]; rfl) hexternal

theorem recovers_wp {u : Instant → UpdateStmt} {f : Nat → Prog α} (hw : w.Shows .failed doc)
    (hu : ∀ now, RecoverWrites config doc (u now)) (hp : ∀ now, (u now).phid = doc.dispatchPhid)
    (hsee : ∀ now call p n at_, u now ≠ .runClaim call p n at_)
    (hf : ∀ n, (f n).Meets (fun c : Stmt => c.isQuiet) fun _ => True) :
    (nowFn.bind fun now => (execUpdate (u now)).bind f).wp
      ((historyMonitor policy config P).labelled (.recover doc))
      (fun _ g' w' => g' = g ∧ Spares doc.dispatchPhid w w') g w := by
  have hM := historyMonitor_unmoved policy config P (.recover doc)
  have hsole : SoleWrite ((historyMonitor policy config P).labelled (.recover doc))
      (fun u => u.phid = doc.dispatchPhid)
      (nowFn.bind fun now => (execUpdate (u now)).bind f) g w := by
    apply nowFn_wp hM
    intro now w₁ h₁
    apply execUpdate_sole hM (hp now) ?_ h₁ hf
    intro w' h'
    exact ⟨⟨hu now, hw.congr (row?_congr h' _)⟩, seeStart_update (hsee now)⟩
  apply wp_mono hsole
  rintro r g' w' ⟨rfl, hleaves⟩
  exact ⟨rfl, hleaves.spares fun u hu => hu⟩

theorem recordRecoveryOutcome_wp (hw : w.Shows .failed doc) :
    (recordRecoveryOutcome doc.dispatchPhid decision reason).wp
      ((historyMonitor policy config P).labelled (.recover doc))
      (fun _ g' w' => g' = g ∧ Spares doc.dispatchPhid w w') g w :=
  recovers_wp hw (fun _ => rfl) (fun _ => rfl) (fun _ _ _ _ _ => by simp) fun _ => by trivial

theorem markRecoveryLanded_wp (hw : w.Shows .failed doc) :
    (markRecoveryLanded doc.dispatchPhid status reason).wp
      ((historyMonitor policy config P).labelled (.recover doc))
      (fun _ g' w' => g' = g ∧ Spares doc.dispatchPhid w w') g w :=
  recovers_wp hw (fun _ => rfl) (fun _ => rfl) (fun _ _ _ _ _ => by simp) fun _ => by trivial

theorem requeueForRecovery_wp (hw : w.Shows .failed doc)
    (hretry : doc.recoveryAttempts < config.maxAttempts ∧
      (hasExternalSideEffect (rowToRecoverable doc).input → doc.allowAutoRetry)) :
    (requeueForRecovery doc.dispatchPhid reason nextAttemptAt).wp
      ((historyMonitor policy config P).labelled (.recover doc))
      (fun _ g' w' => g' = g ∧ Spares doc.dispatchPhid w w') g w := by
  apply getByPhid_wp (historyMonitor_unmoved _ _ _ _)
  intro w₁ h₁
  obtain ⟨hs, row, hrow, hdoc⟩ := id hw
  have hw₁ : w₁.Shows .failed doc := hw.congr (row?_congr h₁ _)
  have hspares : Spares doc.dispatchPhid w w₁ := fun q _ => row?_congr h₁ q
  rw [hrow, Option.map_some, hdoc]
  dsimp only
  split
  · exact ⟨rfl, hspares⟩
  · have hwrite : ∀ now, RecoverWrites config doc
        (.requeueForRecovery doc reason nextAttemptAt now) := fun _ => ⟨rfl, hretry⟩
    apply wp_mono (recovers_wp hw₁ hwrite (fun _ => rfl) (fun _ _ _ _ _ => by simp)
      fun _ => by trivial)
    rintro r g' w' ⟨rfl, hspares'⟩
    exact ⟨rfl, hspares.trans hspares'⟩

theorem recovers_report {p : Prog β} {f : β → Prog RecoveryRunReport} {R : World → Prop}
    (hp : p.wp M (fun _ g' w' => g' = g ∧ R w') g w)
    (hf : ∀ b, ∃ report, f b = .ret report) :
    (p.bind f).wp M (fun _ g' w' => g' = g ∧ R w') g w := by
  apply wp_seq hp
  · intro b g' w' h
    obtain ⟨report, hreport⟩ := hf b
    rw [hreport]
    exact h
  · intro e g' w' h
    exact h

variable {opts : DispatchRecoveryServiceOptions}

theorem applyDecision_wp (hw : w.Shows .failed doc)
    (hretry : decision.decision = .retryable → doc.recoveryAttempts < config.maxAttempts ∧
      (hasExternalSideEffect (rowToRecoverable doc).input → doc.allowAutoRetry)) :
    (applyDecision opts report (rowToRecoverable doc) resolved decision).wp
      ((historyMonitor policy config P).labelled (.recover doc))
      (fun _ g' w' => g' = g ∧ Spares doc.dispatchPhid w w') g w := by
  obtain ⟨decision, reason⟩ := decision
  cases decision with
  | landed => exact recovers_report (markRecoveryLanded_wp hw) fun _ => ⟨_, rfl⟩
  | retryable =>
    simp only [applyDecision]
    split
    · exact ⟨rfl, fun q _ => rfl⟩
    · apply nowFn_wp (historyMonitor_unmoved _ _ _ _)
      intro now w₁ h₁
      have hw₁ : w₁.Shows .failed doc := hw.congr (row?_congr h₁ _)
      have hspares : Spares doc.dispatchPhid w w₁ := fun q _ => row?_congr h₁ q
      apply wp_mono (recovers_report (requeueForRecovery_wp hw₁ (hretry rfl))
        fun _ => ⟨_, rfl⟩)
      rintro r g' w' ⟨rfl, h'⟩
      exact ⟨rfl, hspares.trans h'⟩
  | unsafeSideEffect | exhausted | needsOperator =>
    exact recovers_report (recordRecoveryOutcome_wp hw) fun _ => ⟨_, rfl⟩

theorem recoverOne_handles (hw : w.Shows .failed doc) :
    (recoverOne opts report doc).wp ((historyMonitor policy opts.config P).labelled (.recover doc))
      (fun r g' w' => ∃ v, r = .ok v ∧ g' = g ∧ Spares doc.dispatchPhid w w') g w := by
  have happly : (applyRecovery opts report (rowToRecoverable doc)).wp
      ((historyMonitor policy opts.config P).labelled (.recover doc))
      (fun _ g' w' => g' = g ∧ Spares doc.dispatchPhid w w') g w := by
    apply wp_seq (quiet_wp (historyMonitor_unmoved _ _ _ _)
      (resolveCommitEvidence_meets fun _ h => h))
    · rintro resolved g₁ w₁ ⟨⟨rfl, h₁⟩, hresolved⟩
      obtain ⟨verified, hinput⟩ := hresolved resolved rfl
      apply wp_mono (applyDecision_wp (hw.congr (row?_congr h₁ _)) ?_)
      · rintro r g' w' ⟨rfl, h'⟩
        exact ⟨rfl, Spares.trans (fun q _ => row?_congr h₁ q) h'⟩
      · intro hdecision
        have hretry := classifyRecovery_retryable hdecision
        rw [hinput] at hretry
        exact hretry
    · rintro e g₁ w₁ ⟨⟨rfl, h₁⟩, _⟩
      exact ⟨rfl, fun q _ => row?_congr h₁ q⟩
  apply wp_tryCatch happly
  · rintro v g' w' ⟨rfl, hspares⟩
    exact ⟨v, rfl, rfl, hspares⟩
  · rintro e g' w' ⟨rfl, hspares⟩
    exact ⟨_, rfl, rfl, hspares⟩

theorem runOnce_wp : (runOnce opts).wp (historyMonitor policy opts.config P)
      (fun r _ _ => ∃ v, r = .ok v ∧ True) g w := by
  have hM := historyMonitor_unmoved policy opts.config P .recovery
  have hlist : (listFailedForRecovery opts.lookbackMs).wp
      ((historyMonitor policy opts.config P).labelled .recovery)
      (fun r _ w' => ∃ docs, r = .ok docs ∧ ∀ g : List String,
        Worklist .failed (fun _ _ => True) docs g w') g w := by
    apply nowFn_wp hM
    intro now w₁ _
    apply selectRows_wp hM
    intro w₂ h₂
    refine ⟨_, rfl, fun g => listed_worklist failedOrder h₂ (fun row hrow => ?_) fun _ _ => trivial⟩
    simp only [recoverable, Bool.and_eq_true, decide_eq_true_eq] at hrow
    exact hrow.1.1
  rw [runOnce]
  split
  · exact ⟨_, rfl, trivial⟩
  · apply wp_then (wp_tag.mpr (attempt_wp hlist))
    rintro v g' w' ⟨docs, rfl, hdocs⟩
    exact worklist_wp (fun g _ => g) _ (hdocs g') (fun _ _ _ _ h => h)
      fun report doc g w hw _ => recoverOne_handles hw

theorem activity_wp (ha : a.Under policy config) (hP : P a) :
    a.prog.wp (historyMonitor policy config P) (fun r _ _ => ∃ v, r = .ok v ∧ True) g w := by
  cases a with
  | call op =>
    apply wp_then (wp_tag.mpr (attempt_wp (op_wp op hP)))
    intro r g w _
    exact ⟨(), rfl, trivial⟩
  | agentDone opts args =>
    apply wp_then (wp_tag.mpr (attempt_wp (handleAgentDone_wp hP)))
    intro r g w _
    exact ⟨(), rfl, trivial⟩
  | tick opts =>
    cases ha
    have htick : (tick opts).wp (historyMonitor opts.policy config P)
        (fun r _ _ => ∃ v, r = .ok v ∧ True) g w :=
      wp_of_due (tick_wp opts) (fun _ _ _ => rfl) fun _ _ _ h => .of_tick h
    apply wp_then htick
    intro r g w _
    exact ⟨(), rfl, trivial⟩
  | recovery opts =>
    cases ha
    apply wp_then runOnce_wp
    intro r g w _
    exact ⟨(), rfl, trivial⟩

end

namespace History

variable (run : History)

theorem prog_wp (hP : ∀ a ∈ run.activities, P a) :
    run.prog.wp (historyMonitor run.policy run.config P) (fun _ _ _ => True) g run.start := by
  apply wp_fold (J := fun as _ _ => as ⊆ run.activities) () (List.Subset.refl _)
  · rintro ⟨⟩ a as g w hsub
    have ha : a ∈ run.activities := hsub List.mem_cons_self
    have hwp := activity_wp (g := g) (w := w) (run.same_settings a ha) (hP a ha)
    apply wp_mono hwp
    rintro r g' w' ⟨v, rfl, _⟩
    exact ⟨v, rfl, fun b hb => hsub (List.mem_cons_of_mem _ hb)⟩
  · intros
    trivial

theorem due (hP : ∀ a ∈ run.activities, P a) (he : e ∈ run.events) :
    ∃ unsent, HistoryStmt run.policy run.config P unsent e.stmt e.before := by
  obtain ⟨es, fs, hsplit⟩ := List.append_of_mem he
  obtain ⟨_, hdue⟩ := wp_sound (run.prog_wp hP (g := []))
  exact ⟨_, hdue es e fs hsplit⟩

theorem chain : Chain run.start run.events (run.prog.run run.start).2 :=
  run_chain run.prog run.start

end History

def wrote (e : Event (sql.tagged Label) World) : Option (UpdateStmt × Row) :=
  match (e.stmt : Label × Stmt).2 with
  | .update u =>
    if e.before.table.updateRefused u.toUpdate then none
    else ((e.before.row? u.phid).filter u.guard).map fun row => (u, row)
  | _ => none

theorem wrote_eq_some (h : wrote e = some (u, row)) :
    (∃ l, e.stmt = (l, .update u)) ∧ e.before.row? u.phid = some row ∧ u.guard row ∧
      e.after.row? u.phid = some (u.set row) := by
  obtain ⟨⟨l, c⟩, w⟩ := e
  cases c with
  | update v =>
    simp only [wrote] at h
    split at h
    · cases h
    · next hrefused =>
      obtain ⟨r, hr, hpair⟩ := Option.map_eq_some_iff.mp h
      obtain ⟨rfl, rfl⟩ := Prod.mk.inj hpair
      obtain ⟨hrow, hg⟩ := Option.filter_eq_some_iff.mp hr
      exact ⟨⟨l, rfl⟩, hrow, hg,
        UpdateStmt.row?_effect_self hrow hg (eq_false_of_ne_true hrefused)⟩
  | _ => cases h

theorem row?_after (e : Event (sql.tagged Label) World) (h : e.before.row? p = some row) :
    e.after.row? p = some row ∨ ∃ u, wrote e = some (u, row) ∧ u.phid = p := by
  obtain ⟨⟨l, c⟩, w⟩ := e
  obtain hkeep | ⟨u, rfl, rfl, hg, _⟩ := c.row?_effect h
  · exact .inl hkeep
  · by_cases hrefused : w.table.updateRefused u.toUpdate
    · have htable : (Stmt.effect (.update u) w).table = w.table :=
        Table.update_of_refused hrefused
      exact .inl ((row?_congr htable _).trans h)
    · have hrow : w.row? u.phid = some row := h
      refine .inr ⟨u, ?_, rfl⟩
      simp only [wrote, if_neg hrefused, hrow, Option.filter_some, hg, if_true, Option.map_some]

theorem HistoryStmt.update_cases (h : HistoryStmt policy config P unsent (l, .update u) w) :
    (l = .call ∧ (∃ op, P (.call op) ∧ op.Writes u) ∧ u.BouncesCurrent w) ∨
    (l = .closeout ∧ (∃ opts args, P (.agentDone opts args)) ∧ CloseoutWrites u ∧
      u.BouncesCurrent w) ∨
    (∃ doc, l = .recover doc ∧ RecoverWrites config doc u ∧ w.Shows .failed doc) ∨
    (∃ call p n now, u = .runClaim call p n now ∧
      ∀ row, w.row? p = some row → n = row.attemptCount + 1) ∨
    (∃ phase doc, l = .on phase doc ∧ phase.Acts policy doc u w) := by
  cases l with
  | call => exact .inl ⟨rfl, h⟩
  | closeout => exact .inr (.inl ⟨rfl, h⟩)
  | recover doc => exact .inr (.inr (.inl ⟨doc, rfl, h⟩))
  | on phase doc => exact .inr (.inr (.inr (.inr ⟨phase, doc, rfl, h⟩)))
  | tick =>
    cases u with
    | runClaim call p n now => exact .inr (.inr (.inr (.inl ⟨call, p, n, now, rfl, h⟩)))
    | _ => cases h
  | recovery => cases h

end IdAgents
