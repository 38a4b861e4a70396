import IdAgents.Scheduler.History

namespace IdAgents
open JsText KeyedTable AtomicProgram

def UpdateStmt.Sweeps : UpdateStmt → Prop
  | .markDone .. | .markFailed .. => True
  | .markBounced doc _ _ | .markRetryExhausted doc _ _ => isTerminal doc.status = false
  | _ => False

structure Reaps (Q : Stmt → Prop) : Prop where
  quiet : Quiet Q
  reap : ∀ u : UpdateStmt, u.Sweeps → Q (.update u)

def UpdateStmt.isRoutine : UpdateStmt → Bool
  | .runClaim .. | .acceptQueued .. | .acceptInFlight .. | .doneWithResult ..
  | .requeueAfterBounce .. | .requeueForRecovery .. | .markRecoveryLanded ..
  | .recordRecoveryOutcome .. => true
  | _ => false

structure Routine (Q : Stmt → Prop) : Prop extends Reaps Q where
  update : ∀ u : UpdateStmt, u.isRoutine → u.Issued → Q (.update u)
  send : ∀ doc, Q (.sendTalk doc)

abbrev AllowedAt (Q : Stmt → Prop) (p : Labelled α) : Prop :=
  p.Meets (fun c : Label × Stmt => Q c.2) fun _ => True

theorem Allowed.tag (h : Allowed Q p) (l : Label) : AllowedAt Q (p.tag l) :=
  (Program.Meets.tag h l).mono (fun _ hc => hc.2) fun _ h => h

theorem AllowedAt.bind (h : AllowedAt Q p) (hf : ∀ a, AllowedAt Q (f a)) : AllowedAt Q (p.bind f) :=
  Program.Meets.bind h fun a _ => hf a

theorem wrap_allowed (h : Allowed Q p) : Allowed Q (wrap operation p) :=
  (h.map _).tryCatch fun _ => trivial

theorem attempt_allowed (h : Allowed Q p) : Allowed Q (attempt p) :=
  (h.map _).tryCatch fun _ => trivial

theorem lastActivity_allowed (hq : Quiet Q) : Allowed Q (lastActivity queryEvidence startedMs q) := by
  rw [lastActivity]
  split
  · trivial
  · refine ⟨hq (.getEvidence _) rfl, fun (evidence : Except String (Option QueryEvidence)) => ?_⟩
    cases evidence with
    | error => trivial
    | ok evidence =>
      dsimp only [Program.bind]
      split <;> trivial

section
variable {Q : Stmt → Prop} (h : Reaps Q)
include h

theorem client_markFailed_allowed : Allowed Q (Client.markFailed p args) :=
  wrapNullable_allowed (markFailed_allowed h.quiet fun _ => h.reap _ trivial)

theorem client_markDone_allowed : Allowed Q (Client.markDone p) :=
  wrapNullable_allowed (markDone_allowed h.quiet fun _ => h.reap _ trivial)

theorem client_markBounced_allowed : Allowed Q (Client.markBounced p bounce) :=
  wrapNullable_allowed (markBounced_allowed h.quiet fun _ _ _ ht => h.reap _ ht)

theorem client_markRetryExhausted_allowed : Allowed Q (Client.markRetryExhausted p detail) :=
  wrapNullable_allowed (markRetryExhausted_allowed h.quiet fun _ _ _ ht => h.reap _ ht)

theorem applyEvidence_allowed : Allowed Q (applyEvidence policy nowMs report doc) := by
  rw [applyEvidence]
  split
  · trivial
  · refine ⟨h.quiet (.getEvidence _) rfl, fun (evidence : Except String (Option QueryEvidence)) => ?_⟩
    cases evidence with
    | error e => trivial
    | ok found =>
      cases found with
      | none => trivial
      | some evidence =>
        change Allowed Q (if completedResultIsIncomplete evidence then _ else _)
        split
        · apply (client_markFailed_allowed h).bind
          intro r
          cases r <;> trivial
        split
        · apply (client_markDone_allowed h).bind
          intro r
          cases r <;> trivial
        split
        · apply (client_markFailed_allowed h).bind
          intro r
          cases r <;> trivial
        split
        · trivial
        split
        · trivial
        dsimp only
        split
        · trivial
        split
        · exact (client_markRetryExhausted_allowed h).bind fun _ => trivial
        · apply (client_markBounced_allowed h).bind
          intro r
          cases r <;> trivial

theorem failStale_allowed : Allowed Q (failStale opts nowMs report doc) := by
  rw [failStale]
  split
  · trivial
  · apply (lastActivity_allowed h.quiet).bind
    rintro ⟨lastActivityMs, hadProgress⟩
    dsimp only
    split
    · trivial
    · apply (client_markFailed_allowed h).bind
      intro r
      cases r <;> trivial

end

section
variable {Q : Stmt → Prop} (h : Routine Q)
include h

theorem client_requeueAfterBounce_allowed : Allowed Q (Client.requeueAfterBounce p) :=
  wrapNullable_allowed (requeueAfterBounce_allowed h.quiet fun _ => h.update _ rfl trivial)

theorem client_recordAgentStart_allowed : Allowed Q (Client.recordAgentStart p q) :=
  wrapNullable_allowed (acceptDispatchStart_allowed h.quiet (fun hq _ => h.update _ rfl hq)
    fun hq _ => h.update _ rfl hq)

theorem docIsTerminal_allowed : Allowed Q (docIsTerminal p report) := by
  apply (wrapNullable_allowed (getByPhid_allowed h.quiet)).bind
  intro doc
  cases doc with
  | error => trivial
  | ok doc =>
    dsimp only
    split <;> trivial

theorem reapWedged_allowed : Allowed Q (reapWedged policy nowMs report doc) := by
  rw [reapWedged]
  split
  · trivial
  · trivial
  · dsimp only
    split
    · trivial
    · apply (docIsTerminal_allowed h).bind
      rintro ⟨terminal, report⟩
      dsimp only
      split
      · trivial
      · apply (client_markBounced_allowed h.toReaps).bind
        intro r
        cases r with
        | error => trivial
        | ok =>
          apply (client_requeueAfterBounce_allowed h).bind
          intro r
          cases r <;> trivial

theorem sweepBouncedDoc_allowed : Allowed Q (sweepBouncedDoc policy now report doc) := by
  rw [sweepBouncedDoc]
  split
  · trivial
  · apply (docIsTerminal_allowed h).bind
    rintro ⟨terminal, report⟩
    dsimp only
    split
    · trivial
    split
    · exact (client_markRetryExhausted_allowed h.toReaps).bind fun _ => trivial
    · apply (client_requeueAfterBounce_allowed h).bind
      intro r
      cases r <;> trivial

theorem failStart_allowed : Allowed Q (failStart doc classified report) := by
  rw [failStart]
  split
  · apply (nowFn_allowed h.quiet).bind
    intro now
    dsimp only
    split
    · have hbounce : ∀ bounce (f : Result DispatchDoc → Prog TickReport), (∀ r, Allowed Q (f r)) →
          Allowed Q ((Client.markBounced doc.dispatchPhid bounce).bind f) :=
        fun bounce f hf => (client_markBounced_allowed h.toReaps).bind hf
      split
      · refine ⟨h.quiet (.fallbackLane _) rfl, fun fallback => ?_⟩
        apply hbounce
        intro r
        cases r <;> trivial
      · apply hbounce
        intro r
        cases r <;> trivial
    · split
      · apply (client_markRetryExhausted_allowed h.toReaps).bind
        intro r
        cases r <;> trivial
      · apply (client_markFailed_allowed h.toReaps).bind
        intro r
        cases r <;> trivial
  · apply (client_markFailed_allowed h.toReaps).bind
    intro r
    cases r <;> trivial

theorem startOne_allowed : Allowed Q (startOne provider report doc) := by
  refine ⟨h.send doc, fun (result : AgentTransportResult) => ?_⟩
  have hsent : Allowed Q (Program.ret result : Prog AgentTransportResult) := trivial
  apply hsent.bind
  intro result
  split
  · exact failStart_allowed h
  · split
    · trivial
    · apply (client_recordAgentStart_allowed h).bind
      intro r
      cases r <;> trivial
  · trivial

theorem listed_allowed : Allowed Q (wrap operation (listByStatus status le provider runtime)) :=
  wrap_allowed (listByStatus_allowed h.quiet)

theorem computeExcludedAgents_allowed : Allowed Q (computeExcludedAgents present gate) := by
  rw [computeExcludedAgents]
  split
  · trivial
  · refine ⟨h.quiet (.excludedAgents _) rfl, fun (agents : Except String (List String)) => ?_⟩
    cases agents <;> trivial

theorem getExcludedAgents_allowed : Allowed Q (getExcludedAgents opts state) := by
  rw [getExcludedAgents]
  split
  · trivial
  · apply (computeExcludedAgents_allowed h).bind
    intro usage
    apply (computeExcludedAgents_allowed h).bind
    intro admission
    trivial

theorem countInFlight_allowed : Allowed Q (countInFlight provider) := by
  apply (listed_allowed h).bind
  intro docs
  cases docs <;> trivial

theorem laneFilter_allowed : Allowed Q (laneFilter opts provider state) := by
  apply (countInFlight_allowed h).bind
  intro currentInFlight
  apply (wrap_allowed (snapshot_allowed h.quiet)).bind
  intro snap
  cases snap with
  | error => trivial
  | ok snap =>
    dsimp only
    split
    · trivial
    · apply (getExcludedAgents_allowed h).bind
      rintro ⟨excludeAgents, state⟩
      exact (nowFn_allowed h.quiet).bind fun _ => trivial

theorem sweep_allowed {list : Prog (Result (List DispatchDoc))} {label : DispatchDoc → Label}
    {body : Instant → TickReport → DispatchDoc → Prog TickReport} (hlist : Allowed Q list)
    (hbody : ∀ now report doc, Allowed Q (body now report doc)) :
    AllowedAt Q ((list.tag .tick).bind fun r => match r with
      | .error _ => .ret report
      | .ok docs => (nowFn.tag Label.tick).bind fun now =>
        Program.fold docs report fun report doc => (body now report doc).tag (label doc)) := by
  apply (hlist.tag _).bind
  intro docs
  cases docs with
  | error => trivial
  | ok docs =>
    apply ((nowFn_allowed h.quiet).tag _).bind
    intro now
    exact Program.Meets.fold report fun report doc _ => (hbody now report doc).tag _

theorem claimAndStartLane_allowed : AllowedAt Q (claimAndStartLane opts provider state) := by
  apply ((laneFilter_allowed h).tag _).bind
  rintro ⟨filter, state⟩
  cases filter with
  | none => trivial
  | some filter =>
    have hclaim : Allowed Q (Client.claimForStart filter) :=
      wrap_allowed (runClaim_allowed h.quiet fun _ _ _ _ _ hn => h.update _ rfl hn)
    apply (hclaim.tag _).bind
    intro claimed
    cases claimed with
    | error => trivial
    | ok claimed =>
      apply AllowedAt.bind
      · apply Program.Meets.fold
        intro report doc _
        exact (startOne_allowed h).tag _
      · intro report
        trivial

theorem tickLane_allowed : AllowedAt Q (tickLane opts state provider) := by
  have hevidence : AllowedAt Q (applyQueryEvidenceToInFlight opts provider state.report) := by
    rw [applyQueryEvidenceToInFlight]
    split
    · trivial
    · exact sweep_allowed h (listed_allowed h) fun now report doc => applyEvidence_allowed h.toReaps
  apply hevidence.bind
  intro report
  apply AllowedAt.bind (sweep_allowed h (listed_allowed h) fun now report doc =>
    reapWedged_allowed h)
  intro report
  apply AllowedAt.bind (sweep_allowed h (listed_allowed h) fun now report doc =>
    failStale_allowed h.toReaps)
  intro report
  apply AllowedAt.bind (sweep_allowed h (listed_allowed h) fun now report doc =>
    sweepBouncedDoc_allowed h)
  intro report
  exact claimAndStartLane_allowed h

theorem tick_allowed (opts : SchedulerServiceOptions) : AllowedAt Q (tick opts) := by
  apply AllowedAt.bind
  · apply Program.Meets.fold
    intro state provider _
    exact tickLane_allowed h
  · intro state
    trivial

theorem markRecoveryLanded_allowed : Allowed Q (markRecoveryLanded p status reason) :=
  stampedUpdate_allowed h.quiet (fun _ => h.update _ rfl trivial) fun _ => trivial

theorem recordRecoveryOutcome_allowed : Allowed Q (recordRecoveryOutcome p decision reason) :=
  stampedUpdate_allowed h.quiet (fun _ => h.update _ rfl trivial) fun _ => trivial

theorem applyDecision_allowed : Allowed Q (applyDecision opts report doc resolved decision) := by
  rw [applyDecision]
  split
  · exact (markRecoveryLanded_allowed h).bind fun _ => trivial
  · split
    · trivial
    · apply (nowFn_allowed h.quiet).bind
      intro now
      apply Allowed.bind
      · exact requeueForRecovery_allowed h.quiet fun _ _ _ hs => h.update _ rfl hs
      · intro _
        trivial
  · exact (recordRecoveryOutcome_allowed h).bind fun _ => trivial
  · exact (recordRecoveryOutcome_allowed h).bind fun _ => trivial
  · exact (recordRecoveryOutcome_allowed h).bind fun _ => trivial

theorem recoverOne_allowed : Allowed Q (recoverOne opts report doc) := by
  apply Program.Meets.tryCatch
  · apply ((resolveCommitEvidence_meets h.quiet).mono (fun _ hc => hc) fun _ _ => trivial).bind
    intro resolved _
    exact applyDecision_allowed h
  · intro e
    trivial

theorem runOnce_allowed (opts : DispatchRecoveryServiceOptions) : AllowedAt Q (runOnce opts) := by
  have hlist : Allowed Q (listFailedForRecovery opts.lookbackMs) :=
    (nowFn_allowed h.quiet).bind fun _ => (selectRows_allowed h.quiet).bind fun _ => trivial
  rw [runOnce]
  split
  · trivial
  · apply ((attempt_allowed hlist).tag _).bind
    intro docs
    cases docs with
    | error => trivial
    | ok docs => exact Program.Meets.fold _ fun report doc _ => (recoverOne_allowed h).tag _

theorem failCloseout_routine : Allowed Q (failCloseout operation doc args) :=
  failCloseout_allowed h.quiet fun _ => h.reap _ trivial

theorem succeedCloseout_routine : Allowed Q (succeedCloseout doc args) :=
  succeedCloseout_allowed h.quiet fun _ _ _ _ _ _ _ hr => h.update _ rfl hr

theorem bounceCloseout_allowed : Allowed Q (bounceCloseout doc limit classifiedAt) := by
  refine ⟨h.quiet (.fallbackLane doc) rfl, fun (fallback : Option (Provider × Runtime)) => ?_⟩
  dsimp only [Program.bind]
  split
  · trivial
  · exact (client_markBounced_allowed h.toReaps).bind fun _ => requireAgentDoneMutation_allowed

theorem closeClassified_allowed :
    Allowed Q (closeClassified opts args doc classifiedAt classification) := by
  cases classification with
  | none => exact succeedCloseout_routine h
  | some failure =>
    simp only [closeClassified]
    generalize parseStrictModeFlag opts.rawStrictMode = flag
    by_cases hlimit : failure.reason = .rateLimitError ∧
        failure.matchedPattern = "text:claude-session-limit"
    · rw [if_pos hlimit]
      exact (bounceCloseout_allowed h).map _
    · rw [if_neg hlimit]
      by_cases henforce : flag = .enforce
      · rw [if_pos henforce]
        exact (failCloseout_routine h).map _
      · rw [if_neg henforce]
        exact succeedCloseout_routine h

theorem handleAgentDone_allowed (opts : CloseoutOptions) (args : AgentDone) :
    Allowed Q (handleAgentDone opts args) := by
  apply (reportedDoc_allowed h.quiet).bind
  intro doc
  cases doc with
  | none => trivial
  | some doc =>
    dsimp only
    split
    · exact (failCloseout_routine h).map _
    · exact (nowFn_allowed h.quiet).bind fun _ => closeClassified_allowed h

end

end IdAgents
