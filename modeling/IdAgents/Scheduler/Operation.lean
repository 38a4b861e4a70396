import IdAgents.Library.Interleaving
import IdAgents.Scheduler.Clarification

namespace IdAgents
open JsText KeyedTable AtomicProgram

inductive Op where
  | enqueue (input : EnqueueInput)
  | getByPhid (phid : String)
  | claim (filter : QueueEligibleFilter)
  | acceptDispatchStart (phid agentQueryId : String)
  | markDone (phid : String)
  | markDoneWithResult (phid : String) (args : DoneResult)
  | markQueuedDoneWithResult (phid : String) (args : DoneResult)
  | markFailed (phid : String) (args : FailureArgs)
  | markBounced (phid : String) (bounce : BounceInput)
  | requeueAfterBounce (phid : String)
  | cancel (phid detail : String)
  | markRetryExhausted (phid detail : String)
  | listInFlight (provider : Option Provider) (runtime : Option Runtime)
  | listBounced (provider : Option Provider) (runtime : Option Runtime)
  | listQueued (provider : Option Provider) (runtime : Option Runtime)
  | snapshot (opts : SnapshotOpts)
  | markNeedsClarification (phid : String) (input : NeedsClarificationInput)
  | resumeAfterClarification (phid : String) (input : ResumeInput)
  | markResumeDelivered (phid : String) (input : ResumeDeliveredInput)
  | markResumeDeliveryFailed (phid : String) (input : ResumeFailedInput)
  | recordResumeDeliveryRepair (phid : String) (input : RepairInput)
  | markClarificationStale (phid : String) (input : StaleInput)
  | recordPromotionResult (phid : String) (result : Json)
  | requeueForRecovery (phid reason : String) (nextAttemptAt : Instant)
  | markRecoveryLanded (phid : String) (recoveryStatus : Option RecoveryStatus)
      (reason : Option String)
  | markMoot (phid reason : String)
  | markSuperseded (phid supersedeLink reason : String)
  | recordRecoveryOutcome (phid : String) (decision : DispatchRecoveryDecision) (reason : String)

inductive OpResult where
  | unit
  | doc (doc : DispatchDoc)
  | doc? (doc : Option DispatchDoc)
  | docs (docs : List DispatchDoc)
  | snapshot (s : ConcurrencySnapshot)
  | clarification (r : NeedsClarificationResult)
  | repair (doc : DispatchDoc) (entry : ClarificationEvent)
  | requeued (b : Bool)

def Op.prog : Op → Prog OpResult
  | enqueue input => .doc <$> IdAgents.enqueue input
  | getByPhid phid => .doc? <$> IdAgents.getByPhid phid
  | claim filter => .docs <$> runClaim filter
  | acceptDispatchStart phid q => .doc? <$> IdAgents.acceptDispatchStart phid q
  | markDone phid => .doc? <$> IdAgents.markDone phid
  | markDoneWithResult phid args => .doc? <$> IdAgents.markDoneWithResult phid args
  | markQueuedDoneWithResult phid args => .doc? <$> IdAgents.markQueuedDoneWithResult phid args
  | markFailed phid args => .doc? <$> IdAgents.markFailed phid args
  | markBounced phid bounce => .doc? <$> IdAgents.markBounced phid bounce
  | requeueAfterBounce phid => .doc? <$> IdAgents.requeueAfterBounce phid
  | cancel phid detail => .doc? <$> IdAgents.cancel phid detail
  | markRetryExhausted phid detail => .doc? <$> IdAgents.markRetryExhausted phid detail
  | listInFlight provider runtime => .docs <$> IdAgents.listInFlight provider runtime
  | listBounced provider runtime => .docs <$> IdAgents.listBounced provider runtime
  | listQueued provider runtime => .docs <$> IdAgents.listQueued provider runtime
  | snapshot opts => .snapshot <$> IdAgents.snapshot opts
  | markNeedsClarification phid input =>
    .clarification <$> IdAgents.markNeedsClarification phid input
  | resumeAfterClarification phid input => .doc <$> IdAgents.resumeAfterClarification phid input
  | markResumeDelivered phid input => .doc <$> IdAgents.markResumeDelivered phid input
  | markResumeDeliveryFailed phid input => .doc <$> IdAgents.markResumeDeliveryFailed phid input
  | recordResumeDeliveryRepair phid input =>
    (fun r => .repair r.1 r.2) <$> IdAgents.recordResumeDeliveryRepair phid input
  | markClarificationStale phid input => .doc <$> IdAgents.markClarificationStale phid input
  | recordPromotionResult phid result => .doc <$> IdAgents.recordPromotionResult phid result
  | requeueForRecovery phid reason nextAttemptAt =>
    .requeued <$> IdAgents.requeueForRecovery phid reason nextAttemptAt
  | markRecoveryLanded phid recoveryStatus reason =>
    (fun _ => .unit) <$> IdAgents.markRecoveryLanded phid recoveryStatus reason
  | markMoot phid reason => .doc? <$> IdAgents.markMoot phid reason
  | markSuperseded phid link reason => .doc? <$> IdAgents.markSuperseded phid link reason
  | recordRecoveryOutcome phid decision reason =>
    (fun _ => .unit) <$> IdAgents.recordRecoveryOutcome phid decision reason

def Enqueued (row : Row) : Prop :=
  ∃ input promotion phid now, row = enqueuedRow input promotion phid now

def Op.Inserts : Op → Row → Prop
  | .enqueue input, row => ∃ promotion phid now, row = enqueuedRow input promotion phid now
  | _, _ => False

variable {op : Op}

theorem Op.Inserts.enqueued (h : op.Inserts row) : Enqueued row := by
  cases op with
  | enqueue input => exact ⟨input, h⟩
  | _ => cases h

/-- The UPDATEs an operation can issue, with what its reads and checks established before. -/
def Op.Writes : Op → UpdateStmt → Prop
  | .claim filter, .runClaim call _ newAttempt _ => call.filter = filter ∧ 0 < newAttempt
  | .acceptDispatchStart p q, .acceptQueued p' q' _ => p' = p ∧ q' = trim q ∧ q' ≠ ""
  | .acceptDispatchStart p q, .acceptInFlight p' q' _ => p' = p ∧ q' = trim q ∧ q' ≠ ""
  | .markDone p, .markDone p' _ => p' = p
  | .markDoneWithResult p _, .doneWithResult required p' .. => p' = p ∧ required = .inFlight
  | .markQueuedDoneWithResult p _, .doneWithResult required p' .. => p' = p ∧ required = .queued
  | .markFailed p args, .markFailed p' args' _ => p' = p ∧ args' = args
  | .markBounced p bounce, .markBounced doc bounce' _ =>
    doc.dispatchPhid = p ∧ bounce' = bounce ∧ isTerminal doc.status = false
  | .requeueAfterBounce p, .requeueAfterBounce p' _ => p' = p
  | .cancel p _, .cancel doc _ _ => doc.dispatchPhid = p ∧ isTerminal doc.status = false
  | .markRetryExhausted p _, .markRetryExhausted doc _ _ =>
    doc.dispatchPhid = p ∧ isTerminal doc.status = false
  | .markNeedsClarification p input, .markNeedsClarification doc input' _ _ =>
    doc.dispatchPhid = p ∧ input' = input ∧ isTerminal doc.status = false
  | .resumeAfterClarification p input, .resumeAfterClarification doc input' _ _ =>
    doc.dispatchPhid = p ∧ input' = input ∧ doc.status = .needsClarification
  | .markResumeDelivered p input, .markResumeDelivered doc input' _ =>
    doc.dispatchPhid = p ∧ input' = input
  | .markResumeDeliveryFailed p input, .markResumeDeliveryFailed doc input' _ =>
    doc.dispatchPhid = p ∧ input' = input
  | .recordResumeDeliveryRepair p _, .recordResumeDeliveryRepair doc _ _ =>
    doc.dispatchPhid = p ∧ doc.status = .resumeDeliveryFailed
  | .markClarificationStale p input, .markClarificationStale doc input' _ =>
    doc.dispatchPhid = p ∧ input' = input
  | .recordPromotionResult p result, .recordPromotionResult p' result' _ =>
    p' = p ∧ result' = result
  | .requeueForRecovery p _ _, .requeueForRecovery doc _ _ _ =>
    doc.dispatchPhid = p ∧ doc.status = .failed
  | .markRecoveryLanded p _ _, .markRecoveryLanded p' _ _ _ => p' = p
  | .markMoot p _, .markMoot p' _ _ => p' = p
  | .markSuperseded p _ _, .markSuperseded p' _ _ _ => p' = p
  | .recordRecoveryOutcome p _ _, .recordRecoveryOutcome p' _ _ _ => p' = p
  | _, _ => False

def Stmt.isQuiet : Stmt → Bool
  | .insert _ | .update _ | .sendTalk _ => false
  | _ => true

abbrev Quiet (Q : Stmt → Prop) : Prop := ∀ c : Stmt, c.isQuiet → Q c

abbrev Allowed (Q : Stmt → Prop) (p : Prog α) : Prop := p.Meets Q fun _ => True

theorem Allowed.bind (h : Allowed Q p) (hf : ∀ a, Allowed Q (f a)) : Allowed Q (p.bind f) :=
  Program.Meets.bind h fun a _ => hf a

theorem Allowed.map {p : Prog α} (h : Allowed Q p) (f : α → β) : Allowed Q (f <$> p) :=
  h.bind fun _ => trivial

theorem rejectIf_eq_none : rejectIf bad message = none ↔ bad = false := by
  cases bad <;> simp [rejectIf]

theorem execUpdate_allowed (h : Q (.update u)) : Allowed Q (execUpdate u) := by
  refine ⟨h, fun a => ?_⟩
  cases (a : Option Nat) <;> trivial

section
variable {Q : Stmt → Prop} (hq : Quiet Q)
include hq

theorem nowFn_allowed : Allowed Q nowFn := ⟨hq .now rfl, fun _ => trivial⟩

theorem selectRows_allowed : Allowed Q selectRows := ⟨hq .select rfl, fun _ => trivial⟩

theorem getByPhid_meets :
    (getByPhid phid).Meets Q fun doc? => ∀ doc, doc? = some doc → doc.dispatchPhid = phid := by
  refine ⟨hq .select rfl, fun rows doc h => ?_⟩
  obtain ⟨row, hrow, rfl⟩ := Option.map_eq_some_iff.mp h
  simpa [rowToDoc] using List.find?_some hrow

theorem getByPhid_allowed : Allowed Q (getByPhid phid) :=
  (getByPhid_meets hq).mono (fun _ h => h) fun _ _ => trivial

theorem getByPhid_bind_allowed (hnone : Allowed Q (f none))
    (hsome : ∀ doc, doc.dispatchPhid = phid → Allowed Q (f (some doc))) :
    Allowed Q ((getByPhid phid).bind f) := by
  refine (getByPhid_meets hq).bind fun doc h => ?_
  cases doc with
  | none => exact hnone
  | some doc => exact hsome doc (h doc rfl)

theorem resolveTerminalCasResult_allowed :
    Allowed Q (resolveTerminalCasResult phid operation expected) := by
  refine getByPhid_bind_allowed hq trivial fun winner _ => ?_
  dsimp only
  split
  · exact getByPhid_allowed hq
  · trivial

theorem Transition.exec_allowed {t : Transition}
    (hw : ∀ doc now, doc.dispatchPhid = phid → t.reject doc = none → Q (.update (t.write doc now)))
    (hl : ∀ doc, Allowed Q (t.lost doc)) : Allowed Q (t.exec phid) := by
  refine getByPhid_bind_allowed hq trivial fun doc hdoc => ?_
  dsimp only
  split
  · trivial
  · next hr =>
    refine (nowFn_allowed hq).bind fun now => ?_
    split
    · trivial
    · refine (execUpdate_allowed (hw doc now hdoc hr)).bind fun rowCount => ?_
      split
      · exact hl doc
      · exact getByPhid_allowed hq

theorem markDone_allowed (hw : ∀ now, Q (.update (.markDone phid now))) :
    Allowed Q (markDone phid) :=
  Transition.exec_allowed hq (fun _ now _ _ => hw now) fun _ => resolveTerminalCasResult_allowed hq

theorem closeWithResult_allowed
    (hw : ∀ promotion now, Q (.update (.doneWithResult required phid args.result
      (artifactPath args.result) promotion args.reportCandidateRequestJson now))) :
    Allowed Q (closeWithResult required operation phid args) :=
  Transition.exec_allowed hq (fun _ now _ _ => hw _ now)
    fun _ => resolveTerminalCasResult_allowed hq

theorem markBounced_allowed
    (hw : ∀ doc now, doc.dispatchPhid = phid → isTerminal doc.status = false →
      Q (.update (.markBounced doc bounce now))) : Allowed Q (markBounced phid bounce) :=
  Transition.exec_allowed hq (fun doc now h hr => hw doc now h (rejectIf_eq_none.mp hr))
    fun _ => trivial

theorem requeueAfterBounce_allowed (hw : ∀ now, Q (.update (.requeueAfterBounce phid now))) :
    Allowed Q (requeueAfterBounce phid) :=
  Transition.exec_allowed hq (fun _ now _ _ => hw now) fun _ => trivial

theorem cancel_allowed (hw : ∀ doc now, doc.dispatchPhid = phid → isTerminal doc.status = false →
      Q (.update (.cancel doc detail now))) : Allowed Q (cancel phid detail) :=
  Transition.exec_allowed hq (fun doc now h hr => hw doc now h (rejectIf_eq_none.mp hr))
    fun _ => resolveTerminalCasResult_allowed hq

theorem markRetryExhausted_allowed
    (hw : ∀ doc now, doc.dispatchPhid = phid → isTerminal doc.status = false →
      Q (.update (.markRetryExhausted doc detail now))) :
    Allowed Q (markRetryExhausted phid detail) :=
  Transition.exec_allowed hq (fun doc now h hr => hw doc now h (rejectIf_eq_none.mp hr))
    fun _ => resolveTerminalCasResult_allowed hq

theorem recordRejectedTerminalOverwrite_allowed :
    Allowed Q (recordRejectedTerminalOverwrite doc args) :=
  (nowFn_allowed hq).bind fun _ => ⟨hq (.insertEvent _) rfl, fun _ => trivial⟩

theorem markFailedLost_allowed : Allowed Q (markFailedLost phid args) := by
  refine getByPhid_bind_allowed hq trivial fun latest _ => ?_
  dsimp only
  split
  · exact (recordRejectedTerminalOverwrite_allowed hq).bind fun _ => trivial
  · trivial

theorem markFailed_allowed (hw : ∀ now, Q (.update (.markFailed phid args now))) :
    Allowed Q (markFailed phid args) := by
  refine getByPhid_bind_allowed hq trivial fun doc _ => ?_
  dsimp only
  split
  · exact (recordRejectedTerminalOverwrite_allowed hq).bind fun _ => trivial
  · split
    · trivial
    · refine (nowFn_allowed hq).bind fun now => (execUpdate_allowed (hw now)).bind
        fun rowCount => ?_
      split
      · exact markFailedLost_allowed hq
      · exact getByPhid_allowed hq

theorem listByStatus_allowed : Allowed Q (listByStatus status le provider runtime) :=
  (selectRows_allowed hq).bind fun _ => trivial

theorem snapshot_allowed : Allowed Q (snapshot opts) :=
  (nowFn_allowed hq).bind fun _ => (listByStatus_allowed hq).bind fun _ =>
    (listByStatus_allowed hq).bind fun _ => (listByStatus_allowed hq).bind fun _ => trivial

theorem acceptDispatchStart_allowed
    (hqueued : trim q ≠ "" → ∀ now, Q (.update (.acceptQueued phid (trim q) now)))
    (hinFlight : trim q ≠ "" → ∀ now, Q (.update (.acceptInFlight phid (trim q) now))) :
    Allowed Q (acceptDispatchStart phid q) := by
  refine getByPhid_bind_allowed hq trivial fun doc _ => ?_
  dsimp only
  split
  · trivial
  · next hne =>
    refine (nowFn_allowed hq).bind fun now => ?_
    cases doc.status with
    | queued =>
      refine (execUpdate_allowed (hqueued hne now)).bind fun n => ?_
      split
      · trivial
      · exact getByPhid_allowed hq
    | inFlight =>
      dsimp only
      split
      · trivial
      · refine (execUpdate_allowed (hinFlight hne now)).bind fun n => ?_
        split
        · trivial
        · exact getByPhid_allowed hq
    | done | failed | cancelled =>
      dsimp only
      split <;> trivial
    | bounced | needsClarification | resumeDeliveryFailed => trivial

variable (rows : List Row)

theorem graphFilteredRows_sublist :
    (graphFilteredRows rows).Meets Q fun ready => ready.Sublist rows := by
  induction rows with
  | nil => exact List.Sublist.refl _
  | cons row rows ih =>
    refine ⟨hq (.pendingDependencies _) rfl, fun pending => ih.bind fun rest hrest => ?_⟩
    change (if (show Bool from pending) then rest else row :: rest).Sublist (row :: rows)
    split
    · exact hrest.cons row
    · exact hrest.cons_cons row

theorem graphFilteredRows_allowed : Allowed Q (graphFilteredRows rows) :=
  (graphFilteredRows_sublist hq rows).mono (fun _ h => h) fun _ _ => trivial

theorem claimRows_allowed (claimed : List DispatchDoc)
    (hw : ∀ k phid n now, 0 < n → Q (.update (.runClaim ⟨filter, inFlight, k⟩ phid n now))) :
    Allowed Q (claimRows filter inFlight now rows claimed) := by
  induction rows generalizing claimed with
  | nil => trivial
  | cons row rows ih =>
    refine (execUpdate_allowed (hw _ _ _ _ (Nat.succ_pos _))).bind fun n => ?_
    split
    · exact ih claimed
    · exact getByPhid_bind_allowed hq (ih claimed) fun _ _ => ih _

theorem claimEligible_allowed
    (hw : ∀ k phid n now, 0 < n → Q (.update (.runClaim ⟨filter, inFlight, k⟩ phid n now))) :
    Allowed Q (claimEligible filter inFlight limit now) := by
  rw [claimEligible]
  split
  · trivial
  · exact (selectRows_allowed hq).bind fun _ => (graphFilteredRows_allowed hq _).bind
      fun _ => claimRows_allowed hq _ _ hw

theorem runClaim_allowed
    (hw : ∀ m k phid n now, 0 < n → Q (.update (.runClaim ⟨filter, m, k⟩ phid n now))) :
    Allowed Q (runClaim filter) := by
  have hnow : Allowed Q (filter.now.elim nowFn .ret) := by
    cases filter.now with
    | none => exact nowFn_allowed hq
    | some now => trivial
  refine hnow.bind fun now => ?_
  cases filter.maxInFlight with
  | none => exact claimEligible_allowed hq (hw 0)
  | some maxInFlight =>
    exact (selectRows_allowed hq).bind fun _ => claimEligible_allowed hq (hw _)

theorem findExisting_allowed : Allowed Q (findExisting input) := by
  rw [findExisting]
  cases input.dedupKey with
  | none => trivial
  | some key =>
    dsimp only
    split
    · trivial
    · refine (selectRows_allowed hq).bind fun rows => ?_
      dsimp only
      split
      · exact getByPhid_allowed hq
      · trivial

theorem enqueue_allowed
    (hw : ∀ promotion phid now, Q (.insert (enqueuedRow input promotion phid now))) :
    Allowed Q (enqueue input) := by
  refine (nowFn_allowed hq).bind fun now => (findExisting_allowed hq).bind fun existing => ?_
  cases existing with
  | some existing => trivial
  | none =>
    refine ⟨hq .mintPhid rfl, fun phid => ?_⟩
    dsimp only
    cases defaultPromotionFields input with
    | error message => trivial
    | ok promotion =>
      refine ⟨hw promotion phid now, fun inserted => ?_⟩
      cases (inserted : Option Unit) with
      | some _ => trivial
      | none =>
        refine (findExisting_allowed hq).bind fun existing => ?_
        cases existing <;> trivial

theorem requireDoc_bind_allowed (hf : ∀ doc, doc.dispatchPhid = phid → Allowed Q (f doc)) :
    Allowed Q ((requireDoc operation phid).bind f) := by
  have hdoc : (requireDoc operation phid).Meets Q fun doc => doc.dispatchPhid = phid := by
    refine (getByPhid_meets hq).bind fun doc h => ?_
    cases doc with
    | none => trivial
    | some doc => exact h doc rfl
  exact hdoc.bind hf

theorem postUpdateRead_allowed : Allowed Q (postUpdateRead operation phid) :=
  getByPhid_bind_allowed hq trivial fun _ _ => trivial

theorem writeUnguarded_allowed
    (hw : ∀ doc now, doc.dispatchPhid = phid → reject doc = none → Q (.update (write doc now))) :
    Allowed Q (writeUnguarded operation phid reject write) := by
  refine requireDoc_bind_allowed hq fun doc hdoc => ?_
  cases hr : reject doc with
  | some message => trivial
  | none =>
    exact (nowFn_allowed hq).bind fun now => (execUpdate_allowed (hw doc now hdoc hr)).bind
      fun _ => postUpdateRead_allowed hq

theorem markNeedsClarification_allowed
    (hw : ∀ doc id now, doc.dispatchPhid = phid → isTerminal doc.status = false →
      Q (.update (.markNeedsClarification doc input id now))) :
    Allowed Q (markNeedsClarification phid input) := by
  refine requireDoc_bind_allowed hq fun doc hdoc => ?_
  split
  · trivial
  · next ht =>
    refine (nowFn_allowed hq).bind fun now => ?_
    cases idempotentClarification doc input now with
    | some active => trivial
    | none =>
      exact ⟨hq .mintClarificationId rfl, fun id =>
        (execUpdate_allowed (hw doc id now hdoc (eq_false_of_ne_true ht))).bind fun _ =>
          (postUpdateRead_allowed hq).bind fun _ => trivial⟩

theorem recordResumeDeliveryRepair_allowed
    (hw : ∀ doc entry now, doc.dispatchPhid = phid → doc.status = .resumeDeliveryFailed →
      Q (.update (.recordResumeDeliveryRepair doc entry now))) :
    Allowed Q (recordResumeDeliveryRepair phid input) := by
  refine requireDoc_bind_allowed hq fun doc hdoc => ?_
  split
  · trivial
  · next hs =>
    split
    · trivial
    · exact (nowFn_allowed hq).bind fun now =>
        (execUpdate_allowed (hw doc _ now hdoc (not_not.mp hs))).bind fun _ =>
          (postUpdateRead_allowed hq).bind fun _ => trivial

theorem requeueForRecovery_allowed (hw : ∀ doc now, doc.dispatchPhid = phid → doc.status = .failed →
      Q (.update (.requeueForRecovery doc reason nextAttemptAt now))) :
    Allowed Q (requeueForRecovery phid reason nextAttemptAt) := by
  refine getByPhid_bind_allowed hq trivial fun doc hdoc => ?_
  dsimp only
  split
  · trivial
  · next hs =>
    exact (nowFn_allowed hq).bind fun now =>
      (execUpdate_allowed (hw doc now hdoc (not_not.mp hs))).bind fun _ => trivial

theorem stampedUpdate_allowed {u : Instant → UpdateStmt} {f : Nat → Prog α}
    (hw : ∀ now, Q (.update (u now))) (hf : ∀ n, Allowed Q (f n)) :
    Allowed Q (nowFn.bind fun now => (execUpdate (u now)).bind f) :=
  (nowFn_allowed hq).bind fun now => (execUpdate_allowed (hw now)).bind hf

end

theorem resumeRejection_eq_none (h : resumeRejection input doc = none) :
    doc.status = .needsClarification := by
  rw [resumeRejection] at h
  by_contra hne
  simp [hne] at h

theorem Op.prog_allowed {Q : Stmt → Prop} (hq : Quiet Q)
    (hi : ∀ row, op.Inserts row → Q (.insert row)) (hw : ∀ u, op.Writes u → Q (.update u)) :
    Allowed Q op.prog := by
  cases op with
  | enqueue input =>
    exact (enqueue_allowed hq fun promotion phid now => hi _ ⟨_, _, _, rfl⟩).map _
  | getByPhid => exact (getByPhid_allowed hq).map _
  | claim filter => exact (runClaim_allowed hq fun _ _ _ _ _ hn => hw _ ⟨rfl, hn⟩).map _
  | acceptDispatchStart phid q =>
    exact (acceptDispatchStart_allowed hq (fun h _ => hw _ ⟨rfl, rfl, h⟩)
      fun h _ => hw _ ⟨rfl, rfl, h⟩).map _
  | markDone => exact (markDone_allowed hq fun now => hw (.markDone _ now) rfl).map _
  | markDoneWithResult | markQueuedDoneWithResult =>
    exact (closeWithResult_allowed hq fun promotion now =>
      hw (.doneWithResult _ _ _ _ promotion _ now) ⟨rfl, rfl⟩).map _
  | markFailed => exact (markFailed_allowed hq fun now => hw (.markFailed _ _ now) ⟨rfl, rfl⟩).map _
  | markBounced =>
    exact (markBounced_allowed hq fun doc now h ht =>
      hw (.markBounced doc _ now) ⟨h, rfl, ht⟩).map _
  | requeueAfterBounce =>
    exact (requeueAfterBounce_allowed hq fun now => hw (.requeueAfterBounce _ now) rfl).map _
  | cancel =>
    exact (cancel_allowed hq fun doc now h ht => hw (.cancel doc _ now) ⟨h, ht⟩).map _
  | markRetryExhausted =>
    exact (markRetryExhausted_allowed hq fun doc now h ht =>
      hw (.markRetryExhausted doc _ now) ⟨h, ht⟩).map _
  | listInFlight | listBounced | listQueued => exact (listByStatus_allowed hq).map _
  | snapshot => exact (snapshot_allowed hq).map _
  | markNeedsClarification =>
    exact (markNeedsClarification_allowed hq fun _ _ _ h ht => hw _ ⟨h, rfl, ht⟩).map _
  | resumeAfterClarification =>
    exact (writeUnguarded_allowed hq fun doc now h hr =>
      hw (.resumeAfterClarification doc _ _ now) ⟨h, rfl, resumeRejection_eq_none hr⟩).map _
  | markResumeDelivered =>
    exact (writeUnguarded_allowed hq fun doc now h _ =>
      hw (.markResumeDelivered doc _ now) ⟨h, rfl⟩).map _
  | markResumeDeliveryFailed =>
    exact (writeUnguarded_allowed hq fun doc now h _ =>
      hw (.markResumeDeliveryFailed doc _ now) ⟨h, rfl⟩).map _
  | markClarificationStale =>
    exact (writeUnguarded_allowed hq fun doc now h _ =>
      hw (.markClarificationStale doc _ now) ⟨h, rfl⟩).map _
  | recordPromotionResult =>
    exact (writeUnguarded_allowed hq fun _ now _ _ =>
      hw (.recordPromotionResult _ _ now) ⟨rfl, rfl⟩).map _
  | recordResumeDeliveryRepair =>
    exact (recordResumeDeliveryRepair_allowed hq fun doc entry now h hs =>
      hw (.recordResumeDeliveryRepair doc entry now) ⟨h, hs⟩).map _
  | requeueForRecovery =>
    exact (requeueForRecovery_allowed hq fun doc now h hs =>
      hw (.requeueForRecovery doc _ _ now) ⟨h, hs⟩).map _
  | markRecoveryLanded =>
    exact Allowed.map (stampedUpdate_allowed hq
      (fun now => hw (.markRecoveryLanded _ _ _ now) rfl) fun _ => by trivial) _
  | recordRecoveryOutcome =>
    exact Allowed.map (stampedUpdate_allowed hq
      (fun now => hw (.recordRecoveryOutcome _ _ _ now) rfl) fun _ => by trivial) _
  | markMoot =>
    exact Allowed.map (stampedUpdate_allowed hq (fun now => hw (.markMoot _ _ now) rfl)
      fun _ => getByPhid_allowed hq) _
  | markSuperseded =>
    exact Allowed.map (stampedUpdate_allowed hq (fun now => hw (.markSuperseded _ _ _ now) rfl)
      fun _ => getByPhid_allowed hq) _

def UpdateStmt.Issued : UpdateStmt → Prop
  | .runClaim _ _ newAttempt _ => 0 < newAttempt
  | .acceptQueued _ q _ | .acceptInFlight _ q _ => q ≠ ""
  | .doneWithResult required .. => required = .inFlight ∨ required = .queued
  | .markBounced doc _ _ | .cancel doc _ _ | .markRetryExhausted doc _ _
  | .markNeedsClarification doc _ _ _ => isTerminal doc.status = false
  | .resumeAfterClarification doc _ _ _ => doc.status = .needsClarification
  | .recordResumeDeliveryRepair doc _ _ => doc.status = .resumeDeliveryFailed
  | .requeueForRecovery doc _ _ _ => doc.status = .failed
  | _ => True

theorem Op.Writes.issued (h : op.Writes u) : u.Issued := by
  unfold Op.Writes at h
  split at h
  case h_2 | h_3 => exact h.2.2
  all_goals simp_all [UpdateStmt.Issued]

def Stmt.Issued : Stmt → Prop
  | .insert row => Enqueued row
  | .update u => u.Issued
  | _ => True

theorem Stmt.issued_quiet : Quiet Stmt.Issued := by
  intro c h
  cases c <;> trivial

theorem Op.prog_issued (op : Op) : Allowed Stmt.Issued op.prog :=
  op.prog_allowed Stmt.issued_quiet (fun _ h => h.enqueued) fun _ h => h.issued

/-- Reactor calls in progress together: `schedule` names, step by step, the call whose next
statement reaches the database. -/
structure Run where
  calls : List Op
  schedule : List Nat
  start : World

namespace Run

variable (run : Run)

def threads : List (Prog OpResult) := run.calls.map Op.prog

/-- The world after the first `n` steps. -/
def after (n : Nat) : World :=
  (interleave (run.schedule.take n) run.threads run.start).2

def events : List (Nat × Event sql World) :=
  interleaveEvents run.schedule run.threads run.start

theorem between (h : m ≤ n) :
    ∃ es, Chain (run.after m) es (run.after n) ∧ ∀ e ∈ es, ∃ i, (i, e) ∈ run.events :=
  interleave_between _ _ _ h

theorem thread_call {run : Run} {i : Nat} (h : run.threads[i]? = some p) :
    ∃ op, run.calls[i]? = some op ∧ p = op.prog := by
  simpa [threads, List.getElem?_map, eq_comm] using h

theorem events_issued (h : e ∈ run.events) : e.2.stmt.Issued :=
  interleaveEvents_meet (Q := fun _ => Stmt.Issued) (R := fun _ => True) run.schedule run.start
    (fun _ _ hp => by
      obtain ⟨op, _, rfl⟩ := thread_call hp
      exact op.prog_issued) e h

end Run

end IdAgents
