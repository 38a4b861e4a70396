import IdAgents.Orchestration.Closeout
import IdAgents.Orchestration.FleshGate

namespace IdAgents.Orchestration
open JsText JsMap JsRegex AtomicProgram List

def DuplicateDispatchRetryDisposition.target : DuplicateDispatchRetryDisposition →
    Option ReadinessState
  | .close => some .done
  | .supersede => some .superseded
  | .markRetrySafe => none

/-- What the classification report says of a row whose prior dispatch is `prior`. -/
def reported (prior : Option DispatchRow) :
    DuplicateDispatchRetryDisposition × DuplicateDispatchRetryOperatorDisposition :=
  classifyDuplicateDispatchRetryDisposition (prior.map outcomeOf)

def closing (itemId : String) : Stmt → Option ReadinessState
  | .update (.closeDuplicate item _ toState ..) =>
    if item.itemId = itemId then some toState else none
  | _ => none

def closesTo (p : Prog α) (w : World) (itemId : String) : List ReadinessState :=
  (p.trace w).filterMap fun e => closing itemId e.stmt

def landed (r : RecoveryStatus) : Bool :=
  r = .landedReconciled || r = .verifiedDone || r = .retryDone

structure CloseoutsAgree (w : World) (item : BacklogRow) (prior : Option DispatchRow) : Prop where
  closes : (reported prior).2 = .close ↔
    closesTo (closeStaleRow {} [] ⟨item, prior⟩) w item.itemId ≠ []
  target : ∀ s ∈ closesTo (closeStaleRow {} [] ⟨item, prior⟩) w item.itemId,
    (reported prior).1.target = some s
  accepts : ∀ actor expected,
    ∀ s ∈ closesTo (closeStaleDuplicateBacklogRow item.itemId actor expected) w item.itemId,
      (reported prior).2 = .close ∧ (reported prior).1.target = some s
  alone : prior = none ∨ (reported prior).2 = .retry →
    (reported prior).2 ≠ .close ∧ closesTo (closeStaleRow {} [] ⟨item, prior⟩) w item.itemId = [] ∧
      ∀ actor expected,
        closesTo (closeStaleDuplicateBacklogRow item.itemId actor expected) w item.itemId = []

/-- The row points at `prior`, whatever step the queue is read at. -/
def World.Prior (w : World) (item : BacklogRow) (prior : Option DispatchRow) : Prop :=
  ∀ step, (joinDispatch (Stmt.dispatches { w with step := step }) item).dispatch = prior

def DispatchRow.agreed (d : DispatchRow) : Bool :=
  let beyondRetry := d.status = .failed && !dispatchFailureRetryable d.failureKind d.failureDetail
  if promotionCompletedAndVerified d.promotionResultJson then true
  else if landed d.recoveryStatus then d.status ≠ .cancelled && !beyondRetry
  else if d.recoveryStatus = .moot then true
  else if d.reliabilityClassification = some "superseded" then d.status ≠ .done
  else !(beyondRetry && (isDispatchRouteNotFound (outcomeOf d) || isFailedVerification (outcomeOf d)))

variable {o : DispatchOutcome}

theorem terminal_status_of {r : RecoveryStatus} {s : SchedulerStatus}
    (hr : o.recoveryStatus = r) (hs : o.status = if r = .moot then "moot" else s.text) :
    (duplicateDispatchTerminalDisposition o).status =
      if promotionCompletedAndVerified o.promotionResultJson || landed r then some "done"
      else if o.reliabilityClassification = some "superseded" then some "superseded"
      else if r = .moot then some "moot"
      else if s = .done then some "done"
      else if s = .cancelled then some "cancelled"
      else none := by
  obtain ⟨_, status, recovery, reliability, _, _, _, promotion⟩ := o
  dsimp only at hr hs
  subst hr hs
  rw [duplicateDispatchTerminalDisposition]
  dsimp only
  generalize promotionCompletedAndVerified promotion = v
  by_cases hclass : reliability = some "superseded"
  · simp only [hclass, if_true]
    cases v <;> cases recovery <;> rfl
  · simp only [hclass, if_false]
    cases v <;> cases recovery <;> cases s <;> rfl

theorem terminal_status (d : DispatchRow) :
    (duplicateDispatchTerminalDisposition (outcomeOf d)).status =
      if promotionCompletedAndVerified d.promotionResultJson || landed d.recoveryStatus then
        some "done"
      else if d.reliabilityClassification = some "superseded" then some "superseded"
      else if d.recoveryStatus = .moot then some "moot"
      else if d.status = .done then some "done"
      else if d.status = .cancelled then some "cancelled"
      else none :=
  terminal_status_of rfl rfl

theorem terminal_verified (o : DispatchOutcome)
    (h : (duplicateDispatchTerminalDisposition o).promotionVerified) :
    (duplicateDispatchTerminalDisposition o).status = some "done" := by
  cases hv : promotionCompletedAndVerified o.promotionResultJson with
  | true => simp [duplicateDispatchTerminalDisposition, hv]
  | false =>
    simp only [duplicateDispatchTerminalDisposition, hv] at h
    repeat' split at h
    all_goals cases h

theorem terminal_congr (hpromotion : o.promotionResultJson = o'.promotionResultJson)
    (hrecovery : o.recoveryStatus = o'.recoveryStatus)
    (hclass : o.reliabilityClassification = o'.reliabilityClassification)
    (hstatus : o.recoveryStatus = .moot ∨ o.status = o'.status) :
    duplicateDispatchTerminalDisposition o = duplicateDispatchTerminalDisposition o' := by
  obtain ⟨_, _, _, reliability, _, _, _, promotion⟩ := o
  obtain ⟨_, _, _, _, _, _, _, _⟩ := o'
  dsimp only at hpromotion hrecovery hclass hstatus
  subst hpromotion hrecovery hclass
  rcases hstatus with rfl | rfl
  · unfold duplicateDispatchTerminalDisposition
    dsimp only
    generalize promotionCompletedAndVerified promotion = v
    by_cases hclass : reliability = some "superseded"
    · simp only [hclass, if_true]
    · simp only [hclass, if_false]
      cases v <;> rfl
  · rfl
section
variable (item : BacklogRow)
section
variable (d : DispatchRow)

theorem terminal_outcome :
    duplicateDispatchTerminalDisposition (DispatchedRow.outcome ⟨item, some d⟩) =
      duplicateDispatchTerminalDisposition (outcomeOf d) := by
  apply @terminal_congr (DispatchedRow.outcome ⟨item, some d⟩) (outcomeOf d) rfl rfl rfl
  by_cases hmoot : d.recoveryStatus = .moot
  · exact .inl hmoot
  · right
    change d.status.text = dispatchStatus d
    rw [dispatchStatus, if_neg hmoot]

theorem terminal_restated (h : (duplicateDispatchTerminalDisposition o).status = some s) :
    (duplicateDispatchTerminalDisposition { o with status := s }).status = some s := by
  obtain ⟨_, status, recovery, reliability, _, _, _, promotion⟩ := o
  unfold duplicateDispatchTerminalDisposition at h ⊢
  dsimp only at h ⊢
  revert h
  generalize promotionCompletedAndVerified promotion = v
  repeat' split
  all_goals intro h
  all_goals simp_all

theorem classify_ended (h : (duplicateDispatchTerminalDisposition o).status = some s) :
    classifyDuplicateDispatchRetryDisposition (some o) =
      (if s = "done" then .close else .supersede, .close) := by
  simp only [classifyDuplicateDispatchRetryDisposition, h]
  split <;> rfl

theorem classify_close (h : (duplicateDispatchTerminalDisposition o).status = none)
    (hclose : (classifyDuplicateDispatchRetryDisposition (some o)).2 = .close) :
    o.status = "failed" ∧ (classifyDuplicateDispatchRetryDisposition (some o)).1 = .supersede := by
  simp only [classifyDuplicateDispatchRetryDisposition, h] at hclose ⊢
  by_cases hs : o.status = "failed"
  · refine ⟨hs, ?_⟩
    simp only [hs, ne_eq, not_true_eq_false, if_false] at hclose ⊢
    repeat' split at hclose
    all_goals simp_all
  · simp [hs] at hclose

theorem not_moot_of_open (h : (duplicateDispatchTerminalDisposition (outcomeOf d)).status = none) :
    d.recoveryStatus ≠ .moot := by
  intro hmoot
  rw [terminal_status, hmoot] at h
  repeat' split at h
  all_goals simp_all

theorem classify_outcome (h : (duplicateDispatchTerminalDisposition (outcomeOf d)).status = none) :
    classifyDuplicateDispatchRetryDisposition (some (DispatchedRow.outcome ⟨item, some d⟩)) =
      reported (some d) := by
  have hstatus : (DispatchedRow.outcome ⟨item, some d⟩).status = (outcomeOf d).status := by
    change d.status.text = dispatchStatus d
    rw [dispatchStatus, if_neg (not_moot_of_open d h)]
  have hverification : isFailedVerification (DispatchedRow.outcome ⟨item, some d⟩) =
      isFailedVerification (outcomeOf d) := by
    simp only [isFailedVerification, terminal_outcome]
    rfl
  simp only [reported, Option.map_some, classifyDuplicateDispatchRetryDisposition,
    terminal_outcome, hstatus, hverification]
  rfl

theorem staleDisposition_open
    (h : (duplicateDispatchTerminalDisposition row.outcome).status = none) :
    staleDisposition {} row =
      if (classifyDuplicateDispatchRetryDisposition (some row.outcome)).2 ≠ .close then none
      else if !readyReconcileTerminalStatuses.contains row.outcome.status then none
      else some ⟨if (duplicateDispatchTerminalDisposition row.outcome).promotionVerified then .done
        else .superseded, row.outcome.status⟩ := by
  simp only [staleDisposition, h, Option.getD_none, Option.isNone_none, Bool.true_and,
    Bool.false_and, Bool.not_false, Bool.and_true, decide_eq_true_eq, reduceCtorEq, decide_false,
    Bool.false_or]

theorem staleDisposition_target : (staleDisposition {} ⟨item, some d⟩).map (·.toState) =
      if (reported (some d)).2 = .close then (reported (some d)).1.target else none := by
  cases hT : (duplicateDispatchTerminalDisposition (outcomeOf d)).status with
  | some s =>
    have hreported : reported (some d) = (if s = "done" then .close else .supersede, .close) :=
      classify_ended hT
    have hraw := hT
    rw [← terminal_outcome item] at hraw
    have hagain := classify_ended (terminal_restated hraw)
    have hverified := terminal_verified (DispatchedRow.outcome ⟨item, some d⟩)
    rw [hraw] at hverified
    simp only [staleDisposition, hraw, Option.getD_some, hagain, hreported]
    by_cases hdone : s = "done"
    · simp [hdone, DuplicateDispatchRetryDisposition.target]
    · have hunverified : (duplicateDispatchTerminalDisposition
          (DispatchedRow.outcome ⟨item, some d⟩)).promotionVerified = false := by
        apply Bool.eq_false_iff.mpr
        intro hv
        exact hdone (Option.some.inj (hverified hv))
      simp [hdone, hunverified, DuplicateDispatchRetryDisposition.target]
  | none =>
    have hraw := hT
    rw [← terminal_outcome item] at hraw
    have hreported := classify_outcome item d hT
    have hunverified : (duplicateDispatchTerminalDisposition
        (DispatchedRow.outcome ⟨item, some d⟩)).promotionVerified = false := by
      apply Bool.eq_false_iff.mpr
      intro hv
      have hdone := terminal_verified _ hv
      rw [hraw] at hdone
      cases hdone
    rw [staleDisposition_open hraw, hreported]
    by_cases hclose : (reported (some d)).2 = .close
    · have hfailed := classify_close hraw (hreported ▸ hclose)
      have hrecommended : (reported (some d)).1 = .supersede := hreported ▸ hfailed.2
      simp [hclose, hfailed.1, hrecommended, hunverified, readyReconcileTerminalStatuses,
        DuplicateDispatchRetryDisposition.target]
    · simp [hclose]

theorem staleDisposition_missing :
    (staleDisposition {} ⟨item, none⟩).map (·.toState) = some .superseded := by
  have hopen : (duplicateDispatchTerminalDisposition
      (DispatchedRow.outcome ⟨item, none⟩)).status = none := rfl
  have hroute : isDispatchRouteNotFound (DispatchedRow.outcome ⟨item, none⟩) = false := by
    change (notFoundPattern.test (toLowerCase ("" ++ "\n" ++ "")) &&
      routePattern.test (toLowerCase ("" ++ "\n" ++ ""))) = false
    decide +kernel
  have hexpired : isLinkedQueryExpired (DispatchedRow.outcome ⟨item, none⟩) = false := by
    change includes (toLowerCase "") "linked query terminated expired" = false
    decide +kernel
  have hretry : dispatchFailureRetryable (DispatchedRow.outcome ⟨item, none⟩).failureKind
      (DispatchedRow.outcome ⟨item, none⟩).failureDetail = false := by
    change dispatchFailureRetryable none none = false
    decide +kernel
  have hclass : classifyDuplicateDispatchRetryDisposition
      (some (DispatchedRow.outcome ⟨item, none⟩)) = (.supersede, .close) := by
    simp only [classifyDuplicateDispatchRetryDisposition, hopen, hroute, hexpired, hretry,
      Bool.false_eq_true, if_false]
    rfl
  rw [staleDisposition_open hopen, hclass]
  rfl

theorem retryable_of_expired (h : isLinkedQueryExpired o) :
    dispatchFailureRetryable o.failureKind o.failureDetail := by
  rw [dispatchFailureRetryable, Bool.or_eq_true, any_eq_true]
  exact .inr ⟨"linked query terminated expired", by decide, h⟩

theorem closeoutDisposition_target : (closeoutDisposition ⟨item, some d⟩).map (·.toState) =
      if !readyReconcileTerminalStatuses.contains (dispatchStatus d) then none
      else if dispatchStatus d = "failed" &&
          !promotionCompletedAndVerified d.promotionResultJson &&
          dispatchFailureRetryable d.failureKind d.failureDetail then none
      else some (if dispatchStatus d = "done" ||
          promotionCompletedAndVerified d.promotionResultJson then .done else .superseded) := by
  simp only [closeoutDisposition, Option.bind_eq_bind, Option.bind_some]
  split
  · rfl
  split <;> rfl

theorem agreed_iff : (∀ s, (closeoutDisposition ⟨item, some d⟩).map (·.toState) = some s →
      (reported (some d)).2 = .close ∧ (reported (some d)).1.target = some s) ↔ d.agreed := by
  have hT := terminal_status d
  rw [closeoutDisposition_target]
  by_cases hverified : promotionCompletedAndVerified d.promotionResultJson
  · simp only [hverified, Bool.true_or, if_true] at hT
    have hreported : reported (some d) = (.close, .close) := classify_ended hT
    simp [DispatchRow.agreed, hverified, hreported, DuplicateDispatchRetryDisposition.target]
  by_cases hlanded : landed d.recoveryStatus
  · simp only [hlanded, Bool.or_true, if_true] at hT
    have hreported : reported (some d) = (.close, .close) := classify_ended hT
    have hmoot : d.recoveryStatus ≠ .moot := by
      intro h
      rw [h] at hlanded
      cases hlanded
    cases hs : d.status <;> cases hretry : dispatchFailureRetryable d.failureKind d.failureDetail <;>
      simp [DispatchRow.agreed, hverified, hlanded, hreported, dispatchStatus, hmoot, hs, hretry,
        SchedulerStatus.text, readyReconcileTerminalStatuses,
        DuplicateDispatchRetryDisposition.target]
  by_cases hmoot : d.recoveryStatus = .moot
  · simp only [hverified, hmoot] at hT
    have hreported : reported (some d) = (.supersede, .close) := by
      by_cases hclass : d.reliabilityClassification = some "superseded"
      · simp only [hclass, if_true] at hT
        exact classify_ended hT
      · simp only [hclass] at hT
        exact classify_ended hT
    have hnone : landed .moot = false := rfl
    simp [DispatchRow.agreed, hverified, hnone, hreported, dispatchStatus, hmoot,
      readyReconcileTerminalStatuses, DuplicateDispatchRetryDisposition.target]
  have hstatus : dispatchStatus d = d.status.text := by rw [dispatchStatus, if_neg hmoot]
  by_cases hclass : d.reliabilityClassification = some "superseded"
  · simp only [hverified, hlanded, hclass] at hT
    have hreported : reported (some d) = (.supersede, .close) := classify_ended hT
    cases hs : d.status <;> simp [DispatchRow.agreed, hverified, hlanded, hmoot, hclass, hreported,
      hstatus, hs, SchedulerStatus.text, readyReconcileTerminalStatuses,
      DuplicateDispatchRetryDisposition.target]
  simp only [hverified, hlanded, hclass, hmoot] at hT
  cases hs : d.status with
  | done =>
    rw [hs] at hT
    have hreported : reported (some d) = (.close, .close) := classify_ended hT
    simp [DispatchRow.agreed, hverified, hlanded, hmoot, hclass, hreported, hstatus, hs,
      SchedulerStatus.text, readyReconcileTerminalStatuses,
      DuplicateDispatchRetryDisposition.target]
  | cancelled =>
    rw [hs] at hT
    have hreported : reported (some d) = (.supersede, .close) := classify_ended hT
    simp [DispatchRow.agreed, hverified, hlanded, hmoot, hclass, hreported, hstatus, hs,
      SchedulerStatus.text, readyReconcileTerminalStatuses,
      DuplicateDispatchRetryDisposition.target]
  | failed =>
    rw [hs] at hT
    have hfailed : (outcomeOf d).status = "failed" := by
      change dispatchStatus d = _
      rw [hstatus, hs]
      rfl
    simp only [reported, Option.map_some, classifyDuplicateDispatchRetryDisposition, hT, hfailed]
    change _ ↔ DispatchRow.agreed d
    cases hretry : dispatchFailureRetryable d.failureKind d.failureDetail with
    | true =>
      simp [DispatchRow.agreed, hverified, hlanded, hmoot, hclass, hstatus, hs, hretry,
        SchedulerStatus.text]
    | false =>
      have hexpired : isLinkedQueryExpired (outcomeOf d) = false := by
        apply Bool.eq_false_iff.mpr
        intro h
        have hretryable : dispatchFailureRetryable d.failureKind d.failureDetail :=
          retryable_of_expired h
        rw [hretry] at hretryable
        cases hretryable
      have hkind : (outcomeOf d).failureKind = d.failureKind := rfl
      have hdetail : (outcomeOf d).failureDetail = d.failureDetail := rfl
      cases hroute : isDispatchRouteNotFound (outcomeOf d) <;>
        cases hfail : isFailedVerification (outcomeOf d) <;>
          simp [DispatchRow.agreed, hverified, hlanded, hmoot, hclass, hstatus, hs, hretry, hroute,
            hfail, hexpired, hkind, hdetail, SchedulerStatus.text, readyReconcileTerminalStatuses,
            DuplicateDispatchRetryDisposition.target]
  | _ =>
    simp [DispatchRow.agreed, hverified, hlanded, hmoot, hclass, hstatus, hs,
      SchedulerStatus.text, readyReconcileTerminalStatuses]

end

end

theorem closesTo_issue (c : Stmt) (f : c.Ans → Prog α) (w : World) (itemId : String) :
    closesTo ((issue c).bind f) w itemId =
      (closing itemId c).toList ++ closesTo (f (c.answer w)) (c.effect w) itemId := by
  change filterMap _ (_ :: _) = _
  rw [filterMap_cons]
  cases closing itemId c <;> rfl

@[simp] theorem closesTo_ret (a : α) (w : World) (itemId : String) :
    closesTo (.ret a) w itemId = [] := rfl

theorem closesTo_selectWithDispatches (f : List BacklogRow × List DispatchRow → Prog α) (w : World)
    (itemId : String) : closesTo ((issue .selectWithDispatches).bind f) w itemId =
      closesTo (f (w.backlog.rows, Stmt.dispatches w)) (Stmt.selectWithDispatches.effect w) itemId :=
  closesTo_issue .selectWithDispatches f w itemId

theorem closesTo_execUpdate (u : UpdateStmt) (f : Nat → Prog α) (w : World) (itemId : String)
    (h : ∀ n t, closesTo (f n) t itemId = []) :
    closesTo ((execUpdate u).bind f) w itemId = (closing itemId (.update u)).toList := by
  have hbind : (execUpdate u).bind f =
      (issue (.update u)).bind fun a => (returned a).bind f := Program.bind_assoc _ _ _
  rw [hbind]
  apply (closesTo_issue (.update u) (fun a => (returned a).bind f) w itemId).trans
  cases Stmt.answer (.update u) w with
  | ok n => exact (congrArg _ (h n _)).trans (append_nil _)
  | error e => exact append_nil _

theorem closesTo_getBacklogItem (id : String) (f : Option BacklogRow → Prog α) (w : World)
    (itemId : String) : closesTo ((getBacklogItem id).bind f) w itemId =
      closesTo (f (w.row? id)) ((Stmt.select).effect w) itemId := by
  have hbind : (getBacklogItem id).bind f =
      (issue .select).bind fun rows : List BacklogRow => f (rows.find? (·.itemId = id)) :=
    Program.bind_assoc _ _ _
  rw [hbind]
  exact closesTo_issue .select _ w itemId

theorem closeStaleRow_closes (row : DispatchedRow) (w : World) :
    closesTo (closeStaleRow {} [] row) w row.item.itemId =
      ((staleDisposition {} row).map (·.toState)).toList := by
  cases h : staleDisposition {} row with
  | none => simp [closeStaleRow, h]
  | some stale =>
    simp only [closeStaleRow, h, Bool.false_eq_true, if_false]
    apply (closesTo_issue .now _ w _).trans
    rw [closesTo_execUpdate]
    · simp [closing]
    · intro n t
      rfl

theorem writeCloseout_closes (actor : String) (row : DispatchedRow) (stale : StaleDisposition)
    (w : World) : closesTo (writeCloseout actor row stale) w row.item.itemId = [stale.toState] := by
  apply (closesTo_issue .now _ w _).trans
  rw [closesTo_execUpdate]
  · simp [closing]
  · intro n t
    rw [closesTo_getBacklogItem]
    split <;> rfl

theorem closeStaleDuplicate_closes (hrow : w.row? item.itemId = some item)
    (hprior : w.Prior item prior) (actor : String) (expected : Option String) :
    closesTo (closeStaleDuplicateBacklogRow item.itemId actor expected) w item.itemId =
      if trim actor = "" ∨ (closeoutRefusal item expected).isSome then []
      else ((closeoutDisposition ⟨item, prior⟩).map (·.toState)).toList := by
  by_cases hactor : trim actor = ""
  · simp [closeStaleDuplicateBacklogRow, hactor]
  simp only [closeStaleDuplicateBacklogRow, hactor, if_false, false_or]
  rw [closesTo_getBacklogItem, hrow]
  dsimp only
  cases closeoutRefusal item expected with
  | some refusal => rfl
  | none =>
    rw [closesTo_selectWithDispatches]
    have hfind : (Stmt.select.effect w).backlog.rows.find? (·.itemId = item.itemId) = some item :=
      hrow
    have hjoin : joinDispatch (Stmt.dispatches (Stmt.select.effect w)) item = ⟨item, prior⟩ := by
      rw [← hprior (w.step + 1)]
      rfl
    dsimp only
    rw [hfind]
    dsimp only
    rw [hjoin]
    cases closeoutDisposition ⟨item, prior⟩ with
    | none => rfl
    | some stale => exact writeCloseout_closes _ _ stale _

theorem closeoutRefusal_none (hready : item.readinessState = .ready)
    (hdispatched : (given item.lastDispatchPhid).isSome) (hsafe : item.retrySafe = false) :
    closeoutRefusal item none = none := by
  obtain ⟨phid, hphid⟩ := Option.isSome_iff_exists.mp hdispatched
  obtain ⟨hsome, hne⟩ := Option.filter_eq_some_iff.mp hphid
  have hne' : phid ≠ "" := by simpa using hne
  simp [closeoutRefusal, hready, hsafe, hsome, hne', given]

/-- On a row that is ready, dispatched and not safe to retry, the three agree exactly when its
prior dispatch is there and is an agreed one. -/
theorem closeoutsAgree_iff {w : World} (hrow : w.row? item.itemId = some item)
    (hready : item.readinessState = .ready) (hdispatched : (given item.lastDispatchPhid).isSome)
    (hsafe : item.retrySafe = false) (hprior : w.Prior item prior) :
    CloseoutsAgree w item prior ↔ ∃ d, prior = some d ∧ d.agreed := by
  have hreconciles := closeStaleRow_closes ⟨item, prior⟩ w
  have hcloseout := closeStaleDuplicate_closes hrow hprior
  constructor
  · intro h
    cases prior with
    | none =>
      have hclosed : closesTo (closeStaleRow {} [] ⟨item, none⟩) w item.itemId = [] :=
        (h.alone (.inl rfl)).2.1
      rw [hreconciles, staleDisposition_missing] at hclosed
      cases hclosed
    | some d =>
      refine ⟨d, rfl, (agreed_iff item d).mp ?_⟩
      intro s hs
      apply h.accepts "operator" none s
      have hactor : trim "operator" ≠ "" := by decide
      rw [hcloseout, closeoutRefusal_none hready hdispatched hsafe, if_neg (by simp [hactor]), hs]
      exact mem_singleton_self s
  · rintro ⟨d, rfl, hagreed⟩
    have haccepts := (agreed_iff item d).mpr hagreed
    rw [staleDisposition_target] at hreconciles
    have hmember : ∀ actor expected, ∀ s ∈ closesTo
        (closeStaleDuplicateBacklogRow item.itemId actor expected) w item.itemId,
        (closeoutDisposition ⟨item, some d⟩).map (·.toState) = some s := by
      intro actor expected s hs
      rw [hcloseout] at hs
      split at hs
      · cases hs
      · exact Option.mem_toList.mp hs
    have hequal : (reported (some d)).2 = .close → (reported (some d)).1.target ≠ none := by
      intro hclose
      cases hT : (duplicateDispatchTerminalDisposition (outcomeOf d)).status with
      | some s =>
        have hreported : reported (some d) = (if s = "done" then .close else .supersede, .close) :=
          classify_ended hT
        rw [hreported]
        dsimp only
        split <;> nofun
      | none =>
        have hsupersede : (reported (some d)).1 = .supersede := (classify_close hT hclose).2
        rw [hsupersede]
        nofun
    constructor
    case closes =>
      rw [hreconciles]
      by_cases hclose : (reported (some d)).2 = .close
      · rw [if_pos hclose]
        simpa [hclose] using hequal hclose
      · rw [if_neg hclose]
        simp [hclose]
    case target =>
      intro s hs
      rw [hreconciles] at hs
      split at hs
      · exact Option.mem_toList.mp hs
      · cases hs
    case accepts =>
      intro actor expected s hs
      exact haccepts s (hmember actor expected s hs)
    case alone =>
      rintro (hmissing | hretry)
      · cases hmissing
      have hnot : (reported (some d)).2 ≠ .close := by
        rw [hretry]
        nofun
      refine ⟨hnot, ?_, ?_⟩
      · rw [hreconciles, if_neg hnot]
        rfl
      · intro actor expected
        apply eq_nil_iff_forall_not_mem.mpr
        intro s hs
        exact hnot (haccepts s (hmember actor expected s hs)).1

def dispatchedReadyRow : BacklogRow :=
  { insertedRow { title := "t", readinessState := some .ready } "item" 0 with
    lastDispatchPhid := some "phid:disp-1" }

def doneDispatch : DispatchRow :=
  { freshRow "phid:disp-1" with status := .done, reliabilityClassification := none }

def dispatchedReadyWorld (dispatches : List Row) : World :=
  { World.holding [dispatchedReadyRow] with scheduler := .start dispatches .quiet }

theorem closeoutsAgree_done :
    CloseoutsAgree (dispatchedReadyWorld [doneDispatch.toRow]) dispatchedReadyRow doneDispatch :=
  (closeoutsAgree_iff (by decide +kernel) rfl (by decide) rfl fun _ => rfl).mpr
    ⟨doneDispatch, rfl, by decide +kernel⟩

/-- Of the same row with no dispatch in the queue the report says to hold it, and a reconciliation
supersedes it. -/
theorem not_closeoutsAgree :
    (dispatchedReadyWorld []).row? dispatchedReadyRow.itemId = some dispatchedReadyRow ∧
      (dispatchedReadyWorld []).Prior dispatchedReadyRow none ∧
      ¬ CloseoutsAgree (dispatchedReadyWorld []) dispatchedReadyRow none := by
  refine ⟨by decide +kernel, fun _ => rfl, ?_⟩
  intro h
  have hclosed := (h.alone (.inl rfl)).2.1
  rw [closeStaleRow_closes ⟨dispatchedReadyRow, none⟩, staleDisposition_missing] at hclosed
  cases hclosed

end IdAgents.Orchestration
