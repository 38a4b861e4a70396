import IdAgents.Inbox.Ops
import IdAgents.Inbox.Passes

namespace IdAgents.Inbox
open JsText JsMap

inductive Action where
  | classify (op : ClassifyInboxItemOp)
  | proposeRoute (op : ProposeRouteOp)
  | snooze (uuid : String) (op : SnoozeOp)
  | checkOff (uuid : String) (op : CheckOffOp)
  | auditNote (uuid : String) (op : AuditNoteOp)
  | triage (deps : InboxActionDeps) (uuid : String) (input : TriageToTaskInput)
  | route (deps : InboxActionDeps) (uuid : String) (input : RouteToDispatchInput)
  | markRead (uuid : String) (input : MarkReadInput)
  | bulk (uuid : String → String) (req : BulkInboxRequest)

def settle (t : InboxTables) (phid : String) (applied : α → Bool) : Op α → InboxTables × List String
  | .error _ => (t, [])
  | .ok (answer, t') => (t', if applied answer then [phid] else [])

def Action.run (numberText : Rat → String) (t : InboxTables) : Action → InboxTables × List String
  | .classify op => settle t op.inboxPhid (·.applied) (applyClassifyInboxItem numberText t op)
  | .proposeRoute op => settle t op.inboxPhid (·.applied) (applyProposeRoute t op)
  | .snooze uuid op => settle t op.inboxPhid (fun _ => true) (applySnooze t uuid op)
  | .checkOff uuid op => settle t op.inboxPhid (fun _ => true) (applyCheckOff t uuid op)
  | .auditNote uuid op => settle t op.inboxPhid (fun _ => true) (applyAuditNote t uuid op)
  | .triage deps uuid input =>
    settle t input.inboxPhid (fun _ => true) (triageInboxToTask t deps uuid input)
  | .route deps uuid input =>
    settle t input.inboxPhid (fun _ => true) (routeInboxToDispatch t deps uuid input)
  | .markRead uuid input => settle t input.inboxPhid (fun _ => true) (markInboxRead t uuid input)
  | .bulk uuid req =>
    match applyBulkInboxAction t uuid req with
    | .error _ => (t, [])
    | .ok (answer, t') => (t', (answer.2.filter (·.applied)).map (·.inboxPhid))

structure Touches (phids : List String) (t t' : InboxTables) : Prop extends Kept t t' where
  others : ∀ phid, phid ∉ phids → t'.items.get? phid = t.items.get? phid

namespace Touches

theorem refl (phids : List String) (t : InboxTables) : Touches phids t t :=
  ⟨Kept.refl t, fun _ _ => rfl⟩

theorem trans (h : Touches phids t u) (h' : Touches phids u v) : Touches phids t v :=
  ⟨h.toKept.trans h'.toKept, fun p hp => (h'.others p hp).trans (h.others p hp)⟩

theorem mono (h : Touches phids t u) (hsub : ∀ p ∈ phids, p ∈ phids') : Touches phids' t u :=
  ⟨h.toKept, fun p hp => h.others p fun hmem => hp (hsub p hmem)⟩

theorem of_items (hitems : t'.items = t.items) (hlinks : ∀ link ∈ t.links, link ∈ t'.links) :
    Touches phids t t' :=
  ⟨⟨fun p hp => by rwa [hitems], hlinks⟩, fun p _ => by rw [hitems]⟩

variable (t : InboxTables)

theorem updateItem (phid : String) (f : InboxItemRow → InboxItemRow) :
    Touches [phid] t (t.updateItem phid f) := by
  rw [InboxTables.updateItem]
  cases h : t.items.get? phid with
  | none => exact refl _ _
  | some row =>
    constructor
    · constructor
      · intro p hp
        simp [has_set, hp]
      · exact fun _ hl => hl
    · intro p hp
      exact Dict.get?_set_ne (List.ne_of_not_mem_cons hp)

theorem upsertLink (phids : List String) (t : InboxTables) (link : InboxLinkRow) :
    Touches phids t (t.upsertLink link) :=
  of_items (InboxTables.upsertLink_items t link) fun _ hl => InboxTables.mem_upsertLink.2 (.inl hl)

theorem appendAuditEvent (e : InboxAuditEvent) : Touches phids t (t.appendAuditEvent e) :=
  of_items rfl fun _ hl => hl

theorem appendRoutingDecision (phids : List String) (t : InboxTables) (d : InboxRoutingDecision) :
    Touches phids t (t.appendRoutingDecision d) :=
  of_items rfl fun _ hl => hl

theorem flagConflict (prior : Option InboxRoutingDecision) (op : ProposeRouteOp) :
    Touches phids t (Inbox.flagConflict t prior op) := by
  cases prior with
  | none => exact refl _ _
  | some d =>
    rw [Inbox.flagConflict]
    split
    · exact of_items rfl fun _ hl => hl
    · exact refl _ _

end Touches

def Op.Touches (t : InboxTables) (phid : String) (applied : α → Bool) (r : Op α) : Prop :=
  ∀ answer t', r = .ok (answer, t') →
    if applied answer then Inbox.Touches [phid] t t' else t' = t

theorem settle_touches (h : r.Touches t phid applied) :
    Touches (settle t phid applied r).2 t (settle t phid applied r).1 := by
  cases r with
  | error _ => exact Touches.refl _ _
  | ok pair =>
    obtain ⟨answer, t'⟩ := pair
    have hok := h answer t' rfl
    rw [settle]
    cases happlied : applied answer with
    | true => simpa [happlied] using hok
    | false =>
      have heq : t' = t := by simpa [happlied] using hok
      rw [heq]
      exact Touches.refl _ _

theorem applyClassifyInboxItem_touches (numberText : Rat → String) (t : InboxTables)
    (op : ClassifyInboxItemOp) :
    (applyClassifyInboxItem numberText t op).Touches t op.inboxPhid (·.applied) := by
  intro answer t' h
  rw [applyClassifyInboxItem] at h
  split at h; · cases h
  split at h; · cases h
  split at h; · cases h
  split at h; · cases h
  split at h; · cases h
  split at h
  · cases h
    rfl
  · cases h
    have hwritten := Touches.updateItem t op.inboxPhid (classifyRow op)
    exact (hwritten.trans (Touches.updateItem _ _ _)).trans (Touches.appendAuditEvent _ _)

variable (t : InboxTables)

theorem applyProposeRoute_touches (op : ProposeRouteOp) :
    (applyProposeRoute t op).Touches t op.inboxPhid (·.applied) := by
  intro answer t' h
  rw [applyProposeRoute] at h
  split at h; · cases h
  split at h
  · cases h
    rfl
  · cases h
    have hdecided := Touches.appendRoutingDecision [op.inboxPhid] t (proposedDecision op)
    exact (hdecided.trans (Touches.flagConflict _ _ op)).trans (Touches.appendAuditEvent _ _)

variable (uuid : String)

theorem applySnooze_touches (op : SnoozeOp) :
    (applySnooze t uuid op).Touches t op.inboxPhid (fun _ => true) := by
  intro answer t' h
  rw [applySnooze] at h
  split at h; · cases h
  cases h
  exact (Touches.updateItem t op.inboxPhid _).trans (Touches.appendAuditEvent _ _)

theorem applyCheckOff_touches (op : CheckOffOp) :
    (applyCheckOff t uuid op).Touches t op.inboxPhid (fun _ => true) := by
  intro answer t' h
  rw [applyCheckOff] at h
  split at h; · cases h
  split at h; · cases h
  cases h
  exact (Touches.updateItem t op.inboxPhid _).trans (Touches.appendAuditEvent _ _)

theorem applyAuditNote_touches (op : AuditNoteOp) :
    (applyAuditNote t uuid op).Touches t op.inboxPhid (fun _ => true) := by
  intro answer t' h
  rw [applyAuditNote] at h
  split at h; · cases h
  split at h; · cases h
  cases h
  exact Touches.appendAuditEvent _ _

theorem triageInboxToTask_touches (deps : InboxActionDeps) (uuid : String)
    (input : TriageToTaskInput) :
    (triageInboxToTask t deps uuid input).Touches t input.inboxPhid (fun _ => true) := by
  intro answer t' h
  rw [triageInboxToTask] at h
  split at h
  · cases h
  · cases h
  · cases h
  · cases h
    have hlinked := Touches.upsertLink [input.inboxPhid] t ⟨input.inboxPhid, .task, answer.1⟩
    refine Touches.trans ?_ (Touches.appendAuditEvent _ _)
    split
    · exact hlinked.trans (Touches.updateItem _ _ _)
    · exact hlinked

theorem routeInboxToDispatch_touches (deps : InboxActionDeps) (uuid : String)
    (input : RouteToDispatchInput) :
    (routeInboxToDispatch t deps uuid input).Touches t input.inboxPhid (fun _ => true) := by
  intro answer t' h
  rw [routeInboxToDispatch] at h
  split at h
  · cases h
  · cases h
  · split at h; · cases h
    split at h
    · cases h
    · cases h
      have hlinked := Touches.upsertLink [input.inboxPhid] t
        ⟨input.inboxPhid, .dispatch, answer.dispatchPhid⟩
      exact (hlinked.trans (Touches.updateItem _ _ _)).trans (Touches.appendAuditEvent _ _)

theorem markInboxRead_touches (input : MarkReadInput) :
    (markInboxRead t uuid input).Touches t input.inboxPhid (fun _ => true) := by
  intro answer t' h
  rw [markInboxRead] at h
  split at h
  · cases h
  · dsimp only at h
    split at h
    · cases h
      exact Touches.updateItem _ _ _
    · cases h
      exact (Touches.updateItem t input.inboxPhid _).trans (Touches.appendAuditEvent _ _)

variable (req : BulkInboxRequest)

theorem applyOne_touches (uuid phid : String) (state : OperatorState) :
    (applyOne t req uuid phid state).1.inboxPhid = phid ∧
      if (applyOne t req uuid phid state).1.applied
      then Touches [phid] t (applyOne t req uuid phid state).2
      else (applyOne t req uuid phid state).2 = t := by
  rw [applyOne]
  cases req.action with
  | route =>
    have hdecided := Touches.appendRoutingDecision [phid] t (bulkDecision req phid)
    exact ⟨rfl, hdecided.trans (Touches.appendAuditEvent _ _)⟩
  | archive =>
    dsimp only
    split
    · exact ⟨rfl, rfl⟩
    · exact ⟨rfl, (Touches.updateItem t phid _).trans (Touches.appendAuditEvent _ _)⟩
  | markActed =>
    dsimp only
    split
    · exact ⟨rfl, rfl⟩
    · exact ⟨rfl, (Touches.updateItem t phid _).trans (Touches.appendAuditEvent _ _)⟩

def appliedTo (results : List BulkItemResult) : List String :=
  (results.filter (·.applied)).map (·.inboxPhid)

theorem bulkItem_touches (uuid phid : String) :
    Touches (appliedTo [(bulkItem t req uuid phid).1]) t (bulkItem t req uuid phid).2 := by
  rw [bulkItem]
  cases t.items.get? phid with
  | none => exact Touches.refl _ _
  | some item =>
    dsimp only
    obtain ⟨hphid, htouches⟩ := applyOne_touches t req uuid phid item.operatorState
    cases happlied : (applyOne t req uuid phid item.operatorState).1.applied with
    | true =>
      rw [happlied, if_pos rfl] at htouches
      simpa [appliedTo, happlied, hphid] using htouches
    | false =>
      simp only [happlied, Bool.false_eq_true, if_false] at htouches
      rw [htouches]
      exact Touches.refl _ _

theorem bulkItems_cons (uuid : String → String) (t : InboxTables)
    (phid : String) (phids : List String) : bulkItems req uuid t (phid :: phids) =
      ((bulkItem t req (uuid phid) phid).1 ::
        (bulkItems req uuid (bulkItem t req (uuid phid) phid).2 phids).1,
        (bulkItems req uuid (bulkItem t req (uuid phid) phid).2 phids).2) := rfl

theorem bulkItems_touches (uuid : String → String) (phids : List String) (t : InboxTables) :
    Touches (appliedTo (bulkItems req uuid t phids).1) t (bulkItems req uuid t phids).2 := by
  induction phids generalizing t with
  | nil => exact Touches.refl _ _
  | cons phid phids ih =>
    rw [bulkItems_cons]
    have hfirst := bulkItem_touches t req (uuid phid) phid
    have hrest := ih (bulkItem t req (uuid phid) phid).2
    have happlied (first : BulkItemResult) (results : List BulkItemResult) :
        appliedTo (first :: results) = appliedTo [first] ++ appliedTo results := by
      cases h : first.applied <;> simp [appliedTo, h]
    rw [happlied]
    exact (hfirst.mono fun p hp => List.mem_append_left _ hp).trans
      (hrest.mono fun p hp => List.mem_append_right _ hp)

theorem Action.run_touches (numberText : Rat → String) (t : InboxTables) (a : Action) :
    Touches (a.run numberText t).2 t (a.run numberText t).1 := by
  cases a with
  | classify op => exact settle_touches (applyClassifyInboxItem_touches numberText t op)
  | proposeRoute op => exact settle_touches (applyProposeRoute_touches t op)
  | snooze uuid op => exact settle_touches (applySnooze_touches t uuid op)
  | checkOff uuid op => exact settle_touches (applyCheckOff_touches t uuid op)
  | auditNote uuid op => exact settle_touches (applyAuditNote_touches t uuid op)
  | triage deps uuid input => exact settle_touches (triageInboxToTask_touches t deps uuid input)
  | route deps uuid input => exact settle_touches (routeInboxToDispatch_touches t deps uuid input)
  | markRead uuid input => exact settle_touches (markInboxRead_touches t uuid input)
  | bulk uuid req =>
    rw [Action.run, applyBulkInboxAction]
    cases validateBulkInboxRequest req with
    | nil => exact bulkItems_touches req uuid (normalizePhids [] req.phids) t
    | cons e errors => exact Touches.refl _ _

end IdAgents.Inbox
