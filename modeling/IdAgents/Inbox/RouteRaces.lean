import IdAgents.Inbox.Projection
import IdAgents.Inbox.RouteCalls

namespace IdAgents.Inbox
open JsText JsMap AtomicProgram

/-- What a route is told apart by: item, actor, revision and reason. -/
def decisionKey (d : InboxRoutingDecision) : String × String × String × String :=
  (d.inboxPhid, d.actorId, d.inputRevision, d.reason)

def RouteStore.decisions (w : RouteStore) : List InboxRoutingDecision := w.tables.routingDecisions

def isClassification (e : InboxAuditEvent) : Bool := e.opType = "CLASSIFY_INBOX_ITEM"

def eventKey (e : InboxAuditEvent) : String × Option String × String :=
  (e.inboxPhid, e.inputRevision, e.opId)

def RouteStore.classifications (w : RouteStore) : List (String × Option String × String) :=
  (w.tables.auditEvents.filter isClassification).map eventKey

/-- No item has two primary routes, and no decision and no classification event is there twice. -/
structure RouteStore.Sound (w : RouteStore) : Prop where
  primary : ((w.decisions.filter (·.isPrimary)).map (·.inboxPhid)).Nodup
  decisions : (w.decisions.map decisionKey).Nodup
  classifications : w.classifications.Nodup

/-- What a call has looked up still holds when it writes: the primary routes that it displaces are
the one it has seen or its own, and nobody has recorded the same decision or event. -/
def StillSeen : RouteStmt → RouteStore → Prop
  | .clearPrimary _ decision prior, w => ∀ d ∈ w.decisions, d.primaryOf decision.inboxPhid = true →
      d.Differs decision → prior.any (fun p => decide (¬ p.Differs d)) = true
  | .insertDecision decision, w => decisionKey decision ∉ w.decisions.map decisionKey ∧
      (decision.isPrimary = true → ∀ d ∈ w.decisions, d.primaryOf decision.inboxPhid = false)
  | .insertAudit event, w => isClassification event = true → eventKey event ∉ w.classifications
  | _, _ => True

instance (c : RouteStmt) (w : RouteStore) : Decidable (StillSeen c w) :=
  match c with
  | .clearPrimary .. | .insertDecision _ | .insertAudit _ => by
    dsimp only [StillSeen]
    infer_instance
  | .selectItem _ | .selectClassified _ | .updateClassification _ | .updateState .. |
    .selectProposed _ | .selectPrimary _ | .insertViolation _ => isTrue trivial

theorem clearPrimaries_keys (phid : String) (decisions : List InboxRoutingDecision) :
    (clearPrimaries phid decisions).map decisionKey = decisions.map decisionKey := by
  rw [clearPrimaries, List.map_map]
  apply List.map_congr_left
  intro d _
  rw [Function.comp_apply]
  split <;> rfl

theorem clearPrimaries_primaries (phid : String) (decisions : List InboxRoutingDecision) :
    ((clearPrimaries phid decisions).filter (·.isPrimary)).map (·.inboxPhid) =
      ((decisions.filter fun d => d.isPrimary && d.inboxPhid ≠ phid).map (·.inboxPhid)) := by
  induction decisions with
  | nil => rfl
  | cons d decisions ih =>
    rw [clearPrimaries] at ih
    rw [clearPrimaries, List.map_cons]
    cases hprimary : d.isPrimary with
    | false => simpa [InboxRoutingDecision.primaryOf, hprimary] using ih
    | true =>
      by_cases hphid : d.inboxPhid = phid
      · simpa [InboxRoutingDecision.primaryOf, hprimary, hphid] using ih
      · simpa [InboxRoutingDecision.primaryOf, hprimary, hphid] using ih

theorem RouteStore.Sound.step (h : w.Sound) (hseen : StillSeen c w) :
    (RouteStore.effect c w).Sound := by
  cases c with
  | selectItem phid => exact h
  | selectClassified op => exact h
  | selectProposed op => exact h
  | selectPrimary phid => exact h
  | updateClassification op =>
    rw [effect, InboxTables.updateItem]
    split <;> exact ⟨h.primary, h.decisions, h.classifications⟩
  | updateState phid state =>
    rw [effect, InboxTables.updateItem]
    split <;> exact ⟨h.primary, h.decisions, h.classifications⟩
  | clearPrimary caller decision prior =>
    constructor
    · change (((clearPrimaries _ _).filter _).map _).Nodup
      rw [clearPrimaries_primaries]
      refine h.primary.sublist (List.Sublist.map _ ?_)
      exact List.monotone_filter_right _ fun d hd => (Bool.and_eq_true_iff.mp hd).1
    · change ((clearPrimaries _ _).map _).Nodup
      rw [clearPrimaries_keys]
      exact h.decisions
    · exact h.classifications
  | insertDecision decision =>
    constructor
    · change (((w.decisions ++ [decision]).filter _).map _).Nodup
      rw [List.filter_append, List.map_append]
      cases hprimary : decision.isPrimary with
      | false => simpa [hprimary] using h.primary
      | true =>
        simp only [hprimary, List.filter_cons_of_pos, List.filter_nil, List.map_cons, List.map_nil]
        refine List.nodup_append.mpr ⟨h.primary, List.nodup_singleton _, ?_⟩
        rintro _ hmem _ hphid rfl
        obtain ⟨d, hd, heq⟩ := List.mem_map.mp hmem
        obtain ⟨hd, hdp⟩ := List.mem_filter.mp hd
        have hnot := hseen.2 hprimary d hd
        rw [List.mem_singleton.mp hphid] at heq
        rw [InboxRoutingDecision.primaryOf, heq, hdp] at hnot
        simp at hnot
    · change ((w.decisions ++ [decision]).map _).Nodup
      rw [List.map_append]
      refine List.nodup_append.mpr ⟨h.decisions, List.nodup_singleton _, ?_⟩
      rintro _ hmem _ hkey rfl
      rw [List.mem_singleton.mp hkey] at hmem
      exact hseen.1 hmem
    · exact h.classifications
  | insertViolation violation => exact ⟨h.primary, h.decisions, h.classifications⟩
  | insertAudit event =>
    refine ⟨h.primary, h.decisions, ?_⟩
    change (((w.tables.auditEvents ++ [event]).filter _).map _).Nodup
    rw [List.filter_append, List.map_append]
    cases hclassify : isClassification event with
    | false =>
      rw [List.filter_cons_of_neg (by rw [hclassify]; exact Bool.false_ne_true), List.filter_nil,
        List.map_nil, List.append_nil]
      exact h.classifications
    | true =>
      rw [List.filter_cons_of_pos hclassify]
      refine List.nodup_append.mpr ⟨h.classifications, List.nodup_singleton _, ?_⟩
      rintro _ hmem _ hkey rfl
      rw [List.mem_singleton.mp hkey] at hmem
      exact hseen hclassify hmem

/-- What others do to what a call has done: nothing is taken back, and nothing is displaced in its
name. -/
structure Relies (i : Nat) (w w' : RouteStore) : Prop where
  decisions : ∀ k ∈ w.decisions.map decisionKey, k ∈ w'.decisions.map decisionKey
  classifications : ∀ k ∈ w.classifications, k ∈ w'.classifications
  violations : ∀ v ∈ w.tables.policyViolations, v ∈ w'.tables.policyViolations
  displaced : ∀ d, (i, d) ∈ w'.displaced → (i, d) ∈ w.displaced

theorem Relies.refl (i : Nat) (w : RouteStore) : Relies i w w :=
  ⟨fun _ h => h, fun _ h => h, fun _ h => h, fun _ h => h⟩

theorem Relies.trans (h : Relies i w w') (h' : Relies i w' w'') : Relies i w w'' :=
  ⟨fun k hk => h'.decisions k (h.decisions k hk),
    fun k hk => h'.classifications k (h.classifications k hk),
    fun v hv => h'.violations v (h.violations v hv),
    fun d hd => h.displaced d (h'.displaced d hd)⟩

/-- The statement is one of the call's. -/
def RouteStmt.By (i : Nat) : RouteStmt → Prop
  | clearPrimary caller .. => caller = i
  | _ => True

theorem effect_classifications (event : InboxAuditEvent) (w : RouteStore)
    (h : k ∈ w.classifications) : k ∈ (RouteStore.effect (.insertAudit event) w).classifications := by
  change k ∈ ((w.tables.auditEvents ++ [event]).filter _).map _
  rw [List.filter_append, List.map_append]
  exact List.mem_append_left _ h

/-- Up to the displaced routes, every statement only adds. -/
theorem effect_adds (c : RouteStmt) (w : RouteStore)
    (hdisplaced : ∀ d, (i, d) ∈ (RouteStore.effect c w).displaced → (i, d) ∈ w.displaced) :
    Relies i w (RouteStore.effect c w) := by
  cases c with
  | selectItem phid => exact Relies.refl i w
  | selectClassified op => exact Relies.refl i w
  | selectProposed op => exact Relies.refl i w
  | selectPrimary phid => exact Relies.refl i w
  | updateClassification op =>
    rw [RouteStore.effect, InboxTables.updateItem]
    split <;> exact ⟨fun _ h => h, fun _ h => h, fun _ h => h, fun _ h => h⟩
  | updateState phid state =>
    rw [RouteStore.effect, InboxTables.updateItem]
    split <;> exact ⟨fun _ h => h, fun _ h => h, fun _ h => h, fun _ h => h⟩
  | clearPrimary caller decision prior =>
    refine ⟨fun k hk => ?_, fun _ h => h, fun _ h => h, hdisplaced⟩
    change k ∈ (clearPrimaries _ _).map decisionKey
    rw [clearPrimaries_keys]
    exact hk
  | insertDecision decision =>
    refine ⟨fun k hk => ?_, fun _ h => h, fun _ h => h, hdisplaced⟩
    change k ∈ (w.decisions ++ [decision]).map decisionKey
    rw [List.map_append]
    exact List.mem_append_left _ hk
  | insertViolation violation =>
    exact ⟨fun _ h => h, fun _ h => h, fun _ h => List.mem_append_left _ h, hdisplaced⟩
  | insertAudit event =>
    exact ⟨fun _ h => h, fun _ h => effect_classifications event w h, fun _ h => h, hdisplaced⟩

theorem relies_effect (hij : i ≠ j) (hby : RouteStmt.By j c) (w : RouteStore) :
    Relies i w (RouteStore.effect c w) := by
  apply effect_adds
  cases c with
  | clearPrimary caller decision prior =>
    intro d hd
    obtain hd | hd := List.mem_append.mp hd
    · exact hd
    · obtain ⟨e, _, heq⟩ := List.mem_map.mp hd
      exact absurd ((congrArg Prod.fst heq).symm.trans hby) hij
  | updateClassification op =>
    rw [RouteStore.effect]
    exact fun _ h => h
  | _ => exact fun _ h => h

/-- A violation that names the displaced route. -/
def Names (v : InboxPolicyViolation) (d decision : InboxRoutingDecision) : Prop :=
  v.inboxPhid = decision.inboxPhid ∧ v.kind = "conflicting_routes" ∧
  v.message = "Conflicting primary routes: " ++ d.actionType ++ "→" ++ d.actionTarget.getD "(none)" ++
    " displaced by " ++ decision.actionType ++ "→" ++ decision.actionTarget.getD "(none)"

def Named (i : Nat) (decision : InboxRoutingDecision) (w : RouteStore) : Prop :=
  ∀ d, (i, d) ∈ w.displaced → ∃ v ∈ w.tables.policyViolations, Names v d decision

/-- The decision of call `i` is recorded, and what it has displaced is named. -/
structure Settled (i : Nat) (decision : InboxRoutingDecision) (w : RouteStore) : Prop where
  recorded : decisionKey decision ∈ w.decisions.map decisionKey
  named : Named i decision w

theorem Named.along (h : Named i decision w) (hr : Relies i w w') : Named i decision w' := by
  intro d hd
  obtain ⟨v, hv, hnames⟩ := h d (hr.displaced d hd)
  exact ⟨v, hr.violations v hv, hnames⟩

theorem Settled.along (h : Settled i decision w) (hr : Relies i w w') : Settled i decision w' :=
  ⟨hr.decisions _ h.recorded, h.named.along hr⟩

def classificationKey (op : ClassifyInboxItemOp) : String × Option String × String :=
  (op.inboxPhid, some op.inputRevision, op.idempotencyKey)

/-- What a call that has ended leaves. -/
def Done (i : Nat) : RouteCall → Except OpError OpResult → RouteStore → Prop
  | .propose op, r, w => ∀ a, r = .ok a → Settled i (proposedDecision op) w
  | .bulk req _ phid, r, w => ∀ a, r = .ok a → a.applied = true → Settled i (bulkDecision req phid) w
  | .classify op, r, w => ∀ a, r = .ok a → classificationKey op ∈ w.classifications

section
variable {i : Nat} {w : RouteStore}

/-- A call that has only its audit event left to write. -/
theorem audit_stably {Q : Except OpError OpResult → RouteStore → Prop} {P : RouteStore → Prop}
    (halong : ∀ w w', P w → Relies i w w' → P w')
    (hQ : ∀ w, P w → Q (.ok ⟨true, none⟩) w) (hP : P w) (event : InboxAuditEvent) :
    (.issue (.insertAudit event) fun _ => .ret ⟨true, none⟩ : RouteProg OpResult).stably (Relies i)
      StillSeen Q w := by
  intro t ht _ u hu
  have hstep := effect_adds (i := i) (.insertAudit event) t fun _ h => h
  exact hQ u (halong _ _ (halong _ _ (halong _ _ hP ht) hstep) hu)

/-- The writes of a decision: what they displace is the route that was looked up. -/
theorem appendRoutingDecision_stably {Q : Except OpError OpResult → RouteStore → Prop}
    {decision : InboxRoutingDecision} {prior : Option InboxRoutingDecision} {k : RouteProg OpResult}
    (hfresh : ∀ d, (i, d) ∉ w.displaced)
    (hk : ∀ t, decisionKey decision ∈ t.decisions.map decisionKey →
      (∀ d, (i, d) ∈ t.displaced → d.Differs decision ∧ prior.any (fun p => decide (¬ p.Differs d))) →
      k.stably (Relies i) StillSeen Q t) :
    (appendRoutingDecision i decision prior k).stably (Relies i) StillSeen Q w := by
  have hinsert (t : RouteStore) : decisionKey decision ∈
      (RouteStore.effect (.insertDecision decision) t).decisions.map decisionKey := by
    change _ ∈ (t.decisions ++ [decision]).map decisionKey
    rw [List.map_append]
    exact List.mem_append_right _ List.mem_cons_self
  rw [appendRoutingDecision]
  split
  · intro t ht hseen u hu _
    refine hk _ (hinsert u) fun d hd => ?_
    obtain hd | hd := List.mem_append.mp (hu.displaced d hd)
    · exact absurd (ht.displaced d hd) (hfresh d)
    · obtain ⟨e, he, heq⟩ := List.mem_map.mp hd
      cases heq
      obtain ⟨hmem, hprimary⟩ := List.mem_filter.mp he
      rw [Bool.and_eq_true, decide_eq_true_eq] at hprimary
      exact ⟨hprimary.2, hseen d hmem hprimary.1 hprimary.2⟩
  · intro t ht _
    exact hk _ (hinsert t) fun d hd => absurd (ht.displaced d hd) (hfresh d)

theorem not_differs {d e : InboxRoutingDecision} (h : ¬ d.Differs e) :
    d.actionType = e.actionType ∧ d.actionTarget = e.actionTarget := by
  rw [InboxRoutingDecision.Differs, not_or, not_not, not_not] at h
  exact h

theorem proposeFrom_stably (op : ProposeRouteOp) (prior : Option InboxRoutingDecision)
    (hfresh : ∀ d, (i, d) ∉ w.displaced) : (proposeFrom i op prior).stably (Relies i) StillSeen
      (fun r w => ∀ a, r = .ok a → Settled i (proposedDecision op) w) w := by
  refine appendRoutingDecision_stably hfresh fun t hkey hdisplaced => ?_
  have haudit (t : RouteStore) (h : Settled i (proposedDecision op) t) :=
    audit_stably (Q := fun r w => ∀ a, r = .ok a → Settled i (proposedDecision op) w)
      (fun _ _ => Settled.along) (fun _ h _ _ => h) h (proposeAudit op)
  rw [flagDisplaced.eq_def]
  split
  · rename_i p
    have hsame (d : InboxRoutingDecision) (hd : (i, d) ∈ t.displaced) :
        d.Differs (proposedDecision op) ∧ p.actionType = d.actionType ∧
          p.actionTarget = d.actionTarget := by
      obtain ⟨hdiffers, hp⟩ := hdisplaced d hd
      rw [Option.any_some, decide_eq_true_eq] at hp
      exact ⟨hdiffers, not_differs hp⟩
    split
    · -- the violation names the route that was looked up, which is the displaced one
      intro u hu _
      refine haudit _ ⟨hu.decisions _ hkey, fun d hd => ?_⟩
      obtain ⟨-, htype, htarget⟩ := hsame d (hu.displaced d hd)
      refine ⟨conflictingRoutes p op, List.mem_append_right _ List.mem_cons_self, rfl, rfl, ?_⟩
      rw [← htype, ← htarget]
      rfl
    · rename_i hp
      refine haudit t ⟨hkey, fun d hd => ?_⟩
      obtain ⟨hdiffers, htype, htarget⟩ := hsame d hd
      rw [InboxRoutingDecision.Differs, ← htype, ← htarget] at hdiffers
      exact absurd hdiffers hp
  · refine haudit t ⟨hkey, fun d hd => ?_⟩
    cases (hdisplaced d hd).2

theorem proposeRoute_stably (op : ProposeRouteOp) (hfresh : ∀ d, (i, d) ∉ w.displaced) :
    (proposeRoute i op).stably (Relies i) StillSeen (Done i (.propose op)) w := by
  intro t ht _
  have ht' : ∀ d, (i, d) ∉ t.displaced := fun d hd => hfresh d (ht.displaced d hd)
  simp only [Store.answer, Store.effect, RouteStore.effect]
  cases t.tables.items.get? op.inboxPhid with
  | none => exact fun _ _ a h => by cases h
  | some item =>
    intro u hu _
    have hu' : ∀ d, (i, d) ∉ u.displaced := fun d hd => ht' d (hu.displaced d hd)
    simp only [Store.answer, Store.effect, RouteStore.effect]
    split
    · rename_i hproposed
      intro x hx a _
      obtain ⟨d, hd, hkey⟩ := List.any_eq_true.mp hproposed
      simp only [Bool.and_eq_true, decide_eq_true_eq] at hkey
      obtain ⟨⟨⟨hphid, hactor⟩, hrevision⟩, hreason⟩ := hkey
      refine Settled.along ⟨List.mem_map.mpr ⟨d, hd, ?_⟩, fun d hd => absurd hd (hu' d)⟩ hx
      rw [decisionKey, hphid, hactor, hrevision, hreason]
      rfl
    · split
      · intro x hx _
        exact proposeFrom_stably op _ fun d hd => hu' d (hx.displaced d hd)
      · exact proposeFrom_stably op none hu'

theorem bulkRoute_stably (req : BulkInboxRequest) (uuid phid : String)
    (hfresh : ∀ d, (i, d) ∉ w.displaced) :
    (bulkRoute i req uuid phid).stably (Relies i) StillSeen (Done i (.bulk req uuid phid)) w := by
  intro t ht _
  have ht' : ∀ d, (i, d) ∉ t.displaced := fun d hd => hfresh d (ht.displaced d hd)
  simp only [Store.answer, Store.effect, RouteStore.effect]
  cases t.tables.items.get? phid with
  | none =>
    intro _ _ a ha happlied
    cases ha
    cases happlied
  | some item =>
    refine appendRoutingDecision_stably ht' fun u hkey hdisplaced => ?_
    have hsettled : Settled i (bulkDecision req phid) u :=
      ⟨hkey, fun d hd => by cases (hdisplaced d hd).2⟩
    exact audit_stably (fun _ _ => Settled.along) (fun _ h _ _ _ => h) hsettled _

theorem recordClassification_stably (numberText : Rat → String) (op : ClassifyInboxItemOp) :
    (recordClassification numberText op).stably (Relies i) StillSeen (Done i (.classify op)) w := by
  intro t _ _ u hu a _
  apply hu.classifications
  change _ ∈ ((t.tables.auditEvents ++ [_]).filter _).map _
  rw [List.filter_append, List.map_append]
  exact List.mem_append_right _ List.mem_cons_self

theorem classifyItem_stably (numberText : Rat → String) (op : ClassifyInboxItemOp) :
    (classifyItem numberText op).stably (Relies i) StillSeen (Done i (.classify op)) w := by
  intro t _ _
  simp only [Store.answer, Store.effect, RouteStore.effect]
  cases t.tables.items.get? op.inboxPhid with
  | none => exact fun _ _ a h => by cases h
  | some item =>
    dsimp only
    cases classifyError op with
    | some message => exact fun _ _ a h => by cases h
    | none =>
      intro u _ _
      simp only [Store.answer, Store.effect, RouteStore.effect]
      split
      · rename_i hclassified
        intro x hx a _
        apply hx.classifications
        obtain ⟨e, he, hkey⟩ := List.any_eq_true.mp hclassified
        simp only [Bool.and_eq_true, decide_eq_true_eq] at hkey
        obtain ⟨⟨⟨hphid, htype⟩, hrevision⟩, hop⟩ := hkey
        refine List.mem_map.mpr ⟨e, List.mem_filter.mpr ⟨he, decide_eq_true htype⟩, ?_⟩
        rw [eventKey, hphid, hrevision, hop]
        rfl
      · intro x _ _ y _ _
        simp only [Store.answer, Store.effect, RouteStore.effect]
        cases y.tables.items.get? op.inboxPhid with
        | none => exact fun _ _ a h => by cases h
        | some found =>
          dsimp only
          split
          · intro z _ _
            exact recordClassification_stably numberText op
          · exact recordClassification_stably numberText op

end

theorem appendRoutingDecision_by (hk : k.Meets (RouteStmt.By i) fun _ => True) :
    (appendRoutingDecision i decision prior k).Meets (RouteStmt.By i) fun _ => True := by
  rw [appendRoutingDecision]
  split
  · exact ⟨rfl, fun _ => ⟨trivial, fun _ => hk⟩⟩
  · exact ⟨trivial, fun _ => hk⟩

theorem proposeFrom_by (i : Nat) (op : ProposeRouteOp) (prior : Option InboxRoutingDecision) :
    (proposeFrom i op prior).Meets (RouteStmt.By i) fun _ => True := by
  apply appendRoutingDecision_by
  rw [flagDisplaced.eq_def]
  split
  · split
    · exact ⟨trivial, fun _ => ⟨trivial, fun _ => trivial⟩⟩
    · exact ⟨trivial, fun _ => trivial⟩
  · exact ⟨trivial, fun _ => trivial⟩

variable (numberText : Rat → String)

theorem prog_by (i : Nat) (call : RouteCall) :
    (call.prog numberText i).Meets (RouteStmt.By i) fun _ => True := by
  cases call with
  | propose op =>
    refine ⟨trivial, fun found => ?_⟩
    cases found with
    | none => trivial
    | some item =>
      refine ⟨trivial, fun existing => ?_⟩
      dsimp only
      split
      · trivial
      · split
        · exact ⟨trivial, fun prior => proposeFrom_by i op prior⟩
        · exact proposeFrom_by i op none
  | bulk req uuid phid =>
    refine ⟨trivial, fun found => ?_⟩
    cases found with
    | none => trivial
    | some item => exact appendRoutingDecision_by ⟨trivial, fun _ => trivial⟩
  | classify op =>
    have hrecord : (recordClassification numberText op).Meets (RouteStmt.By i) fun _ => True :=
      ⟨trivial, fun _ => trivial⟩
    refine ⟨trivial, fun found => ?_⟩
    cases found with
    | none => trivial
    | some item =>
      dsimp only
      split
      · trivial
      · refine ⟨trivial, fun existing => ?_⟩
        dsimp only
        split
        · trivial
        · refine ⟨trivial, fun _ => ⟨trivial, fun item => ?_⟩⟩
          cases item with
          | none => trivial
          | some item =>
            dsimp only
            split
            · exact ⟨trivial, fun _ => hrecord⟩
            · exact hrecord

theorem prog_stably (call : RouteCall) (hfresh : ∀ d, (i, d) ∉ w.displaced) :
    (call.prog numberText i).stably (Relies i) StillSeen (Done i call) w := by
  cases call with
  | propose op => exact proposeRoute_stably op hfresh
  | bulk req uuid phid => exact bulkRoute_stably req uuid phid hfresh
  | classify op => exact classifyItem_stably numberText op

variable (calls : List RouteCall)

def routeCalls : List (RouteProg OpResult) :=
  calls.mapIdx fun i call => call.prog numberText i

/-- What call `i`, which has ended with `r`, can show: one decision or one event under its key, and
a violation for each different primary route that it has displaced. -/
def ExactlyOnce (i : Nat) (r : OpResult) (w : RouteStore) : RouteCall → Prop
  | .propose op => (w.decisions.map decisionKey).count (decisionKey (proposedDecision op)) = 1 ∧
      Named i (proposedDecision op) w
  | .bulk req _ phid => r.applied = true →
      (w.decisions.map decisionKey).count (decisionKey (bulkDecision req phid)) = 1 ∧
        Named i (bulkDecision req phid) w
  | .classify op => w.classifications.count (classificationKey op) = 1

theorem Done.exactlyOnce (h : Done i call (.ok r) w) (hw : w.Sound) : ExactlyOnce i r w call := by
  cases call with
  | propose op =>
    have hsettled := h r rfl
    exact ⟨List.count_eq_one_of_mem hw.decisions hsettled.recorded, hsettled.named⟩
  | bulk req uuid phid =>
    intro happlied
    have hsettled := h r rfl happlied
    exact ⟨List.count_eq_one_of_mem hw.decisions hsettled.recorded, hsettled.named⟩
  | classify op => exact List.count_eq_one_of_mem hw.classifications (h r rfl)

theorem RouteStore.Sound.onePrimary {w : RouteStore} (h : w.Sound) (phid : String) :
    w.decisions.countP (·.primaryOf phid) ≤ 1 := by
  have hcount := List.nodup_iff_count_le_one.mp h.primary phid
  rw [List.count, List.countP_map, List.countP_filter] at hcount
  convert hcount using 2
  funext d
  simp [InboxRoutingDecision.primaryOf, Bool.and_comm, beq_eq_decide]

/-- What the calls leave on a schedule, which may stop anywhere: an item has one primary route at
most, and every call that has ended shows what it should. -/
def RecordedOnce (w : RouteStore) (is : List Nat) : Prop :=
  (∀ phid, (interleave is (routeCalls numberText calls) w).2.decisions.countP
    (·.primaryOf phid) ≤ 1) ∧
  ∀ (i : Nat) (call : RouteCall) (r : OpResult), calls[i]? = some call →
    (interleave is (routeCalls numberText calls) w).1[i]? = some (.ret r) →
    ExactlyOnce i r (interleave is (routeCalls numberText calls) w).2 call

/-- Whenever a call writes, what it has looked up still holds. -/
def RunSeen (w : RouteStore) (is : List Nat) : Prop :=
  ∀ e ∈ interleaveEvents is (routeCalls numberText calls) w, StillSeen e.2.stmt e.2.before

theorem routeCalls_recordedOnce (numberText : Rat → String) (calls : List RouteCall)
    (is : List Nat) (w : RouteStore) (hw : w.Sound) (hfresh : w.displaced = [])
    (hseen : RunSeen numberText calls w is) : RecordedOnce numberText calls w is := by
  have hnone : ∀ i d, (i, d) ∉ w.displaced := by
    intro i d
    rw [hfresh]
    exact List.not_mem_nil
  have hcalls : ∀ (i : Nat) (p : RouteProg OpResult), (routeCalls numberText calls)[i]? = some p →
      p.Meets (RouteStmt.By i) (fun _ => True) ∧ p.stably (Relies i) StillSeen
        (fun r w => ∀ call, calls[i]? = some call → Done i call r w) w := by
    intro i p hp
    rw [routeCalls, List.getElem?_mapIdx] at hp
    obtain ⟨call, hcall, rfl⟩ := Option.map_eq_some_iff.mp hp
    refine ⟨prog_by numberText i call, ?_⟩
    refine Program.stably_mono (prog_stably numberText call (hnone i)) fun r u hdone call' hcall' => ?_
    cases hcall.symm.trans hcall'
    exact hdone
  have hrun := interleave_stably (S := inboxSql) (R := Relies) (G := RouteStmt.By)
    (T := RouteStore.Sound) (C := StillSeen)
    (Q := fun (i : Nat) (r : Except OpError OpResult) (w : RouteStore) =>
      ∀ call, calls[i]? = some call → Done i call r w) is
    (fun i w => Relies.refl i w) (fun _ _ _ _ h h' => h.trans h') (fun _ _ h hc => h.step hc)
    (fun _ _ _ w hij hby _ _ => relies_effect hij hby w) hw hcalls hseen
  refine ⟨hrun.1.onePrimary, fun i call r hcall hr => ?_⟩
  exact (hrun.2 i (.ret r) hr _ (Relies.refl i _) call hcall).exactlyOnce hrun.1

def callBobRow : InboxItemRow :=
  mdRow ⟨"", [], none, id, some⟩ "call" ⟨false, "2026-01-02", none, none, "Call Bob", none⟩
    "2026-01-02" "t0"

def oneItem : RouteStore := ⟨⟨JsMap.Dict.empty.set "i" callBobRow, [], [], [], []⟩, []⟩

def routeToLiz : RouteCall :=
  .propose ⟨"i", "chris", "t1", none, "dispatch", some "liz", "calls", "r1", true, "k1"⟩

def routeToMax : RouteCall :=
  .propose ⟨"i", "chris", "t2", none, "dispatch", some "max", "is free", "r2", true, "k2"⟩

def bulkToMax : RouteCall :=
  .bulk ⟨.route, ["i"], "chris", "t2", none, some "dispatch", some "max", none⟩ "u" "i"

def inTurn : List Nat := [0, 0, 0, 0, 0, 0, 1, 1, 1, 1, 1, 1, 1]

theorem oneItem_sound : oneItem.Sound := by
  constructor <;> exact List.nodup_nil

/-- One after the other, the second proposal names the route that it displaces. -/
theorem proposedInTurn_recordedOnce : RunSeen toString [routeToLiz, routeToMax] oneItem inTurn ∧
      RecordedOnce toString [routeToLiz, routeToMax] oneItem inTurn := by
  have hseen : RunSeen toString [routeToLiz, routeToMax] oneItem inTurn := by
    rw [RunSeen]
    decide +kernel
  exact ⟨hseen, routeCalls_recordedOnce _ _ _ _ oneItem_sound rfl hseen⟩

def answered : RouteProg OpResult → Option OpResult
  | .ret r => some r
  | _ => none

/-- A bulk route displaces the proposed one without a violation. -/
theorem bulkRoute_unnamed : ¬ ∀ is, RecordedOnce toString [routeToLiz, bulkToMax] oneItem is := by
  intro h
  obtain ⟨-, hcalls⟩ := h inTurn
  generalize hafter : interleave inTurn (routeCalls toString [routeToLiz, bulkToMax]) oneItem = after
    at hcalls
  have hanswered : (after.1[1]?.bind answered) = some ⟨true, none⟩ := by
    rw [← hafter]
    decide +kernel
  have hdisplaced : (after.2.displaced.any fun x => x.1 = 1) = true := by
    rw [← hafter]
    decide +kernel
  have hviolations : after.2.tables.policyViolations.length = 0 := by
    rw [← hafter]
    decide +kernel
  obtain ⟨p, hp, hanswer⟩ := Option.bind_eq_some_iff.mp hanswered
  cases p with
  | ret r =>
    cases hanswer
    obtain ⟨x, hx, hi⟩ := List.any_eq_true.mp hdisplaced
    obtain ⟨i, d⟩ := x
    obtain rfl : i = 1 := of_decide_eq_true hi
    obtain ⟨v, hv, -⟩ := (hcalls 1 bulkToMax _ rfl hp rfl).2 d hx
    rw [List.length_eq_zero_iff.mp hviolations] at hv
    cases hv
  | throw e => cases hanswer
  | issue c k => cases hanswer

end IdAgents.Inbox
