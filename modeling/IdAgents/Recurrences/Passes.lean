import IdAgents.Recurrences.Materialization
import IdAgents.Recurrences.Replay

namespace IdAgents.Recurrences
open JsText JsMap List RecurrenceState

def Parses (t : RecurrenceTemplate) : Prop :=
  t.status = .active → ∃ p, parseRrule t.rrule = .ok p

def Settles (s : RecurrenceState) (t : RecurrenceTemplate) : Prop :=
  (∀ u, s.templates.get? t.recurrencePhid = some u → Parses u) → Parses t

def NewKey (s : RecurrenceState) (phid : String) (i : RecurrenceInstance) : Prop :=
  (∀ j ∈ s.instances phid, j.idempotencyKey ≠ i.idempotencyKey) ∨
    ∃ at_ kind, i.idempotencyKey = exceptionKey phid at_ kind

inductive StepOf (s : RecurrenceState) : RecurrenceState → Prop where
  | idle : StepOf s s
  | template (t : RecurrenceTemplate) (ht : Settles s t) : StepOf s (s.setTemplate t)
  | append (phid : String) (i : RecurrenceInstance) (hi : NewKey s phid i) :
      StepOf s (s.setInstances phid (s.instances phid ++ [i]))
  | both (t : RecurrenceTemplate) (ht : Settles s t) (phid : String) (i : RecurrenceInstance)
      (hi : NewKey s phid i) :
      StepOf s ((s.setTemplate t).setInstances phid (s.instances phid ++ [i]))
  | rewrite (phid : String) (is : List RecurrenceInstance)
      (his : is.map (·.name) = (s.instances phid).map (·.name)) :
      StepOf s (s.setInstances phid is)

theorem parses_pauseIfInvalidRrule (t : RecurrenceTemplate) : Parses (pauseIfInvalidRrule t).1 := by
  rw [pauseIfInvalidRrule_eq]
  intro hactive
  cases h : parseRrule t.rrule with
  | ok p =>
    simp only [h]
    exact ⟨p, rfl⟩
  | error e => simp [h] at hactive

variable {s : RecurrenceState}

theorem stepOf_exception (now : Clock) (op : RecordException)
    (h : s.templates.get? op.recurrencePhid = some t) :
    StepOf s (s.after now (.recordException op)) := by
  have hphid : t.recurrencePhid = op.recurrencePhid := s.keyed _ t h
  have hsettles : ∀ now, Settles s (withExceptionDate now t op.exceptionDate) := by
    intro now hstored
    rw [← hphid] at h
    exact hstored t h
  simp only [RecurrenceState.after, applyOp, applyRecordException, h]
  cases op.exceptionKind with
  | skip => exact .template _ (hsettles _)
  | snooze =>
    cases op.replacement? with
    | none => exact .idle
    | some at_ => exact .both _ (hsettles _) _ _ (.inr ⟨at_, .snooze, rfl⟩)
  | manualFire =>
    cases t.materializePolicy.allowEarlyFire with
    | false => exact .idle
    | true =>
      cases op.replacement? with
      | none => exact .idle
      | some at_ => exact .append _ _ (.inr ⟨at_, .manualFire, rfl⟩)
  | cancelInstance =>
    have hnames := map_name_cancelFirst op.exceptionDate (s.instances t.recurrencePhid)
    simp only [recordCancelInstance]
    cases htarget : (s.instances t.recurrencePhid)[(s.instances t.recurrencePhid).findIdx
        (cancellable op.exceptionDate)]? with
    | none => exact .idle
    | some target =>
      rw [cancelFirst, htarget] at hnames
      exact .rewrite _ _ hnames

theorem stepOf_after (s : RecurrenceState) (now : Clock) (op : RecurrenceOp) :
    StepOf s (s.after now op) := by
  cases op with
  | create t =>
    simp only [RecurrenceState.after, applyOp, applyCreate]
    cases s.templates.has t.recurrencePhid with
    | true => exact .idle
    | false => exact .template _ fun _ => parses_pauseIfInvalidRrule t
  | update phid patch reason =>
    cases h : s.templates.get? phid with
    | none =>
      simp only [RecurrenceState.after, applyOp, applyUpdate, h]
      exact .idle
    | some t =>
      rw [after_update h]
      exact .template _ fun _ => parses_pauseIfInvalidRrule _
  | cancel phid effectiveAt reason =>
    simp only [RecurrenceState.after, applyOp, applyCancel]
    cases s.templates.get? phid with
    | none => exact .idle
    | some t =>
      apply StepOf.template
      intro _ hactive
      cases hactive
  | materializeInstance op =>
    simp only [RecurrenceState.after, applyOp, applyMaterializeInstance]
    cases s.templates.get? op.recurrencePhid with
    | none => exact .idle
    | some t =>
      cases hany : (s.instances op.recurrencePhid).any (·.idempotencyKey = op.idempotencyKey) with
      | true =>
        simp only [if_true]
        exact .idle
      | false =>
        apply StepOf.append
        left
        simpa [materializedInstance] using hany
  | recordException op =>
    cases h : s.templates.get? op.recurrencePhid with
    | none =>
      rw [exception_of_missing h]
      exact .idle
    | some t => exact stepOf_exception now op h

def RecurrenceState.fired (s : RecurrenceState) (phid fire : String) : Nat :=
  (s.instances phid).countP (·.idempotencyKey = computeIdempotencyKey phid fire)

structure Sound (s : RecurrenceState) : Prop where
  parses : ∀ phid t, s.templates.get? phid = some t → Parses t
  once : ∀ phid fire, Stamped fire → s.fired phid fire ≤ 1

theorem sound_emptyState : Sound emptyState where
  parses := by
    intro phid t h
    cases h
  once := fun _ _ _ => Nat.zero_le 1

theorem getLast?_append (hb : b.toList ≠ []) (a : String) :
    (a ++ b).toList.getLast? = b.toList.getLast? := by
  have happend : (a ++ b).toList = a.toList ++ b.toList := String.toList_append
  exact happend ▸ getLast?_append_of_ne_nil _ hb

theorem exceptionKey_ne (h : Stamped fire) (phid at_ : String)
    (kind : ExceptionKind) : exceptionKey phid at_ kind ≠ computeIdempotencyKey phid fire := by
  intro heq
  have hkind : kind.text.toList.getLast? ≠ some 'Z' ∧ kind.text.toList ≠ [] := by
    cases kind <;> decide
  rw [Stamped] at h
  have hfire : fire.toList ≠ [] := by
    intro hnil
    rw [hnil] at h
    cases h
  have hexception : (exceptionKey phid at_ kind).toList.getLast? = kind.text.toList.getLast? :=
    getLast?_append hkind.2 _
  have hkey : (computeIdempotencyKey phid fire).toList.getLast? = some 'Z' :=
    (getLast?_append hfire _).trans h
  rw [heq, hkey] at hexception
  exact hkind.1 hexception.symm

theorem parses_setTemplate (hs : Sound s) (ht : Settles s t) :
    ∀ phid u, (s.setTemplate t).templates.get? phid = some u → Parses u := by
  intro phid u hu
  by_cases hphid : phid = t.recurrencePhid
  · subst hphid
    rw [get?_setTemplate_self] at hu
    cases hu
    exact ht fun v hv => hs.parses _ v hv
  · rw [get?_setTemplate_ne s hphid] at hu
    exact hs.parses phid u hu

theorem fired_append {s' : RecurrenceState} (hs : Sound s) (hi : NewKey s phid i)
    (h : ∀ p, s'.instances p = if p = phid then s.instances phid ++ [i] else s.instances p) :
    ∀ p fire, Stamped fire → s'.fired p fire ≤ 1 := by
  intro p fire hfire
  have hone := hs.once p fire hfire
  rw [fired, h]
  split
  · next hp =>
    subst hp
    rw [countP_append, countP_singleton]
    split
    · next hkey =>
      have hkey : i.idempotencyKey = computeIdempotencyKey p fire := by simpa using hkey
      rcases hi with hfresh | ⟨at_, kind, hexception⟩
      · have hnone : s.fired p fire = 0 := by
          rw [fired, countP_eq_zero]
          intro j hj heq
          exact hfresh j hj (by rw [hkey]; simpa using heq)
        rw [fired] at hnone
        omega
      · rw [hexception] at hkey
        exact absurd hkey (exceptionKey_ne hfire p at_ kind)
    · exact hone
  · exact hone

theorem fired_eq_count (s : RecurrenceState) (phid fire : String) : s.fired phid fire =
      ((s.instances phid).map (·.name)).countP (·.2 = computeIdempotencyKey phid fire) := by
  rw [fired, countP_map]
  rfl

theorem StepOf.sound (h : StepOf s s') (hs : Sound s) : Sound s' := by
  cases h with
  | idle => exact hs
  | template t ht => exact ⟨parses_setTemplate hs ht, hs.once⟩
  | append phid i hi =>
    exact ⟨hs.parses, fired_append hs hi fun p => instances_setInstances ..⟩
  | both t ht phid i hi =>
    exact ⟨parses_setTemplate hs ht,
      fired_append hs hi fun p => instances_setInstances ..⟩
  | rewrite phid is his =>
    constructor
    · exact hs.parses
    · intro p fire hfire
      have hone := hs.once p fire hfire
      rw [fired_eq_count] at hone ⊢
      rw [instances_setInstances]
      split
      · next hp =>
        subst hp
        rw [his]
        exact hone
      · exact hone

def RecurrenceState.afterAll (clocks : Nat → Clock) :
    RecurrenceState → List RecurrenceOp → RecurrenceState
  | s, [] => s
  | s, op :: ops => (s.after (clocks ops.length) op).afterAll clocks ops

structure Pass where
  nowMs : Option Instant
  gating : GatingProbe
  clocks : Nat → Clock

def Pass.run (intl : Intl) (p : Pass) (s : RecurrenceState) : RecurrenceState :=
  match planMaterializations intl ⟨s, p.nowMs, p.gating⟩ with
  | .ok ops => s.afterAll p.clocks ops
  | .error _ => s

def RecurrenceInstance.Held (i : RecurrenceInstance) : Prop :=
  i.status = .planned ∧ ∃ reason : GatingReason, i.failureReason = some reason.failureReason

structure Covers (intl : Intl) (p : Pass) (s : RecurrenceState) (phid : String)
    (t : RecurrenceTemplate) (fire : String) : Prop where
  stored : s.templates.get? phid = some t
  fires : fire ∈ firesOf intl p.nowMs t

structure PassLaw (intl : Intl) (s : RecurrenceState) (p : Pass) : Prop where
  once : ∀ phid t fire, Covers intl p s phid t fire → (p.run intl s).fired phid fire = 1
  again : ∀ gating, planMaterializations intl ⟨p.run intl s, p.nowMs, gating⟩ = .ok []
  released : ∀ phid t fire, Covers intl p s phid t fire → p.gating t = .allowed →
    ∀ i ∈ s.instances phid, i.idempotencyKey = computeIdempotencyKey phid fire → i.Held →
      ∃ j ∈ (p.run intl s).instances phid,
        j.idempotencyKey = computeIdempotencyKey phid fire ∧ j.status = .materialized

def planned (intl : Intl) (args : PlanMaterializationsArgs) : List MaterializeInstance :=
  (args.state.templates.values.map fun t => planFires args t (firesOf intl args.nowMs t)).flatten

theorem planTemplate_eq (ht : Parses t) (intl : Intl) (args : PlanMaterializationsArgs) :
    planTemplate intl args t = .ok (planFires args t (firesOf intl args.nowMs t)) := by
  unfold planTemplate firesOf
  by_cases hactive : t.status = .active
  · obtain ⟨days, hdays⟩ : ∃ days, effectiveHorizonDays t = .ok days := by
      obtain ⟨p, hp⟩ := ht hactive
      simp only [effectiveHorizonDays, defaultHorizonForRrule, hp]
      split
      · exact ⟨_, rfl⟩
      · cases hfreq : p.freq <;> simp [bind, Except.bind, hfreq, pure, Except.pure]
    simp only [hactive, hdays, bind, Except.bind, ne_eq, not_true_eq_false, if_false, if_true]
    cases expandTemplate intl args.nowMs t days with
    | error e => rfl
    | ok fires => rfl
  · simp only [hactive, ne_eq, not_false_eq_true, if_true, if_false]
    rfl

theorem mapM_eq_ok {f : α → Except String β} {g : α → β} (xs : List α)
    (h : ∀ x ∈ xs, f x = .ok (g x)) : xs.mapM f = .ok (xs.map g) := by
  induction xs with
  | nil => rfl
  | cons x xs ih =>
    rw [mapM_cons, h x mem_cons_self, ih fun y hy => h y (mem_cons_of_mem _ hy)]
    rfl

theorem planMaterializations_eq {args : PlanMaterializationsArgs} (hs : Sound args.state)
    (intl : Intl) :
    planMaterializations intl args = .ok ((planned intl args).map .materializeInstance) := by
  have hplans : args.state.templates.values.mapM (planTemplate intl args) =
      .ok (args.state.templates.values.map fun t => planFires args t (firesOf intl args.nowMs t)) := by
    apply mapM_eq_ok
    intro t ht
    obtain ⟨phid, hphid⟩ := Dict.mem_values.1 ht
    exact planTemplate_eq (hs.parses phid t hphid) intl args
  rw [planMaterializations, hplans]
  rfl

theorem Pass.run_eq (hs : Sound s) (intl : Intl) (p : Pass) : p.run intl s =
      s.afterAll p.clocks ((planned intl ⟨s, p.nowMs, p.gating⟩).map .materializeInstance) := by
  rw [Pass.run, planMaterializations_eq hs]

theorem mem_planFires : op ∈ planFires args t fires ↔ ∃ fire ∈ fires,
      computeIdempotencyKey t.recurrencePhid fire ∉
          (args.state.instances t.recurrencePhid).map (·.idempotencyKey) ∧
        op = materializeFire t (args.gating t) fire := by
  simp only [planFires, mem_filterMap]
  constructor
  · rintro ⟨fire, hfire, hop⟩
    split at hop
    · cases hop
    · next hkey =>
      cases hop
      exact ⟨fire, hfire, hkey, rfl⟩
  · rintro ⟨fire, hfire, hkey, rfl⟩
    exact ⟨fire, hfire, if_neg hkey⟩

theorem after_materialize (s : RecurrenceState) (now : Clock) (op : MaterializeInstance) :
    (s.after now (.materializeInstance op)).templates = s.templates ∧
      (∀ p, s.instances p <+: (s.after now (.materializeInstance op)).instances p) ∧
      (s.templates.has op.recurrencePhid →
        ∃ i ∈ (s.after now (.materializeInstance op)).instances op.recurrencePhid,
          i.idempotencyKey = op.idempotencyKey) := by
  simp only [RecurrenceState.after, applyOp, applyMaterializeInstance, Dict.has_eq]
  cases s.templates.get? op.recurrencePhid with
  | none => exact ⟨rfl, fun _ => List.prefix_rfl, by simp⟩
  | some t =>
    cases hany : (s.instances op.recurrencePhid).any (·.idempotencyKey = op.idempotencyKey) with
    | true =>
      simp only [if_true]
      refine ⟨trivial, fun _ => List.prefix_rfl, fun _ => ?_⟩
      obtain ⟨i, hi, hkey⟩ := any_eq_true.1 hany
      exact ⟨i, hi, by simpa using hkey⟩
    | false =>
      refine ⟨rfl, ?_, fun _ => ?_⟩
      · intro p
        simp only [instances_setInstances, Bool.false_eq_true, if_false]
        split
        · next hp =>
          subst hp
          exact prefix_append _ _
        · exact prefix_rfl
      · exact ⟨materializedInstance now t op, by simp, rfl⟩

theorem afterAll_materialize (clocks : Nat → Clock) (ops : List MaterializeInstance)
    (s : RecurrenceState) :
    (s.afterAll clocks (ops.map .materializeInstance)).templates = s.templates ∧
      (∀ p, s.instances p <+: (s.afterAll clocks (ops.map .materializeInstance)).instances p) ∧
      (∀ op ∈ ops, s.templates.has op.recurrencePhid →
        ∃ i ∈ (s.afterAll clocks (ops.map .materializeInstance)).instances op.recurrencePhid,
          i.idempotencyKey = op.idempotencyKey) := by
  induction ops generalizing s with
  | nil => exact ⟨rfl, fun _ => prefix_rfl, by simp⟩
  | cons op ops ih =>
    rw [map_cons, afterAll]
    obtain ⟨htemplates, hstays, hmade⟩ :=
      after_materialize s (clocks (ops.map RecurrenceOp.materializeInstance).length) op
    obtain ⟨hrest, hkept, hmades⟩ :=
      ih (s.after (clocks (ops.map RecurrenceOp.materializeInstance).length)
        (.materializeInstance op))
    refine ⟨hrest.trans htemplates, fun p => (hstays p).trans (hkept p), ?_⟩
    intro o ho hhas
    rcases mem_cons.1 ho with rfl | ho
    · obtain ⟨i, hi, hkey⟩ := hmade hhas
      exact ⟨i, (hkept _).subset hi, hkey⟩
    · rw [← htemplates] at hhas
      exact hmades o ho hhas

theorem sound_afterAll (clocks : Nat → Clock) (ops : List RecurrenceOp)
    (hs : Sound s) : Sound (s.afterAll clocks ops) := by
  induction ops generalizing s with
  | nil => exact hs
  | cons op ops ih => exact ih ((stepOf_after s _ op).sound hs)

section
variable {intl : Intl} {s : RecurrenceState} {p : Pass}

theorem sound_run (hs : Sound s) : Sound (p.run intl s) := by
  rw [Pass.run_eq hs]
  exact sound_afterAll _ _ hs

theorem templates_run (hs : Sound s) : (p.run intl s).templates = s.templates := by
  rw [Pass.run_eq hs]
  exact (afterAll_materialize _ _ s).1

theorem prefix_run (hs : Sound s) (phid : String) :
    s.instances phid <+: (p.run intl s).instances phid := by
  rw [Pass.run_eq hs]
  exact (afterAll_materialize _ _ s).2.1 phid

theorem exists_fired (hs : Sound s) (hc : Covers intl p s phid t fire) :
    ∃ i ∈ (p.run intl s).instances phid, i.idempotencyKey = computeIdempotencyKey phid fire := by
  have hphid : t.recurrencePhid = phid := s.keyed phid t hc.stored
  by_cases hkey : computeIdempotencyKey phid fire ∈ (s.instances phid).map (·.idempotencyKey)
  · obtain ⟨i, hi, heq⟩ := mem_map.1 hkey
    exact ⟨i, (prefix_run hs phid).subset hi, heq⟩
  · have hmem : materializeFire t (p.gating t) fire ∈ planned intl ⟨s, p.nowMs, p.gating⟩ := by
      apply mem_flatten.2
      refine ⟨_, mem_map.2 ⟨t, Dict.mem_values.2 ⟨phid, hc.stored⟩, rfl⟩, ?_⟩
      rw [← hphid] at hkey
      exact mem_planFires.2 ⟨fire, hc.fires, hkey, rfl⟩
    have hhas : s.templates.has (materializeFire t (p.gating t) fire).recurrencePhid := by
      simp [materializeFire, hphid, Dict.has_eq, hc.stored]
    rw [Pass.run_eq hs]
    obtain ⟨i, hi, heq⟩ := (afterAll_materialize p.clocks _ s).2.2 _ hmem hhas
    rw [show (materializeFire t (p.gating t) fire).recurrencePhid = phid from hphid] at hi
    rw [← hphid]
    exact ⟨i, hphid ▸ hi, heq⟩

theorem fired_run (hs : Sound s) (hc : Covers intl p s phid t fire) :
    (p.run intl s).fired phid fire = 1 := by
  have hsound : Sound (p.run intl s) := sound_run hs
  have hle := hsound.once phid fire (firesOf_stamped hc.fires)
  obtain ⟨i, hi, heq⟩ := exists_fired hs hc
  have hpos : 0 < (p.run intl s).fired phid fire :=
    countP_pos_iff.2 ⟨i, hi, by simpa using heq⟩
  omega

theorem plan_again (hs : Sound s) (gating : GatingProbe) :
    planMaterializations intl ⟨p.run intl s, p.nowMs, gating⟩ = .ok [] := by
  have hnone : planned intl ⟨p.run intl s, p.nowMs, gating⟩ = [] := by
    rw [eq_nil_iff_forall_not_mem]
    intro op hop
    obtain ⟨_, hplan, hop⟩ := mem_flatten.1 hop
    obtain ⟨t, ht, rfl⟩ := mem_map.1 hplan
    obtain ⟨phid, hphid⟩ := Dict.mem_values.1 ht
    obtain ⟨fire, hfire, hkey, _⟩ := mem_planFires.1 hop
    have hname : t.recurrencePhid = phid := (p.run intl s).keyed phid t hphid
    dsimp only at hphid hfire hkey
    rw [templates_run hs] at hphid
    obtain ⟨i, hi, heq⟩ := exists_fired hs ⟨hphid, hfire⟩
    rw [hname] at hkey
    exact hkey (mem_map.2 ⟨i, hi, heq⟩)
  rw [planMaterializations_eq (sound_run hs), hnone]
  rfl

theorem held_run (hs : Sound s) (hc : Covers intl p s phid t fire) (hi : i ∈ s.instances phid)
    (hkey : i.idempotencyKey = computeIdempotencyKey phid fire)
    (hj : j ∈ (p.run intl s).instances phid)
    (hkey' : j.idempotencyKey = computeIdempotencyKey phid fire) : j = i := by
  have hsound : Sound (p.run intl s) := sound_run hs
  have hle := hsound.once phid fire (firesOf_stamped hc.fires)
  have hstays : s.instances phid <+: (p.run intl s).instances phid := prefix_run hs phid
  have hi' := hstays.subset hi
  by_contra hne
  rw [fired, countP_eq_length_filter] at hle
  have hmem : ∀ k ∈ (p.run intl s).instances phid,
      k.idempotencyKey = computeIdempotencyKey phid fire →
      k ∈ ((p.run intl s).instances phid).filter
        (·.idempotencyKey = computeIdempotencyKey phid fire) := by
    intro k hk hkk
    exact mem_filter.2 ⟨hk, by simpa using hkk⟩
  obtain ⟨k, hk⟩ := length_eq_one_iff.1
    (le_antisymm hle (length_pos_of_mem (hmem i hi' hkey)))
  have hjk := hmem j hj hkey'
  have hik := hmem i hi' hkey
  rw [hk, mem_singleton] at hjk hik
  exact hne (hjk.trans hik.symm)

end

def Releases (intl : Intl) (s : RecurrenceState) (p : Pass) : Prop :=
  ∃ phid t fire, Covers intl p s phid t fire ∧ p.gating t = .allowed ∧
    ∃ i ∈ s.instances phid, i.idempotencyKey = computeIdempotencyKey phid fire ∧ i.Held

theorem passLaw_iff (hs : Sound s) (intl : Intl) (p : Pass) :
    PassLaw intl s p ↔ ¬ Releases intl s p := by
  constructor
  · rintro hlaw ⟨phid, t, fire, hc, hallowed, i, hi, hkey, hheld⟩
    obtain ⟨j, hj, hkey', hstatus⟩ := hlaw.released phid t fire hc hallowed i hi hkey hheld
    rw [held_run hs hc hi hkey hj hkey', hheld.1] at hstatus
    cases hstatus
  · intro hnone
    constructor
    case once =>
      intro phid t fire hc
      exact fired_run hs hc
    case again =>
      intro gating
      exact plan_again hs gating
    case released =>
      intro phid t fire hc hallowed i hi hkey hheld
      exact absurd ⟨phid, t, fire, hc, hallowed, i, hi, hkey, hheld⟩ hnone

inductive Move where
  | apply (now : Clock) (op : RecurrenceOp)
  | pass (p : Pass)

def Move.run (intl : Intl) (s : RecurrenceState) : Move → RecurrenceState
  | .apply now op => s.after now op
  | .pass p => p.run intl s

def PassesLaw (intl : Intl) : RecurrenceState → List Move → Prop
  | _, [] => True
  | s, .apply now op :: rest => PassesLaw intl (Move.run intl s (.apply now op)) rest
  | s, .pass p :: rest => PassLaw intl s p ∧ PassesLaw intl (Move.run intl s (.pass p)) rest

def NoneReleased (intl : Intl) : RecurrenceState → List Move → Prop
  | _, [] => True
  | s, .apply now op :: rest => NoneReleased intl (Move.run intl s (.apply now op)) rest
  | s, .pass p :: rest =>
    ¬ Releases intl s p ∧ NoneReleased intl (Move.run intl s (.pass p)) rest

theorem passesLaw_of_sound (hs : Sound s) (intl : Intl) (run : List Move) :
    PassesLaw intl s run ↔ NoneReleased intl s run := by
  induction run generalizing s with
  | nil => exact Iff.rfl
  | cons move rest ih =>
    cases move with
    | apply now op => exact ih ((stepOf_after s now op).sound hs)
    | pass p =>
      rw [PassesLaw, NoneReleased, passLaw_iff hs]
      exact and_congr_right fun _ => ih (sound_run hs)

/-- In every run of operations and passes each covered fire has one instance and a second pass finds
nothing to plan; the held fires are released as they should be exactly when none is ever due. -/
theorem fires_once (intl : Intl) (run : List Move) :
    PassesLaw intl emptyState run ↔ NoneReleased intl emptyState run :=
  passesLaw_of_sound sound_emptyState intl run

def utcOnly : Intl where
  parts timezone ms := if timezone = "UTC" then some (utcClock ms) else none
  date timezone ms :=
    if timezone = "UTC" then some (String.ofList ((toISOString ms).toList.take 10)) else none

def saturday (decision : GatingDecision) : Pass where
  nowMs := some 1781308800000
  gating := fun _ => decision
  clocks := fun _ => midnight

/-- The report of Monday is refused once for want of capacity, and stays planned. -/
theorem not_fires_once : ¬ ∀ intl run, PassesLaw intl emptyState run := by
  intro h
  have hrun := h utcOnly [.apply midnight (.create weeklyReport),
    .pass (saturday (.refused .queuedForCapacity)), .pass (saturday .allowed)]
  let s₁ := emptyState.after midnight (.create weeklyReport)
  let s₂ := (saturday (.refused .queuedForCapacity)).run utcOnly s₁
  have hheld : s₂.instances "phid:rec-001" = [materializedInstance midnight weeklyReport
      (materializeFire weeklyReport (.refused .queuedForCapacity) "2026-06-15T00:00:00Z")] := by
    decide +kernel
  have hstored : s₂.templates.get? "phid:rec-001" = some weeklyReport := by
    rw [templates_run ((stepOf_after _ _ _).sound sound_emptyState)]
    decide +kernel
  have hfires : "2026-06-15T00:00:00Z" ∈ firesOf utcOnly (some 1781308800000) weeklyReport := by
    decide +kernel
  have hlaw : PassLaw utcOnly s₂ (saturday .allowed) := hrun.2.1
  have hsound : Sound s₂ := sound_run ((stepOf_after _ _ _).sound sound_emptyState)
  have hmem : materializedInstance midnight weeklyReport
      (materializeFire weeklyReport (.refused .queuedForCapacity) "2026-06-15T00:00:00Z") ∈
        s₂.instances "phid:rec-001" := by
    rw [hheld]
    exact mem_singleton_self _
  exact (passLaw_iff hsound _ _).1 hlaw ⟨"phid:rec-001", weeklyReport, _, ⟨hstored, hfires⟩, rfl,
    _, hmem, rfl, rfl, .queuedForCapacity, rfl⟩

end IdAgents.Recurrences
