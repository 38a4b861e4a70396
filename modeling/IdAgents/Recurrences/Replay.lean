import Mathlib.Data.List.Induction
import IdAgents.Recurrences.Reducer

namespace IdAgents.Recurrences
open JsText JsMap List

def Lawful (s : RecurrenceState) : Prop :=
  ∀ phid, ((s.instances phid).map (·.idempotencyKey)).Nodup

def RecurrenceInstance.name (i : RecurrenceInstance) : String × String :=
  (i.instancePhid, i.idempotencyKey)

def Retains (s s' : RecurrenceState) : Prop :=
  ∀ phid, (s.instances phid).map (·.name) <+: (s'.instances phid).map (·.name)

def RecurrenceTemplate.untimed (t : RecurrenceTemplate) : RecurrenceTemplate :=
  { t with updatedAt := "" }

/-- Two states that differ at most in `updated_at`. -/
structure SameUpToUpdatedAt (s s' : RecurrenceState) : Prop where
  instances : s'.instancesByTemplate = s.instancesByTemplate
  templates : s'.templates.entries.map (fun e => (e.1, e.2.untimed)) =
    s.templates.entries.map (fun e => (e.1, e.2.untimed))

structure StepLaw (s : RecurrenceState) (now : Clock) (op : RecurrenceOp) : Prop where
  lawful : Lawful (s.after now op)
  retains : Retains s (s.after now op)
  replay : ∀ again, SameUpToUpdatedAt (s.after now op) ((s.after now op).after again op)

theorem SameUpToUpdatedAt.refl (s : RecurrenceState) : SameUpToUpdatedAt s s := ⟨rfl, rfl⟩

theorem SameUpToUpdatedAt.instances_eq (h : SameUpToUpdatedAt s s') (phid : String) :
    s'.instances phid = s.instances phid := by
  rw [RecurrenceState.instances, h.instances, RecurrenceState.instances]

theorem untimed_phid {t u : RecurrenceTemplate} (h : t.untimed = u.untimed) :
    t.recurrencePhid = u.recurrencePhid := by
  have hphid := congrArg RecurrenceTemplate.recurrencePhid h
  exact hphid

variable {s : RecurrenceState}

theorem sameUpTo_setTemplate (h : s.templates.get? u.recurrencePhid = some u)
    (ht : t.untimed = u.untimed) : SameUpToUpdatedAt s (s.setTemplate t) where
  instances := rfl
  templates := by
    rw [← untimed_phid ht] at h
    exact Dict.map_entries_set RecurrenceTemplate.untimed h ht

@[simp] theorem get?_setTemplate_self (s : RecurrenceState) (t : RecurrenceTemplate) :
    (s.setTemplate t).templates.get? t.recurrencePhid = some t := Dict.get?_set_self _ _ _

theorem get?_setTemplate_ne (s : RecurrenceState) {t : RecurrenceTemplate}
    (h : phid ≠ t.recurrencePhid) :
    (s.setTemplate t).templates.get? phid = s.templates.get? phid := Dict.get?_set_ne h

theorem stepLaw_of_templates (hs : Lawful s)
    (h : (s.after now op).instancesByTemplate = s.instancesByTemplate)
    (hreplay : ∀ again, SameUpToUpdatedAt (s.after now op) ((s.after now op).after again op)) :
    StepLaw s now op := by
  have heq : ∀ phid, (s.after now op).instances phid = s.instances phid := by
    intro phid
    rw [RecurrenceState.instances, h, RecurrenceState.instances]
  constructor
  case lawful =>
    intro phid
    rw [heq]
    exact hs phid
  case retains =>
    intro phid
    exact heq phid ▸ prefix_rfl
  case replay => exact hreplay

theorem stepLaw_of_idle (hs : Lawful s) (h : ∀ again, s.after again op = s) : StepLaw s now op := by
  apply stepLaw_of_templates hs
  · rw [h]
  · intro again
    rw [h, h]
    exact .refl s

@[simp] theorem pauseIfInvalidRrule_phid (t : RecurrenceTemplate) :
    (pauseIfInvalidRrule t).1.recurrencePhid = t.recurrencePhid := by
  rw [pauseIfInvalidRrule]
  split <;> rfl

theorem create_replays (hs : Lawful s) (t : RecurrenceTemplate) : StepLaw s now (.create t) := by
  cases h : s.templates.has t.recurrencePhid with
  | true =>
    apply stepLaw_of_idle hs
    intro again
    simp [RecurrenceState.after, applyOp, applyCreate, h]
  | false =>
    have hafter : s.after now (.create t) = s.setTemplate (pauseIfInvalidRrule t).1 := by
      simp [RecurrenceState.after, applyOp, applyCreate, h]
    apply stepLaw_of_templates hs
    · rw [hafter]
      rfl
    · intro again
      have hget := get?_setTemplate_self s (pauseIfInvalidRrule t).1
      rw [pauseIfInvalidRrule_phid] at hget
      have hsame : (s.setTemplate (pauseIfInvalidRrule t).1).after again (.create t) =
          s.setTemplate (pauseIfInvalidRrule t).1 := by
        simp [RecurrenceState.after, applyOp, applyCreate, Dict.has_eq, hget]
      rw [hafter, hsame]
      exact .refl _

def updatedTemplate (now : Clock) (patch : TemplatePatch) (t : RecurrenceTemplate) :
    RecurrenceTemplate :=
  (pauseIfInvalidRrule { patch.set t with
    updatedAt := patch.updatedAt.getD (now 0), failureReason := none }).1

theorem after_update (h : s.templates.get? phid = some t) :
    s.after now (.update phid patch reason) = s.setTemplate (updatedTemplate now patch t) := by
  simp [RecurrenceState.after, applyOp, applyUpdate, h, updatedTemplate]

theorem pauseIfInvalidRrule_eq (t : RecurrenceTemplate) : (pauseIfInvalidRrule t).1 =
    match parseRrule t.rrule with
    | .ok _ => t
    | .error _ => { t with status := .paused, failureReason := some .invalidRrule } := by
  rw [pauseIfInvalidRrule]
  split <;> simp_all

theorem getD_getD (o : Option α) (x : α) : o.getD (o.getD x) = o.getD x := by
  cases o <;> rfl

theorem updatedTemplate_clock (now again : Clock) (patch : TemplatePatch) (t : RecurrenceTemplate) :
    (updatedTemplate again patch t).untimed = (updatedTemplate now patch t).untimed := by
  rw [updatedTemplate, updatedTemplate, pauseIfInvalidRrule_eq, pauseIfInvalidRrule_eq]
  dsimp only
  split <;> rfl

theorem updatedTemplate_again (now again : Clock) (patch : TemplatePatch) (t : RecurrenceTemplate) :
    (updatedTemplate again patch (updatedTemplate now patch t)).untimed =
      (updatedTemplate now patch t).untimed := by
  cases h : parseRrule (patch.rrule.getD t.rrule) with
  | ok p =>
    simp only [updatedTemplate, pauseIfInvalidRrule_eq, TemplatePatch.set, getD_getD, h,
      RecurrenceTemplate.untimed]
  | error e =>
    simp only [updatedTemplate, pauseIfInvalidRrule_eq, TemplatePatch.set, getD_getD, h,
      RecurrenceTemplate.untimed]

theorem update_replays (hs : Lawful s) (phid : String)
    (patch : TemplatePatch) (reason : Option String) :
    StepLaw s now (.update phid patch reason) := by
  cases h : s.templates.get? phid with
  | none =>
    apply stepLaw_of_idle hs
    intro again
    simp [RecurrenceState.after, applyOp, applyUpdate, h]
  | some t =>
    apply stepLaw_of_templates hs
    · rw [after_update h]
      rfl
    · intro again
      rw [after_update h]
      -- the second patch finds the patched template, or the old one where the patch renamed it
      by_cases hphid : phid = (updatedTemplate now patch t).recurrencePhid
      · have hget := get?_setTemplate_self s (updatedTemplate now patch t)
        rw [← hphid] at hget
        rw [after_update hget]
        exact sameUpTo_setTemplate (get?_setTemplate_self _ _) (updatedTemplate_again ..)
      · have hget := get?_setTemplate_ne s hphid
        rw [h] at hget
        rw [after_update hget]
        exact sameUpTo_setTemplate (get?_setTemplate_self _ _) (updatedTemplate_clock ..)

theorem cancel_replays (hs : Lawful s) (phid effectiveAt reason : String) :
    StepLaw s now (.cancel phid effectiveAt reason) := by
  cases h : s.templates.get? phid with
  | none =>
    apply stepLaw_of_idle hs
    intro again
    simp [RecurrenceState.after, applyOp, applyCancel, h]
  | some t =>
    let cancelled (now : Clock) (t : RecurrenceTemplate) : RecurrenceTemplate :=
      { t with status := .cancelled, failureReason := some .cancelledByOperator,
               updatedAt := now 0 }
    have hafter : ∀ (u : RecurrenceState) now t, u.templates.get? phid = some t →
        u.after now (.cancel phid effectiveAt reason) = u.setTemplate (cancelled now t) := by
      intro u now t ht
      simp [RecurrenceState.after, applyOp, applyCancel, ht, cancelled]
    apply stepLaw_of_templates hs
    · rw [hafter s now t h]
      rfl
    · intro again
      have hget := get?_setTemplate_self s (cancelled now t)
      rw [show (cancelled now t).recurrencePhid = phid from s.keyed phid t h] at hget
      rw [hafter s now t h, hafter _ again _ hget]
      exact sameUpTo_setTemplate (get?_setTemplate_self _ _) rfl

variable (xs : List String)

theorem dedupe_append (x : String) :
    dedupe (xs ++ [x]) = if x ∈ dedupe xs then dedupe xs else dedupe xs ++ [x] := by
  rw [dedupe, foldl_append]
  rfl

theorem mem_dedupe_append (x : String) : x ∈ dedupe (xs ++ [x]) := by
  rw [dedupe_append]
  split
  · assumption
  · simp

theorem dedupe_nodup : (dedupe xs).Nodup := by
  induction xs using reverseRecOn with
  | nil => exact nodup_nil
  | append_singleton xs x ih =>
    rw [dedupe_append]
    split
    · exact ih
    · next hx =>
      rw [← concat_eq_append]
      exact ih.concat hx

theorem dedupe_of_nodup {xs : List String} (h : xs.Nodup) : dedupe xs = xs := by
  induction xs using reverseRecOn with
  | nil => rfl
  | append_singleton xs x ih =>
    have hnodup := nodup_append.1 h
    have hx : x ∉ xs := fun hx => hnodup.2.2 x hx x (by simp) rfl
    rw [dedupe_append, ih hnodup.1, if_neg hx]

theorem withExceptionDate_again (now again : String) (t : RecurrenceTemplate) (date : String) :
    (withExceptionDate again (withExceptionDate now t date) date).untimed =
      (withExceptionDate now t date).untimed := by
  have hdates : dedupe (dedupe (t.exceptionDates ++ [date]) ++ [date]) =
      dedupe (t.exceptionDates ++ [date]) := by
    rw [dedupe_append, dedupe_of_nodup (dedupe_nodup _), if_pos (mem_dedupe_append _ _)]
  simp only [withExceptionDate, RecurrenceTemplate.untimed, hdates]

section
variable {op : RecordException}

def RecordException.appends (op : RecordException) (t : RecurrenceTemplate) : Bool :=
  match op.exceptionKind with
  | .snooze => op.replacement?.isSome
  | .manualFire => t.materializePolicy.allowEarlyFire && op.replacement?.isSome
  | .skip | .cancelInstance => false

def RecordException.targets (op : RecordException) (s : RecurrenceState) : Nat :=
  match op.exceptionKind with
  | .cancelInstance => (s.instances op.recurrencePhid).countP (cancellable op.exceptionDate)
  | .skip | .snooze | .manualFire => 0

variable {s : RecurrenceState}

theorem exception_of_missing (h : s.templates.get? op.recurrencePhid = none) (now : Clock) :
    s.after now (.recordException op) = s := by
  simp [RecurrenceState.after, applyOp, applyRecordException, h]

theorem skip_replays (hs : Lawful s)
    (h : s.templates.get? op.recurrencePhid = some t) (hkind : op.exceptionKind = .skip) :
    StepLaw s now (.recordException op) := by
  have hafter : ∀ (u : RecurrenceState) now t, u.templates.get? op.recurrencePhid = some t →
      u.after now (.recordException op) =
        u.setTemplate (withExceptionDate (now 0) t op.exceptionDate) := by
    intro u now t ht
    simp [RecurrenceState.after, applyOp, applyRecordException, ht, hkind, recordSkip]
  apply stepLaw_of_templates hs
  · rw [hafter s now t h]
    rfl
  · intro again
    have hget := get?_setTemplate_self s (withExceptionDate (now 0) t op.exceptionDate)
    rw [show (withExceptionDate (now 0) t op.exceptionDate).recurrencePhid = op.recurrencePhid
      from s.keyed _ t h] at hget
    rw [hafter s now t h, hafter _ again _ hget]
    exact sameUpTo_setTemplate (get?_setTemplate_self _ _) (withExceptionDate_again ..)

theorem after_appends (h : s.templates.get? op.recurrencePhid = some t)
    (happ : op.appends t) (now : Clock) :
    ∃ i, (s.after now (.recordException op)).instances op.recurrencePhid =
        s.instances op.recurrencePhid ++ [i] ∧
      ∃ t', (s.after now (.recordException op)).templates.get? op.recurrencePhid = some t' ∧
        op.appends t' := by
  have hphid : t.recurrencePhid = op.recurrencePhid := s.keyed _ t h
  rw [RecordException.appends] at happ
  cases hkind : op.exceptionKind with
  | skip => simp [hkind] at happ
  | cancelInstance => simp [hkind] at happ
  | snooze =>
    simp only [hkind] at happ
    obtain ⟨at_, hat⟩ := Option.isSome_iff_exists.1 happ
    have hafter : s.after now (.recordException op) =
        (recordSnooze now s t op.exceptionDate op.reason at_).state := by
      simp [RecurrenceState.after, applyOp, applyRecordException, h, hkind, hat]
    rw [hafter, recordSnooze, hphid]
    exact ⟨_, RecurrenceState.instances_setInstances_self _ _ _, _,
      by rw [RecurrenceState.templates_setInstances, ← hphid]; exact get?_setTemplate_self _ _,
      by simp [RecordException.appends, hkind, hat]⟩
  | manualFire =>
    simp only [hkind, Bool.and_eq_true] at happ
    obtain ⟨at_, hat⟩ := Option.isSome_iff_exists.1 happ.2
    have hafter : s.after now (.recordException op) =
        (recordManualFire now s t op.exceptionDate op.reason at_).state := by
      simp [RecurrenceState.after, applyOp, applyRecordException, h, hkind, hat, happ.1]
    rw [hafter, recordManualFire, hphid]
    exact ⟨_, RecurrenceState.instances_setInstances_self _ _ _, t, h,
      by simp [RecordException.appends, hkind, hat, happ.1]⟩

theorem not_replays_of_appends
    (h : s.templates.get? op.recurrencePhid = some t) (happ : op.appends t) :
    ¬ StepLaw s now (.recordException op) := by
  intro hlaw
  obtain ⟨_, _, t', ht', happ'⟩ := after_appends h happ now
  obtain ⟨i, hi, _⟩ := after_appends ht' happ' now
  have hsame := (hlaw.replay now).instances_eq op.recurrencePhid
  rw [hi] at hsame
  simpa using congrArg List.length hsame

theorem refused_replays (hs : Lawful s)
    (h : s.templates.get? op.recurrencePhid = some t) (happ : op.appends t = false)
    (hkind : op.exceptionKind = .snooze ∨ op.exceptionKind = .manualFire) :
    StepLaw s now (.recordException op) := by
  apply stepLaw_of_idle hs
  intro again
  rw [RecordException.appends] at happ
  rcases hkind with hkind | hkind
  · simp only [hkind, Option.isSome_eq_false_iff, Option.isNone_iff_eq_none] at happ
    simp [RecurrenceState.after, applyOp, applyRecordException, h, hkind, happ]
  · simp only [hkind, Bool.and_eq_false_iff, Option.isSome_eq_false_iff,
      Option.isNone_iff_eq_none] at happ
    rcases happ with hearly | hmissing
    · simp [RecurrenceState.after, applyOp, applyRecordException, h, hkind, hearly]
    · simp only [RecurrenceState.after, applyOp, applyRecordException, h, hkind, hmissing]
      split
      · next heq =>
        split at heq <;> cases heq
      · rfl

variable (date : String)

variable (is : List RecurrenceInstance)

def cancelFirst : List RecurrenceInstance :=
  match is[is.findIdx (cancellable date)]? with
  | none => is
  | some target => is.set (is.findIdx (cancellable date)) target.cancelled

@[simp] theorem cancelled_name (i : RecurrenceInstance) : i.cancelled.name = i.name := rfl

theorem not_cancellable_cancelled (i : RecurrenceInstance) :
    cancellable date i.cancelled = false := by
  simp [cancellable, RecurrenceInstance.cancelled]

theorem map_name_cancelFirst : (cancelFirst date is).map (·.name) = is.map (·.name) := by
  rw [cancelFirst]
  split
  · rfl
  · next target htarget =>
    obtain ⟨hlt, heq⟩ := List.getElem?_eq_some_iff.1 htarget
    have hlt' : is.findIdx (cancellable date) < (is.map (·.name)).length := by simpa using hlt
    have hname : target.name = (is.map (·.name))[is.findIdx (cancellable date)] := by simp [← heq]
    rw [map_set, cancelled_name, hname, set_getElem_self]

theorem countP_cancelFirst :
    (cancelFirst date is).countP (cancellable date) = is.countP (cancellable date) - 1 := by
  rw [cancelFirst]
  split
  · next hnone =>
    have hlen := getElem?_eq_none_iff.1 hnone
    have hall := findIdx_eq_length.1 (le_antisymm findIdx_le_length hlen)
    rw [countP_eq_zero.2 (by simpa using hall)]
  · next target htarget =>
    obtain ⟨hlt, heq⟩ := List.getElem?_eq_some_iff.1 htarget
    have hp : cancellable date is[is.findIdx (cancellable date)] := List.findIdx_getElem
    rw [countP_set hlt, not_cancellable_cancelled]
    simp [hp]

theorem after_cancelInstance
    (h : s.templates.get? op.recurrencePhid = some t) (hkind : op.exceptionKind = .cancelInstance)
    (now : Clock) : (s.after now (.recordException op)).templates = s.templates ∧
      (∀ p, (s.after now (.recordException op)).instances p =
        if p = op.recurrencePhid then cancelFirst op.exceptionDate (s.instances p)
        else s.instances p) ∧ (op.targets s = 0 → s.after now (.recordException op) = s) := by
  have hphid : t.recurrencePhid = op.recurrencePhid := s.keyed _ t h
  have hafter : s.after now (.recordException op) =
      (recordCancelInstance s t op.exceptionDate).state := by
    simp [RecurrenceState.after, applyOp, applyRecordException, h, hkind]
  rw [hafter, recordCancelInstance, hphid]
  split
  · next hnone =>
    refine ⟨rfl, ?_, fun _ => rfl⟩
    intro p
    split
    · next hp =>
      subst hp
      rw [cancelFirst, hnone]
    · rfl
  · next target htarget =>
    refine ⟨rfl, ?_, ?_⟩
    · intro p
      rw [RecurrenceState.instances_setInstances]
      split
      · next hp =>
        subst hp
        rw [cancelFirst, htarget]
      · rfl
    · intro hzero
      rw [RecordException.targets, hkind] at hzero
      have hidx := List.countP_eq_zero.1 hzero
      obtain ⟨hlt, heq⟩ := List.getElem?_eq_some_iff.1 htarget
      exact absurd List.findIdx_getElem (hidx _ (List.getElem_mem hlt))

theorem targets_cancelInstance
    (h : s.templates.get? op.recurrencePhid = some t) (hkind : op.exceptionKind = .cancelInstance)
    (now : Clock) : op.targets (s.after now (.recordException op)) = op.targets s - 1 := by
  rw [RecordException.targets, RecordException.targets, hkind]
  rw [(after_cancelInstance h hkind now).2.1, if_pos rfl, countP_cancelFirst]

theorem cancelInstance_replays (hs : Lawful s) (h : s.templates.get? op.recurrencePhid = some t)
    (hkind : op.exceptionKind = .cancelInstance) :
    StepLaw s now (.recordException op) ↔ op.targets s ≤ 1 := by
  obtain ⟨htemplates, hinstances, _⟩ := after_cancelInstance h hkind now
  have hget := h
  rw [← htemplates] at hget
  have hnames : ∀ p, ((s.after now (.recordException op)).instances p).map (·.name) =
      (s.instances p).map (·.name) := by
    intro p
    rw [hinstances]
    split
    · exact map_name_cancelFirst _ _
    · rfl
  constructor
  · intro hlaw
    have hsame := (hlaw.replay now).instances_eq op.recurrencePhid
    have hcount := targets_cancelInstance hget hkind now
    rw [targets_cancelInstance h hkind now] at hcount
    have hfirst := targets_cancelInstance h hkind now
    rw [RecordException.targets, RecordException.targets, hkind] at hcount hfirst
    rw [RecordException.targets, hkind]
    rw [hsame] at hcount
    omega
  · intro hone
    constructor
    case lawful =>
      intro p
      have hkeys := congrArg (List.map Prod.snd) (hnames p)
      rw [map_map, map_map] at hkeys
      exact hkeys ▸ hs p
    case retains =>
      intro p
      exact hnames p ▸ prefix_rfl
    case replay =>
      intro again
      have hzero : op.targets (s.after now (.recordException op)) = 0 := by
        rw [targets_cancelInstance h hkind now]
        omega
      rw [(after_cancelInstance hget hkind again).2.2 hzero]
      exact .refl _

end

theorem materialize_replays (hs : Lawful s) (op : MaterializeInstance) :
    StepLaw s now (.materializeInstance op) := by
  have hdup : ∀ (u : RecurrenceState), u.templates.has op.recurrencePhid →
      (u.instances op.recurrencePhid).any (·.idempotencyKey = op.idempotencyKey) →
      ∀ now, u.after now (.materializeInstance op) = u := by
    intro u hhas hany now
    rw [Dict.has_eq] at hhas
    obtain ⟨t, ht⟩ := Option.isSome_iff_exists.1 hhas
    simp only [RecurrenceState.after, applyOp, applyMaterializeInstance, ht, hany, if_true]
  cases h : s.templates.get? op.recurrencePhid with
  | none =>
    apply stepLaw_of_idle hs
    intro again
    simp [RecurrenceState.after, applyOp, applyMaterializeInstance, h]
  | some t =>
    have hhas : s.templates.has op.recurrencePhid := by simp [Dict.has_eq, h]
    cases hany : (s.instances op.recurrencePhid).any (·.idempotencyKey = op.idempotencyKey) with
    | true => exact stepLaw_of_idle hs (hdup s hhas hany)
    | false =>
      have hafter : s.after now (.materializeInstance op) = s.setInstances op.recurrencePhid
          (s.instances op.recurrencePhid ++ [materializedInstance now t op]) := by
        simp only [RecurrenceState.after, applyOp, applyMaterializeInstance, h, hany]
        rfl
      have hkey : (materializedInstance now t op).idempotencyKey = op.idempotencyKey := rfl
      constructor
      case lawful =>
        intro p
        rw [hafter, RecurrenceState.instances_setInstances]
        split
        · have hnew : ∀ i ∈ s.instances op.recurrencePhid,
              i.idempotencyKey ≠ op.idempotencyKey := by simpa using hany
          rw [map_append, map_singleton, hkey, ← concat_eq_append]
          apply List.Nodup.concat _ (hs _)
          simpa using hnew
        · exact hs p
      case retains =>
        intro p
        rw [hafter, RecurrenceState.instances_setInstances]
        split
        · next hp =>
          subst hp
          rw [map_append]
          exact prefix_append _ _
        · exact prefix_rfl
      case replay =>
        intro again
        rw [hdup (s.after now (.materializeInstance op))]
        · exact .refl _
        · rw [hafter]
          exact hhas
        · rw [hafter, RecurrenceState.instances_setInstances_self]
          simp [hkey]

def Harmless (s : RecurrenceState) : RecurrenceOp → Prop
  | .recordException op =>
    ∀ t, s.templates.get? op.recurrencePhid = some t → op.appends t = false ∧ op.targets s ≤ 1
  | .create _ | .update .. | .cancel .. | .materializeInstance _ => True

theorem stepLaw_iff (hs : Lawful s) (now : Clock) (op : RecurrenceOp) :
    StepLaw s now op ↔ Harmless s op := by
  cases op with
  | create t => exact iff_of_true (create_replays hs t) trivial
  | update phid patch reason => exact iff_of_true (update_replays hs phid patch reason) trivial
  | cancel phid effectiveAt reason =>
    exact iff_of_true (cancel_replays hs phid effectiveAt reason) trivial
  | materializeInstance op => exact iff_of_true (materialize_replays hs op) trivial
  | recordException op =>
    cases h : s.templates.get? op.recurrencePhid with
    | none =>
      apply iff_of_true
      · exact stepLaw_of_idle hs (exception_of_missing h)
      · intro t ht
        rw [h] at ht
        cases ht
    | some t =>
      have hharmless : Harmless s (.recordException op) ↔
          op.appends t = false ∧ op.targets s ≤ 1 := by
        simp [Harmless, h]
      rw [hharmless]
      cases hkind : op.exceptionKind with
      | skip =>
        apply iff_of_true (skip_replays hs h hkind)
        simp [RecordException.appends, RecordException.targets, hkind]
      | cancelInstance =>
        rw [cancelInstance_replays hs h hkind]
        simp [RecordException.appends, hkind]
      | snooze | manualFire =>
        cases happ : op.appends t with
        | true =>
          apply iff_of_false (not_replays_of_appends h happ)
          simp
        | false =>
          apply iff_of_true (refused_replays hs h happ (by simp [hkind]))
          simp [RecordException.targets, hkind]

def RunLaw : RecurrenceState → List (Clock × RecurrenceOp) → Prop
  | _, [] => True
  | s, (now, op) :: rest => StepLaw s now op ∧ RunLaw (s.after now op) rest

def RunHarmless : RecurrenceState → List (Clock × RecurrenceOp) → Prop
  | _, [] => True
  | s, (now, op) :: rest => Harmless s op ∧ RunHarmless (s.after now op) rest

/-- A run from a lawful state keeps the keys of each template distinct and every instance, and each
of its operations could be applied twice, exactly when all its operations are harmless. -/
theorem replays_harmlessly {s : RecurrenceState} (hs : Lawful s)
    (run : List (Clock × RecurrenceOp)) : RunLaw s run ↔ RunHarmless s run := by
  induction run generalizing s with
  | nil => exact Iff.rfl
  | cons move rest ih =>
    obtain ⟨now, op⟩ := move
    rw [RunLaw, RunHarmless, stepLaw_iff hs]
    apply and_congr_right
    intro hop
    exact ih ((stepLaw_iff hs now op).2 hop).lawful

def weeklyReport : RecurrenceTemplate where
  recurrencePhid := "phid:rec-001"
  displayId := none
  kind := .report
  status := .active
  title := "Weekly report"
  description := none
  timezone := "UTC"
  rrule := "FREQ=WEEKLY;BYDAY=MO"
  startsOn := "2026-06-08"
  endsOn := none
  exceptionDates := []
  sourceRef := none
  ownerAgent := none
  projectPhid := none
  templateTaskPhid := none
  templateEventPhid := none
  templateSchedulePromptPhid := none
  templateArtifactKind := none
  requiredInputs := []
  deliveryTargets := []
  predecessorLink := .none
  materializePolicy := defaultMaterializePolicy .report 7
  createdAt := "2026-06-08T00:00:00.000Z"
  updatedAt := "2026-06-08T00:00:00.000Z"
  createdBy := "manager"
  updatedBy := "manager"
  failureReason := none

def snoozeMonday : RecordException where
  recurrencePhid := "phid:rec-001"
  exceptionDate := "2026-06-15"
  exceptionKind := .snooze
  reason := "operator deferred"
  replacementScheduledFor := some "2026-06-16T12:00:00Z"

theorem lawful_emptyState : Lawful emptyState := fun _ => nodup_nil

def firstMonday : MaterializeInstance where
  recurrencePhid := "phid:rec-001"
  instancePhid := "phid:inst-001"
  scheduledFor := "2026-06-08T00:00:00Z"
  materializedRef := {}
  idempotencyKey := "recurrence:phid:rec-001:2026-06-08T00:00:00Z"

def midnight : Clock := fun _ => "2026-06-08T00:00:00.000Z"

theorem replays_harmlessly_report : Lawful emptyState ∧
    RunLaw emptyState [(midnight, .create weeklyReport),
      (midnight, .materializeInstance firstMonday), (midnight, .materializeInstance firstMonday)] :=
  ⟨lawful_emptyState,
    (replays_harmlessly lawful_emptyState _).2 ⟨trivial, trivial, trivial, trivial⟩⟩

/-- A snoozed report has its replacement twice once the snooze is replayed. -/
theorem not_replays_harmlessly : ¬ ∀ s, Lawful s → ∀ run, RunLaw s run := by
  intro h
  have hrun := h (emptyState.setTemplate weeklyReport) lawful_emptyState
    [(midnight, .recordException snoozeMonday)]
  exact not_replays_of_appends (t := weeklyReport) (get?_setTemplate_self _ _) (by decide) hrun.1

end IdAgents.Recurrences
