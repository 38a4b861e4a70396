import IdAgents.Recurrences.Reducer

namespace IdAgents.Recurrences
open JsText JsMap

def computeIdempotencyKey (recurrencePhid scheduledFor : String) : String :=
  "recurrence:" ++ recurrencePhid ++ ":" ++ scheduledFor

namespace Planner

def mintInstancePhid (recurrencePhid scheduledFor : String) : String :=
  "phid:inst-" ++ simpleHash (recurrencePhid ++ "|" ++ scheduledFor)

end Planner

variable (template : RecurrenceTemplate)

def effectiveHorizonDays : Except String Rat :=
  let explicit := template.materializePolicy.horizonDays
  if 0 < explicit then .ok explicit else defaultHorizonForRrule template.rrule

def templateRefForKind : RecurrenceInstanceMaterializedRef :=
  match template.kind with
  | .task => { taskPhid := template.templateTaskPhid.filter (· ≠ "") }
  | .calendarEvent => { eventPhid := template.templateEventPhid.filter (· ≠ "") }
  | .schedulePrompt | .report => {}

/-- `new Date(nowMs + horizonDays * 24 * 60 * 60 * 1000)`, where it is a valid date; the fraction of
a millisecond is cut off. -/
def windowEndMs (nowMs : Instant) (horizonDays : Rat) : Option Instant :=
  let ms := nowMs + horizonDays * 24 * 60 * 60 * 1000
  timeClip (if 0 ≤ ms then ms.floor else ms.ceil)

/-- The expansion of a template over the window of a pass; `nowMs` is what `Date.parse` makes of its
`now`. -/
def expandTemplate (intl : Intl) (nowMs : Option Instant) (template : RecurrenceTemplate)
    (horizonDays : Rat) : Except String (List String) := do
  let some nowMs := nowMs | throw "RangeError"
  let some windowEndMs := windowEndMs nowMs horizonDays | throw "RangeError"
  expandRrule intl
    { rrule := template.rrule, startsOn := template.startsOn, timezone := template.timezone,
      exceptionDates := template.exceptionDates, windowStartMs := nowMs, windowEndMs }

def materializeFire (decision : GatingDecision) (scheduledFor : String) : MaterializeInstance where
  recurrencePhid := template.recurrencePhid
  instancePhid := Planner.mintInstancePhid template.recurrencePhid scheduledFor
  scheduledFor := scheduledFor
  materializedRef := templateRefForKind template
  idempotencyKey := computeIdempotencyKey template.recurrencePhid scheduledFor
  gatingReason :=
    match decision with
    | .allowed => none
    | .refused reason => some reason

structure PlanMaterializationsArgs where
  state : RecurrenceState
  nowMs : Option Instant
  gating : GatingProbe

def planFires (args : PlanMaterializationsArgs) (template : RecurrenceTemplate)
    (fires : List String) : List MaterializeInstance :=
  let existingKeys := (args.state.instances template.recurrencePhid).map (·.idempotencyKey)
  fires.filterMap fun scheduledFor =>
    if computeIdempotencyKey template.recurrencePhid scheduledFor ∈ existingKeys then none
    else some (materializeFire template (args.gating template) scheduledFor)

def planTemplate (intl : Intl) (args : PlanMaterializationsArgs) (template : RecurrenceTemplate) :
    Except String (List MaterializeInstance) := do
  if template.status ≠ .active then
    return []
  let horizonDays ← effectiveHorizonDays template
  match expandTemplate intl args.nowMs template horizonDays with
  | .error _ => return []
  | .ok fires => return planFires args template fires

def planMaterializations (intl : Intl) (args : PlanMaterializationsArgs) :
    Except String (List RecurrenceOp) := do
  let plans ← args.state.templates.values.mapM (planTemplate intl args)
  return plans.flatten.map .materializeInstance

theorem bind_eq_ok {x : Except String α} {f : α → Except String β} (h : x >>= f = .ok b) :
    ∃ a, x = .ok a ∧ f a = .ok b := by
  cases x with
  | error e => cases h
  | ok a => exact ⟨a, rfl, h⟩

def firesOf (intl : Intl) (nowMs : Option Instant) (template : RecurrenceTemplate) : List String :=
  if template.status = .active then
    match effectiveHorizonDays template >>= expandTemplate intl nowMs template with
    | .ok fires => fires
    | .error _ => []
  else []

def Stamped (text : String) : Prop := text.toList.getLast? = some 'Z'

theorem stamped_isoUtcString (ms : Instant) : Stamped (isoUtcString ms) := by
  simp [Stamped, isoUtcString]

section
variable {intl : Intl} {args : ExpandRruleArgs} {parsed : ParsedRrule} {bound : Option Instant}

theorem tryEmit_stamped
    (h : tryEmit intl args parsed bound e when_ = .ok (e', r)) (he : ∀ f ∈ e.out, Stamped f) :
    ∀ f ∈ e'.out, Stamped f := by
  unfold tryEmit at h
  dsimp only at h
  split at h
  · cases h
    exact he
  cases when_ with
  | none => cases h
  | some clock =>
    dsimp only at h
    cases hms : wallClockToUtcMillis intl clock args.timezone with
    | error m =>
      rw [hms] at h
      cases h
    | ok ms =>
      rw [hms] at h
      simp only [bind, Except.bind] at h
      split at h
      · cases h
        exact he
      split at h
      · cases h
        exact he
      split at h
      · cases h
        exact he
      split at h
      · cases h
      split at h
      · cases h
        exact he
      have hnew : ∀ f ∈ e.out ++ [isoUtcString ms], Stamped f := by
        intro f hf
        rcases List.mem_append.1 hf with hf | hf
        · exact he f hf
        · rw [List.mem_singleton.1 hf]
          exact stamped_isoUtcString ms
      split at h
      · cases h
        exact hnew
      · cases h
        exact hnew

theorem expandCursor_stamped (h : expandCursor intl args parsed bound advance n cursor e = .ok e')
    (he : ∀ f ∈ e.out, Stamped f) : ∀ f ∈ e'.out, Stamped f := by
  induction n generalizing cursor e with
  | zero =>
    cases h
    exact he
  | succ n ih =>
    rw [expandCursor] at h
    cases hemit : tryEmit intl args parsed bound e cursor with
    | error m =>
      rw [hemit] at h
      cases h
    | ok p =>
      obtain ⟨e₁, r⟩ := p
      have he₁ := tryEmit_stamped hemit he
      rw [hemit] at h
      simp only [bind, Except.bind] at h
      split at h
      · cases h
        exact he₁
      · exact ih h he₁

theorem expandWeek_stamped
    (h : expandWeek intl args parsed bound starts anchor days e = .ok (e', r))
    (he : ∀ f ∈ e.out, Stamped f) : ∀ f ∈ e'.out, Stamped f := by
  induction days generalizing e with
  | nil =>
    cases h
    exact he
  | cons wd days ih =>
    rw [expandWeek] at h
    dsimp only at h
    split at h
    · exact ih h he
    · cases hemit : tryEmit intl args parsed bound e
          (anchor.bind (addDays · (weekdayIndex wd))) with
      | error m =>
        rw [hemit] at h
        cases h
      | ok p =>
        obtain ⟨e₁, r₁⟩ := p
        have he₁ := tryEmit_stamped hemit he
        rw [hemit] at h
        simp only [bind, Except.bind] at h
        split at h
        · cases h
          exact he₁
        · exact ih h he₁

theorem expandWeeks_stamped
    (h : expandWeeks intl args parsed bound starts bydays n anchor e = .ok e')
    (he : ∀ f ∈ e.out, Stamped f) : ∀ f ∈ e'.out, Stamped f := by
  induction n generalizing anchor e with
  | zero =>
    cases h
    exact he
  | succ n ih =>
    rw [expandWeeks] at h
    dsimp only at h
    cases hweek : expandWeek intl args parsed bound starts anchor
        (bydays.mergeSort fun a b => weekdayIndex a ≤ weekdayIndex b) e with
    | error m =>
      rw [hweek] at h
      cases h
    | ok p =>
      obtain ⟨e₁, r⟩ := p
      have he₁ := expandWeek_stamped hweek he
      rw [hweek] at h
      simp only [bind, Except.bind] at h
      split at h
      · cases h
        exact he₁
      · exact ih h he₁

end

theorem expandRrule_stamped {args : ExpandRruleArgs} (h : expandRrule intl args = .ok fires) :
    ∀ f ∈ fires, Stamped f := by
  have hnone : ∀ f ∈ ({} : Expansion).out, Stamped f := by
    intro f hf
    cases hf
  rw [expandRrule] at h
  obtain ⟨parsed, _, h⟩ := bind_eq_ok h
  obtain ⟨starts, _, h⟩ := bind_eq_ok h
  obtain ⟨_, _, h⟩ := bind_eq_ok h
  obtain ⟨bound, _, h⟩ := bind_eq_ok h
  obtain ⟨e, he, h⟩ := bind_eq_ok h
  cases h
  rw [expandFreq] at he
  dsimp only at he
  split at he
  · exact expandCursor_stamped he hnone
  · exact expandWeeks_stamped he hnone
  · exact expandCursor_stamped he hnone
  · exact expandCursor_stamped he hnone

theorem firesOf_stamped {template : RecurrenceTemplate} (h : f ∈ firesOf intl nowMs template) :
    Stamped f := by
  rw [firesOf] at h
  split at h
  · split at h
    · next fires heq =>
      obtain ⟨_, _, heq⟩ := bind_eq_ok heq
      unfold expandTemplate at heq
      split at heq
      · split at heq
        · exact expandRrule_stamped heq f h
        · cases heq
      · cases heq
    · cases h
  · cases h

end IdAgents.Recurrences
