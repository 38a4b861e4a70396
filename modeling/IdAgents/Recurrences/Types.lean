import Mathlib.Data.Rat.Defs
import IdAgents.Library.Text
import IdAgents.Library.Dict

namespace IdAgents.Recurrences
open JsText JsMap

inductive RecurrenceTemplateKind where
  | task | calendarEvent | schedulePrompt | report
deriving DecidableEq, Repr

inductive RecurrenceTemplateStatus where
  | active | paused | cancelled
deriving DecidableEq, Repr

inductive RecurrencePredecessorLink where
  | previousInstance | firstInSeries | none
deriving DecidableEq, Repr

inductive RecurrenceTemplateFailureReason where
  | invalidRrule | cancelledByOperator
deriving DecidableEq, Repr

structure MaterializePolicy where
  horizonDays : Rat
  allowEarlyFire : Bool
  requiresOperatorConfirmation : Bool
deriving DecidableEq

structure RecurrenceTemplate where
  recurrencePhid : String
  displayId : Option String
  kind : RecurrenceTemplateKind
  status : RecurrenceTemplateStatus
  title : String
  description : Option String
  timezone : String
  rrule : String
  startsOn : String
  endsOn : Option String
  exceptionDates : List String
  sourceRef : Option String
  ownerAgent : Option String
  projectPhid : Option String
  templateTaskPhid : Option String
  templateEventPhid : Option String
  templateSchedulePromptPhid : Option String
  templateArtifactKind : Option String
  requiredInputs : List String
  deliveryTargets : List String
  predecessorLink : RecurrencePredecessorLink
  materializePolicy : MaterializePolicy
  createdAt : String
  updatedAt : String
  createdBy : String
  updatedBy : String
  failureReason : Option RecurrenceTemplateFailureReason
deriving DecidableEq

/-- `Partial<RecurrenceTemplate>`: the fields a patch gives. -/
structure TemplatePatch where
  recurrencePhid : Option String := none
  displayId : Option (Option String) := none
  kind : Option RecurrenceTemplateKind := none
  status : Option RecurrenceTemplateStatus := none
  title : Option String := none
  description : Option (Option String) := none
  timezone : Option String := none
  rrule : Option String := none
  startsOn : Option String := none
  endsOn : Option (Option String) := none
  exceptionDates : Option (List String) := none
  sourceRef : Option (Option String) := none
  ownerAgent : Option (Option String) := none
  projectPhid : Option (Option String) := none
  templateTaskPhid : Option (Option String) := none
  templateEventPhid : Option (Option String) := none
  templateSchedulePromptPhid : Option (Option String) := none
  templateArtifactKind : Option (Option String) := none
  requiredInputs : Option (List String) := none
  deliveryTargets : Option (List String) := none
  predecessorLink : Option RecurrencePredecessorLink := none
  materializePolicy : Option MaterializePolicy := none
  createdAt : Option String := none
  updatedAt : Option String := none
  createdBy : Option String := none
  updatedBy : Option String := none
  failureReason : Option (Option RecurrenceTemplateFailureReason) := none
deriving DecidableEq

/-- `{ ...template, ...patch }` -/
def TemplatePatch.set (patch : TemplatePatch) (t : RecurrenceTemplate) : RecurrenceTemplate where
  recurrencePhid := patch.recurrencePhid.getD t.recurrencePhid
  displayId := patch.displayId.getD t.displayId
  kind := patch.kind.getD t.kind
  status := patch.status.getD t.status
  title := patch.title.getD t.title
  description := patch.description.getD t.description
  timezone := patch.timezone.getD t.timezone
  rrule := patch.rrule.getD t.rrule
  startsOn := patch.startsOn.getD t.startsOn
  endsOn := patch.endsOn.getD t.endsOn
  exceptionDates := patch.exceptionDates.getD t.exceptionDates
  sourceRef := patch.sourceRef.getD t.sourceRef
  ownerAgent := patch.ownerAgent.getD t.ownerAgent
  projectPhid := patch.projectPhid.getD t.projectPhid
  templateTaskPhid := patch.templateTaskPhid.getD t.templateTaskPhid
  templateEventPhid := patch.templateEventPhid.getD t.templateEventPhid
  templateSchedulePromptPhid := patch.templateSchedulePromptPhid.getD t.templateSchedulePromptPhid
  templateArtifactKind := patch.templateArtifactKind.getD t.templateArtifactKind
  requiredInputs := patch.requiredInputs.getD t.requiredInputs
  deliveryTargets := patch.deliveryTargets.getD t.deliveryTargets
  predecessorLink := patch.predecessorLink.getD t.predecessorLink
  materializePolicy := patch.materializePolicy.getD t.materializePolicy
  createdAt := patch.createdAt.getD t.createdAt
  updatedAt := patch.updatedAt.getD t.updatedAt
  createdBy := patch.createdBy.getD t.createdBy
  updatedBy := patch.updatedBy.getD t.updatedBy
  failureReason := patch.failureReason.getD t.failureReason

inductive RecurrenceInstanceStatus where
  | planned | materialized | dispatched | completed | skipped | cancelled | failed
deriving DecidableEq, Repr

structure RecurrenceInstanceMaterializedRef where
  taskPhid : Option String := none
  eventPhid : Option String := none
  dispatchId : Option String := none
  artifactPhid : Option String := none
deriving DecidableEq, Repr

inductive RecurrenceInstanceFailureReason where
  | missingTemplateRef | usageBudgetExceeded | queuedForCapacity | downstreamDispatchFailed
  | rruleNoLongerMatches
deriving DecidableEq, Repr

inductive GatingReason where
  | usageBudgetExceeded | queuedForCapacity
deriving DecidableEq, Repr

def GatingReason.failureReason : GatingReason → RecurrenceInstanceFailureReason
  | .usageBudgetExceeded => .usageBudgetExceeded
  | .queuedForCapacity => .queuedForCapacity

inductive ExceptionKind where
  | skip | snooze | manualFire | cancelInstance
deriving DecidableEq, Repr

def ExceptionKind.text : ExceptionKind → String
  | .skip => "skip" | .snooze => "snooze" | .manualFire => "manual_fire"
  | .cancelInstance => "cancel_instance"

structure RecurrenceInstance where
  instancePhid : String
  recurrencePhid : String
  scheduledFor : String
  timezone : String
  status : RecurrenceInstanceStatus
  materializedRef : RecurrenceInstanceMaterializedRef
  predecessorInstancePhid : Option String
  idempotencyKey : String
  materializedAt : Option String
  completedAt : Option String
  failureReason : Option RecurrenceInstanceFailureReason
  sourceExceptionKind : Option ExceptionKind
  sourceExceptionReason : Option String
deriving DecidableEq, Repr

structure MaterializeInstance where
  recurrencePhid : String
  instancePhid : String
  scheduledFor : String
  materializedRef : RecurrenceInstanceMaterializedRef
  idempotencyKey : String
  gatingReason : Option GatingReason := none
deriving DecidableEq

structure RecordException where
  recurrencePhid : String
  exceptionDate : String
  exceptionKind : ExceptionKind
  reason : String
  replacementScheduledFor : Option String := none
deriving DecidableEq

inductive RecurrenceOp where
  | create (recurrence : RecurrenceTemplate)
  | update (recurrencePhid : String) (patch : TemplatePatch) (reason : Option String)
  | cancel (recurrencePhid effectiveAt reason : String)
  | materializeInstance (op : MaterializeInstance)
  | recordException (op : RecordException)

structure RecurrenceState where
  templates : Dict String RecurrenceTemplate
  instancesByTemplate : Dict String (List RecurrenceInstance)
  keyed : ∀ phid t, templates.get? phid = some t → t.recurrencePhid = phid

inductive ApplyOpEffect where
  | templatePaused (recurrencePhid : String) (reason : RecurrenceTemplateFailureReason)
  | instancePlannedPendingGating (instancePhid : String) (reason : RecurrenceInstanceFailureReason)
  | instanceMaterialized (instancePhid : String)
  | instanceCancelled (instancePhid : String)
  | exceptionRecorded (recurrencePhid : String) (exceptionKind : ExceptionKind)
      (exceptionDate : String)
deriving DecidableEq

structure ApplyOpResult where
  state : RecurrenceState
  changedTemplate : Option RecurrenceTemplate
  changedInstances : List RecurrenceInstance
  effects : List ApplyOpEffect

inductive GatingDecision where
  | allowed
  | refused (reason : GatingReason)
deriving DecidableEq

abbrev GatingProbe := RecurrenceTemplate → GatingDecision

def emptyState : RecurrenceState where
  templates := .empty
  instancesByTemplate := .empty
  keyed := by
    intro phid t h
    cases h

def defaultMaterializePolicy (kind : RecurrenceTemplateKind) (horizonDays : Rat) :
    MaterializePolicy where
  horizonDays := horizonDays
  allowEarlyFire := kind = .report
  requiresOperatorConfirmation := false

section
variable (s : RecurrenceState)

/-- `instancesByTemplate.get(phid) ?? []` -/
def RecurrenceState.instances (phid : String) : List RecurrenceInstance :=
  (s.instancesByTemplate.get? phid).getD []

/-- `templates.set(t.recurrence_phid, t)` -/
def RecurrenceState.setTemplate (t : RecurrenceTemplate) : RecurrenceState where
  templates := s.templates.set t.recurrencePhid t
  instancesByTemplate := s.instancesByTemplate
  keyed := by
    intro phid u h
    rw [Dict.get?_set] at h
    split at h
    · next heq =>
      cases h
      exact heq.symm
    · exact s.keyed phid u h

/-- `instancesByTemplate.set(phid, instances)` -/
def RecurrenceState.setInstances (phid : String)
    (instances : List RecurrenceInstance) : RecurrenceState where
  templates := s.templates
  instancesByTemplate := s.instancesByTemplate.set phid instances
  keyed := s.keyed

end

namespace RecurrenceState

variable (s : RecurrenceState)

@[simp] theorem instances_setTemplate (t : RecurrenceTemplate)
    (phid : String) : (s.setTemplate t).instances phid = s.instances phid := rfl

@[simp] theorem templates_setInstances (phid : String)
    (is : List RecurrenceInstance) : (s.setInstances phid is).templates = s.templates := rfl

theorem instances_setInstances (phid p : String) (is : List RecurrenceInstance) :
    (s.setInstances phid is).instances p = if p = phid then is else s.instances p := by
  unfold instances setInstances
  rw [Dict.get?_set]
  split <;> rfl

@[simp] theorem instances_setInstances_self (phid : String)
    (is : List RecurrenceInstance) : (s.setInstances phid is).instances phid = is := by
  rw [instances_setInstances, if_pos rfl]

end RecurrenceState

end IdAgents.Recurrences
