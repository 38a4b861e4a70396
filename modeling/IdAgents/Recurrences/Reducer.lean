import IdAgents.Recurrences.Rrule

namespace IdAgents.Recurrences
open JsText JsMap

/-- The readings of `new Date().toISOString()` during one operation. -/
abbrev Clock := Nat → String

def simpleHash (input : String) : String :=
  let step (h : Nat) (unit : Nat) : Nat :=
    toUint32 (roundDouble (toInt32 (h ^^^ unit) * 16777619))
  padLeft 8 (toHex ((input.toList.flatMap codeUnits).foldl step 2166136261))

namespace Reducer

def mintInstancePhid (recurrencePhid scheduledFor exceptionKind : String) : String :=
  "phid:inst-" ++ simpleHash (recurrencePhid ++ "|" ++ scheduledFor ++ "|" ++ exceptionKind)

end Reducer

def exceptionKey (recurrencePhid scheduledFor : String) (exceptionKind : ExceptionKind) : String :=
  "recurrence:" ++ recurrencePhid ++ ":" ++ scheduledFor ++ ":" ++ exceptionKind.text

def makeExceptionInstance (now : String) (template : RecurrenceTemplate)
    (exceptionKind : ExceptionKind) (reason scheduledFor : String) : RecurrenceInstance where
  instancePhid :=
    Reducer.mintInstancePhid template.recurrencePhid scheduledFor exceptionKind.text
  recurrencePhid := template.recurrencePhid
  scheduledFor := scheduledFor
  timezone := template.timezone
  status := .materialized
  materializedRef := {}
  predecessorInstancePhid := none
  idempotencyKey := exceptionKey template.recurrencePhid scheduledFor exceptionKind
  materializedAt := some now
  completedAt := none
  failureReason := none
  sourceExceptionKind := some exceptionKind
  sourceExceptionReason := some reason

/-- `Array.from(new Set(arr))` -/
def dedupe (arr : List String) : List String :=
  arr.foldl (fun seen x => if x ∈ seen then seen else seen ++ [x]) []

def pauseIfInvalidRrule (template : RecurrenceTemplate) : RecurrenceTemplate × List ApplyOpEffect :=
  match parseRrule template.rrule with
  | .ok _ => (template, [])
  | .error _ =>
    ({ template with status := .paused, failureReason := some .invalidRrule },
      [.templatePaused template.recurrencePhid .invalidRrule])

def notFound (phid : String) : String := "RecurrenceTemplate not found: " ++ phid

def applyCreate (state : RecurrenceState) (recurrence : RecurrenceTemplate) :
    Except String ApplyOpResult :=
  if state.templates.has recurrence.recurrencePhid then
    .error ("RecurrenceTemplate already exists: " ++ recurrence.recurrencePhid)
  else
    let (template, effects) := pauseIfInvalidRrule recurrence
    .ok { state := state.setTemplate template, changedTemplate := some template,
          changedInstances := [], effects }

variable (now : Clock)
section
variable (state : RecurrenceState)

def applyUpdate (recurrencePhid : String) (patch : TemplatePatch) : Except String ApplyOpResult :=
  match state.templates.get? recurrencePhid with
  | none => .error (notFound recurrencePhid)
  | some existing =>
    let updated := { patch.set existing with
      updatedAt := patch.updatedAt.getD (now 0), failureReason := none }
    let (template, effects) := pauseIfInvalidRrule updated
    .ok { state := state.setTemplate template, changedTemplate := some template,
          changedInstances := [], effects }

def applyCancel (recurrencePhid _reason : String) : Except String ApplyOpResult :=
  match state.templates.get? recurrencePhid with
  | none => .error (notFound recurrencePhid)
  | some existing =>
    let cancelled := { existing with
      status := .cancelled, failureReason := some .cancelledByOperator, updatedAt := now 0 }
    .ok { state := state.setTemplate cancelled, changedTemplate := some cancelled,
          changedInstances := [],
          effects := [.templatePaused cancelled.recurrencePhid .cancelledByOperator] }
section
variable (template : RecurrenceTemplate)

def materializedInstance (op : MaterializeInstance) : RecurrenceInstance where
  instancePhid := op.instancePhid
  recurrencePhid := op.recurrencePhid
  scheduledFor := op.scheduledFor
  timezone := template.timezone
  status := if op.gatingReason.isSome then .planned else .materialized
  materializedRef := op.materializedRef
  predecessorInstancePhid := none
  idempotencyKey := op.idempotencyKey
  materializedAt := if op.gatingReason.isSome then none else some (now 0)
  completedAt := none
  failureReason := op.gatingReason.map GatingReason.failureReason
  sourceExceptionKind := none
  sourceExceptionReason := none

def applyMaterializeInstance (op : MaterializeInstance) : Except String ApplyOpResult :=
  match state.templates.get? op.recurrencePhid with
  | none => .error (notFound op.recurrencePhid)
  | some template =>
    let existing := state.instances op.recurrencePhid
    if existing.any (·.idempotencyKey = op.idempotencyKey) then
      .ok { state, changedTemplate := none, changedInstances := [], effects := [] }
    else
      let instance_ := materializedInstance now template op
      .ok { state := state.setInstances op.recurrencePhid (existing ++ [instance_])
            changedTemplate := none
            changedInstances := [instance_]
            effects := [match op.gatingReason with
              | some reason => .instancePlannedPendingGating op.instancePhid reason.failureReason
              | none => .instanceMaterialized op.instancePhid] }

def withExceptionDate (now : String) (template : RecurrenceTemplate) (exceptionDate : String) :
    RecurrenceTemplate :=
  { template with
    exceptionDates := dedupe (template.exceptionDates ++ [exceptionDate]), updatedAt := now }

def recordSkip (exceptionDate _reason : String) : ApplyOpResult :=
  let updated := withExceptionDate (now 0) template exceptionDate
  { state := state.setTemplate updated, changedTemplate := some updated, changedInstances := [],
    effects := [.exceptionRecorded template.recurrencePhid .skip exceptionDate] }

def recordSnooze (exceptionDate reason replacementScheduledFor : String) : ApplyOpResult :=
  let updated := withExceptionDate (now 0) template exceptionDate
  let instance_ := makeExceptionInstance (now 1) template .snooze reason replacementScheduledFor
  let existing := state.instances template.recurrencePhid
  { state := (state.setTemplate updated).setInstances template.recurrencePhid
      (existing ++ [instance_])
    changedTemplate := some updated
    changedInstances := [instance_]
    effects := [.exceptionRecorded template.recurrencePhid .snooze exceptionDate] }

def recordManualFire (exceptionDate reason replacementScheduledFor : String) : ApplyOpResult :=
  let instance_ := makeExceptionInstance (now 0) template .manualFire reason replacementScheduledFor
  let existing := state.instances template.recurrencePhid
  { state := state.setInstances template.recurrencePhid (existing ++ [instance_])
    changedTemplate := none
    changedInstances := [instance_]
    effects := [.exceptionRecorded template.recurrencePhid .manualFire exceptionDate] }

def cancellable (exceptionDate : String) (i : RecurrenceInstance) : Bool :=
  i.scheduledFor.startsWith exceptionDate && i.status ≠ .cancelled && i.status ≠ .completed &&
    i.status ≠ .failed

def RecurrenceInstance.cancelled (i : RecurrenceInstance) : RecurrenceInstance :=
  { i with status := .cancelled }

def recordCancelInstance (exceptionDate : String) : ApplyOpResult :=
  let existing := state.instances template.recurrencePhid
  let targetIdx := existing.findIdx (cancellable exceptionDate)
  match existing[targetIdx]? with
  | none => { state, changedTemplate := none, changedInstances := [], effects := [] }
  | some target =>
    { state := state.setInstances template.recurrencePhid (existing.set targetIdx target.cancelled)
      changedTemplate := none
      changedInstances := [target.cancelled]
      effects := [.instanceCancelled target.instancePhid,
        .exceptionRecorded template.recurrencePhid .cancelInstance exceptionDate] }

end

def RecordException.replacement? (op : RecordException) : Option String :=
  op.replacementScheduledFor.filter (· ≠ "")

def applyRecordException (op : RecordException) : Except String ApplyOpResult :=
  match state.templates.get? op.recurrencePhid with
  | none => .error (notFound op.recurrencePhid)
  | some template =>
    match op.exceptionKind with
    | .skip => .ok (recordSkip now state template op.exceptionDate op.reason)
    | .snooze =>
      match op.replacement? with
      | none => .error "replacement_scheduled_for required for snooze"
      | some at_ => .ok (recordSnooze now state template op.exceptionDate op.reason at_)
    | .manualFire =>
      if template.materializePolicy.allowEarlyFire then
        match op.replacement? with
        | none => .error "replacement_scheduled_for required for manual_fire"
        | some at_ => .ok (recordManualFire now state template op.exceptionDate op.reason at_)
      else .error ("template " ++ template.recurrencePhid ++ " does not allow_early_fire")
    | .cancelInstance => .ok (recordCancelInstance state template op.exceptionDate)

def applyOp : RecurrenceOp → Except String ApplyOpResult
  | .create recurrence => applyCreate state recurrence
  | .update recurrencePhid patch _ => applyUpdate now state recurrencePhid patch
  | .cancel recurrencePhid _ reason => applyCancel now state recurrencePhid reason
  | .materializeInstance op => applyMaterializeInstance now state op
  | .recordException op => applyRecordException now state op

end

def RecurrenceState.after (s : RecurrenceState) (now : Clock) (op : RecurrenceOp) :
    RecurrenceState :=
  match applyOp now s op with
  | .ok r => r.state
  | .error _ => s

end IdAgents.Recurrences
