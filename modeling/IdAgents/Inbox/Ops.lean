import IdAgents.Inbox.Types

namespace IdAgents.Inbox
open JsText JsMap

/-- What an operation throws: an error, or an `InboxActionError` with its status. -/
inductive OpError where
  | error (message : String)
  | action (message : String) (status : Nat)
deriving DecidableEq

structure OpResult where
  applied : Bool
  reason : Option String
deriving DecidableEq

abbrev Op (α : Type) := Except OpError (α × InboxTables)

def validLabels : List String :=
  ["action", "reference", "idea", "crm_ref", "dispatch", "approval_needed", "duplicate", "discard"]

def isBlank (text : Option String) : Bool := text.all (trim · = "")

def auditEvent (phid opId opType actorId ts summary : String) (reason inputRevision : Option String) :
    InboxAuditEvent :=
  ⟨phid, opId, opType, actorId, ts, reason, summary, inputRevision, none⟩

/-- `randomUUID().slice(0, 8)` after a word. -/
def shortOpId (word uuid : String) : String := word ++ "-" ++ sliceUnits 8 uuid

structure ClassifyInboxItemOp where
  inboxPhid : String
  actorId : String
  ts : String
  label : String
  confidence : Option Rat
  classifier : Classifier
  ruleId : Option String
  rationale : Option String
  projectedProject : Option String
  projectedAgent : Option String
  inputRevision : String
  idempotencyKey : String

def classifierText : Classifier → String
  | .rule => "rule" | .llm => "llm" | .human => "human" | .import => "import"

def classifyRow (op : ClassifyInboxItemOp) (row : InboxItemRow) : InboxItemRow :=
  { row with
    classificationLabel := some op.label
    classificationConfidence := op.confidence
    classificationClassifier := some op.classifier
    classificationRationale := op.rationale
    projectHint := op.projectedProject.or row.projectHint
    agentHint := op.projectedAgent.or row.agentHint
    triagedAt := row.triagedAt.or (some op.ts) }

variable (t : InboxTables)

def isClassified (op : ClassifyInboxItemOp) : Bool :=
  t.auditEvents.any fun e => e.inboxPhid = op.inboxPhid && e.opType = "CLASSIFY_INBOX_ITEM" &&
    e.inputRevision = some op.inputRevision && e.opId = op.idempotencyKey

variable (numberText : Rat → String)

def classifyAudit (op : ClassifyInboxItemOp) : InboxAuditEvent :=
  auditEvent op.inboxPhid op.idempotencyKey "CLASSIFY_INBOX_ITEM" op.actorId op.ts
    ("Classified as \"" ++ op.label ++ "\" by " ++ classifierText op.classifier ++ " (confidence: " ++
      op.confidence.elim "n/a" numberText ++ ")")
    op.rationale (some op.inputRevision)

def classified (t : InboxTables) (op : ClassifyInboxItemOp) : InboxTables :=
  let written := t.updateItem op.inboxPhid (classifyRow op)
  let moved := written.updateItem op.inboxPhid fun row =>
    if row.operatorState = .new then { row with operatorState := .needsRoute } else row
  moved.appendAuditEvent (classifyAudit numberText op)

def applyClassifyInboxItem (t : InboxTables) (op : ClassifyInboxItemOp) : Op OpResult :=
  if (t.items.get? op.inboxPhid).isNone then .error (.error s!"Item not found: {op.inboxPhid}")
  else if op.label ∉ validLabels then
    .error (.error s!"Invalid classification label: {op.label}")
  else if op.confidence.any fun c => c < 0 || 1 < c then
    .error (.error "confidence must be in [0, 1]")
  else if op.classifier = .rule ∧ op.ruleId.all (· = "") then
    .error (.error "rule_id is required when classifier is \"rule\"")
  else if op.classifier ≠ .import ∧ isBlank op.rationale then
    .error (.error "rationale is required for llm/human/rule classifiers")
  else if isClassified t op then .ok (⟨false, some "idempotent_duplicate"⟩, t)
  else .ok (⟨true, none⟩, classified numberText t op)

structure ProposeRouteOp where
  inboxPhid : String
  actorId : String
  ts : String
  ruleId : Option String
  actionType : String
  actionTarget : Option String
  reason : String
  inputRevision : String
  isPrimary : Bool
  idempotencyKey : String
section
variable (op : ProposeRouteOp)

def isProposed : Bool :=
  t.routingDecisions.any fun d => d.inboxPhid = op.inboxPhid && d.actorId = op.actorId &&
    d.inputRevision = op.inputRevision && d.reason = op.reason

def proposedDecision : InboxRoutingDecision :=
  ⟨op.inboxPhid, op.ruleId, op.actionType, op.actionTarget, op.actorId, op.reason, op.inputRevision,
    op.isPrimary, op.ts⟩

def conflictingRoutes (prior : InboxRoutingDecision) (op : ProposeRouteOp) : InboxPolicyViolation :=
  ⟨op.inboxPhid, "conflicting_routes",
    "Conflicting primary routes: " ++ prior.actionType ++ "→" ++ prior.actionTarget.getD "(none)" ++
      " displaced by " ++ op.actionType ++ "→" ++ op.actionTarget.getD "(none)",
    "warning", op.ts⟩

def flagConflict (prior : Option InboxRoutingDecision) (op : ProposeRouteOp) : InboxTables :=
  match prior with
  | some d =>
    if d.actionType ≠ op.actionType ∨ d.actionTarget ≠ op.actionTarget then
      t.appendPolicyViolation (conflictingRoutes d op)
    else t
  | none => t

def proposeAudit : InboxAuditEvent :=
  auditEvent op.inboxPhid op.idempotencyKey "PROPOSE_ROUTE" op.actorId op.ts
    ("Route proposed: " ++ op.actionType ++ " → " ++ op.actionTarget.getD "(none)" ++ " (primary: " ++
      (if op.isPrimary then "true" else "false") ++ ")")
    (some op.reason) (some op.inputRevision)

def applyProposeRoute : Op OpResult :=
  if (t.items.get? op.inboxPhid).isNone then .error (.error s!"Item not found: {op.inboxPhid}")
  else if isProposed t op then .ok (⟨false, some "idempotent_duplicate"⟩, t)
  else
    let prior := if op.isPrimary then
        t.routingDecisions.find? fun d => d.inboxPhid = op.inboxPhid && d.isPrimary
      else none
    let decided := flagConflict (t.appendRoutingDecision (proposedDecision op)) prior op
    .ok (⟨true, none⟩, decided.appendAuditEvent (proposeAudit op))

end

structure SnoozeOp where
  inboxPhid : String
  actorId : String
  ts : String
  «until» : String
  reason : Option String
section
variable (uuid : String)

def applySnooze (op : SnoozeOp) : Op Unit :=
  if (t.items.get? op.inboxPhid).isNone then .error (.error s!"Item not found: {op.inboxPhid}")
  else
    let snoozed := t.updateItem op.inboxPhid fun row =>
      { row with operatorState := .snoozed, snoozedUntil := some op.until }
    .ok ((), snoozed.appendAuditEvent (auditEvent op.inboxPhid (shortOpId "snooze" uuid) "SNOOZE"
      op.actorId op.ts ("Snoozed until " ++ op.until) op.reason none))

structure CheckOffOp where
  inboxPhid : String
  actorId : String
  ts : String
  reason : Option String

def checkOff (ts reason : String) (row : InboxItemRow) : InboxItemRow :=
  { row with operatorState := .checkedOff, checkedOffAt := some ts, checkedOffReason := some reason }

def applyCheckOff (op : CheckOffOp) : Op Unit :=
  if (t.items.get? op.inboxPhid).isNone then .error (.error s!"Item not found: {op.inboxPhid}")
  else if isBlank op.reason then .error (.error "Check-off requires a reason")
  else
    let done := t.updateItem op.inboxPhid (checkOff op.ts (op.reason.getD ""))
    .ok ((), done.appendAuditEvent (auditEvent op.inboxPhid (shortOpId "checkoff" uuid) "CHECK_OFF"
      op.actorId op.ts ("Checked off: " ++ op.reason.getD "") op.reason none))

structure AuditNoteOp where
  inboxPhid : String
  actorId : String
  ts : String
  note : Option String

def applyAuditNote (op : AuditNoteOp) : Op Unit :=
  if (t.items.get? op.inboxPhid).isNone then .error (.error s!"Item not found: {op.inboxPhid}")
  else if isBlank op.note then .error (.error "Audit note requires text")
  else .ok ((), t.appendAuditEvent (auditEvent op.inboxPhid (shortOpId "note" uuid) "AUDIT_NOTE"
    op.actorId op.ts (op.note.getD "") none none))

structure EnqueueResult where
  dispatchPhid : String
  queryId : String

/-- What the backends answer an action, where they are wired: the name and id of the task that was
created, the dispatch that was enqueued, or an error. -/
structure InboxActionDeps where
  tasks : Option (Except OpError (String × String))
  enqueueDispatch : Option (Except OpError EnqueueResult)

structure TriageToTaskInput where
  inboxPhid : String
  actorId : String
  ts : String

def linkJson (kind target : String) : String :=
  "[\x7b\"kind\":\"" ++ kind ++ "\",\"target\":\"" ++ target ++ "\"\x7d]"

/-- The item is read before the task is made, and it moves on from `new` only. -/
def triageInboxToTask (deps : InboxActionDeps) (uuid : String)
    (input : TriageToTaskInput) : Op (String × String) :=
  match t.items.get? input.inboxPhid, deps.tasks with
  | none, _ => .error (.action s!"Item not found: {input.inboxPhid}" 404)
  | some _, none => .error (.action "Tasks backend not wired (no tasks repository)" 501)
  | some _, some (.error e) => .error e
  | some item, some (.ok task) =>
    let linked := t.upsertLink ⟨input.inboxPhid, .task, task.1⟩
    let moved := if item.operatorState = .new then
        linked.updateItem input.inboxPhid fun row =>
          { row with operatorState := .needsRoute, triagedAt := some input.ts }
      else linked
    .ok (task, moved.appendAuditEvent
      { auditEvent input.inboxPhid (shortOpId "triage" uuid) "TRIAGE_TO_TASK" input.actorId input.ts
          ("Triaged to task " ++ task.1) none none with linksJson := some (linkJson "task" task.1) })

structure RouteToDispatchInput where
  inboxPhid : String
  toAgent : Option String
  actorId : String
  ts : String
  reason : Option String

def routeInboxToDispatch (deps : InboxActionDeps) (uuid : String)
    (input : RouteToDispatchInput) : Op EnqueueResult :=
  match t.items.get? input.inboxPhid, deps.enqueueDispatch with
  | none, _ => .error (.action s!"Item not found: {input.inboxPhid}" 404)
  | some _, none => .error (.action "Dispatch backend not wired (no enqueueDispatch)" 501)
  | some item, some answer =>
    if isBlank input.toAgent then
      .error (.action "route requires a target agent (to_agent)" 400)
    else match answer with
      | .error e => .error e
      | .ok enq =>
        let linked := t.upsertLink ⟨input.inboxPhid, .dispatch, enq.dispatchPhid⟩
        let routed := linked.updateItem input.inboxPhid fun row =>
          { row with operatorState := .waitingOnAgent, agentHint := input.toAgent,
                     triagedAt := item.triagedAt.or (some input.ts) }
        .ok (enq, routed.appendAuditEvent
          { auditEvent input.inboxPhid (shortOpId "route" uuid) "ROUTE_TO_DISPATCH" input.actorId
              input.ts ("Routed to " ++ input.toAgent.getD "" ++ " (dispatch " ++ enq.dispatchPhid ++
                ")") input.reason none with
            linksJson := some (linkJson "dispatch" enq.dispatchPhid) })

structure MarkReadInput where
  inboxPhid : String
  actorId : String
  ts : String

def markInboxRead (input : MarkReadInput) : Op (Option String × Bool) :=
  match t.items.get? input.inboxPhid with
  | none => .error (.action s!"Item not found: {input.inboxPhid}" 404)
  | some item =>
    let readAt := item.readAt.getD input.ts
    let marked := t.updateItem input.inboxPhid fun row => { row with readAt := some readAt }
    if readAt ≠ input.ts then .ok ((some readAt, true), marked)
    else .ok ((some readAt, false), marked.appendAuditEvent
      (auditEvent input.inboxPhid (shortOpId "markread" uuid) "MARK_READ" input.actorId input.ts
        ("Marked read at " ++ readAt) none none))

end

inductive BulkInboxAction where
  | route | archive | markActed
deriving DecidableEq

structure BulkInboxRequest where
  action : BulkInboxAction
  phids : List String
  actorId : String
  ts : String
  reason : Option String
  actionType : Option String
  actionTarget : Option String
  ruleId : Option String

structure BulkItemResult where
  inboxPhid : String
  applied : Bool
  state : Option OperatorState
  reason : Option String
deriving DecidableEq

def normalizePhids : List String → List String → List String
  | _, [] => []
  | seen, raw :: rest =>
    let p := trim raw
    if p = "" ∨ p ∈ seen then normalizePhids seen rest else p :: normalizePhids (p :: seen) rest

variable (req : BulkInboxRequest)

def validateBulkInboxRequest : List String :=
  (if normalizePhids [] req.phids = [] then ["phids must contain at least one non-empty id"] else []) ++
  (if req.action = .route ∧ isBlank req.actionType then
    ["action_type is required for action \"route\""] else [])

def bulkAudit (uuid phid opType summary : String) : InboxAuditEvent :=
  auditEvent phid (shortOpId ("bulk-" ++ toLowerCase opType) uuid) opType req.actorId req.ts summary
    req.reason none

/-- `req.reason?.trim() || 'bulk mark-acted'` -/
def markActedReason : String :=
  if isBlank req.reason then "bulk mark-acted" else trim (req.reason.getD "")

def bulkDecision (phid : String) : InboxRoutingDecision :=
  ⟨phid, req.ruleId, req.actionType.getD "", req.actionTarget, req.actorId,
    req.reason.getD "bulk route", "bulk-" ++ req.ts, true, req.ts⟩

def applyOne (req : BulkInboxRequest) (uuid phid : String)
    (currentState : OperatorState) : BulkItemResult × InboxTables :=
  match req.action with
  | .archive =>
    if currentState = .filed then (⟨phid, false, none, some "already_archived"⟩, t)
    else
      let filed := t.updateItem phid fun row =>
        { row with operatorState := .filed, resolvedAt := some req.ts }
      (⟨phid, true, some .filed, none⟩, filed.appendAuditEvent
        (bulkAudit req uuid phid "ARCHIVE" "Archived (bulk) — operator_state → filed"))
  | .markActed =>
    if currentState = .checkedOff then (⟨phid, false, none, some "already_acted"⟩, t)
    else
      let acted := t.updateItem phid (checkOff req.ts (markActedReason req))
      (⟨phid, true, some .checkedOff, none⟩, acted.appendAuditEvent
        (bulkAudit req uuid phid "MARK_ACTED" ("Marked acted (bulk): " ++ markActedReason req)))
  | .route =>
    (⟨phid, true, some currentState, none⟩,
      (t.appendRoutingDecision (bulkDecision req phid)).appendAuditEvent
        (bulkAudit req uuid phid "PROPOSE_ROUTE" ("Route (bulk): " ++ req.actionType.getD "" ++ " → " ++
          req.actionTarget.getD "(none)")))

/-- One item of a batch: missing, or handled by `applyOne`. -/
def bulkItem (req : BulkInboxRequest) (uuid phid : String) : BulkItemResult × InboxTables :=
  match t.items.get? phid with
  | none => (⟨phid, false, none, some "not_found"⟩, t)
  | some item => applyOne t req uuid phid item.operatorState

def bulkItems (req : BulkInboxRequest) (uuid : String → String) :
    InboxTables → List String → List BulkItemResult × InboxTables
  | t, [] => ([], t)
  | t, phid :: phids =>
    let (result, t') := bulkItem t req (uuid phid) phid
    let (results, t'') := bulkItems req uuid t' phids
    (result :: results, t'')

structure BulkInboxSummary where
  total : Nat
  applied : Nat
  skipped : Nat
  failed : Nat

def summarizeBulk (results : List BulkItemResult) : BulkInboxSummary :=
  let applied := results.countP (·.applied)
  let failed := results.countP fun r => !r.applied && r.reason = some "not_found"
  ⟨results.length, applied, results.length - applied - failed, failed⟩

def applyBulkInboxAction (uuid : String → String) (req : BulkInboxRequest) :
    Op (BulkInboxSummary × List BulkItemResult) :=
  match validateBulkInboxRequest req with
  | [] =>
    let (results, t') := bulkItems req uuid t (normalizePhids [] req.phids)
    .ok ((summarizeBulk results, results), t')
  | errors => .error (.error ("Invalid bulk inbox request: " ++ "; ".intercalate errors))

end IdAgents.Inbox
