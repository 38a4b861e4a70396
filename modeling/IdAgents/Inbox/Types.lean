import IdAgents.Library.Dict
import IdAgents.Library.Text

namespace IdAgents.Inbox
open JsText JsMap

inductive OperatorState where
  | new | needsRoute | waitingOnAgent | outputReady | snoozed | checkedOff | filed | errored
deriving DecidableEq

inductive SourceKind where
  | email | telegram | voiceNote | forwardedInstruction | artifactComment | manualCapture | api
deriving DecidableEq

inductive LinkKind where
  | task | dispatch | artifact | filed | legacy
deriving DecidableEq

inductive Classifier where
  | rule | llm | human | «import»
deriving DecidableEq

/-- The columns of an item that operators set: its state, snooze, check-off and classification. -/
structure OperatorFields where
  operatorState : OperatorState
  snoozedUntil : Option String
  checkedOffAt : Option String
  checkedOffReason : Option String
  classificationLabel : Option String
  classificationConfidence : Option Rat
  classificationClassifier : Option Classifier
  classificationRationale : Option String
deriving DecidableEq

/-- A row of `inbox_items`. -/
structure InboxItemRow extends OperatorFields where
  inboxPhid : String
  sourceKind : SourceKind
  sourceExternalId : Option String
  sourceText : Option String
  sourceExcerpt : Option String
  sourceSubject : Option String
  sourceFrom : Option String
  projectHint : Option String
  agentHint : Option String
  originRef : Option String
  receivedAt : String
  triagedAt : Option String
  resolvedAt : Option String
  source : String
  parityStatus : String
  generatedAt : String
  projectionVersion : Nat
  legacyInboxMdLine : Option String
  legacyShadowPath : Option String
  readAt : Option String
deriving DecidableEq

structure InboxLinkRow where
  inboxPhid : String
  kind : LinkKind
  target : String
deriving DecidableEq

structure InboxAuditEvent where
  inboxPhid : String
  opId : String
  opType : String
  actorId : String
  ts : String
  reason : Option String
  summary : String
  inputRevision : Option String
  linksJson : Option String
deriving DecidableEq

structure InboxPolicyViolation where
  inboxPhid : String
  kind : String
  message : String
  severity : String
  detectedAt : String

structure InboxRoutingDecision where
  inboxPhid : String
  ruleId : Option String
  actionType : String
  actionTarget : Option String
  actorId : String
  reason : String
  inputRevision : String
  isPrimary : Bool
  decidedAt : String

structure InboxTables where
  items : Dict String InboxItemRow
  links : List InboxLinkRow
  auditEvents : List InboxAuditEvent
  policyViolations : List InboxPolicyViolation
  routingDecisions : List InboxRoutingDecision

namespace InboxTables

variable (t : InboxTables)

/-- Every column is overwritten but `read_at`, which the statement does not name. -/
def upsertInboxItem (row : InboxItemRow) : InboxTables :=
  let readAt := (t.items.get? row.inboxPhid).bind (·.readAt)
  { t with items := t.items.set row.inboxPhid { row with readAt } }

def upsertLink (link : InboxLinkRow) : InboxTables :=
  if link ∈ t.links then t else { t with links := t.links ++ [link] }

def appendAuditEvent (event : InboxAuditEvent) : InboxTables :=
  { t with auditEvents := t.auditEvents ++ [event] }

def appendPolicyViolation (violation : InboxPolicyViolation) : InboxTables :=
  { t with policyViolations := t.policyViolations ++ [violation] }

def appendRoutingDecision (decision : InboxRoutingDecision) : InboxTables :=
  let kept := if decision.isPrimary then
      t.routingDecisions.map fun d =>
        if d.inboxPhid = decision.inboxPhid then { d with isPrimary := false } else d
    else t.routingDecisions
  { t with routingDecisions := kept ++ [decision] }

/-- `UPDATE inbox_items … WHERE inbox_phid = ?` -/
def updateItem (phid : String) (f : InboxItemRow → InboxItemRow) : InboxTables :=
  match t.items.get? phid with
  | some row => { t with items := t.items.set phid (f row) }
  | none => t

@[simp] theorem upsertLink_items (link : InboxLinkRow) : (t.upsertLink link).items = t.items := by
  rw [upsertLink]
  split <;> rfl

theorem mem_upsertLink {t : InboxTables} :
    l ∈ (t.upsertLink link).links ↔ l ∈ t.links ∨ l = link := by
  rw [upsertLink]
  split
  · next h =>
    constructor
    · exact .inl
    · intro hl
      rcases hl with hl | heq
      · exact hl
      · rwa [heq]
  · exact List.mem_append.trans (or_congr_right List.mem_singleton)

theorem upsertLink_of_mem {t : InboxTables} (h : link ∈ t.links) : t.upsertLink link = t := by
  rw [upsertLink, if_pos h]

def operatorFields (phid : String) : Option OperatorFields :=
  (t.items.get? phid).map (·.toOperatorFields)

end InboxTables

end IdAgents.Inbox
