import IdAgents.Inbox.Ops
import IdAgents.Library.Pool

namespace IdAgents.Inbox
open JsText JsMap AtomicProgram

/-- The statements of the calls that classify and route. The primary route that a call has looked up
and the call itself stand beside the UPDATE that takes the primary marks away. -/
inductive RouteStmt where
  | selectItem (phid : String)
  | selectClassified (op : ClassifyInboxItemOp)
  | updateClassification (op : ClassifyInboxItemOp)
  | updateState (phid : String) (state : OperatorState)
  | selectProposed (op : ProposeRouteOp)
  | selectPrimary (phid : String)
  | clearPrimary (caller : Nat) (decision : InboxRoutingDecision)
      (prior : Option InboxRoutingDecision)
  | insertDecision (decision : InboxRoutingDecision)
  | insertViolation (violation : InboxPolicyViolation)
  | insertAudit (event : InboxAuditEvent)

abbrev RouteStmt.Ans : RouteStmt → Type
  | selectItem _ => Option InboxItemRow
  | selectClassified _ => Bool
  | selectProposed _ => Bool
  | selectPrimary _ => Option InboxRoutingDecision
  | updateClassification _ | updateState .. | clearPrimary .. | insertDecision _
  | insertViolation _ | insertAudit _ => Unit

abbrev inboxSql : Signature := ⟨RouteStmt, RouteStmt.Ans⟩

abbrev RouteProg (α : Type) := Program inboxSql OpError α

/-- Another route. -/
def InboxRoutingDecision.Differs (d e : InboxRoutingDecision) : Prop :=
  d.actionType ≠ e.actionType ∨ d.actionTarget ≠ e.actionTarget

instance (d e : InboxRoutingDecision) : Decidable (d.Differs e) := inferInstanceAs (Decidable (_ ∨ _))

def InboxRoutingDecision.primaryOf (phid : String) (d : InboxRoutingDecision) : Bool :=
  d.inboxPhid = phid && d.isPrimary

/-- The tables, and which calls have displaced which different primary routes. -/
structure RouteStore where
  tables : InboxTables
  displaced : List (Nat × InboxRoutingDecision)

def clearPrimaries (phid : String) (decisions : List InboxRoutingDecision) :
    List InboxRoutingDecision :=
  decisions.map fun d => if d.primaryOf phid then { d with isPrimary := false } else d

def RouteStore.effect : RouteStmt → RouteStore → RouteStore
  | .updateClassification op, w => { w with tables := w.tables.updateItem op.inboxPhid (classifyRow op) }
  | .updateState phid state, w =>
    { w with tables := w.tables.updateItem phid fun row => { row with operatorState := state } }
  | .clearPrimary caller decision _, w =>
    { tables := { w.tables with
        routingDecisions := clearPrimaries decision.inboxPhid w.tables.routingDecisions }
      displaced := w.displaced ++ ((w.tables.routingDecisions.filter fun d =>
        d.primaryOf decision.inboxPhid && decide (d.Differs decision)).map fun d => (caller, d)) }
  | .insertDecision decision, w =>
    { w with tables :=
      { w.tables with routingDecisions := w.tables.routingDecisions ++ [decision] } }
  | .insertViolation violation, w => { w with tables := w.tables.appendPolicyViolation violation }
  | .insertAudit event, w => { w with tables := w.tables.appendAuditEvent event }
  | _, w => w

instance : Store inboxSql RouteStore where
  answer
    | .selectItem phid, w => w.tables.items.get? phid
    | .selectClassified op, w => isClassified w.tables op
    | .selectProposed op, w => isProposed w.tables op
    | .selectPrimary phid, w => w.tables.routingDecisions.find? (·.primaryOf phid)
    | .updateClassification _, _ => ()
    | .updateState .., _ => ()
    | .clearPrimary .., _ => ()
    | .insertDecision _, _ => ()
    | .insertViolation _, _ => ()
    | .insertAudit _, _ => ()
  effect := RouteStore.effect

variable (caller : Nat)

def appendRoutingDecision (decision : InboxRoutingDecision)
    (prior : Option InboxRoutingDecision) (k : RouteProg α) : RouteProg α :=
  if decision.isPrimary then
    .issue (.clearPrimary caller decision prior) fun _ => .issue (.insertDecision decision) fun _ => k
  else .issue (.insertDecision decision) fun _ => k

def flagDisplaced (prior : Option InboxRoutingDecision) (op : ProposeRouteOp) (k : RouteProg α) :
    RouteProg α :=
  match prior with
  | some d =>
    if d.Differs (proposedDecision op) then .issue (.insertViolation (conflictingRoutes d op)) fun _ => k
    else k
  | none => k

def requireItem (phid : String) (k : InboxItemRow → RouteProg α) : RouteProg α :=
  .issue (.selectItem phid) fun found =>
    match found with
    | none => .throw (.error s!"Item not found: {phid}")
    | some item => k item

def duplicate : OpResult := ⟨false, some "idempotent_duplicate"⟩

/-- What follows the look-up of the primary route. -/
def proposeFrom (op : ProposeRouteOp) (prior : Option InboxRoutingDecision) : RouteProg OpResult :=
  appendRoutingDecision caller (proposedDecision op) prior <| flagDisplaced prior op <|
    .issue (.insertAudit (proposeAudit op)) fun _ => .ret ⟨true, none⟩

def proposeRoute (op : ProposeRouteOp) : RouteProg OpResult :=
  requireItem op.inboxPhid fun _ => .issue (.selectProposed op) fun existing =>
    if existing then .ret duplicate
    else if op.isPrimary then .issue (.selectPrimary op.inboxPhid) fun prior => proposeFrom caller op prior
    else proposeFrom caller op none

/-- The checks of a classification that need no statement. -/
def classifyError (op : ClassifyInboxItemOp) : Option String :=
  if op.label ∉ validLabels then some s!"Invalid classification label: {op.label}"
  else if op.confidence.any fun c => c < 0 || 1 < c then some "confidence must be in [0, 1]"
  else if op.classifier = .rule ∧ op.ruleId.all (· = "") then
    some "rule_id is required when classifier is \"rule\""
  else if op.classifier ≠ .import ∧ isBlank op.rationale then
    some "rationale is required for llm/human/rule classifiers"
  else none

variable (numberText : Rat → String)

def recordClassification (op : ClassifyInboxItemOp) : RouteProg OpResult :=
  .issue (.insertAudit (classifyAudit numberText op)) fun _ => .ret ⟨true, none⟩

def classifyItem (op : ClassifyInboxItemOp) : RouteProg OpResult :=
  requireItem op.inboxPhid fun _ =>
    match classifyError op with
    | some message => .throw (.error message)
    | none => .issue (.selectClassified op) fun existing =>
      if existing then .ret duplicate
      else .issue (.updateClassification op) fun _ => .issue (.selectItem op.inboxPhid) fun item =>
        match item with
        | none => .throw (.error "Cannot read properties of null (reading 'operator_state')")
        | some item =>
          if item.operatorState = .new then
            .issue (.updateState op.inboxPhid .needsRoute) fun _ => recordClassification numberText op
          else recordClassification numberText op

/-- The route of a bulk request for one item. -/
def bulkRoute (req : BulkInboxRequest) (uuid phid : String) : RouteProg OpResult :=
  .issue (.selectItem phid) fun found =>
    match found with
    | none => .ret ⟨false, some "not_found"⟩
    | some _ =>
      appendRoutingDecision caller (bulkDecision req phid) none <|
        .issue (.insertAudit (bulkAudit req uuid phid "PROPOSE_ROUTE" ("Route (bulk): " ++
          req.actionType.getD "" ++ " → " ++ req.actionTarget.getD "(none)"))) fun _ =>
          .ret ⟨true, none⟩

inductive RouteCall where
  | propose (op : ProposeRouteOp)
  | bulk (req : BulkInboxRequest) (uuid phid : String)
  | classify (op : ClassifyInboxItemOp)

def RouteCall.prog (caller : Nat) : RouteCall → RouteProg OpResult
  | propose op => proposeRoute caller op
  | bulk req uuid phid => bulkRoute caller req uuid phid
  | classify op => classifyItem numberText op

end IdAgents.Inbox
