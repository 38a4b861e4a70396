import Mathlib.Data.List.Sort
import IdAgents.Library.Table
import IdAgents.Scheduler.Types
import IdAgents.Library.Connection
import IdAgents.Library.Program

namespace IdAgents.Decisions
open KeyedTable AtomicProgram

inductive DecisionStatus where
  | open_ | resolved | superseded | declined
deriving DecidableEq, Repr

inductive DecisionPriority where
  | critical | high | normal | low
deriving DecidableEq, Repr

inductive SourceKind where
  | artifact | decisionDoc | task | dispatch | risk | manual
deriving DecidableEq, Repr

structure SourceRef where
  kind : SourceKind
  stableId : String
  displayId : Option String := none
  title : Option String := none
  href : Option String := none
deriving DecidableEq

structure Provenance where
  sourcePath : String
  sourceAnchor : String
  sourceHash : Option String := none
  parserVersion : String
  originatingArtifactId : Option String := none
  originatingTaskName : Option String := none
  originatingDispatchId : Option String := none
deriving DecidableEq

/-- A row of `decisions`, its references and provenance parsed. -/
structure DecisionRow where
  decisionId : String
  displayId : Option String
  title : String
  question : String
  contextExcerpt : Option String
  recommendationJson : Option String
  optionsJson : Option String
  status : DecisionStatus
  estimatedSeconds : Option Int
  priority : DecisionPriority
  owner : String
  requestedBy : Option String
  createdAt : String
  updatedAt : String
  resolvedAt : Option String
  resolvedBy : Option String
  resolutionNote : Option String
  selectedOptionId : Option String
  sourceRefs : List SourceRef
  provenance : Provenance
deriving DecidableEq

instance : Schema DecisionRow String Unit where
  key row := row.decisionId
  entry _ := none

inductive DecisionActionType where
  | createManagerTask | createDispatch | reportToManager
deriving DecidableEq, Repr

inductive DecisionEventType where
  | decided
  | action (action : DecisionActionType)
  | viewed
deriving DecidableEq

structure EventPayload where
  schemaVersion : String
  selectedOptionId : Option String := none
  action : Option DecisionActionType := none
  idempotencyKey : Option String := none
  noteMarkdown : Option String := none
  artifactId : Option String := none
  sourcePanel : Option String := none
  targetRefs : List SourceRef := []
deriving DecidableEq

structure AppendEventInput where
  decisionId : String
  eventType : DecisionEventType
  actor : String
  createdAt : String
  payload : EventPayload
deriving DecidableEq

/-- A row of `decision_events`. -/
structure DecisionEventRow extends AppendEventInput where
  eventId : String
deriving DecidableEq

instance : Schema DecisionEventRow String Unit where
  key event := event.eventId
  entry _ := none

def AppendEventInput.row (input : AppendEventInput) (eventId : String) : DecisionEventRow :=
  { input with eventId }

/-- A `decision.decided` event of the decision. -/
def DecisionEventRow.decides (event : DecisionEventRow) (decisionId : String) : Bool :=
  event.decisionId = decisionId && event.eventType = .decided

inductive DispatchVerificationStatus where
  | verified | unverified | pending
deriving DecidableEq, Repr

inductive DispatchVerificationFailureType where
  | expired | artifactMissing | artifactStale | dispatchNotFound | dispatchIdMismatch
  | rateLimited | providerError
deriving DecidableEq, Repr

inductive DispatchArtifactKind where
  | report | code | data | other
deriving DecidableEq, Repr

inductive ResultSource where
  | artifactPath | resultJson | none
deriving DecidableEq, Repr

/-- A row of `dispatch_verifications`. -/
structure DispatchVerification where
  teamId : String
  dispatchId : String
  queryId : Option String := none
  agentName : String
  provider : Provider := .other
  status : DispatchVerificationStatus
  verified : Bool := false
  failureType : Option DispatchVerificationFailureType := none
  failureDetail : Option String := none
  artifactPath : Option String := none
  artifactExists : Option Bool := none
  artifactMtime : Option String := none
  deliveryWindowStart : Option String := none
  deliveryWindowEnd : Option String := none
  promotionRequired : Bool := false
  promotionVerified : Option Bool := none
  promotionFailureDetail : Option String := none
  dispatchStatus : String
  dispatchCreatedAt : String
  dispatchStartedAt : Option String := none
  dispatchCompletedAt : Option String := none
  resultSuccess : Option Bool := none
  tlDr : Option String := none
  kind : DispatchArtifactKind := .other
  checkedAt : String
  resultSource : ResultSource := .none
deriving DecidableEq

instance : Schema DispatchVerification (String × String) Unit where
  key row := (row.teamId, row.dispatchId)
  entry _ := none

structure Tables where
  decisions : Table DecisionRow := .ofRows []
  events : Table DecisionEventRow := .ofRows []
  verifications : Table DispatchVerification := .ofRows []

structure Database extends Tables where
  others : List (Nat × String) := []

structure OtherWrite where
  sql : String
  apply : Tables → Except String Tables

structure Env where
  fails : Nat → Option String := fun _ => none
  mintEventId : Nat → String := fun step => s!"evt_{step}"

structure World where
  conn : Connection Database
  step : Nat := 0
  env : Env := {}

structure RecordDecideInput where
  decisionId : String
  selectedOptionId : String
  actor : String := "human:chris"
  idempotencyKey : String
  noteMarkdown : Option String := none
  now : String

def RecordDecideInput.resolve (input : RecordDecideInput) : Update DecisionRow where
  at_ := input.decisionId
  guard _ := true
  set row := { row with
    status := .resolved
    resolvedAt := some input.now
    resolvedBy := some input.actor
    selectedOptionId := some input.selectedOptionId
    resolutionNote := input.noteMarkdown
    updatedAt := input.now }
  key_set _ := rfl

/-- The UPDATE of an upsert: `created_at` stays, and the option where the new row has none. -/
def DecisionRow.overwrite (row : DecisionRow) : Update DecisionRow where
  at_ := row.decisionId
  guard _ := true
  set old := { row with
    decisionId := old.decisionId
    createdAt := old.createdAt
    selectedOptionId := row.selectedOptionId.or old.selectedOptionId }
  key_set _ := rfl

/-- `ON CONFLICT(team_id, dispatch_id) DO UPDATE`, which sets every other column. -/
def DispatchVerification.replace (row : DispatchVerification) : Update DispatchVerification where
  at_ := (row.teamId, row.dispatchId)
  guard _ := true
  set old := { row with teamId := old.teamId, dispatchId := old.dispatchId }
  key_set _ := rfl

inductive Query where
  | commit | rollback
  | getDecisionById (decisionId : String)
  | findDecidedEventForDecision (decisionId : String)
  | listDecisionEvents (decisionId : String)
  | insertDecision (row : DecisionRow)
  | updateDecision (row : DecisionRow)
  | resolve (input : RecordDecideInput)
  | insertEvent (input : AppendEventInput)
  | upsertVerification (row : DispatchVerification)
  | other (w : OtherWrite)

def Query.Rows : Query → Type
  | getDecisionById _ => Option DecisionRow
  | findDecidedEventForDecision _ => Option DecisionEventRow
  | listDecisionEvents _ => List DecisionEventRow
  | insertEvent _ => String
  | _ => Unit

namespace Database

variable (d : Database)

/-- `ORDER BY created_at ASC LIMIT 1` of the decided events. -/
def findDecided (decisionId : String) : Option DecisionEventRow :=
  ((d.events.rows.filter (·.decides decisionId)).insertionSort
    fun a b => a.createdAt ≤ b.createdAt).head?

/-- `ORDER BY created_at ASC, event_id ASC`. -/
def eventsOf (decisionId : String) : List DecisionEventRow :=
  (d.events.rows.filter (·.decisionId = decisionId)).insertionSort fun a b =>
    a.createdAt < b.createdAt ∨ a.createdAt = b.createdAt ∧ a.eventId ≤ b.eventId

def upsertVerification (row : DispatchVerification) : Database :=
  { d with verifications :=
      if (d.verifications.get? (row.teamId, row.dispatchId)).isSome then
        d.verifications.update row.replace
      else d.verifications.insert row }

def written (step : Nat) (w : OtherWrite) : Except String Database :=
  (w.apply d.toTables).map fun tables =>
    { toTables := tables, others := d.others ++ [(step, w.sql)] }

end Database

def Query.perform : (q : Query) → World → Except String (q.Rows × Connection Database)
  | commit, w =>
    if w.conn.isOpen then .ok ((), w.conn.commit)
    else .error "cannot commit - no transaction is active"
  | rollback, w =>
    if w.conn.isOpen then .ok ((), w.conn.rollback)
    else .error "cannot rollback - no transaction is active"
  | getDecisionById decisionId, w => .ok (w.conn.data.decisions.get? decisionId, w.conn)
  | findDecidedEventForDecision decisionId, w => .ok (w.conn.data.findDecided decisionId, w.conn)
  | listDecisionEvents decisionId, w => .ok (w.conn.data.eventsOf decisionId, w.conn)
  | insertDecision row, w =>
    if (w.conn.data.decisions.get? row.decisionId).isSome then
      .error "UNIQUE constraint failed: decisions.decision_id"
    else .ok ((), w.conn.write fun d => { d with decisions := d.decisions.insert row })
  | updateDecision row, w =>
    .ok ((), w.conn.write fun d => { d with decisions := d.decisions.update row.overwrite })
  | resolve input, w =>
    .ok ((), w.conn.write fun d => { d with decisions := d.decisions.update input.resolve })
  | insertEvent input, w =>
    let eventId := w.env.mintEventId w.step
    if (w.conn.data.events.get? eventId).isSome then
      .error "UNIQUE constraint failed: decision_events.event_id"
    else
      .ok (eventId, w.conn.write fun d => { d with events := d.events.insert (input.row eventId) })
  | upsertVerification row, w => .ok ((), w.conn.write (·.upsertVerification row))
  | other write, w =>
    (w.conn.data.written w.step write).map fun d => ((), w.conn.write fun _ => d)

def Query.outcome (q : Query) (w : World) : Except String (q.Rows × Connection Database) :=
  match w.env.fails w.step with
  | some why => .error why
  | none => q.perform w

def Query.connAfter (q : Query) (w : World) : Connection Database :=
  match q.outcome w with
  | .ok (_, conn) => conn
  | .error _ => w.conn

inductive Stmt where
  | begin_
  | query (q : Query)

inductive BeginAnswer where
  | begun | nested | failed (why : String)

def BeginAnswer.of : Option String → BeginAnswer
  | some why => failed why
  | none => begun

namespace Stmt

def Ans : Stmt → Type
  | begin_ => BeginAnswer
  | query q => Except String q.Rows

def answer : (c : Stmt) → World → c.Ans
  | begin_, w =>
    if w.conn.isOpen then BeginAnswer.nested else .of (w.env.fails w.step)
  | query q, w => (q.outcome w).map Prod.fst

def effect (c : Stmt) (w : World) : World :=
  { w with
    step := w.step + 1
    conn := match c with
      | begin_ => if (w.env.fails w.step).isSome then w.conn else w.conn.begin_
      | query q => q.connAfter w }

end Stmt

abbrev sql : Signature := ⟨Stmt, Stmt.Ans⟩

instance : Store sql World where
  answer := Stmt.answer
  effect := Stmt.effect

inductive SqlError where
  | nestedTransaction
  | failed (why : String)

abbrev Prog (α : Type) := Program sql SqlError α

def issue (c : Stmt) : Prog c.Ans := Program.stmt (S := sql) c

def ofAnswer : Except String α → Prog α
  | .ok a => .ret a
  | .error why => .throw (.failed why)

def query (q : Query) : Prog q.Rows :=
  (issue (.query q)).bind fun answer => ofAnswer (answer : Except String q.Rows)

def begin_ : Prog Unit :=
  (issue .begin_).bind fun answer =>
    match (answer : BeginAnswer) with
    | .begun => .ret ()
    | .nested => .throw .nestedTransaction
    | .failed why => .throw (.failed why)

end IdAgents.Decisions
