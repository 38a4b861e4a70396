import IdAgents.Decisions.Storage

namespace IdAgents.Decisions
open KeyedTable AtomicProgram

inductive RecordDecideResult where
  | recorded (eventId : String)
  | idempotentReplay (existing : DecisionEventRow)
  | conflict (existingSelectedOptionId : String) (existing : DecisionEventRow)
  | notFound

variable (input : RecordDecideInput)

def RecordDecideInput.existingResult (existing : DecisionEventRow) : RecordDecideResult :=
  let existingOpt := existing.payload.selectedOptionId
  if existingOpt.any (fun o => o ≠ "" && o = input.selectedOptionId) then
    .idempotentReplay existing
  else .conflict (existingOpt.getD "<unknown>") existing

def RecordDecideInput.decidedEvent : AppendEventInput where
  decisionId := input.decisionId
  eventType := .decided
  actor := input.actor
  createdAt := input.now
  payload := {
    schemaVersion := "decision.decided.v1"
    selectedOptionId := some input.selectedOptionId
    idempotencyKey := some input.idempotencyKey
    noteMarkdown := input.noteMarkdown
    sourcePanel := some "ops_decisions_queue" }

def RecordDecideInput.body : Prog RecordDecideResult :=
  (query (.resolve input)).bind fun _ =>
    (query (.insertEvent input.decidedEvent)).bind fun (eventId : String) =>
      (query .commit).bind fun _ => .ret (.recorded eventId)

def rollbackQuietly (e : SqlError) : Prog α := (issue (.query .rollback)).bind fun _ => .throw e

def recordDecideTransaction : Prog RecordDecideResult :=
  (query (.getDecisionById input.decisionId)).bind fun decision =>
    match (decision : Option DecisionRow) with
    | none => .ret .notFound
    | some _ => (query (.findDecidedEventForDecision input.decisionId)).bind fun existing =>
      match (existing : Option DecisionEventRow) with
      | some existing => .ret (input.existingResult existing)
      | none => begin_.bind fun _ => input.body.tryCatch rollbackQuietly

structure RecordActionInput where
  decisionId : String
  action : DecisionActionType
  actor : String := "human:chris"
  idempotencyKey : String
  noteMarkdown : Option String := none
  artifactId : Option String := none
  sourcePanel : Option String := none
  now : String

inductive RecordActionResult where
  | recorded (event : DecisionEventRow)
  | idempotentReplay (event : DecisionEventRow)
  | keyConflict (existing : DecisionEventRow)
  | requiresDecision (status : DecisionStatus)
  | notFound

def DecisionEventType.isAction : DecisionEventType → Bool
  | action _ => true
  | _ => false

namespace RecordActionInput

variable (input : RecordActionInput)

def event : AppendEventInput where
  decisionId := input.decisionId
  eventType := .action input.action
  actor := input.actor
  createdAt := input.now
  payload := {
    schemaVersion := "decision.action.v1"
    action := some input.action
    idempotencyKey := some input.idempotencyKey
    noteMarkdown := input.noteMarkdown
    artifactId := input.artifactId
    sourcePanel := input.sourcePanel
    targetRefs := ((input.artifactId.filter (· ≠ "")).map fun artifactId =>
      ({ kind := .artifact, stableId := artifactId } : SourceRef)).toList }

def byKey (events : List DecisionEventRow) : Option DecisionEventRow :=
  events.find? fun e =>
    e.eventType.isAction && e.payload.idempotencyKey = some input.idempotencyKey

def usedKeyResult (found : DecisionEventRow) : RecordActionResult :=
  if found.payload.action = some input.action && found.payload.artifactId = input.artifactId &&
      found.payload.noteMarkdown = input.noteMarkdown then
    .idempotentReplay found
  else .keyConflict found

end RecordActionInput

def RecordActionInput.record (input : RecordActionInput) : Prog RecordActionResult :=
  (query (.listDecisionEvents input.decisionId)).bind fun events =>
    match input.byKey (events : List DecisionEventRow) with
    | some found => .ret (input.usedKeyResult found)
    | none => (query (.insertEvent input.event)).bind fun (eventId : String) =>
      .ret (.recorded (input.event.row eventId))

def recordDecisionActionTransaction (input : RecordActionInput) : Prog RecordActionResult :=
  (query (.getDecisionById input.decisionId)).bind fun decision =>
    match (decision : Option DecisionRow) with
    | none => .ret .notFound
    | some decision =>
      if decision.status ≠ .resolved then .ret (.requiresDecision decision.status)
      else input.record

inductive UpsertOutcome where
  | inserted | updated
deriving DecidableEq, Repr

def upsertDecision (row : DecisionRow) : Prog UpsertOutcome :=
  (query (.getDecisionById row.decisionId)).bind fun existing =>
    match (existing : Option DecisionRow) with
    | none => (query (.insertDecision row)).bind fun _ => .ret .inserted
    | some _ => (query (.updateDecision row)).bind fun _ => .ret .updated

structure SummaryOpenItem where
  displayId : String
  oneLine : String
  summaryStatus : String

structure ParsedSource where
  sha256 : String → String
  sourcePath : String
  now : String
  resolved : List DecisionRow
  open_ : List SummaryOpenItem

namespace ParsedSource

variable (source : ParsedSource)

def decisionStableId (displayId : String) : String :=
  "dec_" ++ String.ofList ((source.sha256 s!"{source.sourcePath}:{displayId}").toList.take 16)

def stabilizeRow (decision : DecisionRow) : DecisionRow :=
  { decision with
    decisionId := source.decisionStableId (decision.displayId.getD "#0")
    updatedAt := source.now }

def buildOpenRow (item : SummaryOpenItem) : DecisionRow :=
  let sourceRow := source.resolved.find? (·.displayId = some item.displayId)
  let title := (sourceRow.map (·.title)).getD item.oneLine
  { decisionId := source.decisionStableId item.displayId
    displayId := some item.displayId
    title
    question := (sourceRow.map (·.question)).getD item.oneLine
    contextExcerpt := sourceRow.bind (·.contextExcerpt)
    recommendationJson := none
    optionsJson := none
    status := .open_
    estimatedSeconds := some 60
    priority := .normal
    owner := "chris"
    requestedBy := some "maestra"
    createdAt := source.now
    updatedAt := source.now
    resolvedAt := none
    resolvedBy := none
    resolutionNote := none
    selectedOptionId := none
    sourceRefs := [{
      kind := .decisionDoc, stableId := source.sourcePath, displayId := some item.displayId
      title := some title }]
    provenance := {
      sourcePath := source.sourcePath, sourceAnchor := item.displayId
      parserVersion := "decisions.producer.v1" } }

def rows : List DecisionRow :=
  source.resolved.map source.stabilizeRow ++ source.open_.map source.buildOpenRow

end ParsedSource

structure IngestResult where
  inserted : Nat := 0
  updated : Nat := 0

def IngestResult.count (result : IngestResult) : UpsertOutcome → IngestResult
  | .inserted => { result with inserted := result.inserted + 1 }
  | .updated => { result with updated := result.updated + 1 }

def ingestDecisionsFromMarkdown (source : ParsedSource) : Prog IngestResult :=
  .fold source.rows {} fun result row =>
    (upsertDecision row).bind fun outcome => .ret (result.count outcome)

def upsertMany (rows : List DispatchVerification) : Prog Unit :=
  if rows.isEmpty then .ret ()
  else begin_.bind fun _ =>
    ((Program.fold rows () fun _ row => query (.upsertVerification row)).bind fun _ =>
      query .commit).tryCatch fun e => (query .rollback).bind fun _ => .throw e

end IdAgents.Decisions
