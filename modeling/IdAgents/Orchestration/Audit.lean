import IdAgents.Library.Failing
import IdAgents.Orchestration.TickWrites

namespace IdAgents.Orchestration
open JsText JsMap AtomicProgram

inductive LogAction where
  | dispatched | wouldDispatch | skipped | held | guardrailHalt | stallAlert | autoPause | refuel
  | fleetBlockage | zeroAdmitIncident | modelPolicyDriftAlert | targetUnhealthyIncident
  | autoPromote | readyMetadataRepair | targetUnhealthyReroute | staleReadyReconcile
  | lifecycleReconciliation | reconciled | wouldReconcile
deriving DecidableEq, Repr

structure LogRecord where
  itemId : Option String
  action : LogAction
  reason : String
  dispatchPhid : Option String := none
deriving DecidableEq, Repr

structure DecisionLogRow where
  tickId : String
  dryRun : Bool
  record : LogRecord
deriving DecidableEq, Repr

inductive OrchestrationIncidentKind where
  | stall | modelPolicyDrift | targetUnhealthyReadyBlocked | zeroAdmitReadyBlocked
deriving DecidableEq, Repr

def OrchestrationIncidentKind.text : OrchestrationIncidentKind → String
  | .stall => "stall"
  | .modelPolicyDrift => "model_policy_drift"
  | .targetUnhealthyReadyBlocked => "target_unhealthy_ready_blocked"
  | .zeroAdmitReadyBlocked => "zero_admit_ready_blocked"

structure Incident where
  kind : OrchestrationIncidentKind
  cause : String
  message : String
  recoveryMessage : String

structure Report where
  incident : Incident
  record : LogRecord

structure AlertIncidentState where
  kind : OrchestrationIncidentKind
  cause : String
  recoveryMessage : String
  openedAtMs : Instant
  lastAlertAtMs : Instant

/-- What is answered to the awaits of a tick that are none of the backlog's or the scheduler's, as
of a step. The guard of the model policy answers nothing where policy and directive match. -/
structure AuditEnvironment where
  modelPolicyDrift : Nat → Except String (Option Report)
  alert : Nat → String → Except String Unit
  emitNews : Nat → LogRecord → Except String Unit

structure AuditWorld where
  world : World
  incidents : Dict String AlertIncidentState
  log : List DecisionLogRow
  env : AuditEnvironment

inductive AuditStmt where
  | base (c : Stmt)
  | modelPolicyDrift
  | incidents
  | setIncidents (opened : Dict String AlertIncidentState)
  | alert (message : String)
  | emitNews (record : LogRecord)
  | insertDecision (row : DecisionLogRow)

namespace AuditStmt

def Ans : AuditStmt → Type
  | base c => c.Ans
  | modelPolicyDrift => Except String (Option Report)
  | incidents => Dict String AlertIncidentState
  | setIncidents _ => Unit
  | alert _ | emitNews _ | insertDecision _ => Except String Unit

def answer : (c : AuditStmt) → AuditWorld → c.Ans
  | base c, w => c.answer w.world
  | modelPolicyDrift, w => w.env.modelPolicyDrift w.world.step
  | incidents, w => w.incidents
  | setIncidents _, _ => ()
  | alert message, w => w.env.alert w.world.step message
  | emitNews record, w => w.env.emitNews w.world.step record
  | insertDecision _, w => Stmt.written w.world ()

def effect : AuditStmt → AuditWorld → AuditWorld
  | base c, w => { w with world := c.effect w.world }
  | setIncidents opened, w => { w with incidents := opened }
  | insertDecision row, w =>
    { w with
      log := if w.world.env.fails w.world.step then w.log else w.log ++ [row]
      world := { w.world with step := w.world.step + 1 } }
  | _, w => { w with world := { w.world with step := w.world.step + 1 } }

end AuditStmt

abbrev auditSql : Signature := ⟨AuditStmt, AuditStmt.Ans⟩

instance : Store auditSql AuditWorld where
  answer := AuditStmt.answer
  effect := AuditStmt.effect

abbrev AuditProg (α : Type) := Program auditSql String α

def ask (c : AuditStmt) : AuditProg c.Ans := Program.stmt (S := auditSql) c

def based : Prog α → AuditProg α
  | .ret a => .ret a
  | .throw e => .throw e
  | .issue c k => .issue (S := auditSql) (.base c) fun a => based (k a)

def answered : Except String α → AuditProg α
  | .ok a => .ret a
  | .error e => .throw e

def incidentAlertCooldownMs : Int := 3600000

section
-- `createHash('sha256').update(text).digest('hex')`
variable (sha256Hex : String → String)

def incidentKey (kind : OrchestrationIncidentKind) (cause : String) : String :=
  kind.text ++ ":" ++ sha256Hex cause

def alert (message : String) : AuditProg Unit := (ask (.alert message)).bind answered

def emitNews (record : LogRecord) : AuditProg Unit := (ask (.emitNews record)).bind fun _ => .ret ()

def raiseIncident (nowMs : Instant) (incident : Incident)
    (incidents : Dict String AlertIncidentState) : Option AlertIncidentState → AuditProg Bool
  | none =>
    (ask (.setIncidents (incidents.set (incidentKey sha256Hex incident.kind incident.cause)
      ⟨incident.kind, incident.cause, incident.recoveryMessage, nowMs, nowMs⟩))).bind fun _ =>
    (alert incident.message).bind fun _ => .ret true
  | some existing =>
    if incidentAlertCooldownMs ≤ nowMs - existing.lastAlertAtMs then
      (ask (.setIncidents (incidents.set (incidentKey sha256Hex incident.kind incident.cause)
        { existing with lastAlertAtMs := nowMs }))).bind fun _ =>
      (alert (incident.message ++ " Still active for " ++
        toString ((nowMs - existing.openedAtMs) / 60000) ++ " minute(s).")).bind fun _ => .ret true
    else .ret false

def alertIncident (nowMs : Instant) (incident : Incident) : AuditProg Bool :=
  (ask .incidents).bind fun (incidents : Dict String AlertIncidentState) =>
    raiseIncident sha256Hex nowMs incident incidents
      (incidents.get? (incidentKey sha256Hex incident.kind incident.cause))

def forget (incidents : Dict String AlertIncidentState) (key : String) :
    Dict String AlertIncidentState where
  entries := incidents.entries.filter (·.1 ≠ key)
  nodup := incidents.nodup.sublist (List.filter_sublist.map _)

def recoverIncident (activeIncidentKeys : List String) (incident : String × AlertIncidentState) :
    AuditProg Unit :=
  if activeIncidentKeys.contains incident.1 then .ret ()
  else (ask .incidents).bind fun (incidents : Dict String AlertIncidentState) =>
    (ask (.setIncidents (forget incidents incident.1))).bind fun _ =>
    alert incident.2.recoveryMessage

def recoverInactiveIncidents (activeIncidentKeys : List String) : AuditProg Unit :=
  (ask .incidents).bind fun (incidents : Dict String AlertIncidentState) =>
    Program.fold incidents.entries () fun _ incident => recoverIncident activeIncidentKeys incident

end

structure PlannedTick where
  tickId : String
  nowMs : Instant
  prepared : Prepared
  projection : ReadyProjection
  plan : AdmissionPlan
  gathered : List LogRecord

structure Texts where
  dispatched : PlannedTick → String → String
  tokenWarning : PlannedTick → String
  targetUnhealthy : PlannedTick → Int → Report
  zeroAdmit : PlannedTick → Int → Report
  stall : PlannedTick → Int → Report
  fleetBlockage : PlannedTick → Int → String
  watchdogRefuel : FleshRunSummary → String
  emptyPipe : PlannedTick → Option String

structure AuditDeps extends DaemonDeps where
  warnFraction : Rat
  texts : Texts

namespace PlannedTick
variable (tick : PlannedTick)

def blockerCount (code : String) : Nat :=
  tick.plan.skipped.countP fun d => d.code.getD "unknown" = code

def largestOtherBlocker (code : String) : Nat :=
  (((tick.plan.skipped.map fun d => d.code.getD "unknown").filter (· ≠ code)).map
    tick.blockerCount).foldl max 0

variable (config : DaemonConfig)

variable (zeroTicks : Int)

def targetUnhealthyReadyBlocked : Bool :=
  config.minReadyFuel ≤ tick.projection.ready.length && tick.plan.admits.isEmpty &&
    config.stallThresholdTicks ≤ zeroTicks && 0 < tick.blockerCount "target_unhealthy" &&
    tick.largestOtherBlocker "target_unhealthy" ≤ tick.blockerCount "target_unhealthy"

def zeroAdmitReadyBlocked : Bool :=
  config.stallThresholdTicks ≤ zeroTicks && !tick.projection.ready.isEmpty &&
    tick.plan.admits.isEmpty && 0 < tick.blockerCount "no_in_flight_slots"

def warnsOfTokens (deps : AuditDeps) : Bool :=
  tick.prepared.readings.state.mode = .running &&
    deps.config.dailyTokenCeiling * deps.warnFraction ≤ tick.prepared.readings.usage.dailyTokensUsed

def stallAlerts (admitted : Nat) (zeroTicks : Int) : Bool :=
  tick.prepared.readings.state.mode = .running && tick.plan.halt.isNone &&
    0 < tick.projection.ordered.length && admitted = 0 && config.stallThresholdTicks ≤ zeroTicks

def trips : Bool :=
  let inFlightCapacityFull := 0 < config.maxInFlight &&
    config.maxInFlight ≤ tick.prepared.readings.inFlight.length
  !inFlightCapacityFull && config.stallThresholdTicks ≤ zeroTicks &&
    usefulReadyCount tick.projection tick.plan < config.minReadyFuel

end PlannedTick

def FireDecision.record (tick : PlannedTick) (texts : Texts) : FireDecision → LogRecord
  | .wouldDispatch itemId => ⟨some itemId, .wouldDispatch, "dry-run: would fire", none⟩
  | .dispatched itemId dispatchPhid =>
    ⟨some itemId, .dispatched, texts.dispatched tick itemId, some dispatchPhid⟩
  | .skipped itemId reason => ⟨some itemId, .skipped, reason, none⟩

def DecisionRecord.toLog (d : DecisionRecord) : LogRecord :=
  ⟨some d.itemId, match d.action with | .skipped => .skipped | .held => .held, d.reason, none⟩

structure Book where
  records : List LogRecord
  activeIncidentKeys : List String := []

def Book.push (book : Book) (record : LogRecord) : Book :=
  { book with records := book.records ++ [record] }

section
variable (sha256Hex : String → String) (deps : AuditDeps) (tick : PlannedTick)

def Book.activate (book : Book) (incident : Incident) : Book :=
  { book with activeIncidentKeys :=
      book.activeIncidentKeys ++ [incidentKey sha256Hex incident.kind incident.cause] }

def fireAll : AuditProg (List FireDecision) :=
  if tick.plan.halt.isSome then .ret []
  else based (fireAdmitted deps.toDaemonDeps tick.projection tick.plan)

def firedBook (fired : List FireDecision) : Book where
  records := tick.gathered ++
    (match tick.plan.halt with
      | some reason => [⟨none, .guardrailHalt, reason, none⟩]
      | none => fired.map (·.record tick deps.texts)) ++
    tick.plan.skipped.map (·.toLog) ++
    if tick.warnsOfTokens deps then [⟨none, .held, deps.texts.tokenWarning tick, none⟩] else []

def reportIncident (admitted : Nat) (zeroTicks : Int) (book : Book) : AuditProg Book :=
  if tick.targetUnhealthyReadyBlocked deps.config zeroTicks then
    let report := deps.texts.targetUnhealthy tick zeroTicks
    (alertIncident sha256Hex tick.nowMs report.incident).bind fun _ =>
      .ret ((book.push report.record).activate sha256Hex report.incident)
  else if tick.zeroAdmitReadyBlocked deps.config zeroTicks then
    let report := deps.texts.zeroAdmit tick zeroTicks
    (alertIncident sha256Hex tick.nowMs report.incident).bind fun opened =>
      .ret ((if opened then book.push report.record else book).activate sha256Hex report.incident)
  else if tick.stallAlerts deps.config admitted zeroTicks then
    let report := deps.texts.stall tick zeroTicks
    (alertIncident sha256Hex tick.nowMs report.incident).bind fun _ =>
      .ret ((book.push report.record).activate sha256Hex report.incident)
  else .ret book

def watchStall (zeroTicks : Int) (book : Book) : AuditProg Book :=
  if tick.trips deps.config zeroTicks then
    let blockage : LogRecord :=
      ⟨none, .fleetBlockage, deps.texts.fleetBlockage tick zeroTicks, none⟩
    (emitNews blockage).bind fun _ =>
    if tick.prepared.refuel.isSome then .ret (book.push blockage)
    else (based (fleshPass deps.config tick.prepared.readings deps.config.maxFleshPerTick)).bind
      fun refuel => .ret (match refuel with
        | some summary =>
          (book.push blockage).push ⟨none, .refuel, deps.texts.watchdogRefuel summary, none⟩
        | none => book.push blockage)
  else .ret book

def reportEmptyPipe (book : Book) : AuditProg Book :=
  match deps.texts.emptyPipe tick with
  | none => .ret book
  | some message =>
    let record : LogRecord := ⟨none, .fleetBlockage, message, none⟩
    (emitNews record).bind fun _ => .ret (book.push record)

variable (drift : Option Report)

def reportDrift (book : Book) : AuditProg Book :=
  match drift with
  | none => .ret book
  | some report =>
    (alertIncident sha256Hex tick.nowMs report.incident).bind fun _ =>
    (emitNews report.record).bind fun _ =>
      .ret ((book.push report.record).activate sha256Hex report.incident)

def reportAll (admitted : Nat) (zeroTicks : Int) (book : Book) : AuditProg Book :=
  (reportIncident sha256Hex deps tick admitted zeroTicks book).bind fun book =>
  (watchStall deps tick zeroTicks book).bind fun book =>
  (reportEmptyPipe deps tick book).bind fun book =>
  (reportDrift sha256Hex tick drift book).bind fun book =>
  (recoverInactiveIncidents book.activeIncidentKeys).bind fun _ => .ret book

def logRecord (record : LogRecord) : AuditProg Unit :=
  (ask (.insertDecision ⟨tick.tickId, deps.config.dryRun, record⟩)).bind answered

/-- `appendDecisions`, with the records. -/
def logRecords (records : List LogRecord) : AuditProg Unit :=
  Program.fold records () fun _ record => logRecord deps tick record

def afterFiring (fired : List FireDecision) : AuditProg (Int × Nat) :=
  let admitted := fired.countP (·.isAdmitted)
  let zeroTicks := evaluateStall tick.prepared.readings.state.consecutiveZeroTicks
    tick.prepared.readings.state.mode tick.plan.halt.isSome tick.projection.ordered.length admitted
  (reportAll sha256Hex deps tick drift admitted zeroTicks (firedBook deps tick fired)).bind
    fun book =>
  (logRecords deps tick book.records).bind fun _ => .ret (zeroTicks, admitted)

def fireToLog : AuditProg (Int × Nat) :=
  (ask .modelPolicyDrift).bind fun (drift : Except String (Option Report)) =>
  (answered drift).bind fun drift =>
  (fireAll deps tick).bind (afterFiring sha256Hex deps tick drift)

def fireAndLog : AuditProg Unit :=
  (fireToLog sha256Hex deps tick).bind fun counts =>
  (ask (.base (.recordTickOutcome counts.1 (0 < counts.2 && !deps.config.dryRun)))).bind answered

end

end IdAgents.Orchestration
