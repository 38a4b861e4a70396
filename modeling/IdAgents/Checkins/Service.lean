import IdAgents.Checkins.Store

namespace IdAgents.Checkins
open JsText KeyedTable AtomicProgram

def issue (c : Stmt) : Prog c.Ans := Program.stmt (S := sql) c

def thrown : Except String α → Prog α
  | .ok a => .ret a
  | .error e => .throw e

def assertSameTeamTask (taskId teamId : String) : Prog Unit :=
  (issue (.selectTasks [taskId])).bind fun (rows : List TaskRow) =>
    match rows.head? with
    | none => .throw ("linked_task_id \"" ++ taskId ++ "\" not found")
    | some task =>
      if task.teamId = some teamId then .ret ()
      else .throw ("linked_task_id \"" ++ taskId ++
        "\" belongs to a different team (cross-team checkin links are not allowed)")

def assertLinked (linkedTaskId : Option String) (teamId : String) : Prog Unit :=
  match linkedTaskId with
  | some taskId => assertSameTeamTask taskId teamId
  | none => .ret ()

variable (row : CheckinRow)

def createCheckin : Prog Unit :=
  (assertLinked row.linkedTaskId row.teamId).bind fun _ => (issue (.insert row)).bind thrown

def updateFields (id teamId : String) (fields : MutableCheckinFields) : Prog Unit :=
  (assertLinked (fields.linkedTaskId.getD none) teamId).bind fun _ =>
    issue (.updateFields id teamId fields)

def closeCheckin (id teamId : String) (closedAt : Int) (reason : String) : Prog Bool :=
  (issue (.close id teamId closedAt reason)).bind fun (rowCount : Nat) =>
    .ret (decide (0 < rowCount))

/-- `loadLinkedTasks`: no query when no row has a linked task. -/
def loadLinkedTasks (rows : List CheckinRow) : Prog (List TaskRow) :=
  match (rows.filterMap fun row => truthy row.linkedTaskId).dedup with
  | [] => .ret []
  | ids => issue (.selectTasks ids)

def shouldExhaustRecordOnlyChain (task : TaskRow) : Bool :=
  task.status = .doing && recordOnlyChainThreshold ≤ row.iterationCount &&
  row.lastFireAt.any fun fired => task.updatedAt * 1000 ≤ fired

def suppression (tasks : List TaskRow) (row : CheckinRow) : Option String := do
  let taskId ← truthy row.linkedTaskId
  let task ← tasks.find? (·.id = taskId)
  classifyCheckinRecurrenceSuppression task <|>
    if shouldExhaustRecordOnlyChain row task then some "record_only_chain_exhausted" else none

def claimRow (now : Int) (tasks : List TaskRow) (claimed : List CheckinRow) (row : CheckinRow) :
    Prog (List CheckinRow) :=
  match suppression tasks row with
  | some reason => (closeCheckin row.id row.teamId now reason).bind fun _ => .ret claimed
  | none => .ret (claimed ++ [row])

def claimDue (teamId : String) (now limit : Int) : Prog (List CheckinRow) :=
  (issue (.closeTaskTerminal teamId now)).bind fun _ =>
  (issue (.closeRecordOnly teamId now)).bind fun _ =>
  (issue (.selectDue teamId now limit)).bind fun (due : List CheckinRow) =>
  (loadLinkedTasks due).bind fun tasks => Program.fold due [] (claimRow now tasks)

def jsonOpt (s : Option String) : Json := (s.map Json.str).getD .null

def jsonInt (n : Int) : Json := .num (toString n)

def jsonOptInt (n : Option Int) : Json := (n.map jsonInt).getD .null

def checkinClosed : String := "checkin:closed"

def taskCompleted : String := "task:completed"

def checkinEvent (teamId topic : String) (actor : Option String) (checkinId : String)
    (occurredAt : Int) (data : List (String × Json)) : EventEntry where
  teamId := teamId
  topic := topic
  actorAgentId := actor
  subjectKind := some "checkin"
  subjectId := some checkinId
  occurredAt := occurredAt
  data := .obj (("checkin_id", .str checkinId) :: data)

def emit (event : EventEntry) : Prog Int := (issue (.insertEvent event)).bind thrown

def emitCheckinCreated (createdBy : Option String) (occurredAt : Int) : Prog Int :=
  emit <| checkinEvent row.teamId "checkin:created" (createdBy <|> row.ownerAgentId) row.id occurredAt
    [("status", .str "active"), ("owner", jsonOpt row.ownerAgentId),
     ("linked_task_id", jsonOpt row.linkedTaskId), ("priority", .str row.priority.text),
     ("interval_seconds", jsonInt row.intervalSeconds),
     ("max_iterations", jsonOptInt row.maxIterations), ("next_fire_at", jsonOptInt row.nextFireAt),
     ("ttl_expires_at", jsonOptInt row.ttlExpiresAt), ("created_at", jsonInt occurredAt)]

structure CheckinClosedInput where
  teamId : String
  checkinId : String
  ownerAgentId : Option String
  linkedTaskId : Option String
  reason : String
  actorAgentId : Option String
  terminalTopic : Option String
  taskStatus : Option String
  occurredAt : Int

variable (input : CheckinClosedInput)

def checkinClosedEvent : EventEntry :=
  checkinEvent input.teamId checkinClosed (input.actorAgentId <|> input.ownerAgentId)
    input.checkinId input.occurredAt
    ([("status", .str "closed"), ("owner", jsonOpt input.ownerAgentId),
      ("linked_task_id", jsonOpt input.linkedTaskId), ("reason", .str input.reason),
      ("closed_at", jsonInt input.occurredAt)] ++
     ((truthy input.terminalTopic).map fun t => ("terminal_topic", Json.str t)).toList ++
     ((truthy input.taskStatus).map fun s => ("task_status", Json.str s)).toList)

def emitCheckinClosed : Prog Int := emit (checkinClosedEvent input)

def recordEvent (emit : Prog Int) (id teamId : String) (occurredAt : Int) : Prog Int :=
  emit.bind fun seq =>
    (updateFields id teamId { lastEventSeq := some (some seq), updatedAt := occurredAt }).bind
      fun _ => .ret seq

def recordCheckinCreated (createdBy : Option String) (occurredAt : Int) : Prog Int :=
  recordEvent (emitCheckinCreated row createdBy occurredAt) row.id row.teamId occurredAt

def recordCheckinClosed : Prog Int :=
  recordEvent (emitCheckinClosed input) input.checkinId input.teamId input.occurredAt

def buildActions (checkinId : String) : Json :=
  .obj (["inspect", "nudge", "snooze", "close"].map fun action =>
    (action, .str ("/checkins/" ++ checkinId ++ "/" ++ action)))

def taskRef (task : TaskRow) (assignee : Option String) : List (String × Json) :=
  [("id", .str task.id), ("name", .str task.name), ("title", .str task.title),
   ("status", .str task.status.text), ("assignee", jsonOpt assignee)]

def emitCheckinDue (linkedTask : Option TaskRow) (assignee : Option String)
    (iterationCount nextFireAt now : Int) : Prog Int :=
  let linked := match linkedTask with
    | some task => Json.obj (taskRef task assignee)
    | none => match truthy row.linkedTaskId with
      | some id => .obj [("id", .str id)]
      | none => .null
  emit <| checkinEvent row.teamId "checkin:due" (some "schedule") row.id now
    [("owner", jsonOpt row.ownerAgentId), ("linked_task", linked),
     ("priority", .str row.priority.text), ("iteration_count", jsonInt iterationCount),
     ("max_iterations", jsonOptInt row.maxIterations),
     ("interval_seconds", jsonInt row.intervalSeconds), ("last_fire_at", jsonInt now),
     ("next_fire_at", jsonInt nextFireAt), ("snooze_until", .null),
     ("ttl_expires_at", jsonOptInt row.ttlExpiresAt), ("actions", buildActions row.id)]

inductive ExpireReason where
  | maxIterations | ttl
deriving DecidableEq, Repr

def ExpireReason.text : ExpireReason → String
  | .maxIterations => "max_iterations"
  | .ttl => "ttl"

def emitCheckinExpired (reason : ExpireReason) (now : Int) : Prog Int :=
  emit <| checkinEvent row.teamId "checkin:expired" (some "schedule") row.id now
    [("status", .str "expired"), ("owner", jsonOpt row.ownerAgentId),
     ("linked_task_id", jsonOpt row.linkedTaskId), ("reason", .str reason.text),
     ("iteration_count", jsonInt row.iterationCount),
     ("max_iterations", jsonOptInt row.maxIterations),
     ("ttl_expires_at", jsonOptInt row.ttlExpiresAt), ("closed_at", jsonInt now)]

structure CheckinServiceOptions where
  batchLimit : Option Int := none
  /-- Whether a `dispatchWake` hook is configured. -/
  dispatchWake : Bool := true

structure TickResult where
  scanned : Nat := 0
  fired : Nat := 0
  expired : Nat := 0
  errors : Nat := 0
deriving DecidableEq, Repr

def isTtlExpired (now : Int) : Bool := row.ttlExpiresAt.any (· ≤ now)

def shouldExpireForMaxIterations : Bool :=
  row.maxIterations.any (· ≤ row.iterationCount)

def fetchTaskById (taskId : Option String) : Prog (Option TaskRow) :=
  match truthy taskId with
  | none => .ret none
  | some id => (issue (.selectTasks [id])).bind fun (rows : List TaskRow) => .ret rows.head?

def resolveAgentName (agentId : Option String) : Prog (Option String) :=
  match truthy agentId with
  | none => .ret none
  | some id => (issue (.selectAgent id)).bind fun (agent : Option AgentRow) =>
    .ret (agent.map fun a => (truthy a.alias_).getD a.name)

/-- What `writeOwnerNews` and the wake are told about a fire. -/
structure Fire where
  now : Int
  nextFireAt : Int
  iterationCount : Int
  linkedTask : Option TaskRow
  taskOwnerName : Option String

def newsData (fire : Fire) : Json :=
  .obj ([("kind", .str "checkin:due"), ("checkin_id", .str row.id),
    ("priority", .str row.priority.text), ("iteration_count", jsonInt fire.iterationCount),
    ("max_iterations", jsonOptInt row.maxIterations),
    ("interval_seconds", jsonInt row.intervalSeconds), ("next_fire_at", jsonInt fire.nextFireAt),
    ("ttl_expires_at", jsonOptInt row.ttlExpiresAt), ("actions", buildActions row.id)] ++
    (fire.linkedTask.map fun task => ("linked_task", Json.obj (taskRef task fire.taskOwnerName ++
      [("last_activity_at", jsonInt task.updatedAt),
       ("idle_ms", jsonInt (max 0 (fire.now - task.updatedAt * 1000)))]))).toList)

def newsMessage (fire : Fire) : String :=
  let taskNameHint := (fire.linkedTask.map (·.name) <|> row.linkedTaskId).getD row.id
  "Checkin due (" ++ row.priority.text ++ ") — " ++ taskNameHint ++ " · iter " ++
    toString fire.iterationCount ++ (row.maxIterations.map fun n => "/" ++ toString n).getD ""

def writeOwnerNews (ownerAgentId : String) (fire : Fire) : Prog Unit :=
  (issue (.addNews row.teamId ownerAgentId {
    timestamp := fire.now
    type := "checkin_due"
    message := newsMessage row fire
    data := newsData row fire
    kind := "notify"
    replyExpected := false })).bind thrown

variable (opts : CheckinServiceOptions)

def dispatchWake (row : CheckinRow) (ownerAgentId : String) (fire : Fire) : Prog Unit :=
  if opts.dispatchWake then
    (issue (.wake {
      teamId := row.teamId
      checkinId := row.id
      ownerAgentId
      priority := row.priority
      iterationCount := fire.iterationCount
      nextFireAt := fire.nextFireAt
      message := newsMessage row fire
      data := newsData row fire })).bind fun _ => .ret ()
  else .ret ()

def notifyOwner (row : CheckinRow) (fire : Fire) : Prog Unit :=
  match truthy row.ownerAgentId with
  | none => .ret ()
  | some owner => (writeOwnerNews row owner fire).bind fun _ => dispatchWake opts row owner fire

def firedFields (now seq : Int) : MutableCheckinFields where
  status := some .active
  iterationCount := some (row.iterationCount + 1)
  nextFireAt := some (some (now + row.intervalSeconds * 1000))
  snoozeUntil := some none
  lastFireAt := some (some now)
  lastEventSeq := some (some seq)
  updatedAt := now

def fireRow (row : CheckinRow) (now : Int) : Prog Unit :=
  (fetchTaskById row.linkedTaskId).bind fun linkedTask =>
  (resolveAgentName (linkedTask.bind (·.owner))).bind fun taskOwnerName =>
  let fire : Fire := ⟨now, now + row.intervalSeconds * 1000, row.iterationCount + 1, linkedTask,
    taskOwnerName⟩
  (emitCheckinDue row linkedTask taskOwnerName fire.iterationCount fire.nextFireAt now).bind
    fun seq =>
  (updateFields row.id row.teamId (firedFields row now seq)).bind fun _ =>
  notifyOwner opts row fire

def expiredFields (reason : ExpireReason) (now seq : Int) : MutableCheckinFields where
  status := some .expired
  nextFireAt := some none
  snoozeUntil := some none
  closedAt := some (some now)
  closedReason := some (some reason.text)
  lastEventSeq := some (some seq)
  updatedAt := now

def expireRow (now : Int) (reason : ExpireReason) : Prog Unit :=
  (emitCheckinExpired row reason now).bind fun seq =>
    updateFields row.id row.teamId (expiredFields reason now seq)

def countExpired (now : Int) (reason : ExpireReason) (result : TickResult) : Prog TickResult :=
  ((expireRow row now reason).bind fun _ =>
    .ret { result with expired := result.expired + 1 }).tryCatch
      fun _ => .ret { result with errors := result.errors + 1 }

def afterFire (teamId : String) (row : CheckinRow) (now : Int) (result : TickResult) :
    Prog TickResult :=
  (issue (.get row.id teamId)).bind fun (updated : Option CheckinRow) =>
    match updated.filter shouldExpireForMaxIterations with
    | some updated => countExpired updated now .maxIterations result
    | none => .ret result

def tickRow (teamId : String) (now : Int) (result : TickResult)
    (row : CheckinRow) : Prog TickResult :=
  if isTtlExpired row now then countExpired row now .ttl result
  else
    (((fireRow opts row now).bind fun _ => .ret true).tryCatch fun _ => .ret false).bind
      fun fired =>
    if fired then afterFire teamId row now { result with fired := result.fired + 1 }
    else .ret { result with errors := result.errors + 1 }

def dueBatchLimit : Int := 200

def tickTeam (teamId : String) (now : Int) : Prog TickResult :=
  (claimDue teamId now (min (opts.batchLimit.getD dueBatchLimit) 1000)).bind fun due =>
    Program.fold due { scanned := due.length } (tickRow opts teamId now)

def TickResult.add (a b : TickResult) : TickResult where
  scanned := a.scanned + b.scanned
  fired := a.fired + b.fired
  expired := a.expired + b.expired
  errors := a.errors + b.errors

def tick (now : Int) : Prog TickResult :=
  (issue .listTeams).bind fun (teams : List String) =>
    Program.fold teams {} fun result teamId =>
      ((tickTeam opts teamId now).bind fun team => .ret (result.add team)).tryCatch
        fun _ => .ret { result with errors := result.errors + 1 }

def linkedTaskTerminalReason : String := "linked_task_terminal"

structure CloseLinkedCheckinsInput where
  teamId : String
  taskId : String
  taskStatus : String
  terminalTopic : Option String := none
  actorAgentId : Option String := none
  occurredAt : Int

structure CloseLinkedCheckinsResult where
  closed : Nat
  eventSeqs : List Int
deriving DecidableEq, Repr

namespace CloseLinkedCheckinsInput

variable (input : CloseLinkedCheckinsInput)

def filters : CheckinFilters where
  teamId := input.teamId
  linkedTaskId := some input.taskId
  status := [.active, .snoozed]

def closedInput (row : CheckinRow) : CheckinClosedInput where
  teamId := row.teamId
  checkinId := row.id
  ownerAgentId := row.ownerAgentId
  linkedTaskId := row.linkedTaskId
  reason := linkedTaskTerminalReason
  terminalTopic := some (input.terminalTopic.getD taskCompleted)
  taskStatus := some input.taskStatus
  actorAgentId := input.actorAgentId <|> row.ownerAgentId
  occurredAt := input.occurredAt

def recordRow (eventSeqs : List Int) (row : CheckinRow) : Prog (List Int) :=
  (recordCheckinClosed (input.closedInput row)).bind fun seq => .ret (eventSeqs ++ [seq])

end CloseLinkedCheckinsInput

def closeLinkedCheckinsForTerminalTask (input : CloseLinkedCheckinsInput) :
    Prog CloseLinkedCheckinsResult :=
  (issue (.list input.filters)).bind fun (linked : List CheckinRow) =>
    if linked.isEmpty then .ret ⟨0, []⟩
    else
      (issue (.closeForTerminalTask input.taskId input.teamId input.occurredAt
        linkedTaskTerminalReason)).bind fun (closed : Nat) =>
      (Program.fold linked [] input.recordRow).bind fun eventSeqs => .ret ⟨closed, eventSeqs⟩

end IdAgents.Checkins
