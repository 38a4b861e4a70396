import IdAgents.Library.Sum
import IdAgents.Scheduler.Closeout
import IdAgents.Scheduler.Recovery

namespace IdAgents
open JsText KeyedTable AtomicProgram

/-- The body of the follow-up `POST /talk`. -/
structure ResumeTalk where
  message : String
  sender : String
  dispatchId : String
  clarificationId : Option String

/-- How the follow-up is answered; a body without a query id reads as `none`. -/
inductive TalkResult where
  | ok (queryId : Option String)
  | notOk (status : Int)
  | threw (message : String)
deriving DecidableEq

inductive ReconcileAction where
  | autoResumed | needsChris | skippedAlreadySurfaced | resumeDeliveryFailed
deriving DecidableEq, Repr

structure TtlReceipt where
  dispatchId : String
  queryId : String
  clarificationId : String
  action : ReconcileAction
  deliveredToAgent : Option Bool := none
  agentQueryId : Option String := none
  failureDetail : Option String := none

inductive DeliveryStmt where
  | resolveEndpoint (agentName : String)
  | talk (endpoint : String) (body : ResumeTalk)
  | insertReceipt (receipt : TtlReceipt)

def DeliveryStmt.Ans : DeliveryStmt → Type
  | resolveEndpoint _ => Except String (Option String)
  | talk .. => TalkResult
  | insertReceipt _ => Except String Unit

abbrev delivery : Signature := ⟨DeliveryStmt, DeliveryStmt.Ans⟩

abbrev fleet : Signature := (sql.tagged Label).sum delivery

structure FleetWorld where
  base : World
  endpoint : Nat → String → Except String (Option String)
  talk : Nat → ResumeTalk → TalkResult
  receiptFails : Nat → Option String

namespace FleetWorld

scoped instance : Store sql FleetWorld where
  answer c w := Stmt.answer c w.base
  effect c w := { w with base := c.effect w.base }

end FleetWorld

open scoped FleetWorld

instance : Store delivery FleetWorld where
  answer := fun
    | .resolveEndpoint agentName, w => w.endpoint w.base.step agentName
    | .talk _ body, w => w.talk w.base.step body
    | .insertReceipt _, w => match w.receiptFails w.base.step with
      | some e => .error e
      | none => .ok ()
  effect _ w := { w with base := { w.base with step := w.base.step + 1 } }

abbrev FleetProg (α : Type) := Program fleet ReactorError α

def reactorCall (p : Prog α) : FleetProg α := (p.tag Label.call).inl

def resolveEndpoint (agentName : String) : FleetProg (Except String (Option String)) :=
  Program.other (T := delivery) (.resolveEndpoint agentName)

def postTalk (endpoint : String) (body : ResumeTalk) : FleetProg TalkResult :=
  Program.other (T := delivery) (.talk endpoint body)

def insertReceipt (receipt : TtlReceipt) : FleetProg (Except String Unit) :=
  Program.other (T := delivery) (.insertReceipt receipt)

structure DeliverInput where
  dispatchPhid : String
  answer : String
  actor : String
  clarificationId : Option String := none
  instructions : Option Instructions := none

def instructionsText : Option Instructions → String
  | none => ""
  | some (.one s) => if s = "" then "" else "Follow-up instructions: " ++ s
  | some (.many xs) => "Follow-up instructions: " ++ "\n".intercalate (xs.map ("- " ++ ·))

variable (input : DeliverInput)

def resumeMessage (resumed : DispatchDoc) : String :=
  "\n".intercalate ([
    s!"[RESUME for dispatch {resumed.dispatchPhid}]",
    s!"Original subject: {resumed.subject}",
    "Your question was answered. Continue the dispatch (do not create new work).",
    "",
    s!"Manager answer: {input.answer}",
    instructionsText input.instructions].filter (· ≠ ""))

abbrev Delivery := Except String (Option String)

/-- The `try` block of the delivery: whatever throws in it is its failure. -/
def followUp (resumed : DispatchDoc) : FleetProg Delivery := do
  match ← resolveEndpoint resumed.toAgent with
  | .error message => return .error message
  | .ok endpoint =>
    match endpoint.filter (· ≠ "") with
    | none => return .error s!"agent \"{resumed.toAgent}\" not resolvable to endpoint"
    | some endpoint =>
      match ← postTalk endpoint
        { message := resumeMessage input resumed
          sender := input.actor
          dispatchId := resumed.dispatchPhid
          clarificationId := input.clarificationId } with
      | .ok queryId => return .ok queryId
      | .notOk status => return .error s!"talk delivery returned HTTP {status}"
      | .threw message => return .error message

/-- The clarification of the last `RESUME` of a dispatch. -/
def lastResumed (doc : DispatchDoc) : Option String :=
  (doc.clarificationHistory.reverse.find? (·.type = .resume)).map (·.clarificationId)

structure DeliveryResult where
  delivered : Bool
  state : String
  agentQueryId : Option String
  failureDetail : Option String
  resumed : DispatchDoc

def markDelivery (resumed : DispatchDoc) : Delivery → FleetProg DeliveryResult
  | .ok agentQueryId => do
    let _ ← reactorCall (markResumeDelivered resumed.dispatchPhid
      { clarificationId := (lastResumed resumed <|> input.clarificationId).getD ""
        transport := "talk_followup"
        agentQueryId })
    return ⟨true, "queued", agentQueryId, none, resumed⟩
  | .error failureDetail => do
    let _ ← reactorCall (markResumeDeliveryFailed resumed.dispatchPhid
      { clarificationId := (input.clarificationId <|> lastResumed resumed).getD ""
        failureDetail })
    return ⟨false, "resume_delivery_failed", none, some failureDetail, resumed⟩

def deliverClarificationResume : FleetProg DeliveryResult := do
  let resumed ← reactorCall (resumeAfterClarification input.dispatchPhid
    { clarificationId := input.clarificationId
      actor := some input.actor
      answer := input.answer
      instructions := input.instructions })
  let outcome ← followUp input resumed
  markDelivery input resumed outcome

variable (value : Option Json)

/-- `objectAt(value)` -/
def objectAt : Option Json := value.filter Json.isObj

/-- `objectAt(value, key)` -/
def objectField (key : String) : Option Json :=
  objectAt ((objectAt value).bind (Json.field? key))

def fieldOf (key : String) : Option Json := value.bind (Json.field? key)

def nonBlank (s : String) : Option String := if trim s = "" then none else some (trim s)

def firstString (values : List (Option Json)) : Option String :=
  values.findSome? fun
    | some (.str s) => nonBlank s
    | _ => none

def stringOrStringArray : Option Json → Option Instructions
  | some (.str s) => (nonBlank s).map .one
  | some (.arr values) =>
    match values.filterMap fun | .str s => nonBlank s | _ => none with
    | [] => none
    | strings => some (.many strings)
  | _ => none

def extractRecommendedOption (context : Option Json) : Option String :=
  let system := objectField context "system"
  firstString [fieldOf (objectAt context) "recommended_option",
    fieldOf (objectAt context) "recommendedOption",
    fieldOf system "recommended_option", fieldOf system "recommendedOption"]

structure ReadyResumePayload where
  answer : String
  actor : String
  instructions : Option Instructions

def DEFAULT_ACTOR : String := "manager:clarification-ttl-reconciler"

def extractReadyResumePayload (context : Option Json) : Option ReadyResumePayload :=
  let system := objectField context "system"
  let payload := objectField context "ready_resume_payload" <|>
    objectField context "resume_payload" <|> objectField system "ready_resume_payload" <|>
    objectField system "resume_payload"
  payload.bind fun payload =>
    let field := fieldOf (some payload)
    (firstString [field "answer", field "manager_answer", field "response",
      (extractRecommendedOption context).map Json.str]).map fun answer =>
      { answer
        actor := (firstString [field "actor", field "from"]).getD DEFAULT_ACTOR
        instructions := stringOrStringArray (field "instructions") }

def hasCurrentStaleSurface (doc : DispatchDoc) (clarificationId : String) : Bool :=
  doc.clarificationHistory.any fun event =>
    event.type = .clarificationStale && event.clarificationId = clarificationId

def ageSeconds (createdAt nowMs : Instant) : Int := max 0 ((nowMs - createdAt) / 1000)

def DEFAULT_OPEN_CLARIFICATIONS_LIMIT : Nat := 100

def MAX_OPEN_CLARIFICATIONS_LIMIT : Nat := 500

def clampReadLimit (p : Option Int) (defaultLimit maxLimit : Nat) : Nat :=
  match p with
  | some p => if p ≤ 0 then defaultLimit else min maxLimit p.toNat
  | none => defaultLimit

/-- The open clarifications that are stale at `now`. -/
def listStaleClarifications (now : Instant) (limit : Option Int) : Prog (List DispatchDoc) := do
  let rows ← selectRows
  let stale := rows.filter fun row =>
    row.status = .needsClarification && row.activeClarification.any (·.staleAt ≤ now)
  let ordered := orderBy (fun a b => a.updatedAt < b.updatedAt ||
    (a.updatedAt = b.updatedAt && a.dispatchPhid ≤ b.dispatchPhid)) stale
  return (ordered.take (clampReadLimit limit DEFAULT_OPEN_CLARIFICATIONS_LIMIT
    MAX_OPEN_CLARIFICATIONS_LIMIT)).map rowToDoc

structure ReconcileOptions where
  nowMs : Option Instant := none
  nowIso : Option Instant := none
  limit : Option Int := none
  dryRun : Bool := false
  /-- Whether receipts are recorded. -/
  events : Bool := true

structure ReconcileItem where
  dispatchId : String
  clarificationId : String
  action : ReconcileAction
  recommendedOption : Option String
  deliveredToAgent : Option Bool := none
  agentQueryId : Option String := none
  failureDetail : Option String := none

variable (opts : ReconcileOptions)

def emitReceipt (receipt : TtlReceipt) : FleetProg Unit :=
  if opts.events then do
    match ← insertReceipt receipt with
    | .ok () => return ()
    | .error message => throw (.other message)
  else return ()

def autoResume (doc : DispatchDoc) (blocker : ClarificationBlocker)
    (ready : ReadyResumePayload) : FleetProg ReconcileItem :=
  let item : ReconcileItem := { dispatchId := doc.dispatchPhid, action := .autoResumed
                                clarificationId := blocker.clarificationId
                                recommendedOption := extractRecommendedOption blocker.context }
  if opts.dryRun then return { item with deliveredToAgent := some false }
  else do
    let delivered ← deliverClarificationResume
      { dispatchPhid := doc.dispatchPhid
        answer := ready.answer
        actor := ready.actor
        clarificationId := some blocker.clarificationId
        instructions := ready.instructions }
    let action := if delivered.delivered then .autoResumed else .resumeDeliveryFailed
    let _ ← emitReceipt opts
      { dispatchId := doc.dispatchPhid
        queryId := doc.queryId
        clarificationId := blocker.clarificationId
        action := action
        deliveredToAgent := some delivered.delivered
        agentQueryId := delivered.agentQueryId
        failureDetail := delivered.failureDetail }
    return { item with
      action := action
      deliveredToAgent := some delivered.delivered
      agentQueryId := delivered.agentQueryId
      failureDetail := delivered.failureDetail }

variable (nowMs : Instant)

def surfaceStale (doc : DispatchDoc) (blocker : ClarificationBlocker) : FleetProg ReconcileItem :=
  let item : ReconcileItem := { dispatchId := doc.dispatchPhid, action := .needsChris
                                clarificationId := blocker.clarificationId
                                recommendedOption := extractRecommendedOption blocker.context }
  if opts.dryRun then return item
  else do
    let _ ← reactorCall (markClarificationStale doc.dispatchPhid
      ⟨blocker.clarificationId, ageSeconds blocker.createdAt nowMs⟩)
    let _ ← emitReceipt opts
      { dispatchId := doc.dispatchPhid
        queryId := doc.queryId
        clarificationId := blocker.clarificationId
        action := .needsChris }
    return item

def reconcileOne (doc : DispatchDoc) (blocker : ClarificationBlocker) : FleetProg ReconcileItem :=
  match extractReadyResumePayload blocker.context with
  | some ready => autoResume opts doc blocker ready
  | none =>
    if hasCurrentStaleSurface doc blocker.clarificationId then
      return { dispatchId := doc.dispatchPhid, clarificationId := blocker.clarificationId
               action := .skippedAlreadySurfaced
               recommendedOption := extractRecommendedOption blocker.context }
    else surfaceStale opts nowMs doc blocker

def reconcileDoc (items : List ReconcileItem)
    (doc : DispatchDoc) : FleetProg (List ReconcileItem) :=
  match doc.activeClarification with
  | none => return items
  | some blocker => do
    let item ← reconcileOne opts nowMs doc blocker
    return items ++ [item]

def reconcileStaleClarifications : FleetProg (List ReconcileItem) := do
  let nowMs ← opts.nowMs.elim (reactorCall nowFn) .ret
  let stale ← reactorCall (listStaleClarifications (opts.nowIso.getD nowMs) opts.limit)
  Program.fold stale [] (reconcileDoc opts nowMs)

end IdAgents
