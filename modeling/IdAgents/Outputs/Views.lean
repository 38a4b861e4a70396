import IdAgents.Outputs.Suggestion

namespace IdAgents.Outputs
open JsText JsMap AtomicProgram

structure ArtifactEdit where
  content : String
  note : Option String
  editor : String
  editedAt : String

variable (op : ArtifactOp)

def ArtifactOp.edit : ArtifactEdit where
  content := (op.field "content").getD ""
  note := op.field "note"
  editor := op.actor
  editedAt := op.ts

variable (ops : List ArtifactOp)

def latestEdit : Option ArtifactEdit := (latestOp .edit ops).map (·.edit)

structure ArtifactComment where
  commentId : String
  opId : Nat
  artifactId : String
  actor : String
  body : String
  anchor : Option String
  reaction : Option String
  ts : String

def isReactionKind (v : String) : Bool :=
  ["acknowledged", "ship_it", "wrong", "explain", "iterate"].contains v

def ArtifactOp.comment : ArtifactComment where
  commentId := "acmt:" ++ op.artifactId ++ ":" ++ toString op.opId
  opId := op.opId
  artifactId := op.artifactId
  actor := op.actor
  body := (op.field "body").getD ""
  anchor := op.field "anchor"
  reaction := (op.field "reaction").filter isReactionKind
  ts := op.ts

/-- The comments that `listComments` reads off a page. -/
def commentsOf : List ArtifactComment :=
  (ops.filter (·.opType = .commentRecorded)).map (·.comment)

structure FeedbackRouting where
  dispatchPhid : String
  queryId : Option String
  toAgent : String
  routedAt : String

/-- The operation id that a `comment_routed` record with a whole payload refers to. -/
def routedSource : Option String :=
  if op.opType = .commentRouted && (op.field "dispatch_phid").isSome &&
      (op.field "to_agent").isSome then
    op.payload.bind (numField? "source_op_id")
  else none

def ArtifactOp.routing : FeedbackRouting where
  dispatchPhid := (op.field "dispatch_phid").getD ""
  queryId := op.field "query_id"
  toAgent := (op.field "to_agent").getD ""
  routedAt := op.ts

def routingBySource : Dict String ArtifactOp :=
  ops.foldl (fun routing op => match routedSource op with
    | none => routing
    | some source => if routing.has source then routing else routing.set source op) .empty

structure FeedbackItem extends ArtifactComment where
  kind : String
  sourceLink : Option String
  routing : Option FeedbackRouting

def shownRouting (op : ArtifactOp) : Option ArtifactOp :=
  (routingBySource ops).get? (toString op.opId)

def feedbackItems : List FeedbackItem :=
  ((ops.filter (·.opType = .commentRecorded)).map fun op =>
    { op.comment with
      kind := if op.comment.reaction.isSome then "reaction" else "comment"
      sourceLink := op.sourceLink
      routing := (shownRouting ops op).map (·.routing) }).reverse

structure ArtifactDispatchReceipt where
  targetAgent : Option String
  queryId : Option String
  dispatchPhid : Option String
  status : Option String

structure ArtifactTimelineEvent where
  eventId : String
  opId : Nat
  artifactId : String
  kind : String
  status : String
  actor : String
  ts : String
  markdown : Option String
  body : Option String
  anchor : Option String
  sourceLink : Option String
  idempotencyKey : Option String
  dispatchReceipt : Option ArtifactDispatchReceipt
  payload : Json

def ArtifactOp.text (name : String) : Option String :=
  (op.field name).filter (· ≠ "")

def timelineKind : String :=
  match op.opType with
  | .view => "view"
  | .approve => "approval"
  | .reject => "rejection"
  | .suggestedChange | .suggestion => "suggested_change"
  | .dispatchFollowUp => "dispatch_follow_up"
  | .commentRouted => "comment_routed"
  | .shipAttempted => "ship"
  | .shipBlocked => "ship_blocked"
  | .edit => "edit"
  | .reviseDraft => "draft_revision"
  | .commentRecorded =>
    if (op.text "suggested_markdown").isSome then "suggested_change" else "comment"

def timelineStatus : String :=
  (op.text "status").getD <| match op.opType with
    | .view => "viewed"
    | .approve => "approved"
    | .reject => "rejected"
    | .dispatchFollowUp | .commentRouted => "routed"
    | .shipAttempted => "shipped"
    | .shipBlocked => "blocked"
    | .suggestedChange => "open"
    | _ => "recorded"

def dispatchReceipt : Option ArtifactDispatchReceipt :=
  let receipt : ArtifactDispatchReceipt := {
    targetAgent := (op.text "target_agent").or (op.text "to_agent")
    queryId := op.text "query_id"
    dispatchPhid := op.text "dispatch_phid"
    status := op.text "status" }
  if receipt.targetAgent.isNone && receipt.queryId.isNone && receipt.dispatchPhid.isNone &&
      receipt.status.isNone then none
  else some receipt

def timelineEventFromOperation : ArtifactTimelineEvent where
  eventId := "artifact-event-" ++ toString op.opId
  opId := op.opId
  artifactId := op.artifactId
  kind := timelineKind op
  status := timelineStatus op
  actor := op.actor
  ts := op.ts
  markdown := (op.text "suggested_markdown").or ((op.text "body").or (op.text "note"))
  body := (op.text "body").or (op.text "note")
  anchor := op.text "anchor"
  sourceLink := op.sourceLink
  idempotencyKey := op.idempotencyKey
  dispatchReceipt := dispatchReceipt op
  payload := (op.payload.filter (·.isObj)).getD (.obj [])

structure ReviewSummary where
  commentsCount : Nat
  timelineCount : Nat
  latestComment : Option ArtifactComment
  latestTimelineEvent : Option ArtifactTimelineEvent

def reviewSummary (log : List ArtifactOp) : ReviewSummary :=
  let comments := commentsOf (page log 50 0)
  let timeline := (page log 50 0).map timelineEventFromOperation
  { commentsCount := comments.length
    timelineCount := timeline.length
    latestComment := comments.getLast?
    latestTimelineEvent := timeline.getLast? }

structure TimelineWriteResult where
  event : ArtifactTimelineEvent
  opId : Nat
  idempotent : Bool

def recordedEvent (what : String) (opId before : Nat) (ops : List ArtifactOp) :
    Prog TimelineWriteResult :=
  match ops.find? (·.opId = opId) with
  | none => .throw (what ++ " op " ++ toString opId ++ " was not readable")
  | some op => .ret ⟨timelineEventFromOperation op, opId, decide (0 < before)⟩

structure TimelineWrite where
  opType : ArtifactOpType
  what : String
  actor : String
  payload : Json
  sourceLink : Option String
  idempotencyKey : Option String

variable (artifactId : String)

def writeTimeline (write : TimelineWrite) : Prog TimelineWriteResult :=
  now.bind fun ts =>
  (getReviewState artifactId).bind fun existing =>
  (touchReview artifactId existing write.sourceLink ts).bind fun _ =>
  (countMatchingIdempotency artifactId write.idempotencyKey).bind fun before =>
  (appendOperation artifactId write.opType (actorOrDefault write.actor) ts (some write.payload)
    (ReviewWrite.link write.sourceLink existing) write.idempotencyKey).bind fun opId =>
  (listOperations artifactId 1000 0).bind fun ops =>
  recordedEvent write.what opId before ops

structure SuggestedChangeRequest where
  actor : String
  body : String
  anchor : Option String := none
  suggestedMarkdown : Option String := none
  status : Option String := none
  sourceLink : Option String := none
  idempotencyKey : Option String := none

def SuggestedChangeRequest.write (req : SuggestedChangeRequest) : TimelineWrite where
  opType := .suggestedChange
  what := "suggested_change"
  actor := req.actor
  payload := .obj [("body", .str req.body), ("anchor", optStr req.anchor),
    ("suggested_markdown", optStr req.suggestedMarkdown),
    ("status", .str (req.status.getD "open"))]
  sourceLink := req.sourceLink
  idempotencyKey := req.idempotencyKey

def suggestArtifactChange (req : SuggestedChangeRequest) : Prog TimelineWriteResult :=
  writeTimeline artifactId req.write

structure DispatchFollowUpRequest where
  actor : String
  body : Option String := none
  targetAgent : Option String := none
  queryId : Option String := none
  dispatchPhid : Option String := none
  status : Option String := none
  sourceLink : Option String := none
  idempotencyKey : Option String := none

def DispatchFollowUpRequest.write (req : DispatchFollowUpRequest) : TimelineWrite where
  opType := .dispatchFollowUp
  what := "dispatch_follow_up"
  actor := req.actor
  payload := .obj [("body", optStr req.body), ("target_agent", optStr req.targetAgent),
    ("query_id", optStr req.queryId), ("dispatch_phid", optStr req.dispatchPhid),
    ("status", .str (req.status.getD "queued"))]
  sourceLink := req.sourceLink
  idempotencyKey := req.idempotencyKey

def recordDispatchFollowUp (req : DispatchFollowUpRequest) : Prog TimelineWriteResult :=
  writeTimeline artifactId req.write

end IdAgents.Outputs
