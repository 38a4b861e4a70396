import IdAgents.Outputs.Views

namespace IdAgents.Outputs
open JsText AtomicProgram

/-- The field `baseVersion` of a request. -/
inductive BaseVersion where
  | absent
  | invalid
  | at (version : Nat)

structure ClientMeta where
  actor : String
  clientMutationId : Option String := none
  idempotencyKey : Option String := none
  baseVersion : BaseVersion := .absent

def ClientMeta.writeIdempotencyKey (client : ClientMeta) : Option String :=
  client.idempotencyKey.or client.clientMutationId

inductive Refusal where
  | badRequest
  | staleBaseVersion

inductive WriteAnswer where
  | refused (refusal : Refusal)
  | recorded (opId version : Nat) (idempotent : Bool)

variable (artifactId : String)
section
variable (client : ClientMeta)

def staleReplay : Prog (Option Refusal) :=
  match client.clientMutationId with
  | none => .ret (some .staleBaseVersion)
  | some mutationId =>
    .issue (.selectOperations (.staleReplay mutationId) artifactId) fun ops =>
      .ret ((findByKey mutationId ops).elim (some .staleBaseVersion) fun _ => none)

def checkVersion (version currentVersion : Nat) : Prog (Option Refusal) :=
  if currentVersion = version then .ret none else staleReplay artifactId client

def rejectStaleBaseVersion : Prog (Option Refusal) :=
  match client.baseVersion with
  | .absent => .ret none
  | .invalid => .ret (some .badRequest)
  | .at version =>
    (countOperations .version artifactId).bind (checkVersion artifactId client version)

inductive TimelinePost where
  | suggestedChange (req : SuggestedChangeRequest)
  | dispatchFollowUp (req : DispatchFollowUpRequest)
  | invalid

def TimelinePost.write? : TimelinePost → Option TimelineWrite
  | suggestedChange req =>
    some { req with actor := client.actor, idempotencyKey := client.writeIdempotencyKey }.write
  | dispatchFollowUp req =>
    some { req with actor := client.actor, idempotencyKey := client.writeIdempotencyKey }.write
  | invalid => none

def acknowledge (opId : Nat) (idempotent : Bool) : Prog WriteAnswer :=
  (countOperations .ackVersion artifactId).bind fun version =>
  .ret (.recorded opId version idempotent)

def recordTimeline : Option TimelineWrite → Prog WriteAnswer
  | none => .ret (.refused .badRequest)
  | some write =>
    (writeTimeline artifactId write).bind fun result =>
    acknowledge artifactId result.opId result.idempotent

def unlessRefused (p : Prog WriteAnswer) : Option Refusal → Prog WriteAnswer
  | some refusal => .ret (.refused refusal)
  | none => p

/-- `POST /artifacts/:id/timeline` -/
def timelineRoute (post : TimelinePost) : Prog WriteAnswer :=
  (rejectStaleBaseVersion artifactId client).bind
    (unlessRefused (recordTimeline artifactId (post.write? client)))

/-- How `classifyArtifactComment` takes a comment. -/
inductive RouteKind where
  | acknowledgement | approvalSignal | question | substantiveFollowUp

def RouteKind.text : RouteKind → String
  | acknowledgement => "acknowledgement"
  | approvalSignal => "approval_signal"
  | question => "question"
  | substantiveFollowUp => "substantive_follow_up"

structure CommentPost where
  body : String
  anchor : Option String := none
  sourceLink : Option String := none
  routeKind : RouteKind

def recordCommentRouted (artifactId actor : String) (sourceOpId : Nat) (dispatch : RoutedDispatch) :
    Prog Unit :=
  now.bind fun ts =>
  (appendOperation artifactId .commentRouted actor ts
    (some (.obj [("source_op_id", natJson sourceOpId),
      ("dispatch_phid", .str dispatch.dispatchPhid), ("query_id", .str dispatch.queryId),
      ("to_agent", .str dispatch.toAgent)])) none none).bind fun _ => .ret ()

def persistRoutedLinkage (artifactId actor : String) (sourceOpId : Nat) :
    Option RoutedDispatch → Prog (Option RoutedDispatch)
  | none => .ret none
  | some dispatch =>
    ((recordCommentRouted artifactId actor sourceOpId dispatch).tryCatch fun _ => .ret ()).bind
      fun _ => .ret (some dispatch)

def handleClassifiedCommentRouting (artifactId actor : String) (sourceOpId : Nat)
    (post : CommentPost) : Prog (Option RoutedDispatch) :=
  match post.routeKind with
  | .acknowledgement | .question => .ret none
  | .approvalSignal =>
    (approveArtifact artifactId {
      approver := actor
      note := some post.body
      idempotencyKey := some ("comment-approval:" ++ toString sourceOpId) }).bind fun _ => .ret none
  | .substantiveFollowUp =>
    .issue (.routeComment artifactId) (persistRoutedLinkage artifactId actor sourceOpId)

def commentRouteStatus (routeKind : RouteKind) (dispatch : Option RoutedDispatch) (opId : Nat) :
    Json :=
  let failed := match routeKind with
    | .substantiveFollowUp => dispatch.isNone
    | _ => false
  .obj [("visible_state", .str (if failed then "recorded-but-route-failed-with-retry"
      else "recorded+routed")),
    ("route_kind", .str routeKind.text), ("routed", .bool dispatch.isSome),
    ("retryable", .bool failed), ("recorded_op_id", natJson opId),
    ("dispatch", dispatch.elim .null fun d => .obj [("query_id", .str d.queryId),
      ("dispatch_phid", .str d.dispatchPhid), ("to_agent", .str d.toAgent)])]

/-- The payload with its field `route_status` set. -/
def withRouteStatus (status : Json) : Option Json → Json
  | some (.obj fields) =>
    if fields.any (·.1 = "route_status") then
      .obj (fields.map fun field => if field.1 = "route_status" then (field.1, status) else field)
    else .obj (fields ++ [("route_status", status)])
  | _ => .obj [("route_status", status)]

def updateCommentRouteStatus (opId : Nat) (status : Json) : Prog Unit :=
  .issue (.selectOperations .payload artifactId) fun ops =>
  .issue (.updatePayload artifactId opId (some (withRouteStatus status
    ((List.find? (OperationTable.writesPayload artifactId opId) ops).bind (·.payload)))))
    fun _ => .ret ()

def visibleStates : List String :=
  ["recorded+routed", "recorded-but-route-failed-with-retry", "recorded-route-failed-retryable",
    "disabled/not-recorded", "terminal-failure", "not-recorded"]

def isSettled (op : ArtifactOp) : Bool :=
  op.opType = .commentRecorded &&
    ((op.payload.bind (·.field? "route_status")).any fun status =>
      (status.strField? "visible_state").any visibleStates.contains &&
        !status.isTrueField "retryable")

def settledReplay (replayed : Bool) (opId : Nat) : Prog Bool :=
  if replayed then
    (listOperations artifactId 1000 0).bind fun ops =>
    .ret (ops.any fun op => op.opId = opId && isSettled op)
  else .ret false

def routeRecorded (post : CommentPost) (opId : Nat) (replayed settled : Bool) : Prog WriteAnswer :=
  if settled then acknowledge artifactId opId true
  else
    (handleClassifiedCommentRouting artifactId client.actor opId post).bind fun dispatch =>
    now.bind fun _ =>
    (updateCommentRouteStatus artifactId opId (commentRouteStatus post.routeKind dispatch opId)).bind
      fun _ =>
    acknowledge artifactId opId replayed

def replayLookup (key : Option String) : Prog Bool :=
  match key with
  | none => .ret false
  | some key => .issue (.selectOperations (.replay key) artifactId) fun ops =>
      .ret (findByKey key ops).isSome

def recordComment (post : CommentPost) : Prog WriteAnswer :=
  (replayLookup artifactId client.writeIdempotencyKey).bind fun replayed =>
  (commentArtifact artifactId {
    actor := client.actor
    body := post.body
    anchor := post.anchor
    sourceLink := post.sourceLink
    idempotencyKey := client.writeIdempotencyKey }).bind fun opId =>
  (settledReplay artifactId replayed opId).bind fun settled =>
  routeRecorded artifactId client post opId replayed settled

/-- `POST /artifacts/:id/comments` -/
def commentRoute (post : CommentPost) : Prog WriteAnswer :=
  if trim post.body = "" then .ret (.refused .badRequest)
  else (rejectStaleBaseVersion artifactId client).bind
    (unlessRefused (recordComment artifactId client post))

end

structure ClientWrite where
  client : ClientMeta
  post : TimelinePost ⊕ CommentPost

namespace ClientWrite

def prog (artifactId : String) (call : ClientWrite) : Prog WriteAnswer :=
  match call.post with
  | .inl post => timelineRoute artifactId call.client post
  | .inr post => commentRoute artifactId call.client post

def key (call : ClientWrite) : Option String := normalizedKey call.client.writeIdempotencyKey

def isValid (call : ClientWrite) : Bool :=
  (match call.client.baseVersion with
    | .invalid => false
    | _ => true) &&
  match call.post with
  | .inl post => (post.write? call.client).isSome
  | .inr post => trim post.body ≠ ""

end ClientWrite

structure ClientRun where
  artifactId : String
  calls : List ClientWrite
  schedule : List Nat
  start : World

def isOwn (op : NewOp) : Bool :=
  op.opType = .suggestedChange || op.opType = .dispatchFollowUp || op.opType = .commentRecorded

def recordedId (e : Event sql World) : Option Nat :=
  match e.stmt with
  | .insertOperation op =>
    if isOwn op && !e.before.operations.insertRefused op then some (e.before.operations.seq + 1)
    else none
  | _ => none

namespace ClientRun

variable (run : ClientRun)

def threads : List (Prog WriteAnswer) :=
  run.calls.map (ClientWrite.prog run.artifactId)

def events : List (Nat × Event sql World) :=
  interleaveEvents run.schedule run.threads run.start

def final : List (Prog WriteAnswer) × World :=
  interleave run.schedule run.threads run.start

/-- Write `i` has recorded an operation under the id. -/
def Records (i id : Nat) : Prop :=
  ∃ e, (i, e) ∈ run.events ∧ recordedId e = some id

/-- Write `i` has ended with the result, an answer or an error. -/
def EndsIn (i : Nat) (p : Prog WriteAnswer) : Prop :=
  run.final.1[i]? = some p ∧ p.ended

def idsOf (key : String) : List Nat :=
  ((run.final.2.log run.artifactId).filter (·.idempotencyKey = some key)).map (·.opId)

/-- At most one write is recorded for a base version; all writes with one key are answered with the
one operation that has it; a write without a key is answered with the operation that it has
recorded, unless it is refused. -/
structure Idempotent (run : ClientRun) : Prop where
  optimistic : ∀ (i j : Nat) (call call' : ClientWrite) (version : Nat), run.calls[i]? = some call →
    run.calls[j]? = some call' → call.client.baseVersion = .at version →
    call'.client.baseVersion = .at version → ∀ id id', run.Records i id → run.Records j id' → i = j
  keyed : ∀ key, ∃ id, ∀ (i : Nat) (call : ClientWrite) p, run.calls[i]? = some call →
    call.key = some key → run.EndsIn i p →
      run.idsOf key = [id] ∧ ∃ version idempotent, p = .ret (.recorded id version idempotent)
  unkeyed : ∀ (i : Nat) (call : ClientWrite) p, run.calls[i]? = some call → call.key = none →
    run.EndsIn i p → (∃ refusal, p = .ret (.refused refusal)) ∨
      ∃ id version idempotent, p = .ret (.recorded id version idempotent) ∧ run.Records i id

end ClientRun

end IdAgents.Outputs
