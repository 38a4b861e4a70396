import Mathlib.Algebra.GroupWithZero.Nat
import IdAgents.Library.Text
import IdAgents.Outputs.World

namespace IdAgents.Outputs
open JsText AtomicProgram

/-- `ORDER BY op_id ASC LIMIT ? OFFSET ?` -/
def page (ops : List ArtifactOp) (limit offset : Nat) : List ArtifactOp := (ops.drop offset).take limit

variable (artifactId : String)

def listOperations (limit offset : Nat) : Prog (List ArtifactOp) :=
  .issue (.selectOperations .page artifactId) fun ops => .ret (page ops limit offset)

def countOperations (query : OperationQuery) (artifactId : String) : Prog Nat :=
  .issue (.selectOperations query artifactId) fun ops => .ret (List.length ops)

/-- `ORDER BY op_id ASC LIMIT 1` of the operations with the key. -/
def findByKey (key : String) (ops : List ArtifactOp) : Option ArtifactOp :=
  ops.find? (·.idempotencyKey = some key)

def orThrow (a : α) : Except String Unit → Prog α
  | .ok _ => .ret a
  | .error e => .throw e

def insertOperation (op : NewOp) : Prog Unit := .issue (.insertOperation op) (orThrow ())

def normalizedKey (idempotencyKey : Option String) : Option String :=
  (idempotencyKey.map trim).filter (· ≠ "")

/-- `ORDER BY op_id DESC LIMIT 1` -/
def newestOpId (ops : List ArtifactOp) : Nat := ops.getLast?.elim 0 (·.opId)

def appendRow (op : NewOp) : Prog Nat :=
  (insertOperation op).bind fun _ =>
  .issue (.selectOperations .readBack op.artifactId) fun ops => .ret (newestOpId ops)

def replayOr (append : Prog Nat) : Option ArtifactOp → Prog Nat
  | some op => .ret op.opId
  | none => append

def appendOnce (op : NewOp) : Prog Nat :=
  match op.idempotencyKey with
  | none => appendRow op
  | some key =>
    .issue (.selectOperations (.byKey key) op.artifactId) fun ops =>
      replayOr (appendRow op) (findByKey key ops)

def appendOperation (opType : ArtifactOpType) (actor nowIso : String)
    (payload : Option Json) (sourceLink : Option String) (idempotencyKey : Option String) :
    Prog Nat :=
  appendOnce {
    artifactId := artifactId
    opType := opType
    actor := actor
    ts := nowIso
    payload := payload
    sourceLink := sourceLink
    idempotencyKey := normalizedKey idempotencyKey }

def getReviewState : Prog (Option ReviewState) :=
  .issue (.getReviewState artifactId) .ret

def writeReviewState (write : ReviewWrite) (nowIso : String) : Option ReviewState → Prog ReviewState
  | none =>
    .issue (.insertReview artifactId write nowIso) (orThrow (write.patch.create artifactId nowIso))
  | some existing =>
    .issue (.updateReview existing write nowIso) fun _ => .ret (write.patch.merge existing nowIso)

def upsertReviewState (write : ReviewWrite) (nowIso : String) : Prog ReviewState :=
  (getReviewState artifactId).bind (writeReviewState artifactId write nowIso)

section Meets
variable {Q : Stmt → Prop}

theorem orThrow_meets (h : R a) (written : Except String Unit) : (orThrow a written).Meets Q R := by
  cases written with
  | ok _ => exact h
  | error e => trivial

theorem appendRow_meets (hinsert : Q (.insertOperation op))
    (hselect : ∀ query, Q (.selectOperations query op.artifactId)) :
    (appendRow op).Meets Q fun _ => True := by
  have hwrite : (insertOperation op).Meets Q fun _ => True :=
    ⟨hinsert, orThrow_meets trivial⟩
  apply hwrite.bind
  intro _ _
  exact ⟨hselect _, fun _ => trivial⟩

theorem replayOr_meets (h : append.Meets Q fun _ => True)
    (found : Option ArtifactOp) : (replayOr append found).Meets Q fun _ => True := by
  cases found with
  | some op => trivial
  | none => exact h

theorem appendOnce_meets
    (hselect : ∀ query, Q (.selectOperations query op.artifactId)) (hinsert : Q (.insertOperation op)) : (appendOnce op).Meets Q fun _ => True := by
  have happend : (appendRow op).Meets Q fun _ => True := appendRow_meets hinsert hselect
  rw [appendOnce]
  split
  · exact happend
  · exact ⟨hselect _, fun ops => replayOr_meets happend _⟩

theorem upsertReviewState_meets {artifactId : String} {write : ReviewWrite}
    (hread : Q (.getReviewState artifactId))
    (hcreate : ∀ nowIso, Q (.insertReview artifactId write nowIso))
    (hupdate : ∀ existing nowIso, Q (.updateReview existing write nowIso)) (nowIso : String) :
    (upsertReviewState artifactId write nowIso).Meets Q fun _ => True := by
  refine ⟨hread, fun existing => ?_⟩
  cases existing with
  | none => exact ⟨hcreate nowIso, orThrow_meets trivial⟩
  | some existing => exact ⟨hupdate existing nowIso, fun _ => trivial⟩

end Meets

/-- `(actor || DEFAULT_ACTOR).trim() || DEFAULT_ACTOR` -/
def actorOrDefault (actor : String) : String :=
  let actor := trim (if actor = "" then "operator" else actor)
  if actor = "" then "operator" else actor

def now : Prog String := .issue .now .ret

structure ViewRequest where
  viewer : String := ""
  sourceLink : Option String := none

def viewArtifact (req : ViewRequest) : Prog (ReviewState × Nat) :=
  now.bind fun ts =>
  (getReviewState artifactId).bind fun existing =>
  let viewer := actorOrDefault req.viewer
  (upsertReviewState artifactId (.view existing viewer ts req.sourceLink) ts).bind fun state =>
  (appendOperation artifactId .view viewer ts
    (some (.obj [("viewed_count_after", .num (toString state.viewedCount))])) state.sourceLink
    none).bind fun opId =>
  .ret (state, opId)

structure ApproveRequest where
  approver : String := ""
  note : Option String := none
  sourceLink : Option String := none
  idempotencyKey : Option String := none

structure ApproveResult where
  state : ReviewState
  opId : Nat
  idempotent : Bool

def approveArtifact (req : ApproveRequest) : Prog ApproveResult :=
  now.bind fun ts =>
  (getReviewState artifactId).bind fun existing =>
  let alreadyApproved := (existing.bind (·.approvedAt)).isSome
  let approver := actorOrDefault req.approver
  (upsertReviewState artifactId (.approve existing approver ts req.note req.sourceLink) ts).bind
    fun state =>
  (appendOperation artifactId .approve approver ts
    (some (.obj [("note", optStr req.note), ("idempotent", .bool alreadyApproved)]))
    state.sourceLink req.idempotencyKey).bind fun opId =>
  .ret ⟨state, opId, alreadyApproved⟩

def rejectArtifact (req : ApproveRequest) : Prog ApproveResult :=
  now.bind fun ts =>
  (getReviewState artifactId).bind fun existing =>
  let alreadyRejected := (existing.bind (·.rejectedAt)).isSome
  let rejecter := actorOrDefault req.approver
  (upsertReviewState artifactId (.reject existing rejecter ts req.note req.sourceLink) ts).bind
    fun state =>
  (appendOperation artifactId .reject rejecter ts
    (some (.obj [("note", optStr req.note), ("idempotent", .bool alreadyRejected)]))
    state.sourceLink none).bind fun opId =>
  .ret ⟨state, opId, alreadyRejected⟩

structure CommentRequest where
  actor : String := ""
  body : String
  anchor : Option String := none
  sourceLink : Option String := none
  idempotencyKey : Option String := none

/-- Touch the review row so that the artifact has a durable interaction record. -/
def touchReview (existing : Option ReviewState) (sourceLink : Option String)
    (ts : String) : Prog Unit :=
  (upsertReviewState artifactId (.touch existing sourceLink) ts).bind fun _ => .ret ()

def commentArtifact (req : CommentRequest) : Prog Nat :=
  now.bind fun ts =>
  (getReviewState artifactId).bind fun existing =>
  (touchReview artifactId existing req.sourceLink ts).bind fun _ =>
  appendOperation artifactId .commentRecorded (actorOrDefault req.actor) ts
    (some (.obj [("body", .str req.body), ("anchor", optStr req.anchor)]))
    (ReviewWrite.link req.sourceLink existing) req.idempotencyKey

def latestOp (opType : ArtifactOpType) (ops : List ArtifactOp) : Option ArtifactOp :=
  ops.foldl (fun latest op =>
    if op.opType = opType && latest.all (·.opId < op.opId) then some op else latest) none

/-- `s.length`, in UTF-16 units. -/
def utf16Length (s : String) : Nat :=
  (s.toList.map fun c => if c.toNat < 65536 then 1 else 2).sum

def latestDraftBody (payload : CaneDraftPayload) (ops : List ArtifactOp) : String :=
  match latestOp .reviseDraft ops with
  | none => payload.bodyMarkdown
  | some op => (op.payload.bind (·.strField? "body_markdown")).getD payload.bodyMarkdown

def revised (payload : CaneDraftPayload) (bodyMarkdown actor ts : String) : CaneDraftPayload :=
  { payload with
    bodyMarkdown := bodyMarkdown
    revisionHistory := payload.revisionHistory ++ [⟨ts, actor, utf16Length payload.bodyMarkdown⟩] }

def recordRevision (artifactId bodyMarkdown actor ts : String) : Option CaneDraftPayload → Prog Nat
  | none => .throw ("no cane_draft payload for artifact " ++ artifactId)
  | some payload =>
    .issue (.putArtifactDraft artifactId (revised payload bodyMarkdown actor ts)) fun _ =>
    (getReviewState artifactId).bind fun existing =>
    let sourceLink := (existing.bind (·.sourceLink)).or payload.draftId
    (touchReview artifactId existing sourceLink ts).bind fun _ =>
    appendOperation artifactId .reviseDraft actor ts
      (some (.obj [("body_markdown", .str bodyMarkdown),
        ("from_len", natJson (utf16Length payload.bodyMarkdown))]))
      sourceLink none

def reviseDraft (artifactId bodyMarkdown actor : String) : Prog Nat :=
  now.bind fun ts =>
  .issue (.getArtifactDraft artifactId) (recordRevision artifactId bodyMarkdown actor ts)

def isSet (ts : Option String) : Bool := ts.any (· ≠ "")

def computeShipBlockers (state : Option ReviewState) (isCaneDraft : Bool) : List String :=
  (if isSet (state.bind (·.shippedAt)) then ["already_shipped"] else []) ++
  (if isSet (state.bind (·.approvedAt)) then [] else ["artifact_not_approved"]) ++
  (if isCaneDraft then [] else ["no_executor_configured"])

structure CaneDraftShipContext where
  payload : CaneDraftPayload
  ops : List ArtifactOp

structure ShipRequest where
  shipper : String := ""
  sourceLink : Option String := none

inductive ShipResponse where
  | blocked (blockers : List String) (recordedOpId : Nat)
  | ok (recordedOpId : Nat)

def recordBlocked (artifactId shipper ts : String) (existing : Option ReviewState)
    (sourceLink : Option String) (blockers : List String) (detail : String × Json) :
    Prog ShipResponse :=
  (upsertReviewState artifactId (.block existing blockers sourceLink) ts).bind fun state =>
  (appendOperation artifactId .shipBlocked shipper ts
    (some (.obj [("blockers", .arr (blockers.map .str)), detail])) state.sourceLink none).bind
    fun opId =>
  .ret (.blocked blockers opId)

def recordShipped (artifactId shipper ts shippedAt : String) (existing : Option ReviewState)
    (sourceLink : Option String) (payload : List (String × Json)) : Prog ShipResponse :=
  (upsertReviewState artifactId (.ship existing shipper shippedAt sourceLink) ts).bind fun state =>
  (appendOperation artifactId .shipAttempted shipper ts (some (.obj payload)) state.sourceLink
    none).bind fun opId =>
  .ret (.ok opId)

def recordSend (artifactId shipper ts : String) (existing : Option ReviewState)
    (sourceLink : Option String) (result : CaneSendResult) : Prog ShipResponse :=
  match result.evidence with
  | some evidence =>
    if result.ok then
      recordShipped artifactId shipper ts evidence.sentAt existing sourceLink
        [("cane_draft", .bool true), ("message_id", .str evidence.messageId),
          ("sent_at", .str evidence.sentAt), ("already_sent", .bool evidence.alreadySent),
          ("attempted_by", .str shipper)]
    else recordBlocked artifactId shipper ts existing sourceLink ["cane_send_failed"]
      ("error", .str (result.error.getD "send failed"))
  | none => recordBlocked artifactId shipper ts existing sourceLink ["cane_send_failed"]
      ("error", .str (result.error.getD "send failed"))

def orError : Except String α → Prog α
  | .ok a => .ret a
  | .error e => .throw e

def sendDraft (artifactId shipper ts : String) (existing : Option ReviewState)
    (sourceLink : Option String) (draft : CaneDraftShipContext) : Prog ShipResponse :=
  .issue (.send existing draft.payload (latestDraftBody draft.payload draft.ops)) fun sent =>
    Program.bind (orError sent) (recordSend artifactId shipper ts existing sourceLink)

def shipUnblocked (artifactId shipper ts : String) (existing : Option ReviewState)
    (sourceLink : Option String) : Option CaneDraftShipContext → Prog ShipResponse
  | some draft => sendDraft artifactId shipper ts existing sourceLink draft
  | none =>
    recordShipped artifactId shipper ts ts existing sourceLink
      [("blockers", .arr []), ("attempted_by", .str shipper)]

variable (req : ShipRequest)

def shipRead (caneDraft : Option CaneDraftShipContext)
    (ts : String) (existing : Option ReviewState) : Prog ShipResponse :=
  let shipper := actorOrDefault req.shipper
  let blockers := computeShipBlockers existing caneDraft.isSome
  if blockers ≠ [] then
    recordBlocked artifactId shipper ts existing req.sourceLink blockers
      ("attempted_by", .str shipper)
  else shipUnblocked artifactId shipper ts existing req.sourceLink caneDraft

def shipArtifact (caneDraft : Option CaneDraftShipContext) : Prog ShipResponse :=
  now.bind fun ts => (getReviewState artifactId).bind (shipRead artifactId req caneDraft ts)

def shipFound : Option CaneDraftPayload → Prog ShipResponse
  | none => shipArtifact artifactId req none
  | some payload =>
    (listOperations artifactId 500 0).bind fun ops =>
    shipArtifact artifactId req (some ⟨payload, ops⟩)

/-- `POST /artifacts/:id/ship` with the drafts enabled: a draft is sent with its latest body. -/
def shipRoute : Prog ShipResponse :=
  .issue (.getArtifactDraft artifactId) (shipFound artifactId req)

end IdAgents.Outputs
