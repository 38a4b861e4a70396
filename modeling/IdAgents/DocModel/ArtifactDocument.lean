import Mathlib.Data.List.Sort
import IdAgents.Library.Text
import IdAgents.Library.Program

namespace IdAgents.DocModel
open JsText AtomicProgram

inductive EntryStampAudience where
  | operator | system
deriving DecidableEq, Repr

inductive EntryStampKind where
  | actionNeeded | report | document | receipt | directionBrief | closeout | diagnostics
  | qaEvidence | finalDocument
deriving DecidableEq, Repr

inductive ArtifactDocumentAvailability where
  | present | missing | unknown
deriving DecidableEq, Repr

inductive ArtifactDocumentReceiptKind where
  | approve | reject | shipAttempted | shipBlocked
deriving DecidableEq, Repr

inductive ArtifactDocumentOpType where
  | artifactAuthored | commentAppended | receiptAppended
deriving DecidableEq, Repr

def ArtifactDocumentOpType.text : ArtifactDocumentOpType → String
  | .artifactAuthored => "artifact_authored"
  | .commentAppended => "comment_appended"
  | .receiptAppended => "receipt_appended"

/-- A payload, parsed; its kind is the `op_type` of its operation. -/
inductive OpPayload where
  | authored (title : String) (tag : Option String) (content : String) (sourceLink : Option String)
      (availability : ArtifactDocumentAvailability) (audience : EntryStampAudience)
      (kind : EntryStampKind) (project : Option String)
  | comment (body : String)
  | receipt (kind : ArtifactDocumentReceiptKind) (note : Option String)
deriving DecidableEq

def OpPayload.opType : OpPayload → ArtifactDocumentOpType
  | authored .. => .artifactAuthored
  | comment _ => .commentAppended
  | receipt .. => .receiptAppended

/-- The values an INSERT into `doc_model_document_op` gives. -/
structure NewOp where
  revision : Nat
  actor : String
  ts : String
  payload : OpPayload
deriving DecidableEq

structure OpRow extends NewOp where
  opId : Nat
deriving DecidableEq

def NewOp.isAuthored (op : NewOp) : Bool := op.payload.opType = .artifactAuthored

structure DocumentRow where
  documentId : String
  teamId : String
  ownerAgent : String
  revision : Nat
  audience : EntryStampAudience
  kind : EntryStampKind
  project : Option String
  createdAt : String
  updatedAt : String
deriving DecidableEq

inductive Stmt where
  | insertDocument (row : DocumentRow)
  | insertOp (op : NewOp)
  | selectRevision
  | updateRevision (revision : Nat) (now : String)

/-- `fails` names the steps at which a query is refused, `otherOps` how many operations other
documents have been given before a step. -/
structure Env where
  fails : Nat → Option String
  otherOps : Nat → Nat

/-- The document's row and its operations, in the order of `op_id`. -/
structure World where
  document : Option DocumentRow
  ops : List OpRow
  step : Nat
  env : Env

namespace World

def fails (w : World) : Option String := w.env.fails w.step

/-- The next value of `op_id`. -/
def nextOpId (w : World) : Nat :=
  (w.ops.getLast?.elim 0 (·.opId)) + w.env.otherOps w.step + 1

end World

namespace Stmt

def Ans : Stmt → Type
  | insertDocument _ => Except String Nat
  | insertOp _ | updateRevision .. => Except String Unit
  | selectRevision => Except String (Option Nat)

def answerOr (failure : Option String) (a : α) : Except String α :=
  match failure with
  | some e => .error e
  | none => .ok a

def answer : (c : Stmt) → World → c.Ans
  | insertDocument _, w => answerOr w.fails (if w.document.isNone then 1 else 0)
  | insertOp _, w | updateRevision .., w => answerOr w.fails ()
  | selectRevision, w => answerOr w.fails (w.document.map (·.revision))

def change : Stmt → World → World
  | insertDocument row, w => { w with document := w.document.or (some row) }
  | insertOp op, w => { w with ops := w.ops ++ [{ op with opId := w.nextOpId }] }
  | updateRevision revision now, w =>
    { w with document := w.document.map fun row => { row with revision, updatedAt := now } }
  | selectRevision, w => w

def effect (c : Stmt) (w : World) : World :=
  { (if w.fails.isSome then w else c.change w) with step := w.step + 1 }

end Stmt

abbrev sql : Signature := ⟨Stmt, Stmt.Ans⟩

instance : Store sql World where
  answer := Stmt.answer
  effect := Stmt.effect

abbrev Prog (α : Type) := Program sql String α

def thrown : Except String α → Prog α
  | .ok a => .ret a
  | .error e => .throw e

def insertDocument (row : DocumentRow) : Prog Nat :=
  (Program.stmt (S := sql) (.insertDocument row)).bind thrown

def insertOp (op : NewOp) : Prog Unit := (Program.stmt (S := sql) (.insertOp op)).bind thrown

def selectRevision : Prog (Option Nat) := (Program.stmt (S := sql) .selectRevision).bind thrown

def updateRevision (revision : Nat) (now : String) : Prog Unit :=
  (Program.stmt (S := sql) (.updateRevision revision now)).bind thrown

structure AuthorInput where
  teamId : String
  ownerAgent : String
  actor : String
  title : String
  tag : Option String
  content : String
  sourceLink : Option String
  availability : ArtifactDocumentAvailability
  audience : EntryStampAudience
  kind : EntryStampKind
  project : Option String
  now : String

def AuthorInput.row (input : AuthorInput) (documentId : String) : DocumentRow where
  documentId
  teamId := input.teamId
  ownerAgent := input.ownerAgent
  revision := 1
  audience := input.audience
  kind := input.kind
  project := input.project
  createdAt := input.now
  updatedAt := input.now

def AuthorInput.op (input : AuthorInput) : NewOp where
  revision := 1
  actor := input.actor
  ts := input.now
  payload := .authored input.title input.tag input.content input.sourceLink input.availability
    input.audience input.kind input.project

variable (documentId : String)

def authorArtifactDocument (input : AuthorInput) : Prog Bool :=
  (insertDocument (input.row documentId)).bind fun rowCount =>
    if rowCount = 0 then .ret false
    else (insertOp input.op).bind fun _ => .ret true

structure AppendInput where
  actor : String
  payload : OpPayload
  now : String

def AppendInput.op (input : AppendInput) (revision : Nat) : NewOp where
  revision
  actor := input.actor
  ts := input.now
  payload := input.payload

def appendOp (input : AppendInput) : Prog Nat :=
  selectRevision.bind fun
    | none => .throw s!"unknown doc-model document: {documentId}"
    | some revision => (insertOp (input.op (revision + 1))).bind fun _ =>
      (updateRevision (revision + 1) input.now).bind fun _ => .ret (revision + 1)

def appendArtifactComment (documentId actor body now : String) : Prog Nat :=
  appendOp documentId { actor, payload := .comment body, now }

def appendArtifactReceipt (documentId actor : String) (kind : ArtifactDocumentReceiptKind)
    (note : Option String) (now : String) : Prog Nat :=
  appendOp documentId { actor, payload := .receipt kind note, now }

inductive ActorType where
  | agent | user | system | service
deriving DecidableEq, Repr

structure ActorRef where
  type : ActorType
  id : String
deriving DecidableEq

def atColon : List Char → Option (List Char × List Char)
  | [] => none
  | c :: cs => if c = ':' then some ([], cs)
    else (atColon cs).map fun (front, back) => (c :: front, back)

def actorTypeOf (name : String) : Option ActorType :=
  if name = "user" then some .user
  else if name = "agent" then some .agent
  else if name = "system" then some .system
  else if name = "service" then some .service
  else none

def parseActorRef (raw : String) : ActorRef :=
  let value := trim raw
  if value = "" then ⟨.system, "system"⟩
  else
    let typed : Option ActorRef := (atColon value.toList).bind fun (front, back) =>
      if front = [] then none
      else (actorTypeOf (toLowerCase (String.ofList front))).map fun type =>
        ⟨type, if back = [] then value else String.ofList back⟩
    typed.getD <|
      if value = "system" then ⟨.system, "system"⟩
      else if value = "operator" then ⟨.user, "operator"⟩
      else ⟨.agent, value⟩

structure ProvenanceRevision where
  at_ : String
  by_ : ActorRef
  note : String
deriving DecidableEq

def revisionNote (op : OpRow) : String :=
  match op.payload with
  | .receipt _ (some note) => if trim note = "" then op.payload.opType.text else trim note
  | _ => op.payload.opType.text

def dedupeContributors (revisions : List ProvenanceRevision) : List ActorRef :=
  revisions.foldl (fun contributors rev =>
    if contributors.contains rev.by_ then contributors else contributors ++ [rev.by_]) []

structure Provenance where
  actorRef : ActorRef
  source : Option String
  revisions : List ProvenanceRevision
  contributors : List ActorRef
deriving DecidableEq

def buildProvenanceFromOpLog (ops : List OpRow) (source : Option String) (actorRef : ActorRef) :
    Provenance :=
  let revisions := (ops.insertionSort fun a b => a.opId ≤ b.opId).map fun op =>
    { at_ := op.ts, by_ := parseActorRef op.actor, note := revisionNote op }
  { actorRef, source, revisions, contributors := dedupeContributors revisions }

structure Frontmatter where
  title : String
  tag : Option String
  sourceLink : Option String
  availability : ArtifactDocumentAvailability
  authoredBy : String
  authoredAt : String
deriving DecidableEq

structure CommentEntry where
  opId : Nat
  actor : String
  ts : String
  body : String
deriving DecidableEq

structure ReceiptEntry where
  opId : Nat
  actor : String
  ts : String
  kind : ArtifactDocumentReceiptKind
  note : Option String
deriving DecidableEq

structure Replay where
  frontmatter : Option Frontmatter := none
  content : String := ""
  comments : List CommentEntry := []
  receipts : List ReceiptEntry := []
deriving DecidableEq

def Replay.apply (r : Replay) (op : OpRow) : Replay :=
  match op.payload with
  | .authored title tag content sourceLink availability _ _ _ =>
    { r with
      frontmatter := some {
        title, tag, sourceLink, availability, authoredBy := op.actor, authoredAt := op.ts }
      content }
  | .comment body =>
    { r with comments := r.comments ++ [⟨op.opId, op.actor, op.ts, body⟩] }
  | .receipt kind note =>
    { r with receipts := r.receipts ++ [⟨op.opId, op.actor, op.ts, kind, note⟩] }

def replay (ops : List OpRow) : Replay := ops.foldl Replay.apply {}

structure ArtifactDocumentProjection where
  document : DocumentRow
  frontmatter : Frontmatter
  content : String
  comments : List CommentEntry
  receipts : List ReceiptEntry
  provenance : Provenance
  opCount : Nat
deriving DecidableEq

def projectArtifactDocument (w : World) : Except String (Option ArtifactDocumentProjection) :=
  match w.document with
  | none => .ok none
  | some document =>
    let r := replay w.ops
    match r.frontmatter with
    | none => .error s!"doc-model document {documentId} has no artifact_authored op"
    | some frontmatter => .ok (some {
        document, frontmatter, content := r.content, comments := r.comments
        receipts := r.receipts
        provenance := buildProvenanceFromOpLog w.ops frontmatter.sourceLink
          (parseActorRef frontmatter.authoredBy)
        opCount := w.ops.length })

end IdAgents.DocModel
