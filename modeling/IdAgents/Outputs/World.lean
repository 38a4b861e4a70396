import IdAgents.Library.Interleaving
import IdAgents.Library.Dict
import IdAgents.Outputs.Types

namespace IdAgents.Outputs
open JsMap AtomicProgram

/-- A write of the review row, with the row that its patch was computed from. -/
inductive ReviewWrite where
  | view (first : Option ReviewState) (viewer ts : String) (sourceLink : Option String)
  | approve (first : Option ReviewState) (approver ts : String) (note sourceLink : Option String)
  | reject (first : Option ReviewState) (rejecter ts : String) (note sourceLink : Option String)
  | touch (first : Option ReviewState) (sourceLink : Option String)
  | block (first : Option ReviewState) (blockers : List String) (sourceLink : Option String)
  | ship (first : Option ReviewState) (shipper shippedAt : String) (sourceLink : Option String)

namespace ReviewWrite

def first : ReviewWrite → Option ReviewState
  | view first .. | approve first .. | reject first .. | touch first _ | block first ..
  | ship first .. => first

/-- `req.source_link ?? existing?.source_link ?? null` -/
def link (sourceLink : Option String) (existing : Option ReviewState) : Option String :=
  sourceLink.or (existing.bind (·.sourceLink))

def patch : ReviewWrite → ReviewPatch
  | view existing viewer ts sourceLink => {
      lastViewedAt := some ts
      viewedByLast := some viewer
      viewedCount := some ((existing.elim 0 (·.viewedCount)) + 1)
      firstViewedAt := some ((existing.bind (·.firstViewedAt)).or ts)
      sourceLink := some (link sourceLink existing) }
  | approve existing approver ts note sourceLink => {
      -- first-approve wins for the timestamp
      approvedAt := some ((existing.bind (·.approvedAt)).or ts)
      approvedBy := some approver
      approvalNote := some (note.or (existing.bind (·.approvalNote)))
      sourceLink := some (link sourceLink existing) }
  | reject existing rejecter ts note sourceLink => {
      rejectedAt := some ((existing.bind (·.rejectedAt)).or ts)
      rejectedBy := some rejecter
      rejectNote := some (note.or (existing.bind (·.rejectNote)))
      sourceLink := some (link sourceLink existing) }
  | touch existing sourceLink => { sourceLink := some (link sourceLink existing) }
  | block existing blockers sourceLink => {
      shipBlockers := some (some blockers)
      sourceLink := some (link sourceLink existing) }
  | ship existing shipper shippedAt sourceLink => {
      shippedAt := some (some shippedAt)
      shippedBy := some (some shipper)
      shipBlockers := some none
      sourceLink := some (link sourceLink existing) }

end ReviewWrite

structure RoutedDispatch where
  queryId : String
  dispatchPhid : String
  toAgent : String

/-- What a request asks of the outside, answered as of a step: the clock, the id that is minted for
a suggestion, the sender of the drafts, the body of the file behind an artifact, and the dispatch
that a comment is routed as. -/
structure Environment where
  clock : Nat → String
  mintSuggestionId : Nat → String
  send : Nat → CaneDraftPayload → String → Except String CaneSendResult
  fileBody : Nat → String → String
  routeComment : Nat → String → Option RoutedDispatch

structure World where
  reviews : Dict String ReviewState
  operations : OperationTable
  drafts : Dict String CaneDraftPayload
  step : Nat
  env : Environment

/-- The queries of the operations of an artifact: the count that is the version (asked for the check
and for the answer), the operation with a key (asked by a stale request, by a comment and by an
append), the count of a key, the newest id after an INSERT, a page, and the payload of one. -/
inductive OperationQuery where
  | version
  | ackVersion
  | staleReplay (key : String)
  | replay (key : String)
  | byKey (key : String)
  | countKey (key : String)
  | readBack
  | page
  | payload

inductive Stmt where
  | now
  | mintSuggestionId
  | send (existing : Option ReviewState) (payload : CaneDraftPayload) (body : String)
  | fileBody (artifactId : String)
  | routeComment (artifactId : String)
  | getReviewState (artifactId : String)
  | insertReview (artifactId : String) (write : ReviewWrite) (nowIso : String)
  | updateReview (existing : ReviewState) (write : ReviewWrite) (nowIso : String)
  | selectOperations (query : OperationQuery) (artifactId : String)
  | insertOperation (op : NewOp)
  | updatePayload (artifactId : String) (opId : Nat) (payload : Option Json)
  | getArtifactDraft (artifactId : String)
  | putArtifactDraft (artifactId : String) (payload : CaneDraftPayload)

namespace Stmt

/-- A SELECT of operations answers with all rows of the artifact in the order of their ids: each
query filters, counts and cuts them as its SQL says. -/
def Ans : Stmt → Type
  | now | mintSuggestionId | fileBody _ => String
  | send .. => Except String CaneSendResult
  | routeComment _ => Option RoutedDispatch
  | getReviewState _ => Option ReviewState
  | insertReview .. | insertOperation _ => Except String Unit
  | updateReview .. | updatePayload .. | putArtifactDraft .. => Unit
  | selectOperations .. => List ArtifactOp
  | getArtifactDraft _ => Option CaneDraftPayload

def answer : (c : Stmt) → World → c.Ans
  | now, w => w.env.clock w.step
  | mintSuggestionId, w => w.env.mintSuggestionId w.step
  | send _ payload body, w => w.env.send w.step payload body
  | fileBody artifactId, w => w.env.fileBody w.step artifactId
  | routeComment artifactId, w => w.env.routeComment w.step artifactId
  | getReviewState artifactId, w => w.reviews.get? artifactId
  | insertReview artifactId _ _, w =>
    if w.reviews.has artifactId then
      .error "UNIQUE constraint failed: artifact_review_state.artifact_id"
    else .ok ()
  | insertOperation op, w =>
    if w.operations.insertRefused op then
      .error ("UNIQUE constraint failed: artifact_operations.artifact_id, " ++
        "artifact_operations.idempotency_key")
    else .ok ()
  | updateReview .., _ | updatePayload .., _ | putArtifactDraft .., _ => ()
  | selectOperations _ artifactId, w => w.operations.operations artifactId
  | getArtifactDraft artifactId, w => w.drafts.get? artifactId

/-- The review rows a statement leaves. An UPDATE writes every column but the key and the time of
creation. -/
def reviews : Stmt → World → Dict String ReviewState
  | insertReview artifactId write nowIso, w =>
    if w.reviews.has artifactId then w.reviews
    else w.reviews.set artifactId (write.patch.create artifactId nowIso)
  | updateReview existing write nowIso, w =>
    match w.reviews.get? existing.artifactId with
    | none => w.reviews
    | some row => w.reviews.set existing.artifactId
        { write.patch.merge existing nowIso with createdAt := row.createdAt }
  | _, w => w.reviews

def operations : Stmt → World → OperationTable
  | insertOperation op, w => w.operations.insert op
  | updatePayload artifactId opId payload, w => w.operations.updatePayload artifactId opId payload
  | _, w => w.operations

def effect (c : Stmt) (w : World) : World where
  reviews := c.reviews w
  operations := c.operations w
  drafts := match c with
    | putArtifactDraft artifactId payload => w.drafts.set artifactId payload
    | _ => w.drafts
  step := w.step + 1
  env := w.env

end Stmt

abbrev sql : Signature := ⟨Stmt, Stmt.Ans⟩

instance : Store sql World where
  answer := Stmt.answer
  effect := Stmt.effect

abbrev Prog (α : Type) := Program sql String α

def World.log (w : World) (artifactId : String) : List ArtifactOp := w.operations.operations artifactId

theorem World.log_sorted (w : World) (artifactId : String) :
    (w.log artifactId).Pairwise (·.opId < ·.opId) :=
  w.operations.operations_sorted artifactId

theorem eq_of_opId {log : List ArtifactOp} (h : log.Pairwise (·.opId < ·.opId)) (ha : a ∈ log)
    (hb : b ∈ log) (hid : a.opId = b.opId) : a = b := by
  have hids : (log.map ArtifactOp.opId).Nodup :=
    (List.pairwise_map.mpr h).imp fun hlt => Nat.ne_of_lt hlt
  exact List.inj_on_of_nodup_map hids ha hb hid

theorem World.eq_of_key {w : World} (ha : a ∈ w.log artifactId) (hb : b ∈ w.log artifactId)
    (hkey : a.idempotencyKey = some key) (hkey' : b.idempotencyKey = some key) : a = b := by
  obtain ⟨hmem, hartifact⟩ := OperationTable.mem_operations.mp ha
  obtain ⟨hmem', hartifact'⟩ := OperationTable.mem_operations.mp hb
  have hentry : a.entry = some (artifactId, key) := by
    rw [NewOp.entry, hkey, hartifact]
    rfl
  have hentry' : b.entry = some (artifactId, key) := by
    rw [NewOp.entry, hkey', hartifact']
    rfl
  by_contra hne
  have hpairs := List.pairwise_filterMap.1 w.operations.entry_nodup
  have : Std.Symm fun a b : ArtifactOp =>
      ∀ i, a.entry = some i → ∀ j, b.entry = some j → i ≠ j :=
    ⟨fun _ _ h i hi j hj => (h j hj i hi).symm⟩
  exact hpairs.forall hmem hmem' hne _ hentry _ hentry' rfl

@[simp] theorem Stmt.effect_reviews (c : Stmt) (w : World) : (c.effect w).reviews = c.reviews w := rfl

@[simp] theorem Stmt.effect_operations (c : Stmt) (w : World) :
    (c.effect w).operations = c.operations w := rfl

@[simp] theorem Stmt.effect_env (c : Stmt) (w : World) : (c.effect w).env = w.env := rfl

end IdAgents.Outputs
