import Mathlib.Data.List.Nodup
import Mathlib.Data.List.Pairwise
import IdAgents.Library.Json

namespace IdAgents.Outputs
open List

inductive ArtifactOpType where
  | view | approve | reject | suggestedChange | dispatchFollowUp | shipAttempted | shipBlocked
  | commentRecorded | edit | reviseDraft | commentRouted | suggestion
  deriving DecidableEq, Repr

/-- What an INSERT into `artifact_operations` gives; the row is numbered by the table. The payload is
absent when the column is null or holds no JSON text, which every reader treats alike. -/
structure NewOp where
  artifactId : String
  opType : ArtifactOpType
  actor : String
  ts : String
  payload : Option Json
  sourceLink : Option String
  idempotencyKey : Option String

/-- A row of `artifact_operations`. -/
structure ArtifactOp extends NewOp where
  opId : Nat

/-- The entry of an operation in the partial unique index on artifact and key. -/
def NewOp.entry (op : NewOp) : Option (String × String) :=
  op.idempotencyKey.map (op.artifactId, ·)

/-- The table `artifact_operations`: its rows in the order of their automatic ids. -/
structure OperationTable where
  rows : List ArtifactOp
  seq : Nat
  sorted : (rows.map ArtifactOp.opId).Pairwise (· < ·)
  bound : ∀ op ∈ rows, op.opId ≤ seq
  entry_nodup : (rows.filterMap (·.entry)).Nodup

namespace OperationTable

def empty : OperationTable := ⟨[], 0, by simp, by simp, by simp⟩

def next (t : OperationTable) (op : NewOp) : ArtifactOp := { op with opId := t.seq + 1 }

def insertRefused (t : OperationTable) (op : NewOp) : Bool :=
  op.entry.any fun entry => (t.rows.filterMap (·.entry)).contains entry

variable (t : OperationTable)

theorem next_above (op : NewOp) :
    ((t.rows ++ [t.next op]).map ArtifactOp.opId).Pairwise (· < ·) := by
  rw [map_append, pairwise_append]
  refine ⟨t.sorted, by simp, ?_⟩
  intro a ha b hb
  obtain ⟨row, hrow, rfl⟩ := mem_map.mp ha
  obtain rfl : b = t.seq + 1 := by simpa [next] using hb
  exact Nat.lt_succ_of_le (t.bound row hrow)

def insert (t : OperationTable) (op : NewOp) : OperationTable :=
  if h : t.insertRefused op then t
  else {
    rows := t.rows ++ [t.next op]
    seq := t.seq + 1
    sorted := t.next_above op
    bound := by
      intro row hrow
      rcases List.mem_append.mp hrow with hold | hnew
      · exact Nat.le_succ_of_le (t.bound row hold)
      · rw [List.mem_singleton] at hnew
        rw [hnew]
        exact Nat.le_refl _
    entry_nodup := by
      rw [List.filterMap_append, List.nodup_append]
      refine ⟨t.entry_nodup, ?_, ?_⟩
      · cases hentry : op.entry <;> simp [next, hentry]
      · intro a ha b hb hab
        subst hab
        have hentry : op.entry = some a := by simpa [next] using hb
        apply h
        rw [insertRefused, hentry, Option.any_some, List.contains_iff_mem]
        exact ha }

/-- `UPDATE artifact_operations SET payload_json = …` of the comment `opId` of the artifact. -/
def writesPayload (artifactId : String) (opId : Nat) (op : ArtifactOp) : Bool :=
  op.artifactId = artifactId && op.opId = opId && op.opType = .commentRecorded

def withPayload (artifactId : String) (opId : Nat) (payload : Option Json) (op : ArtifactOp) :
    ArtifactOp :=
  if writesPayload artifactId opId op then { op with payload := payload } else op

variable (op : ArtifactOp)

@[simp] theorem withPayload_opId : (withPayload artifactId opId payload op).opId = op.opId := by
  rw [withPayload]
  split <;> rfl

@[simp] theorem withPayload_artifactId :
    (withPayload artifactId opId payload op).artifactId = op.artifactId := by
  rw [withPayload]
  split <;> rfl

@[simp] theorem withPayload_idempotencyKey :
    (withPayload artifactId opId payload op).idempotencyKey = op.idempotencyKey := by
  rw [withPayload]
  split <;> rfl

@[simp] theorem withPayload_entry : (withPayload artifactId opId payload op).entry = op.entry := by
  rw [withPayload]
  split <;> rfl

def updatePayload (t : OperationTable) (artifactId : String) (opId : Nat)
    (payload : Option Json) : OperationTable where
  rows := t.rows.map (withPayload artifactId opId payload)
  seq := t.seq
  sorted := by
    have hids : ArtifactOp.opId ∘ withPayload artifactId opId payload = ArtifactOp.opId := by
      funext op
      exact withPayload_opId op
    rw [List.map_map, hids]
    exact t.sorted
  bound := by
    intro row hrow
    obtain ⟨old, hold, rfl⟩ := List.mem_map.mp hrow
    rw [withPayload_opId]
    exact t.bound old hold
  entry_nodup := by
    have hentry : (fun op : ArtifactOp => op.entry) ∘ withPayload artifactId opId payload =
        fun op => op.entry := by
      funext op
      exact withPayload_entry op
    rw [List.filterMap_map, hentry]
    exact t.entry_nodup

/-- The rows of one artifact, `ORDER BY op_id ASC`. -/
def operations (t : OperationTable) (artifactId : String) : List ArtifactOp :=
  t.rows.filter (·.artifactId = artifactId)

theorem operations_sorted (artifactId : String) :
    (t.operations artifactId).Pairwise (·.opId < ·.opId) :=
  (pairwise_map.mp t.sorted).filter _

theorem operations_next_sorted (artifactId : String) (op : NewOp) :
    (t.operations artifactId ++ [t.next op]).Pairwise (·.opId < ·.opId) := by
  rw [pairwise_append]
  refine ⟨t.operations_sorted artifactId, by simp, ?_⟩
  intro old hold new hnew
  rw [mem_singleton] at hnew
  rw [hnew]
  exact Nat.lt_succ_of_le (t.bound old (mem_of_mem_filter hold))

variable {t : OperationTable}

theorem mem_operations {op : ArtifactOp} :
    op ∈ t.operations artifactId ↔ op ∈ t.rows ∧ op.artifactId = artifactId := by
  simp [operations]

variable {op : NewOp}

theorem rows_insert (h : t.insertRefused op = false) :
    (t.insert op).rows = t.rows ++ [t.next op] := by
  rw [insert, dif_neg (by simp [h])]

theorem insert_of_refused (h : t.insertRefused op) : t.insert op = t := by
  rw [insert, dif_pos h]

theorem operations_insert (h : t.insertRefused op = false) :
    (t.insert op).operations op.artifactId = t.operations op.artifactId ++ [t.next op] := by
  simp [operations, rows_insert h, filter_append, next]

theorem operations_insert_ne (h : op.artifactId ≠ artifactId) :
    (t.insert op).operations artifactId = t.operations artifactId := by
  cases hrefused : t.insertRefused op with
  | true => rw [insert_of_refused hrefused]
  | false => simp [operations, rows_insert hrefused, filter_append, next, h]

end OperationTable

/-- A row of `artifact_review_state`. -/
structure ReviewState where
  artifactId : String
  sourceLink : Option String
  firstViewedAt : Option String
  lastViewedAt : Option String
  viewedByLast : Option String
  viewedCount : Int
  approvedAt : Option String
  approvedBy : Option String
  approvalNote : Option String
  rejectedAt : Option String
  rejectedBy : Option String
  rejectNote : Option String
  shippedAt : Option String
  shippedBy : Option String
  shipBlockers : Option (List String)
  createdAt : String
  updatedAt : String

/-- `Partial<ArtifactReviewStateRow>`: a field that is there may be null. -/
structure ReviewPatch where
  sourceLink : Option (Option String) := none
  firstViewedAt : Option (Option String) := none
  lastViewedAt : Option (Option String) := none
  viewedByLast : Option (Option String) := none
  viewedCount : Option Int := none
  approvedAt : Option (Option String) := none
  approvedBy : Option (Option String) := none
  approvalNote : Option (Option String) := none
  rejectedAt : Option (Option String) := none
  rejectedBy : Option (Option String) := none
  rejectNote : Option (Option String) := none
  shippedAt : Option (Option String) := none
  shippedBy : Option (Option String) := none
  shipBlockers : Option (Option (List String)) := none

/-- The row that `upsertReviewState` creates. -/
def ReviewPatch.create (patch : ReviewPatch) (artifactId nowIso : String) : ReviewState where
  artifactId := artifactId
  sourceLink := patch.sourceLink.join
  firstViewedAt := patch.firstViewedAt.join
  lastViewedAt := patch.lastViewedAt.join
  viewedByLast := patch.viewedByLast.join
  viewedCount := patch.viewedCount.getD 0
  approvedAt := patch.approvedAt.join
  approvedBy := patch.approvedBy.join
  approvalNote := patch.approvalNote.join
  rejectedAt := patch.rejectedAt.join
  rejectedBy := patch.rejectedBy.join
  rejectNote := patch.rejectNote.join
  shippedAt := patch.shippedAt.join
  shippedBy := patch.shippedBy.join
  shipBlockers := patch.shipBlockers.join
  createdAt := nowIso
  updatedAt := nowIso

/-- The row that `upsertReviewState` writes over the one it has read. -/
def ReviewPatch.merge (patch : ReviewPatch) (existing : ReviewState) (nowIso : String) :
    ReviewState where
  artifactId := existing.artifactId
  sourceLink := patch.sourceLink.getD existing.sourceLink
  firstViewedAt := patch.firstViewedAt.getD existing.firstViewedAt
  lastViewedAt := patch.lastViewedAt.getD existing.lastViewedAt
  viewedByLast := patch.viewedByLast.getD existing.viewedByLast
  viewedCount := patch.viewedCount.getD existing.viewedCount
  approvedAt := patch.approvedAt.getD existing.approvedAt
  approvedBy := patch.approvedBy.getD existing.approvedBy
  approvalNote := patch.approvalNote.getD existing.approvalNote
  rejectedAt := patch.rejectedAt.getD existing.rejectedAt
  rejectedBy := patch.rejectedBy.getD existing.rejectedBy
  rejectNote := patch.rejectNote.getD existing.rejectNote
  shippedAt := patch.shippedAt.getD existing.shippedAt
  shippedBy := patch.shippedBy.getD existing.shippedBy
  shipBlockers := patch.shipBlockers.getD existing.shipBlockers
  createdAt := existing.createdAt
  updatedAt := nowIso

structure CaneDraftRevision where
  at_ : String
  by_ : String
  fromLen : Nat

structure CaneDraftPayload where
  draftId : String
  bodyMarkdown : String
  revisionHistory : List CaneDraftRevision

structure CaneSendEvidence where
  sentAt : String
  messageId : String
  alreadySent : Bool

structure CaneSendResult where
  ok : Bool
  evidence : Option CaneSendEvidence
  error : Option String

def optStr (s : Option String) : Json := s.elim .null .str

def natJson (n : Nat) : Json := .num (toString n)

end IdAgents.Outputs
