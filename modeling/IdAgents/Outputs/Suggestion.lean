import Mathlib.Data.List.Sort
import IdAgents.Outputs.Ops

namespace IdAgents.Outputs
open JsText AtomicProgram

structure SuggestionAnchor where
  quote : String
  charStart : Nat
  charEnd : Nat
  headingPath : Option (List String) := none

structure SuggestionCreateInput where
  anchor : SuggestionAnchor
  originalText : String
  proposedText : String
  author : String
  rationale : String
  reaction : Option String := none

def anchorJson (anchor : SuggestionAnchor) : Json :=
  .obj [("kind", .str "span"), ("quote", .str anchor.quote),
    ("char_start", natJson anchor.charStart), ("char_end", natJson anchor.charEnd),
    ("heading_path", anchor.headingPath.elim .null fun path => .arr (path.map .str))]

variable (suggestionId : String)

def buildSuggestionCreatePayload (input : SuggestionCreateInput) : Json :=
  .obj [("op", .str "create"), ("schema_version", .str "artifact.suggestion.v1"),
    ("suggestion_id", .str suggestionId), ("anchor", anchorJson input.anchor),
    ("original_text", .str input.originalText), ("proposed_text", .str input.proposedText),
    ("rationale", .str input.rationale), ("reaction", optStr input.reaction),
    ("state", .str "proposed")]

structure TransitionExtra where
  appliedEditOpId : Option Nat := none
  reason : Option String := none
  supersededBy : Option String := none

def buildSuggestionTransitionPayload (suggestionId state : String) (extra : TransitionExtra) :
    Json :=
  .obj [("op", .str "transition"), ("schema_version", .str "artifact.suggestion.v1"),
    ("suggestion_id", .str suggestionId), ("state", .str state),
    ("applied_edit_op_id", extra.appliedEditOpId.elim .null natJson),
    ("reason", optStr extra.reason), ("superseded_by", optStr extra.supersededBy)]

def buildEditPayload (content : String) (note : Option String) : Json :=
  match note with
  | some note => if note = "" then .obj [("content", .str content)]
      else .obj [("content", .str content), ("note", .str note)]
  | none => .obj [("content", .str content)]

def numField? (name : String) (v : Json) : Option String :=
  match v.field? name with
  | some (.num text) => some text
  | _ => none

structure SuggestionRecord where
  suggestionId : String
  artifactId : String
  state : String
  /-- The payload of the create, with the anchor, the texts, the rationale and the reaction. -/
  create : Json
  author : String
  createdAt : String
  updatedAt : String
  appliedEditOpId : Option String
  reason : Option String
  supersededBy : Option String

variable (op : ArtifactOp)

def ArtifactOp.field (name : String) : Option String :=
  op.payload.bind (·.strField? name)

def isAbout (op : ArtifactOp) : Bool :=
  op.opType = .suggestion && op.field "suggestion_id" = some suggestionId

def isCreate : Bool := op.field "op" = some "create"

def isTransition : Bool := op.field "op" = some "transition"

def SuggestionRecord.advance (record : SuggestionRecord) (op : ArtifactOp) : SuggestionRecord :=
  if isTransition op then
    { record with
      state := (op.field "state").getD ""
      updatedAt := op.ts
      appliedEditOpId := (op.payload.bind (numField? "applied_edit_op_id")).or
        record.appliedEditOpId
      reason := (op.field "reason").or record.reason
      supersededBy := (op.field "superseded_by").or record.supersededBy }
  else record

def proposedRecord (artifactId suggestionId : String) (op : ArtifactOp) : SuggestionRecord where
  suggestionId := suggestionId
  artifactId := artifactId
  state := "proposed"
  create := op.payload.getD (.obj [])
  author := op.actor
  createdAt := op.ts
  updatedAt := op.ts
  appliedEditOpId := none
  reason := none
  supersededBy := none

def reconstructSuggestion (ops : List ArtifactOp) (artifactId suggestionId : String) :
    Option SuggestionRecord :=
  let relevant := (ops.filter (isAbout suggestionId)).insertionSort (·.opId ≤ ·.opId)
  (relevant.find? isCreate).map fun create =>
    relevant.foldl SuggestionRecord.advance (proposedRecord artifactId suggestionId create)

theorem isAbout_create (input : SuggestionCreateInput) (op : ArtifactOp)
    (hop : op.opType = .suggestion)
    (hpayload : op.payload = some (buildSuggestionCreatePayload suggestionId input)) :
    isAbout suggestionId op ∧ isCreate op := by
  simp [isAbout, isCreate, ArtifactOp.field, hop, hpayload, buildSuggestionCreatePayload,
    Json.strField?, Json.field?]

theorem relevant_eq {ops : List ArtifactOp} (h : ops.Pairwise (·.opId < ·.opId))
    (suggestionId : String) : (ops.filter (isAbout suggestionId)).insertionSort (·.opId ≤ ·.opId) =
      ops.filter (isAbout suggestionId) := by
  apply List.Pairwise.insertionSort_eq
  exact (h.filter _).imp Nat.le_of_lt

theorem reconstructSuggestion_isSome {ops : List ArtifactOp}
    (h : ops.Pairwise (·.opId < ·.opId)) (artifactId suggestionId : String) :
    (reconstructSuggestion ops artifactId suggestionId).isSome ↔
      ∃ op ∈ ops, isAbout suggestionId op ∧ isCreate op := by
  rw [reconstructSuggestion, relevant_eq h, Option.isSome_map, List.find?_isSome]
  constructor
  · rintro ⟨op, hop, hcreate⟩
    obtain ⟨hmem, habout⟩ := List.mem_filter.mp hop
    exact ⟨op, hmem, habout, hcreate⟩
  · rintro ⟨op, hmem, habout, hcreate⟩
    exact ⟨op, List.mem_filter.mpr ⟨hmem, habout⟩, hcreate⟩

structure CreateSuggestionResult where
  suggestion : SuggestionRecord
  opId : Nat
  idempotent : Bool

structure WriteOptions where
  idempotencyKey : Option String := none
  sourceLink : Option String := none

/-- `SELECT COUNT(*) … WHERE idempotency_key = ?`, asked only when there is a key. -/
def countMatchingIdempotency (artifactId : String) (key : Option String) : Prog Nat :=
  match key.filter (· ≠ "") with
  | none => .ret 0
  | some key => .issue (.selectOperations (.countKey key) artifactId) fun ops =>
      .ret (List.countP (fun op : ArtifactOp => op.idempotencyKey = some key) ops)

def createdSuggestion (artifactId suggestionId : String) (opId before : Nat)
    (ops : List ArtifactOp) : Prog CreateSuggestionResult :=
  let found := ops.find? (·.opId = opId)
  let resolvedId := (found.bind (·.field "suggestion_id")).getD suggestionId
  match reconstructSuggestion ops artifactId resolvedId with
  | none => .throw ("suggestion " ++ resolvedId ++ " was not readable after create")
  | some suggestion => .ret ⟨suggestion, opId, decide (0 < before)⟩

def createSuggestion (artifactId : String) (input : SuggestionCreateInput) (opts : WriteOptions) :
    Prog CreateSuggestionResult :=
  now.bind fun ts =>
  .issue .mintSuggestionId fun suggestionId =>
  (getReviewState artifactId).bind fun existing =>
  (touchReview artifactId existing opts.sourceLink ts).bind fun _ =>
  (countMatchingIdempotency artifactId opts.idempotencyKey).bind fun before =>
  (appendOperation artifactId .suggestion input.author ts
    (some (buildSuggestionCreatePayload suggestionId input))
    ((ReviewWrite.link opts.sourceLink existing).or (some "manager:/artifacts/suggestions"))
    opts.idempotencyKey).bind fun opId =>
  (listOperations artifactId 1000 0).bind fun ops =>
  createdSuggestion artifactId suggestionId opId before ops

end IdAgents.Outputs
