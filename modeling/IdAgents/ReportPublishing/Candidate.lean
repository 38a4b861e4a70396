import IdAgents.Library.Json
import IdAgents.Library.Text

namespace IdAgents.ReportPublishing
open JsText

/-- The tables of Unicode: `normalize('NFKC')` and the categories `[\p{Cc}\p{Cf}]`. A part of a
normalized text is normalized, and the printable ASCII characters are in neither category. -/
structure Unicode where
  nfkc : String → String
  isControl : Char → Bool
  nfkc_infix : ∀ s t, t.toList <:+: (nfkc s).toList → nfkc t = t
  printable : ∀ c : Char, 32 ≤ c.toNat → c.toNat < 127 → isControl c = false

def MAX_MARKDOWN_BYTES : Nat := 256 * 1024
def MAX_TITLE_LENGTH : Nat := 500
def MAX_REF_LENGTH : Nat := 1000
def MAX_REASON_LENGTH : Nat := 2000

def require (ok : Bool) (error : String) : Except String Unit := if ok then .ok () else .error error

/-- `REPORT_CANDIDATE_${field.toUpperCase().replaceAll('.', '_')}_INVALID` -/
def invalid (field : String) : String :=
  "REPORT_CANDIDATE_" ++
    String.ofList ((toUpperCase field).toList.map fun c => if c = '.' then '_' else c) ++ "_INVALID"

def record (value : Option Json) (error : String) : Except String Json :=
  match value with
  | some (.obj fields) => .ok (.obj fields)
  | _ => .error error

def exactKeys (value : Json) (allowed : List String) (error : String) : Except String Unit :=
  match value with
  | .obj fields => require (fields.all fun f => allowed.contains f.1) error
  | _ => .ok ()

def plain (unicode : Unicode) (max : Nat) (s : String) : Bool :=
  s ≠ "" && s.utf8ByteSize ≤ max && !s.toList.any unicode.isControl

section
variable (unicode : Unicode)

variable (value : Option Json)

def text (field : String) (max : Nat) : Except String String :=
  match value with
  | some (.str s) =>
    let normalized := trim (unicode.nfkc s)
    if plain unicode max normalized then .ok normalized else .error (invalid field)
  | _ => .error (invalid field)

def trustedText (field : String) (max : Nat) : Except String String :=
  match value with
  | some (.str s) =>
    if trim s = s ∧ plain unicode max s then .ok s else .error (invalid field)
  | _ => .error (invalid field)

variable (s : String)

/-- `/^[a-f0-9]{64}$/` -/
def isContentHash : Bool :=
  s.toList.length = 64 && s.toList.all fun c => c.isDigit || ('a' ≤ c && c ≤ 'f')

def trustedContentHash : Except String String :=
  match value with
  | some (.str s) =>
    if isContentHash s then .ok s else .error "REPORT_CANDIDATE_ARTIFACT_HASH_INVALID"
  | _ => .error "REPORT_CANDIDATE_ARTIFACT_HASH_INVALID"
section
variable (field : String)

def stableRef (max : Nat) : Except String String := do
  let ref ← text unicode value field max
  require (ref.toList.contains ':') (invalid field)
  return ref

def optionalText (max : Nat) : Except String (Option String) :=
  match value with
  | none | some .null => .ok none
  | some v => (text unicode (some v) field max).map some

structure IsoFields where
  year : Int
  month : Int
  day : Int
  hour : Int
  minute : Int
  second : Int
  ms : Int

def after (c : Char) : List Char → Option (List Char)
  | d :: cs => if d = c then some cs else none
  | [] => none

/-- `ISO_UTC_PATTERN`, with the numbers it stands for. -/
def isoFields : Option IsoFields := do
  let (year, cs) ← takeDigits 4 s.toList
  let (month, cs) ← takeDigits 2 (← after '-' cs)
  let (day, cs) ← takeDigits 2 (← after '-' cs)
  let (hour, cs) ← takeDigits 2 (← after 'T' cs)
  let (minute, cs) ← takeDigits 2 (← after ':' cs)
  let (second, cs) ← takeDigits 2 (← after ':' cs)
  let (ms, cs) ← takeDigits 3 (← after '.' cs)
  if cs = ['Z'] then some ⟨year, month, day, hour, minute, second, ms⟩ else none

def IsoFields.date (f : IsoFields) : Option Instant :=
  if 1 ≤ f.month ∧ f.month ≤ 12 ∧ 1 ≤ f.day ∧ f.day ≤ 31 ∧ f.minute < 60 ∧ f.second < 60 ∧
      (f.hour < 24 ∨ f.hour = 24 ∧ f.minute = 0 ∧ f.second = 0 ∧ f.ms = 0) then
    some (((daysOfCivil f.year f.month f.day * 24 + f.hour) * 60 + f.minute) * 60000 +
      f.second * 1000 + f.ms)
  else none

/-- What `strictIso` asks of a normalized text. -/
def checkIso (candidate field : String) : Except String Unit :=
  match isoFields candidate with
  | none => .error (invalid field)
  | some fields =>
    match fields.date with
    | none => .error "Invalid time value"
    | some t => require (toISOString t = candidate) (invalid field)

def strictIso : Except String String := do
  let candidate ← text unicode value field 64
  checkIso candidate field
  return candidate

def optionalIso : Except String (Option String) :=
  match value with
  | none | some .null => .ok none
  | some v => (strictIso unicode (some v) field).map some

end

/-- A field that may be absent: `...(value === undefined ? {} : { … })`. -/
def whenPresent (read : Option Json → Except String α) : Except String (Option α) :=
  match value with
  | none => .ok none
  | some v => (read (some v)).map some

inductive ReportAttentionRequest where
  | none | read | answer | decide | approve | requestChange
deriving DecidableEq

def ReportAttentionRequest.text : ReportAttentionRequest → String
  | .none => "NONE"
  | .read => "READ"
  | .answer => "ANSWER"
  | .decide => "DECIDE"
  | .approve => "APPROVE"
  | .requestChange => "REQUEST_CHANGE"

def ReportAttentionRequest.ofText? : Option ReportAttentionRequest :=
  [none, read, answer, decide, approve, requestChange].find? (·.text = s)

structure Attention where
  request : ReportAttentionRequest
  reasonCode : Option String
  reason : Option String
  reviewBy : Option String
  expiresAt : Option String
deriving DecidableEq

structure AttentionSchema where
  reasonCode : String
  reviewBy : String
  expiresAt : String
  invalid : String
  unknownField : String
  kindInvalid : String
  metadataWithoutRequest : String

def Attention.metadata (a : Attention) : List (Option String) :=
  [a.reasonCode, a.reason, a.reviewBy, a.expiresAt]

/-- An attention of kind `NONE` has no metadata. -/
def Attention.consistent (a : Attention) : Bool :=
  a.request ≠ .none || a.metadata.all (·.isNone)

def parseAttention (schema : AttentionSchema) (value : Option Json) : Except String Attention := do
  let attention ← record value schema.invalid
  exactKeys attention ["request", schema.reasonCode, "reason", schema.reviewBy, schema.expiresAt]
    schema.unknownField
  let requestText ← text unicode (attention.field? "request") "attention.request" 32
  let request ← (ReportAttentionRequest.ofText? requestText).elim (.error schema.kindInvalid) .ok
  let reasonCode ← optionalText unicode (attention.field? schema.reasonCode)
    ("attention." ++ schema.reasonCode) 500
  let reason ← optionalText unicode (attention.field? "reason") "attention.reason" MAX_REASON_LENGTH
  let reviewBy ← optionalIso unicode (attention.field? schema.reviewBy)
    ("attention." ++ schema.reviewBy)
  let expiresAt ← optionalIso unicode (attention.field? schema.expiresAt)
    ("attention." ++ schema.expiresAt)
  let parsed : Attention := ⟨request, reasonCode, reason, reviewBy, expiresAt⟩
  require parsed.consistent schema.metadataWithoutRequest
  return parsed

structure AgentReportCandidate where
  title : Option String
  reportRef : Option String
  projectRef : Option (Option String)
  familyRef : Option (Option String)
  attention : Attention

def candidateAttention : AttentionSchema where
  reasonCode := "reason_code"
  reviewBy := "review_by"
  expiresAt := "expires_at"
  invalid := "REPORT_CANDIDATE_ATTENTION_INVALID"
  unknownField := "REPORT_CANDIDATE_ATTENTION_UNKNOWN_FIELD"
  kindInvalid := "REPORT_CANDIDATE_ATTENTION_KIND_INVALID"
  metadataWithoutRequest := "REPORT_CANDIDATE_ATTENTION_METADATA_WITHOUT_REQUEST"

def parseAgentReportCandidate (value : Json) : Except String AgentReportCandidate := do
  let root ← record (some value) "REPORT_CANDIDATE_INVALID"
  exactKeys root ["schema_version", "title", "report_ref", "project_ref", "family_ref", "attention"]
    "REPORT_CANDIDATE_UNKNOWN_FIELD"
  require (root.field? "schema_version" = some (.str "report-candidate.v1"))
    "REPORT_CANDIDATE_SCHEMA_UNSUPPORTED"
  let attention ← parseAttention unicode candidateAttention (root.field? "attention")
  let title ← whenPresent (root.field? "title") (text unicode · "title" MAX_TITLE_LENGTH)
  let reportRef ← whenPresent (root.field? "report_ref")
    (stableRef unicode · "report_ref" MAX_REF_LENGTH)
  let projectRef ← whenPresent (root.field? "project_ref")
    (optionalText unicode · "project_ref" MAX_REF_LENGTH)
  let familyRef ← whenPresent (root.field? "family_ref")
    (optionalText unicode · "family_ref" MAX_REF_LENGTH)
  return { title, reportRef, projectRef, familyRef, attention }

/-- `isAbsolute`, on a POSIX host. -/
def isAbsolute (path : String) : Bool := path.toList.head? = some '/'

/-- `extname(path).toLowerCase()` -/
def extname (path : String) : String :=
  let name := (((splitChars '/' path.toList).filter (· ≠ [])).getLast?).getD []
  match splitChars '.' name with
  | [] | [_] => ""
  | [[], _] => ""
  | parts => toLowerCase (String.ofList ('.' :: (parts.getLast?).getD []))

def isMarkdownPath (path : String) : Bool :=
  isAbsolute path && [".md", ".markdown"].contains (extname path)

/-- What `admitReportCandidateArtifact` returns: it has checked the path. -/
structure AdmittedReportCandidateArtifact where
  contentPath : String
  contentHash : String
  byteSize : Nat
  admitted : isMarkdownPath contentPath

structure CandidateContext where
  dispatchId : String
  artifact : AdmittedReportCandidateArtifact
  defaultTitle : String
  occurredAt : String

structure ReportPromotionRequest where
  contentPath : String
  title : String
  reportRef : String
  sourceRef : String
  expectedContentHash : String
  expectedByteSize : Nat
  projectRef : Option (Option String)
  familyRef : Option (Option String)
  attention : Attention
  occurredAt : String
deriving DecidableEq

/-- The characters `encodeURIComponent` leaves. -/
def isUnescaped (c : Char) : Bool := c.isAlphanum || "-_.!~*'()".toList.contains c

def hexUpper (n : Nat) : Char := (Nat.digitChar n).toUpper

def encodeByte (b : UInt8) : List Char := ['%', hexUpper (b.toNat / 16), hexUpper (b.toNat % 16)]

def encodeURIComponent : String :=
  String.ofList (s.toList.flatMap fun c =>
    if isUnescaped c then [c] else (String.utf8EncodeChar c).flatMap encodeByte)

example : encodeURIComponent "phid:é" = "phid%3A%C3%A9" := by decide +kernel

def sourceRefOf (dispatchId : String) : String :=
  "kapelle-dispatch://" ++ encodeURIComponent dispatchId

def isByteSize (n : Nat) : Bool := 1 ≤ n && n ≤ MAX_MARKDOWN_BYTES

def buildReportPromotionRequest (candidateValue : Json) (context : CandidateContext) :
    Except String ReportPromotionRequest := do
  let candidate ← parseAgentReportCandidate unicode candidateValue
  let dispatchId ← trustedText unicode (some (.str context.dispatchId)) "dispatchId" 500
  let artifactPath ← trustedText unicode (some (.str context.artifact.contentPath))
    "artifactPath" 4000
  let contentHash ← trustedContentHash (some (.str context.artifact.contentHash))
  require (isByteSize context.artifact.byteSize) "REPORT_CANDIDATE_ARTIFACT_SIZE_INVALID"
  let occurredAt ← strictIso unicode (some (.str context.occurredAt)) "occurredAt"
  let title ← candidate.title.elim
    (trustedText unicode (some (.str context.defaultTitle)) "defaultTitle" MAX_TITLE_LENGTH) .ok
  let reportRef ← candidate.reportRef.elim
    (stableRef unicode (some (.str ("report:dispatch:" ++ dispatchId))) "reportRef"
      MAX_REF_LENGTH) .ok
  return {
    contentPath := artifactPath
    title := title
    reportRef := reportRef
    sourceRef := sourceRefOf dispatchId
    expectedContentHash := contentHash
    expectedByteSize := context.artifact.byteSize
    projectRef := candidate.projectRef
    familyRef := candidate.familyRef
    attention := candidate.attention
    occurredAt := occurredAt }

def natOf : Option Nat :=
  match value with
  | some (.num s) =>
    let n := Nat.ofDigitChars 10 s.toList 0
    if toString n = s then some n else none
  | _ => none

def requestAttention : AttentionSchema where
  reasonCode := "reasonCode"
  reviewBy := "reviewBy"
  expiresAt := "expiresAt"
  invalid := "REPORT_PROMOTION_REQUEST_ATTENTION_INVALID"
  unknownField := "REPORT_PROMOTION_REQUEST_ATTENTION_UNKNOWN_FIELD"
  kindInvalid := "REPORT_PROMOTION_REQUEST_ATTENTION_KIND_INVALID"
  metadataWithoutRequest := "REPORT_PROMOTION_REQUEST_ATTENTION_METADATA_WITHOUT_REQUEST"

def REQUEST_SCHEMA_VERSION : Json := .str "report-promotion-request.v2"

/-- `producer.kind`, `producer.id` and `producer.label`. -/
def producerFields : List (String × Json) :=
  [("kind", .str "SERVICE"), ("id", .str "agent-manager"), ("label", .str "Agent Manager")]

def parseReportPromotionRequest (value : Json) : Except String ReportPromotionRequest := do
  let root ← record (some value) "REPORT_PROMOTION_REQUEST_INVALID"
  exactKeys root ["schemaVersion", "contentPath", "title", "reportRef", "sourceRef",
    "expectedContentHash", "expectedByteSize", "projectRef", "familyRef", "producer", "attention",
    "occurredAt"] "REPORT_PROMOTION_REQUEST_UNKNOWN_FIELD"
  require (root.field? "schemaVersion" = some REQUEST_SCHEMA_VERSION)
    "REPORT_PROMOTION_REQUEST_SCHEMA_UNSUPPORTED"
  let contentPath ← trustedText unicode (root.field? "contentPath") "contentPath" 4000
  require (isMarkdownPath contentPath) "REPORT_PROMOTION_REQUEST_CONTENT_PATH_INVALID"
  let sourceRef ← trustedText unicode (root.field? "sourceRef") "sourceRef" MAX_REF_LENGTH
  require ("kapelle-dispatch://".toList.isPrefixOf sourceRef.toList)
    "REPORT_PROMOTION_REQUEST_SOURCE_REF_INVALID"
  let contentHash ← trustedContentHash (root.field? "expectedContentHash")
  let byteSize ← ((natOf (root.field? "expectedByteSize")).filter isByteSize).elim
    (.error "REPORT_PROMOTION_REQUEST_CONTENT_SIZE_INVALID") .ok
  let producer ← record (root.field? "producer") "REPORT_PROMOTION_REQUEST_PRODUCER_INVALID"
  exactKeys producer ["kind", "id", "label"] "REPORT_PROMOTION_REQUEST_PRODUCER_UNKNOWN_FIELD"
  require (producerFields.all fun f => producer.field? f.1 = some f.2)
    "REPORT_PROMOTION_REQUEST_PRODUCER_INVALID"
  let attention ← parseAttention unicode requestAttention (root.field? "attention")
  let title ← text unicode (root.field? "title") "title" MAX_TITLE_LENGTH
  let reportRef ← stableRef unicode (root.field? "reportRef") "reportRef" MAX_REF_LENGTH
  let projectRef ← whenPresent (root.field? "projectRef")
    (optionalText unicode · "projectRef" MAX_REF_LENGTH)
  let familyRef ← whenPresent (root.field? "familyRef")
    (optionalText unicode · "familyRef" MAX_REF_LENGTH)
  let occurredAt ← strictIso unicode (root.field? "occurredAt") "occurredAt"
  return {
    contentPath := contentPath
    title := title
    reportRef := reportRef
    sourceRef := sourceRef
    expectedContentHash := contentHash
    expectedByteSize := byteSize
    projectRef := projectRef
    familyRef := familyRef
    attention := attention
    occurredAt := occurredAt }

end

def textField (name : String) (value : Option String) : List (String × Json) :=
  (value.map fun s => (name, Json.str s)).toList

def refField (name : String) (value : Option (Option String)) : List (String × Json) :=
  (value.map fun ref => (name, ref.elim Json.null .str)).toList

def Attention.toJson (a : Attention) : Json :=
  .obj (("request", .str a.request.text) :: (textField "reasonCode" a.reasonCode ++
    textField "reason" a.reason ++ textField "reviewBy" a.reviewBy ++
    textField "expiresAt" a.expiresAt))

/-- The value `JSON.parse` reads in the text `JSON.stringify` writes of a request. -/
def ReportPromotionRequest.toJson (r : ReportPromotionRequest) : Json :=
  .obj ([("schemaVersion", REQUEST_SCHEMA_VERSION), ("contentPath", .str r.contentPath),
      ("title", .str r.title), ("reportRef", .str r.reportRef), ("sourceRef", .str r.sourceRef),
      ("expectedContentHash", .str r.expectedContentHash),
      ("expectedByteSize", .num (toString r.expectedByteSize))] ++
    refField "projectRef" r.projectRef ++ refField "familyRef" r.familyRef ++
    [("producer", .obj producerFields), ("attention", r.attention.toJson),
      ("occurredAt", .str r.occurredAt)])

def Survives (unicode : Unicode) (r : ReportPromotionRequest) : Prop :=
  parseReportPromotionRequest unicode r.toJson = .ok r

end IdAgents.ReportPublishing
