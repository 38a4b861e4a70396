import IdAgents.Inbox.Types
import IdAgents.Library.Regex

namespace IdAgents.Inbox
open JsText JsMap JsRegex

structure ShadowGlobal where
  originKind : String
  originRef : Option String
  receivedAt : Option String
  lifecycleState : String
  classification : Option String
  classificationReason : Option String
  sourceSubject : Option String
  sourceFrom : Option String
  sourceText : Option String
  sourceExcerpt : Option String
  projectHint : Option String
  triagedAt : Option String
  assignedAgent : Option String
  dispatchId : Option String
  queryId : Option String
  doneAt : Option String
  artifactPath : Option String
  lastErrorCode : Option String

structure ShadowDoc where
  id : String
  global : ShadowGlobal

structure ShadowFile where
  name : String
  raw : String
  doc : Option ShadowDoc

/-- The sources of a projection, which stay as they are, and what it is run with: a hash as its first
sixteen digits, and `new Date(text).toISOString()`, which throws for no date. -/
structure Sources where
  shadowDir : String
  shadowFiles : List ShadowFile
  inboxMd : Option String
  sha16 : String → String
  toISOString : String → Option String

def isSet (text : Option String) : Bool := text.any (· ≠ "")

def mapOperatorState (s : ShadowGlobal) : OperatorState :=
  if isSet s.lastErrorCode then .errored
  else if isSet s.doneAt && isSet s.artifactPath then .outputReady
  else if isSet s.doneAt then .checkedOff
  else if isSet s.assignedAgent || isSet s.dispatchId then .waitingOnAgent
  else if isSet s.triagedAt then .needsRoute
  else .new

def mapSourceKind (kind : String) : SourceKind :=
  match kind with
  | "email" => .email
  | "telegram" => .telegram
  | "voice" | "voice_note" => .voiceNote
  | "forwarded_instruction" => .forwardedInstruction
  | "api" => .api
  | _ => .manualCapture

variable (src : Sources)

def shadowRow (file : ShadowFile) (doc : ShadowDoc) (receivedAt now : String) : InboxItemRow where
  inboxPhid := doc.id
  operatorState := mapOperatorState doc.global
  sourceKind := mapSourceKind doc.global.originKind
  sourceExternalId := doc.global.originRef
  sourceText := doc.global.sourceText
  sourceExcerpt := doc.global.sourceExcerpt
  sourceSubject := doc.global.sourceSubject
  sourceFrom := doc.global.sourceFrom
  classificationLabel := doc.global.classification.filter (· ≠ "unknown")
  classificationConfidence := none
  classificationClassifier := none
  classificationRationale := doc.global.classificationReason
  projectHint := doc.global.projectHint
  agentHint := doc.global.assignedAgent
  originRef := doc.global.originRef
  receivedAt := receivedAt
  triagedAt := doc.global.triagedAt
  resolvedAt := doc.global.doneAt
  snoozedUntil := none
  checkedOffAt := doc.global.doneAt
  checkedOffReason := none
  source := "index"
  parityStatus := "ok"
  generatedAt := now
  projectionVersion := 1
  legacyInboxMdLine := none
  legacyShadowPath := some (src.shadowDir ++ "/" ++ file.name)
  readAt := none

def linkTo (phid : String) (kind : LinkKind) (target : Option String) : List InboxLinkRow :=
  match target with
  | some target => if target = "" then [] else [⟨phid, kind, target⟩]
  | none => []

def shadowLinks (doc : ShadowDoc) : List InboxLinkRow :=
  linkTo doc.id .dispatch doc.global.dispatchId ++ linkTo doc.id .dispatch doc.global.queryId ++
    linkTo doc.id .artifact doc.global.artifactPath

def shadowAudit (file : ShadowFile) (doc : ShadowDoc) (now : String) : InboxAuditEvent where
  inboxPhid := doc.id
  opId := "proj-shadow-" ++ file.name
  opType := "PROJECTION_IMPORT"
  actorId := "system:projection"
  ts := now
  reason := none
  summary := "Projected from shadow JSON " ++ file.name
  inputRevision := some (src.sha16 file.raw)
  linksJson := none

structure ProjectedItem where
  row : InboxItemRow
  links : List InboxLinkRow
  audit : Option InboxAuditEvent

variable (now : String)

def shadowItem (file : ShadowFile) : Option ProjectedItem :=
  file.doc.bind fun doc => doc.global.receivedAt.map fun receivedAt =>
    ⟨shadowRow src file doc receivedAt now, shadowLinks doc, some (shadowAudit src file doc now)⟩

def shadowItems : List ProjectedItem :=
  (src.shadowFiles.filter fun file => ".json".toList.isSuffixOf file.name.toList).filterMap
    (shadowItem src now)

structure ParsedInboxLine where
  checked : Bool
  date : String
  channel : Option String
  tag : Option String
  text : String
  resolution : Option String

def space : Regex := .many (.one isSpace)

def bracketed (n : Nat) : Regex := seqs [lit "[", .group n (plus (.one (· ≠ ']'))), lit "]"]

def isLineTerminator (c : Char) : Bool :=
  c = '\n' || c = '\r' || c.toNat = 0x2028 || c.toNat = 0x2029

/-- `/^- \[([ x])\] \[([^\]]+)\]\s*(?:\[([^\]]+)\])?\s*(?:#(\w+))?\s*(?:—\s*)?(.*)$/` -/
def lineRegex : Regex :=
  seqs [lit "- [", .group 1 (oneOf " x"), lit "] ", bracketed 2, space, opt (bracketed 3), space,
    opt (seqs [lit "#", .group 4 (plus (.one isWord))]), space, opt (seqs [lit "—", space]),
    .group 5 (.many (.one (!isLineTerminator ·)))]

/-- The groups of `^r$`, in the order a backtracking matcher finds them. -/
def wholeMatch (r : Regex) (text : String) : Option (List (Nat × List Char)) :=
  ((r.ends ⟨[], text.toList, []⟩).find? (·.after.isEmpty)).map (·.groups)

def groupText (groups : List (Nat × List Char)) (n : Nat) : Option String :=
  (groups.find? (·.1 = n)).map fun g => String.ofList g.2

variable (line : String)

def parseInboxMdLine : Option ParsedInboxLine :=
  (wholeMatch lineRegex line).map fun groups =>
    let parts := split '→' ((groupText groups 5).getD "")
    { checked := groupText groups 1 = some "x"
      date := trim ((groupText groups 2).getD "")
      channel := (groupText groups 3).map trim
      tag := (groupText groups 4).map trim
      text := trim (parts.headD "")
      resolution := parts[1]?.map trim }

def inferSourceKind (channel : Option String) : SourceKind :=
  match channel with
  | some "email" => .email
  | some "telegram" => .telegram
  | some "voice" => .voiceNote
  | _ => .manualCapture

def inferOperatorStateFromMd (parsed : ParsedInboxLine) : OperatorState :=
  if parsed.checked then .checkedOff else .new

def inferClassification (tag : Option String) : Option String :=
  match tag with
  | some "task" | some "instruction" | some "actionable" => some "action"
  | some "note" => some "idea"
  | some "link" | some "personal" | some "newsletter" | some "notification" |
    some "expense_receipt" => some "reference"
  | _ => none

def digit : Regex := .one (·.isDigit)

def dayRegex : Regex := seqs [exactly 4 digit, lit "-", exactly 2 digit, lit "-", exactly 2 digit]

def minuteRegex : Regex :=
  seqs [dayRegex, plus (.one isSpace), exactly 2 digit, lit ":", exactly 2 digit]

/-- `text.replace(' ', 'T')` -/
def replaceSpace : List Char → List Char
  | [] => []
  | c :: cs => if c = ' ' then 'T' :: cs else c :: replaceSpace cs

/-- `none` where the date throws. -/
def normalizeDate (dateStr : String) : Option String :=
  let cleaned := trim dateStr
  if minuteRegex.startsText cleaned then
    src.toISOString (String.ofList (replaceSpace cleaned.toList) ++ ":00.000Z")
  else if dayRegex.isWhole cleaned then src.toISOString (cleaned ++ "T00:00:00.000Z")
  else some cleaned

def mdPhid : String := "inbox-md-" ++ src.sha16 line

def mdRow (parsed : ParsedInboxLine) (date now : String) : InboxItemRow where
  inboxPhid := mdPhid src line
  operatorState := inferOperatorStateFromMd parsed
  sourceKind := inferSourceKind parsed.channel
  sourceExternalId := none
  sourceText := some parsed.text
  sourceExcerpt := some (sliceUnits 200 parsed.text)
  sourceSubject := none
  sourceFrom := none
  classificationLabel := inferClassification parsed.tag
  classificationConfidence := none
  classificationClassifier := if isSet parsed.tag then some .import else none
  classificationRationale :=
    parsed.tag.bind fun tag => if tag = "" then none else some s!"Inferred from #{tag} tag"
  projectHint := none
  agentHint := none
  originRef := none
  receivedAt := date
  triagedAt := if parsed.checked then some date else none
  resolvedAt := if parsed.checked then some date else none
  snoozedUntil := none
  checkedOffAt := if parsed.checked then some date else none
  checkedOffReason := parsed.resolution
  source := "index"
  parityStatus := "ok"
  generatedAt := now
  projectionVersion := 1
  legacyInboxMdLine := some line
  legacyShadowPath := none
  readAt := none

def firstGroup (r : Regex) (text : String) : Option String :=
  (r.firstMatch [] text.toList).bind fun found => groupText found.2 1

/-- `/<verb>?\s+to\s+(<target>)/i` for a verb in the past tense. -/
def verbTo (verb : String) (target : Char → Bool) : Regex :=
  seqs [litI verb, opt (litI "d"), plus (.one isSpace), litI "to", plus (.one isSpace),
    .group 1 (plus (.one target))]

def isPathChar (c : Char) : Bool := !isSpace c && c ≠ '('

def resolutionLinks (phid : String) (resolution : Option String) : List InboxLinkRow :=
  match resolution with
  | none => []
  | some text =>
    linkTo phid .dispatch (firstGroup (verbTo "dispatche" isWord) text) ++
    linkTo phid .filed (firstGroup (verbTo "save" isPathChar) text) ++
    (if includes text "to-do" then []
      else linkTo phid .filed (firstGroup (verbTo "adde" isPathChar) text))

def isBucketLine : Bool :=
  (seqs [lit "## ", plus (.one (!isLineTerminator ·))]).startsText line

def mdItems (src : Sources) (now : String) : List String → List ProjectedItem
  | [] => []
  | line :: lines =>
    if isBucketLine line then mdItems src now lines
    else match parseInboxMdLine line with
      | none => mdItems src now lines
      | some parsed => match normalizeDate src parsed.date with
        | none => []
        | some date =>
          ⟨mdRow src line parsed date now,
            resolutionLinks (mdPhid src line) (parsed.resolution.filter (· ≠ "")), none⟩ ::
            mdItems src now lines

def projectedItems : List ProjectedItem :=
  shadowItems src now ++ mdItems src now (src.inboxMd.elim [] (split '\n'))

def projectItem (t : InboxTables) (item : ProjectedItem) : InboxTables :=
  let t := item.links.foldl InboxTables.upsertLink (t.upsertInboxItem item.row)
  item.audit.elim t t.appendAuditEvent

def runFullProjection (t : InboxTables) : InboxTables :=
  (projectedItems src now).foldl projectItem t

end IdAgents.Inbox
