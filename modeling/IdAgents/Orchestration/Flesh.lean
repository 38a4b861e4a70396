import IdAgents.Library.Regex
import IdAgents.Orchestration.Storage

namespace IdAgents.Orchestration
open JsText JsRegex AtomicProgram

structure FleshLane where
  agent : String
  writeScopes : List String
  tracks : List String
deriving DecidableEq

inductive FleshRiskDefault where
  | routine | build
deriving DecidableEq, Repr

def FleshRiskDefault.riskClass : FleshRiskDefault → RiskClass
  | .routine => .routine
  | .build => .build

structure FleshConfig where
  project : String
  defaultProvider : String
  defaultRuntime : String
  defaultRiskClass : FleshRiskDefault
  defaultTokenEstimate : Int
  maxTokenEstimate : Int
  lanes : List FleshLane
  defaultLane : FleshLane

def defaultFleshConfig : FleshConfig where
  project := "kapelle"
  defaultProvider := "anthropic"
  defaultRuntime := "claude-code-cli"
  defaultRiskClass := .build
  defaultTokenEstimate := 300000
  maxTokenEstimate := 2000000
  lanes := [⟨"roger", ["/Users/kilgore/Dropbox/Code/cane/id-agents", "id-agents"],
    ["T-ORCH", "T-CKPT", "T-DEPLOY", "T-MODEL"]⟩]
  defaultLane := ⟨"roger", ["/Users/kilgore/Dropbox/Code/cane/id-agents", "id-agents"], []⟩

def fleshPolicyVersion : String := "flesh-policy.v1"

def autoReadyConfidenceThreshold : Rat := 82 / 100

def space : Regex := .one isSpace

def spaces : Regex := plus space

def anyOf (texts : List String) : Regex := alts (texts.map litI)

def optional (texts : List String) : Regex := opt (anyOf texts)

/-- `\s+` and a `the` that may stand there. -/
def spacesThe : Regex := seqs [spaces, opt (.seq (litI "the") spaces)]

/-- The high-risk phrases, each with its `source`. -/
def highRiskDenylist : List (String × Regex) := [
  ("\\bforce[- ]?push(?:ing|es|ed)?\\b",
    seqs [.wordBoundary, litI "force", opt (oneOf "- "), litI "push",
      optional ["ing", "es", "ed"], .wordBoundary]),
  ("\\bdelete\\s+(?:data|database|table|production|prod|records?|rows?)\\b",
    seqs [.wordBoundary, litI "delete", spaces,
      alts [litI "data", litI "database", litI "table", litI "production", litI "prod",
        seqs [litI "record", optional ["s"]], seqs [litI "row", optional ["s"]]], .wordBoundary]),
  ("\\bdrop\\s+(?:table|database)\\b",
    seqs [.wordBoundary, litI "drop", spaces, anyOf ["table", "database"], .wordBoundary]),
  ("\\bpurchase|buy\\b|payment|billing|charge\\s+card|credit\\s+card\\b",
    alts [seqs [.wordBoundary, litI "purchase"], seqs [litI "buy", .wordBoundary],
      litI "payment", litI "billing", seqs [litI "charge", spaces, litI "card"],
      seqs [litI "credit", spaces, litI "card", .wordBoundary]]),
  ("\\b(?:dns|domain)\\s+(?:record|registr|transfer|change)|\\bnameservers?\\b",
    alts [seqs [.wordBoundary, anyOf ["dns", "domain"], spaces,
        anyOf ["record", "registr", "transfer", "change"]],
      seqs [.wordBoundary, litI "nameserver", optional ["s"], .wordBoundary]]),
  ("\\bsend\\s+(?:an?\\s+)?email|email\\s+(?:campaign|blast)|mailing\\s+list\\b",
    alts [seqs [.wordBoundary, litI "send", spaces,
        opt (seqs [litI "a", optional ["n"], spaces]), litI "email"],
      seqs [litI "email", spaces, anyOf ["campaign", "blast"]],
      seqs [litI "mailing", spaces, litI "list", .wordBoundary]]),
  ("\\bchange\\s+(?:the\\s+)?budget|raise\\s+(?:the\\s+)?(?:cap|ceiling|budget)\\b",
    alts [seqs [.wordBoundary, litI "change", spacesThe, litI "budget"],
      seqs [litI "raise", spacesThe, anyOf ["cap", "ceiling", "budget"], .wordBoundary]]),
  ("\\b(?:scheduler|orchestration)\\s+guardrail|kill[- ]?switch|disable\\s+(?:the\\s+)?(?:cap|gate|guardrail)\\b",
    alts [seqs [.wordBoundary, anyOf ["scheduler", "orchestration"], spaces, litI "guardrail"],
      seqs [litI "kill", opt (oneOf "- "), litI "switch"],
      seqs [litI "disable", spacesThe, anyOf ["cap", "gate", "guardrail"], .wordBoundary]]),
  ("\\b(?:rotate|change|revoke)\\s+(?:api\\s+)?(?:keys?|secrets?|credentials?|tokens?)\\b",
    seqs [.wordBoundary, anyOf ["rotate", "change", "revoke"], spaces,
      opt (seqs [litI "api", spaces]),
      alts [seqs [litI "key", optional ["s"]], seqs [litI "secret", optional ["s"]],
        seqs [litI "credential", optional ["s"]], seqs [litI "token", optional ["s"]]],
      .wordBoundary]),
  ("\\bpublic\\s+deploy|deploy\\s+to\\s+production|ship\\s+to\\s+prod\\b",
    alts [seqs [.wordBoundary, litI "public", spaces, litI "deploy"],
      seqs [litI "deploy", spaces, litI "to", spaces, litI "production"],
      seqs [litI "ship", spaces, litI "to", spaces, litI "prod", .wordBoundary]]),
  ("\\bexternal\\s+account|third[- ]?party\\s+account\\b",
    alts [seqs [.wordBoundary, litI "external", spaces, litI "account"],
      seqs [litI "third", opt (oneOf "- "), litI "party", spaces, litI "account",
        .wordBoundary]])]

def matchesHighRiskDenylist (texts : List (Option String)) : Option String :=
  (texts.filterMap given).findSome? fun text =>
    (highRiskDenylist.find? fun phrase => phrase.2.test text).map Prod.fst

structure ValidateFleshPatchOptions where
  knownAgents : List String
  knownWriteScopes : List String
  maxTokenEstimate : Int
  projectTag : String

def hasPrefix (text start : String) : Bool := start.toList.isPrefixOf text.toList

def digit : Regex := .one Char.isDigit

def upperLetter : Regex := .one fun c => 'A' ≤ c && c ≤ 'Z'

/-- `/\[T-?(?:[A-Z]{1,6}|\d{1,3})(?:\.\d+)?[^\]]*\]/` -/
def trackTagPattern : Regex :=
  seqs [lit "[T", opt (lit "-"),
    alts [.seq upperLetter (atMost 5 upperLetter), .seq digit (atMost 2 digit)],
    opt (.seq (lit ".") (plus digit)), .many (.one (· ≠ ']')), lit "]"]

/-- `/\b\w+:\s/` -/
def ownerCommandPattern : Regex := seqs [.wordBoundary, plus (.one isWord), lit ":", space]

variable (patch : FleshPatch)
section
variable (opts : ValidateFleshPatchOptions)

def scopeErrors : List String :=
  if patch.writeScope.isEmpty then ["write_scope must be non-empty for build work"]
  else
    let broad := patch.writeScope.filter fun scope => !opts.knownWriteScopes.contains scope
    if broad.isEmpty then []
    else ["write_scope broader than known project scopes: " ++ String.intercalate ", " broad]

def tokenErrors : List String :=
  if patch.tokenEstimate ≤ 0 then ["token_estimate must be a finite positive number"]
  else if opts.maxTokenEstimate < patch.tokenEstimate then
    [s!"token_estimate {patch.tokenEstimate} exceeds per-item max {opts.maxTokenEstimate}"]
  else []

def errorIf (condition : Bool) (error : String) : List String := if condition then [error] else []

def validateFleshPatch : List String :=
  let body := patch.dispatchBody
  let isBuild : Bool := patch.riskClass = .build
  errorIf (!hasPrefix body s!"[project: {opts.projectTag}]")
    s!"dispatch_body must start with [project: {opts.projectTag}]" ++
  errorIf (!trackTagPattern.test body) "dispatch_body must include the track tag" ++
  errorIf (patch.toAgent = "" || !ownerCommandPattern.test body)
    "dispatch_body must include a clear owner command (e.g. 'agent: do X')" ++
  errorIf (patch.toAgent = "" || !opts.knownAgents.contains patch.toAgent)
    s!"to_agent '{patch.toAgent}' not in the known agent catalog/lane map" ++
  errorIf (!autoRunRisk.contains patch.riskClass)
    s!"risk_class '{patch.riskClass.text}' is not auto-runnable (routine|build only)" ++
  (if isBuild then scopeErrors patch opts else []) ++
  tokenErrors patch opts ++
  errorIf (isBuild && !(anyOf ["verif", "test", "build"]).test body)
    "build dispatch_body must include a verification requirement" ++
  errorIf (isBuild &&
      !(alts [seqs [litI "spec", .many space, litI "054"], litI "promot"]).test body)
    "build dispatch_body must include Spec 054 promotion requirement"

end

/-- The budget is `none` where it is infinite. -/
structure AutoReadyInput where
  patch : FleshPatch
  sourceTitle : String
  knownItemIds : List String
  remainingDaemonBudget : Option Int
  validate : ValidateFleshPatchOptions

structure AutoReadyDecision where
  readyDecision : ReadyDecision
  reasons : List String

/-- `q.toFixed(2)` of a number that is not negative. -/
def toFixed2 (q : Rat) : String :=
  let cents := (q * 100 + 1 / 2).floor.toNat
  toString (cents / 100) ++ "." ++ padLeft 2 (toString (cents % 100))

def autoReadyReasons (input : AutoReadyInput) : List String :=
  let patch := input.patch
  let unresolved := patch.dependencies.filter fun d => !input.knownItemIds.contains d
  (match matchesHighRiskDenylist [some patch.dispatchBody, some input.sourceTitle] with
    | some hit => ["high-risk denylist match: /" ++ hit ++ "/"]
    | none => []) ++
  errorIf (patch.confidence < autoReadyConfidenceThreshold)
    ("confidence " ++ toFixed2 patch.confidence ++ " < 0.82") ++
  errorIf (!autoRunRisk.contains patch.riskClass)
    s!"risk_class '{patch.riskClass.text}' requires approval batch" ++
  (validateFleshPatch patch input.validate).map ("invalid: " ++ ·) ++
  errorIf (!unresolved.isEmpty)
    ("unresolved dependencies: " ++ String.intercalate ", " unresolved) ++
  (match input.remainingDaemonBudget with
    | some budget => errorIf (budget < patch.tokenEstimate)
        s!"token_estimate {patch.tokenEstimate} exceeds remaining daemon budget {budget}"
    | none => [])

def evaluateAutoReady (input : AutoReadyInput) : AutoReadyDecision :=
  let reasons := autoReadyReasons input
  ⟨if reasons.isEmpty then .autoReady else .needsChrisBatch, reasons⟩

variable (track : Option String)

def recognizedLane (config : FleshConfig) : Option FleshLane :=
  (given track).bind fun track => config.lanes.find? fun lane =>
    lane.tracks.any fun p => hasPrefix (toUpperCase track) (toUpperCase p)

def resolveLane (config : FleshConfig) : FleshLane :=
  (recognizedLane track config).getD config.defaultLane

/-- `title.split(/—|–| - /)` -/
def splitDashes : List Char → List (List Char)
  | [] => [[]]
  | '—' :: cs | '–' :: cs => [] :: splitDashes cs
  | ' ' :: '-' :: ' ' :: cs => [] :: splitDashes cs
  | c :: cs =>
    match splitDashes cs with
    | [] => [[c]]
    | w :: ws => (c :: w) :: ws

def descriptionOf (title : String) : String :=
  let parts := (splitDashes title.toList).map String.ofList
  let desc := trim (if 1 < parts.length then String.intercalate " - " (parts.drop 1) else title)
  if desc = "" then title else desc

def trackTag : String :=
  let t := trim (track.getD "")
  if t = "" then "[T-?]" else "[" ++ t ++ "]"

/-- `s.length` -/
def unitLength (s : String) : Nat := (s.toList.flatMap codeUnits).length

variable (item : BacklogRow)

/-- The sums are of two decimals, so `toFixed(4)` leaves them. -/
def scoreConfidence (lane : FleshLane) (config : FleshConfig) : Rat :=
  if (matchesHighRiskDenylist [some item.title, some (descriptionOf item.title)]).isSome then 0
  else
    let c : Rat := 50 / 100 +
      (if (recognizedLane item.track config).isSome then 32 / 100 else 0) +
      (if 12 ≤ unitLength (descriptionOf item.title) then 10 / 100 else 0) +
      (if item.sourceRefs.isEmpty then 0 else 5 / 100) -
      (if lane.writeScopes.isEmpty then 30 / 100 else 0)
    min 1 (max 0 c)

def authoredTargetAgent : Option String := given (item.toAgent.map trim)

def generateDispatchBody (config : FleshConfig) (targetAgent : String) : String :=
  let src := match given item.sourceRefs.head? with
    | some ref => " (per " ++ ref ++ ")"
    | none => ""
  s!"[project: {config.project}]" ++ trackTag item.track ++ "[BUILD] " ++
    targetAgent ++ ": implement \"" ++ descriptionOf item.title ++ "\"" ++ src ++ ". " ++
    "Read the existing code first, make the smallest change that works, and add unit tests. " ++
    "Verify with `npm run build && npm test` (clean tsc build + green vitest) before reporting " ++
    "done. Spec 054 v2 promotion to main required after green unless the dispatcher sets " ++
    "promote:false."

variable (config : FleshConfig)

def validateOptionsFromConfig : ValidateFleshPatchOptions where
  knownAgents := config.defaultLane.agent :: config.lanes.map (·.agent)
  knownWriteScopes := config.defaultLane.writeScopes ++ config.lanes.flatMap (·.writeScopes)
  maxTokenEstimate := config.maxTokenEstimate
  projectTag := config.project

structure FleshInput where
  item : BacklogRow
  config : FleshConfig
  knownItemIds : List String
  remainingDaemonBudget : Option Int

def provisionalPatch (config : FleshConfig) : FleshPatch :=
  let lane := resolveLane item.track config
  let targetAgent := (authoredTargetAgent item).getD lane.agent
  let authoredDispatchBody := item.dispatchBody.filter fun body => trim body ≠ ""
  { toAgent := targetAgent
    dispatchBody := authoredDispatchBody.getD (generateDispatchBody item config targetAgent)
    riskClass := config.defaultRiskClass.riskClass
    writeScope := lane.writeScopes.take 1
    dependencies := item.dependencies
    tokenEstimate := config.defaultTokenEstimate
    provider := config.defaultProvider
    runtime := config.defaultRuntime
    valueScore := item.valueScore
    priority := item.priority
    confidence := scoreConfidence item lane config
    readyDecision := .needsChrisBatch
    reason := "" }

def fleshDecision (input : FleshInput) : AutoReadyDecision :=
  let patch := provisionalPatch input.item input.config
  let validate := validateOptionsFromConfig input.config
  evaluateAutoReady {
    patch := patch
    sourceTitle := input.item.title
    knownItemIds := input.knownItemIds
    remainingDaemonBudget := input.remainingDaemonBudget
    validate := { validate with knownAgents := patch.toAgent :: validate.knownAgents } }

def fleshItem (input : FleshInput) : FleshPatch :=
  let decision := fleshDecision input
  { provisionalPatch input.item input.config with
    readyDecision := decision.readyDecision
    reason := if decision.readyDecision = .autoReady then "all auto-ready checks passed"
      else String.intercalate "; " decision.reasons }

structure FleshRunOptions where
  dryRun : Bool := false
  limit : Option Int := none
  itemIds : List String := []
  remainingDaemonBudget : Option Int := none

structure FleshRunItemResult where
  itemId : String
  patch : FleshPatch
  promoted : Bool

structure FleshRunSummary where
  dryRun : Bool
  considered : Nat
  autoReady : Nat := 0
  needsChrisBatch : Nat := 0
  results : List FleshRunItemResult := []

def FleshRunSummary.count (summary : FleshRunSummary) (item : BacklogRow) (patch : FleshPatch) :
    FleshRunSummary :=
  let ready : Bool := patch.readyDecision = .autoReady
  { summary with
    autoReady := summary.autoReady + if ready then 1 else 0
    needsChrisBatch := summary.needsChrisBatch + if ready then 0 else 1
    results := summary.results ++ [⟨item.itemId, patch, ready && !summary.dryRun⟩] }

def fleshOutcome (patch : FleshPatch) : FleshOutcome where
  itemId := item.itemId
  fleshStatus := if patch.readyDecision = .autoReady then .approvedReady else .needsChrisBatch
  fleshSource := item.sourceRefs.head?.getD "roadmap"
  fleshConfidence := patch.confidence
  policyVersion := fleshPolicyVersion
  patch := patch
  promote := patch.readyDecision = .autoReady

/-- One candidate of a pass. `fleshItem` throws on no row, so the `catch` around it stays empty. -/
def fleshCandidate (knownItemIds : List String)
    (remainingDaemonBudget : Option Int) (summary : FleshRunSummary) (item : BacklogRow) :
    Prog FleshRunSummary :=
  let patch := fleshItem ⟨item, config, knownItemIds, remainingDaemonBudget⟩
  let counted := summary.count item patch
  if summary.dryRun then .ret counted
  else
    (recordFleshOutcome (fleshOutcome item patch)).bind fun _ =>
    (insertFleshLog item.itemId).bind fun _ => .ret counted

def runFleshPass (maxFleshPerTick : Int) (opts : FleshRunOptions) : Prog FleshRunSummary :=
  (listFleshCandidates (opts.limit.getD maxFleshPerTick) opts.itemIds).bind fun candidates =>
  listAllItemIds.bind fun knownItemIds =>
  Program.fold candidates { dryRun := opts.dryRun, considered := candidates.length }
    (fleshCandidate config knownItemIds opts.remainingDaemonBudget)

end IdAgents.Orchestration
