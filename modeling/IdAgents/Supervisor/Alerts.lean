import IdAgents.Library.Json
import IdAgents.Library.Regex
import IdAgents.Library.Text
import IdAgents.Library.Dict

namespace IdAgents.Supervisor
open JsText JsMap JsRegex

inductive DispatchStatus where
  | queued | inFlight | bounced | done | failed | cancelled | needsClarification
deriving DecidableEq, Repr

/-- A row of `dispatch_scheduler_queue`, its JSON columns parsed: `null` where there is none. -/
structure QueueRow where
  teamId : String
  dispatchPhid : String
  queryId : String
  toAgent : String
  status : DispatchStatus
  completedAt : Option Instant
  subject : String
  failureKind : Option String
  failureDetail : Option String
  promote : Bool
  promotionResult : Json
  promotionInput : Json
deriving DecidableEq

inductive AlertKind where
  | stuckQuery | agentDown | buildFailure | promotionFailure | worktreeHygiene | newsRepeatedError
  | protocolGap | diskWarn | buildBehindOrigin | modelApiError
deriving DecidableEq, Repr

inductive AlertSeverity where
  | info | warning | critical
deriving DecidableEq, Repr

inductive AlertConfidence where
  | low | medium | high
deriving DecidableEq, Repr

inductive EvidenceSource where
  | dispatch | metrics | graphs | agentDone | agentNeedsInput | news | systemHealth
deriving DecidableEq, Repr

structure EvidenceEntry where
  source : EvidenceSource
  ref : String
  observedAt : Instant
  detail : String
deriving DecidableEq

structure RuleFinding where
  dedupeKey : String
  kind : AlertKind
  severity : AlertSeverity
  confidence : AlertConfidence := .high
  title : String
  summary : String
  evidence : List EvidenceEntry
  counters : Option (String × Int) := none
  agentId : Option String := none
  queryId : Option String := none
  dispatchId : Option String := none
deriving DecidableEq

structure SourceSnapshot where
  collectedAt : Instant
  terminalDispatches : List QueueRow

/-- `!!v`, where `none` is `undefined`. -/
def truthy : Option Json → Bool
  | none | some .null => false
  | some (.bool b) => b
  | some (.num text) => text ≠ "0"
  | some (.str s) => s ≠ ""
  | some (.arr _) | some (.obj _) => true

mutual
/-- `String(v)` -/
def jsonText : Json → String
  | .null => "null"
  | .bool b => if b then "true" else "false"
  | .num text => text
  | .str s => s
  | .arr xs => String.intercalate "," (elementTexts xs)
  | .obj _ => "[object Object]"
/-- The elements of an array, where `null` is printed as nothing. -/
def elementTexts : List Json → List String
  | [] => []
  | .null :: xs => "" :: elementTexts xs
  | x :: xs => jsonText x :: elementTexts xs
end

def valueText (v : Option Json) : String := (v.map jsonText).getD "undefined"

/-- `v ?? w` -/
def orElse (v w : Json) : Json := if v = .null then w else v

inductive WorktreeHygieneIncidentCode where
  | aheadBehindDivergence | dirtyPrimaryCheckout | dirtyCheckout | staleBase | branchHeldByWorktree
  | unlinkedBranch
deriving DecidableEq, Repr

def WorktreeHygieneIncidentCode.text : WorktreeHygieneIncidentCode → String
  | aheadBehindDivergence => "ahead_behind_divergence"
  | dirtyPrimaryCheckout => "dirty_primary_checkout"
  | dirtyCheckout => "dirty_checkout"
  | staleBase => "stale_base"
  | branchHeldByWorktree => "branch_held_by_worktree"
  | unlinkedBranch => "unlinked_branch"

structure WorktreeHygieneIncident where
  repo : String
  branch : String
  incidentCode : WorktreeHygieneIncidentCode
  action : String

def anything : Regex :=
  .many (.one fun c => !(c = '\n' || c = '\r' || c = '\u2028' || c = '\u2029'))

def digits : Regex := plus (.one Char.isDigit)

/-- `\bname\s*=\s*\d+` -/
def countOf (name : String) : Regex :=
  seqs [.wordBoundary, lit name, .many (.one isSpace), lit "=", .many (.one isSpace), digits]

def hygienePatterns : List (Regex × WorktreeHygieneIncidentCode × String) := [
  (alts [seqs [countOf "ahead", anything, countOf "behind"],
      seqs [countOf "behind", anything, countOf "ahead"],
      lit "ahead/behind", lit "has diverged", lit "divergent"],
    .aheadBehindDivergence, "create_fresh_branch_from_base"),
  (alts [lit "dirty primary", seqs [lit "primary checkout", anything, lit "dirty"]],
    .dirtyPrimaryCheckout, "inventory_and_preserve_dirty_paths"),
  (alts [lit "working tree has unapproved dirty paths", lit "dirty checkout",
      lit "dirty working tree", lit "uncommitted changes"],
    .dirtyCheckout, "inventory_and_preserve_dirty_paths"),
  (alts [lit "stale base", lit "behind origin/main", seqs [lit "behind ", anything, lit "base"],
      seqs [lit "fetch", anything, lit "base", anything, lit "failed"]],
    .staleBase, "create_fresh_branch_from_base"),
  (alts [seqs [lit "branch ", anything, lit "held by", anything, lit "worktree"],
      lit "already checked out", lit "is already used by worktree",
      seqs [lit "worktree", anything, lit "holds", anything, lit "branch"]],
    .branchHeldByWorktree, "use_clean_clone_or_worktree"),
  (alts [lit "unlinked branch", lit "no linked dispatch", lit "no linked rd", lit "no linked task",
      lit "without linked dispatch"],
    .unlinkedBranch, "link_or_retire_branch")]

def stringifyLoose : Json → String
  | .str s => s
  | .null => ""
  | v => v.stringify

def extractString (v : Json) (keys : List String) : Option String :=
  keys.findSome? fun key => (v.strField? key).bind fun s =>
    if trim s = "" then none else some (trim s)

def classifyPromotionHygieneFailure (repo branch : Option String) (text : String) (payload : Json) :
    Option WorktreeHygieneIncident :=
  let text := toLowerCase (text ++ "\n" ++ stringifyLoose payload)
  let repo := (repo <|> extractString payload ["repo", "path"]).getD "unknown-repo"
  let branch := (branch <|> extractString payload ["branch", "source_branch"]).getD "unknown-branch"
  (hygienePatterns.find? fun p => p.1.test text).map fun p => ⟨repo, branch, p.2.1, p.2.2⟩

def normalizeRepo (repo : String) : String :=
  let kept := String.ofList ((trim repo).toList.reverse.dropWhile (· = '/')).reverse
  if kept = "" then "unknown-repo" else kept

def normalizeBranch (branch : String) : String :=
  if trim branch = "" then "unknown-branch" else trim branch

def hygieneDedupeKey (incident : WorktreeHygieneIncident) : String :=
  s!"{normalizeRepo incident.repo}:{normalizeBranch incident.branch}:{incident.incidentCode.text}"

def modelApiFailureKinds : List String :=
  ["model_api_error_exhausted", "harness_empty_result_exhausted", "harness_process_error_exhausted"]

namespace QueueRow

def finding (d : QueueRow) (source : EvidenceSource) (collectedAt : Instant) (dedupeKey : String)
    (kind : AlertKind) (severity : AlertSeverity) (title summary detail : String) :
    RuleFinding where
  dedupeKey := dedupeKey
  kind := kind
  severity := severity
  title := title
  summary := summary
  evidence := [⟨source, d.dispatchPhid, collectedAt, detail⟩]
  agentId := some d.toAgent
  queryId := some d.queryId
  dispatchId := some d.dispatchPhid

def isModelApiFailure (d : QueueRow) : Bool := d.failureKind.any modelApiFailureKinds.contains

variable (collectedAt : Instant)

section
variable (d : QueueRow)

/-- What one dispatch makes `evaluateModelApiErrors` find. -/
def modelApiError : Option RuleFinding :=
  if d.status ≠ .failed then none
  else if !d.isModelApiFailure then none
  else
    let isBuild := d.promote || d.promotionInput ≠ .null
    let kind := d.failureKind.getD "null"
    some (d.finding .dispatch collectedAt s!"model_api_error:{d.dispatchPhid}" .modelApiError
      (if isBuild then .critical else .warning)
      s!"Model/API failure exhausted on {d.dispatchPhid}"
      (s!"Dispatch to {d.toAgent} terminated with {kind} — harness retries exhausted. " ++
        d.failureDetail.getD "no detail")
      (s!"failure_kind={kind}, failure_detail=" ++ d.failureDetail.getD ""))

/-- `/\b(build|deploy|implement|code|branch|merge|promote)\b/i` -/
def buildPattern : Regex :=
  seqs [.wordBoundary, alts [litI "build", litI "deploy", litI "implement", litI "code",
    litI "branch", litI "merge", litI "promote"], .wordBoundary]

def buildFailure : Option RuleFinding :=
  if d.status ≠ .failed then none
  else if d.isModelApiFailure then none
  else if !(d.promote || d.promotionInput ≠ .null || buildPattern.test d.subject) then none
  else
    let kind := d.failureKind.getD "unknown"
    let detail := d.failureDetail.getD "no detail"
    some (d.finding .dispatch collectedAt s!"build_failure:{d.dispatchPhid}" .buildFailure .warning
      s!"Build dispatch {d.dispatchPhid} failed"
      (s!"Dispatch to {d.toAgent} failed: {kind} — {detail}. Subject: " ++ "\"" ++ d.subject ++
        "\"")
      ("status=failed, failure_kind=" ++ d.failureKind.getD "null" ++ ", failure_detail=" ++
        d.failureDetail.getD "null"))

def hygieneIncident : Option WorktreeHygieneIncident :=
  classifyPromotionHygieneFailure (d.promotionInput.strField? "repo")
    (d.promotionInput.strField? "branch")
    (d.failureDetail.getD "" ++ "\n" ++ (orElse d.promotionResult (.obj [])).stringify)
    (orElse d.promotionResult d.promotionInput)

def hygieneFinding (incident : WorktreeHygieneIncident) : RuleFinding :=
  d.finding .agentDone collectedAt s!"worktree_hygiene:{hygieneDedupeKey incident}" .worktreeHygiene
    .warning s!"Promotion hygiene incident on {incident.branch}"
    s!"Routed to Worktree Hygiene: {incident.incidentCode.text}; action={incident.action}."
    (s!"repo={incident.repo}, branch={incident.branch}, " ++
      s!"incident={incident.incidentCode.text}")

def promotionFinding (title summary detail : String) : RuleFinding :=
  d.finding .agentDone collectedAt s!"promotion_failure:{d.dispatchPhid}" .promotionFailure
    .critical title summary detail

/-- The promotion that is missing, or skipped against `promote`. -/
def missingPromotion : RuleFinding :=
  let skipReason := d.promotionInput.field? "promotion_skip_reason"
  if truthy skipReason then
    { d.finding .agentDone collectedAt s!"protocol_gap:promotion:{d.dispatchPhid}" .protocolGap
        .info s!"Inconsistent promotion metadata on {d.dispatchPhid}"
        "Dispatch has promote=true but also a promotion_skip_reason. Protocol gap."
        ("promote=true, skip_reason=\"" ++ valueText skipReason ++ "\", no promotion_result") with
      confidence := .medium
      queryId := none }
  else
    d.promotionFinding collectedAt s!"Missing promotion on build dispatch {d.dispatchPhid}"
      (s!"Build dispatch to {d.toAgent} completed with promote=true but /agent-done has no " ++
        "promotion payload.")
      "promote=true, promotion_result=null"

end

end QueueRow

/-- The issues of a promoted repo; reading a field of `null` throws. -/
def repoIssues : Json → Except String (List String)
  | .null => .error "Cannot read properties of null (reading 'pushed')"
  | repo =>
    let promoted := repo.field? "promoted_sha"
    let remote := repo.field? "remote_main_sha"
    .ok ((if truthy (repo.field? "pushed") then [] else ["pushed=false"]) ++
      (if truthy (repo.field? "verified") then [] else ["verified=false"]) ++
      (if truthy promoted then [] else ["missing promoted_sha"]) ++
      (if truthy remote then [] else ["missing remote_main_sha"]) ++
      (if truthy promoted && truthy remote && promoted ≠ remote then
        [s!"sha mismatch: promoted={valueText promoted} remote={valueText remote}"] else []))

def firstIssues : List Json → Except String (List String)
  | [] => .ok []
  | repo :: repos => (repoIssues repo).bind fun issues =>
    if issues = [] then firstIssues repos else .ok issues

namespace QueueRow

def promotionFailure (collectedAt : Instant) (d : QueueRow) : Except String (Option RuleFinding) :=
  if d.status ≠ .done then .ok none
  else if !d.promote then .ok none
  else match d.hygieneIncident with
  | some incident => .ok (some (d.hygieneFinding collectedAt incident))
  | none =>
    let promo := d.promotionResult
    if !truthy (some promo) then .ok (some (d.missingPromotion collectedAt))
    else if promo.field? "completed" ≠ some (.bool true) then
      .ok (some (d.promotionFinding collectedAt s!"Incomplete promotion on {d.dispatchPhid}"
        ("Promotion block present but completed=" ++ valueText (promo.field? "completed") ++ ".")
        ("promotion.completed=" ++ valueText (promo.field? "completed"))))
    else match promo.field? "repos" with
    | some (.arr (repo :: repos)) => (firstIssues (repo :: repos)).bind fun issues =>
      if issues = [] then .ok none
      else .ok (some (d.promotionFinding collectedAt
        s!"Promotion verification failed on {d.dispatchPhid}"
        ("Promotion issues: " ++ String.intercalate ", " issues) (String.intercalate "; " issues)))
    | _ => .ok (some (d.promotionFinding collectedAt s!"Empty promotion repos on {d.dispatchPhid}"
        "Promotion block has completed=true but no repo entries." "promotion.repos is empty"))

end QueueRow

variable (snapshot : SourceSnapshot)

def evaluateModelApiErrors : List RuleFinding :=
  snapshot.terminalDispatches.filterMap (·.modelApiError snapshot.collectedAt)

def evaluateBuildFailures : List RuleFinding :=
  snapshot.terminalDispatches.filterMap (·.buildFailure snapshot.collectedAt)

def promotionFailures (collectedAt : Instant) : List QueueRow → Except String (List RuleFinding)
  | [] => .ok []
  | d :: ds => (d.promotionFailure collectedAt).bind fun finding =>
    (promotionFailures collectedAt ds).map (finding.toList ++ ·)

def evaluatePromotionFailures : Except String (List RuleFinding) :=
  promotionFailures snapshot.collectedAt snapshot.terminalDispatches

inductive AlertStatus where
  | opened | updated | resolved
deriving DecidableEq, Repr

structure SupervisorAlertRecord where
  dedupeKey : String
  status : AlertStatus
  kind : AlertKind
  severity : AlertSeverity
  confidence : AlertConfidence
  detectedAt : Instant
  updatedAt : Instant
  resolvedAt : Option Instant := none
  agentId : Option String
  queryId : Option String
  dispatchId : Option String
  title : String
  summary : String
  evidence : List EvidenceEntry
  counters : Option (String × Int)
deriving DecidableEq

structure SupervisorAlertState where
  kind : AlertKind
  severity : AlertSeverity
  firstDetectedAt : Instant
  lastRecord : SupervisorAlertRecord
deriving DecidableEq

structure AlertStateManager where
  openAlerts : Dict String SupervisorAlertState := .empty
  missingTicks : Dict String Nat := .empty
  resolutionTickThreshold : Nat := 2

def RuleFinding.record (finding : RuleFinding) (status : AlertStatus) (detectedAt now : Instant) :
    SupervisorAlertRecord where
  dedupeKey := finding.dedupeKey
  status := status
  kind := finding.kind
  severity := finding.severity
  confidence := finding.confidence
  detectedAt := detectedAt
  updatedAt := now
  agentId := finding.agentId
  queryId := finding.queryId
  dispatchId := finding.dispatchId
  title := finding.title
  summary := finding.summary
  evidence := finding.evidence
  counters := finding.counters

namespace AlertStateManager

def processFinding (now : Instant) (manager : AlertStateManager) (finding : RuleFinding) :
    List SupervisorAlertRecord × AlertStateManager :=
  let missingTicks := manager.missingTicks.delete finding.dedupeKey
  match manager.openAlerts.get? finding.dedupeKey with
  | none =>
    let record := finding.record .opened now now
    ([record], { manager with
      openAlerts := manager.openAlerts.set finding.dedupeKey
        ⟨finding.kind, finding.severity, now, record⟩
      missingTicks })
  | some existing =>
    if existing.severity ≠ finding.severity || existing.lastRecord.summary ≠ finding.summary ||
        existing.lastRecord.counters ≠ finding.counters then
      let record := finding.record .updated existing.firstDetectedAt now
      ([record], { manager with
        openAlerts := manager.openAlerts.set finding.dedupeKey
          { existing with severity := finding.severity, lastRecord := record }
        missingTicks })
    else ([], { manager with missingTicks })

def processFindings (now : Instant) (manager : AlertStateManager) :
    List RuleFinding → List SupervisorAlertRecord × AlertStateManager
  | [] => ([], manager)
  | finding :: findings =>
    let (records, next) := manager.processFinding now finding
    let (later, last) := next.processFindings now findings
    (records ++ later, last)

def processMissing (now : Instant) (manager : AlertStateManager)
    (alert : String × SupervisorAlertState) : List SupervisorAlertRecord × AlertStateManager :=
  let misses := (manager.missingTicks.get? alert.1).getD 0 + 1
  if manager.resolutionTickThreshold ≤ misses then
    let last := alert.2.lastRecord
    ([{ last with
        status := .resolved
        dedupeKey := alert.1
        kind := alert.2.kind
        severity := alert.2.severity
        detectedAt := alert.2.firstDetectedAt
        updatedAt := now
        resolvedAt := some now
        summary := "Resolved: " ++ last.summary }],
      { manager with
        openAlerts := manager.openAlerts.delete alert.1
        missingTicks := manager.missingTicks.delete alert.1 })
  else ([], { manager with missingTicks := manager.missingTicks.set alert.1 misses })

def resolveMissing (now : Instant) (manager : AlertStateManager) :
    List (String × SupervisorAlertState) → List SupervisorAlertRecord × AlertStateManager
  | [] => ([], manager)
  | alert :: alerts =>
    let (records, next) := manager.processMissing now alert
    let (later, last) := next.resolveMissing now alerts
    (records ++ later, last)

def processTick (manager : AlertStateManager) (findings : List RuleFinding) (now : Instant) :
    List SupervisorAlertRecord × AlertStateManager :=
  let (found, next) := manager.processFindings now findings
  let seen (key : String) := findings.any (·.dedupeKey = key)
  let (resolved, last) := next.resolveMissing now (next.openAlerts.entries.filter (!seen ·.1))
  (found ++ resolved, last)

variable {manager : AlertStateManager}

theorem processFinding_open (h : manager.openAlerts.get? finding.dedupeKey = none) (now : Instant) :
    (manager.processFinding now finding).1 = [finding.record .opened now now] := by
  rw [processFinding]
  rw [h]

theorem processFinding_other (h : key ≠ finding.dedupeKey) (now : Instant) :
    (manager.processFinding now finding).2.openAlerts.get? key = manager.openAlerts.get? key := by
  rw [processFinding]
  split
  · exact Dict.get?_set_ne h
  · split
    · exact Dict.get?_set_ne h
    · rfl

theorem processFindings_open (hclosed : manager.openAlerts.get? key = none)
    (hfirst : findings.find? (·.dedupeKey = key) = some finding) (now : Instant) :
    finding.record .opened now now ∈ (manager.processFindings now findings).1 := by
  induction findings generalizing manager with
  | nil => cases hfirst
  | cons g findings ih =>
    rw [processFindings]
    apply List.mem_append.mpr
    by_cases hkey : g.dedupeKey = key
    · have hfound : (g :: findings).find? (·.dedupeKey = key) = some g :=
        List.find?_cons_of_pos (decide_eq_true hkey)
      obtain rfl : g = finding := Option.some.inj (hfound.symm.trans hfirst)
      left
      rw [← hkey] at hclosed
      rw [processFinding_open hclosed]
      exact List.mem_singleton_self _
    · right
      have hrest : (g :: findings).find? (·.dedupeKey = key) =
          findings.find? (·.dedupeKey = key) := List.find?_cons_of_neg (by simpa using hkey)
      refine ih ?_ (hrest.symm.trans hfirst)
      rw [processFinding_other (Ne.symm hkey)]
      exact hclosed

theorem processTick_open (hclosed : manager.openAlerts.get? key = none)
    (hfirst : findings.find? (·.dedupeKey = key) = some finding) (now : Instant) :
    finding.record .opened now now ∈ (manager.processTick findings now).1 :=
  List.mem_append_left _ (processFindings_open hclosed hfirst now)

end AlertStateManager

end IdAgents.Supervisor
