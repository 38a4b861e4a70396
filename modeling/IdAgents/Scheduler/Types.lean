import Mathlib.Data.Rat.Floor
import IdAgents.Library.Text
import IdAgents.Library.Json

namespace IdAgents
open JsText

inductive SchedulerStatus where
  | queued | inFlight | done | failed | bounced | cancelled | needsClarification
  | resumeDeliveryFailed
deriving DecidableEq, Repr

def SchedulerStatus.text : SchedulerStatus → String
  | .queued => "queued"
  | .inFlight => "in_flight"
  | .done => "done"
  | .failed => "failed"
  | .bounced => "bounced"
  | .cancelled => "cancelled"
  | .needsClarification => "needs_clarification"
  | .resumeDeliveryFailed => "resume_delivery_failed"

def isTerminal (s : SchedulerStatus) : Bool := s = .done || s = .failed || s = .cancelled

inductive ClarificationEventType where
  | needsClarification | resume | resumeDelivered | resumeDeliveryFailed
  | resumeDeliveryRepairRecorded | clarificationStale
deriving DecidableEq, Repr

inductive ResumeDeliveryRepairAction where
  | redeliver | followUpDispatch | cancel | moot
deriving DecidableEq, Repr

inductive Urgency where
  | normal | timeSensitive
deriving DecidableEq, Repr

/-- The answer's `instructions`: a list of them or one text. -/
inductive Instructions where
  | many (xs : List String)
  | one (s : String)
deriving DecidableEq, Repr

structure ClarificationEvent where
  type : ClarificationEventType
  clarificationId : String
  ts : Instant
  agentId : Option String := none
  queryId : Option String := none
  question : Option String := none
  context : Option Json := none
  urgency : Option Urgency := none
  staleAt : Option Instant := none
  actor : Option String := none
  answer : Option String := none
  instructions : Option Instructions := none
  transport : Option String := none
  deliveredAt : Option Instant := none
  agentQueryId : Option String := none
  failureDetail : Option String := none
  repairAction : Option ResumeDeliveryRepairAction := none
  owner : Option String := none
  receipt : Option String := none
  ageSeconds : Option Int := none
  surfacedAt : Option Instant := none
deriving DecidableEq

structure ClarificationBlocker where
  clarificationId : String
  agentId : String
  queryId : Option String
  question : String
  context : Option Json
  urgency : Urgency
  createdAt : Instant
  staleAt : Instant
deriving DecidableEq

inductive Provider where
  | anthropic | openai | cursor | local_ | other
deriving DecidableEq, Repr

def Provider.text : Provider → String
  | .anthropic => "anthropic"
  | .openai => "openai"
  | .cursor => "cursor"
  | .local_ => "local"
  | .other => "other"

inductive Runtime where
  | claudeCodeCli | claudeAgentSdk | claudeCodeLocal | codex | cursorCli | openrouter
  | publicAgentRemote | other
deriving DecidableEq, Repr

inductive FailureKind where
  | agentError | providerRateLimitExhausted | schedulerWedged | cancelled | validationFailed
  | modelApiErrorExhausted | harnessEmptyResultExhausted | harnessProcessErrorExhausted
  | strictModeClassified | failedAuthRequired | failedContractError | agentUnreachableExhausted
  | failedVerification
deriving DecidableEq, Repr

def FailureKind.text : FailureKind → String
  | .agentError => "agent_error"
  | .providerRateLimitExhausted => "provider_rate_limit_exhausted"
  | .schedulerWedged => "scheduler_wedged"
  | .cancelled => "cancelled"
  | .validationFailed => "validation_failed"
  | .modelApiErrorExhausted => "model_api_error_exhausted"
  | .harnessEmptyResultExhausted => "harness_empty_result_exhausted"
  | .harnessProcessErrorExhausted => "harness_process_error_exhausted"
  | .strictModeClassified => "strict_mode_classified"
  | .failedAuthRequired => "failed_auth_required"
  | .failedContractError => "failed_contract_error"
  | .agentUnreachableExhausted => "agent_unreachable_exhausted"
  | .failedVerification => "failed_verification"

def exhaustedFailureKind (lastBounceKind : Option String) : FailureKind :=
  if lastBounceKind = some "transport" then .agentUnreachableExhausted
  else .providerRateLimitExhausted

structure BounceRecord where
  ts : Instant
  kind : String
  message : String
  nextAttemptAt : Instant
  attempt : Nat
deriving DecidableEq, Repr

structure UsagePolicySnapshot where
  maxSafe : Int
  source : String
  policyVersion : String
deriving DecidableEq, Repr

inductive PromotionStrategy where
  | auto | fastForward | mergeCommit | squash | followUpDispatch
deriving DecidableEq, Repr

inductive ResumeDeliveryStatus where
  | none | pending | delivered | failed
deriving DecidableEq, Repr

/-- The recovery postures written to `recovery_status`; a null column reads as `none`. -/
inductive RecoveryStatus where
  | none | recovering | landedReconciled | moot | needsOperator | exhausted | unsafeSideEffect
  | verifiedDone | retryDone
deriving DecidableEq, Repr

structure PromotionInput where
  repo : String
  branch : String
  base : String
  remote : String
  promotionSkipReason : Option String
deriving DecidableEq, Repr

/-- A dispatch as the reactors show it. The JSON columns hold the values their texts spell:
`promotion_result` is `promotionResultJson`, parsed. -/
structure DispatchDoc where
  dispatchPhid : String
  queryId : String
  toAgent : String
  fromActor : String
  channel : String
  subject : String
  bodyMarkdown : String
  provider : Provider
  runtime : Runtime
  priority : Nat
  status : SchedulerStatus
  notBeforeAt : Instant
  attemptCount : Nat
  bounceCount : Nat
  lastBounce : Option BounceRecord
  bounceHistory : List BounceRecord
  startedAt : Option Instant
  completedAt : Option Instant
  updatedAt : Instant
  agentQueryId : Option String
  usagePolicySnapshot : Option UsagePolicySnapshot
  failureKind : Option FailureKind
  failureDetail : Option String
  resultJson : Option Json
  reportCandidateRequestJson : Option String
  clarificationId : Option String
  activeClarification : Option ClarificationBlocker
  clarificationHistory : List ClarificationEvent
  resumeDeliveryStatus : ResumeDeliveryStatus
  promote : Bool
  promotionStrategy : PromotionStrategy
  promotionRequiredReason : Option String
  promotionResultJson : Option Json
  artifactPath : Option String
  recoveryStatus : RecoveryStatus
  recoveryAttempts : Nat
  recoveryReason : Option String
  sideEffect : String
  allowAutoRetry : Bool
  promotionInput : Option PromotionInput

def CANONICAL_REPO_ALIASES : List (String × String) := [
  ("id-agents", "/Users/kilgore/Dropbox/Code/cane/id-agents"),
  ("kapelle-console", "/Users/kilgore/Dropbox/Code/kapelle-console"),
  ("kapelle-site", "/Users/kilgore/Dropbox/Code/kapelle-site"),
  ("/Users/kilgore/Dropbox/Code/substrate-api-codex",
    "/Users/kilgore/Dropbox/Code/cane/id-agents"),
  ("/Users/kilgore/Dropbox/Code/substrate-orch-codex",
    "/Users/kilgore/Dropbox/Code/cane/id-agents"),
  ("/Users/kilgore/Dropbox/Code/id-agents-codex", "/Users/kilgore/Dropbox/Code/cane/id-agents"),
  ("/Users/kilgore/Dropbox/Code/kapelle-site-codex",
    "/Users/kilgore/Dropbox/Code/kapelle-site"),
  ("/Users/kilgore/Dropbox/Code/kapelle-frontend-codex",
    "/Users/kilgore/Dropbox/Code/kapelle-site"),
  ("/Users/kilgore/Dropbox/Code/kapelle-console-release",
    "/Users/kilgore/Dropbox/Code/kapelle-console")]

/-- `path.resolve` of an absolute path: empty and `.` segments go, `..` drops its parent. -/
def resolveSegments : List String → List String → List String
  | acc, [] => acc.reverse
  | acc, seg :: segs =>
    if seg = "" ∨ seg = "." then resolveSegments acc segs
    else if seg = ".." then resolveSegments acc.tail segs
    else resolveSegments (seg :: acc) segs

def resolvePath (p : String) : String :=
  "/" ++ "/".intercalate (resolveSegments [] ((splitChars '/' p.toList).map String.ofList))

def normalizeRepoAlias (repo : String) : Except String String :=
  let trimmed := trim repo
  match CANONICAL_REPO_ALIASES.lookup trimmed with
  | some directAlias => .ok directAlias
  | none =>
    if trimmed.toList.head? ≠ some '/' then
      .error s!"ambiguous relative repo name \"{repo}\"; use a canonical absolute repo path or a known repo alias: id-agents, kapelle-console, kapelle-site"
    else
      let normalized := resolvePath trimmed
      .ok ((CANONICAL_REPO_ALIASES.lookup normalized).getD normalized)

def canonicalizePromotionInput (input : PromotionInput) : Except String PromotionInput :=
  (normalizeRepoAlias input.repo).map fun repo =>
    { input with
      repo := repo
      base := if input.base = "" then "main" else input.base
      remote := if input.remote = "" then "origin" else input.remote }

/-- A new dispatch. A priority is `none` when it is missing or not a finite number. -/
structure EnqueueInput where
  queryId : String
  toAgent : String
  fromActor : String
  channel : String
  subject : String
  bodyMarkdown : String
  provider : Provider
  runtime : Runtime
  priority : Option Rat := none
  notBeforeAt : Option Instant := none
  usagePolicySnapshot : Option UsagePolicySnapshot := none
  dedupKey : Option String := none
  promote : Option Bool := none
  promotionStrategy : Option PromotionStrategy := none
  promotionRequiredReason : Option String := none
  promotionInput : Option PromotionInput := none
  targetUrl : Option String := none

def clampPriority (p : Option Rat) : Nat :=
  match p with
  | none => 5
  | some p => p.floor.toNat

structure PromotionDefaults where
  promote : Bool
  promotionStrategy : PromotionStrategy
  promotionRequiredReason : Option String
  promotionInput : Option PromotionInput

def isBuildDispatch (promotionInput : Option PromotionInput) : Bool :=
  match promotionInput with
  | some p => p.repo ≠ "" && p.branch ≠ ""
  | none => false

def defaultPromotionFields (input : EnqueueInput) : Except String PromotionDefaults := do
  let buildLike := isBuildDispatch input.promotionInput
  let promotionInput ← input.promotionInput.mapM canonicalizePromotionInput
  return {
    promote := input.promote.getD buildLike
    promotionStrategy := input.promotionStrategy.getD .auto
    promotionRequiredReason := input.promotionRequiredReason
    promotionInput := promotionInput }

structure QueueEligibleFilter where
  provider : Option Provider := none
  runtime : Option Runtime := none
  limit : Option Int := none
  now : Option Instant := none
  maxInFlight : Option Int := none
  excludeAgents : List String := []

structure BounceInput where
  kind : String
  message : String
  nextAttemptAt : Instant
  provider : Option Provider := none
  runtime : Option Runtime := none
  allowAutoRetry : Option Bool := none

structure ConcurrencySnapshot where
  inFlight : Nat
  queued : Nat
  bounced : Nat
  maxSafe : Int
  availableSlots : Int
  oldestQueuedAgeMs : Int
  lastBounceKind : Option String
deriving DecidableEq

end IdAgents
