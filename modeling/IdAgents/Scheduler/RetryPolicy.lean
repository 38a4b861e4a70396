import IdAgents.Library.Regex
import IdAgents.Scheduler.World

namespace IdAgents
open JsText JsRegex

inductive ThrottleKind where
  | providerThrottle | authOrPlan | localPause | transport | agentError
deriving DecidableEq, Repr

def ThrottleKind.text : ThrottleKind → String
  | .providerThrottle => "provider_throttle"
  | .authOrPlan => "auth_or_plan"
  | .localPause => "local_pause"
  | .transport => "transport"
  | .agentError => "agent_error"

structure ClassifyInput where
  provider : Provider
  status : Int
  body : String
  cause : Option TransportCause
  transportError : Option String

structure Classification where
  kind : ThrottleKind
  retryable : Bool
  detail : String

def PROVIDER_THROTTLE_PHRASES : List Regex := [
  litI "server is temporarily limiting requests",
  .seq (litI "rate") (.seq (opt (oneOf "_ -")) (litI "limit")),
  litI "overloaded",
  litI "temporarily unavailable due to capacity",
  litI "concurrent request limit",
  litI "try again later"]

def PLAN_PHRASES : List Regex := [
  .seq (litI "plan does not ") (.alt (litI "include") (.alt (litI "cover") (litI "allow"))),
  litI "payment required",
  litI "quota exceeded",
  litI "subscription"]

/-- `[A-Za-z0-9]` with some more characters. -/
def tokenChar (more : String) : Regex := .one fun c => c.isAlphanum || more.toList.contains c

def SECRET_PATTERNS : List Regex := [
  .seq (lit "sk-") (.seq (opt (lit "ant-")) (atLeast 8 (tokenChar "_-"))),
  .seq (litI "Bearer") (.seq (plus (.one isSpace)) (atLeast 16 (tokenChar "._-"))),
  .seq (litI "api") (.seq (opt (oneOf "_-")) (.seq (litI "key=") (atLeast 8 (tokenChar "._-"))))]

def redactSecrets (text : String) : String :=
  SECRET_PATTERNS.foldl (fun out re => re.replaceAll out "[redacted]") text

def bodyMatches (body : String) (patterns : List Regex) : Bool := patterns.any (·.test body)

def classifyAgentStartError (input : ClassifyInput) : Classification :=
  let redacted := redactSecrets input.body
  let transportError := redactSecrets (input.transportError.getD "unknown")
  let status := input.status
  if input.cause = some .localUsagePause then ⟨.localPause, true, "local usage-meter pause"⟩
  else if input.cause = some .transport then
    ⟨.transport, true, s!"transport: {transportError}"⟩
  else if status = 429 ∨ status = 529 then
    ⟨.providerThrottle, true, s!"provider throttle (HTTP {status}): {redacted}"⟩
  else if status = 503 ∧ bodyMatches redacted PROVIDER_THROTTLE_PHRASES then
    ⟨.providerThrottle, true, s!"provider throttle (HTTP {status}): {redacted}"⟩
  else if bodyMatches redacted PROVIDER_THROTTLE_PHRASES then
    ⟨.providerThrottle, true, s!"provider throttle: {redacted}"⟩
  else if status = 401 ∨ status = 402 then
    ⟨.authOrPlan, false, s!"auth/plan (HTTP {status}): {redacted}"⟩
  else if status = 403 then ⟨.authOrPlan, false, s!"auth/plan (HTTP {status}): {redacted}"⟩
  else if bodyMatches redacted PLAN_PHRASES then ⟨.authOrPlan, false, s!"auth/plan: {redacted}"⟩
  else ⟨.agentError, false, s!"agent_error (HTTP {status}): {redacted}"⟩

inductive RetryReason where
  | providerRateLimitExhausted | providerServerError | providerAuthError | dispatchIdMismatch
  | agentError | expired
deriving DecidableEq, Repr

def RetryReason.text : RetryReason → String
  | .providerRateLimitExhausted => "provider_rate_limit_exhausted"
  | .providerServerError => "provider_server_error"
  | .providerAuthError => "provider_auth_error"
  | .dispatchIdMismatch => "dispatch_id_mismatch"
  | .agentError => "agent_error"
  | .expired => "expired"

def RETRY_BACKOFF_LADDER_MS : List Int := [30000, 60000, 120000, 240000]

def RETRY_BACKOFF_CAP_MS : Int := 600000

def backoffMsForAttempt (attempt : Nat) : Int :=
  RETRY_BACKOFF_LADDER_MS.getD (attempt - 1) RETRY_BACKOFF_CAP_MS

inductive RetryAction where
  | backoff | terminal | recover
deriving DecidableEq, Repr

structure RetryDecision where
  action : RetryAction
  reason : RetryReason
  attempt : Nat
  delayMs : Int
  nextAttemptAt : Option Instant
  exhausted : Bool
  terminalKind : Option FailureKind
  maxAttempts : Nat
  attemptsRemaining : Nat

inductive ReasonRule where
  | backoff (maxAttempts : Nat)
  | terminal (terminalKind : FailureKind)
  | recover

def REASON_RULES : RetryReason → ReasonRule
  | .providerRateLimitExhausted => .backoff 5
  | .providerServerError => .backoff 5
  | .providerAuthError => .terminal .failedAuthRequired
  | .dispatchIdMismatch => .terminal .failedContractError
  | .agentError => .backoff 3
  | .expired => .recover

def terminalShape (action : RetryAction) (reason : RetryReason) (attempt : Nat)
    (terminalKind : Option FailureKind) (exhausted : Bool) (maxAttempts : Nat) : RetryDecision where
  action := action
  reason := reason
  attempt := attempt
  delayMs := 0
  nextAttemptAt := none
  exhausted := exhausted
  terminalKind := terminalKind
  maxAttempts := maxAttempts
  attemptsRemaining := 0

def computeRetryDecision (reason : RetryReason) (attempt : Nat) (now : Instant) : RetryDecision :=
  let a := max 1 attempt
  match REASON_RULES reason with
  | .recover => terminalShape .recover reason a none false 0
  | .terminal terminalKind => terminalShape .terminal reason a (some terminalKind) false 0
  | .backoff maxAttempts =>
    if maxAttempts ≤ a then terminalShape .terminal reason a none true maxAttempts
    else {
      action := .backoff
      reason := reason
      attempt := a
      delayMs := backoffMsForAttempt a
      nextAttemptAt := some (now + backoffMsForAttempt a)
      exhausted := false
      terminalKind := none
      maxAttempts := maxAttempts
      attemptsRemaining := maxAttempts - a }

def retryReasonFromThrottleKind : ThrottleKind → RetryReason
  | .providerThrottle => .providerRateLimitExhausted
  | .transport => .providerServerError
  | .authOrPlan => .providerAuthError
  | .agentError | .localPause => .agentError

/-- The fields of the policy that the scheduler reads. A runtime without an override of its own
has `none` in `staleInFlightTtlByRuntime`. -/
structure SchedulerPolicy where
  maxInFlightAnthropic : Int
  maxInFlightOpenai : Int
  maxInFlightCursor : Int
  maxInFlightOther : Int
  rateLimitBackoffInitialMs : Int
  rateLimitMaxAttempts : Int
  claimBatchLimit : Int
  startingTimeoutMs : Int
  silenceThresholdMs : Int
  staleInFlightTtlMs : Int
  staleInFlightTtlByRuntime : Runtime → Option Int
  policyVersion : String

def POLICY_DEFAULTS : SchedulerPolicy where
  maxInFlightAnthropic := 3
  maxInFlightOpenai := 4
  maxInFlightCursor := 2
  maxInFlightOther := 2
  rateLimitBackoffInitialMs := 30000
  rateLimitMaxAttempts := 5
  claimBatchLimit := 10
  startingTimeoutMs := 60000
  silenceThresholdMs := 30 * 60000
  staleInFlightTtlMs := 45 * 60000
  staleInFlightTtlByRuntime
    | .claudeCodeCli | .claudeAgentSdk | .claudeCodeLocal => some (90 * 60000)
    | .codex => some (30 * 60000)
    | .cursorCli => some (25 * 60000)
    | .openrouter | .publicAgentRemote | .other => none
  policyVersion := "v1"

def staleTtlForRuntime (policy : SchedulerPolicy) (runtime : Runtime) : Int :=
  let override := (policy.staleInFlightTtlByRuntime runtime).filter (0 < ·)
  max policy.startingTimeoutMs (override.getD policy.staleInFlightTtlMs)

inductive BudgetState where
  | ok | softPause | hardPause
deriving DecidableEq, Repr

structure SafeConcurrencyInput where
  provider : Provider
  runtime : Runtime
  agent : Option String := none
  budgetState : Option BudgetState := none
  currentInFlight : Option Nat := none
  exemptExtra : Option Int := none

structure SafeConcurrencyResult where
  maxSafe : Int
  reason : String
  source : String
  policyVersion : String

def SAFETY_CEILING : Int := 20

def getSafeConcurrency (input : SafeConcurrencyInput) (policy : SchedulerPolicy) :
    SafeConcurrencyResult :=
  let (base, source) := match input.provider with
    | .anthropic => (policy.maxInFlightAnthropic, "config")
    | .openai => (policy.maxInFlightOpenai, "default")
    | .cursor => (policy.maxInFlightCursor, "default")
    | .local_ | .other => (policy.maxInFlightOther, "default")
  let capReason := s!"{input.provider.text} cap = {base}"
  let reason := match input.budgetState with
    | some .hardPause => s!"{capReason}; usage reference exceeded without reducing concurrency"
    | some .softPause =>
      s!"{capReason}; usage reference near threshold without reducing concurrency"
    | _ => capReason
  let exempt := max 0 (input.exemptExtra.getD 0)
  let agent := input.agent.getD "agent"
  if 0 < exempt then {
    maxSafe := min SAFETY_CEILING (base + exempt)
    reason := s!"{reason} + {exempt} exempt slots for {agent}"
    source := "exemption"
    policyVersion := policy.policyVersion }
  else ⟨base, reason, source, policy.policyVersion⟩

end IdAgents
