import IdAgents.Library.Regex
import IdAgents.Library.Text

namespace IdAgents.Agent
open JsText JsRegex

inductive HarnessFailureKind where
  | thinkingBlock400 | providerOverloaded | providerRateLimited | providerTimeout
  | networkTransport | harnessProcessExit | harnessHangTimeout | harnessEmptyResult | authOrPlan
  | contentFilter | userCodeFailure | promotionFailure | unknown
deriving DecidableEq, Repr

inductive HarnessTerminalFailureKind where
  | modelApiErrorExhausted | harnessEmptyResultExhausted | harnessProcessErrorExhausted
  | harnessHangTimeoutExhausted | agentError
deriving DecidableEq, Repr

structure HarnessFailureClassification where
  kind : HarnessFailureKind
  retryable : Bool
  terminalFailureKind : HarnessTerminalFailureKind
  redactedMessage : String
deriving DecidableEq, Repr

inductive HarnessFailureSource where
  | harnessErrorMessage | emptyResult | thrown
deriving DecidableEq

structure HarnessFailureInput where
  message : String
  stderr : Option String := none
  exitCode : Option Int := none
  source : HarnessFailureSource

def alnumOr (more : String) : Regex := .one fun c => c.isAlphanum || more.toList.contains c

def SECRET_PATTERNS : List Regex := [
  .seq (lit "sk-ant-api") (.seq (exactly 2 (.one Char.isDigit)) (.seq (lit "-") (plus (alnumOr "_-")))),
  .seq (lit "sk-") (atLeast 20 (alnumOr "")),
  .seq (litI "Bearer") (.seq (plus (.one isSpace)) (atLeast 20 (alnumOr "_-."))),
  .seq (litI "Authorization:") (.seq (.many (.one isSpace)) (atLeast 20 (alnumOr "-_.")))]

def redactSecrets (input : String) : String :=
  SECRET_PATTERNS.foldl (fun out re => re.replaceAll out "[REDACTED]") input

def containsAny (haystack : String) (needles : List String) : Bool :=
  needles.any (includes (toLowerCase haystack))

def matchesAny (haystack : String) (patterns : List Regex) : Bool := patterns.any (·.test haystack)

/-- `\bword\b` -/
def wholeWord (word : String) : Regex := .seq .wordBoundary (.seq (lit word) .wordBoundary)

def USER_CODE_PHRASES : List String := [
  "tests failed", "test failed", "npm test failed", "vitest failed", "jest failed",
  "pytest failed", "lint failed", "lint errors", "eslint errors", "type errors remain",
  "tsc errors", "typescript errors", "command failed", "compilation failed", "build failed"]

def PROMOTION_PHRASES : List String := [
  "promotion failed", "promotion conflict", "merge conflict", "merge commit failed",
  "fast-forward not possible", "push rejected", "remote rejected"]

def AUTH_PHRASES : List String := [
  "invalid api key", "unauthorized", "payment required", "credit balance", "billing",
  "subscription", "plan does not include", "quota exceeded"]

def AUTH_HTTP : List Regex := [wholeWord "401", wholeWord "402", wholeWord "403"]

def CONTENT_FILTER_PHRASES : List String := [
  "content filter", "filtering policy", "output was blocked", "output blocked",
  "blocked by content"]

def THINKING_BLOCK_LATEST_PHRASES : List String := [
  "latest assistant message cannot be modified", "blocks in the latest assistant message",
  "blocks cannot be modified"]

def isThinkingBlock400 (message : String) : Bool :=
  let m := toLowerCase message
  ((wholeWord "400").test message || includes m "invalid request") &&
    (includes m "thinking" || includes m "redacted_thinking") &&
    THINKING_BLOCK_LATEST_PHRASES.any (includes m)

def RATE_LIMIT_PHRASES : List String := [
  "rate limit", "too many requests", "concurrent request limit"]

def RATE_LIMIT_HTTP : List Regex := [wholeWord "429"]

def OVERLOAD_PHRASES : List String := [
  "overloaded", "temporarily unavailable due to capacity",
  "server is temporarily limiting requests"]

def OVERLOAD_HTTP : List Regex := [wholeWord "529", wholeWord "503"]

def HANG_TIMEOUT_MARKER : String := "hang timeout exceeded"

def TIMEOUT_PHRASES : List String := [
  "request timed out", "timed out after", "timeout exceeded", "etimedout"]

def TIMEOUT_TOKENS : List Regex := [wholeWord "ETIMEDOUT"]

def NETWORK_TOKENS : List Regex := [
  wholeWord "ECONNRESET", wholeWord "EPIPE", wholeWord "ECONNREFUSED", wholeWord "ENETUNREACH"]

def NETWORK_PHRASES : List String := ["socket hang up", "network disconnected"]

def EMPTY_RESULT_RE : Regex :=
  .seq .wordBoundary (.seq (litI "produced an empty result") .wordBoundary)

def classifyHarnessFailure (input : HarnessFailureInput) : HarnessFailureClassification :=
  let combined := input.message ++ "\n" ++ input.stderr.getD ""
  let redacted := redactSecrets input.message
  if containsAny combined USER_CODE_PHRASES then ⟨.userCodeFailure, false, .agentError, redacted⟩
  else if containsAny combined PROMOTION_PHRASES then
    ⟨.promotionFailure, false, .agentError, redacted⟩
  else if containsAny combined AUTH_PHRASES || matchesAny combined AUTH_HTTP then
    ⟨.authOrPlan, false, .agentError, redacted⟩
  else if containsAny combined CONTENT_FILTER_PHRASES then
    ⟨.contentFilter, false, .agentError, redacted⟩
  else if isThinkingBlock400 combined then
    ⟨.thinkingBlock400, true, .modelApiErrorExhausted, redacted⟩
  else if containsAny combined RATE_LIMIT_PHRASES || matchesAny combined RATE_LIMIT_HTTP then
    ⟨.providerRateLimited, true, .modelApiErrorExhausted, redacted⟩
  else if containsAny combined OVERLOAD_PHRASES || matchesAny combined OVERLOAD_HTTP then
    ⟨.providerOverloaded, true, .modelApiErrorExhausted, redacted⟩
  else if includes combined HANG_TIMEOUT_MARKER then
    ⟨.harnessHangTimeout, true, .harnessHangTimeoutExhausted, redacted⟩
  else if containsAny combined TIMEOUT_PHRASES || matchesAny combined TIMEOUT_TOKENS then
    ⟨.providerTimeout, true, .modelApiErrorExhausted, redacted⟩
  else if containsAny combined NETWORK_PHRASES || matchesAny combined NETWORK_TOKENS then
    ⟨.networkTransport, true, .modelApiErrorExhausted, redacted⟩
  else if input.source = .emptyResult || EMPTY_RESULT_RE.test combined then
    ⟨.harnessEmptyResult, true, .harnessEmptyResultExhausted, redacted⟩
  else if input.exitCode.any (· ≠ 0) then
    ⟨.harnessProcessExit, false, .harnessProcessErrorExhausted, redacted⟩
  else ⟨.unknown, false, .agentError, redacted⟩

example : (classifyHarnessFailure
    ⟨"HTTP 503 from the gateway", none, none, .harnessErrorMessage⟩).kind = .providerOverloaded := by
  decide +kernel

/-- The fields of the policy that decide whether there is another attempt, and on which session. -/
structure HarnessRetryPolicy where
  maxAttempts : Nat
  retryEmptyResult : Bool
  retryUnknownProcessExitOnce : Bool
  clearSessionOnRetry : Bool
deriving DecidableEq

def HARNESS_RETRY_DEFAULTS : HarnessRetryPolicy := ⟨3, true, false, true⟩

def shouldRetry (classification : HarnessFailureClassification) (attemptsCompleted : Nat)
    (policy : HarnessRetryPolicy) : Bool :=
  if policy.maxAttempts ≤ attemptsCompleted then false
  else if classification.kind = .harnessEmptyResult then
    policy.retryEmptyResult && classification.retryable
  else if classification.kind = .harnessProcessExit then
    policy.retryUnknownProcessExitOnce && attemptsCompleted = 1
  else classification.retryable

def shouldClearSessionOnRetry (prevClassification : Option HarnessFailureClassification)
    (policy : HarnessRetryPolicy) : Bool :=
  prevClassification.any (·.kind = .thinkingBlock400) || policy.clearSessionOnRetry

/-- `(^|\s|\b)NAME:\s+\S+` -/
def metadataLine (name : String) : Regex :=
  .seq .wordBoundary (.seq (lit name) (.seq (lit ":") (.seq (plus (.one isSpace))
    (.one fun c => !isSpace c))))

def looksLikeBuildDispatch (prompt : String) : Bool :=
  ((metadataLine "REPO").test prompt && (metadataLine "BRANCH").test prompt) ||
    (litI "promote-to-main").test prompt

structure RetryGateContext where
  mutatingToolUseObserved : Bool
  isBuildDispatch : Bool

inductive RetryDecisionReason where
  | allowed | attemptsExhausted | notRetryable | mutatingToolObserved | buildDispatch
deriving DecidableEq, Repr

structure RetryDecision where
  retry : Bool
  reason : RetryDecisionReason
deriving DecidableEq

def evaluateRetry (classification : HarnessFailureClassification) (attemptsCompleted : Nat)
    (policy : HarnessRetryPolicy) (context : RetryGateContext) : RetryDecision :=
  if context.isBuildDispatch then ⟨false, .buildDispatch⟩
  else if context.mutatingToolUseObserved then ⟨false, .mutatingToolObserved⟩
  else if policy.maxAttempts ≤ attemptsCompleted then ⟨false, .attemptsExhausted⟩
  else if shouldRetry classification attemptsCompleted policy = false then ⟨false, .notRetryable⟩
  else ⟨true, .allowed⟩

theorem evaluateRetry_retry : (evaluateRetry classification n policy context).retry =
      (!context.isBuildDispatch && !context.mutatingToolUseObserved &&
        shouldRetry classification n policy) := by
  cases hbuild : context.isBuildDispatch <;> cases hmutating : context.mutatingToolUseObserved <;>
    simp only [evaluateRetry, hbuild, hmutating, if_true, if_false, Bool.false_eq_true, Bool.not_true,
      Bool.not_false, Bool.true_and, Bool.false_and]
  by_cases hmax : policy.maxAttempts ≤ n
  · simp [hmax, shouldRetry]
  · cases hretry : shouldRetry classification n policy <;> simp [hmax]

theorem shouldRetry_lt (h : shouldRetry classification n policy) : n < policy.maxAttempts := by
  rw [shouldRetry] at h
  split at h
  · cases h
  · next hmax => exact Nat.lt_of_not_le hmax

def MUTATING_TOOL_NAMES : List String := ["Bash", "Edit", "Write", "NotebookEdit"]

def isMutatingTool (toolName : Option String) : Bool :=
  toolName.any (MUTATING_TOOL_NAMES.contains ·)

inductive MessageType where
  | system | toolUse | result | error | progress | thinking
deriving DecidableEq, Repr

/-- What every harness yields; `result` is there when the message has the field. -/
structure HarnessMessage where
  type : MessageType
  subtype : Option String := none
  content : Option String := none
  result : Option String := none
  sessionId : Option String := none
  toolName : Option String := none
deriving DecidableEq, Repr

/-- `a || b || … || last` for texts that may be missing. -/
def firstText (texts : List (Option String)) (last : String) : String :=
  ((texts.filterMap id).find? (· ≠ "")).getD last

namespace HarnessMessage

def error (content : String) : HarnessMessage := { type := .error, content := some content }

/-- The message ends an attempt: `type === "error" && content`. -/
def fails (m : HarnessMessage) : Bool := m.type = .error && m.content.any (· ≠ "")

def mutates (m : HarnessMessage) : Bool :=
  m.type = .toolUse && isMutatingTool (some (firstText [m.toolName] "unknown"))

end HarnessMessage

/-- How a harness turns the events of its runtime into messages, and which events report a side
effect: a shell command, a patch or an edit of a file. -/
structure Translator (S E : Type) where
  step : S → E → S × List HarnessMessage
  reports : E → Bool

namespace Translator
variable {S E : Type} (t : Translator S E)

def messages : S → List E → List HarnessMessage
  | _, [] => []
  | s, e :: es => (t.step s e).2 ++ messages (t.step s e).1 es

def final (s : S) (es : List E) : S := es.foldl (fun s e => (t.step s e).1) s

def heard : S → List E → List (S × E)
  | _, [] => []
  | s, e :: es => (s, e) ::
    if (t.step s e).2.any (·.fails) then [] else heard (t.step s e).1 es

def executes (s : S) (es : List E) : Bool := (t.heard s es).any fun (_, e) => t.reports e

end Translator

inductive Block where
  | toolUse (name : String)
  | other
deriving DecidableEq

def Block.reports : Block → Bool
  | toolUse name => MUTATING_TOOL_NAMES.contains name
  | other => false

inductive SDKMessage where
  | init (sessionId model : String) (tools : List String)
  | assistant (content : List Block) (sessionId : String)
  | resultSuccess (result sessionId : String)
  | resultError (subtype : String) (errors : Option (List String)) (sessionId : String)
  | other

def firstToolUse : List Block → Option String
  | [] => none
  | .toolUse name :: _ => some name
  | .other :: bs => firstToolUse bs

def mapSDKMessage : SDKMessage → Option HarnessMessage
  | .init sessionId model tools => some {
      type := .system, subtype := some "init", sessionId := some sessionId
      content := some ("Model: " ++ model ++ ", Tools: " ++
        firstText [some (", ".intercalate tools)] "default") }
  | .assistant content sessionId => (firstToolUse content).map fun name =>
      { type := .toolUse, toolName := some name, sessionId := some sessionId }
  | .resultSuccess result sessionId => some {
      type := .result, result := some result, sessionId := some sessionId }
  | .resultError subtype errors sessionId => some {
      type := .error, sessionId := some sessionId
      content := some ((errors.map (", ".intercalate ·)).getD subtype) }
  | .other => none

def claudeAgentSdk : Translator (Option String) SDKMessage where
  step finalResult message := match mapSDKMessage message with
    | some mapped => (mapped.result.filter (· ≠ "") <|> finalResult, [mapped])
    | none => (finalResult, [])
  reports
    | .assistant content _ => content.any (·.reports)
    | _ => false

structure HarnessRun where
  messages : List HarnessMessage
  thrown : Option String := none

/-- `query` ends, or throws. -/
def ClaudeAgentSdkHarness.run (events : List SDKMessage) (threw : Option String) : HarnessRun :=
  let hello : HarnessMessage :=
    { type := .system, subtype := some "init", content := some "Starting Claude Code harness" }
  let mapped := claudeAgentSdk.messages none events
  match threw with
  | some errorMessage => ⟨hello :: mapped ++ [.error errorMessage], some errorMessage⟩
  | none => ⟨hello :: mapped ++ (if (claudeAgentSdk.final none events).isNone then
      [.error "Claude Agent SDK returned no result"] else []), none⟩

structure CliResult where
  isError : Bool
  result : Option String
  sessionId : Option String
deriving DecidableEq

/-- A line of the verbose output of `claude`; without `--verbose` there is the result alone. -/
inductive CliLine where
  | result (r : CliResult)
  | assistant (content : List Block)
  | other

/-- The lines are only read when the process is through: what is kept of them is the first
result. -/
def claudeCodeCli : Translator (Option CliResult) CliLine where
  step jsonResult line := match line with
    | .result r => (jsonResult <|> some r, [])
    | _ => (jsonResult, [])
  reports
    | .assistant content => content.any (·.reports)
    | _ => false

/-- How a `claude` process ends: it is given up on (a hang, a failed spawn), cancelled, or closes;
`plainText` is an output that is not JSON. -/
inductive CliEnd where
  | rejected (message : String)
  | cancelled
  | closed (plainText : Option String) (stderr : String) (exitCode : Int)

def cliResultMessage (r : CliResult) : HarnessMessage where
  type := .result
  subtype := some (if r.isError then "error" else "success")
  content := some (r.result.getD "")
  result := some (r.result.getD "")
  sessionId := r.sessionId

def ClaudeCodeCliHarness.run (lines : List CliLine) (ending : CliEnd) : HarnessRun where
  messages := claudeCodeCli.messages none lines ++ match ending with
    | .rejected message => [.error message]
    | .cancelled => [.error "Query was cancelled"]
    | .closed plainText stderr exitCode =>
      (match plainText.filter (trim · ≠ ""), claudeCodeCli.final none lines with
        | some text, _ => [{ type := .result, subtype := some "success",
                             content := some (trim text), result := some (trim text) }]
        | none, some r => [cliResultMessage r]
        | none, none => []) ++
      (if exitCode ≠ 0 then
        [.error (firstText [some stderr] s!"Claude CLI exited with code {exitCode}")] else [])

inductive FileOp where
  | edit | create | read
deriving DecidableEq

def FileOp.text : FileOp → String
  | edit => "file_edit"
  | create => "file_create"
  | read => "file_read"

/-- An item of `codex exec --json`. Of an item the harness does not know it is data whether it
reports a side effect. -/
inductive CodexItem where
  | agentMessage (text : Option String)
  | reasoning (text : Option String)
  | commandExecution (completed : Bool) (command : Option String)
  | file (op : FileOp) (path file : Option String)
  | other (text : Option String) (reports : Bool)

def CodexItem.reports : CodexItem → Bool
  | commandExecution .. => true
  | file op .. => op ≠ .read
  | other _ reports => reports
  | _ => false

/-- A line of `codex exec --json`; a line that is not JSON is an event the harness does not know. -/
inductive CodexEvent where
  | threadStarted (threadId : Option String)
  | sessionConfigured
  | turnStarted
  | itemCompleted (item : Option CodexItem)
  | itemStarted (item : Option CodexItem)
  | execCommandBegin (command : Option String)
  | execCommandOutputDelta (delta output : Option String)
  | execCommandEnd (command : Option String)
  | agentMessageDelta (delta text : Option String)
  | agentReasoning (text reasoning : Option String)
  | webSearchBegin (query : Option String)
  | webSearchEnd (query : Option String)
  | patchApplyBegin (path file : Option String)
  | patchApplyEnd (path file : Option String)
  | turnCompleted
  | error (message error : Option String)
  | other (reports : Bool)

structure CodexState where
  lastResult : String := ""
  sessionId : Option String := none

def toolUse (toolName subtype content : String) : HarnessMessage :=
  { type := .toolUse, toolName := some toolName, subtype := some subtype, content := some content }

def progress (subtype content : String) : HarnessMessage :=
  { type := .progress, subtype := some subtype, content := some content }

def thinking (content : String) : HarnessMessage := { type := .thinking, content := some content }

def codexItemMessages : CodexItem → List HarnessMessage
  | .agentMessage text => [progress "agent_message" (firstText [text] "")]
  | .reasoning text => [thinking (firstText [text] "")]
  | .commandExecution completed command =>
    [toolUse "bash" (if completed then "completed" else "running") (firstText [command] "")]
  | .file op path file => [{ type := .toolUse, toolName := some op.text,
                             content := some (firstText [path, file] "") }]
  | .other text _ =>
    if (text.filter (· ≠ "")).isSome then [{ type := .progress, content := text }] else []

def codex : Translator CodexState CodexEvent where
  step s e := match e with
    | .threadStarted threadId => ({ s with sessionId := threadId },
        [{ type := .system, subtype := some "init", sessionId := threadId }])
    | .sessionConfigured =>
        (s, [{ type := .system, subtype := some "configured", sessionId := s.sessionId }])
    | .turnStarted => (s, [{ type := .progress, content := some "Processing..." }])
    | .itemCompleted none => (s, [])
    | .itemCompleted (some (.agentMessage text)) =>
        ({ s with lastResult := firstText [text] "" }, codexItemMessages (.agentMessage text))
    | .itemCompleted (some item) => (s, codexItemMessages item)
    | .itemStarted (some (.commandExecution _ command)) =>
        (s, [toolUse "bash" "started" (firstText [command] "")])
    | .itemStarted _ => (s, [])
    | .execCommandBegin command => (s, [toolUse "bash" "started" (firstText [command] "")])
    | .execCommandOutputDelta delta output =>
        (s, [progress "command_output" (firstText [delta, output] "")])
    | .execCommandEnd command => (s, [toolUse "bash" "completed" (firstText [command] "")])
    | .agentMessageDelta delta text =>
        (s, [progress "message_delta" (firstText [delta, text] "")])
    | .agentReasoning text reasoning => (s, [thinking (firstText [text, reasoning] "")])
    | .webSearchBegin query => (s, [toolUse "web_search" "started" (firstText [query] "")])
    | .webSearchEnd query => (s, [toolUse "web_search" "completed" (firstText [query] "")])
    | .patchApplyBegin path file => (s, [toolUse "patch" "started" (firstText [path, file] "")])
    | .patchApplyEnd path file => (s, [toolUse "patch" "completed" (firstText [path, file] "")])
    | .turnCompleted => (s, if s.lastResult ≠ "" then
        [{ type := .result, result := some s.lastResult, sessionId := s.sessionId }] else [])
    | .error message error => (s, [.error (firstText [message, error] "Unknown error")])
    | .other _ => (s, [])
  reports
    | .itemCompleted (some item) | .itemStarted (some item) => item.reports
    | .execCommandBegin _ | .execCommandEnd _ | .patchApplyBegin .. | .patchApplyEnd .. => true
    | .other reports => reports
    | _ => false

/-- How a CLI process that is followed line by line ends: `timedOut` is the limit of a watchdog
that has killed it. -/
structure ProcessEnd where
  cancelled : Bool := false
  timedOut : Option Nat := none
  spawnError : Option String := none
  stderrText : String := ""
  exitCode : Option Int := some 0

def ProcessEnd.cancelledMessages (ending : ProcessEnd) : List HarnessMessage :=
  if ending.cancelled then [.error "Cancelled"] else []

def CodexHarness.run (lines : List CodexEvent) (ending : ProcessEnd) : HarnessRun where
  messages := codex.messages {} lines ++ ending.cancelledMessages ++ match ending.timedOut with
    | some timeoutMs =>
      [.error s!"Codex CLI timed out after {timeoutMs}ms ({HANG_TIMEOUT_MARKER})"]
    | none =>
      (ending.spawnError.toList.map fun message => .error ("Process spawn error: " ++ message)) ++
      (if (codex.final {} lines).lastResult = "" ∧ ending.stderrText ≠ "" then
        [.error (sliceUnits 500 (trim ending.stderrText))] else [])

/-- What an event of `cursor-agent` carries; the texts of a message are those of its content parts.
Of an event the parser does not know, and of the content parts it drops, it is data whether they
report a side effect. -/
inductive CursorPayload where
  | system (subtype : Option String)
  | user
  | thinking (delta : Bool) (text : Option String)
  | assistant (texts : List String) (reports : Bool)
  | result (isError : Bool) (subtype result error : Option String)
  | error (message error : Option String)
  | other (reports : Bool)

structure CursorEvent where
  sessionId : Option String := none
  payload : CursorPayload

structure CursorParserState where
  sessionId : Option String := none
  sessionInitEmitted : Bool := false
  assistantReply : String := ""
  thinkingBuffer : List String := []
  terminalEmitted : Bool := false

variable (s : CursorParserState)

def seeSession (evSession : Option String) : CursorParserState × List HarnessMessage :=
  match evSession.filter (· ≠ ""), s.sessionId with
  | some session, none => ({ s with sessionId := some session, sessionInitEmitted := true },
      if s.sessionInitEmitted then []
      else [{ type := .system, subtype := some "init", sessionId := some session }])
  | _, _ => (s, [])

def parsePayload : CursorPayload → CursorParserState × List HarnessMessage
  | .thinking true (some text) => (if text ≠ "" then
      { s with thinkingBuffer := s.thinkingBuffer ++ [text] } else s, [])
  | .assistant texts _ => ({ s with assistantReply := s.assistantReply ++ String.join texts }, [])
  | .result isError subtype result error =>
    ({ s with terminalEmitted := true },
      if isError ∨ subtype = some "error" then
        [.error (firstText [result, error] "cursor-agent reported an error")]
      else
        let finalText := firstText [some s.assistantReply, result] ""
        if finalText ≠ "" then
          [{ type := .result, result := some finalText, content := some finalText,
             sessionId := s.sessionId }]
        else [.error "cursor-agent returned success with no assistant content"])
  | .error message error => ({ s with terminalEmitted := true },
      [.error (firstText [message, error] "Unknown cursor-agent error")])
  | _ => (s, [])

def parseCursorEvent (event : CursorEvent) : CursorParserState × List HarnessMessage :=
  let (s, init) := seeSession s event.sessionId
  let (s, out) := parsePayload s event.payload
  (s, init ++ out)

def cursorCli : Translator CursorParserState CursorEvent where
  step := parseCursorEvent
  reports event := match event.payload with
    | .assistant _ reports | .other reports => reports
    | _ => false

def CursorCliHarness.run (lines : List CursorEvent) (ending : ProcessEnd) : HarnessRun where
  messages := cursorCli.messages {} lines ++ ending.cancelledMessages ++
    match ending.timedOut, ending.spawnError with
    | some timeoutMs, _ =>
      [.error s!"Cursor CLI timed out after {timeoutMs}ms ({HANG_TIMEOUT_MARKER})"]
    | none, some message => [.error ("Process spawn error: " ++ message)]
    | none, none =>
      let s := cursorCli.final {} lines
      if s.terminalEmitted || ending.cancelled then []
      else if s.assistantReply ≠ "" ∧ ending.exitCode = some 0 then
        [{ type := .result, result := some s.assistantReply, content := some s.assistantReply,
           sessionId := s.sessionId }]
      else if trim ending.stderrText ≠ "" then
        [.error (sliceUnits 500 (trim ending.stderrText))]
      else
        let code := (ending.exitCode.map toString).getD "null"
        [.error s!"cursor-agent exited with code {code} and no terminal event"]

inductive RuntimeRun where
  | claudeAgentSdk (events : List SDKMessage) (threw : Option String)
  | claudeCodeCli (lines : List CliLine) (ending : CliEnd)
  | codex (lines : List CodexEvent) (ending : ProcessEnd)
  | cursorCli (lines : List CursorEvent) (ending : ProcessEnd)

namespace RuntimeRun

/-- `harness.run` -/
def run : RuntimeRun → HarnessRun
  | claudeAgentSdk events threw => ClaudeAgentSdkHarness.run events threw
  | claudeCodeCli lines ending => ClaudeCodeCliHarness.run lines ending
  | codex lines ending => CodexHarness.run lines ending
  | cursorCli lines ending => CursorCliHarness.run lines ending

def executes : RuntimeRun → Bool
  | claudeAgentSdk events _ => Agent.claudeAgentSdk.executes none events
  | claudeCodeCli lines _ => Agent.claudeCodeCli.executes none lines
  | codex lines _ => Agent.codex.executes {} lines
  | cursorCli lines _ => Agent.cursorCli.executes {} lines

end RuntimeRun

end IdAgents.Agent
