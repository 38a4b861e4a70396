import IdAgents.Library.Json
import IdAgents.Library.Regex
import IdAgents.Library.Text

namespace IdAgents
open JsText JsRegex

inductive DispatchFailureReason where
  | rateLimitError | providerServerError | providerAuthError | providerTimeout
  | contextLengthError | runtimeError | toolError | agentRefusal | malformedAgentResponse
  | dispatchIdMismatch | dispatchNotFound | unknownError
deriving DecidableEq, Repr

def DispatchFailureReason.text : DispatchFailureReason → String
  | rateLimitError => "rate_limit_error"
  | providerServerError => "provider_server_error"
  | providerAuthError => "provider_auth_error"
  | providerTimeout => "provider_timeout"
  | contextLengthError => "context_length_error"
  | runtimeError => "runtime_error"
  | toolError => "tool_error"
  | agentRefusal => "agent_refusal"
  | malformedAgentResponse => "malformed_agent_response"
  | dispatchIdMismatch => "dispatch_id_mismatch"
  | dispatchNotFound => "dispatch_not_found"
  | unknownError => "unknown_error"

def KNOWN_REASONS : List DispatchFailureReason := [
  .rateLimitError, .providerServerError, .providerAuthError, .providerTimeout,
  .contextLengthError, .runtimeError, .toolError, .agentRefusal, .malformedAgentResponse,
  .dispatchIdMismatch, .dispatchNotFound, .unknownError]

def knownReason? (v : String) : Option DispatchFailureReason :=
  KNOWN_REASONS.find? fun reason => reason.text = v

inductive ClassificationConfidence where
  | structured | pattern | transport
deriving DecidableEq, Repr

def ClassificationConfidence.text : ClassificationConfidence → String
  | structured => "structured"
  | pattern => "pattern"
  | transport => "transport"

/-- What a failed classification says; its excerpt of the response is only logged. -/
structure FailedClassification where
  reason : DispatchFailureReason
  confidence : ClassificationConfidence
  matchedPattern : String
  providerResetAt : Option Instant := none
  providerResetLabel : Option String := none
deriving DecidableEq, Repr

abbrev ResponseBody := List (String × Json)

structure ZonedParts where
  year : Int
  month : Int
  day : Int
  hour : Int
  minute : Int
  second : Int

/-- `Intl.DateTimeFormat` of the host, which throws on an unknown time zone. -/
structure Intl where
  zonedParts : Instant → String → Option ZonedParts

def bodyToText : Option ResponseBody → String
  | none => ""
  | some fields => Json.stringify (.obj fields)

def classifyTransport (status : Int) (body : Option ResponseBody) : Option FailedClassification :=
  if trim (bodyToText body) ≠ "" then none
  else if status = 429 then some ⟨.rateLimitError, .transport, "transport_status=429", none, none⟩
  else if status = 401 ∨ status = 403 then
    some ⟨.providerAuthError, .transport, s!"transport_status={status}", none, none⟩
  else if status = 408 then some ⟨.providerTimeout, .transport, "transport_status=408", none, none⟩
  else if 500 ≤ status ∧ status ≤ 599 then
    some ⟨.providerServerError, .transport, s!"transport_status={status}", none, none⟩
  else none

def matchDispatchIdMismatch (parsed : ResponseBody) : Option String :=
  let body := Json.obj parsed
  let err := body.field? "error"
  if err = some (.str "dispatch_id_mismatch") then some "error=dispatch_id_mismatch"
  else if err.bind (Json.field? "type") = some (.str "dispatch_id_mismatch") then
    some "error.type=dispatch_id_mismatch"
  else if body.field? "failure_reason" = some (.str "dispatch_id_mismatch") ∨
      body.field? "status" = some (.str "dispatch_id_mismatch") then
    some "failure_reason=dispatch_id_mismatch"
  else none

/-- The markers of a structured `error` object. -/
def matchErrorType (err : Json) : Option (DispatchFailureReason × String) :=
  match err.strField? "type" with
  | none => none
  | some type =>
    let message := toLowerCase ((err.strField? "message").getD "")
    match type with
    | "rate_limit_error" => some (.rateLimitError, "error.type=rate_limit_error")
    | "provider_server_error" => some (.providerServerError, "error.type=provider_server_error")
    | "authentication_error" => some (.providerAuthError, "error.type=authentication_error")
    | "overloaded_error" => some (.providerServerError, "error.type=overloaded_error")
    | "invalid_request_error" =>
      if ["context", "maximum", "too long", "token"].any (includes message) then
        some (.contextLengthError, "error.type=invalid_request_error+context-hint")
      else some (.unknownError, "error.type=invalid_request_error")
    | "tool_error" => some (.toolError, "error.type=tool_error")
    | "tool_execution_failed" => some (.toolError, "error.type=tool_execution_failed")
    | "agent_refusal" => some (.agentRefusal, "error.type=agent_refusal")
    | _ => none

def matchStructured (parsed : ResponseBody) : Option (DispatchFailureReason × String) :=
  let body := Json.obj parsed
  match (body.field? "error").bind matchErrorType with
  | some found => some found
  | none =>
    if body.field? "success" = some (.bool false) then
      match body.strField? "error_type" with
      | some "tool_execution_failed" =>
        some (.toolError, "success=false+error_type=tool_execution_failed")
      | some "rate_limit_error" =>
        some (.rateLimitError, "success=false+error_type=rate_limit_error")
      | some errorType => some (.runtimeError, s!"success=false+error_type={errorType}")
      | none => some (.runtimeError, "success=false")
    else if body.field? "status" = some (.str "failed") ∨
        body.field? "state" = some (.str "failed") then
      match (body.strField? "failure_reason").bind knownReason? with
      | some reason => some (reason, s!"status=failed+failure_reason={reason.text}")
      | none => some (.runtimeError, "status=failed")
    else none

def isLikelyErrorByTransport (status : Int) : Bool := 400 ≤ status || status = 0

def hasStrongInlineMarker (text : String) : Bool :=
  ["tool execution failed", "you've hit your session limit", "you have hit your session limit",
    "rate_limit_error", "provider_server_error", "authentication_error", "not logged in",
    "please run /login"].any (includes (toLowerCase text))

def wallTime (parts : ZonedParts) : Instant :=
  daysOfCivil parts.year parts.month parts.day * 86400000 +
    (parts.hour * 3600 + parts.minute * 60 + parts.second) * 1000

def correctGuess (intl : Intl) (timeZone : String) (wanted : Instant) :
    Nat → Instant → Option Instant
  | 0, guess => some guess
  | n + 1, guess =>
    match intl.zonedParts guess timeZone with
    | none => none
    | some parts =>
      let delta := wanted - wallTime parts
      if delta = 0 then some guess else correctGuess intl timeZone wanted n (guess + delta)

variable (intl : Intl)

def zonedWallTimeToUtc (timeZone : String) (parts : ZonedParts) : Option Instant :=
  correctGuess intl timeZone (wallTime parts) 3 (wallTime parts)

/-- `\bresets?\s+([0-9]{1,2})(?::([0-9]{2}))?\s*(am|pm)\b(?:\s*\(([^)]+)\))?` under the flag `i` -/
def RESET_PATTERN : Regex :=
  let digit : Regex := .one Char.isDigit
  let spaces : Regex := .many (.one isSpace)
  .seq .wordBoundary <| .seq (litI "reset") <| .seq (opt (litI "s")) <| .seq (plus (.one isSpace)) <|
    .seq (.group 1 (.seq digit (opt digit))) <|
    .seq (opt (.seq (lit ":") (.group 2 (exactly 2 digit)))) <| .seq spaces <|
    .seq (.group 3 (.alt (litI "am") (litI "pm"))) <| .seq .wordBoundary <|
    opt (.seq spaces (.seq (lit "(") (.seq (.group 4 (plus (.one (· ≠ ')')))) (lit ")"))))

/-- `^resets?\s+`, dropped from the label. -/
def dropResets (text : List Char) : List Char :=
  let rest := text.drop 5
  let rest := match rest with
    | c :: cs => if c.toLower = 's' then cs else rest
    | [] => []
  rest.dropWhile isSpace

def decimal (digits : List Char) : Nat := digits.foldl (fun n c => 10 * n + (c.toNat - 48)) 0

structure SessionLimit where
  resetAt : Option Instant
  resetLabel : Option String

def nextResetAt (classifiedAt : Instant) (timeZone : String) (hour24 minute : Int) :
    Option Instant := do
  let parts ← intl.zonedParts classifiedAt timeZone
  let at_ (p : ZonedParts) : Option Instant :=
    zonedWallTimeToUtc intl timeZone { p with hour := hour24, minute := minute, second := 0 }
  match at_ parts with
  | none => none
  | some resetAt =>
    if classifiedAt < resetAt then some resetAt
    else
      let tomorrow := daysOfCivil parts.year parts.month (parts.day + 1) * 86400000
      match intl.zonedParts tomorrow timeZone with
      | some tomorrowParts => at_ tomorrowParts
      | none => some resetAt

def parseClaudeSessionLimit (text : String) (classifiedAt : Instant) : Option SessionLimit :=
  let lower := toLowerCase text
  if !includes lower "session limit" then none
  else if !includes lower "hit your session limit" && !includes lower "session limit · resets" then
    none
  else match RESET_PATTERN.firstMatch [] text.toList with
    | none => some ⟨none, none⟩
    | some (matched, groups) =>
      let label := trim (String.ofList (dropResets matched))
      let number (n : Nat) : Int := decimal ((groups.lookup n).getD [])
      let hour := number 1
      let minute := number 2
      let meridiem := toLowerCase (String.ofList ((groups.lookup 3).getD []))
      let named := ((groups.lookup 4).map fun cs => trim (String.ofList cs)).filter (· ≠ "")
      let timeZone := named.getD "America/Chicago"
      if hour < 1 ∨ 12 < hour ∨ 59 < minute then some ⟨none, some label⟩
      else
        let hour24 := hour % 12 + if meridiem = "pm" then 12 else 0
        some ⟨nextResetAt intl classifiedAt timeZone hour24 minute, some label⟩

def matchPlainText (text : String) (classifiedAt : Instant) : Option FailedClassification :=
  let lower := toLowerCase text
  let has (needle : String) : Bool := includes lower needle
  let found (reason : DispatchFailureReason) (pattern : String) : Option FailedClassification :=
    some ⟨reason, .pattern, pattern, none, none⟩
  match parseClaudeSessionLimit intl text classifiedAt with
  | some limit =>
    some ⟨.rateLimitError, .pattern, "text:claude-session-limit", limit.resetAt, limit.resetLabel⟩
  | none =>
    if has "rate_limit_error" then found .rateLimitError "text:rate_limit_error"
    else if has "rate limit" && (has "429" || has "exceeded" || has "too many") then
      found .rateLimitError "text:rate-limit-phrase"
    else if has "overloaded" then found .providerServerError "text:overloaded"
    else if has "provider_server_error" || has "internal server error" then
      found .providerServerError "text:server-error"
    else if has "authentication_error" || has "invalid api key" then
      found .providerAuthError "text:auth-error"
    else if has "not logged in" || has "please run /login" then
      found .providerAuthError "text:runtime-not-logged-in"
    else if has "maximum context" || has "context length" then
      found .contextLengthError "text:context-length"
    else if has "tool execution failed" then found .toolError "text:tool-execution-failed"
    else if has "runtime error" then found .runtimeError "text:runtime-error"
    else none

/-- `none` is the classification `delivered`. -/
def classifyAgentResponse (body : Option ResponseBody) (transportStatus : Int)
    (classifiedAt : Instant) : Option FailedClassification :=
  match classifyTransport transportStatus body with
  | some failure => some failure
  | none =>
    match body.bind matchDispatchIdMismatch with
    | some mismatch => some ⟨.dispatchIdMismatch, .structured, mismatch, none, none⟩
    | none =>
      match body.bind matchStructured with
      | some (reason, pattern) => some ⟨reason, .structured, pattern, none, none⟩
      | none =>
        let bodyText := bodyToText body
        if isLikelyErrorByTransport transportStatus || hasStrongInlineMarker bodyText then
          matchPlainText intl bodyText classifiedAt
        else none

inductive StrictModeFlag where
  | off | shadow | enforce
deriving DecidableEq, Repr

def parseStrictModeFlag (raw : Option String) : StrictModeFlag :=
  match toLowerCase (trim (raw.getD "")) with
  | "enforce" => .enforce
  | "shadow" => .shadow
  | _ => .off

def strictModeDetail (classification : FailedClassification) : String :=
  ":".intercalate (["strict_mode", classification.reason.text, classification.confidence.text,
    classification.matchedPattern].filter (· ≠ ""))

example : (classifyAgentResponse ⟨fun _ _ => none⟩
    (some [("text", .str "You've hit your session limit · resets 7:30pm (UTC)")]) 200 0) =
    some ⟨.rateLimitError, .pattern, "text:claude-session-limit", none, some "7:30pm (UTC)"⟩ := by
  decide +kernel

end IdAgents
