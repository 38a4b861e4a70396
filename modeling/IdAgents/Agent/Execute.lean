import IdAgents.Agent.Query

namespace IdAgents.Agent
open JsText AtomicProgram

structure Heard where
  result : String := ""
  error : Option String := none
  sessionId : Option String := none
  hadMutatingToolUse : Bool := false
  messages : List String := []
deriving DecidableEq

def HarnessMessage.line (m : HarnessMessage) : List String :=
  match m.type, m.content.filter (· ≠ "") with
  | .thinking, some content => ["[Thinking] " ++ content]
  | .toolUse, _ => ["[Tool] " ++ firstText [m.toolName] "unknown"]
  | .progress, some content => ["[Progress] " ++ content]
  | .error, some content => ["[Error] " ++ content]
  | _, _ => []

def Heard.hear (h : Heard) (m : HarnessMessage) : Heard where
  result := if m.fails then h.result else m.result.getD h.result
  error := if m.fails then m.content else h.error
  sessionId := m.sessionId.filter (· ≠ "") <|> h.sessionId
  hadMutatingToolUse := h.hadMutatingToolUse || m.mutates
  messages := h.messages ++ m.line

def listen : Heard → List HarnessMessage → Option String → Heard
  | h, [], thrown => { h with error := thrown <|> h.error }
  | h, m :: ms, thrown => if m.fails then h.hear m else listen (h.hear m) ms thrown

/-- Whether a JSON value is true to `if`. -/
def truthy : Json → Bool
  | .null => false
  | .bool b => b
  | .num text => text ≠ "0"
  | .str s => s ≠ ""
  | .arr _ | .obj _ => true

/-- How an attempt ends, before the retry gate is asked; `crashed` is an error value that is not a
text, which the classifier throws on. -/
inductive AttemptEnd where
  | success (result : String)
  | failed (source : HarnessFailureSource) (message : String)
  | crashed (message : String)
deriving DecidableEq
section
variable (settings : Settings)

def unwrap (result : String) : AttemptEnd :=
  let trimmed := (trim result).toList
  if trimmed.head? = some '\x7b' ∧ trimmed.getLast? = some '\x7d' then
    match settings.parseJson (trim result) with
    | none => .success result
    | some parsed =>
      if (parsed.field? "is_error").any truthy then
        match ([parsed.field? "result", parsed.field? "error"].filterMap id).find? truthy with
        | some (.str message) => .failed .harnessErrorMessage message
        | some _ => .crashed "out.replace is not a function"
        | none =>
          .failed .harnessErrorMessage ("Unknown error from " ++ settings.runtimeDisplay)
      else match (parsed.strField? "result").filter (trim · ≠ ""),
          (parsed.strField? "text").filter (trim · ≠ "") with
        | some inner, _ => .success inner
        | none, some inner => .success inner
        | none, none => .success result
  else .success result

def emptyResultMessage : String :=
  settings.runtimeDisplay ++ " produced an empty result"

def isEmptyResult (result : String) : Bool :=
  trim result = "" || trim result = "No response from " ++ settings.runtimeDisplay

def attemptEnd (h : Heard) : AttemptEnd :=
  match h.error.filter (· ≠ "") with
  | some message => .failed .harnessErrorMessage message
  | none => match unwrap settings h.result with
    | .success result =>
      if isEmptyResult settings result then .failed .emptyResult (emptyResultMessage settings)
      else .success result
    | ending => ending

def classify (source : HarnessFailureSource) (message : String) : HarnessFailureClassification :=
  classifyHarnessFailure { message, source }
section
variable (job : Job)

def isBuildDispatch : Bool :=
  looksLikeBuildDispatch (settings.enhancePrompt job)
section
variable (attempt : Nat)

def retryDecision (h : Heard) (classification : HarnessFailureClassification) : RetryDecision :=
  evaluateRetry classification attempt settings.retryPolicy
    ⟨h.hadMutatingToolUse, isBuildDispatch settings job⟩

structure LoopState where
  sessionId : Option String
  prevClassification : Option HarnessFailureClassification := none
  messages : List String := []

structure ClassifiedHarnessError where
  message : String
  classification : HarnessFailureClassification
  attempts : Nat
  exhausted : Bool

inductive LoopEnd where
  | result (result : String) (s : LoopState)
  | exhausted (error : ClassifiedHarnessError) (s : LoopState)
  | crashed (message : String) (s : LoopState)

def giveUp (s : LoopState) (message : String)
    (classification : HarnessFailureClassification) (decision : RetryDecision) : Prog LoopEnd := do
  let failure : ClassifiedHarnessError := ⟨message, classification, attempt,
    settings.retryPolicy.maxAttempts ≤ attempt && classification.retryable⟩
  if decision.reason = .buildDispatch ∨ decision.reason = .mutatingToolObserved then
    let _ ← ignoring (addNews "query.retry_suppressed" job.queryId)
    return .exhausted failure s
  else return .exhausted failure s

def prepareRetry (s : LoopState)
    (classification : HarnessFailureClassification) : Prog LoopState := do
  let _ ← ignoring (addNews "query.retrying" job.queryId)
  if shouldClearSessionOnRetry (some classification) settings.retryPolicy then
    let _ ← setSession none
    return { s with sessionId := none, prevClassification := some classification }
  else return { s with prevClassification := some classification }

def clearOnFilter (source : HarnessFailureSource) (classification : HarnessFailureClassification) :
    Prog Unit :=
  if source = .harnessErrorMessage ∧ classification.kind = .contentFilter then setSession none
  else return ()

def commitSession (h : Heard) (s : LoopState) : Prog LoopState :=
  match h.sessionId with
  | some session =>
    if settings.allowSessionResume then do
      let _ ← setSession (some session)
      return { s with sessionId := some session }
    else return { s with sessionId := some session }
  | none => return s

def sessionForAttempt (s : LoopState) : Option String :=
  if settings.allowSessionResume && !(1 < attempt &&
      shouldClearSessionOnRetry s.prevClassification settings.retryPolicy) then s.sessionId
  else none

def runAttempt (resume : Option String) : Prog RuntimeRun := do
  let _ ← (Program.stmt (S := sql) (.spawn job.queryId attempt resume) : Prog Unit)
  Program.stmt (S := sql) (.finish job.queryId attempt)

def heardOf (r : RuntimeRun) (messages : List String) : Heard :=
  listen { messages } r.run.messages r.run.thrown

/-- What follows an attempt; `again` is the rest of the loop. -/
def judgeAttempt (h : Heard) (s : LoopState) (again : LoopState → Prog LoopEnd) : Prog LoopEnd :=
  match attemptEnd settings h with
  | .success result => do
    let s ← commitSession settings h s
    return .result result s
  | .crashed message => return .crashed message s
  | .failed source message => do
    let classification := classify source message
    let _ ← clearOnFilter source classification
    let decision := retryDecision settings job attempt h classification
    if decision.retry then
      let s ← prepareRetry settings job s classification
      again s
    else giveUp settings job attempt s message classification decision

end

/-- The retry loop; `remaining` counts the attempts still allowed. -/
def retryLoop (settings : Settings) (job : Job) : Nat → LoopState → Prog LoopEnd
  | 0, s => return .result "" s
  | remaining + 1, s => do
    let attempt := settings.retryPolicy.maxAttempts - remaining
    let r ← runAttempt job attempt (sessionForAttempt settings attempt s)
    let h := heardOf r s.messages
    judgeAttempt settings job attempt h { s with messages := h.messages }
      (retryLoop settings job remaining)

def shouldAutoReply : Bool := job.sender.any (· ≠ "") && !job.noAutoReply

def sendReply (success : Bool) (sessionId : Option String) : Prog Unit :=
  Program.stmt (S := sql) (.sendReply job.queryId success sessionId)

def sendReplyToSender (success : Bool) (sessionId : Option String) : Prog Unit :=
  if shouldAutoReply job then sendReply job success sessionId else return ()

def settle (outcome : Outcome) (sessionId : Option String) : Prog Unit :=
  orThrow (Program.stmt (S := sql) (.settle job.queryId outcome sessionId))
section
variable (result : String)

def isHeartbeatOk : Bool :=
  job.noAutoReply && trim result = "HEARTBEAT_OK"

def tellCompleted : Prog Unit :=
  if isHeartbeatOk job result then return () else orThrow (addNews "query.completed" job.queryId)

def replyCompleted (s : LoopState) : Prog Unit :=
  if shouldAutoReply job then sendReplyToSender job true s.sessionId
  else if job.sender.any (· ≠ "") && job.noAutoReply && !isHeartbeatOk job result then
    orThrow (addNews "response.saved" job.queryId)
  else return ()

def resultJson (s : LoopState) : Json :=
  .obj ([("result", .str result)] ++ (s.sessionId.toList.map fun session => ("sessionId", .str session)) ++
    [("messages", .arr (s.messages.map .str)), ("model", .str settings.model)])

def completeQuery (s : LoopState) : Prog Unit := do
  let _ ← settle job (.completed (resultJson settings result s)) s.sessionId
  let _ ← tellCompleted job result
  replyCompleted job result s

end

@[irreducible] def isContentFilterError (errorMessage : String) : Bool :=
  ["content filter", "blocked", "filtering policy", "output blocked"].any
    (includes (toLowerCase errorMessage))

def clearOnFilterError (errorMessage : String) : Prog Unit :=
  if isContentFilterError errorMessage then setSession none else return ()

/-- The `catch` of `executeQuery`. -/
def failQuery (s : LoopState) (error : String) : Prog Unit := do
  let _ ← settle job (.failed error) s.sessionId
  let _ ← clearOnFilterError error
  let _ ← orThrow (addNews "query.failed" job.queryId)
  sendReplyToSender job false s.sessionId

def startSession : Prog (Option String) :=
  if settings.allowSessionResume then match job.resume.filter (· ≠ "") with
    | some session => return some session
    | none => Program.stmt (S := sql) .readSession
  else return none

def runQuery : Prog Unit := do
  let sessionId ← startSession settings job
  match ← retryLoop settings job settings.retryPolicy.maxAttempts { sessionId } with
  | .result result s => (completeQuery settings job result s).tryCatch (failQuery job s)
  | .exhausted error s => failQuery job s error.message
  | .crashed message s => failQuery job s message

end

end

def executeQuery (job : Job) : Prog Unit := do
  let settings : Settings ← (Program.stmt (S := sql) .settings : Prog Settings)
  let _ ← orThrow (Program.stmt (S := sql) (.activate job))
  runQuery settings job

def executeQueued (job : Job) : Prog Unit := do
  let _ ← (executeQuery job).tryCatch fun _ => return ()
  Program.stmt (S := sql) (.endQuery job.queryId)

/-- The queue is worked off one by one; `turns` counts how often it is looked at. -/
def processQueryQueue : Nat → Prog Unit
  | 0 => return ()
  | turns + 1 => do
    match (← (Program.stmt (S := sql) .takeJob : Prog (Option Job))) with
    | none => processQueryQueue turns
    | some job =>
      let _ ← executeQueued job
      processQueryQueue turns

/-- `POST /talk` -/
def talk (job : Job) (managerDispatchId managerQueryId : Option String) : Prog Unit := do
  let _ ← ignoring (Program.stmt (S := sql) (.prewrite job managerDispatchId managerQueryId))
  let _ ← ignoring (addNews "query.received" job.queryId)
  Program.stmt (S := sql) (.startQuery job)

/-- `POST /schedule` -/
def schedule (job : Job) : Prog Unit := do
  let _ ← ignoring (addNews "schedule.received" job.queryId)
  Program.stmt (S := sql) (.startQuery { job with resume := none, sender := none, noAutoReply := true })

/-- `POST /cancel` -/
def cancel : Prog Unit := do
  let cancelled : Cancelled ← (Program.stmt (S := sql) .cancel : Prog Cancelled)
  match cancelled.marked with
  | some id => orThrow (addNews "query.cancelled" id)
  | none => return ()

def cancelOpen (agentId : String) : Prog Unit := Program.stmt (S := sql) (.cancelOpen agentId)

/-- `queries.cancel(agentId)` -/
def cancelQueries (agentId : String) : Prog Unit := do
  let queryIds : List String ← (Program.stmt (S := sql) (.selectOpen agentId) : Prog (List String))
  if queryIds = [] then return () else cancelOpen agentId

inductive Activity where
  | talk (job : Job) (managerDispatchId managerQueryId : Option String)
  | schedule (job : Job)
  | cancel
  | complete (queryId : String) (result : Option Json)
  | markFailed (queryId : String) (error : Option String)
  | sweepStaleQueries (cutoff : Int)
  | cancelQueries (agentId : String)

def Activity.prog : Activity → Prog Unit
  | talk job managerDispatchId managerQueryId => Agent.talk job managerDispatchId managerQueryId
  | schedule job => Agent.schedule job
  | cancel => Agent.cancel
  | complete queryId result => Program.stmt (S := sql) (.complete queryId result)
  | markFailed queryId error => Program.stmt (S := sql) (.markFailed queryId error)
  | sweepStaleQueries cutoff =>
    Program.stmt (S := sql) (.expireStale cutoff [.pending, .processing])
  | cancelQueries agentId => Agent.cancelQueries agentId

def isResultNews (type : String) : Bool := type = "query.completed" || type = "response.saved"

def Stmt.isQuiet : Stmt → Bool
  | .settings | .readSession | .finish .. | .setSession _ | .sendReply .. => true
  | .addNews type _ => !isResultNews type
  | _ => false

abbrev Quiet (p : Prog α) : Prop := p.Meets (fun c : Stmt => c.isQuiet) fun _ => True

theorem setSession_quiet (session : Option String) : Quiet (setSession session) :=
  ⟨rfl, fun _ => trivial⟩

theorem addNews_quiet (h : isResultNews type = false) : Quiet (addNews type queryId) :=
  ⟨by simp [Stmt.isQuiet, h], fun _ => trivial⟩

theorem ignoring_quiet (hp : Quiet p) : Quiet (ignoring p) :=
  hp.bind fun _ _ => trivial

theorem orThrow_meets (hp : p.Meets Q fun _ => True) : (orThrow p).Meets Q fun _ => True := by
  apply hp.bind
  intro r _
  cases r <;> trivial

theorem clearOnFilter_quiet : Quiet (clearOnFilter source classification) := by
  unfold clearOnFilter
  split
  · exact setSession_quiet none
  · trivial

theorem clearOnFilterError_quiet : Quiet (clearOnFilterError error) := by
  unfold clearOnFilterError
  split
  · exact setSession_quiet none
  · trivial

theorem commitSession_quiet : Quiet (commitSession settings h s) := by
  unfold commitSession
  split
  · split
    · exact (setSession_quiet _).bind fun _ _ => trivial
    · trivial
  · trivial

theorem prepareRetry_quiet : Quiet (prepareRetry settings job s classification) := by
  apply (ignoring_quiet (addNews_quiet rfl)).bind
  intro _ _
  split
  · exact (setSession_quiet none).bind fun _ _ => trivial
  · trivial

theorem giveUp_quiet : Quiet (giveUp settings job attempt s message classification decision) := by
  unfold giveUp
  dsimp only
  split
  · exact (ignoring_quiet (addNews_quiet rfl)).bind fun _ _ => trivial
  · trivial

theorem sendReplyToSender_quiet : Quiet (sendReplyToSender job success sessionId) := by
  unfold sendReplyToSender
  split
  · exact ⟨rfl, fun _ => trivial⟩
  · trivial

theorem startSession_quiet : Quiet (startSession settings job) := by
  unfold startSession
  split
  · split
    · trivial
    · exact ⟨rfl, fun _ => trivial⟩
  · trivial

def codexSettings : Settings where
  agentId := "coder"
  runtimeDisplay := "Codex"
  allowSessionResume := false
  supportsCancel := true
  model := "gpt-5.4"
  retryPolicy := HARNESS_RETRY_DEFAULTS
  enhancePrompt := fun job => job.prompt
  parseJson := fun _ => none

end IdAgents.Agent
