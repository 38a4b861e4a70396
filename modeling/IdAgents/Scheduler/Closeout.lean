import IdAgents.Scheduler.Service
import IdAgents.Scheduler.StrictMode

namespace IdAgents
open JsText KeyedTable AtomicProgram

def getByQueryId (queryId : String) : Prog (Option DispatchDoc) := do
  let rows ← selectRows
  return (rows.find? (·.queryId = queryId)).map rowToDoc

def getByAgentQueryId (agentQueryId : String) : Prog (Option DispatchDoc) := do
  let rows ← selectRows
  return (rows.find? (·.agentQueryId = some agentQueryId)).map rowToDoc

structure AgentDone where
  queryId : Option String := none
  agentQueryId : Option String := none
  result : Option ResponseBody := none
  reportCandidateRequestJson : Option String := none
  promotionResultJson : Option Json := none
  success : Option Bool := none
  error : Option String := none
  failureKind : Option FailureKind := none

/-- How the manager closes dispatches out; `rawStrictMode` is `DISPATCH_CANONICAL_STRICT_MODE`. -/
structure CloseoutOptions where
  rawStrictMode : Option String := none
  intl : Intl

def agentDoneConflict (detail : String) : Prog α := .throw (.conflict detail)

def requireAgentDoneMutation (operation : String) : Result DispatchDoc → Prog DispatchDoc
  | .ok doc => return doc
  | .error e =>
    if e.reason = "conflict" then conflict s!"{operation}: {e.detail}"
    else throw (.other s!"{operation}: {e.detail}")

variable (doc : DispatchDoc)

variable (args : AgentDone)

def reconcileTerminalSuccess : Prog DispatchDoc :=
  if doc.status = .done ∧ doc.resultJson = args.result.map Json.obj ∧
      doc.reportCandidateRequestJson = args.reportCandidateRequestJson ∧
      doc.promotionResultJson = args.promotionResultJson then return doc
  else agentDoneConflict s!"success closeout conflicts with terminal {doc.status.text}"

def reconcileTerminalFailure (args : FailureArgs) : Prog DispatchDoc :=
  if doc.status = .failed ∧ doc.failureKind = some args.failureKind ∧
      doc.failureDetail = some args.detail then return doc
  else agentDoneConflict s!"failure closeout conflicts with terminal {doc.status.text}"

def failCloseout (operation : String) (doc : DispatchDoc) (args : FailureArgs) : Prog DispatchDoc :=
  if isTerminal doc.status then reconcileTerminalFailure doc args
  else do
    let failed ← requireAgentDoneMutation operation (← Client.markFailed doc.dispatchPhid args)
    if failed.status ≠ .failed then
      agentDoneConflict s!"failure closeout lost to terminal {failed.status.text}"
    else return failed

/-- The closeout of a dispatch whose answer says that the provider's session limit is hit. -/
def bounceCloseout (limit : FailedClassification) (classifiedAt : Instant) : Prog DispatchDoc := do
  let nextAttemptAt := limit.providerResetAt.getD (classifiedAt + 30 * 60000)
  let fallback ← resolveFallbackLane doc
  let resetLabel := limit.providerResetLabel.getD "the provider reset time"
  let routed := if fallback.isSome then " / routed to fallback" else ""
  if isTerminal doc.status then
    agentDoneConflict s!"provider-limit bounce conflicts with terminal {doc.status.text}"
  else
    requireAgentDoneMutation "markBounced" (← Client.markBounced doc.dispatchPhid
      { kind := "provider_limit"
        message := s!"Claude limited until {resetLabel}; dispatch will retry{routed}"
        nextAttemptAt := nextAttemptAt
        allowAutoRetry := some true
        provider := fallback.map Prod.fst
        runtime := fallback.map Prod.snd })

/-- A closeout taken as a success: a dispatch still queued is closed without a start. -/
def succeedCloseout : Prog (Option DispatchDoc) :=
  if isTerminal doc.status then some <$> reconcileTerminalSuccess doc args
  else
    let done : DoneResult :=
      { result := args.result.map Json.obj
        reportCandidateRequestJson := args.reportCandidateRequestJson
        promotionResultJson := some args.promotionResultJson }
    if doc.status = .queued then markQueuedDoneWithResult doc.dispatchPhid done
    else markDoneWithResult doc.dispatchPhid done

def docByQueryId : Prog (Option DispatchDoc) :=
  match args.queryId.filter (· ≠ "") with
  | some queryId => (fun r => r.toOption) <$> wrapNullable "getByQueryId" (getByQueryId queryId)
  | none => return none

def reportedDoc : Prog (Option DispatchDoc) := do
  let doc ← docByQueryId args
  match doc, args.agentQueryId.filter (· ≠ "") with
  | some doc, _ => return some doc
  | none, some agentQueryId => getByAgentQueryId agentQueryId
  | none, none => return none

def closeClassified (opts : CloseoutOptions) (args : AgentDone) (doc : DispatchDoc)
    (classifiedAt : Instant) : Option FailedClassification → Prog (Option DispatchDoc)
  | none => succeedCloseout doc args
  | some failure =>
    if failure.reason = .rateLimitError ∧ failure.matchedPattern = "text:claude-session-limit" then
      some <$> bounceCloseout doc failure classifiedAt
    else if parseStrictModeFlag opts.rawStrictMode = .enforce then
      some <$> failCloseout "strictModeMarkFailed" doc
        ⟨.strictModeClassified, strictModeDetail failure⟩
    else succeedCloseout doc args

def handleAgentDone (opts : CloseoutOptions) (args : AgentDone) : Prog (Option DispatchDoc) := do
  match ← reportedDoc args with
  | none => return none
  | some doc =>
    if args.success = some false then
      some <$> failCloseout "markFailed" doc
        ⟨args.failureKind.getD .agentError, args.error.getD "agent reported failure"⟩
    else do
      let classifiedAt ← nowFn
      closeClassified opts args doc classifiedAt
        (classifyAgentResponse opts.intl args.result 200 classifiedAt)

end IdAgents
