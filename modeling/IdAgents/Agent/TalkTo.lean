import IdAgents.Agent.Query
import IdAgents.Library.Dict

namespace IdAgents.Agent
open JsText JsMap

def said (text : Option String) : Option String := text.filter (· ≠ "")

/-- What `POST /news` reads of its body. -/
structure NewsRequest where
  type : Option String := none
  sender : Option String := none
  message : Option String := none
  inReplyTo : Option String := none
  hasData : Bool := false
  dataMessage : Option String := none
  trigger : Option Bool := none
  skipPersist : Bool := false
deriving DecidableEq, Repr

def resolveNewsTrigger (inReplyTo : Option String) (trigger : Option Bool) : Bool :=
  trigger.getD (said inReplyTo).isSome

namespace NewsRequest

variable (req : NewsRequest)

def newsType : String :=
  (said req.type).getD (if (said req.inReplyTo).isSome then "reply" else "message")

def newsMessage : String :=
  ((said req.message) <|> (said req.dataMessage)).getD
    (req.newsType ++ " from " ++ (said req.sender).getD "unknown")

def isEmpty : Bool := (said req.message).isNone && !req.hasData

def triggers : Bool := resolveNewsTrigger req.inReplyTo req.trigger

end NewsRequest

inductive NewsResponse where
  | badRequest (error : String)
  | waiterResolved (type : String) (timestamp : Nat)
  | triggered (type : String) (timestamp : Nat) (queryId : String)
  | noted (type : String) (timestamp : Nat)
  | failed (error : String)
deriving DecidableEq, Repr

def craftNewsTriggerPrompt (sender message : String) (inReplyTo : Option String) : String :=
  let isReply := (said inReplyTo).isSome
  "[Incoming " ++ (if isReply then "Reply" else "Message") ++ " from \"" ++ sender ++ "\"]\n\n" ++
  message ++ "\n\n---\n\nIMPORTANT INSTRUCTIONS:\n" ++
  "1. You have received " ++ (if isReply then "a reply" else "a message") ++ " from agent \"" ++
  sender ++ "\".\n" ++
  "2. You may process this information, update your understanding, or take action based on it.\n" ++
  "3. You may communicate with OTHER agents if needed (not \"" ++ sender ++ "\").\n" ++
  "4. DO NOT send a message or reply back to \"" ++ sender ++
  "\" - this would create an infinite loop.\n" ++
  "5. If you need to respond to \"" ++ sender ++ "\", simply include your response in your " ++
  "final output and it will be recorded in your news feed where \"" ++ sender ++
  "\" can check it later.\n\nWhat would you like to do with this information?"

structure AgentEntry where
  name : String
  id : String
  alias_ : Option String := none
  displayId : Option String := none
  internalUrl : Option String := none
  url : Option String := none
deriving DecidableEq, Repr

/-- What `POST /talk-to` reads of its request. -/
structure TalkRequest where
  remoteAddr : String
  to_ : Option String
  message : Option String
  timeout : Option Nat := none
deriving DecidableEq, Repr

def TalkRequest.isLocalhost (req : TalkRequest) : Bool :=
  ["127.0.0.1", "::1", "::ffff:127.0.0.1", "localhost"].contains req.remoteAddr

def talkTimeout (defaultTimeout : Nat) (timeout : Option Nat) : Nat :=
  min ((timeout.filter (· ≠ 0)).getD defaultTimeout) 600000

def isManager (to_ : String) : Bool := toLowerCase to_ = "manager"

def targetAgent (agents : List AgentEntry) (to_ : String) : Option AgentEntry :=
  agents.find? fun a => a.name = to_ || a.alias_ = some to_ || a.id = to_ ||
    a.displayId = some to_

inductive TalkResponse where
  | error (status : Nat) (error : String)
  | pending (sender queryId message : String)
  | reply (sender reply queryId : String)
deriving DecidableEq, Repr

inductive CallPhase where
  | listing
  | readingAgents
  | sending
  | readingError
  | readingQueryId
  | recording (queryId : String)
  | waiting (queryId : String)
  | answered (response : TalkResponse)
deriving DecidableEq, Repr

structure TalkCall where
  to_ : String
  timeoutMs : Nat
  phase : CallPhase
deriving DecidableEq, Repr

/-- What `fetch` gives before a body is read. -/
inductive Fetched where
  | ok
  | notOk (status : String)
  | thrown (error : String)
deriving DecidableEq, Repr

inductive CallInput where
  | agents (answer : Fetched)
  | agentsRead (body : Except String (List AgentEntry))
  | talk (answer : Fetched)
  | errorRead (text : String)
  | queryIdRead (body : Except String String)
  | outbound (result : Except String Unit)
  | timeout

def failedCall (error : String) : CallPhase :=
  .answered (.error 500 ((said (some error)).getD "Internal server error"))

def startCall (defaultTimeout : Nat) (req : TalkRequest) : TalkCall where
  to_ := req.to_.getD ""
  timeoutMs := talkTimeout defaultTimeout req.timeout
  phase :=
    if !req.isLocalhost then .answered
      (.error 403 "Forbidden - /talk-to is internal only. Use /talk for external requests.")
    else match said req.to_, said req.message with
      | some to_, some _ => if isManager to_ then .sending else .listing
      | _, _ => .answered (.error 400 "Missing \"to\" (agent name) or \"message\"")

namespace TalkCall

variable (call : TalkCall)

def found (agents : List AgentEntry) : CallPhase :=
  match targetAgent agents call.to_ with
  | none => .answered (.error 404 ("Agent \"" ++ call.to_ ++ "\" not found"))
  | some agent => match said agent.internalUrl <|> said agent.url with
    | none => .answered (.error 404 ("No URL for agent \"" ++ call.to_ ++ "\""))
    | some _ => .sending

def target : String := if isManager call.to_ then "manager" else call.to_

def notSent (text : String) : CallPhase :=
  .answered (.error 502 ("Failed to send message to " ++ call.target ++ ": " ++ text))

def timedOut (queryId : String) : TalkResponse :=
  .pending call.target queryId ("Request timed out after " ++ toString call.timeoutMs ++
    "ms - reply will be captured when it arrives")

def next (input : CallInput) : Option CallPhase :=
  match call.phase, input with
  | .listing, .agents .ok => some .readingAgents
  | .listing, .agents (.notOk status) =>
    some (.answered (.error 502 ("Failed to fetch agents list: " ++ status)))
  | .listing, .agents (.thrown error) => some (failedCall error)
  | .readingAgents, .agentsRead (.ok agents) => some (call.found agents)
  | .readingAgents, .agentsRead (.error error) => some (failedCall error)
  | .sending, .talk .ok => some .readingQueryId
  | .sending, .talk (.notOk _) => some .readingError
  | .sending, .talk (.thrown error) => some (failedCall error)
  | .readingError, .errorRead text => some (call.notSent text)
  | .readingQueryId, .queryIdRead (.ok queryId) => some (.recording queryId)
  | .readingQueryId, .queryIdRead (.error error) => some (failedCall error)
  | .recording queryId, .outbound (.ok ()) => some (.waiting queryId)
  | .recording _, .outbound (.error error) => some (failedCall error)
  | .waiting queryId, .timeout => some (.answered (call.timedOut queryId))
  | _, _ => none

def resolve (queryId sender message : String) : TalkCall :=
  if call.phase = .waiting queryId then
    { call with phase := .answered (.reply sender message queryId) }
  else call

end TalkCall

/-- The memory of the server: its calls, the waiters of their replies, the news whose items are
being written, and the queue of queries for the model. -/
structure TalkServer where
  defaultTimeout : Nat
  calls : Dict Nat TalkCall := .empty
  pendingReplyWaiters : Dict String Nat := .empty
  news : Dict Nat (NewsRequest × Nat) := .empty
  responses : Dict Nat NewsResponse := .empty
  queue : List Job := []

inductive TalkEvent where
  | talkTo (call : Nat) (req : TalkRequest)
  | call (call : Nat) (input : CallInput)
  | postNews (news : Nat) (req : NewsRequest) (now : Nat) (random : String)
  | newsRecorded (news : Nat) (result : Except String Unit) (random : String)

namespace TalkServer

variable (s : TalkServer)

def enter (id : Nat) (call : TalkCall) : TalkServer :=
  { s with calls := s.calls.set id call }

def register (id : Nat) : CallPhase → TalkServer
  | .waiting queryId => { s with pendingReplyWaiters := s.pendingReplyWaiters.set queryId id }
  | _ => s

def respond (news : Nat) (response : NewsResponse) : TalkServer :=
  { s with news := s.news.delete news, responses := s.responses.set news response }

def waiterFor (req : NewsRequest) : Option (String × Nat) :=
  (said req.inReplyTo).bind fun queryId =>
    (s.pendingReplyWaiters.get? queryId).map (queryId, ·)

def resolveCall (id : Nat) (queryId : String) (req : NewsRequest) : TalkServer :=
  match s.calls.get? id with
  | some call => s.enter id
    (call.resolve queryId ((said req.sender).getD "unknown") req.newsMessage)
  | none => s

def wakeJob (req : NewsRequest) (sender : String) (timestamp : Nat) (random : String) : Job where
  queryId := "news_" ++ toString timestamp ++ "_" ++ random
  prompt := craftNewsTriggerPrompt sender req.newsMessage req.inReplyTo
  sender := some sender
  noAutoReply := true

def decideNews (news : Nat) (req : NewsRequest) (timestamp : Nat) (random : String) : TalkServer :=
  match s.waiterFor req with
  | some (queryId, id) =>
    ({ s with pendingReplyWaiters := s.pendingReplyWaiters.delete queryId }.resolveCall id
      queryId req).respond news (.waiterResolved req.newsType timestamp)
  | none => match req.triggers, said req.sender with
    | true, some sender =>
      let job := wakeJob req sender timestamp random
      { s with queue := s.queue ++ [job] }.respond news
        (.triggered req.newsType timestamp job.queryId)
    | _, _ => s.respond news (.noted req.newsType timestamp)

def step : TalkEvent → TalkServer
  | .talkTo id req => if s.calls.has id then s else s.enter id (startCall s.defaultTimeout req)
  | .call id input => match s.calls.get? id with
    | none => s
    | some call => match call.next input with
      | none => s
      | some phase => (s.enter id { call with phase := phase }).register id phase
  | .postNews news req now random =>
    if s.news.has news || s.responses.has news then s
    else if req.isEmpty then s.respond news (.badRequest "Missing message or data")
    else if req.skipPersist then s.decideNews news req now random
    else { s with news := s.news.set news (req, now) }
  | .newsRecorded news result random => match s.news.get? news with
    | none => s
    | some (req, timestamp) => match result with
      | .ok () => s.decideNews news req timestamp random
      | .error error =>
        s.respond news (.failed ((said (some error)).getD "Internal server error"))

end TalkServer

end IdAgents.Agent
