import IdAgents.Library.Dict
import IdAgents.Scheduler.Types

namespace IdAgents.Orchestration
open JsText JsMap

inductive OrchestrationMode where
  | running | paused | drainOnly | approveOnly | stopped
deriving DecidableEq, Repr

inductive ReadinessState where
  | draft | needsReview | ready | queued | inFlight | blockedDependency | needsChrisBatch
  | waitingWindow | done | failed | superseded | cancelled
deriving DecidableEq, Repr

def ReadinessState.text : ReadinessState → String
  | .draft => "draft"
  | .needsReview => "needs_review"
  | .ready => "ready"
  | .queued => "queued"
  | .inFlight => "in_flight"
  | .blockedDependency => "blocked_dependency"
  | .needsChrisBatch => "needs_chris_batch"
  | .waitingWindow => "waiting_window"
  | .done => "done"
  | .failed => "failed"
  | .superseded => "superseded"
  | .cancelled => "cancelled"

inductive RiskClass where
  | routine | build | external | destructive | costly | novel
deriving DecidableEq, Repr

def RiskClass.text : RiskClass → String
  | .routine => "routine"
  | .build => "build"
  | .external => "external"
  | .destructive => "destructive"
  | .costly => "costly"
  | .novel => "novel"

inductive BacklogRetryReadinessStatus where
  | notRetryCandidate | retryableFailedRow | retryCapReached | nonRetryableFailedRow
  | waitingOnLiveDispatch | staleDuplicate
deriving DecidableEq, Repr

inductive RetryNextAction where
  | retry | wait | closeOrIgnore | operatorReview | none
deriving DecidableEq, Repr

def RetryNextAction.text : RetryNextAction → String
  | .retry => "retry"
  | .wait => "wait"
  | .closeOrIgnore => "close_or_ignore"
  | .operatorReview => "operator_review"
  | .none => "none"

structure BacklogRetryReadiness where
  status : BacklogRetryReadinessStatus
  reason : String
  nextAction : RetryNextAction
  priorDispatchStatus : Option String
deriving DecidableEq

structure BacklogItem where
  itemId : String
  title : String
  track : Option String
  toAgent : Option String
  dispatchBody : Option String
  readinessState : ReadinessState
  riskClass : RiskClass
  writeScope : List String
  dependencies : List String
  provider : Option String
  runtime : Option String
  sourceRefs : List String
  approvedAt : Option String
  lastDispatchPhid : Option String
  retrySafe : Bool
  retryReadiness : Option BacklogRetryReadiness
  autoReadyApprovedAt : Option String
deriving DecidableEq

inductive DecisionAction where
  | skipped | held
deriving DecidableEq, Repr

structure DecisionRecord where
  itemId : String
  action : DecisionAction
  reason : String
  metadata : Dict String Json

inductive DiskHeadroomState where
  | ok | warn | critical | unknown
deriving DecidableEq, Repr

def DiskHeadroomState.text : DiskHeadroomState → String
  | .ok => "ok"
  | .warn => "warn"
  | .critical => "critical"
  | .unknown => "unknown"

structure DiskHeadroom where
  state : DiskHeadroomState
  availableBytes : Option Int
  minFreeBytes : Int
  warnFreeBytes : Int

structure PoolLaneBlocker where
  agent : String
  code : String
  reason : String

inductive ReadyItemBlockerCode where
  | clarificationBlocker | promotionBlocker
deriving DecidableEq, Repr

structure ReadyItemBlocker where
  code : ReadyItemBlockerCode
  reason : String
  metadata : Option (List (String × Json))

structure ContinuousOrchestrationConfig where
  maxInFlight : Int

/-- The guardrails of a tick; a `Set` is the list of its elements. -/
structure AdmissionContext where
  mode : OrchestrationMode
  killSwitchActive : Bool
  /-- The usage gate is hard-paused. -/
  hardPaused : Bool
  inFlight : Int
  activeWriteScopes : List String
  dependencyIndex : Dict String Bool
  admitLimit : Int
  poolFor : BacklogItem → Option String
  poolFreeSlots : Option (Dict String Int)
  poolFreeBuilders : Option (Dict String (List String))
  poolLaneBlockers : Option (Dict String (List PoolLaneBlocker))
  healthyAgents : Option (List String)
  targetAgentRuntimes : Option (Dict String String)
  readyItemBlockers : Option (Dict String ReadyItemBlocker)
  diskHeadroom : Option DiskHeadroom

structure AdmissionPlan where
  /-- Why the whole tick is halted. -/
  halt : Option String
  admits : List BacklogItem
  assignments : Dict String String
  skipped : List DecisionRecord

end IdAgents.Orchestration
