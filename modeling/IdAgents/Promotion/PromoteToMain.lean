import IdAgents.Promotion.Git
import IdAgents.Promotion.Strategy

namespace IdAgents.Promotion
open JsText AtomicProgram

structure PromoteArgs where
  repo : String
  branch : String
  base : String
  remote : String
  strategy : Strategy
  dispatchId : Option String
  agent : Option String
  smoke : Option String
  smokeExempt : List String
  execute : Bool
  allowOwnDirty : List String
  strictSmoke : Bool
  noWorktreeFallback : Bool

inductive SmokeGate where
  | passed | passedWithExemptFailures
deriving DecidableEq, Repr

structure SmokeAnnotation where
  exitCode : Int
  gate : SmokeGate
  exemptFailures : Option (List String)
  autoExemptFailures : Option (List String)
deriving DecidableEq, Repr

structure WorktreeFallback where
  workdir : String
  reason : String
deriving DecidableEq, Repr

structure PromoteResult where
  path : String
  base : String
  sourceBranch : String
  strategy : ResolvedStrategy
  promotedSha : String
  remoteMainSha : String
  pushed : Bool
  verified : Bool
  preflight : Bool
  smoke : Option SmokeAnnotation
  worktreeFallback : Option WorktreeFallback
  summary : String
deriving DecidableEq, Repr

/-- The payload of `/agent-needs-input`. -/
structure NeedsClarificationPayload where
  dispatchId : String
  agentId : String
  question : String
  repo : String
  branch : String
  base : String
  remote : String
  ahead : Nat
  behind : Nat
  branchTip : String
  baseTip : String
  options : List String
  recommendedOption : String
  incidentCode : String
  action : String
  urgency : String
deriving DecidableEq, Repr

structure Outcome where
  exit : Nat
  result : Option PromoteResult := none
  needsClarification : Option NeedsClarificationPayload := none
deriving DecidableEq, Repr

variable (args : PromoteArgs)

def buildNeedsClarification (ahead behind : Nat) (branchTip baseTip : String) :
    NeedsClarificationPayload where
  dispatchId := args.dispatchId.getD "<unset>"
  agentId := "promote-to-main"
  question := "Branch " ++ args.branch ++ " has diverged from " ++ args.base ++ " (ahead=" ++
    toString ahead ++ ", behind=" ++ toString behind ++ "). Which strategy?"
  repo := args.repo
  branch := args.branch
  base := args.base
  remote := args.remote
  ahead := ahead
  behind := behind
  branchTip := branchTip
  baseTip := baseTip
  options := ["fast_forward (refuse — branch is not pure ahead)",
    "merge_commit (preserve branch topology with a merge commit)",
    "squash (squash branch into one commit on base)",
    "follow_up_dispatch (defer promotion to a named follow-up dispatch)"]
  recommendedOption := "follow_up_dispatch (defer promotion to a named follow-up dispatch)"
  incidentCode := "ahead_behind_divergence"
  action := "route_to_worktree_hygiene"
  urgency := "normal"

structure Plan where
  branchTip : String
  strategy : ResolvedStrategy
  effectiveAgent : Option String

def textLines (s : String) : List String := (split '\n' s).filter fun l => trim l ≠ ""

/-- `Number(stdout.trim()) || 0` of a count. -/
def countOf (out : Output) : Nat := (trim out.stdout).toNat?.getD 0

def sliceFrom (n : Nat) (s : String) : String := String.ofList (s.toList.drop n)

def ResolvedStrategy.text : ResolvedStrategy → String
  | .fastForward => "fast_forward"
  | .mergeCommit => "merge_commit"
  | .squash => "squash"
  | .followUpDispatch => "follow_up_dispatch"

/-- `resolvedStrategy.replace("_", "-")` -/
def ResolvedStrategy.hyphenated : ResolvedStrategy → String
  | .fastForward => "fast-forward"
  | .mergeCommit => "merge-commit"
  | .squash => "squash"
  | .followUpDispatch => "follow-up_dispatch"

def notPushed (strategy : ResolvedStrategy) (branchTip baseTip : String)
    (verified preflight : Bool) (summary : String) : Outcome :=
  { exit := 0
    result := some {
      path := args.repo, base := args.base, sourceBranch := args.branch, strategy
      promotedSha := branchTip, remoteMainSha := baseTip, pushed := false, verified, preflight
      smoke := none, worktreeFallback := none, summary } }

def resolveStrategy (status : BranchStatus) : Except Outcome ResolvedStrategy :=
  match args.strategy with
  | .followUpDispatch =>
    .error (notPushed args .followUpDispatch status.branchTip status.baseTip false (!args.execute)
      ("would punt promotion of " ++ args.branch ++
        " to a follow-up dispatch (no promote attempted)"))
  | .auto =>
    if status.ahead = 0 ∧ status.behind = 0 then
      .error (notPushed args .fastForward status.branchTip status.baseTip
        (status.branchTip = status.baseTip) (!args.execute)
        "no-op: branch and base are identical")
    else if 0 < status.behind ∧ 0 < status.ahead then
      .error { exit := 10, needsClarification := some (buildNeedsClarification args status.ahead
        status.behind status.branchTip status.baseTip) }
    else .ok (pickAutoStrategy status)
  | .fastForward => if 0 < status.behind then .error { exit := 6 } else .ok .fastForward
  | .mergeCommit => .ok .mergeCommit
  | .squash => .ok .squash

def previewSummary (strategy : ResolvedStrategy) (status : BranchStatus) : String :=
  "would " ++ strategy.hyphenated ++ " " ++ args.branch ++ " (" ++ sliceUnits 7 status.branchTip ++
    ", ahead " ++ toString status.ahead ++ ", behind " ++ toString status.behind ++ ") into " ++
    args.base ++ " on " ++ args.remote

def branchStatus (branchTip baseTip : String) : Prog BranchStatus := do
  let remoteBase : Rev := .tracking args.remote args.base
  let aheadOut ← git (.revListCount remoteBase (.named args.branch)) args.repo
  let behindOut ← git (.revListCount (.named args.branch) remoteBase) args.repo
  let logOut ← git (.log false remoteBase (.named args.branch)) args.repo
  let trailerOut ← git (.log true remoteBase (.named args.branch)) args.repo
  let attribution := sourceBranchAttribution (parseSourceBranchAttributionLog trailerOut.stdout)
  let agent := sanitizeAgentName args.agent
  pure {
    ahead := countOf aheadOut, behind := countOf behindOut, branchTip, baseTip
    hasAutocommitNoise := hasAutocommitNoise (textLines logOut.stdout)
    hasMissingAgentTrailers := attribution.hasMissingAgentTrailers
    sourceAgent := if agent ≠ "" then some agent else attribution.sourceAgent }

def preflight : Prog (Except Outcome Plan) := do
  let statusOut ← git .status args.repo
  if statusOut.code ≠ 0 then return .error { exit := 2 }
  let dirty := (textLines statusOut.stdout).map (sliceFrom 3)
  let unapprovedDirty := dirty.filter fun p => !args.allowOwnDirty.contains p
  if unapprovedDirty ≠ [] ∧ args.execute then return .error { exit := 3 }
  let fetchOut ← git (.fetch args.remote args.base) args.repo
  if fetchOut.code ≠ 0 ∧ args.execute then return .error { exit := 4 }
  let tipOut ← git (.revParse (.named args.branch)) args.repo
  let baseOut ← git (.revParse (.tracking args.remote args.base)) args.repo
  let branchTip := trim tipOut.stdout
  let baseTip := trim baseOut.stdout
  if branchTip = "" ∨ baseTip = "" then return .error { exit := 5 }
  let status ← branchStatus args branchTip baseTip
  match resolveStrategy args status with
  | .error outcome => return .error outcome
  | .ok strategy =>
    if args.execute then return .ok { branchTip, strategy, effectiveAgent := status.sourceAgent }
    else
      return .error (notPushed args strategy branchTip baseTip false true
        (previewSummary args strategy status))

/-- `branch.replace(/[^a-zA-Z0-9._-]/g, "-")`, one `-` for each UTF-16 unit. -/
def safeBranch (branch : String) : String :=
  String.ofList (branch.toList.flatMap fun c =>
    if c.isAlphanum ∨ c = '.' ∨ c = '_' ∨ c = '-' then [c]
    else if c.toNat < 0x10000 then ['-'] else ['-', '-'])

def thrown : Except String α → Prog α
  | .ok a => .ret a
  | .error e => .throw e

def scratchPath (name : String) : Prog String :=
  (Program.stmt (S := shell) (.scratchPath name)).bind thrown

def setRemote (remote url workdir : String) : Prog Output := do
  let remoteSetOut ← git (.remoteSetUrl remote url) workdir
  if remoteSetOut.code ≠ 0 then git (.remoteAdd remote url) workdir else pure remoteSetOut

def createWorktreeFallbackClone : Prog (Option String) := do
  let workdir ← scratchPath ("id-agents-promote-worktree-fallback-" ++ safeBranch args.branch)
  let remoteUrlOut ← git (.configUrl args.remote) args.repo
  let remoteUrl := trim remoteUrlOut.stdout
  if remoteUrlOut.code ≠ 0 ∨ remoteUrl = "" then return none
  let cloneOut ← git (.clone args.repo workdir) args.repo
  if cloneOut.code ≠ 0 then return none
  let remoteSetOut ← setRemote args.remote remoteUrl workdir
  if remoteSetOut.code ≠ 0 then return none
  let fetchBaseOut ← git (.fetch args.remote args.base) workdir
  if fetchBaseOut.code ≠ 0 then return none
  let setBaseOut ← git (.branchForce args.base (.tracking args.remote args.base)) workdir
  if setBaseOut.code ≠ 0 then return none
  let fetchBranchOut ← git (.fetchBranch args.repo args.branch) workdir
  if fetchBranchOut.code ≠ 0 then return none
  return some workdir

structure Settled where
  execRepo : String
  worktreeFallback : Option WorktreeFallback
  onBase : Bool
deriving DecidableEq

def fastForwardToRemote (execRepo : String)
    (worktreeFallback : Option WorktreeFallback) (checkoutOut : Output) : Prog Settled := do
  if checkoutOut.code ≠ 0 then return ⟨execRepo, worktreeFallback, false⟩
  let pullOut ← git (.mergeFfOnly (.tracking args.remote args.base)) execRepo
  return ⟨execRepo, worktreeFallback, pullOut.code = 0⟩

def settle : Prog Settled := do
  let checkoutOut ← git (.checkout args.base) args.repo
  if checkoutOut.code ≠ 0 ∧ !args.noWorktreeFallback then
    match ← createWorktreeFallbackClone args with
    | some workdir =>
      let cloneOut ← git (.checkout args.base) workdir
      fastForwardToRemote args workdir (some ⟨workdir, trim checkoutOut.stderr⟩) cloneOut
    | none => fastForwardToRemote args args.repo none checkoutOut
  else fastForwardToRemote args args.repo none checkoutOut

def applyStrategy (plan : Plan) (execRepo : String) : Prog (Option Nat) := do
  match plan.strategy with
  | .fastForward =>
    let mergeOut ← git (.mergeFfOnly (.named args.branch)) execRepo
    return if mergeOut.code ≠ 0 then some 8 else none
  | .squash =>
    let squashOut ← git (.mergeSquash (.named args.branch)) execRepo
    if squashOut.code ≠ 0 then return some 7
    let body := buildSquashCommitBody args.branch args.branch plan.branchTip args.smoke
      args.dispatchId plan.effectiveAgent
    let mergeOut ← git (.commit body) execRepo
    return if mergeOut.code ≠ 0 then some 8 else none
  | _ =>
    let mergeMsg := appendAgentTrailer ("Merge " ++ args.branch ++ " into " ++ args.base)
      plan.effectiveAgent
    let mergeOut ← git (.mergeNoFf mergeMsg (.named args.branch)) execRepo
    return if mergeOut.code ≠ 0 then some 8 else none

/-- Whether a red smoke command is let through: every failing test file is exempt, by a glob or as
one that the diff of the branch, where it is known, does not name. -/
def redGate (classification : SmokeExemptClassification) (exitCode : Int) (diffOut : Option Output) :
    Option SmokeAnnotation :=
  let changed : Option (List String) := diffOut.bind fun out =>
    if out.code = 0 then some (((split '\n' out.stdout).map trim).filter (· ≠ "")) else none
  let outside := fun f => changed.any fun files => !files.contains f
  let autoExemptFiles := classification.nonExempt.filter outside
  let effectiveNonExempt := classification.nonExempt.filter fun f => !outside f
  if classification.failingFiles ≠ [] ∧ effectiveNonExempt = [] then
    some {
      exitCode, gate := .passedWithExemptFailures
      exemptFailures := some (classification.exempt ++ autoExemptFiles)
      autoExemptFailures := if autoExemptFiles ≠ [] then some autoExemptFiles else none }
  else none

/-- What `exec` of the smoke command says of the promotion; `none` stops it. -/
def smokeGate (smokeOut : Output) (diff : Prog Output) : Prog (Option SmokeAnnotation) := do
  if smokeOut.code ≠ 0 then
    let classification :=
      classifySmokeFailures (smokeOut.stdout ++ "\n" ++ smokeOut.stderr) args.smokeExempt
    if !args.strictSmoke ∧ classification.nonExempt ≠ [] then
      let diffOut ← diff
      return redGate classification smokeOut.code (some diffOut)
    else return redGate classification smokeOut.code none
  else return some ⟨0, .passed, none, none⟩

def smokeStep (execRepo : String) : Prog (Except Nat (Option SmokeAnnotation)) := do
  match args.smoke.filter (· ≠ "") with
  | none => return .ok none
  | some smoke =>
    let smokeOut ← exec smoke execRepo
    let annotation ← smokeGate args smokeOut
      (git (.diffNames (.tracking args.remote args.base) (.named args.branch)) args.repo)
    match annotation with
    | some annotation => return .ok (some annotation)
    | none => return .error 9

def promotedSummary (smoke : Option SmokeAnnotation)
    (worktreeFallback : Option WorktreeFallback) (promotedSha : String) (verified : Bool) : String :=
  let exemptNote :=
    match smoke with
    | some ⟨_, .passedWithExemptFailures, exempt, _⟩ =>
      " (smoke passed with " ++ toString ((exempt.getD []).length) ++ " exempt failure(s))"
    | _ => ""
  let fallbackNote :=
    match worktreeFallback with
    | some fallback => " (via worktree fallback clone " ++ fallback.workdir ++ ")"
    | none => ""
  "promoted " ++ args.branch ++ " -> " ++ args.base ++ " on " ++ args.remote ++ " (" ++
    sliceUnits 7 promotedSha ++ ")" ++ exemptNote ++ fallbackNote ++
    (if verified then "" else " WARNING: remote SHA mismatch")

def pushAndVerify (plan : Plan) (settled : Settled) (promotedSha : String)
    (smoke : Option SmokeAnnotation) : Prog Outcome := do
  let pushOut ← git (.push args.remote args.base) settled.execRepo
  if pushOut.code ≠ 0 then return { exit := 11 }
  let remoteOut ← git (.revParse (.tracking args.remote args.base)) settled.execRepo
  let remoteSha := trim remoteOut.stdout
  let verified : Bool := remoteSha = promotedSha
  return {
    exit := if verified then 0 else 12
    result := some {
      path := args.repo, base := args.base, sourceBranch := args.branch, strategy := plan.strategy
      promotedSha, remoteMainSha := remoteSha, pushed := true, verified, preflight := false
      smoke, worktreeFallback := settled.worktreeFallback
      summary := promotedSummary args smoke settled.worktreeFallback promotedSha verified } }

def land (plan : Plan) (settled : Settled) : Prog Outcome := do
  let stopped ← applyStrategy args plan settled.execRepo
  match stopped with
  | some exit => return { exit }
  | none =>
    let shaOut ← git (.revParse (.named args.base)) settled.execRepo
    let promotedSha := trim shaOut.stdout
    let smoke ← smokeStep args settled.execRepo
    match smoke with
    | .error exit => return { exit }
    | .ok smoke => pushAndVerify args plan settled promotedSha smoke

def removeFallback : Option WorktreeFallback → Prog Unit
  | some fallback => Program.stmt (S := shell) (.rmSync fallback.workdir)
  | none => pure ()

def prepare : Prog (Except Outcome (Plan × Settled)) := do
  match ← preflight args with
  | .error outcome => return .error outcome
  | .ok plan =>
    let settled ← settle args
    return .ok (plan, settled)

def finish : Except Outcome (Plan × Settled) → Prog Outcome
  | .error outcome => pure outcome
  | .ok (plan, settled) => do
    let outcome ← if settled.onBase then land args plan settled else pure { exit := 7 }
    removeFallback settled.worktreeFallback
    return outcome

def runPromoteToMain : Prog Outcome := do
  let prepared ← prepare args
  finish args prepared

end IdAgents.Promotion
