import IdAgents.Workspaces.Reaper

namespace IdAgents.Workspaces
open JsText

inductive WorkspacePolicy where
  | default | reconcileDirtyRoot
deriving DecidableEq

inductive AdmissionCode where
  | ok | blockedDirtyProtectedRoot | staleBase | needsClarification | branchConflict
deriving DecidableEq

structure AdmissionDecision where
  ok : Bool
  code : AdmissionCode
  reason : String
  statusShort : Option String := none
  conflictWorktree : Option String := none

structure StaleBase where
  branch : String
  baseRef : String
  behind : Nat
  threshold : Int

structure BranchConflict where
  worktreePath : String
  leaseId : Option String

structure AdmissionInput where
  protectedRootStatus : String
  protectedRootStatusShort : Option String
  workspacePolicy : Option WorkspacePolicy
  branchConflict : Option BranchConflict
  staleBase : Option StaleBase
  requestedLeaseId : Option String

def staleBaseReason (stale : StaleBase) : String :=
  s!"stale-base: branch {stale.branch} is {stale.behind} commits behind {stale.baseRef}; " ++
    "suggested remediation=fresh-branch-off-origin-main; " ++
    "create a fresh branch off origin/main and reapply only the scoped work"

def decideConflict (input : AdmissionInput) : AdmissionDecision :=
  match input.branchConflict with
  | some conflict =>
    if input.requestedLeaseId.any (· ≠ "") && conflict.leaseId.isSome &&
        conflict.leaseId = input.requestedLeaseId then ⟨true, .ok, "admitted", none, none⟩
    else ⟨false, .branchConflict,
      s!"branch already checked out in another worktree: {conflict.worktreePath}", none,
      some conflict.worktreePath⟩
  | none => ⟨true, .ok, "admitted", none, none⟩

def decideAdmission (input : AdmissionInput) : AdmissionDecision :=
  if trim input.protectedRootStatus ≠ "" ∧ input.workspacePolicy ≠ some .reconcileDirtyRoot then
    ⟨false, .blockedDirtyProtectedRoot,
      "protected root is dirty; declare workspace_policy=reconcile_dirty_root to proceed",
      some (input.protectedRootStatusShort.getD input.protectedRootStatus), none⟩
  else match input.staleBase with
    | some stale =>
      if stale.threshold < stale.behind then ⟨false, .staleBase, staleBaseReason stale, none, none⟩
      else decideConflict input
    | none => decideConflict input

def replaceRuns (p : Char → Bool) (inRun : Bool) : List Char → List Char
  | [] => []
  | c :: cs =>
    if p c then (if inRun then [] else ['-']) ++ replaceRuns p true cs
    else c :: replaceRuns p false cs

def isSlugChar (c : Char) : Bool := c.isAlphanum || c = '.' || c = '_' || c = '-'

def branchSlug (branch : String) : String :=
  let cs := replaceRuns (· = '-') false (replaceRuns (!isSlugChar ·) false branch.toList)
  let trimmed := ((cs.dropWhile (· = '-')).reverse.dropWhile (· = '-')).reverse
  if trimmed = [] then "branch" else String.ofList (trimmed.take 60)

def dispatchShort (dispatchId : String) : String :=
  let cleaned := ((after? "phid:disp-" dispatchId).getD dispatchId).toList.filter (·.isAlphanum)
  if cleaned = [] then "dispatch" else String.ofList (cleaned.take 8)

def leaseWorktreePath (protectedRoot : Path) (agent dispatchId branch : String) : Path :=
  Path.resolve (protectedRoot.text ++ "/.worktrees/" ++
    s!"{agent}-{dispatchShort dispatchId}-{branchSlug branch}")

def mintLeaseId (dispatchId agent branch : String) : String :=
  s!"wsl_{dispatchShort dispatchId}_{agent}_{branchSlug branch}"

/-- What the commands of an allocation meet: what a fetch brings (it leaves the local branches), and
which commands fail. An add can fail before it sets the branch or, while it makes the worktree,
after; there are two adds, the second the fallback. -/
structure GitRun where
  fetchFails : Bool
  fetchedRefs : String → Option GitCommit
  fetchedObjects : String → Option GitCommit
  statusShort : Path → String
  revParseFails : String → Bool
  revListFails : Bool
  addRefused : Bool → Option String
  addBreaks : Bool → Option String
  now : String

def isLocalBranch (ref : String) : Bool := "refs/heads/".toList.isPrefixOf ref.toList

variable (r : Repository)

def Repository.fetch (git : GitRun) : Repository :=
  { r with
    refs := fun ref => if isLocalBranch ref then r.refs ref else git.fetchedRefs ref
    objects := git.fetchedObjects }

def Repository.isCheckedOut (branch : String) : Bool :=
  r.head = some branch || r.worktrees.any (·.branch = some branch)

/-- What `worktree add -B` sets the branch to: git refuses to move a branch that is checked out. -/
def Repository.resetTarget (branch start : String) : Except String GitCommit :=
  if (r.refs (branchRef branch)).isSome && r.isCheckedOut branch then
    .error s!"fatal: '{branch}' is already used by worktree\n"
  else match r.resolve start with
    | some c => .ok c
    | none => .error s!"fatal: invalid reference: {start}\n"

def Repository.setBranch (branch : String) (c : GitCommit) : Repository :=
  { r with refs := Function.update r.refs (branchRef branch) (some c) }

namespace World

variable (w : World)

variable (git : GitRun)

section
variable (root : Path)

/-- `gitSafe(["fetch", remote])` -/
def fetch : World :=
  if git.fetchFails then w
  else match w.repositoryAt root with
    | some (main, r) => w.setEntry main (some (.checkout (r.fetch git)))
    | none => w

/-- `rev-parse` as one line, trimmed -/
def revParse (rev : String) : Option String :=
  if git.revParseFails rev then none
  else (w.repositoryAt root).bind fun (_, r) => (r.resolve rev).map fun c => trim (w.env.sha c)

def gitHeadSha (path : Path) (branch : String) : Option String :=
  if git.revParseFails "HEAD" then none
  else (w.repositoryAt path).bind fun (_, r) =>
    (r.refs (branchRef branch)).map fun c => trim (w.env.sha c)

def gitStatusPorcelain : String :=
  match w.ask .status root with
  | .ok out | .error out => trimEnd out

def gitRefAheadBehind (ref upstream : String) : Option (Nat × Nat) :=
  if git.revListFails then none
  else (w.repositoryAt root).bind fun (_, r) =>
    (r.resolve ref).bind fun c => (r.resolve upstream).map fun d =>
      (Commit.countBetween d c, Commit.countBetween c d)

def isOccupied (r : Repository) (path : Path) : Bool :=
  r.worktrees.any (·.path = path) || match w.entry path with
    | none | some .directory => false
    | some _ => true

def linkWorktree (main : Path) (r : Repository) (fallback : Bool)
    (branch : String) (path : Path) (c : GitCommit) : Except String Unit × World :=
  if w.isOccupied r path then (.error s!"fatal: '{path.text}' already exists\n", w)
  else match git.addBreaks fallback with
    | some stderr => (.error stderr, w)
    | none =>
      let worktrees := r.worktrees ++ [⟨path, some branch, w.env.sha c⟩]
      (.ok (), (w.setEntry path (some (.linked main))).setEntry main
        (some (.checkout { r with worktrees })))

/-- `worktree add -B branch path start` -/
def worktreeAdd (fallback : Bool) (branch : String)
    (path : Path) (start : String) : Except String Unit × World :=
  match git.addRefused fallback, w.repositoryAt root with
  | some stderr, _ => (.error stderr, w)
  | none, none => (.error "fatal: not a git repository\n", w)
  | none, some (main, r) => match r.resetTarget branch start with
    | .error stderr => (.error stderr, w)
    | .ok c =>
      linkWorktree (w.setEntry main (some (.checkout (r.setBranch branch c)))) git main
        (r.setBranch branch c) fallback branch path c

end

end World

variable (w : World)

def findBranchWorktree (root : Path) (branch : String) : Option WorktreeEntry :=
  (listWorktrees w root).find? fun wt => wt.branch = some branch && Path.resolve wt.path ≠ root

structure AllocateInput where
  dispatchId : String
  agentId : String
  repo : String
  protectedRoot : String
  remote : String
  base : String
  branch : String
  workspacePolicy : Option WorkspacePolicy := none
  skipFetch : Bool := false
  requestedLeaseId : Option String := none
  staleBaseBehindThreshold : Option Int := none

namespace AllocateInput

variable (input : AllocateInput)

def root : Path := Path.resolve input.protectedRoot

def baseRef : String := input.remote ++ "/" ++ input.base

def worktreePath : Path :=
  leaseWorktreePath input.root input.agentId input.dispatchId input.branch

end AllocateInput

structure WorkspaceLease where
  leaseId : String
  dispatchId : String
  agentId : String
  repo : Path
  protectedRoot : Path
  worktreePath : Path
  remote : String
  base : String
  branch : String
  baseSha : Option String
  sourceShaBefore : Option String
  protectedRootStatusBefore : String
  worktreeStatusBefore : String
  createdAt : String
  state : String

inductive AllocateResult where
  | leased (lease : WorkspaceLease)
  | blocked (decision : AdmissionDecision)

def protectedStatus (root : Path) : String :=
  stripWorktreeNoise (w.gitStatusPorcelain root)
section
variable (git : GitRun)
section
variable (input : AllocateInput)

def findStaleBase : Option StaleBase :=
  let threshold := input.staleBaseBehindThreshold.getD 20
  if resolves w input.root input.branch then
    (w.gitRefAheadBehind git input.root input.branch input.baseRef).bind fun (_, behind) =>
      if threshold < behind then some ⟨input.branch, input.baseRef, behind, threshold⟩ else none
  else none

def admission (before w : World) (git : GitRun) (input : AllocateInput) : AdmissionDecision :=
  decideAdmission {
    protectedRootStatus := protectedStatus before input.root
    protectedRootStatusShort := some (stripWorktreeNoise (trimEnd (git.statusShort input.root)))
    workspacePolicy := input.workspacePolicy
    staleBase := findStaleBase w git input
    branchConflict := (findBranchWorktree w input.root input.branch).map fun wt => ⟨wt.path, none⟩
    requestedLeaseId := input.requestedLeaseId }

def baseSha : Option String :=
  (w.revParse git input.root input.baseRef).or (w.revParse git input.root input.base)

def startPoint : String :=
  (baseSha w git input).getD input.baseRef

def firstLine (text : String) : String := (split '\n' text).headD ""

def addWorktree : Except String Unit × World :=
  match w.worktreeAdd git input.root false input.branch input.worktreePath
      (startPoint w git input) with
  | (.ok (), w) => (.ok (), w)
  | (.error add, w) =>
    match w.worktreeAdd git input.root true input.branch input.worktreePath input.base with
    | (.ok (), w) => (.ok (), w)
    | (.error add2, w) => (.error s!"worktree add failed: {firstLine add} / {firstLine add2}", w)

def workspaceLease (before fetched w : World) (git : GitRun) (input : AllocateInput) :
    WorkspaceLease where
  leaseId := input.requestedLeaseId.getD (mintLeaseId input.dispatchId input.agentId input.branch)
  dispatchId := input.dispatchId
  agentId := input.agentId
  repo := Path.resolve input.repo
  protectedRoot := input.root
  worktreePath := input.worktreePath
  remote := input.remote
  base := input.base
  branch := input.branch
  baseSha := baseSha fetched git input
  sourceShaBefore := w.gitHeadSha git input.worktreePath input.branch
  protectedRootStatusBefore := protectedStatus before input.root
  worktreeStatusBefore := w.gitStatusPorcelain input.worktreePath
  createdAt := git.now
  state := "active"

def fetchUnlessSkipped : World :=
  if input.skipFetch then w else w.fetch git input.root

end

end

def allocateWorktree (before : World) (git : GitRun) (input : AllocateInput) :
    AllocateResult × World :=
  let fetched := fetchUnlessSkipped before git input
  let decision := admission before fetched git input
  if !decision.ok then (.blocked decision, fetched)
  else match addWorktree fetched git input with
    | (.ok (), w) => (.leased (workspaceLease before fetched w git input), w)
    | (.error reason, w) => (.blocked ⟨false, .needsClarification, reason, none, none⟩, w)

end IdAgents.Workspaces
