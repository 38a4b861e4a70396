import Mathlib.Data.List.Sort
import IdAgents.Library.CommitGraph
import IdAgents.Library.Dict
import IdAgents.Library.Regex
import IdAgents.Library.Text

namespace IdAgents.Workspaces
open JsText JsMap JsRegex

abbrev GitCommit := Commit String

abbrev Path := List String

def Path.text (p : Path) : String := "/" ++ "/".intercalate p

/-- `path.resolve` of an absolute path. -/
def Path.resolve (text : String) : Path :=
  (split '/' text).foldl (fun p name =>
    if name = "" ∨ name = "." then p else if name = ".." then p.dropLast else p ++ [name]) []

/-- A linked worktree as its repository has it registered; `head` is the object name printed. -/
structure Worktree where
  path : Path
  branch : Option String
  head : String
deriving DecidableEq

structure Repository where
  /-- The branch that HEAD is on; `none` for a detached HEAD. -/
  head : Option String
  /-- The refs by their full names. -/
  refs : String → Option GitCommit
  /-- What object names and revision expressions stand for. -/
  objects : String → Option GitCommit
  origin : Option String
  worktrees : List Worktree

def branchRef (branch : String) : String := "refs/heads/" ++ branch

def refNames (name : String) : List String :=
  [name, "refs/" ++ name, "refs/tags/" ++ name, branchRef name, "refs/remotes/" ++ name,
   "refs/remotes/" ++ name ++ "/HEAD"]

def Repository.headCommit (r : Repository) : Option GitCommit :=
  r.head.bind fun branch => r.refs (branchRef branch)

def Repository.resolve (r : Repository) (name : String) : Option GitCommit :=
  if name = "HEAD" then r.headCommit
  else ((refNames name).findSome? r.refs).orElse fun _ => r.objects name

/-- What `rev-parse --abbrev-ref HEAD` prints: the branch by a name nothing else has. -/
def Repository.abbrevHead (r : Repository) : String :=
  match r.head with
  | none => "HEAD"
  | some branch =>
    if ((refNames branch).erase (branchRef branch)).any fun ref => (r.refs ref).isSome then
      "heads/" ++ branch
    else branch

/-- What `lstat` shows at a path: a checkout with a `.git` directory, one with a `.git` file that
leads to the repository of another, any other directory, or something else. -/
inductive Entry where
  | checkout (r : Repository)
  | linked (main : Path)
  | directory
  | other

inductive Query where
  | worktreeList
  | configOrigin
  | revParseVerify (rev : String)
  | abbrevRefHead
  | status
  | isAncestor (rev base : String)
deriving DecidableEq

inductive Command where
  | worktreeRemove (path : Path)
  | worktreePrune
deriving DecidableEq

/-- What a pass meets beside the refs: the failures of commands and of `rmSync` with their texts,
the status of a checkout, what `readdir` and `du` answer, and `localeCompare`. -/
structure Environment where
  queryFails : Query → Path → Option String
  commandFails : Command → Path → Option String
  rmFails : Path → Option String
  status : Path → String
  sha : GitCommit → String
  readdir : Path → Option (List String)
  bytes : Path → Nat
  collate : Path → Path → Bool

structure World where
  entry : Path → Option Entry
  hosted : String → String → Option GitCommit
  env : Environment

namespace World

variable (w : World)

variable (path : Path)

def repositoryAt : Option (Path × Repository) :=
  match w.entry path with
  | some (.checkout r) => some (path, r)
  | some (.linked main) => match w.entry main with
    | some (.checkout r) => some (main, r)
    | _ => none
  | _ => none

def worktreeText (head : String) (branch : Option String) : String :=
  "worktree " ++ path.text ++ "\nHEAD " ++ head ++ "\n" ++
    (match branch with
      | some branch => "branch " ++ branchRef branch ++ "\n"
      | none => "detached\n") ++ "\n"

/-- What a query prints; `none` where git fails. -/
def answer (main : Path) (r : Repository) (cwd : Path) : Query → Option String
  | .worktreeList => some (worktreeText main ((r.headCommit.map w.env.sha).getD "") r.head ++
      String.join (r.worktrees.map fun wt => worktreeText wt.path wt.head wt.branch))
  | .configOrigin => r.origin.map (· ++ "\n")
  | .revParseVerify rev => (r.resolve rev).map (w.env.sha · ++ "\n")
  | .abbrevRefHead => if r.head.isSome ∧ r.headCommit = none then none else some (r.abbrevHead ++ "\n")
  | .status => some (w.env.status cwd)
  | .isAncestor rev base => do
    let c ← r.resolve rev
    let d ← r.resolve base
    if c ≤ d then some "" else none

def complaint (r : Repository) : Query → String
  | .isAncestor rev base =>
    if r.resolve rev = none then "fatal: Not a valid object name " ++ rev ++ "\n"
    else if r.resolve base = none then "fatal: Not a valid object name " ++ base ++ "\n"
    else ""
  | .revParseVerify _ => "fatal: Needed a single revision\n"
  | _ => ""

/-- `gitSafe` of a query: what it prints to stdout, or to stderr when it fails. -/
def ask (q : Query) (cwd : Path) : Except String String :=
  match w.env.queryFails q cwd, w.repositoryAt cwd with
  | some stderr, _ => .error stderr
  | none, none => .error "fatal: not a git repository\n"
  | none, some (main, r) => match w.answer main r cwd q with
    | some stdout => .ok stdout
    | none => .error (complaint r q)

def setEntry (e : Option Entry) : World :=
  { w with entry := Function.update w.entry path e }

/-- `gitSafe` of a command. A worktree is removed only where the repository has it registered and
it leads back there. -/
def execute (c : Command) (cwd : Path) : Except String World :=
  match w.env.commandFails c cwd, w.repositoryAt cwd with
  | some stderr, _ => .error stderr
  | none, none => .error "fatal: not a git repository\n"
  | none, some (main, r) => match c with
    | .worktreeRemove path =>
      match w.entry path with
      | some (.linked main') =>
        if main' = main ∧ r.worktrees.any (·.path = path) then
          let worktrees := r.worktrees.filter (·.path ≠ path)
          .ok ((w.setEntry main (some (.checkout { r with worktrees }))).setEntry path none)
        else .error "fatal: validation failed, cannot remove working tree\n"
      | _ => .error "fatal: is not a working tree\n"
    | .worktreePrune =>
      let worktrees := r.worktrees.filter fun wt => (w.entry wt.path).isSome
      .ok (w.setEntry main (some (.checkout { r with worktrees })))

/-- `rmSync(path, { recursive: true, force: false })` -/
def rmSync : Except String World :=
  match w.env.rmFails path with
  | some message => .error message
  | none => .ok { w with entry := fun p => if path <+: p then none else w.entry p }

end World

def after? (lead line : String) : Option String :=
  if lead.toList.isPrefixOf line.toList then
    some (String.ofList (line.toList.drop lead.toList.length))
  else none

structure WorktreeEntry where
  path : String
  branch : Option String
deriving DecidableEq

abbrev PartialEntry := Option String × Option String

def pushEntry (entries : List WorktreeEntry) (cur : PartialEntry) : List WorktreeEntry :=
  match cur with
  | (some path, branch) => if path = "" then entries else entries ++ [{ path, branch }]
  | (none, _) => entries

def readLine (acc : List WorktreeEntry × PartialEntry) (line : String) :
    List WorktreeEntry × PartialEntry :=
  match after? "worktree " line with
  | some path => (pushEntry acc.1 acc.2, (some (trim path), none))
  | none => match after? "branch " line with
    | some ref => (acc.1, (acc.2.1, some ((after? "refs/heads/" (trim ref)).getD (trim ref))))
    | none => acc

variable (w : World)
section
variable (root : Path)

def listWorktrees : List WorktreeEntry :=
  let out := match w.ask .worktreeList root with
    | .ok out | .error out => out
  let (entries, cur) := (split '\n' out).foldl readLine ([], (none, none))
  pushEntry entries cur

def trimEnd (s : String) : String :=
  String.ofList (s.toList.reverse.dropWhile isSpace).reverse

/-- `/(^|\s)\.worktrees(\/|$)/`; `start` tells whether a match may begin here. -/
def custodyChars (start : Bool) : List Char → Bool
  | [] => false
  | c :: cs =>
    (start && ".worktrees".toList.isPrefixOf (c :: cs) &&
      ((c :: cs).drop 10).head?.all (· = '/')) || custodyChars (isSpace c) cs

def isWorktreeNoise (line : String) : Bool :=
  custodyChars true line.toList || includes line ".worktrees/"

def stripWorktreeNoise (status : String) : String :=
  trimEnd ("\n".intercalate ((split '\n' status).filter (!isWorktreeNoise ·)))

def dirtyLines (porcelain : String) : List String :=
  ((split '\n' (stripWorktreeNoise porcelain)).map trimEnd).filter (· ≠ "")

/-- `/Not a valid|unknown revision|bad revision/i` -/
def isRevisionError (out : String) : Bool :=
  (Regex.alt (litI "Not a valid") (.alt (litI "unknown revision") (litI "bad revision"))).test out

section
variable (repo : Path)

/-- Whether a branch is an ancestor of the base; `none` where git cannot tell. -/
def isMerged (base branch : String) : Option Bool :=
  match w.ask (.isAncestor branch base) repo with
  | .ok _ => some true
  | .error out => if isRevisionError out then none else some false

inductive ReapAction where
  | removed | kept | wouldRemove
deriving DecidableEq, Repr

inductive ReapCandidateKind where
  | linkedWorktree | siblingClone
deriving DecidableEq, Repr

structure ReapedWorktree where
  path : Path
  branch : Option String
  kind : ReapCandidateKind
  action : ReapAction
  reason : String
  clean : Bool
  merged : Option Bool
  reclaimableBytes : Nat
deriving DecidableEq

structure ReapResult where
  protectedRoot : Path
  base : String
  dryRun : Bool
  scanned : Nat := 0
  removed : Nat := 0
  kept : Nat := 0
  wouldRemove : Nat := 0
  bytesReclaimed : Nat := 0
  bytesReclaimableDryRun : Nat := 0
  worktrees : List ReapedWorktree := []

structure ReapOptions where
  base : String := "main"
  includeSiblings : Bool := true
  dryRun : Bool := false
  sameOriginOnly : Bool := true

structure ReapCandidate where
  path : Path
  branch : Option String
  kind : ReapCandidateKind
deriving DecidableEq

def currentBranch : Option String :=
  match w.ask .abbrevRefHead repo with
  | .ok out => if trim out = "HEAD" then none else some (trim out)
  | .error _ => none

def remoteOrigin : Option String :=
  match w.ask .configOrigin repo with
  | .ok out => if trim out = "" then none else some (trim out)
  | .error _ => none

def resolves (rev : String) : Bool :=
  match w.ask (.revParseVerify rev) repo with
  | .ok _ => true
  | .error _ => false

def resolveBaseRef (base : String) : Option String :=
  if resolves w repo base then some base
  else if resolves w repo ("origin/" ++ base) then some ("origin/" ++ base)
  else none

end

/-- A directory beside the root that is a clone by its `.git` directory and its origin. -/
def isSiblingClone (rootOrigin : Option String) (sameOriginOnly : Bool) (path : Path) : Bool :=
  path ≠ root &&
  (match w.entry path with
    | some (.checkout _) => true
    | _ => false) &&
  (!sameOriginOnly || (rootOrigin.isSome && remoteOrigin w path = rootOrigin))

def discoverSiblingClones (rootOrigin : Option String)
    (sameOriginOnly : Bool) : List ReapCandidate :=
  let parent := root.dropLast
  let lead := root.getLast?.getD "" ++ "-"
  match w.env.readdir parent with
  | none => []
  | some entries =>
    (((entries.filter fun name => lead.toList.isPrefixOf name.toList).map fun name =>
        parent ++ [name]).filter (isSiblingClone w root rootOrigin sameOriginOnly)).map fun path =>
      { path, branch := currentBranch w path, kind := .siblingClone }

def isLinkedWorktreeDir (path : Path) : Bool :=
  match w.entry path with
  | some (.linked _) => true
  | _ => false

def addLinked (includeSiblings : Bool) (candidates : Dict Path ReapCandidate)
    (wt : WorktreeEntry) : Dict Path ReapCandidate :=
  let path := Path.resolve wt.path
  if !isLinkedWorktreeDir w path then candidates
  else if !path.contains ".worktrees" && !includeSiblings then candidates
  else candidates.set path { path, branch := wt.branch, kind := .linkedWorktree }

def discoverCleanupCandidates (opts : ReapOptions) : List ReapCandidate :=
  let rootOrigin := remoteOrigin w root
  let linked := (listWorktrees w root).foldl (addLinked w opts.includeSiblings) .empty
  let clones := if opts.includeSiblings then
      discoverSiblingClones w root rootOrigin opts.sameOriginOnly
    else []
  let candidates := clones.foldl (fun candidates clone => candidates.set clone.path clone) linked
  candidates.values.insertionSort fun a b => w.env.collate a.path b.path

inductive Verdict where
  | keep (reason : String) (clean : Bool) (merged : Option Bool)
  | reap (baseRef : String)
deriving DecidableEq

def ReapCandidate.repo (wt : ReapCandidate) (root : Path) : Path :=
  match wt.kind with
  | .siblingClone => wt.path
  | .linkedWorktree => root

def judge (base : String) (wt : ReapCandidate) : Verdict :=
  match wt.branch.filter (· ≠ "") with
  | none => .keep "detached HEAD — not provably merged" false none
  | some branch =>
    match w.ask .status wt.path with
    | .error _ => .keep "could not read worktree status" false none
    | .ok out =>
      if 0 < (dirtyLines out).length then
        .keep s!"{(dirtyLines out).length} uncommitted change(s)" false none
      else match resolveBaseRef w (wt.repo root) base with
        | none => .keep "could not resolve base" true none
        | some baseRef => match isMerged w (wt.repo root) baseRef branch with
          | none => .keep "could not compare against base" true none
          | some false => .keep s!"unmerged: branch not an ancestor of {baseRef}" true (some false)
          | some true => .reap baseRef

def ReapResult.record (result : ReapResult) (wt : ReapCandidate) (action : ReapAction)
    (reason : String) (clean : Bool) (merged : Option Bool) (bytes : Nat) : ReapResult :=
  let result : ReapResult := { result with
    worktrees := result.worktrees ++ [{ path := wt.path, branch := wt.branch, kind := wt.kind,
                                        action, reason, clean, merged, reclaimableBytes := bytes }] }
  match action with
  | .removed => { result with
      removed := result.removed + 1, bytesReclaimed := result.bytesReclaimed + bytes }
  | .wouldRemove => { result with
      wouldRemove := result.wouldRemove + 1, kept := result.kept + 1,
      bytesReclaimableDryRun := result.bytesReclaimableDryRun + bytes }
  | .kept => { result with kept := result.kept + 1 }

/-- Takes a checkout away: `git worktree remove` for a linked worktree, `rmSync` for a clone. -/
def remove (wt : ReapCandidate) : Except String World :=
  match wt.kind with
  | .linkedWorktree => w.execute (.worktreeRemove wt.path) root
  | .siblingClone => w.rmSync wt.path

def reapOne (base : String) (dryRun : Bool) (acc : ReapResult × World)
    (wt : ReapCandidate) : ReapResult × World :=
  let (result, w) := acc
  let result := { result with scanned := result.scanned + 1 }
  match judge w root base wt with
  | .keep reason clean merged => (result.record wt .kept reason clean merged 0, w)
  | .reap baseRef =>
    let bytes := w.env.bytes wt.path
    let reason := s!"merged into {baseRef}, clean"
    if dryRun then (result.record wt .wouldRemove reason true (some true) bytes, w)
    else match remove w root wt with
      | .ok w' => (result.record wt .removed reason true (some true) bytes, w')
      | .error message =>
        let first := (split '\n' message).headD ""
        (result.record wt .kept s!"remove failed: {first}" true (some true) 0, w)

def reapMergedWorktrees (opts : ReapOptions) (w : World) : ReapResult × World :=
  let start : ReapResult := { protectedRoot := root, base := opts.base, dryRun := opts.dryRun }
  match resolveBaseRef w root opts.base with
  | none => (start, w)
  | some _ =>
    let (result, w) := (discoverCleanupCandidates w root opts).foldl
      (reapOne root opts.base opts.dryRun) (start, w)
    if !opts.dryRun && 0 < result.removed then
      match w.execute .worktreePrune root with
      | .ok w' => (result, w')
      | .error _ => (result, w)
    else (result, w)

end

end IdAgents.Workspaces
