import IdAgents.Library.CommitGraph
import IdAgents.Library.Program
import IdAgents.Library.Text

namespace IdAgents.Promotion
open JsText AtomicProgram

structure Body where
  tree : String
  message : String
deriving DecidableEq, Repr

abbrev GitCommit := Commit Body

/-- A revision as it is given to git: the remote-tracking branch `remote/base`, which no tag or
local branch hides, or any other name. -/
inductive Rev where
  | tracking (remote base : String)
  | named (name : String)
deriving DecidableEq

def remoteRef (remote base : String) : String := remote ++ "/" ++ base

def Rev.text : Rev → String
  | .tracking remote base => remoteRef remote base
  | .named name => name

structure Checkout where
  /-- The branch that HEAD is on; `none` for a detached HEAD. -/
  head : Option String
  heads : String → Option GitCommit
  /-- The remote-tracking branches, by `remote/branch`. -/
  tracking : String → Option GitCommit
  /-- The URL of each remote. -/
  remotes : List (String × String)

structure Output where
  stdout : String
  stderr : String
  code : Int

/-- A command that fails. Only `rev-parse` then prints something to stdout. -/
structure Failure where
  stdout : String
  stderr : String
  code : Int
  nonzero : code ≠ 0

/-- What is outside the refs, as of a step: the failures of git commands, what the commands print
that look at files and messages, the smoke command, and the scratch directory. -/
structure Environment where
  fails : Nat → Option Failure
  stderr : Nat → String
  status : Nat → String
  log : Nat → String
  diff : Nat → String
  smoke : Nat → Output
  tree : Nat → String
  sha : GitCommit → String
  scratchPath : Nat → String → Except String String
  rmFails : Nat → Bool

structure World where
  checkouts : String → Option Checkout
  hosted : String → String → Option GitCommit
  names : String → Option GitCommit
  step : Nat
  env : Environment

namespace Checkout

variable (co : Checkout)

def url? (remote : String) : Option String := co.remotes.lookup remote

def setHead (branch : String) (c : GitCommit) : Checkout :=
  { co with heads := Function.update co.heads branch (some c) }

def setTracking (remote base : String) (c : GitCommit) : Checkout :=
  { co with tracking := Function.update co.tracking (remoteRef remote base) (some c) }

def tip : Option (String × GitCommit) :=
  co.head.bind fun branch => (co.heads branch).map (branch, ·)

end Checkout

def World.resolve (w : World) (co : Checkout) : Rev → Option GitCommit
  | .tracking remote base => co.tracking (remoteRef remote base)
  | .named name => (w.names name).orElse fun _ => (co.heads name).orElse fun _ => co.tracking name

def World.setCheckout (w : World) (path : String) (co : Checkout) : World :=
  { w with checkouts := Function.update w.checkouts path (some co) }

def World.host (w : World) (url branch : String) (c : GitCommit) : World :=
  let branches := Function.update (w.hosted url) branch (some c)
  { w with hosted := Function.update w.hosted url branches }

inductive Git where
  | status
  | fetch (remote base : String)
  | revParse (rev : Rev)
  | revListCount (excluded included : Rev)
  /-- `log` of what one revision has and another lacks: the subjects, or the `Agent` trailers. -/
  | log (trailers : Bool) (excluded included : Rev)
  | checkout (base : String)
  | mergeFfOnly (rev : Rev)
  | mergeSquash (rev : Rev)
  | commit (message : String)
  | mergeNoFf (message : String) (rev : Rev)
  | diffNames (excluded included : Rev)
  | push (remote base : String)
  | configUrl (remote : String)
  /-- `clone --no-local --no-checkout` -/
  | clone (repo workdir : String)
  | remoteSetUrl (remote url : String)
  | remoteAdd (remote url : String)
  | branchForce (base : String) (rev : Rev)
  /-- `fetch repo branch:branch` -/
  | fetchBranch (repo branch : String)
deriving DecidableEq

namespace Git

/-- `git checkout base`: a branch that is only known from one remote is made from there. -/
def checkoutBase (base : String) (co : Checkout) : Option Checkout :=
  match co.heads base with
  | some _ => some { co with head := some base }
  | none =>
    match co.remotes.filterMap fun r => co.tracking (remoteRef r.1 base) with
    | [c] => some { co.setHead base c with head := some base }
    | _ => none

/-- `git merge --ff-only`: what is reached already leaves the branch as it is, and what does not
reach the branch is refused. -/
def fastForward (c : GitCommit) (co : Checkout) : Option Checkout := do
  let (branch, tip) ← co.tip
  if c ≤ tip then some co
  else if tip ≤ c then some (co.setHead branch c)
  else none

/-- `git commit` on the branch that HEAD is on. -/
def commitOn (body : Body) (co : Checkout) : Option Checkout := do
  let (branch, tip) ← co.tip
  some (co.setHead branch (.mk body [tip]))

/-- `git merge --no-ff`: no commit is made for what is reached already. -/
def mergeCommit (body : Body) (c : GitCommit) (co : Checkout) : Option Checkout := do
  let (branch, tip) ← co.tip
  if c ≤ tip then some co else some (co.setHead branch (.mk body [tip, c]))

/-- The checkout that `clone --no-checkout` makes of one at a path. -/
def cloned (repo : String) (co : Checkout) : Checkout where
  head := co.head
  heads branch := if co.head = some branch then co.heads branch else none
  tracking ref :=
    match "origin/".toList.isPrefixOf ref.toList with
    | true => co.heads (String.ofList (ref.toList.drop 7))
    | false => none
  remotes := [("origin", repo)]

/-- `git push remote base`, which is never forced. -/
def pushBase (remote base : String) (cwd : String) (co : Checkout) (w : World) : Option World := do
  let url ← co.url? remote
  let tip ← co.heads base
  if (w.hosted url base).all (· ≤ tip) then
    some ((w.host url base tip).setCheckout cwd (co.setTracking remote base tip))
  else none

/-- The world after a command in a checkout; `none` where git refuses. -/
def apply (cwd : String) (co : Checkout) (w : World) : Git → Option World
  | status | log .. | diffNames .. => some w
  | fetch remote base => do
    let url ← co.url? remote
    let c ← w.hosted url base
    some (w.setCheckout cwd (co.setTracking remote base c))
  | revParse rev | mergeSquash rev => do
    let _ ← w.resolve co rev
    some w
  | revListCount excluded included => do
    let _ ← w.resolve co excluded
    let _ ← w.resolve co included
    some w
  | checkout base => (checkoutBase base co).map (w.setCheckout cwd)
  | mergeFfOnly rev => do
    let c ← w.resolve co rev
    (fastForward c co).map (w.setCheckout cwd)
  | commit message => (commitOn ⟨w.env.tree w.step, message⟩ co).map (w.setCheckout cwd)
  | mergeNoFf message rev => do
    let c ← w.resolve co rev
    (mergeCommit ⟨w.env.tree w.step, message⟩ c co).map (w.setCheckout cwd)
  | push remote base => pushBase remote base cwd co w
  | configUrl remote => do
    let _ ← co.url? remote
    some w
  | clone repo workdir => do
    let source ← w.checkouts repo
    match w.checkouts workdir with
    | some _ => none
    | none => some (w.setCheckout workdir (cloned repo source))
  | remoteSetUrl remote url => do
    let _ ← co.url? remote
    let remotes := co.remotes.map fun r => if r.1 = remote then (remote, url) else r
    some (w.setCheckout cwd { co with remotes })
  | remoteAdd remote url =>
    match co.url? remote with
    | some _ => none
    | none => some (w.setCheckout cwd { co with remotes := co.remotes ++ [(remote, url)] })
  | branchForce base rev => do
    let c ← w.resolve co rev
    if co.head = some base then none else some (w.setCheckout cwd (co.setHead base c))
  | fetchBranch repo branch => do
    let source ← w.checkouts repo
    let c ← w.resolve source (.named branch)
    if co.head = some branch ∨ ¬ (co.heads branch).all (· ≤ c) then none
    else some (w.setCheckout cwd (co.setHead branch c))

def stdout (co : Checkout) (w : World) : Git → String
  | status => w.env.status w.step
  | revParse rev => (((w.resolve co rev).map w.env.sha).getD "") ++ "\n"
  | revListCount excluded included =>
    match w.resolve co excluded, w.resolve co included with
    | some base, some tip => toString (Commit.countBetween base tip) ++ "\n"
    | _, _ => ""
  | log .. => w.env.log w.step
  | diffNames .. => w.env.diff w.step
  | configUrl remote => ((co.url? remote).getD "") ++ "\n"
  | _ => ""

/-- The world after a command; `none` where the command fails. -/
def outcome (c : Git) (cwd : String) (w : World) : Option World :=
  match w.env.fails w.step with
  | some _ => none
  | none => (w.checkouts cwd).bind fun co => c.apply cwd co w

/-- What `rev-parse` prints when it fails is the name it was given. -/
def echo : Git → String
  | revParse rev => rev.text ++ "\n"
  | _ => ""

def answer (c : Git) (cwd : String) (w : World) : Output :=
  match w.env.fails w.step with
  | some f => { f with stdout := if c.echo = "" then "" else f.stdout }
  | none =>
    match w.checkouts cwd, c.outcome cwd w with
    | some co, some _ => { stdout := c.stdout co w, stderr := w.env.stderr w.step, code := 0 }
    | _, _ => { stdout := c.echo, stderr := w.env.stderr w.step, code := 128 }

end Git

inductive Stmt where
  /-- `deps.git(args, cwd)` -/
  | git (c : Git) (cwd : String)
  /-- `deps.exec(cmd, cwd)` -/
  | exec (cmd cwd : String)
  /-- The path of a scratch directory with a name; making it can throw. -/
  | scratchPath (name : String)
  /-- `rmSync` of a directory, whose exception is caught. -/
  | rmSync (path : String)
deriving DecidableEq

namespace Stmt

def Ans : Stmt → Type
  | git .. | exec .. => Output
  | scratchPath _ => Except String String
  | rmSync _ => Unit

def answer : (c : Stmt) → World → c.Ans
  | git c cwd, w => c.answer cwd w
  | exec .., w => w.env.smoke w.step
  | scratchPath name, w => w.env.scratchPath w.step name
  | rmSync _, _ => ()

def refs : Stmt → World → World
  | git c cwd, w => (c.outcome cwd w).getD w
  | rmSync path, w =>
    if w.env.rmFails w.step then w
    else { w with checkouts := Function.update w.checkouts path none }
  | _, w => w

def effect (c : Stmt) (w : World) : World := { c.refs w with step := w.step + 1 }

end Stmt

abbrev shell : Signature := ⟨Stmt, Stmt.Ans⟩

instance : Store shell World where
  answer := Stmt.answer
  effect := Stmt.effect

abbrev Prog (α : Type) := Program shell String α

def git (c : Git) (cwd : String) : Prog Output := Program.stmt (S := shell) (.git c cwd)

def exec (cmd cwd : String) : Prog Output := Program.stmt (S := shell) (.exec cmd cwd)

end IdAgents.Promotion
