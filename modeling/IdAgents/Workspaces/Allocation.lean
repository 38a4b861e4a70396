import IdAgents.Workspaces.Allocator

namespace IdAgents.Workspaces
open JsText Option Repository Function

theorem branchRef_inj {a b : String} (h : branchRef a = branchRef b) : a = b := by
  have hcs : "refs/heads/".toList ++ a.toList = "refs/heads/".toList ++ b.toList := by
    rw [← String.toList_append, ← String.toList_append]
    exact congrArg String.toList h
  exact String.toList_inj.mp (List.append_cancel_left hcs)

theorem isLocalBranch_branchRef (branch : String) : isLocalBranch (branchRef branch) = true := by
  rw [isLocalBranch, branchRef, String.toList_append, List.isPrefixOf_iff_prefix]
  exact List.prefix_append _ _
section
variable (r : Repository)

theorem Repository.fetch_branch (git : GitRun) (branch : String) :
    (r.fetch git).refs (branchRef branch) = r.refs (branchRef branch) := by
  change (if isLocalBranch (branchRef branch) then _ else _) = _
  rw [if_pos (isLocalBranch_branchRef branch)]

def Repository.moveBranch (branch : String) : Option GitCommit → Repository
  | none => r
  | some c => r.setBranch branch c

def Repository.addTarget (git : GitRun) (fallback : Bool) (branch start : String) :
    Option GitCommit :=
  if (git.addRefused fallback).isSome then none else (r.resetTarget branch start).toOption

theorem Repository.moveBranch_refs (branch : String) (target : Option GitCommit)
    (other : String) : (r.moveBranch branch target).refs (branchRef other) =
      if other = branch then target.or (r.refs (branchRef branch)) else r.refs (branchRef other) := by
  cases target with
  | none =>
    rw [moveBranch, none_or]
    split
    · next heq => rw [heq]
    · rfl
  | some c =>
    rw [some_or]
    change update r.refs (branchRef branch) (some c) (branchRef other) = _
    split
    · next heq => rw [heq, update_self]
    · next hne =>
      rw [update_of_ne]
      intro heq
      exact hne (branchRef_inj heq)

end

theorem Repository.addTarget_checkedOut {r : Repository} {git : GitRun} {fallback : Bool}
    {branch start : String} (hexists : (r.refs (branchRef branch)).isSome)
    (hout : r.isCheckedOut branch) : r.addTarget git fallback branch start = none := by
  rw [addTarget, resetTarget, hexists, hout]
  split <;> rfl

namespace World

variable (w : World)

theorem setEntry_self (path : Path) (e : Option Entry) :
    (w.setEntry path e).entry path = e := update_self ..

variable {r : Repository} {root : Path}

theorem linkWorktree_root (git : GitRun)
    (h : w.entry root = some (.checkout r)) (fallback : Bool) (branch : String) (path : Path)
    (c : GitCommit) :
    (∃ worktrees, (w.linkWorktree git root r fallback branch path c).2.entry root =
      some (.checkout { r with worktrees })) ∧
    ((w.linkWorktree git root r fallback branch path c).1.toOption = none →
      (w.linkWorktree git root r fallback branch path c).2 = w) := by
  unfold linkWorktree
  split
  · exact ⟨⟨r.worktrees, h⟩, fun _ => rfl⟩
  · split
    · exact ⟨⟨r.worktrees, h⟩, fun _ => rfl⟩
    · exact ⟨⟨_, setEntry_self ..⟩, fun hfailed => by cases hfailed⟩

theorem worktreeAdd_root (git : GitRun)
    (h : w.entry root = some (.checkout r)) (fallback : Bool) (branch : String) (path : Path)
    (start : String) :
    (∃ worktrees, (w.worktreeAdd git root fallback branch path start).2.entry root =
      some (.checkout { r.moveBranch branch (r.addTarget git fallback branch start) with
        worktrees })) ∧
    ((w.worktreeAdd git root fallback branch path start).1.toOption = none →
      (w.worktreeAdd git root fallback branch path start).2.entry root =
        some (.checkout (r.moveBranch branch (r.addTarget git fallback branch start)))) := by
  have hrepository : w.repositoryAt root = some (root, r) := by rw [repositoryAt, h]
  unfold worktreeAdd addTarget
  rw [hrepository]
  cases git.addRefused fallback with
  | some stderr => exact ⟨⟨r.worktrees, h⟩, fun _ => h⟩
  | none =>
    cases htarget : r.resetTarget branch start with
    | error stderr =>
      dsimp only
      rw [htarget]
      exact ⟨⟨r.worktrees, h⟩, fun _ => h⟩
    | ok c =>
      dsimp only
      rw [htarget]
      have hset := setEntry_self w root (some (.checkout (r.setBranch branch c)))
      obtain ⟨hroot, hfailed⟩ := linkWorktree_root _ git hset fallback branch path c
      refine ⟨hroot, fun hnone => ?_⟩
      have hsame := hfailed hnone
      change (linkWorktree _ git root _ fallback branch path c).2.entry root = _
      rw [hsame]
      exact hset

theorem isOccupied_setEntry {w : World}
    (h : w.entry root = some (.checkout r)) (branch : String) (c : GitCommit) (path : Path) :
    (w.setEntry root (some (.checkout (r.setBranch branch c)))).isOccupied (r.setBranch branch c)
      path = w.isOccupied r path := by
  by_cases hpath : path = root
  · rw [isOccupied, isOccupied, hpath, setEntry_self, h]
    rfl
  · have hentry : (w.setEntry root (some (.checkout (r.setBranch branch c)))).entry path =
        w.entry path := update_of_ne hpath ..
    rw [isOccupied, isOccupied, hentry]
    rfl

theorem worktreeAdd_ok (git : GitRun)
    (h : w.entry root = some (.checkout r)) (fallback : Bool) (branch : String) (path : Path)
    (start : String) : (w.worktreeAdd git root fallback branch path start).1.toOption.isSome =
      ((r.addTarget git fallback branch start).isSome && !w.isOccupied r path &&
        (git.addBreaks fallback).isNone) := by
  have hrepository : w.repositoryAt root = some (root, r) := by rw [repositoryAt, h]
  unfold worktreeAdd addTarget
  rw [hrepository]
  cases git.addRefused fallback with
  | some stderr => rfl
  | none =>
    cases htarget : r.resetTarget branch start with
    | error stderr => 
      dsimp only
      rw [htarget]
      rfl
    | ok c =>
      dsimp only
      rw [htarget]
      change (linkWorktree _ git root _ fallback branch path c).1.toOption.isSome = _
      unfold linkWorktree
      rw [isOccupied_setEntry h]
      cases w.isOccupied r path with
      | true => rfl
      | false =>
        cases git.addBreaks fallback with
        | some stderr => rfl
        | none => rfl

end World

structure Allocation where
  world : World
  git : GitRun
  input : AllocateInput
  repository : Repository
  canonical : world.entry input.root = some (.checkout repository)

def Repository.Holds (r : Repository) (d : GitCommit) : Prop :=
  ∃ branch c, r.refs (branchRef branch) = some c ∧ d ≤ c

namespace Allocation
section
variable (a : Allocation)

def result : AllocateResult × World := allocateWorktree a.world a.git a.input

def DropsNothing : Prop :=
  ∃ r, a.result.2.entry a.input.root = some (.checkout r) ∧
    (∀ d, a.repository.Holds d → r.Holds d) ∧
    ∀ branch c, a.repository.isCheckedOut branch → a.repository.refs (branchRef branch) = some c →
      r.refs (branchRef branch) = some c

def fetched : World := fetchUnlessSkipped a.world a.git a.input

def fetchedRepository : Repository :=
  if a.input.skipFetch || a.git.fetchFails then a.repository else a.repository.fetch a.git

def isAdmitted : Bool := (admission a.world a.fetched a.git a.input).ok

def firstTarget : Option GitCommit :=
  a.fetchedRepository.addTarget a.git false a.input.branch (startPoint a.fetched a.git a.input)

def firstFinishes : Bool :=
  a.firstTarget.isSome && !a.fetched.isOccupied a.fetchedRepository a.input.worktreePath &&
    (a.git.addBreaks false).isNone

def fallbackTarget : Option GitCommit :=
  (a.fetchedRepository.moveBranch a.input.branch a.firstTarget).addTarget a.git true a.input.branch
    a.input.base

def resetTo : Option GitCommit :=
  if a.firstFinishes then a.firstTarget else a.fallbackTarget.or a.firstTarget

def KeepsTip : Prop :=
  a.isAdmitted → ∀ tip c, a.repository.refs (branchRef a.input.branch) = some tip →
    a.resetTo = some c → tip ≤ c ∨
      ∃ other, other ≠ a.input.branch ∧ ∃ c', a.repository.refs (branchRef other) = some c' ∧ tip ≤ c'

end

variable (a : Allocation)

theorem fetched_root : a.fetched.entry a.input.root = some (.checkout a.fetchedRepository) := by
  have hrepository : a.world.repositoryAt a.input.root = some (a.input.root, a.repository) := by
    rw [World.repositoryAt, a.canonical]
  unfold fetched fetchUnlessSkipped fetchedRepository World.fetch
  rw [hrepository]
  cases a.input.skipFetch with
  | true => exact a.canonical
  | false =>
    cases a.git.fetchFails with
    | true => exact a.canonical
    | false => exact World.setEntry_self ..

theorem fetchedRepository_branch (branch : String) :
    a.fetchedRepository.refs (branchRef branch) = a.repository.refs (branchRef branch) := by
  unfold fetchedRepository
  split
  · rfl
  · exact a.repository.fetch_branch a.git branch

theorem fetchedRepository_isCheckedOut (branch : String) :
    a.fetchedRepository.isCheckedOut branch = a.repository.isCheckedOut branch := by
  unfold fetchedRepository
  split <;> rfl

theorem moveBranch_moveBranch (r : Repository) (branch : String) (first second : Option GitCommit)
    (other : String) :
    ((r.moveBranch branch first).moveBranch branch second).refs (branchRef other) =
      (r.moveBranch branch (second.or first)).refs (branchRef other) := by
  simp only [moveBranch_refs]
  by_cases h : other = branch
  · simp [h, Option.or_assoc]
  · simp [h]

theorem addWorktree_root :
    ∃ r, (addWorktree a.fetched a.git a.input).2.entry a.input.root = some (.checkout r) ∧
      ∀ other, r.refs (branchRef other) =
        (a.fetchedRepository.moveBranch a.input.branch a.resetTo).refs (branchRef other) := by
  obtain ⟨⟨worktrees, hroot⟩, hfailed⟩ := a.fetched.worktreeAdd_root a.git a.fetched_root false
    a.input.branch a.input.worktreePath (startPoint a.fetched a.git a.input)
  have hok := a.fetched.worktreeAdd_ok a.git a.fetched_root false
    a.input.branch a.input.worktreePath (startPoint a.fetched a.git a.input)
  change _ = a.firstFinishes at hok
  unfold addWorktree resetTo
  rw [← hok]
  generalize a.fetched.worktreeAdd a.git a.input.root false a.input.branch a.input.worktreePath
    (startPoint a.fetched a.git a.input) = first at hroot hfailed ⊢
  obtain ⟨result, w⟩ := first
  cases result with
  | ok _ => exact ⟨_, hroot, fun _ => rfl⟩
  | error add =>
    obtain ⟨⟨worktrees', hroot'⟩, _⟩ := w.worktreeAdd_root a.git (hfailed rfl) true
      a.input.branch a.input.worktreePath a.input.base
    have hend : ∃ r, (w.worktreeAdd a.git a.input.root true a.input.branch a.input.worktreePath
        a.input.base).2.entry a.input.root = some (.checkout r) ∧ ∀ other,
        r.refs (branchRef other) = (a.fetchedRepository.moveBranch a.input.branch
          (a.fallbackTarget.or a.firstTarget)).refs (branchRef other) :=
      ⟨_, hroot', fun other => moveBranch_moveBranch _ _ _ _ other⟩
    dsimp only
    split
    · next heq =>
      rw [heq] at hend
      exact hend
    · next heq =>
      rw [heq] at hend
      exact hend

theorem result_world :
    a.result.2 = if a.isAdmitted then (addWorktree a.fetched a.git a.input).2 else a.fetched := by
  have hadmission : (admission a.world (fetchUnlessSkipped a.world a.git a.input) a.git
      a.input).ok = a.isAdmitted := rfl
  unfold result allocateWorktree fetched
  dsimp only
  rw [hadmission]
  cases a.isAdmitted with
  | false => rfl
  | true =>
    rw [Bool.not_true, if_neg Bool.false_ne_true, if_pos rfl]
    split
    · next heq => rw [heq]
    · next heq => rw [heq]

theorem result_root : ∃ r, a.result.2.entry a.input.root = some (.checkout r) ∧ ∀ other,
      r.refs (branchRef other) = (a.fetchedRepository.moveBranch a.input.branch
        (if a.isAdmitted then a.resetTo else none)).refs (branchRef other) := by
  rw [a.result_world]
  cases a.isAdmitted with
  | false => exact ⟨_, a.fetched_root, fun _ => rfl⟩
  | true => exact a.addWorktree_root

theorem resetTo_checkedOut (hout : a.repository.isCheckedOut a.input.branch)
    (hexists : (a.repository.refs (branchRef a.input.branch)).isSome) : a.resetTo = none := by
  have hout' : a.fetchedRepository.isCheckedOut a.input.branch := by
    rw [a.fetchedRepository_isCheckedOut]
    exact hout
  have hexists' : (a.fetchedRepository.refs (branchRef a.input.branch)).isSome := by
    rw [a.fetchedRepository_branch]
    exact hexists
  have hfirst : a.firstTarget = none := addTarget_checkedOut hexists' hout'
  have hfallback : a.fallbackTarget = none := by
    rw [fallbackTarget, hfirst]
    exact addTarget_checkedOut hexists' hout'
  rw [resetTo, hfallback, hfirst]
  split <;> rfl

/-- An allocation drops nothing exactly when it keeps the tip of its branch. -/
theorem dropsNothing_iff (a : Allocation) : a.DropsNothing ↔ a.KeepsTip := by
  obtain ⟨r, hroot, hrefs⟩ := a.result_root
  have hbranch (other : String) : r.refs (branchRef other) =
      if other = a.input.branch then
        (if a.isAdmitted then a.resetTo else none).or
          (a.repository.refs (branchRef a.input.branch))
      else a.repository.refs (branchRef other) := by
    rw [hrefs, moveBranch_refs, a.fetchedRepository_branch, a.fetchedRepository_branch]
  constructor
  · rintro ⟨r', hroot', hholds, _⟩ hadmitted tip c htip hreset
    obtain rfl := Entry.checkout.inj (Option.some.inj (hroot.symm.trans hroot'))
    obtain ⟨other, c', hother, hle⟩ := hholds tip ⟨a.input.branch, tip, htip, le_rfl⟩
    rw [hbranch] at hother
    by_cases hsame : other = a.input.branch
    · rw [if_pos hsame, if_pos hadmitted, hreset, some_or] at hother
      rw [Option.some.inj hother]
      exact .inl hle
    · rw [if_neg hsame] at hother
      exact .inr ⟨other, hsame, c', hother, hle⟩
  · intro hkeeps
    refine ⟨r, hroot, ?_, ?_⟩
    · rintro d ⟨branch, tip, htip, hle⟩
      by_cases hsame : branch = a.input.branch
      · subst hsame
        cases hmoved : (if a.isAdmitted then a.resetTo else none) with
        | none => exact ⟨_, tip, by rw [hbranch, if_pos rfl, hmoved, none_or, htip], hle⟩
        | some c =>
          split at hmoved
          · next hadmitted =>
            rcases hkeeps hadmitted tip c htip hmoved with hkept | ⟨other, hne, c', hother, hkept⟩
            · refine ⟨a.input.branch, c, ?_, le_trans hle hkept⟩
              rw [hbranch, if_pos rfl, if_pos hadmitted, hmoved, some_or]
            · exact ⟨other, c', by rw [hbranch, if_neg hne, hother], le_trans hle hkept⟩
          · cases hmoved
      · exact ⟨branch, tip, by rw [hbranch, if_neg hsame, htip], hle⟩
    · intro branch c hout hc
      rw [hbranch]
      by_cases hsame : branch = a.input.branch
      · subst hsame
        have hnone : (if a.isAdmitted then a.resetTo else none) = none := by
          rw [a.resetTo_checkedOut hout (by rw [hc]; rfl)]
          split <;> rfl
        rw [if_pos rfl, hnone, none_or, hc]
      · rw [if_neg hsame, hc]

end Allocation

def mainTip : GitCommit := .mk "init" []

def featureTip : GitCommit := .mk "work" [mainTip]

def aheadOfMain : Repository where
  head := some "main"
  refs ref :=
    if ref = "refs/heads/main" ∨ ref = "refs/remotes/origin/main" then some mainTip
    else if ref = "refs/heads/feat-x" then some featureTip
    else none
  objects name := if name = "a1" then some mainTip else none
  origin := some "git@host:app.git"
  worktrees := []

def buildOnBranch : Allocation where
  world :=
    { entry := fun path => if path = ["srv", "app"] then some (.checkout aheadOfMain) else none
      hosted := fun _ _ => none
      env :=
        { queryFails := fun _ _ => none
          commandFails := fun _ _ => none
          rmFails := fun _ => none
          status := fun _ => ""
          sha := fun c => if c = mainTip then "a1" else "b2"
          readdir := fun _ => none
          bytes := fun _ => 0
          collate := fun _ _ => true } }
  git :=
    { fetchFails := false
      fetchedRefs := aheadOfMain.refs
      fetchedObjects := aheadOfMain.objects
      statusShort := fun _ => "## main"
      revParseFails := fun _ => false
      revListFails := false
      addRefused := fun _ => none
      addBreaks := fun _ => none
      now := "2026-01-01T00:00:00.000Z" }
  input :=
    { dispatchId := "phid:disp-abc12345"
      agentId := "roger"
      repo := "/srv/app"
      protectedRoot := "/srv/app"
      remote := "origin"
      base := "main"
      branch := "feat-x" }
  repository := aheadOfMain
  canonical := by
    have hroot : Path.resolve "/srv/app" = ["srv", "app"] := by decide +kernel
    change (if Path.resolve "/srv/app" = ["srv", "app"] then some (Entry.checkout aheadOfMain)
      else none) = _
    rw [if_pos hroot]

theorem not_dropsNothing : ¬ buildOnBranch.DropsNothing := by
  rintro ⟨r, hroot, hholds, _⟩
  obtain ⟨r', hroot', hrefs⟩ := buildOnBranch.result_root
  obtain rfl := Entry.checkout.inj (Option.some.inj (hroot'.symm.trans hroot))
  have hmoved : (if buildOnBranch.isAdmitted then buildOnBranch.resetTo else none) =
      some mainTip := by
    decide +kernel
  have hlost : ¬ featureTip ≤ mainTip := by decide
  have htip : aheadOfMain.refs (branchRef "feat-x") = some featureTip := by decide +kernel
  obtain ⟨other, c, hother, hle⟩ := hholds featureTip ⟨"feat-x", featureTip, htip, le_rfl⟩
  rw [hrefs, moveBranch_refs, hmoved, buildOnBranch.fetchedRepository_branch] at hother
  split at hother
  · obtain rfl := Option.some.inj hother
    exact hlost hle
  · next hne =>
    rw [buildOnBranch.fetchedRepository_branch] at hother
    change (if _ ∨ _ then _ else _) = _ at hother
    split at hother
    · obtain rfl := Option.some.inj hother
      exact hlost hle
    · split at hother
      · next heq => exact hne (branchRef_inj heq)
      · cases hother

end IdAgents.Workspaces
