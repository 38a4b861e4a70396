import IdAgents.Workspaces.Reaper

namespace IdAgents.Workspaces
open JsText JsMap List World Option

/-- A protected root is a canonical checkout: its `.git` is a directory. -/
structure Site where
  world : World
  root : Path
  repository : Repository
  canonical : world.entry root = some (.checkout repository)

def Repository.Reaches (r : Repository) (d : GitCommit) : Prop :=
  ∃ ref c, r.refs ref = some c ∧ d ≤ c

def Site.Hosts (site : Site) (w : World) (base : String) (r : Repository) (d : GitCommit) : Prop :=
  ∃ url c, r.origin = some url ∧ site.repository.origin = some url ∧
    w.hosted url base = some c ∧ d ≤ c

def Site.reap (site : Site) (opts : ReapOptions) : ReapResult × World :=
  reapMergedWorktrees site.root opts site.world

/-- After the pass every commit of every branch of a checkout that it removed is still reachable:
from a ref of the repository of the protected root, or from the base on the shared origin. -/
def Site.LosesNothing (site : Site) (opts : ReapOptions) : Prop :=
  ∀ item ∈ (site.reap opts).1.worktrees, item.action = .removed →
    ∀ main r, site.world.repositoryAt item.path = some (main, r) →
    ∀ branch c, r.refs (branchRef branch) = some c → ∀ d ≤ c,
      (∃ r', (site.reap opts).2.entry site.root = some (.checkout r') ∧ r'.Reaches d) ∨
        site.Hosts (site.reap opts).2 opts.base r d

structure Site.Condemned (site : Site) (opts : ReapOptions) (wt : ReapCandidate) : Prop where
  base : resolveBaseRef site.world site.root opts.base ≠ none
  live : opts.dryRun = false
  candidate : wt ∈ discoverCleanupCandidates site.world site.root opts
  clone : wt.kind = .siblingClone
  merged : ∃ baseRef, judge site.world site.root opts.base wt = .reap baseRef
  deletable : site.world.env.rmFails wt.path = none

def Site.ClonesPublished (site : Site) (opts : ReapOptions) : Prop :=
  ∀ wt, site.Condemned opts wt → ∀ r, site.world.entry wt.path = some (.checkout r) →
    ∀ branch c, r.refs (branchRef branch) = some c →
      site.repository.Reaches c ∨ site.Hosts site.world opts.base r c

structure Site.IsClone (site : Site) (path : Path) : Prop where
  beside : ∃ name, path = site.root.dropLast ++ [name]
  ne : path ≠ site.root
  checkout : ∃ r, site.world.entry path = some (.checkout r)

variable {site : Site}

theorem discoverSiblingClones_spec
    (h : wt ∈ discoverSiblingClones site.world site.root rootOrigin sameOriginOnly) :
    wt.kind = .siblingClone ∧ site.IsClone wt.path := by
  rw [discoverSiblingClones] at h
  cases hnames : site.world.env.readdir site.root.dropLast with
  | none => simp [hnames] at h
  | some names =>
    simp only [hnames, List.mem_map, List.mem_filter] at h
    obtain ⟨path, ⟨⟨name, _, rfl⟩, hclone⟩, rfl⟩ := h
    rw [isSiblingClone, Bool.and_eq_true, Bool.and_eq_true] at hclone
    obtain ⟨⟨hne, hcheckout⟩, _⟩ := hclone
    refine ⟨rfl, ⟨name, rfl⟩, of_decide_eq_true hne, ?_⟩
    split at hcheckout
    · next r hentry => exact ⟨r, hentry⟩
    · cases hcheckout

def Site.Filed (site : Site) (candidates : Dict Path ReapCandidate) : Prop :=
  ∀ path wt, (path, wt) ∈ candidates.entries →
    wt.path = path ∧ (wt.kind = .siblingClone → site.IsClone path)

theorem Site.Filed.set (h : site.Filed candidates)
    (hclone : wt.kind = .siblingClone → site.IsClone wt.path) :
    site.Filed (candidates.set wt.path wt) := by
  intro path wt' hmem
  rcases Dict.mem_set.mp hmem with heq | ⟨_, hold⟩
  · obtain ⟨rfl, rfl⟩ := Prod.mk.inj heq
    exact ⟨rfl, hclone⟩
  · exact h path wt' hold

theorem filed_linked (includeSiblings : Bool) (entries : List WorktreeEntry)
    (h : site.Filed candidates) : site.Filed (entries.foldl (addLinked site.world includeSiblings) candidates) := by
  induction entries generalizing candidates with
  | nil => exact h
  | cons wt entries ih =>
    apply ih
    rw [addLinked]
    split
    · exact h
    split
    · exact h
    · have hlinked : (⟨Path.resolve wt.path, wt.branch, .linkedWorktree⟩ : ReapCandidate).kind =
          .siblingClone → site.IsClone (Path.resolve wt.path) := nofun
      exact h.set hlinked

theorem filed_clones {clones : List ReapCandidate}
    (hclones : ∀ wt ∈ clones, site.IsClone wt.path) (h : site.Filed candidates) :
    site.Filed (clones.foldl (fun candidates clone => candidates.set clone.path clone)
      candidates) := by
  induction clones generalizing candidates with
  | nil => exact h
  | cons wt clones ih =>
    apply ih fun wt hwt => hclones wt (by simp [hwt])
    exact h.set fun _ => hclones wt (by simp)

theorem discoverCleanupCandidates_spec (site : Site) (opts : ReapOptions) :
    ((discoverCleanupCandidates site.world site.root opts).map (·.path)).Nodup ∧
      ∀ wt ∈ discoverCleanupCandidates site.world site.root opts,
        wt.kind = .siblingClone → site.IsClone wt.path := by
  rw [discoverCleanupCandidates]
  generalize hclones : (if opts.includeSiblings = true then discoverSiblingClones site.world
    site.root (remoteOrigin site.world site.root) opts.sameOriginOnly else []) = clones
  have hspec : ∀ wt ∈ clones, site.IsClone wt.path := by
    intro wt hwt
    rw [← hclones] at hwt
    split at hwt
    · exact (discoverSiblingClones_spec hwt).2
    · cases hwt
  have hempty : site.Filed .empty := nofun
  have hfiled := filed_clones hspec
    (filed_linked opts.includeSiblings (listWorktrees site.world site.root) hempty)
  generalize List.foldl _ _ clones = candidates at hfiled ⊢
  have hpaths : candidates.values.map (·.path) = candidates.entries.map Prod.fst := by
    rw [Dict.values, List.map_map]
    apply List.map_congr_left
    rintro ⟨path, wt⟩ hmem
    exact (hfiled path wt hmem).1
  constructor
  · have hnodup : (candidates.values.map (·.path)).Nodup := by
      rw [hpaths]
      exact candidates.nodup
    exact ((perm_insertionSort _ _).map _).nodup_iff.mpr hnodup
  · intro wt hwt hkind
    rw [List.mem_insertionSort, Dict.values, List.mem_map] at hwt
    obtain ⟨⟨path, wt⟩, hmem, rfl⟩ := hwt
    obtain ⟨rfl, hclone⟩ := hfiled path wt hmem
    exact hclone hkind

structure Site.Later (site : Site) (w : World) : Prop where
  hosted : w.hosted = site.world.hosted
  env : w.env = site.world.env
  root : ∃ worktrees, w.entry site.root = some (.checkout { site.repository with worktrees })
  entry : ∀ p, p ≠ site.root → w.entry p = site.world.entry p ∨ w.entry p = none

theorem Site.later_start (site : Site) : site.Later site.world where
  hosted := rfl
  env := rfl
  root := ⟨site.repository.worktrees, site.canonical⟩
  entry _ _ := .inl rfl

theorem Site.Later.repositoryAt_root (h : site.Later w) :
    ∃ worktrees, w.repositoryAt site.root = some (site.root, { site.repository with worktrees }) := by
  obtain ⟨worktrees, hroot⟩ := h.root
  exact ⟨worktrees, by rw [repositoryAt, hroot]⟩

theorem setEntry_ne (w : World) (e : Option Entry) (h : p ≠ path) :
    (w.setEntry path e).entry p = w.entry p :=
  Function.update_of_ne h ..

theorem Site.Later.register (h : site.Later w) (worktrees : List Worktree) :
    site.Later (w.setEntry site.root (some (.checkout { site.repository with worktrees }))) where
  hosted := h.hosted
  env := h.env
  root := ⟨worktrees, Function.update_self ..⟩
  entry p hp := by
    rw [setEntry_ne w _ hp]
    exact h.entry p hp

theorem Site.Later.setEntry_none (h : site.Later w) (hne : path ≠ site.root) :
    site.Later (w.setEntry path none) where
  hosted := h.hosted
  env := h.env
  root := by
    obtain ⟨worktrees, hroot⟩ := h.root
    exact ⟨worktrees, (setEntry_ne w none hne.symm).trans hroot⟩
  entry p hp := by
    by_cases heq : p = path
    · subst heq
      exact .inr (Function.update_self ..)
    · rw [setEntry_ne w none heq]
      exact h.entry p hp

theorem Site.Later.prune (h : site.Later w)
    (hrun : w.execute .worktreePrune site.root = .ok w') : site.Later w' := by
  obtain ⟨worktrees, hroot⟩ := h.repositoryAt_root
  rw [execute, hroot] at hrun
  split at hrun
  · cases hrun
  · next heq => cases heq
  · next main r _ heq =>
    obtain ⟨rfl, rfl⟩ := Prod.mk.inj (Option.some.inj heq)
    obtain rfl := Except.ok.inj hrun
    exact h.register _

theorem Site.Later.worktreeRemove (h : site.Later w)
    (hrun : w.execute (.worktreeRemove path) site.root = .ok w') :
    site.Later w' ∧ w.entry path = some (.linked site.root) ∧
      ∀ p, p ≠ site.root → p ≠ path → w'.entry p = w.entry p := by
  obtain ⟨worktrees, hroot⟩ := h.repositoryAt_root
  rw [execute, hroot] at hrun
  split at hrun
  · cases hrun
  · next heq => cases heq
  · next main r _ heq =>
    obtain ⟨rfl, rfl⟩ := Prod.mk.inj (Option.some.inj heq)
    dsimp only at hrun
    split at hrun
    · next main' hentry =>
      split at hrun
      · next hback =>
        obtain ⟨rfl, _⟩ := hback
        obtain rfl := Except.ok.inj hrun
        have hne : path ≠ site.root := by
          rintro rfl
          obtain ⟨_, hcheckout⟩ := h.root
          rw [hentry] at hcheckout
          cases hcheckout
        refine ⟨(h.register _).setEntry_none hne, hentry, fun p hp hpath => ?_⟩
        rw [setEntry_ne _ none hpath, setEntry_ne w _ hp]
      · cases hrun
    · cases hrun

theorem Site.IsClone.not_under (h : site.IsClone path) (hne : path ≠ p)
    (hlength : p.length ≤ site.root.dropLast.length + 1) : ¬ path <+: p := by
  intro hpre
  obtain ⟨name, rfl⟩ := h.beside
  apply hne
  apply hpre.eq_of_length
  have := hpre.length_le
  rw [length_append, length_singleton] at this ⊢
  omega

theorem Site.IsClone.length (h : site.IsClone path) :
    path.length ≤ site.root.dropLast.length + 1 := by
  obtain ⟨name, rfl⟩ := h.beside
  simp

theorem Site.Later.rmSync (h : site.Later w) (hclone : site.IsClone path)
    (hrun : w.rmSync path = .ok w') : site.Later w' ∧
      ∀ p, p ≠ path → site.IsClone p → w'.entry p = w.entry p := by
  rw [World.rmSync] at hrun
  split at hrun
  · cases hrun
  · obtain rfl := Except.ok.inj hrun
    have hroot : ¬ path <+: site.root := by
      apply hclone.not_under hclone.ne
      rw [length_dropLast]
      omega
    constructor
    · constructor
      · exact h.hosted
      · exact h.env
      · obtain ⟨worktrees, hentry⟩ := h.root
        exact ⟨worktrees, (if_neg hroot).trans hentry⟩
      · intro p hp
        dsimp only
        split
        · exact .inr rfl
        · exact h.entry p hp
    · intro p hne hp
      exact if_neg (hclone.not_under hne.symm hp.length)

theorem Site.Later.remove (h : site.Later w)
    (hclone : wt.kind = .siblingClone → site.IsClone wt.path)
    (hrun : remove w site.root wt = .ok w') : site.Later w' ∧
      ∀ p, p ≠ wt.path → site.IsClone p → w'.entry p = w.entry p := by
  rw [Workspaces.remove] at hrun
  cases hkind : wt.kind with
  | linkedWorktree =>
    rw [hkind] at hrun
    obtain ⟨hlater, _, hrest⟩ := h.worktreeRemove hrun
    exact ⟨hlater, fun p hne hp => hrest p hp.ne hne⟩
  | siblingClone =>
    rw [hkind] at hrun
    exact h.rmSync (hclone hkind) hrun

theorem Site.Later.ask_eq (h : site.Later w) (q : Query)
    (hentry : w.entry path = some (.checkout r))
    (hstart : site.world.entry path = some (.checkout r)) : w.ask q path = site.world.ask q path := by
  have hanswer : w.answer path r path q = site.world.answer path r path q := by
    cases q <;> simp only [answer, h.env]
  rw [ask, ask, repositoryAt, repositoryAt, hentry, hstart, h.env]
  cases site.world.env.queryFails q path with
  | some stderr => rfl
  | none =>
    dsimp only
    rw [hanswer]

theorem Site.Later.judge_eq (h : site.Later w) (base : String)
    (hkind : wt.kind = .siblingClone) (hentry : w.entry wt.path = some (.checkout r))
    (hstart : site.world.entry wt.path = some (.checkout r)) :
    judge w site.root base wt = judge site.world site.root base wt := by
  have hask : ∀ q, w.ask q wt.path = site.world.ask q wt.path :=
    fun q => h.ask_eq q hentry hstart
  have hrepo : wt.repo site.root = wt.path := by
    rw [ReapCandidate.repo, hkind]
  have hresolves : ∀ rev, resolves w wt.path rev = resolves site.world wt.path rev := by
    intro rev
    rw [resolves, resolves, hask]
  have hbase : resolveBaseRef w wt.path base = resolveBaseRef site.world wt.path base := by
    rw [resolveBaseRef, resolveBaseRef, hresolves, hresolves]
  have hmerged : ∀ baseRef branch,
      isMerged w wt.path baseRef branch = isMerged site.world wt.path baseRef branch := by
    intro baseRef branch
    rw [isMerged, isMerged, hask]
  simp only [judge, hrepo, hbase, hmerged, hask]

theorem repositoryAt_of_reap (h : judge w root base wt = .reap baseRef) :
    (w.repositoryAt wt.path).isSome := by
  rw [judge] at h
  split at h
  · cases h
  · cases hrepository : w.repositoryAt wt.path with
    | some x => rfl
    | none =>
      have hstatus : ∃ stderr, w.ask .status wt.path = .error stderr := by
        rw [ask, hrepository]
        split
        · exact ⟨_, rfl⟩
        · exact ⟨_, rfl⟩
        · next heq => cases heq
      obtain ⟨stderr, hstatus⟩ := hstatus
      rw [hstatus] at h
      cases h

@[simp] theorem worktrees_record (result : ReapResult) (wt : ReapCandidate) (action : ReapAction)
    (reason : String) (clean : Bool) (merged : Option Bool) (bytes : Nat) :
    (result.record wt action reason clean merged bytes).worktrees = result.worktrees ++
      [{ path := wt.path, branch := wt.branch, kind := wt.kind, action, reason, clean, merged,
         reclaimableBytes := bytes }] := by
  cases action <;> rfl

theorem reapOne_removed (result : ReapResult) (hjudge : judge w root base wt = .reap baseRef)
    (hremove : remove w root wt = .ok w') :
    ∃ item : ReapedWorktree, item.action = .removed ∧ item.path = wt.path ∧
      (reapOne root base false (result, w) wt).1.worktrees = result.worktrees ++ [item] ∧
      (reapOne root base false (result, w) wt).2 = w' := by
  simp only [reapOne, hjudge, hremove, Bool.false_eq_true, if_false, worktrees_record]
  exact ⟨_, rfl, rfl, rfl, trivial⟩

theorem reapOne_cases (root : Path) (base : String) (dryRun : Bool) (result : ReapResult)
    (w : World) (wt : ReapCandidate) :
    (dryRun = false ∧ ∃ baseRef w', judge w root base wt = .reap baseRef ∧
      remove w root wt = .ok w') ∨ ∃ item : ReapedWorktree, item.action ≠ .removed ∧
      (reapOne root base dryRun (result, w) wt).1.worktrees = result.worktrees ++ [item] ∧
      (reapOne root base dryRun (result, w) wt).2 = w := by
  cases hjudge : judge w root base wt with
  | keep reason clean merged =>
    simp only [reapOne, hjudge, worktrees_record]
    exact .inr ⟨_, by simp, rfl, trivial⟩
  | reap baseRef =>
    cases hremove : remove w root wt with
    | error message =>
      cases dryRun
      · simp only [reapOne, hjudge, hremove, Bool.false_eq_true, if_false, worktrees_record]
        exact .inr ⟨_, by simp, rfl, trivial⟩
      · simp only [reapOne, hjudge, if_true, worktrees_record]
        exact .inr ⟨_, by simp, rfl, trivial⟩
    | ok w' =>
      cases dryRun
      · exact .inl ⟨rfl, baseRef, w', rfl, rfl⟩
      · simp only [reapOne, hjudge, if_true, worktrees_record]
        exact .inr ⟨_, by simp, rfl, trivial⟩

structure Site.Taken (site : Site) (opts : ReapOptions) (wt : ReapCandidate) (w : World) : Prop where
  live : opts.dryRun = false
  candidate : wt ∈ discoverCleanupCandidates site.world site.root opts
  later : site.Later w
  merged : ∃ baseRef, judge w site.root opts.base wt = .reap baseRef
  removed : ∃ w', remove w site.root wt = .ok w'

structure Site.Accounts (site : Site) (opts : ReapOptions) (acc : ReapResult × World) : Prop where
  later : site.Later acc.2
  taken : ∀ item ∈ acc.1.worktrees, item.action = .removed →
    ∃ wt w, item.path = wt.path ∧ site.Taken opts wt w

theorem Site.Accounts.step (h : site.Accounts opts acc)
    (hwt : wt ∈ discoverCleanupCandidates site.world site.root opts) :
    site.Accounts opts (reapOne site.root opts.base opts.dryRun acc wt) := by
  obtain ⟨result, w⟩ := acc
  have hclone := (discoverCleanupCandidates_spec site opts).2 wt hwt
  rcases reapOne_cases site.root opts.base opts.dryRun result w wt with
    ⟨hlive, baseRef, w', hjudge, hremove⟩ | ⟨item, hkept, hitems, hworld⟩
  · obtain ⟨item, _, hpath, hitems, hworld⟩ := reapOne_removed result hjudge hremove
    rw [hlive]
    constructor
    · rw [hworld]
      exact (h.later.remove hclone hremove).1
    · intro item' hitem' hremoved
      rw [hitems] at hitem'
      rcases mem_append.mp hitem' with hold | hnew
      · exact h.taken item' hold hremoved
      · obtain rfl := mem_singleton.mp hnew
        exact ⟨wt, w, hpath, hlive, hwt, h.later, ⟨baseRef, hjudge⟩, w', hremove⟩
  · constructor
    · rw [hworld]
      exact h.later
    · intro item' hitem' hremoved
      rw [hitems] at hitem'
      rcases mem_append.mp hitem' with hold | hnew
      · exact h.taken item' hold hremoved
      · obtain rfl := mem_singleton.mp hnew
        exact absurd hremoved hkept

theorem Site.Accounts.run {wts : List ReapCandidate} (h : site.Accounts opts acc)
    (hwts : ∀ wt ∈ wts, wt ∈ discoverCleanupCandidates site.world site.root opts) :
    site.Accounts opts (wts.foldl (reapOne site.root opts.base opts.dryRun) acc) := by
  induction wts generalizing acc with
  | nil => exact h
  | cons wt wts ih => exact ih (h.step (hwts wt (by simp))) fun wt' hwt' => hwts wt' (by simp [hwt'])

def Site.started (site : Site) (opts : ReapOptions) : ReapResult × World :=
  ({ protectedRoot := site.root, base := opts.base, dryRun := opts.dryRun }, site.world)

theorem Site.accounts_start (site : Site) (opts : ReapOptions) :
    site.Accounts opts (site.started opts) :=
  ⟨site.later_start, nofun⟩

def Site.looped (site : Site) (opts : ReapOptions) : ReapResult × World :=
  (discoverCleanupCandidates site.world site.root opts).foldl
    (reapOne site.root opts.base opts.dryRun) (site.started opts)

theorem Site.reap_unresolved (hbase : resolveBaseRef site.world site.root opts.base = none) :
    site.reap opts = site.started opts := by
  rw [Site.reap, reapMergedWorktrees, hbase]
  rfl

theorem Site.reap_resolved (hbase : resolveBaseRef site.world site.root opts.base ≠ none) :
    (site.reap opts).1 = (site.looped opts).1 ∧ ((site.reap opts).2 = (site.looped opts).2 ∨
      (site.looped opts).2.execute .worktreePrune site.root = .ok (site.reap opts).2) := by
  obtain ⟨baseRef, hbase⟩ := ne_none_iff_exists'.mp hbase
  rw [Site.reap, reapMergedWorktrees, hbase]
  dsimp only
  split
  · split
    · next hprune => exact ⟨rfl, .inr hprune⟩
    · exact ⟨rfl, .inl rfl⟩
  · exact ⟨rfl, .inl rfl⟩

theorem Site.accounts (site : Site) (opts : ReapOptions) : site.Accounts opts (site.reap opts) := by
  by_cases hbase : resolveBaseRef site.world site.root opts.base = none
  · rw [site.reap_unresolved hbase]
    exact site.accounts_start opts
  · obtain ⟨hresult, hworld⟩ := site.reap_resolved hbase
    have hloop : site.Accounts opts (site.looped opts) :=
      (site.accounts_start opts).run fun _ hwt => hwt
    constructor
    · rcases hworld with hsame | hprune
      · rw [hsame]
        exact hloop.later
      · exact hloop.later.prune hprune
    · rw [hresult]
      exact hloop.taken

theorem Site.Taken.condemned (h : site.Taken opts wt w)
    (hbase : resolveBaseRef site.world site.root opts.base ≠ none)
    (hkind : wt.kind = .siblingClone) : site.Condemned opts wt := by
  obtain ⟨r, hstart⟩ := ((discoverCleanupCandidates_spec site opts).2 wt h.candidate hkind).checkout
  obtain ⟨baseRef, hjudge⟩ := h.merged
  have hthere := repositoryAt_of_reap hjudge
  have hne := ((discoverCleanupCandidates_spec site opts).2 wt h.candidate hkind).ne
  have hentry : w.entry wt.path = some (.checkout r) := by
    rcases h.later.entry wt.path hne with hsame | hgone
    · exact hsame.trans hstart
    · rw [repositoryAt, hgone] at hthere
      cases hthere
  refine ⟨hbase, h.live, h.candidate, hkind, ⟨baseRef, ?_⟩, ?_⟩
  · rw [← h.later.judge_eq opts.base hkind hentry hstart]
    exact hjudge
  · obtain ⟨w', hremove⟩ := h.removed
    rw [remove, hkind] at hremove
    dsimp only at hremove
    rw [rmSync, h.later.env] at hremove
    split at hremove
    · cases hremove
    · assumption

theorem Site.Later.reach {wts : List ReapCandidate} (h : site.Later acc.2)
    (hwts : ∀ wt ∈ wts, wt ∈ discoverCleanupCandidates site.world site.root opts ∧ wt.path ≠ p)
    (hp : site.IsClone p) : site.Later (wts.foldl (reapOne site.root opts.base opts.dryRun) acc).2 ∧
      (wts.foldl (reapOne site.root opts.base opts.dryRun) acc).2.entry p = acc.2.entry p := by
  induction wts generalizing acc with
  | nil => exact ⟨h, rfl⟩
  | cons wt wts ih =>
    obtain ⟨result, w⟩ := acc
    obtain ⟨hwt, hne⟩ := hwts wt (by simp)
    have hclone := (discoverCleanupCandidates_spec site opts).2 wt hwt
    have hstep : site.Later (reapOne site.root opts.base opts.dryRun (result, w) wt).2 ∧
        (reapOne site.root opts.base opts.dryRun (result, w) wt).2.entry p = w.entry p := by
      rcases reapOne_cases site.root opts.base opts.dryRun result w wt with
        ⟨hlive, baseRef, w', hjudge, hremove⟩ | ⟨_, _, _, hworld⟩
      · obtain ⟨_, _, _, _, hworld⟩ := reapOne_removed result hjudge hremove
        obtain ⟨hlater, hothers⟩ := h.remove hclone hremove
        rw [hlive, hworld]
        exact ⟨hlater, hothers p hne.symm hp⟩
      · rw [hworld]
        exact ⟨h, rfl⟩
    obtain ⟨hlater, hentry⟩ := ih hstep.1 fun wt' hwt' => hwts wt' (by simp [hwt'])
    exact ⟨hlater, hentry.trans hstep.2⟩

theorem worktrees_prefix (root : Path) (base : String) (dryRun : Bool) (wts : List ReapCandidate)
    (acc : ReapResult × World) :
    acc.1.worktrees <+: (wts.foldl (reapOne root base dryRun) acc).1.worktrees := by
  induction wts generalizing acc with
  | nil => exact prefix_rfl
  | cons wt wts ih =>
    obtain ⟨result, w⟩ := acc
    have hstep : result.worktrees <+: (reapOne root base dryRun (result, w) wt).1.worktrees := by
      rcases reapOne_cases root base dryRun result w wt with
        ⟨hlive, baseRef, w', hjudge, hremove⟩ | ⟨item, _, hitems, _⟩
      · obtain ⟨item, _, _, hitems, _⟩ := reapOne_removed result hjudge hremove
        rw [hlive, hitems]
        exact prefix_append ..
      · rw [hitems]
        exact prefix_append ..
    exact hstep.trans (ih _)

theorem Site.Condemned.removed (h : site.Condemned opts wt) :
    ∃ item ∈ (site.reap opts).1.worktrees, item.action = .removed ∧ item.path = wt.path := by
  obtain ⟨hnodup, hclones⟩ := discoverCleanupCandidates_spec site opts
  have hclone := hclones wt h.candidate h.clone
  obtain ⟨r, hstart⟩ := hclone.checkout
  obtain ⟨baseRef, hjudge⟩ := h.merged
  rw [(site.reap_resolved h.base).1, Site.looped]
  obtain ⟨before, rest, hsplit⟩ := append_of_mem h.candidate
  have hbefore : ∀ wt' ∈ before,
      wt' ∈ discoverCleanupCandidates site.world site.root opts ∧ wt'.path ≠ wt.path := by
    intro wt' hwt'
    refine ⟨by rw [hsplit]; exact mem_append_left _ hwt', fun hsame => ?_⟩
    rw [hsplit, map_append, map_cons, nodup_append] at hnodup
    exact hnodup.2.2 wt'.path (mem_map_of_mem hwt') wt.path (by simp) hsame
  have hstarted : site.Later (site.started opts).2 := site.later_start
  obtain ⟨hlater, hentry⟩ := hstarted.reach hbefore hclone
  rw [hsplit, foldl_append, foldl_cons]
  generalize before.foldl (reapOne site.root opts.base opts.dryRun) (site.started opts) = acc
    at hlater hentry ⊢
  obtain ⟨result, w⟩ := acc
  have hjudge' : judge w site.root opts.base wt = .reap baseRef := by
    rw [hlater.judge_eq opts.base h.clone (hentry.trans hstart) hstart]
    exact hjudge
  have hremove : ∃ w', remove w site.root wt = .ok w' := by
    rw [remove, h.clone]
    dsimp only
    rw [rmSync, hlater.env, h.deletable]
    exact ⟨_, rfl⟩
  obtain ⟨w', hremove⟩ := hremove
  obtain ⟨item, hremoved, hpath, hitems, _⟩ := reapOne_removed result hjudge' hremove
  have hpre := worktrees_prefix site.root opts.base opts.dryRun rest
    (reapOne site.root opts.base opts.dryRun (result, w) wt)
  rw [h.live] at hpre ⊢
  rw [hitems] at hpre
  exact ⟨item, hpre.subset (by simp), hremoved, hpath⟩

/-- A pass loses nothing exactly when the clones it is about to delete have been published, branch
by branch. -/
theorem losesNothing_iff (site : Site) (opts : ReapOptions) :
    site.LosesNothing opts ↔ site.ClonesPublished opts := by
  have haccounts := site.accounts opts
  obtain ⟨worktrees, hroot⟩ := haccounts.later.root
  have hhosts : ∀ r d, site.Hosts (site.reap opts).2 opts.base r d ↔
      site.Hosts site.world opts.base r d := by
    intro r d
    simp only [Site.Hosts, haccounts.later.hosted]
  constructor
  · intro hloses wt hwt r hentry branch c hc
    obtain ⟨item, hitem, hremoved, hpath⟩ := hwt.removed
    have hrepository : site.world.repositoryAt item.path = some (wt.path, r) := by
      rw [hpath, repositoryAt, hentry]
    rcases hloses item hitem hremoved wt.path r hrepository branch c hc c le_rfl with
      ⟨r', hr', hreaches⟩ | hosts
    · obtain rfl := Entry.checkout.inj (Option.some.inj (hroot.symm.trans hr'))
      exact .inl hreaches
    · exact .inr ((hhosts r c).mp hosts)
  · intro hpublished item hitem hremoved main r hrepository branch c hc d hd
    obtain ⟨wt, w, hpath, htaken⟩ := haccounts.taken item hitem hremoved
    rw [hpath] at hrepository
    have hbase : resolveBaseRef site.world site.root opts.base ≠ none := by
      intro hnone
      rw [site.reap_unresolved hnone] at hitem
      cases hitem
    cases hkind : wt.kind with
    | siblingClone =>
      have hclone := (discoverCleanupCandidates_spec site opts).2 wt htaken.candidate hkind
      obtain ⟨r', hentry⟩ := hclone.checkout
      rw [repositoryAt, hentry] at hrepository
      obtain ⟨rfl, rfl⟩ := Prod.mk.inj (Option.some.inj hrepository)
      rcases hpublished wt (htaken.condemned hbase hkind) r' hentry branch c hc with
        ⟨ref, c', hc', hle⟩ | ⟨url, c', horigin, hshared, hhosted, hle⟩
      · exact .inl ⟨_, hroot, ref, c', hc', le_trans hd hle⟩
      · exact .inr ((hhosts r' d).mpr ⟨url, c', horigin, hshared, hhosted, le_trans hd hle⟩)
    | linkedWorktree =>
      obtain ⟨w', hremove⟩ := htaken.removed
      rw [remove, hkind] at hremove
      obtain ⟨_, hlinked, _⟩ := htaken.later.worktreeRemove hremove
      have hne : wt.path ≠ site.root := by
        intro heq
        obtain ⟨_, hcheckout⟩ := htaken.later.root
        rw [heq, hcheckout] at hlinked
        cases hlinked
      have hstart : site.world.entry wt.path = some (.linked site.root) := by
        rcases htaken.later.entry wt.path hne with hsame | hgone
        · exact hsame.symm.trans hlinked
        · rw [hgone] at hlinked
          cases hlinked
      rw [repositoryAt, hstart] at hrepository
      dsimp only at hrepository
      rw [site.canonical] at hrepository
      obtain ⟨rfl, rfl⟩ := Prod.mk.inj (Option.some.inj hrepository)
      exact .inl ⟨_, hroot, branchRef branch, c, hc, hd⟩

def published : GitCommit := .mk "init" []

def unpushed : GitCommit := .mk "work" [published]

def rootRepository : Repository where
  head := some "main"
  refs ref := if ref = "refs/heads/main" then some published else none
  objects _ := none
  origin := some "git@host:app.git"
  worktrees := []

def cloneRepository : Repository where
  head := some "main"
  refs ref :=
    if ref = "refs/heads/main" then some unpushed
    else if ref = "refs/remotes/origin/main" then some published
    else none
  objects _ := none
  origin := some "git@host:app.git"
  worktrees := []

def unpushedClone : Site where
  world :=
    { entry := fun path =>
        if path = ["srv", "app"] then some (.checkout rootRepository)
        else if path = ["srv", "app-x"] then some (.checkout cloneRepository)
        else none
      hosted := fun _ branch => if branch = "main" then some published else none
      env :=
        { queryFails := fun _ _ => none
          commandFails := fun _ _ => none
          rmFails := fun _ => none
          status := fun _ => ""
          sha := fun _ => "0"
          readdir := fun _ => some ["app", "app-x"]
          bytes := fun _ => 0
          collate := fun _ _ => true } }
  root := ["srv", "app"]
  repository := rootRepository
  canonical := rfl

theorem not_losesNothing : ¬ unpushedClone.LosesNothing {} := by
  intro hloses
  have hremoved : ∃ item ∈ (unpushedClone.reap {}).1.worktrees, item.action = .removed ∧
      item.path = ["srv", "app-x"] := by
    decide +kernel
  obtain ⟨item, hitem, hremoved, hpath⟩ := hremoved
  have hrepository : unpushedClone.world.repositoryAt item.path =
      some (["srv", "app-x"], cloneRepository) := by
    rw [hpath]
    rfl
  have hlost : ¬ unpushed ≤ published := by decide
  have haccounts := unpushedClone.accounts {}
  rcases hloses item hitem hremoved _ _ hrepository "main" unpushed rfl unpushed le_rfl with
    ⟨r, hroot, ref, c, hc, hle⟩ | ⟨url, c, _, _, hhosted, hle⟩
  · obtain ⟨worktrees, hkept⟩ := haccounts.later.root
    obtain rfl := Entry.checkout.inj (Option.some.inj (hkept.symm.trans hroot))
    have hmain : (if ref = "refs/heads/main" then some published else none) = some c := hc
    split at hmain
    · obtain rfl := Option.some.inj hmain
      exact hlost hle
    · cases hmain
  · rw [haccounts.later.hosted] at hhosted
    obtain rfl : published = c := Option.some.inj hhosted
    exact hlost hle

end IdAgents.Workspaces
