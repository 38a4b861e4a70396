import IdAgents.Library.Interleaving
import IdAgents.Promotion.GitRules
import IdAgents.Promotion.PromoteToMain

namespace IdAgents.Promotion
open JsText AtomicProgram List

structure Evolves (repo : String) (free : String → Prop) (w w' : World) : Prop where
  checkout : ∀ co', w'.checkouts repo = some co' → ∃ co, w.checkouts repo = some co ∧
    co'.remotes = co.remotes ∧ ∀ branch, ¬ free branch → co'.heads branch = co.heads branch
  hosted : ∀ url branch c, w.hosted url branch = some c →
    ∃ c', w'.hosted url branch = some c' ∧ c ≤ c'

theorem Evolves.refl (repo : String) (free : String → Prop) (w : World) : Evolves repo free w w where
  checkout co hco := ⟨co, hco, rfl, fun _ _ => rfl⟩
  hosted _ _ c hc := ⟨c, hc, le_rfl⟩

theorem Evolves.trans (h : Evolves repo free w w') (h' : Evolves repo free w' w'') :
    Evolves repo free w w'' where
  checkout co'' hco'' := by
    obtain ⟨co', hco', hremotes', hheads'⟩ := h'.checkout co'' hco''
    obtain ⟨co, hco, hremotes, hheads⟩ := h.checkout co' hco'
    refine ⟨co, hco, hremotes'.trans hremotes, ?_⟩
    intro branch hfree
    rw [hheads' branch hfree, hheads branch hfree]
  hosted url branch c hc := by
    obtain ⟨c', hc', hle⟩ := h.hosted url branch c hc
    obtain ⟨c'', hc'', hle'⟩ := h'.hosted url branch c' hc'
    exact ⟨c'', hc'', le_trans hle hle'⟩

structure Beside (repo : String) (w w' : World) : Prop where
  checkout : w'.checkouts repo = w.checkouts repo
  hosted : w'.hosted = w.hosted
  names : w'.names = w.names

theorem Beside.refl (repo : String) (w : World) : Beside repo w w := ⟨rfl, rfl, rfl⟩

theorem Beside.trans (h : Beside repo w w') (h' : Beside repo w' w'') : Beside repo w w'' where
  checkout := h'.checkout.trans h.checkout
  hosted := h'.hosted.trans h.hosted
  names := h'.names.trans h.names

theorem SameRefs.beside (h : SameRefs w w') (repo : String) : Beside repo w w' where
  checkout := by rw [h.checkouts]
  hosted := h.hosted
  names := h.names

theorem Beside.setCheckout (h : path ≠ repo) (w : World) (co : Checkout) :
    Beside repo w (w.setCheckout path co) where
  checkout := setCheckout_ne w co h.symm
  hosted := rfl
  names := rfl

theorem Beside.resolve (h : Beside repo w w') (co : Checkout) (rev : Rev) :
    w'.resolve co rev = w.resolve co rev := by
  cases rev with
  | tracking remote base => rfl
  | named name => rw [World.resolve, World.resolve, h.names]

theorem Beside.evolves (h : Beside repo w w') (free : String → Prop) : Evolves repo free w w' where
  checkout co hco := ⟨co, h.checkout ▸ hco, rfl, fun _ _ => rfl⟩
  hosted _ _ c hc := ⟨c, by rw [h.hosted]; exact hc, le_rfl⟩

def Clean (repo remote base : String) (w : World) : Prop :=
  ∀ co tip, w.checkouts repo = some co → co.heads base = some tip →
    ∃ url c, co.url? remote = some url ∧ w.hosted url base = some c ∧ tip ≤ c

theorem Clean.evolves (h : Clean repo remote base w) (hev : Evolves repo free w w')
    (hfree : ¬ free base) : Clean repo remote base w' := by
  intro co' tip hco' htip
  obtain ⟨co, hco, hremotes, hheads⟩ := hev.checkout co' hco'
  rw [hheads base hfree] at htip
  obtain ⟨url, c, hurl, hc, hle⟩ := h co tip hco htip
  obtain ⟨c', hc', hle'⟩ := hev.hosted url base c hc
  exact ⟨url, c', by rw [Checkout.url?, hremotes]; exact hurl, hc', le_trans hle hle'⟩

def resolvedTip (args : PromoteArgs) (w : World) : Option GitCommit := do
  let co ← w.checkouts args.repo
  let url ← co.url? args.remote
  let c ← w.hosted url args.base
  w.resolve (co.setTracking args.remote args.base c) (.named args.branch)

/-- A call has fetched the tip `c` of the remote base to its checkout `co`. -/
structure Fetched (args : PromoteArgs) (w : World) (co : Checkout) (url : String) (c : GitCommit)
    (w' : World) : Prop where
  checkout : w.checkouts args.repo = some co
  remoteUrl : co.url? args.remote = some url
  remoteBase : w.hosted url args.base = some c
  refs : SameRefs (w.setCheckout args.repo (co.setTracking args.remote args.base c)) w'

theorem Fetched.tip (h : Fetched args w co url c w') : resolvedTip args w =
    w'.resolve (co.setTracking args.remote args.base c) (.named args.branch) := by
  rw [h.refs.resolve, resolvedTip, h.checkout]
  simp only [Option.bind_eq_bind, Option.bind_some, h.remoteUrl, h.remoteBase]
  rfl

theorem Fetched.same (h : Fetched args w co url c w') (hsame : SameRefs w' w'') :
    Fetched args w co url c w'' where
  checkout := h.checkout
  remoteUrl := h.remoteUrl
  remoteBase := h.remoteBase
  refs := h.refs.trans hsame

variable {w : World}

theorem setTracking_evolves (hco : w.checkouts repo = some co) (remote base : String)
    (c : GitCommit) (free : String → Prop) :
    Evolves repo free w (w.setCheckout repo (co.setTracking remote base c)) where
  checkout co' hco' := by
    rw [setCheckout_same] at hco'
    obtain rfl := Option.some.inj hco'
    exact ⟨co, hco, rfl, fun _ _ => rfl⟩
  hosted _ _ c hc := ⟨c, hc, le_rfl⟩

theorem Fetched.evolves (h : Fetched args w co url c w') (free : String → Prop) :
    Evolves args.repo free w w' :=
  (setTracking_evolves h.checkout ..).trans ((h.refs.beside args.repo).evolves free)

variable {A : Stmt → World → Prop}

theorem branchStatus_provided (args : PromoteArgs) (branchTip baseTip : String) (w : World) :
    (branchStatus args branchTip baseTip).provided A
      (fun r w' => ∃ status, r = .ok status ∧ SameRefs w w') w := by
  apply quiet_provided rfl
  intro _ w₁ h₁
  apply quiet_provided rfl
  intro _ w₂ h₂
  apply quiet_provided rfl
  intro _ w₃ h₃
  apply quiet_provided rfl
  intro _ w₄ h₄
  exact ⟨_, rfl, ((h₁.trans h₂).trans h₃).trans h₄⟩

variable {args : PromoteArgs}

theorem preflight_provided (hexecute : args.execute = true) (w : World) :
    (preflight args).provided A (fun r w' => ∃ x, r = .ok x ∧ w'.hosted = w.hosted ∧
      Evolves args.repo (fun _ => False) w w' ∧
      ∀ plan, x = .ok plan → ∃ co url c, Fetched args w co url c w') w := by
  rw [preflight]
  apply quiet_provided rfl
  intro statusOut w₁ hstatus
  split
  · exact ⟨_, rfl, hstatus.hosted, (hstatus.beside args.repo).evolves _, fun _ h => by cases h⟩
  dsimp only
  split
  · exact ⟨_, rfl, hstatus.hosted, (hstatus.beside args.repo).evolves _, fun _ h => by cases h⟩
  apply git_provided
  · -- in execute mode a failed fetch ends the call
    intro fetchOut w₂ hcode _ _ hsame
    rw [if_pos ⟨hcode, hexecute⟩]
    have hboth := hstatus.trans hsame
    exact ⟨_, rfl, hboth.hosted, (hboth.beside args.repo).evolves _, fun _ h => by cases h⟩
  · intro fetchOut co v w₂ hcode hco hv hsame
    obtain ⟨url, c, hurl, hc, rfl⟩ := Git.apply_fetch hv
    have hfetched : Fetched args w co url c w₂ := by
      refine ⟨by rw [← hstatus.checkouts, hco], hurl, by rw [← hstatus.hosted, hc], ?_⟩
      apply SameRefs.trans ?_ hsame
      exact ⟨by rw [World.setCheckout, World.setCheckout, hstatus.checkouts], hstatus.hosted,
        hstatus.names⟩
    rw [if_neg (by simp [hcode])]
    apply quiet_provided rfl
    intro tipOut w₃ hsame₃
    apply quiet_provided rfl
    intro baseOut w₄ hsame₄
    have hfetched₄ := (hfetched.same hsame₃).same hsame₄
    split
    · exact ⟨_, rfl, hfetched₄.refs.hosted, hfetched₄.evolves _, fun _ h => by cases h⟩
    apply Program.provided_then
      (branchStatus_provided args (trim tipOut.stdout) (trim baseOut.stdout) w₄)
    intro status w₅ hsame₅
    have hfetched₅ := hfetched₄.same hsame₅
    cases resolveStrategy args status with
    | error outcome => exact ⟨_, rfl, hfetched₅.refs.hosted, hfetched₅.evolves _, fun _ h => by cases h⟩
    | ok strategy =>
      exact ⟨_, rfl, hfetched₅.refs.hosted, hfetched₅.evolves _,
        fun _ _ => ⟨co, url, c, hfetched₅⟩⟩

def Accounted (remoteTip : GitCommit) (tip : Option GitCommit) (c : GitCommit) : Prop :=
  c ≤ remoteTip ∨ ∃ t, tip = some t ∧ c ≤ t

theorem Accounted.of_le (h : Accounted remoteTip tip c) (hd : d ≤ c) :
    Accounted remoteTip tip d := by
  rcases h with h | ⟨t, ht, h⟩
  · exact .inl (le_trans hd h)
  · exact .inr ⟨t, ht, le_trans hd h⟩

/-- The base is checked out at a place, and whatever a merge of the branch can bring to it is
accounted for. In the call's own checkout it has no commit that the fetched remote base lacks. -/
structure OnBase (args : PromoteArgs) (tip : Option GitCommit) (place : String) (w : World)
    (co : Checkout) (url : String) (remoteTip localTip : GitCommit) : Prop where
  checkout : w.checkouts place = some co
  head : co.head = some args.base
  localBase : co.heads args.base = some localTip
  remoteUrl : co.url? args.remote = some url
  remoteBase : w.hosted url args.base = some remoteTip
  tracking : co.tracking (remoteRef args.remote args.base) = some remoteTip
  accounted : Accounted remoteTip tip localTip
  branch : ∀ c, w.resolve co (.named args.branch) = some c → Accounted remoteTip tip c
  behind : place = args.repo → localTip ≤ remoteTip

theorem OnBase.same (h : OnBase args tip place w co url remoteTip localTip)
    (hsame : SameRefs w w') : OnBase args tip place w' co url remoteTip localTip where
  checkout := by rw [hsame.checkouts, h.checkout]
  head := h.head
  localBase := h.localBase
  remoteUrl := h.remoteUrl
  remoteBase := by rw [hsame.hosted, h.remoteBase]
  tracking := h.tracking
  accounted := h.accounted
  branch c hc := h.branch c (by rw [← hsame.resolve, hc])
  behind := h.behind

variable {co : Checkout}

theorem resolve_setHead (h : w.resolve (co.setHead branch c) (.named name) = some d) :
    d = c ∨ w.resolve co (.named name) = some d := by
  simp only [World.resolve, Checkout.setHead_heads, Checkout.setHead_tracking] at h ⊢
  cases hname : w.names name with
  | some e =>
    rw [hname] at h
    exact .inr h
  | none =>
    rw [hname] at h
    by_cases hbranch : name = branch
    · subst hbranch
      rw [Function.update_self] at h
      exact .inl (Option.some.inj h).symm
    · rw [Function.update_of_ne hbranch] at h
      exact .inr h

theorem resolve_fetched (h : w.resolve (co.setHead name c) (.named name) = some d)
    (hc : w.resolve source (.named name) = some c) : d = c := by
  simp only [World.resolve, Checkout.setHead_heads, Function.update_self] at h hc
  cases hname : w.names name with
  | some e =>
    rw [hname] at h hc
    exact Option.some.inj (h.symm.trans hc)
  | none =>
    rw [hname] at h
    exact (Option.some.inj h).symm

theorem resolve_head (w : World) (co : Checkout) (head : Option String) (rev : Rev) :
    w.resolve { co with head } rev = w.resolve co rev := by
  cases rev <;> rfl

theorem resolve_setCheckout (w : World) (path : String) (co co' : Checkout) (rev : Rev) :
    (w.setCheckout path co).resolve co' rev = w.resolve co' rev := by
  cases rev <;> rfl

structure Cloned (args : PromoteArgs) (tip : Option GitCommit) (workdir : String) (w : World)
    (co : Checkout) (url : String) (remoteTip : GitCommit) : Prop where
  checkout : w.checkouts workdir = some co
  remoteUrl : co.url? args.remote = some url
  remoteBase : w.hosted url args.base = some remoteTip
  tracking : co.tracking (remoteRef args.remote args.base) = some remoteTip
  base : ∀ c, co.heads args.base = some c → Accounted remoteTip tip c
  branch : ∀ c, w.resolve co (.named args.branch) = some c → Accounted remoteTip tip c

theorem scratchPath_provided (name : String) (w : World) :
    (scratchPath name).provided A (fun _ w' => SameRefs w w') w := by
  intro _
  change (thrown (w.env.scratchPath w.step name)).provided A _ (Stmt.effect (.scratchPath name) w)
  cases w.env.scratchPath w.step name with
  | ok path => exact ⟨rfl, rfl, rfl⟩
  | error e => exact ⟨rfl, rfl, rfl⟩

theorem setRemote_provided (remote url workdir : String) (h : workdir ≠ repo) (w : World) :
    (setRemote remote url workdir).provided A
      (fun r w' => ∃ out, r = .ok out ∧ Beside repo w w') w := by
  have hset {w₁ w₂ v : World} {co : Checkout} (hbeside : Beside repo w w₁)
      (hv : (Git.remoteSetUrl remote url).apply workdir co w₁ = some v ∨
        (Git.remoteAdd remote url).apply workdir co w₁ = some v) (hsame : SameRefs v w₂) :
      Beside repo w w₂ := by
    obtain ⟨remotes, rfl⟩ := Git.apply_remote hv
    exact (hbeside.trans (.setCheckout h w₁ _)).trans (hsame.beside repo)
  apply git_provided
  · intro out w₁ hcode _ _ hsame
    rw [if_pos hcode]
    change ((git (.remoteAdd remote url) workdir).bind .ret).provided A _ w₁
    apply git_provided
    · intro addOut w₂ _ _ _ hsame₂
      exact ⟨addOut, rfl, (hsame.trans hsame₂).beside repo⟩
    · intro addOut co v w₂ _ _ hv hsame₂
      exact ⟨addOut, rfl, hset (hsame.beside repo) (.inr hv) hsame₂⟩
  · intro out co v w₁ hcode _ hv hsame
    rw [if_neg (by simp [hcode])]
    exact ⟨out, rfl, hset (.refl repo w) (.inl hv) hsame⟩

theorem createWorktreeFallbackClone_provided (hco : w.checkouts args.repo = some co) :
    (createWorktreeFallbackClone args).provided A (fun r w' => Beside args.repo w w' ∧
      ∀ workdir, r = .ok (some workdir) → workdir ≠ args.repo ∧ ∃ clone url c,
        Cloned args (w.resolve co (.named args.branch)) workdir w' clone url c) w := by
  rw [createWorktreeFallbackClone]
  apply Program.provided_seq (scratchPath_provided _ w)
  case herror =>
    intro e w₁ hsame
    exact ⟨hsame.beside args.repo, nofun⟩
  intro workdir w₁ hsame₁
  apply quiet_provided rfl
  intro urlOut w₂ hsame₂
  have hbeside₂ := (hsame₁.trans hsame₂).beside args.repo
  dsimp only
  split
  · exact ⟨hbeside₂, nofun⟩
  apply git_provided
  · intro out w₃ hcode _ _ hsame₃
    rw [if_pos hcode]
    exact ⟨hbeside₂.trans (hsame₃.beside args.repo), nofun⟩
  intro cloneOut _ v w₃ hcode _ hv hsame₃
  rw [if_neg (by simp [hcode])]
  obtain ⟨source, hsource, hfree, rfl⟩ := Git.apply_clone hv
  have hne : workdir ≠ args.repo := by
    rintro rfl
    rw [hfree] at hsource
    cases hsource
  have hbeside₃ := (hbeside₂.trans (.setCheckout hne w₂ _)).trans (hsame₃.beside args.repo)
  apply Program.provided_then (setRemote_provided args.remote (trim urlOut.stdout) workdir hne w₃)
  intro setOut w₄ hbeside₄
  replace hbeside₄ := hbeside₃.trans hbeside₄
  split
  · exact ⟨hbeside₄, nofun⟩
  apply git_provided
  · intro out w₅ hcode _ _ hsame₅
    rw [if_pos hcode]
    exact ⟨hbeside₄.trans (hsame₅.beside args.repo), nofun⟩
  intro fetchOut clone v w₅ hcode hclone hv hsame₅
  rw [if_neg (by simp [hcode])]
  obtain ⟨url, c, hurl, hc, rfl⟩ := Git.apply_fetch hv
  have hbeside₅ := (hbeside₄.trans (.setCheckout hne w₄ _)).trans (hsame₅.beside args.repo)
  have hclone₅ : w₅.checkouts workdir = some (clone.setTracking args.remote args.base c) := by
    rw [hsame₅.checkouts, setCheckout_same]
  have hc₅ : w₅.hosted url args.base = some c := by
    rw [hsame₅.hosted]
    exact hc
  apply git_provided
  · intro out w₆ hcode _ _ hsame₆
    rw [if_pos hcode]
    exact ⟨hbeside₅.trans (hsame₆.beside args.repo), nofun⟩
  intro forceOut clone₅ v w₆ hcode hclone hv hsame₆
  rw [if_neg (by simp [hcode])]
  obtain rfl := Option.some.inj (hclone.symm.trans hclone₅)
  obtain ⟨d, hd, rfl⟩ := Git.apply_branchForce hv
  obtain rfl : c = d := Option.some.inj ((Checkout.setTracking_self ..).symm.trans hd)
  have hbeside₆ := (hbeside₅.trans (.setCheckout hne w₅ _)).trans (hsame₆.beside args.repo)
  apply git_provided
  · intro out w₇ hcode _ _ hsame₇
    rw [if_pos hcode]
    exact ⟨hbeside₆.trans (hsame₇.beside args.repo), nofun⟩
  intro branchOut clone₆ v w₇ hcode hclone hv hsame₇
  rw [if_neg (by simp [hcode])]
  rw [hsame₆.checkouts, setCheckout_same] at hclone
  obtain rfl := Option.some.inj hclone
  obtain ⟨source', t, hsource', ht, rfl⟩ := Git.apply_fetchBranch hv
  obtain rfl : co = source' := by
    rw [hbeside₆.checkout, hco] at hsource'
    exact Option.some.inj hsource'
  refine ⟨(hbeside₆.trans (.setCheckout hne w₆ _)).trans (hsame₇.beside args.repo), ?_⟩
  intro path hpath
  obtain rfl : workdir = path := Option.some.inj (Except.ok.inj hpath)
  have htip : w.resolve co (.named args.branch) = some t := by
    rw [← hbeside₆.resolve, ht]
  refine ⟨hne, ((clone.setTracking args.remote args.base c).setHead args.base c).setHead
    args.branch t, url, c, ?_⟩
  constructor
  case checkout => rw [hsame₇.checkouts, setCheckout_same]
  case remoteUrl => exact hurl
  case remoteBase =>
    rw [hsame₇.hosted]
    exact (congrFun (congrFun hsame₆.hosted url) args.base).trans hc₅
  case tracking => exact Checkout.setTracking_self ..
  case base =>
    intro e he
    by_cases hbase : args.base = args.branch
    · rw [hbase, Checkout.setHead_heads, Function.update_self] at he
      exact .inr ⟨t, htip, le_of_eq (Option.some.inj he).symm⟩
    · rw [Checkout.setHead_heads, Function.update_of_ne hbase, Checkout.setHead_heads,
        Function.update_self] at he
      exact .inl (le_of_eq (Option.some.inj he).symm)
  case branch =>
    intro e he
    rw [hsame₇.resolve, resolve_setCheckout] at he
    exact .inr ⟨t, htip, le_of_eq (resolve_fetched he ht)⟩

theorem OnBase.setHead (h : OnBase args tip place w co url remoteTip localTip)
    (hc : Accounted remoteTip tip c) (hbehind : place = args.repo → c ≤ remoteTip) :
    OnBase args tip place (w.setCheckout place (co.setHead args.base c))
      (co.setHead args.base c) url remoteTip c where
  checkout := setCheckout_same ..
  head := h.head
  localBase := Function.update_self ..
  remoteUrl := h.remoteUrl
  remoteBase := h.remoteBase
  tracking := h.tracking
  accounted := hc
  branch d hd := by
    rw [resolve_setCheckout] at hd
    rcases resolve_setHead hd with rfl | hd
    · exact hc
    · exact h.branch d hd
  behind := hbehind

theorem fastForwardToRemote_failed (hcode : out.code ≠ 0)
    (place : String) (fallback : Option WorktreeFallback) :
    fastForwardToRemote args place fallback out = .ret ⟨place, fallback, false⟩ := by
  rw [fastForwardToRemote, if_pos hcode]
  rfl

theorem fastForwardToRemote_provided (hcode : out.code = 0) (fallback : Option WorktreeFallback)
    (h : OnBase args tip place w co url remoteTip localTip) :
    (fastForwardToRemote args place fallback out).provided A (fun r w' => ∃ onBase,
      r = .ok ⟨place, fallback, onBase⟩ ∧ ∃ c, SameRefs (w.setCheckout place (co.setHead args.base c)) w' ∧
        OnBase args tip place w' (co.setHead args.base c) url remoteTip c ∧
        (onBase = true → place = args.repo → c = remoteTip)) w := by
  rw [fastForwardToRemote, if_neg (by simp [hcode])]
  apply git_provided
  · intro pullOut w₁ hcode _ _ hsame
    refine ⟨false, by simp [hcode], localTip, ?_⟩
    rw [Checkout.setHead_self h.localBase, setCheckout_self h.checkout]
    exact ⟨hsame, h.same hsame, nofun⟩
  · intro pullOut co' v w₁ hcode hco' hv hsame
    obtain rfl : co = co' := Option.some.inj (h.checkout.symm.trans hco')
    obtain ⟨c, tip', d, hc, htip', rfl, hmoved⟩ := Git.apply_mergeFfOnly hv h.head
    obtain rfl : localTip = tip' := Option.some.inj (h.localBase.symm.trans htip')
    obtain rfl : remoteTip = c := Option.some.inj (h.tracking.symm.trans hc)
    have hd : Accounted remoteTip tip d ∧ (place = args.repo → d = remoteTip) := by
      rcases hmoved with ⟨rfl, hle⟩ | ⟨rfl, _⟩
      · exact ⟨h.accounted, fun hplace => le_antisymm (h.behind hplace) hle⟩
      · exact ⟨.inl le_rfl, fun _ => rfl⟩
    refine ⟨true, by simp [hcode], d, hsame, ?_, fun _ => hd.2⟩
    exact (h.setHead hd.1 fun hplace => le_of_eq (hd.2 hplace)).same hsame

theorem setCheckout_evolves (hco : w.checkouts repo = some co) (hremotes : co'.remotes = co.remotes)
    (hheads : ∀ branch, branch ≠ base → co'.heads branch = co.heads branch) :
    Evolves repo (· = base) w (w.setCheckout repo co') where
  checkout co'' hco'' := by
    rw [setCheckout_same] at hco''
    obtain rfl := Option.some.inj hco''
    exact ⟨co, hco, hremotes, hheads⟩
  hosted _ _ c hc := ⟨c, hc, le_rfl⟩

theorem OnBase.ofCheckout
    (hremote : co.url? args.remote = some url) (hhosted : w.hosted url args.base = some c)
    (htracking : co.tracking (remoteRef args.remote args.base) = some c)
    (hbase : ∀ d, co.heads args.base = some d → Accounted c tip d)
    (hbranch : ∀ d, w.resolve co (.named args.branch) = some d → Accounted c tip d)
    (hbehind : ∀ d, co.heads args.base = some d → place = args.repo → d ≤ c)
    (hv : (Git.checkout args.base).apply place co w = some v) :
    ∃ d co', v = w.setCheckout place co' ∧ co'.remotes = co.remotes ∧
      (∀ branch, branch ≠ args.base → co'.heads branch = co.heads branch) ∧
      OnBase args tip place v co' url c d := by
  obtain ⟨d, rfl, hd⟩ := Git.apply_checkout hv
  have hd' : Accounted c tip d ∧ (place = args.repo → d ≤ c) := by
    rcases hd with hd | hd
    · exact ⟨hbase d hd, hbehind d hd⟩
    · obtain rfl := hd _ _ c hremote htracking
      exact ⟨.inl le_rfl, fun _ => le_rfl⟩
  refine ⟨d, _, rfl, rfl, fun branch hbranch => Function.update_of_ne hbranch .., ?_⟩
  constructor
  case checkout => exact setCheckout_same ..
  case head => rfl
  case localBase => exact Function.update_self ..
  case remoteUrl => exact hremote
  case remoteBase => exact hhosted
  case tracking => exact htracking
  case accounted => exact hd'.1
  case behind => exact hd'.2
  case branch =>
    intro e he
    rw [resolve_setCheckout, resolve_head] at he
    rcases resolve_setHead he with rfl | he
    · exact hd'.1
    · exact hbranch e he

theorem OnBase.clean (h : OnBase args tip args.repo w co url remoteTip localTip) :
    Clean args.repo args.remote args.base w := by
  intro co' tip' hco' htip'
  obtain rfl : co = co' := Option.some.inj (h.checkout.symm.trans hco')
  obtain rfl : localTip = tip' := Option.some.inj (h.localBase.symm.trans htip')
  exact ⟨url, remoteTip, h.remoteUrl, h.remoteBase, h.behind rfl⟩

structure SettledBase (args : PromoteArgs) (w w' : World) (r : Except String Settled) : Prop where
  hosted : w'.hosted = w.hosted
  evolves : Evolves args.repo (· = args.base) w w'
  clean : Clean args.repo args.remote args.base w'
  fallback : ∀ settled, r = .ok settled → ∀ fallback ∈ settled.worktreeFallback,
    fallback.workdir ≠ args.repo
  onBase : ∀ settled, r = .ok settled → settled.onBase = true → ∃ co url remoteTip localTip,
    OnBase args (resolvedTip args w) settled.execRepo w' co url remoteTip localTip ∧
    (settled.execRepo = args.repo → localTip = remoteTip)

theorem SettledBase.beside
    (hfetched : Fetched args w co url c w₁) (hclean : Clean args.repo args.remote args.base w)
    (hbeside : Beside args.repo w₁ w')
    (hfallback : ∀ settled, r = .ok settled → ∀ fallback ∈ settled.worktreeFallback,
      fallback.workdir ≠ args.repo) (honBase : ∀ settled, r = .ok settled → settled.onBase = true →
      ∃ co url remoteTip localTip, settled.execRepo ≠ args.repo ∧
        OnBase args (resolvedTip args w) settled.execRepo w' co url remoteTip localTip) :
    SettledBase args w w' r where
  hosted := hbeside.hosted.trans hfetched.refs.hosted
  evolves := (hfetched.evolves _).trans (hbeside.evolves _)
  clean := (hclean.evolves (hfetched.evolves fun _ => False) id).evolves
    (hbeside.evolves fun _ => False) id
  fallback := hfallback
  onBase settled hsettled hon := by
    obtain ⟨co, url, remoteTip, localTip, hne, hbase⟩ := honBase settled hsettled hon
    exact ⟨co, url, remoteTip, localTip, hbase, fun hplace => absurd hplace hne⟩

theorem settle_clone (hfetched : Fetched args w co url c w₁)
    (hclean : Clean args.repo args.remote args.base w) (hbeside : Beside args.repo w₁ w₂)
    (hne : workdir ≠ args.repo)
    (h : Cloned args (resolvedTip args w) workdir w₂ clone url' c') (reason : String) :
    ((git (.checkout args.base) workdir).bind
      (fastForwardToRemote args workdir (some ⟨workdir, reason⟩))).provided A
      (fun r w' => SettledBase args w w' r) w₂ := by
  have hfallback {onBase : Bool} (settled : Settled)
      (hs : (Except.ok ⟨workdir, some ⟨workdir, reason⟩, onBase⟩ : Except String Settled) =
        .ok settled) : ∀ fallback ∈ settled.worktreeFallback, fallback.workdir ≠ args.repo := by
    obtain rfl := Except.ok.inj hs
    intro fallback hfallback
    obtain rfl := Option.some.inj hfallback
    exact hne
  apply git_provided
  · intro out w₃ hcode _ _ hsame
    rw [fastForwardToRemote_failed hcode]
    apply SettledBase.beside hfetched hclean (hbeside.trans (hsame.beside args.repo)) hfallback
    intro settled hs hon
    obtain rfl := Except.ok.inj hs
    cases hon
  · intro out clone' v w₃ hcode hclone' hv hsame
    obtain rfl : clone = clone' := Option.some.inj (h.checkout.symm.trans hclone')
    obtain ⟨d, co₃, rfl, _, _, hon⟩ := OnBase.ofCheckout h.remoteUrl h.remoteBase h.tracking h.base
      h.branch (fun _ _ hplace => absurd hplace hne) hv
    apply Program.provided_mono
      (fastForwardToRemote_provided hcode (some ⟨workdir, reason⟩) (hon.same hsame))
    rintro r w₄ ⟨onBase, rfl, d', hsame', hon', _⟩
    have hbeside₄ := ((hbeside.trans (.setCheckout hne w₂ _)).trans (hsame.beside args.repo)).trans
      ((Beside.setCheckout hne w₃ _).trans (hsame'.beside args.repo))
    apply SettledBase.beside hfetched hclean hbeside₄ hfallback
    intro settled hs _
    obtain rfl := Except.ok.inj hs
    exact ⟨_, _, _, _, hne, hon'⟩

theorem settle_provided (hfetched : Fetched args w co url c w₁)
    (hclean : Clean args.repo args.remote args.base w) :
    (settle args).provided A (fun r w' => SettledBase args w w' r) w₁ := by
  have hco₁ : w₁.checkouts args.repo = some (co.setTracking args.remote args.base c) := by
    rw [hfetched.refs.checkouts, setCheckout_same]
  have hstopped {out : Output} {w' : World} (hcode : out.code ≠ 0)
      (hbeside : Beside args.repo w₁ w') :
      (fastForwardToRemote args args.repo none out).provided A
        (fun r w' => SettledBase args w w' r) w' := by
    rw [fastForwardToRemote_failed hcode]
    apply SettledBase.beside hfetched hclean hbeside
    · intro settled hs
      obtain rfl := Except.ok.inj hs
      nofun
    · intro settled hs hon
      obtain rfl := Except.ok.inj hs
      cases hon
  rw [settle]
  apply git_provided
  · intro out w₂ hcode _ _ hsame
    have hbeside := hsame.beside args.repo
    by_cases hfallback : (!args.noWorktreeFallback) = true
    · rw [if_pos ⟨hcode, hfallback⟩]
      have hco₂ := hbeside.checkout.trans hco₁
      apply Program.provided_seq (createWorktreeFallbackClone_provided hco₂)
      · rintro found w₃ ⟨hbeside₃, hfound⟩
        cases found with
        | none => exact hstopped hcode (hbeside.trans hbeside₃)
        | some workdir =>
          obtain ⟨hne, clone, url', c', hcloned⟩ := hfound workdir rfl
          rw [hbeside.resolve, ← hfetched.tip] at hcloned
          exact settle_clone hfetched hclean (hbeside.trans hbeside₃) hne hcloned _
      · rintro e w₃ ⟨hbeside₃, _⟩
        exact SettledBase.beside hfetched hclean (hbeside.trans hbeside₃) nofun nofun
    · rw [if_neg fun h => hfallback h.2]
      exact hstopped hcode hbeside
  · intro out co' v w₂ hcode hco' hv hsame
    rw [if_neg (by simp [hcode])]
    obtain rfl := Option.some.inj (hco₁.symm.trans hco')
    have hhosted : w₁.hosted url args.base = some c := by
      rw [hfetched.refs.hosted]
      exact hfetched.remoteBase
    have hbehind (d : GitCommit) (hd : co.heads args.base = some d) : d ≤ c := by
      obtain ⟨url', c', hurl', hc', hle⟩ := hclean co d hfetched.checkout hd
      obtain rfl : url = url' := Option.some.inj (hfetched.remoteUrl.symm.trans hurl')
      obtain rfl : c = c' := Option.some.inj (hfetched.remoteBase.symm.trans hc')
      exact hle
    have hurl : (co.setTracking args.remote args.base c).url? args.remote = some url :=
      hfetched.remoteUrl
    have htracking := Checkout.setTracking_self co args.remote args.base c
    have hbranch (d : GitCommit) (hd : w₁.resolve (co.setTracking args.remote args.base c)
        (.named args.branch) = some d) : Accounted c (resolvedTip args w) d :=
      .inr ⟨d, by rw [hfetched.tip, hd], le_rfl⟩
    obtain ⟨d, co₂, rfl, hremotes, hheads, hon⟩ := OnBase.ofCheckout hurl hhosted
      htracking (fun d hd => .inl (hbehind d hd)) hbranch (fun d hd _ => hbehind d hd) hv
    apply Program.provided_mono (fastForwardToRemote_provided hcode none (hon.same hsame))
    rintro r w₃ ⟨onBase, rfl, d', hsame', hon', hforwarded⟩
    constructor
    case hosted => rw [hsame'.hosted]; exact hsame.hosted.trans hfetched.refs.hosted
    case evolves =>
      have h₁ := setCheckout_evolves hco₁ hremotes hheads
      have h₂ := (hsame.beside args.repo).evolves (· = args.base)
      have h₃ := setCheckout_evolves (w := w₂) (hon.same hsame).checkout
        (Checkout.setHead_remotes co₂ args.base d') fun _ h => Function.update_of_ne h ..
      exact ((((hfetched.evolves _).trans h₁).trans h₂).trans h₃).trans
        ((hsame'.beside args.repo).evolves _)
    case clean => exact hon'.clean
    case fallback =>
      intro settled hs
      obtain rfl := Except.ok.inj hs
      nofun
    case onBase =>
      intro settled hs honBase
      obtain rfl := Except.ok.inj hs
      exact ⟨_, _, _, _, hon', hforwarded honBase⟩

structure Merged (args : PromoteArgs) (tip : Option GitCommit) (place : String) (w w' : World)
    (co : Checkout) (remoteTip localTip c made : GitCommit) : Prop where
  refs : SameRefs (w.setCheckout place (co.setHead args.base c)) w'
  onTop : localTip ≤ c
  commits : ∀ d ≤ c, Accounted remoteTip tip d ∨ d = made

theorem applyStrategy_provided (plan : Plan)
    (h : OnBase args tip place w co url remoteTip localTip) :
    (applyStrategy args plan place).provided A (fun r w' => ∃ stopped, r = .ok stopped ∧
      (stopped ≠ none → SameRefs w w') ∧ (stopped = none → ∃ c made,
        Merged args tip place w w' co remoteTip localTip c made)) w := by
  have hfailed {out : Output} {w' : World} (hcode : out.code ≠ 0) (hsame : SameRefs w w') :
      ∃ stopped, (Except.ok (if out.code ≠ 0 then some 8 else none) : Except String (Option Nat)) =
          .ok stopped ∧ (stopped ≠ none → SameRefs w w') ∧ (stopped = none → ∃ c made,
        Merged args tip place w w' co remoteTip localTip c made) :=
    ⟨some 8, by rw [if_pos hcode], fun _ => hsame, nofun⟩
  have hmerged {out : Output} {w' : World} {c : GitCommit} (hcode : out.code = 0)
      (made : GitCommit) (hmerge : Merged args tip place w w' co remoteTip localTip c made) :
      ∃ stopped, (Except.ok (if out.code ≠ 0 then some 8 else none) : Except String (Option Nat)) =
          .ok stopped ∧ (stopped ≠ none → SameRefs w w') ∧ (stopped = none → ∃ c made,
        Merged args tip place w w' co remoteTip localTip c made) :=
    ⟨none, by rw [if_neg (by simp [hcode])], fun h => absurd rfl h, fun _ => ⟨c, made, hmerge⟩⟩
  have hnoFf (message : String) :
      ((git (.mergeNoFf message (.named args.branch)) place).bind fun out =>
        (.ret (if out.code ≠ 0 then some 8 else none) : Prog (Option Nat))).provided A
        (fun r w' => ∃ stopped, r = .ok stopped ∧ (stopped ≠ none → SameRefs w w') ∧
          (stopped = none → ∃ c made, Merged args tip place w w' co remoteTip localTip c made)) w := by
    apply git_provided
    · intro out w' hcode _ _ hsame
      exact hfailed hcode hsame
    · intro out co' v w' hcode hco' hv hsame
      obtain rfl : co = co' := Option.some.inj (h.checkout.symm.trans hco')
      obtain ⟨b, t, c, hb, ht, rfl, hc⟩ := Git.apply_mergeNoFf hv h.head
      obtain rfl : localTip = t := Option.some.inj (h.localBase.symm.trans ht)
      rcases hc with ⟨rfl, _⟩ | ⟨body, rfl⟩
      · exact hmerged hcode c ⟨hsame, le_rfl, fun d hd => .inl (h.accounted.of_le hd)⟩
      · apply hmerged hcode (.mk body [localTip, b])
        refine ⟨hsame, Commit.parent_le_mk mem_cons_self, ?_⟩
        intro d hd
        rcases Commit.le_mk.mp hd with rfl | ⟨p, hp, hle⟩
        · exact .inr rfl
        · left
          rcases mem_pair.mp hp with rfl | rfl
          · exact h.accounted.of_le hle
          · exact (h.branch p hb).of_le hle
  rw [applyStrategy]
  cases plan.strategy with
  | fastForward =>
    apply git_provided
    · intro out w' hcode _ _ hsame
      exact hfailed hcode hsame
    · intro out co' v w' hcode hco' hv hsame
      obtain rfl : co = co' := Option.some.inj (h.checkout.symm.trans hco')
      obtain ⟨b, t, c, hb, ht, rfl, hc⟩ := Git.apply_mergeFfOnly hv h.head
      obtain rfl : localTip = t := Option.some.inj (h.localBase.symm.trans ht)
      rcases hc with ⟨rfl, _⟩ | ⟨rfl, hle⟩
      · exact hmerged hcode c ⟨hsame, le_rfl, fun d hd => .inl (h.accounted.of_le hd)⟩
      · exact hmerged hcode c ⟨hsame, hle, fun d hd => .inl ((h.branch c hb).of_le hd)⟩
  | squash =>
    apply quiet_provided rfl
    intro squashOut w₁ hsame₁
    split
    · exact ⟨some 7, rfl, fun _ => hsame₁, nofun⟩
    have h₁ := h.same hsame₁
    apply git_provided
    · intro out w' hcode _ _ hsame
      exact hfailed hcode (hsame₁.trans hsame)
    · intro out co' v w' hcode hco' hv hsame
      obtain rfl : co = co' := Option.some.inj (h₁.checkout.symm.trans hco')
      obtain ⟨t, body, ht, rfl⟩ := Git.apply_commit hv h.head
      obtain rfl : localTip = t := Option.some.inj (h.localBase.symm.trans ht)
      apply hmerged (c := .mk body [localTip]) hcode (.mk body [localTip])
      refine ⟨?_, Commit.parent_le_mk (mem_singleton_self _), ?_⟩
      · apply SameRefs.trans ?_ hsame
        exact ⟨by rw [World.setCheckout, World.setCheckout, hsame₁.checkouts], hsame₁.hosted,
          hsame₁.names⟩
      · intro d hd
        rcases Commit.le_mk.mp hd with rfl | ⟨p, hp, hle⟩
        · exact .inr rfl
        · obtain rfl := mem_singleton.mp hp
          exact .inl (h.accounted.of_le hle)
  | mergeCommit => exact hnoFf _
  | followUpDispatch => exact hnoFf _

def World.ahead (w : World) (args : PromoteArgs) : Bool :=
  (w.checkouts args.repo).any fun co => (co.heads args.base).any fun tip =>
    !(co.tracking (remoteRef args.remote args.base)).any (tip ≤ ·)

def smokePasses (args : PromoteArgs) (w : World) : Bool :=
  let out := w.env.smoke w.step
  let classification := classifySmokeFailures (out.stdout ++ "\n" ++ out.stderr) args.smokeExempt
  let diffOut := Git.answer (.diffNames (.tracking args.remote args.base) (.named args.branch))
    args.repo { w with step := w.step + 1 }
  let diff := if !args.strictSmoke ∧ classification.nonExempt ≠ [] then some diffOut else none
  out.code = 0 || (redGate classification out.code diff).isSome

/-- A statement does not stop a promotion in the call's own checkout while the local base there has a
commit that the remote base lacks: neither a red smoke command nor a rejected push. -/
def Unstopped (args : PromoteArgs) : Stmt → World → Prop
  | .exec _ cwd, w => cwd = args.repo → w.ahead args = true → smokePasses args w = true
  | .git (.push ..) cwd, w => cwd = args.repo → w.ahead args = true → w.env.fails w.step = none
  | _, _ => True

instance (args : PromoteArgs) (c : Stmt) (w : World) : Decidable (Unstopped args c w) :=
  match c with
  | .exec _ cwd => inferInstanceAs (Decidable (cwd = _ → _ = true → _ = true))
  | .git (.push _ _) cwd =>
    match h : w.env.fails w.step with
    | none => isTrue fun _ _ => h
    | some f => decidable_of_iff (¬ (cwd = args.repo ∧ w.ahead args = true)) (by simp [Unstopped, h])
  | .git (.status) _ | .git (.fetch ..) _ | .git (.revParse _) _ | .git (.revListCount ..) _
  | .git (.log ..) _ | .git (.checkout _) _ | .git (.mergeFfOnly _) _ | .git (.mergeSquash _) _
  | .git (.commit _) _ | .git (.mergeNoFf ..) _ | .git (.diffNames ..) _ | .git (.configUrl _) _
  | .git (.clone ..) _ | .git (.remoteSetUrl ..) _ | .git (.remoteAdd ..) _
  | .git (.branchForce ..) _ | .git (.fetchBranch ..) _ | .scratchPath _ | .rmSync _ => isTrue trivial

theorem smokeGate_provided (args : PromoteArgs) (w : World) :
    (smokeGate args (w.env.smoke w.step) (git (.diffNames (.tracking args.remote args.base)
      (.named args.branch)) args.repo)).provided A (fun r w' => ∃ annotation, r = .ok annotation ∧
        SameRefs w w' ∧ annotation.isSome = smokePasses args w) { w with step := w.step + 1 } := by
  rw [smokeGate, smokePasses]
  by_cases hcode : (w.env.smoke w.step).code = 0
  · rw [if_neg (by simp [hcode])]
    exact ⟨_, rfl, ⟨rfl, rfl, rfl⟩, by simp [hcode]⟩
  · rw [if_pos hcode]
    dsimp only
    split
    case isTrue hdiff =>
      intro _
      have hsame := quiet_effect (c := .diffNames (.tracking args.remote args.base)
        (.named args.branch)) rfl args.repo { w with step := w.step + 1 }
      refine ⟨_, rfl, ⟨hsame.checkouts, hsame.hosted, hsame.names⟩, ?_⟩
      rw [decide_eq_false hcode, Bool.false_or]
      rfl
    case isFalse hdiff =>
      refine ⟨_, rfl, ⟨rfl, rfl, rfl⟩, ?_⟩
      rw [decide_eq_false hcode, Bool.false_or]

theorem smokeStep_provided (args : PromoteArgs) (place : String) (w : World) :
    (smokeStep args place).provided (Unstopped args) (fun r w' => ∃ x, r = .ok x ∧ SameRefs w w' ∧
      ∀ exit, x = .error exit → place = args.repo → w.ahead args = false) w := by
  rw [smokeStep]
  cases args.smoke.filter (· ≠ "") with
  | none => exact ⟨_, rfl, .refl w, nofun⟩
  | some smoke =>
    intro hunstopped
    apply Program.provided_then (smokeGate_provided args w)
    rintro annotation w₁ ⟨hsame, hpasses⟩
    cases annotation with
    | some annotation => exact ⟨_, rfl, hsame, nofun⟩
    | none =>
      refine ⟨_, rfl, hsame, ?_⟩
      intro _ _ hplace
      by_contra hahead
      have hpass := hunstopped hplace (by simpa using hahead)
      rw [hpass] at hpasses
      cases hpasses

def pushed : Except String Outcome → Bool
  | .ok outcome => outcome.result.any (·.pushed)
  | .error _ => false

def World.localBase (w : World) (repo base : String) : Option GitCommit :=
  (w.checkouts repo).bind fun co => co.heads base

def Gains (base : String) (tip : Option GitCommit) (branch : String)
    (before after : Option GitCommit) : Prop :=
  after = before ∨ branch = base ∧ ∃ old new made, before = some old ∧ after = some new ∧
    ∀ c ≤ new, c ≤ old ∨ (∃ t, tip = some t ∧ c ≤ t) ∨ c = made

/-- What a call leaves behind when its base had been settled in `w`. -/
structure Landed (args : PromoteArgs) (tip : Option GitCommit) (w w' : World)
    (r : Except String Outcome) : Prop where
  published : ∀ url branch,
    Gains args.base tip branch (w.hosted url branch) (w'.hosted url branch)
  evolves : Evolves args.repo (· = args.base) w w'
  clean : Clean args.repo args.remote args.base w'
  kept : pushed r = false → w'.localBase args.repo args.base = w.localBase args.repo args.base

theorem Landed.beside (h : Landed args tip w w' r) (hbeside : Beside args.repo w' w'')
    (hpushed : pushed r' = pushed r) : Landed args tip w w'' r' where
  published url branch := by
    rw [hbeside.hosted]
    exact h.published url branch
  evolves := h.evolves.trans (hbeside.evolves _)
  clean := h.clean.evolves (hbeside.evolves fun _ => False) id
  kept hr := by
    rw [World.localBase, hbeside.checkout]
    exact h.kept (hpushed ▸ hr)

theorem Landed.ofBeside (hclean : Clean args.repo args.remote args.base w)
    (h : Beside args.repo w w') : Landed args tip w w' r where
  published url branch := .inl (by rw [h.hosted])
  evolves := h.evolves _
  clean := hclean.evolves (h.evolves fun _ => False) id
  kept _ := by rw [World.localBase, World.localBase, h.checkout]

theorem host_evolves (h : w.hosted url base = some old) (hle : old ≤ new)
    (repo : String) (free : String → Prop) : Evolves repo free w (w.host url base new) where
  checkout co hco := ⟨co, hco, rfl, fun _ _ => rfl⟩
  hosted url' branch c hc := by
    by_cases hurl : url' = url
    · subst hurl
      by_cases hbranch : branch = base
      · subst hbranch
        obtain rfl : old = c := Option.some.inj (h.symm.trans hc)
        exact ⟨new, by simp [World.host], hle⟩
      · exact ⟨c, by simpa [World.host, hbranch] using hc, le_rfl⟩
    · exact ⟨c, by simpa [World.host, hurl] using hc, le_rfl⟩

theorem placed_evolves (repo : String) (hco : w.checkouts place = some co)
    (hremotes : co'.remotes = co.remotes)
    (hheads : ∀ branch, branch ≠ base → co'.heads branch = co.heads branch) :
    Evolves repo (· = base) w (w.setCheckout place co') := by
  by_cases hplace : place = repo
  · subst hplace
    exact setCheckout_evolves hco hremotes hheads
  · exact (Beside.setCheckout hplace w co').evolves _

section Landing
variable {args : PromoteArgs} {tip : Option GitCommit} {place : String} {w w₁ : World}
  {co : Checkout} {url : String} {remoteTip localTip c made : GitCommit}

theorem Landed.stopped (h : OnBase args tip place w co url remoteTip localTip)
    (hforwarded : place = args.repo → localTip = remoteTip)
    (hclean : Clean args.repo args.remote args.base w)
    (hmerged : Merged args tip place w w₁ co remoteTip localTip c made)
    (hahead : place = args.repo → w₁.ahead args = false) : Landed args tip w w₁ r := by
  by_cases hplace : place = args.repo
  · -- the tracking branch has the new tip, which has the old one, which the fast-forward made equal
    obtain rfl : c = localTip := by
      apply le_antisymm ?_ hmerged.onTop
      rw [hforwarded hplace]
      have hno := hahead hplace
      subst hplace
      rw [World.ahead, hmerged.refs.checkouts, setCheckout_same] at hno
      simpa [h.tracking] using hno
    have hsame : SameRefs w w₁ := by
      have hrefs := hmerged.refs
      rw [Checkout.setHead_self h.localBase, setCheckout_self h.checkout] at hrefs
      exact hrefs
    exact .ofBeside hclean (hsame.beside args.repo)
  · exact .ofBeside hclean ((Beside.setCheckout hplace w _).trans (hmerged.refs.beside args.repo))

theorem Landed.pushed (h : OnBase args tip place w co url remoteTip localTip)
    (hclean : Clean args.repo args.remote args.base w)
    (hmerged : Merged args tip place w w₁ co remoteTip localTip c made)
    (hv : (Git.push args.remote args.base).apply place co₁ w₁ = some v)
    (hco₁ : w₁.checkouts place = some co₁) (hr : Promotion.pushed r = true) :
    Landed args tip w v r := by
  have hco : co.setHead args.base c = co₁ := by
    rw [hmerged.refs.checkouts, setCheckout_same] at hco₁
    exact Option.some.inj hco₁
  subst hco
  obtain ⟨url', t, hurl, ht, hle, rfl⟩ := Git.apply_push hv
  obtain rfl : url = url' := Option.some.inj (h.remoteUrl.symm.trans hurl)
  obtain rfl : c = t := by
    rw [Checkout.setHead_heads, Function.update_self] at ht
    exact Option.some.inj ht
  have hold : w₁.hosted url args.base = some remoteTip := by
    rw [hmerged.refs.hosted]
    exact h.remoteBase
  have hhosted : Evolves args.repo (· = args.base) w₁ (w₁.host url args.base c) :=
    host_evolves hold (hle _ hold) ..
  have hmoved : Evolves args.repo (· = args.base) w w₁ :=
    (placed_evolves args.repo h.checkout (Checkout.setHead_remotes co args.base c)
      fun _ hne => Function.update_of_ne hne ..).trans ((hmerged.refs.beside args.repo).evolves _)
  have htracked : Evolves args.repo (· = args.base) (w₁.host url args.base c)
      ((w₁.host url args.base c).setCheckout place
        ((co.setHead args.base c).setTracking args.remote args.base c)) :=
    placed_evolves args.repo hco₁ (Checkout.setTracking_remotes _ args.remote args.base c)
      fun _ _ => rfl
  constructor
  case published =>
    intro url' branch
    have hbefore : w₁.hosted = w.hosted := hmerged.refs.hosted
    by_cases hkey : url' = url ∧ branch = args.base
    · obtain ⟨rfl, rfl⟩ := hkey
      refine .inr ⟨rfl, remoteTip, c, made, h.remoteBase, ?_, ?_⟩
      · simp [World.host, World.setCheckout]
      · intro d hd
        rcases hmerged.commits d hd with (hd | hd) | hd
        · exact .inl hd
        · exact .inr (.inl hd)
        · exact .inr (.inr hd)
    · left
      by_cases hurl' : url' = url
      · subst hurl'
        have hbranch : branch ≠ args.base := fun hb => hkey ⟨rfl, hb⟩
        simp [World.host, World.setCheckout, hbranch, hbefore]
      · simp [World.host, World.setCheckout, hurl', hbefore]
  case evolves => exact (hmoved.trans hhosted).trans htracked
  case clean =>
    intro co' tip' hco' htip'
    by_cases hplace : place = args.repo
    · subst hplace
      rw [setCheckout_same] at hco'
      obtain rfl := Option.some.inj hco'
      obtain rfl : c = tip' := by
        rw [Checkout.setTracking_heads, Checkout.setHead_heads, Function.update_self] at htip'
        exact Option.some.inj htip'
      exact ⟨url, c, h.remoteUrl, by simp [World.host, World.setCheckout], le_rfl⟩
    · have hbeside := (Beside.setCheckout hplace w _).trans (hmerged.refs.beside args.repo)
      have hclean₁ := hclean.evolves (hbeside.evolves fun _ => False) id
      have hfar := (host_evolves hold (hle _ hold) args.repo fun _ => False).trans
        ((Beside.setCheckout hplace (w₁.host url args.base c)
          ((co.setHead args.base c).setTracking args.remote args.base c)).evolves _)
      exact hclean₁.evolves hfar id co' tip' hco' htip'
  case kept =>
    intro hno
    rw [hr] at hno
    cases hno

theorem push_accepted (h : OnBase args tip place w co url remoteTip localTip)
    (hmerged : Merged args tip place w w₁ co remoteTip localTip c made) (hle : remoteTip ≤ c)
    (hfails : w₁.env.fails w₁.step = none) :
    (Git.push args.remote args.base).outcome place w₁ ≠ none := by
  have hco : w₁.checkouts place = some (co.setHead args.base c) := by
    rw [hmerged.refs.checkouts, setCheckout_same]
  have hurl : (co.setHead args.base c).url? args.remote = some url := h.remoteUrl
  have hold : w₁.hosted url args.base = some remoteTip := by
    rw [hmerged.refs.hosted]
    exact h.remoteBase
  simp [Git.outcome, hfails, hco, Git.apply, Git.pushBase, hurl, hold, hle]

theorem pushAndVerify_provided (plan : Plan) (sha : String) (smoke : Option SmokeAnnotation)
    (h : OnBase args tip settled.execRepo w co url remoteTip localTip)
    (hforwarded : settled.execRepo = args.repo → localTip = remoteTip)
    (hclean : Clean args.repo args.remote args.base w)
    (hmerged : Merged args tip settled.execRepo w w₁ co remoteTip localTip c made) :
    (pushAndVerify args plan settled sha smoke).provided (Unstopped args)
      (fun r w' => Landed args tip w w' r) w₁ := by
  rw [pushAndVerify]
  apply git_provided
  · intro out w₂ hcode hunstopped hout hsame
    rw [if_pos hcode]
    have hahead (hplace : settled.execRepo = args.repo) : w₁.ahead args = false := by
      by_contra hahead
      have hfails := hunstopped hplace (by simpa using hahead)
      have hle : remoteTip ≤ c := hforwarded hplace ▸ hmerged.onTop
      exact push_accepted h hmerged hle hfails hout
    have hstopped := Landed.stopped (r := .ok { exit := 11 }) h hforwarded hclean hmerged hahead
    exact hstopped.beside (hsame.beside args.repo) rfl
  · intro out co₁ v w₂ hcode hco₁ hv hsame
    rw [if_neg (by simp [hcode])]
    apply quiet_provided rfl
    intro remoteOut w₃ hsame₃
    refine Landed.beside (Landed.pushed h hclean hmerged hv hco₁ ?_)
      ((hsame.trans hsame₃).beside args.repo) rfl
    rfl

theorem land_provided (plan : Plan)
    (h : OnBase args tip settled.execRepo w co url remoteTip localTip)
    (hforwarded : settled.execRepo = args.repo → localTip = remoteTip)
    (hclean : Clean args.repo args.remote args.base w) :
    (land args plan settled).provided (Unstopped args) (fun r w' => Landed args tip w w' r) w := by
  rw [land]
  apply Program.provided_then (applyStrategy_provided plan h)
  rintro stopped w₁ ⟨hstop, hmerge⟩
  cases stopped with
  | some exit => exact .ofBeside hclean ((hstop nofun).beside args.repo)
  | none =>
    obtain ⟨c, made, hmerged⟩ := hmerge rfl
    apply quiet_provided rfl
    intro shaOut w₂ hsame₂
    apply Program.provided_then (smokeStep_provided args settled.execRepo w₂)
    rintro x w₃ ⟨hsame₃, hred⟩
    have hmerged₃ : Merged args tip settled.execRepo w w₃ co remoteTip localTip c made :=
      { hmerged with refs := (hmerged.refs.trans hsame₂).trans hsame₃ }
    cases x with
    | error exit =>
      apply Landed.stopped h hforwarded hclean hmerged₃
      intro hplace
      rw [World.ahead, hsame₃.checkouts]
      exact hred exit rfl hplace
    | ok smoke => exact pushAndVerify_provided plan _ smoke h hforwarded hclean hmerged₃

end Landing

theorem removeFallback_provided (h : ∀ f ∈ fallback, f.workdir ≠ repo) (w : World) :
    (removeFallback fallback).provided A (fun r w' => ∃ u, r = .ok u ∧ Beside repo w w') w := by
  cases fallback with
  | none => exact ⟨(), rfl, .refl repo w⟩
  | some fallback =>
    intro _
    refine ⟨(), rfl, ?_⟩
    change Beside repo w (Stmt.effect (.rmSync fallback.workdir) w)
    rw [Stmt.effect, Stmt.refs]
    by_cases hfails : w.env.rmFails w.step
    · rw [if_pos hfails]
      exact ⟨rfl, rfl, rfl⟩
    · rw [if_neg hfails]
      exact ⟨Function.update_of_ne (h fallback rfl).symm .., rfl, rfl⟩

def prepared (args : PromoteArgs) (w : World) : World := ((prepare args).run w).2

def promoted (args : PromoteArgs) (w : World) : World := ((runPromoteToMain args).run w).2

def outcomeOf (args : PromoteArgs) (w : World) : Except String Outcome :=
  ((runPromoteToMain args).run w).1

/-- A call lands exactly its branch: it adds to the remote base what the tip reaches that it resolved
and one commit more at most, and where it does not push it leaves the local base where the
fast-forward put it. -/
structure LandsExactly (args : PromoteArgs) (w : World) : Prop where
  published : ∀ url branch, Gains args.base (resolvedTip args w) branch (w.hosted url branch)
    ((promoted args w).hosted url branch)
  kept : pushed (outcomeOf args w) = false →
    (promoted args w).localBase args.repo args.base =
      (prepared args w).localBase args.repo args.base

theorem prepare_provided (hexecute : args.execute = true)
    (hclean : Clean args.repo args.remote args.base w) :
    (prepare args).provided A (fun r w' => ∃ settled, SettledBase args w w' settled ∧
      ∀ plan s, r = .ok (.ok (plan, s)) → settled = .ok s) w := by
  apply Program.provided_then (preflight_provided hexecute w)
  rintro x w₁ ⟨hhosted, hev, hfetched⟩
  cases x with
  | error outcome =>
    refine ⟨.error "", ?_, nofun⟩
    have hclean₁ := hclean.evolves hev id
    exact ⟨hhosted, ⟨fun co hco => by
      obtain ⟨co₀, hco₀, hremotes, hheads⟩ := hev.checkout co hco
      exact ⟨co₀, hco₀, hremotes, fun branch _ => hheads branch id⟩, hev.hosted⟩, hclean₁,
      nofun, nofun⟩
  | ok plan =>
    obtain ⟨co, url, c, hfetched⟩ := hfetched plan rfl
    apply Program.provided_seq (settle_provided hfetched hclean)
    · intro settled w₂ hsettled
      exact ⟨.ok settled, hsettled, fun _ _ hs => by cases hs; rfl⟩
    · intro e w₂ hsettled
      exact ⟨.error e, hsettled, nofun⟩

theorem finish_provided (plan : Plan) (h : SettledBase args w w₁ (.ok settled)) :
    (finish args (.ok (plan, settled))).provided (Unstopped args)
      (fun r w' => Landed args (resolvedTip args w) w₁ w' r) w₁ := by
  have hremove (outcome : Outcome) {w₂ : World}
      (hlanded : Landed args (resolvedTip args w) w₁ w₂ (.ok outcome)) :
      ((removeFallback settled.worktreeFallback).bind fun _ =>
        (.ret outcome : Prog Outcome)).provided (Unstopped args)
        (fun r w' => Landed args (resolvedTip args w) w₁ w' r) w₂ := by
    apply Program.provided_then (removeFallback_provided (h.fallback settled rfl) w₂)
    intro _ w₃ hbeside
    exact hlanded.beside hbeside rfl
  rw [finish]
  cases hon : settled.onBase with
  | true =>
    obtain ⟨co, url, remoteTip, localTip, hbase, hforwarded⟩ := h.onBase settled rfl hon
    exact Program.provided_seq (land_provided plan hbase hforwarded h.clean)
      (fun outcome _ => hremove outcome) fun _ _ hlanded => hlanded
  | false => exact hremove { exit := 7 } (.ofBeside h.clean (.refl args.repo w₁))

theorem call_lands (hexecute : args.execute = true)
    (hclean : Clean args.repo args.remote args.base w)
    (hsteps : ∀ e ∈ (runPromoteToMain args).trace w, Unstopped args e.stmt e.before) :
    LandsExactly args w ∧ Evolves args.repo (· = args.base) w (promoted args w) ∧
      Clean args.repo args.remote args.base (promoted args w) := by
  have htrace := Program.trace_bind (prepare args) (finish args) w
  have hrun := Program.run_bind (prepare args) (finish args) w
  change (runPromoteToMain args).trace w = _ at htrace
  change (runPromoteToMain args).run w = _ at hrun
  rw [htrace] at hsteps
  have hprepare : (prepare args).provided (Unstopped args) _ w := prepare_provided hexecute hclean
  obtain ⟨settled, hsettled, hon⟩ := Program.provided_sound hprepare
    fun e he => hsteps e (mem_append_left _ he)
  have hlanded : Landed args (resolvedTip args w) (prepared args w) (promoted args w)
      (outcomeOf args w) := by
    have hstays {r : Except String Outcome} : Landed args (resolvedTip args w) (prepared args w)
        (prepared args w) r := .ofBeside hsettled.clean (.refl args.repo _)
    rw [promoted, outcomeOf, hrun]
    rw [prepared] at hstays ⊢
    cases hprep : (prepare args).run w with
    | mk r w₁ =>
      rw [hprep] at hstays hsettled hsteps hon
      cases r with
      | error e => exact hstays
      | ok x =>
        cases x with
        | error outcome => exact hstays
        | ok pair =>
          obtain ⟨plan, s⟩ := pair
          obtain rfl := hon plan s rfl
          exact Program.provided_sound (finish_provided plan hsettled)
            fun e he => hsteps e (mem_append_right _ he)
  have hhosted : (prepared args w).hosted = w.hosted := hsettled.hosted
  refine ⟨⟨?_, hlanded.kept⟩, hsettled.evolves.trans hlanded.evolves, hlanded.clean⟩
  intro url branch
  rw [← hhosted]
  exact hlanded.published url branch

structure Call where
  args : PromoteArgs
  start : World

/-- Calls in execute mode on one checkout, one after another. Between two of them others may do what
they want, but that they do not commit to a base of these calls and take nothing from a remote. -/
structure PromotionRun where
  repo : String
  calls : List Call
  promotes : ∀ call ∈ calls, call.args.repo = repo ∧ call.args.execute = true
  consecutive : ∀ (n : Nat) call next, calls[n]? = some call → calls[n + 1]? = some next →
    Evolves repo (fun branch => ∀ c ∈ calls, c.args.base ≠ branch)
      (promoted call.args call.start) next.start

namespace PromotionRun

variable (run : PromotionRun)

def LandExactly : Prop :=
  ∀ call ∈ run.calls, LandsExactly call.args call.start

def CleanAt (w : World) : Prop :=
  ∀ call ∈ run.calls, Clean run.repo call.args.remote call.args.base w

def OneRemote : Prop :=
  ∀ call ∈ run.calls, ∀ other ∈ run.calls, call.args.base = other.args.base →
    call.args.remote = other.args.remote

def NeverStopped : Prop :=
  ∀ call ∈ run.calls, ∀ e ∈ (runPromoteToMain call.args).trace call.start,
    Unstopped call.args e.stmt e.before

theorem clean_step {run : PromotionRun} (hone : run.OneRemote) (hstops : run.NeverStopped)
    (hcall : call ∈ run.calls) (hclean : run.CleanAt call.start) :
    LandsExactly call.args call.start ∧ run.CleanAt (promoted call.args call.start) := by
  obtain ⟨hrepo, hexecute⟩ := run.promotes call hcall
  have hown := hclean call hcall
  rw [← hrepo] at hown
  obtain ⟨hlands, hev, hafter⟩ := call_lands hexecute hown (hstops call hcall)
  refine ⟨hlands, ?_⟩
  intro other hother
  by_cases hbase : other.args.base = call.args.base
  · rw [hbase, hone other hother call hcall hbase, ← hrepo]
    exact hafter
  · have hother' := hclean other hother
    rw [← hrepo] at hother' ⊢
    exact hother'.evolves hev hbase

theorem clean_at {run : PromotionRun} (hone : run.OneRemote) (hstops : run.NeverStopped)
    (hstart : ∀ call, run.calls[0]? = some call → run.CleanAt call.start) (n : Nat) :
    ∀ call, run.calls[n]? = some call → run.CleanAt call.start := by
  induction n with
  | zero => exact hstart
  | succ n ih =>
    intro next hnext
    obtain ⟨call, hcall⟩ : ∃ call, run.calls[n]? = some call := by
      have hlt := (List.getElem?_eq_some_iff.mp hnext).1
      exact ⟨_, List.getElem?_eq_getElem (by omega)⟩
    have hafter := (clean_step hone hstops (mem_of_getElem? hcall) (ih call hcall)).2
    intro other hother
    apply (hafter other hother).evolves (run.consecutive n call next hcall hnext)
    intro hfree
    exact hfree other hother rfl

end PromotionRun

/-- In a run that starts with clean bases, each promoted to one remote, and in which no call is
stopped while its local base is ahead of the remote, every call lands exactly its branch. -/
theorem lands_exactly (run : PromotionRun)
    (hstart : ∀ call, run.calls[0]? = some call → run.CleanAt call.start)
    (hone : run.OneRemote) (hstops : run.NeverStopped) : run.LandExactly := by
  intro call hcall
  obtain ⟨n, hn⟩ := mem_iff_getElem?.mp hcall
  exact (PromotionRun.clean_step hone hstops hcall
    (PromotionRun.clean_at hone hstops hstart n call hn)).1

def initial : GitCommit := .mk ⟨"r", "initial"⟩ []

def topic (branch : String) : GitCommit := .mk ⟨branch, "topic " ++ branch⟩ [initial]

def twoTopics : Checkout where
  head := some "main"
  heads branch :=
    if branch = "main" then some initial
    else if branch = "a" ∨ branch = "b" then some (topic branch)
    else none
  tracking _ := none
  remotes := [("origin", "ssh://origin")]

def smokeOnly (smoke : Nat → Output) : Environment where
  fails _ := none
  stderr _ := ""
  status _ := ""
  log _ := ""
  diff _ := ""
  smoke := smoke
  tree step := "tree at " ++ toString step
  sha
    | .mk body _ => body.tree
  scratchPath _ name := .ok ("/scratch/" ++ name)
  rmFails _ := false

def atStart (env : Environment) : World where
  checkouts path := if path = "/repo" then some twoTopics else none
  hosted url branch := if url = "ssh://origin" ∧ branch = "main" then some initial else none
  names _ := none
  step := 0
  env := env

def mergeOf (branch : String) : PromoteArgs where
  repo := "/repo"
  branch := branch
  base := "main"
  remote := "origin"
  strategy := .mergeCommit
  dispatchId := none
  agent := none
  smoke := some "npm test"
  smokeExempt := []
  execute := true
  allowOwnDirty := []
  strictSmoke := false
  noWorktreeFallback := false

def bothTopics (env : Environment) : PromotionRun where
  repo := "/repo"
  calls := [⟨mergeOf "a", atStart env⟩, ⟨mergeOf "b", promoted (mergeOf "a") (atStart env)⟩]
  promotes call hcall := by
    rcases List.mem_pair.mp hcall with rfl | rfl
    · exact ⟨rfl, rfl⟩
    · exact ⟨rfl, rfl⟩
  consecutive n call next hcall hnext := by
    cases n with
    | zero =>
      obtain rfl := Option.some.inj hcall
      obtain rfl := Option.some.inj hnext
      exact .refl ..
    | succ n => cases n <;> cases hnext

def green : Environment := smokeOnly fun _ => ⟨"", "", 0⟩

theorem lands_exactly_bothTopics : (bothTopics green).LandExactly := by
  apply lands_exactly (bothTopics green)
  · intro call hcall
    obtain rfl := Option.some.inj hcall
    have hclean : Clean "/repo" "origin" "main" (atStart green) := by
      intro co tip hco htip
      obtain rfl := Option.some.inj hco
      obtain rfl := Option.some.inj htip
      exact ⟨"ssh://origin", initial, rfl, rfl, le_rfl⟩
    intro other hother
    rcases mem_pair.mp hother with rfl | rfl
    · exact hclean
    · exact hclean
  · intro call hcall other hother _
    rcases mem_pair.mp hcall with rfl | rfl <;>
      rcases mem_pair.mp hother with rfl | rfl <;> rfl
  · intro call hcall
    rcases mem_pair.mp hcall with rfl | rfl
    · decide +kernel
    · decide +kernel

def redFirst : Environment := smokeOnly fun step => ⟨"", "", if step < 13 then 1 else 0⟩

/-- The first call is aborted, and the second publishes the first branch with its own. -/
theorem not_lands_exactly : ¬ ∀ run : PromotionRun, run.LandExactly := by
  intro h
  have hlands : LandsExactly (mergeOf "b") (promoted (mergeOf "a") (atStart redFirst)) :=
    h (bothTopics redFirst) ⟨_, _⟩ (mem_cons_of_mem _ (mem_singleton_self _))
  have hbefore : (promoted (mergeOf "a") (atStart redFirst)).hosted "ssh://origin" "main" =
      some initial := by decide +kernel
  have htip : resolvedTip (mergeOf "b") (promoted (mergeOf "a") (atStart redFirst)) =
      some (topic "b") := by decide +kernel
  have hafter : ∃ c ∈ (promoted (mergeOf "b") (promoted (mergeOf "a") (atStart redFirst))).hosted
      "ssh://origin" "main", topic "a" ≤ c ∧
        .mk ⟨"tree at 10", "Merge a into main"⟩ [initial, topic "a"] ≤ c := by
    decide +kernel
  have hgains := hlands.published "ssh://origin" "main"
  rw [hbefore, htip] at hgains
  generalize (promoted (mergeOf "b") (promoted (mergeOf "a") (atStart redFirst))).hosted
    "ssh://origin" "main" = final at hafter hgains
  obtain ⟨c, rfl, hpublished, hmerge⟩ := hafter
  rcases hgains with hsame | ⟨_, old, new, made, hold, hnew, hall⟩
  · obtain rfl := Option.some.inj hsame
    exact absurd hpublished (by decide)
  · obtain rfl := Option.some.inj hold
    obtain rfl := Option.some.inj hnew
    -- two commits are new that the second branch does not reach
    have hmade {d : GitCommit} (hd : d ≤ c) (hnot : ¬ d ≤ initial ∧ ¬ d ≤ topic "b") : d = made := by
      rcases hall d hd with hd | ⟨t, ht, hd⟩ | hd
      · exact absurd hd hnot.1
      · obtain rfl := Option.some.inj ht
        exact absurd hd hnot.2
      · exact hd
    have hfirst := hmade hpublished (by decide)
    have hsecond := hmade hmerge (by decide)
    exact absurd (hfirst.trans hsecond.symm) (by decide)

/-- No hosted branch is gone, or without a commit that it had. -/
def World.Publishes (w w' : World) : Prop :=
  ∀ url branch c, w.hosted url branch = some c → ∃ c', w'.hosted url branch = some c' ∧ c ≤ c'

theorem apply_publishes {c : Git} (h : c.apply cwd co w = some v) : w.Publishes v := by
  cases c with
  | push remote base =>
    obtain ⟨url, tip, _, _, hle, rfl⟩ := Git.apply_push h
    intro url' branch c hc
    simp only [World.setCheckout, World.host, Function.update_apply]
    grind
  | _ =>
    have hsame : v.hosted = w.hosted := by
      simp only [Git.apply, Option.bind_eq_bind, Option.bind_eq_some_iff,
        Option.map_eq_some_iff] at h
      grind [World.setCheckout]
    exact fun url branch c hc => ⟨c, hsame ▸ hc, le_rfl⟩

theorem effect_publishes (c : Stmt) (w : World) : w.Publishes (c.effect w) := by
  have hstays : w.Publishes w := fun _ _ c hc => ⟨c, hc, le_rfl⟩
  cases c with
  | git c cwd =>
    rw [Stmt.effect, Stmt.refs]
    cases hout : c.outcome cwd w with
    | none => exact hstays
    | some v =>
      obtain ⟨_, co, _, hv⟩ := Git.outcome_eq_some.mp hout
      have hpublishes := apply_publishes hv
      exact hpublishes
  | rmSync path =>
    rw [Stmt.effect, Stmt.refs]
    split <;> exact hstays
  | _ => exact hstays

end IdAgents.Promotion
