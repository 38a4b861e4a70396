import IdAgents.Library.Provided
import IdAgents.Promotion.Git

namespace IdAgents.Promotion
open JsText AtomicProgram Option Stmt Function Checkout

structure SameRefs (w w' : World) : Prop where
  checkouts : w'.checkouts = w.checkouts
  hosted : w'.hosted = w.hosted
  names : w'.names = w.names

theorem SameRefs.refl (w : World) : SameRefs w w := ⟨rfl, rfl, rfl⟩

theorem SameRefs.trans (h : SameRefs w w') (h' : SameRefs w' w'') : SameRefs w w'' where
  checkouts := h'.checkouts.trans h.checkouts
  hosted := h'.hosted.trans h.hosted
  names := h'.names.trans h.names

theorem SameRefs.resolve (h : SameRefs w w') (co : Checkout) (rev : Rev) :
    w'.resolve co rev = w.resolve co rev := by
  cases rev with
  | tracking remote base => rfl
  | named name => rw [World.resolve, World.resolve, h.names]

namespace Checkout

variable (co : Checkout)
section
variable (branch : String)
section
variable (c : GitCommit)

@[simp] theorem setHead_heads : (co.setHead branch c).heads = update co.heads branch (some c) := rfl

@[simp] theorem setHead_tracking : (co.setHead branch c).tracking = co.tracking := rfl

@[simp] theorem setHead_head : (co.setHead branch c).head = co.head := rfl

@[simp] theorem setHead_remotes : (co.setHead branch c).remotes = co.remotes := rfl

end

end

@[simp] theorem setTracking_heads (remote base : String) (c : GitCommit) :
    (co.setTracking remote base c).heads = co.heads := rfl

@[simp] theorem setTracking_head (remote base : String) (c : GitCommit) :
    (co.setTracking remote base c).head = co.head := rfl

@[simp] theorem setTracking_remotes (remote base : String) (c : GitCommit) :
    (co.setTracking remote base c).remotes = co.remotes := rfl

@[simp] theorem setTracking_self (remote base : String) (c : GitCommit) :
    (co.setTracking remote base c).tracking (remoteRef remote base) = some c :=
  update_self ..

theorem setHead_self {co : Checkout} (h : co.heads branch = some c) : co.setHead branch c = co := by
  rw [setHead, ← h, update_eq_self]

theorem tip_eq_some {co : Checkout} :
    co.tip = some (branch, c) ↔ co.head = some branch ∧ co.heads branch = some c := by
  rw [tip, bind_eq_some_iff]
  simp only [map_eq_some_iff, Prod.mk.injEq]
  constructor
  · rintro ⟨b, hb, d, hd, rfl, rfl⟩
    exact ⟨hb, hd⟩
  · rintro ⟨hb, hc⟩
    exact ⟨branch, hb, c, hc, rfl, rfl⟩

theorem tip_of_head {co : Checkout} (h : co.tip = some (b, c)) (hhead : co.head = some branch) :
    b = branch ∧ co.heads branch = some c := by
  obtain ⟨hb, hc⟩ := tip_eq_some.mp h
  obtain rfl : b = branch := Option.some.inj (hb.symm.trans hhead)
  exact ⟨rfl, hc⟩

end Checkout

@[simp] theorem setCheckout_same (w : World) (path : String) (co : Checkout) :
    (w.setCheckout path co).checkouts path = some co := update_self ..

theorem setCheckout_ne (w : World) (co : Checkout) (h : path' ≠ path) :
    (w.setCheckout path co).checkouts path' = w.checkouts path' := update_of_ne h ..

theorem setCheckout_self {w : World} (h : w.checkouts path = some co) :
    w.setCheckout path co = w := by
  rw [World.setCheckout, ← h, update_eq_self]

namespace Git

def quiet : Git → Bool
  | status | revParse _ | revListCount .. | log .. | mergeSquash _ | diffNames .. | configUrl _ => true
  | _ => false

variable {c : Git}

theorem outcome_eq_some : c.outcome cwd w = some v ↔
    w.env.fails w.step = none ∧ ∃ co, w.checkouts cwd = some co ∧ c.apply cwd co w = some v := by
  rw [outcome]
  cases w.env.fails w.step with
  | some f => simp
  | none => simp [bind_eq_some_iff]

theorem answer_of_some (h : c.outcome cwd w = some v) : (c.answer cwd w).code = 0 := by
  obtain ⟨hfails, co, hco, _⟩ := outcome_eq_some.mp h
  rw [answer, hfails, hco, h]

theorem answer_of_none (h : c.outcome cwd w = none) : (c.answer cwd w).code ≠ 0 := by
  rw [answer]
  cases w.env.fails w.step with
  | some f => exact f.nonzero
  | none =>
    rw [h]
    cases w.checkouts cwd with
    | none => exact Int.ofNat_ne_zero.mpr (by decide : 128 ≠ 0)
    | some co => exact Int.ofNat_ne_zero.mpr (by decide : 128 ≠ 0)

theorem quiet_apply (hc : c.quiet) (h : c.apply cwd co w = some v) : v = w := by
  cases c with
  | status | log | diffNames => exact (Option.some.inj h).symm
  | revParse rev | mergeSquash rev | configUrl remote =>
    simp only [apply, bind_eq_bind, bind_eq_some_iff] at h
    obtain ⟨_, _, h⟩ := h
    exact (Option.some.inj h).symm
  | revListCount excluded included =>
    simp only [apply, bind_eq_bind, bind_eq_some_iff] at h
    obtain ⟨_, _, _, _, h⟩ := h
    exact (Option.some.inj h).symm
  | _ => cases hc

theorem apply_fetch (h : (fetch remote base).apply cwd co w = some v) :
    ∃ url c, co.url? remote = some url ∧ w.hosted url base = some c ∧
      v = w.setCheckout cwd (co.setTracking remote base c) := by
  simp only [apply, bind_eq_bind, bind_eq_some_iff] at h
  obtain ⟨url, hurl, c, hc, h⟩ := h
  exact ⟨url, c, hurl, hc, (Option.some.inj h).symm⟩

theorem apply_checkout (h : (checkout base).apply cwd co w = some v) :
    ∃ c, v = w.setCheckout cwd { co.setHead base c with head := some base } ∧
      (co.heads base = some c ∨ ∀ remote url d, co.url? remote = some url →
        co.tracking (remoteRef remote base) = some d → c = d) := by
  obtain ⟨co', hco', rfl⟩ := map_eq_some_iff.mp h
  rw [checkoutBase] at hco'
  cases hbase : co.heads base with
  | some c =>
    rw [hbase] at hco'
    obtain rfl := Option.some.inj hco'
    exact ⟨c, by rw [setHead_self hbase], .inl rfl⟩
  | none =>
    rw [hbase] at hco'
    cases hremotes : co.remotes.filterMap fun r => co.tracking (remoteRef r.1 base) with
    | nil => simp [hremotes] at hco'
    | cons c cs =>
      cases cs with
      | nil =>
        simp only [hremotes, Option.some.injEq] at hco'
        refine ⟨c, by rw [hco'], .inr ?_⟩
        intro remote url d hurl hd
        obtain ⟨before, after, hsplit, _⟩ := List.lookup_eq_some_iff.mp hurl
        have hmem : d ∈ co.remotes.filterMap fun r => co.tracking (remoteRef r.1 base) :=
          List.mem_filterMap.mpr ⟨(remote, url), by simp [hsplit], hd⟩
        rw [hremotes] at hmem
        exact (List.mem_singleton.mp hmem).symm
      | cons d ds => simp [hremotes] at hco'

theorem apply_mergeFfOnly (h : (mergeFfOnly rev).apply cwd co w = some v)
    (hhead : co.head = some branch) : ∃ c tip tip', w.resolve co rev = some c ∧
      co.heads branch = some tip ∧ v = w.setCheckout cwd (co.setHead branch tip') ∧
      (tip' = tip ∧ c ≤ tip ∨ tip' = c ∧ tip ≤ c) := by
  simp only [apply, bind_eq_bind, bind_eq_some_iff, map_eq_some_iff] at h
  obtain ⟨c, hc, co', hco', rfl⟩ := h
  simp only [fastForward, bind_eq_bind, bind_eq_some_iff] at hco'
  obtain ⟨⟨b, tip⟩, htip, hco'⟩ := hco'
  obtain ⟨rfl, htip⟩ := tip_of_head htip hhead
  by_cases hle : c ≤ tip
  · rw [if_pos hle] at hco'
    obtain rfl := Option.some.inj hco'
    exact ⟨c, tip, tip, hc, htip, by rw [setHead_self htip], .inl ⟨rfl, hle⟩⟩
  · rw [if_neg hle] at hco'
    by_cases hge : tip ≤ c
    · rw [if_pos hge] at hco'
      exact ⟨c, tip, c, hc, htip, by rw [Option.some.inj hco'], .inr ⟨rfl, hge⟩⟩
    · rw [if_neg hge] at hco'
      cases hco'

theorem apply_commit (h : (commit message).apply cwd co w = some v)
    (hhead : co.head = some branch) : ∃ tip body, co.heads branch = some tip ∧
      v = w.setCheckout cwd (co.setHead branch (.mk body [tip])) := by
  obtain ⟨co', hco', rfl⟩ := map_eq_some_iff.mp h
  simp only [commitOn, bind_eq_bind, bind_eq_some_iff] at hco'
  obtain ⟨⟨b, tip⟩, htip, hco'⟩ := hco'
  obtain ⟨rfl, htip⟩ := tip_of_head htip hhead
  exact ⟨tip, _, htip, by rw [Option.some.inj hco']⟩

theorem apply_mergeNoFf (h : (mergeNoFf message rev).apply cwd co w = some v)
    (hhead : co.head = some branch) : ∃ c tip tip', w.resolve co rev = some c ∧
      co.heads branch = some tip ∧ v = w.setCheckout cwd (co.setHead branch tip') ∧
      (tip' = tip ∧ c ≤ tip ∨ ∃ body, tip' = .mk body [tip, c]) := by
  simp only [apply, bind_eq_bind, bind_eq_some_iff, map_eq_some_iff] at h
  obtain ⟨c, hc, co', hco', rfl⟩ := h
  simp only [mergeCommit, bind_eq_bind, bind_eq_some_iff] at hco'
  obtain ⟨⟨b, tip⟩, htip, hco'⟩ := hco'
  obtain ⟨rfl, htip⟩ := tip_of_head htip hhead
  by_cases hle : c ≤ tip
  · rw [if_pos hle] at hco'
    obtain rfl := Option.some.inj hco'
    exact ⟨c, tip, tip, hc, htip, by rw [setHead_self htip], .inl ⟨rfl, hle⟩⟩
  · rw [if_neg hle] at hco'
    exact ⟨c, tip, _, hc, htip, by rw [← Option.some.inj hco'], .inr ⟨_, rfl⟩⟩

theorem apply_push (h : (push remote base).apply cwd co w = some v) :
    ∃ url tip, co.url? remote = some url ∧ co.heads base = some tip ∧
      (∀ c, w.hosted url base = some c → c ≤ tip) ∧
      v = (w.host url base tip).setCheckout cwd (co.setTracking remote base tip) := by
  simp only [apply, pushBase, bind_eq_bind, bind_eq_some_iff] at h
  obtain ⟨url, hurl, tip, htip, h⟩ := h
  by_cases hall : (w.hosted url base).all (· ≤ tip)
  · rw [if_pos hall] at h
    refine ⟨url, tip, hurl, htip, ?_, (Option.some.inj h).symm⟩
    intro c hc
    rw [hc] at hall
    simpa using hall
  · rw [if_neg hall] at h
    cases h

theorem apply_clone (h : (clone repo workdir).apply cwd co w = some v) :
    ∃ source, w.checkouts repo = some source ∧ w.checkouts workdir = none ∧
      v = w.setCheckout workdir (cloned repo source) := by
  simp only [apply, bind_eq_bind, bind_eq_some_iff] at h
  obtain ⟨source, hsource, h⟩ := h
  cases hworkdir : w.checkouts workdir with
  | some _ => simp [hworkdir] at h
  | none =>
    rw [hworkdir] at h
    exact ⟨source, hsource, rfl, (Option.some.inj h).symm⟩

theorem apply_remote (h : (remoteSetUrl remote url).apply cwd co w = some v ∨
    (remoteAdd remote url).apply cwd co w = some v) :
    ∃ remotes, v = w.setCheckout cwd { co with remotes } := by
  rcases h with h | h
  · simp only [apply, bind_eq_bind, bind_eq_some_iff] at h
    obtain ⟨_, _, h⟩ := h
    exact ⟨_, (Option.some.inj h).symm⟩
  · simp only [apply] at h
    cases hurl : co.url? remote with
    | some _ => simp [hurl] at h
    | none =>
      rw [hurl] at h
      exact ⟨_, (Option.some.inj h).symm⟩

theorem apply_branchForce (h : (branchForce base rev).apply cwd co w = some v) :
    ∃ c, w.resolve co rev = some c ∧ v = w.setCheckout cwd (co.setHead base c) := by
  simp only [apply, bind_eq_bind, bind_eq_some_iff] at h
  obtain ⟨c, hc, h⟩ := h
  by_cases hhead : co.head = some base
  · rw [if_pos hhead] at h
    cases h
  · rw [if_neg hhead] at h
    exact ⟨c, hc, (Option.some.inj h).symm⟩

theorem apply_fetchBranch (h : (fetchBranch repo branch).apply cwd co w = some v) :
    ∃ source c, w.checkouts repo = some source ∧ w.resolve source (.named branch) = some c ∧
      v = w.setCheckout cwd (co.setHead branch c) := by
  simp only [apply, bind_eq_bind, bind_eq_some_iff] at h
  obtain ⟨source, hsource, c, hc, h⟩ := h
  by_cases hrefused : co.head = some branch ∨ ¬ (co.heads branch).all (· ≤ c)
  · rw [if_pos hrefused] at h
    cases h
  · rw [if_neg hrefused] at h
    exact ⟨source, c, hsource, hc, (Option.some.inj h).symm⟩

end Git

theorem quiet_effect {c : Git} (hc : c.quiet) (cwd : String) (w : World) :
    SameRefs w (effect (.git c cwd) w) := by
  rw [effect, refs]
  cases hout : c.outcome cwd w with
  | none => exact ⟨rfl, rfl, rfl⟩
  | some v =>
    obtain ⟨_, co, _, hv⟩ := Git.outcome_eq_some.mp hout
    obtain rfl := Git.quiet_apply hc hv
    exact ⟨rfl, rfl, rfl⟩

section Rules
variable {A : Stmt → World → Prop} {R : Except String α → World → Prop} {f : Output → Prog α}
  {c : Git} {cwd : String} {w : World}

theorem git_provided
    (hfail : ∀ out w', out.code ≠ 0 → A (.git c cwd) w → c.outcome cwd w = none → SameRefs w w' →
      (f out).provided A R w')
    (hok : ∀ out co v w', out.code = 0 → w.checkouts cwd = some co → c.apply cwd co w = some v →
      SameRefs v w' → (f out).provided A R w') : ((git c cwd).bind f).provided A R w := by
  intro hA
  change (f (c.answer cwd w)).provided A R (effect (.git c cwd) w)
  cases hout : c.outcome cwd w with
  | none =>
    apply hfail _ _ (Git.answer_of_none hout) hA hout
    rw [effect, refs, hout]
    exact ⟨rfl, rfl, rfl⟩
  | some v =>
    obtain ⟨_, co, hco, hv⟩ := Git.outcome_eq_some.mp hout
    apply hok _ co v _ (Git.answer_of_some hout) hco hv
    rw [effect, refs, hout]
    exact ⟨rfl, rfl, rfl⟩

theorem quiet_provided (hc : c.quiet) (h : ∀ out w', SameRefs w w' → (f out).provided A R w') :
    ((git c cwd).bind f).provided A R w := by
  intro _
  exact h _ _ (quiet_effect hc cwd w)

end Rules

end IdAgents.Promotion
