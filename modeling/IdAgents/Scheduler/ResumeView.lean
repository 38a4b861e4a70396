import IdAgents.Scheduler.ResumeScript

namespace IdAgents
open JsText KeyedTable AtomicProgram

def Row.activeId (row : Row) : Option String := row.activeClarification.map (·.clarificationId)

/-- What matters of a moment of a fleet: where the threads stand, the windows since the last
resumes, the clarifications resumed and posted so far, the ids in use, and the rows. -/
structure FleetView where
  phase : Nat → ResumePhase
  since : String → Option Nat
  resumed : String × String → Prop
  posted : String × String → Prop
  last : Nat → Option (String × String)
  known : String → Prop
  rows : String → Option Row

namespace FleetView
variable {v v' : FleetView}

structure Ids (v : FleetView) : Prop where
  asking_known : v.phase i = .asking c → v.known c
  asking_new : v.phase i = .asking c → ¬ v.resumed (p, c)
  asking_free : v.phase i = .asking c → v.rows p = some r → r.activeId ≠ some c
  asking_once : v.phase i = .asking c → v.phase j = .asking c → i = j
  open_known : v.rows p = some r → r.activeId = some c → v.known c
  open_new : v.rows p = some r → r.activeId = some c → ¬ v.resumed (p, c)
  resumed_known : v.resumed (p, c) → v.known c
  posted_resumed : v.posted a → v.resumed a

def Stands (v : FleetView) (i : Nat) : ResumePhase → Prop
  | .answering p c =>
    v.since p = some 0 ∧ v.last i = some (p, c) ∧ v.resumed (p, c) ∧ ¬ v.posted (p, c)
  | .refused p => v.since p = some 0
  | .told p => v.since p = some 1 ∧
    ∀ row, v.rows p = some row → row.resumeDeliveryStatus ≠ .delivered
  | .idle | .asking _ => True

structure Window (since : Option Nat) (row : Option Row) : Prop where
  le_one : since = some n → n ≤ 1
  waiting : since = some 0 → row = some r → r.resumeDeliveryStatus ≠ .delivered
  resumed : since.isSome → row = some r → r.status ≠ .needsClarification
  pending : row = some r → r.resumeDeliveryStatus = .pending → since.isSome

structure Sound (v : FleetView) : Prop where
  ids : v.Ids
  stands : ∀ i, v.Stands i (v.phase i)
  about_once : (v.phase i).About p → (v.phase j).About p → i = j
  window : ∀ p, Window (v.since p) (v.rows p)

variable {g : ResumePhase}

theorem Stands.standing (h : v.Stands i g) (ha : g.About p) : (v.since p).isSome := by
  cases g with
  | idle | asking => cases ha
  | answering q c =>
    obtain rfl : q = p := ha
    rw [h.1]
    rfl
  | refused q =>
    obtain rfl : q = p := ha
    rw [show v.since q = some 0 from h]
    rfl
  | told q =>
    obtain rfl : q = p := ha
    rw [h.1]
    rfl

theorem Stands.undelivered (h : v.Stands i g) (ha : g.About p)
    (hw : Window (v.since p) (v.rows p)) (hrow : v.rows p = some row) :
    row.resumeDeliveryStatus ≠ .delivered := by
  cases g with
  | idle | asking => cases ha
  | answering q c =>
    obtain rfl : q = p := ha
    exact hw.waiting h.1 hrow
  | refused q =>
    obtain rfl : q = p := ha
    exact hw.waiting h hrow
  | told q =>
    obtain rfl : q = p := ha
    exact h.2 row hrow

structure Untouched (v v' : FleetView) (p : String) : Prop where
  since : v'.since p = v.since p
  posted : v'.posted (p, c) → v.posted (p, c)
  row : v'.rows p = some r' → r'.resumeDeliveryStatus = .delivered →
    ∃ r, v.rows p = some r ∧ r.resumeDeliveryStatus = .delivered

theorem Stands.keep (h : v.Stands i g) (hp : ∀ p, g.About p → Untouched v v' p)
    (hlast : v'.last i = v.last i) (hresumed : ∀ a, v.resumed a → v'.resumed a) :
    v'.Stands i g := by
  cases g with
  | idle | asking => trivial
  | answering p c =>
    obtain ⟨hs, hl, hr, hn⟩ := h
    have hsame := hp p rfl
    exact ⟨hsame.since.trans hs, hlast.trans hl, hresumed _ hr, fun hposted => hn (hsame.posted hposted)⟩
  | refused p => exact (hp p rfl).since.trans h
  | told p =>
    obtain ⟨hs, hd⟩ := h
    have hsame := hp p rfl
    refine ⟨hsame.since.trans hs, fun row hrow hdelivered => ?_⟩
    obtain ⟨row₀, hrow₀, hd₀⟩ := hsame.row hrow hdelivered
    exact hd row₀ hrow₀ hd₀

theorem Ids.keep (h : v.Ids) (hasks : ∀ j c, v'.phase j = .asking c → v.phase j = .asking c)
    (hopen : ∀ p r c, v'.rows p = some r → r.activeId = some c →
      ∃ r₀, v.rows p = some r₀ ∧ r₀.activeId = some c)
    (hresumed : v'.resumed = v.resumed) (hposted : ∀ a, v'.posted a → v.resumed a)
    (hknown : ∀ c, v.known c → v'.known c) : v'.Ids where
  asking_known hp := hknown _ (h.asking_known (hasks _ _ hp))
  asking_new hp := by
    rw [hresumed]
    exact h.asking_new (hasks _ _ hp)
  asking_free hp hr ha := by
    obtain ⟨r₀, hr₀, ha₀⟩ := hopen _ _ _ hr ha
    exact h.asking_free (hasks _ _ hp) hr₀ ha₀
  asking_once hi hj := h.asking_once (hasks _ _ hi) (hasks _ _ hj)
  open_known hr ha := by
    obtain ⟨r₀, hr₀, ha₀⟩ := hopen _ _ _ hr ha
    exact hknown _ (h.open_known hr₀ ha₀)
  open_new hr ha := by
    obtain ⟨r₀, hr₀, ha₀⟩ := hopen _ _ _ hr ha
    rw [hresumed]
    exact h.open_new hr₀ ha₀
  resumed_known hr := by
    rw [hresumed] at hr
    exact hknown _ (h.resumed_known hr)
  posted_resumed hp := by
    rw [hresumed]
    exact hposted _ hp

theorem Ids.mint (h : v.Ids) (hfresh : ¬ v.known c)
    (hasks : ∀ j d, v'.phase j = .asking d → j = i ∧ d = c ∨ v.phase j = .asking d)
    (hrows : v'.rows = v.rows) (hresumed : v'.resumed = v.resumed) (hposted : v'.posted = v.posted)
    (hknown : ∀ d, v.known d ∨ d = c → v'.known d) : v'.Ids where
  asking_known hp := by
    obtain ⟨_, rfl⟩ | hp := hasks _ _ hp
    · exact hknown _ (.inr rfl)
    · exact hknown _ (.inl (h.asking_known hp))
  asking_new hp := by
    rw [hresumed]
    obtain ⟨_, rfl⟩ | hp := hasks _ _ hp
    · exact fun hr => hfresh (h.resumed_known hr)
    · exact h.asking_new hp
  asking_free hp hr := by
    rw [hrows] at hr
    obtain ⟨_, rfl⟩ | hp := hasks _ _ hp
    · exact fun ha => hfresh (h.open_known hr ha)
    · exact h.asking_free hp hr
  asking_once hj hk := by
    obtain ⟨rfl, rfl⟩ | hj := hasks _ _ hj
    · obtain ⟨rfl, _⟩ | hk := hasks _ _ hk
      · rfl
      · exact absurd (h.asking_known hk) hfresh
    · obtain ⟨rfl, rfl⟩ | hk := hasks _ _ hk
      · exact absurd (h.asking_known hj) hfresh
      · exact h.asking_once hj hk
  open_known hr ha := by
    rw [hrows] at hr
    exact hknown _ (.inl (h.open_known hr ha))
  open_new hr ha := by
    rw [hrows] at hr
    rw [hresumed]
    exact h.open_new hr ha
  resumed_known hr := by
    rw [hresumed] at hr
    exact hknown _ (.inl (h.resumed_known hr))
  posted_resumed hp := by
    rw [hposted] at hp
    rw [hresumed]
    exact h.posted_resumed hp

theorem Ids.ask (h : v.Ids) (hi : v.phase i = .asking c)
    (hasks : ∀ j d, v'.phase j = .asking d → j ≠ i ∧ v.phase j = .asking d)
    (hopen : ∀ p r d, v'.rows p = some r → r.activeId = some d →
      d = c ∨ ∃ r₀, v.rows p = some r₀ ∧ r₀.activeId = some d)
    (hresumed : v'.resumed = v.resumed) (hposted : v'.posted = v.posted)
    (hknown : ∀ d, v.known d → v'.known d) : v'.Ids where
  asking_known hp := hknown _ (h.asking_known (hasks _ _ hp).2)
  asking_new hp := by
    rw [hresumed]
    exact h.asking_new (hasks _ _ hp).2
  asking_free hp hr ha := by
    obtain ⟨hne, hp⟩ := hasks _ _ hp
    obtain rfl | ⟨r₀, hr₀, ha₀⟩ := hopen _ _ _ hr ha
    · exact hne (h.asking_once hp hi)
    · exact h.asking_free hp hr₀ ha₀
  asking_once hj hk := h.asking_once (hasks _ _ hj).2 (hasks _ _ hk).2
  open_known hr ha := by
    obtain rfl | ⟨r₀, hr₀, ha₀⟩ := hopen _ _ _ hr ha
    · exact hknown _ (h.asking_known hi)
    · exact hknown _ (h.open_known hr₀ ha₀)
  open_new hr ha := by
    rw [hresumed]
    obtain rfl | ⟨r₀, hr₀, ha₀⟩ := hopen _ _ _ hr ha
    · exact h.asking_new hi
    · exact h.open_new hr₀ ha₀
  resumed_known hr := by
    rw [hresumed] at hr
    exact hknown _ (h.resumed_known hr)
  posted_resumed hp := by
    rw [hposted] at hp
    rw [hresumed]
    exact h.posted_resumed hp

theorem Ids.resume (h : v.Ids) (hrow : v.rows p = some row) (ha : row.activeId = some c)
    (hasks : ∀ j d, v'.phase j = .asking d → v.phase j = .asking d)
    (hopen : ∀ q r d, v'.rows q = some r → r.activeId = some d →
      q ≠ p ∧ ∃ r₀, v.rows q = some r₀ ∧ r₀.activeId = some d)
    (hresumed : ∀ a, v'.resumed a ↔ v.resumed a ∨ a = (p, c)) (hposted : v'.posted = v.posted)
    (hknown : ∀ d, v.known d → v'.known d) : v'.Ids where
  asking_known hp := hknown _ (h.asking_known (hasks _ _ hp))
  asking_new hp hr := by
    have hp' := hasks _ _ hp
    obtain hr | heq := (hresumed _).mp hr
    · exact h.asking_new hp' hr
    · cases heq
      exact h.asking_free hp' hrow ha
  asking_free hp hr hactive := by
    obtain ⟨_, r₀, hr₀, ha₀⟩ := hopen _ _ _ hr hactive
    exact h.asking_free (hasks _ _ hp) hr₀ ha₀
  asking_once hi hj := h.asking_once (hasks _ _ hi) (hasks _ _ hj)
  open_known hr hactive := by
    obtain ⟨_, r₀, hr₀, ha₀⟩ := hopen _ _ _ hr hactive
    exact hknown _ (h.open_known hr₀ ha₀)
  open_new hr hactive hres := by
    obtain ⟨hne, r₀, hr₀, ha₀⟩ := hopen _ _ _ hr hactive
    obtain hres | heq := (hresumed _).mp hres
    · exact h.open_new hr₀ ha₀ hres
    · cases heq
      exact hne rfl
  resumed_known hr := by
    obtain hr | heq := (hresumed _).mp hr
    · exact hknown _ (h.resumed_known hr)
    · cases heq
      exact hknown _ (h.open_known hrow ha)
  posted_resumed hp := by
    rw [hposted] at hp
    exact (hresumed _).mpr (.inl (h.posted_resumed hp))

def Moves (v v' : FleetView) (i : Nat) (g : ResumePhase) : Prop :=
  ∀ j, j = i ∧ v'.phase j = g ∨ j ≠ i ∧ v'.phase j = v.phase j

theorem Moves.asking (h : Moves v v' i g) (hg : ∀ c, g ≠ .asking c) (hp : v'.phase j = .asking c) :
    j ≠ i ∧ v.phase j = .asking c := by
  obtain ⟨_, hj⟩ | ⟨hne, hj⟩ := h j
  · exact absurd (hj.symm.trans hp) (hg c)
  · exact ⟨hne, hj.symm.trans hp⟩

theorem Moves.about (h : Moves v v' i g) (hg : ¬ g.About p) (ha : (v'.phase j).About p) :
    j ≠ i ∧ (v.phase j).About p := by
  obtain ⟨_, hj⟩ | ⟨hne, hj⟩ := h j
  · rw [hj] at ha
    exact absurd ha hg
  · rw [hj] at ha
    exact ⟨hne, ha⟩

def Plain (v : FleetView) (p : String) (row' : Row) : Prop :=
  (∃ row, v.rows p = some row ∧ row'.activeId = row.activeId ∧
    row'.resumeDeliveryStatus = row.resumeDeliveryStatus ∧
    (row'.status = .needsClarification → row.status = .needsClarification)) ∨
  row'.activeId = none ∧ row'.resumeDeliveryStatus = .none ∧ row'.status ≠ .needsClarification

def Closes (v v' : FleetView) (p : String) : Prop :=
  v'.since p = v.since p ∨
    v'.since p = none ∧ ∃ row, v.rows p = some row ∧ row.resumeDeliveryStatus = .delivered

theorem Plain.open (h : Plain v p row') (ha : row'.activeId = some c) :
    ∃ row, v.rows p = some row ∧ row.activeId = some c := by
  obtain ⟨row, hrow, hactive, _⟩ | ⟨hactive, _⟩ := h
  · exact ⟨row, hrow, hactive.symm.trans ha⟩
  · cases hactive.symm.trans ha

theorem Plain.status (h : Plain v p row') (hs : row'.resumeDeliveryStatus = s) (hne : s ≠ .none) :
    ∃ row, v.rows p = some row ∧ row.resumeDeliveryStatus = s := by
  obtain ⟨row, hrow, _, hsame, _⟩ | ⟨_, hnone, _⟩ := h
  · exact ⟨row, hrow, hsame.symm.trans hs⟩
  · exact absurd (hs.symm.trans hnone) hne

theorem Sound.since_of_about (h : v.Sound) (hc : Closes v v' p) (ha : (v.phase i).About p) :
    v'.since p = v.since p := by
  obtain hsame | ⟨_, row, hrow, hd⟩ := hc
  · exact hsame
  · exact absurd hd ((h.stands i).undelivered ha (h.window p) hrow)

theorem Window.plain (h : Window (v.since p) (v.rows p)) (hc : Closes v v' p)
    (hrow : ∀ row', v'.rows p = some row' → Plain v p row') : Window (v'.since p) (v'.rows p) where
  le_one hn := by
    obtain hsame | ⟨hnone, _⟩ := hc
    · exact h.le_one (hsame.symm.trans hn)
    · cases hnone.symm.trans hn
  waiting hs hr hd := by
    obtain hsame | ⟨hnone, _⟩ := hc
    · obtain ⟨row, hold, hdelivered⟩ := (hrow _ hr).status hd (by simp)
      exact h.waiting (hsame.symm.trans hs) hold hdelivered
    · cases hnone.symm.trans hs
  resumed hs hr hn := by
    obtain hsame | ⟨hnone, _⟩ := hc
    · obtain ⟨row, hold, _, _, hneeds⟩ | ⟨_, _, hneeds⟩ := hrow _ hr
      · exact h.resumed (hsame ▸ hs) hold (hneeds hn)
      · exact hneeds hn
    · rw [hnone] at hs
      cases hs
  pending hr hp := by
    obtain ⟨row, hold, hpending⟩ := (hrow _ hr).status hp (by simp)
    obtain hsame | ⟨_, row₁, hold₁, hd⟩ := hc
    · rw [hsame]
      exact h.pending hold hpending
    · obtain rfl := Option.some.inj (hold.symm.trans hold₁)
      cases hd.symm.trans hpending

theorem Sound.keep (h : v.Sound) (hphase : ∀ j, v'.phase j = v.phase j ∨ v'.phase j = .idle)
    (hrow : ∀ p row', v'.rows p = some row' → Plain v p row') (hsince : ∀ p, Closes v v' p)
    (hresumed : v'.resumed = v.resumed) (hposted : v'.posted = v.posted) (hlast : v'.last = v.last)
    (hknown : ∀ c, v.known c → v'.known c) : v'.Sound where
  ids := by
    apply h.ids.keep
    · intro j c hp
      obtain hsame | hidle := hphase j
      · exact hsame.symm.trans hp
      · cases hidle.symm.trans hp
    · exact fun p r c hr ha => (hrow p r hr).open ha
    · exact hresumed
    · intro a ha
      rw [hposted] at ha
      exact h.ids.posted_resumed ha
    · exact hknown
  stands j := by
    obtain hsame | hidle := hphase j
    · rw [hsame]
      apply (h.stands j).keep
      · intro p ha
        refine ⟨h.since_of_about (hsince p) ha, fun {c} hp => ?_, fun {r'} hr hd => ?_⟩
        · rwa [hposted] at hp
        · exact (hrow p r' hr).status hd (by simp)
      · rw [hlast]
      · intro a ha
        rwa [hresumed]
    · rw [hidle]
      trivial
  about_once {i p j} hi hj := by
    have hback : ∀ k, (v'.phase k).About p → (v.phase k).About p := by
      intro k ha
      obtain hsame | hidle := hphase k
      · rwa [hsame] at ha
      · rw [hidle] at ha
        cases ha
    exact h.about_once (hback i hi) (hback j hj)
  window p := (h.window p).plain (hsince p) (hrow p)

theorem Sound.mint (h : v.Sound) (hfresh : ¬ v.known c)
    (hphase : Moves v v' i (.asking c)) (hrows : v'.rows = v.rows) (hsince : v'.since = v.since)
    (hresumed : v'.resumed = v.resumed) (hposted : v'.posted = v.posted) (hlast : v'.last = v.last)
    (hknown : ∀ d, v.known d ∨ d = c → v'.known d) : v'.Sound where
  ids := by
    apply h.ids.mint (i := i) hfresh _ hrows hresumed hposted hknown
    intro j d hp
    obtain ⟨hj, hg⟩ | ⟨_, hg⟩ := hphase j
    · cases hg.symm.trans hp
      exact .inl ⟨hj, rfl⟩
    · exact .inr (hg.symm.trans hp)
  stands j := by
    obtain ⟨_, hg⟩ | ⟨_, hg⟩ := hphase j
    · rw [hg]
      trivial
    · rw [hg]
      apply (h.stands j).keep
      · intro p _
        refine ⟨by rw [hsince], fun {d} hp => ?_, fun {r'} hr hd => ?_⟩
        · rwa [hposted] at hp
        · rw [hrows] at hr
          exact ⟨r', hr, hd⟩
      · rw [hlast]
      · intro a ha
        rwa [hresumed]
  about_once hi hj := h.about_once (hphase.about id hi).2 (hphase.about id hj).2
  window p := by
    rw [hsince, hrows]
    exact h.window p

theorem Sound.ask (h : v.Sound) (hi : v.phase i = .asking c)
    (hphase : Moves v v' i .idle) (hrow : v.rows p = some row) (hrow' : v'.rows p = some row')
    (hactive : row'.activeId = some c)
    (hstatus : row'.resumeDeliveryStatus = row.resumeDeliveryStatus)
    (hrows : ∀ q, q ≠ p → v'.rows q = v.rows q) (hsince : v'.since p = none)
    (hothers : ∀ q, q ≠ p → v'.since q = v.since q)
    (hends : v.since p = none ∨ row.resumeDeliveryStatus = .delivered)
    (hresumed : v'.resumed = v.resumed) (hposted : v'.posted = v.posted) (hlast : v'.last = v.last)
    (hknown : ∀ d, v.known d → v'.known d) : v'.Sound where
  ids := by
    apply h.ids.ask hi (fun j d => hphase.asking (by simp)) _ hresumed hposted hknown
    intro q r d hr ha
    by_cases hq : q = p
    · subst hq
      obtain rfl := Option.some.inj (hr.symm.trans hrow')
      exact .inl (Option.some.inj (ha.symm.trans hactive))
    · rw [hrows q hq] at hr
      exact .inr ⟨r, hr, ha⟩
  stands j := by
    obtain ⟨_, hg⟩ | ⟨_, hg⟩ := hphase j
    · rw [hg]
      trivial
    · rw [hg]
      apply (h.stands j).keep
      · intro q ha
        have hq : q ≠ p := by
          rintro rfl
          obtain hnone | hd := hends
          · have hstands := (h.stands j).standing ha
            rw [hnone] at hstands
            cases hstands
          · exact (h.stands j).undelivered ha (h.window q) hrow hd
        refine ⟨hothers q hq, fun {d} hp => ?_, fun {r'} hr hd => ?_⟩
        · rwa [hposted] at hp
        · rw [hrows q hq] at hr
          exact ⟨r', hr, hd⟩
      · rw [hlast]
      · intro a ha
        rwa [hresumed]
  about_once hi hj := h.about_once (hphase.about id hi).2 (hphase.about id hj).2
  window q := by
    by_cases hq : q = p
    · subst hq
      rw [hsince, hrow']
      refine ⟨nofun, nofun, nofun, ?_⟩
      rintro _ ⟨⟩ hp
      rw [hstatus] at hp
      obtain hnone | hd := hends
      · rw [← hnone]
        exact (h.window q).pending hrow hp
      · cases hd.symm.trans hp
    · rw [hothers q hq, hrows q hq]
      exact h.window q

theorem Sound.resume (h : v.Sound) (hphase : Moves v v' i (.answering p c))
    (hrow : v.rows p = some row) (hopen : row.activeId = some c)
    (hneeds : row.status = .needsClarification) (hrow' : v'.rows p = some row')
    (hactive : row'.activeId = none) (hpending : row'.resumeDeliveryStatus = .pending)
    (hqueued : row'.status ≠ .needsClarification)
    (hrows : ∀ q, q ≠ p → v'.rows q = v.rows q) (hsince : v'.since p = some 0)
    (hothers : ∀ q, q ≠ p → v'.since q = v.since q)
    (hresumed : ∀ a, v'.resumed a ↔ v.resumed a ∨ a = (p, c)) (hposted : v'.posted = v.posted)
    (hlast : v'.last i = some (p, c)) (hlasts : ∀ j, j ≠ i → v'.last j = v.last j)
    (hknown : ∀ d, v.known d → v'.known d) : v'.Sound := by
  have hnone : ∀ j, ¬ (v.phase j).About p := by
    intro j ha
    exact (h.window p).resumed ((h.stands j).standing ha) hrow hneeds
  have hback : ∀ {j q}, (v'.phase j).About q → j = i ∧ q = p ∨ j ≠ i ∧ q ≠ p ∧ (v.phase j).About q := by
    intro j q ha
    obtain ⟨hj, hg⟩ | ⟨hne, hg⟩ := hphase j
    · rw [hg] at ha
      obtain rfl : p = q := ha
      exact .inl ⟨hj, rfl⟩
    · rw [hg] at ha
      refine .inr ⟨hne, ?_, ha⟩
      rintro rfl
      exact hnone j ha
  constructor
  case ids =>
    apply h.ids.resume hrow hopen _ _ hresumed hposted hknown
    · exact fun j d hp => (hphase.asking (by simp) hp).2
    · intro q r d hr ha
      by_cases hq : q = p
      · subst hq
        obtain rfl := Option.some.inj (hr.symm.trans hrow')
        cases hactive.symm.trans ha
      · rw [hrows q hq] at hr
        exact ⟨hq, r, hr, ha⟩
  case stands =>
    intro j
    obtain ⟨rfl, hg⟩ | ⟨hne, hg⟩ := hphase j
    · rw [hg]
      refine ⟨hsince, hlast, (hresumed _).mpr (.inr rfl), fun hp => ?_⟩
      rw [hposted] at hp
      exact h.ids.open_new hrow hopen (h.ids.posted_resumed hp)
    · rw [hg]
      apply (h.stands j).keep
      · intro q ha
        have hq : q ≠ p := by
          rintro rfl
          exact hnone j ha
        refine ⟨hothers q hq, fun {d} hp => ?_, fun {r'} hr hd => ?_⟩
        · rwa [hposted] at hp
        · rw [hrows q hq] at hr
          exact ⟨r', hr, hd⟩
      · exact hlasts j hne
      · exact fun a ha => (hresumed a).mpr (.inl ha)
  case about_once =>
    intro j q k hj hk
    obtain ⟨rfl, rfl⟩ | ⟨_, hq, hj⟩ := hback hj
    · obtain ⟨rfl, _⟩ | ⟨_, hq, _⟩ := hback hk
      · rfl
      · exact absurd rfl hq
    · obtain ⟨_, rfl⟩ | ⟨_, _, hk⟩ := hback hk
      · exact absurd rfl hq
      · exact h.about_once hj hk
  case window =>
    intro q
    by_cases hq : q = p
    · subst hq
      rw [hsince, hrow']
      refine ⟨by rintro _ ⟨⟩; exact Nat.zero_le 1, ?_, ?_, fun _ _ => rfl⟩
      · rintro _ _ ⟨⟩
        simp [hpending]
      · rintro _ _ ⟨⟩
        exact hqueued
    · rw [hothers q hq, hrows q hq]
      exact h.window q

theorem Sound.conclude (h : v.Sound) (hi : (v.phase i).About p)
    (hphase : Moves v v' i .idle) (hrow : v.rows p = some row) (hrow' : v'.rows p = some row')
    (hactive : row'.activeId = row.activeId)
    (hstatus : row'.resumeDeliveryStatus = .delivered ∧ v.since p = some 1 ∨
      row'.resumeDeliveryStatus = .failed)
    (hneeds : row'.status = .needsClarification → row.status = .needsClarification)
    (hrows : ∀ q, q ≠ p → v'.rows q = v.rows q) (hsince : v'.since = v.since)
    (hresumed : v'.resumed = v.resumed) (hposted : v'.posted = v.posted) (hlast : v'.last = v.last)
    (hknown : ∀ d, v.known d → v'.known d) : v'.Sound where
  ids := by
    apply h.ids.keep (fun j c hp => (hphase.asking (by simp) hp).2) _ hresumed _ hknown
    · intro q r c hr ha
      by_cases hq : q = p
      · subst hq
        obtain rfl := Option.some.inj (hr.symm.trans hrow')
        exact ⟨row, hrow, hactive.symm.trans ha⟩
      · rw [hrows q hq] at hr
        exact ⟨r, hr, ha⟩
    · intro a ha
      rw [hposted] at ha
      exact h.ids.posted_resumed ha
  stands j := by
    obtain ⟨_, hg⟩ | ⟨hne, hg⟩ := hphase j
    · rw [hg]
      trivial
    · rw [hg]
      apply (h.stands j).keep
      · intro q ha
        have hq : q ≠ p := by
          rintro rfl
          exact hne (h.about_once ha hi)
        refine ⟨by rw [hsince], fun {d} hp => ?_, fun {r'} hr hd => ?_⟩
        · rwa [hposted] at hp
        · rw [hrows q hq] at hr
          exact ⟨r', hr, hd⟩
      · rw [hlast]
      · intro a ha
        rwa [hresumed]
  about_once hi hj := h.about_once (hphase.about id hi).2 (hphase.about id hj).2
  window q := by
    rw [hsince]
    by_cases hq : q = p
    · subst hq
      rw [hrow']
      refine ⟨(h.window q).le_one, ?_, ?_, ?_⟩
      · rintro _ hs ⟨⟩ hd
        obtain ⟨_, hone⟩ | hfailed := hstatus
        · cases hs.symm.trans hone
        · cases hd.symm.trans hfailed
      · rintro _ hs ⟨⟩ hn
        exact (h.window q).resumed hs hrow (hneeds hn)
      · rintro _ ⟨⟩ hp
        obtain ⟨hd, _⟩ | hfailed := hstatus
        · cases hp.symm.trans hd
        · cases hp.symm.trans hfailed
    · rw [hrows q hq]
      exact h.window q

theorem Sound.post {c p : String} {heard : Bool} (h : v.Sound) (hi : v.phase i = .answering p c)
    (hphase : Moves v v' i (if heard then .told p else .refused p)) (hrows : v'.rows = v.rows)
    (hsince : v'.since p = if heard then (v.since p).map (· + 1) else v.since p)
    (hothers : ∀ q, q ≠ p → v'.since q = v.since q) (hresumed : v'.resumed = v.resumed)
    (hposted : ∀ a, v'.posted a ↔ v.posted a ∨ a = (p, c)) (hlast : v'.last = v.last)
    (hknown : ∀ d, v.known d → v'.known d) : v'.Sound := by
  have habout : (v.phase i).About p := by
    rw [hi]
    rfl
  obtain ⟨hzero, _, hres, _⟩ : v.Stands i (.answering p c) := by
    rw [← hi]
    exact h.stands i
  have hback : ∀ {j q}, (v'.phase j).About q → (v.phase j).About q := by
    intro j q ha
    obtain ⟨rfl, hg⟩ | ⟨_, hg⟩ := hphase j
    · rw [hg] at ha
      obtain rfl : p = q := by cases heard <;> exact ha
      exact habout
    · rwa [hg] at ha
  have hasking : ∀ j d, v'.phase j = .asking d → v.phase j = .asking d := by
    intro j d hp
    refine (hphase.asking ?_ hp).2
    cases heard <;> simp
  constructor
  case ids =>
    apply h.ids.keep hasking _ hresumed _ hknown
    · intro q r d hr ha
      rw [hrows] at hr
      exact ⟨r, hr, ha⟩
    · intro a ha
      obtain ha | rfl := (hposted a).mp ha
      · exact h.ids.posted_resumed ha
      · exact hres
  case stands =>
    intro j
    obtain ⟨rfl, hg⟩ | ⟨hne, hg⟩ := hphase j
    · rw [hg]
      cases heard with
      | true =>
        refine ⟨by rw [hsince, hzero]; rfl, fun row hrow => ?_⟩
        rw [hrows] at hrow
        exact (h.window p).waiting hzero hrow
      | false => exact hsince.trans hzero
    · rw [hg]
      apply (h.stands j).keep
      · intro q ha
        have hq : q ≠ p := by
          rintro rfl
          exact hne (h.about_once ha habout)
        refine ⟨hothers q hq, fun {d} hp => ?_, fun {r'} hr hd => ?_⟩
        · obtain hp | heq := (hposted _).mp hp
          · exact hp
          · cases heq
            exact absurd rfl hq
        · rw [hrows] at hr
          exact ⟨r', hr, hd⟩
      · rw [hlast]
      · intro a ha
        rwa [hresumed]
  case about_once => exact fun hi hj => h.about_once (hback hi) (hback hj)
  case window =>
    intro q
    rw [hrows]
    by_cases hq : q = p
    · subst hq
      have hw := h.window q
      cases heard with
      | true =>
        have hone : v'.since q = some 1 := by
          rw [hsince, hzero]
          rfl
        rw [hone]
        refine ⟨?_, nofun, fun _ => hw.resumed (by rw [hzero]; rfl), fun _ _ => rfl⟩
        rintro _ ⟨⟩
        exact Nat.le_refl 1
      | false =>
        rw [show v'.since q = v.since q from hsince]
        exact hw
    · rw [hothers q hq]
      exact h.window q

end FleetView

end IdAgents
