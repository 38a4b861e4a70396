import IdAgents.Outputs.DetailCache

namespace IdAgents.Outputs.Detail
open JsMap List

variable {δ : Type} {q : DetailQueries δ}

def Since (log : List (Nat × δ)) (floor : Nat) (x : δ) : Prop := ∃ v, floor ≤ v ∧ (v, x) ∈ log

theorem Since.mono (h : Since log floor x) (hlog : ∀ e ∈ log, e ∈ log') : Since log' floor x :=
  let ⟨v, hv, hx⟩ := h
  ⟨v, hv, hlog _ hx⟩

def Origin.caller (o : Origin) : Option String := if o.consulted then some o.teamId else none

def Origin.Gives (q : DetailQueries δ) (log : List (Nat × δ)) (floor : Nat) (o : Origin)
    (r : Option ArtifactDetailResponse) : Prop :=
  Reads.Reaches (Since log floor) o.caller (buildArtifactDetail q o.ref o.now) (.done r)

theorem Origin.Gives.mono {o : Origin} (h : o.Gives q log floor r) (hlog : ∀ e ∈ log, e ∈ log') :
    o.Gives q log' floor r :=
  Reads.Reaches.mono h (fun _ hx => hx.mono hlog) fun _ ha => ha

def DetailBuild.ReadFrom (log : List (Nat × δ)) (b : DetailBuild δ) (x : δ) : Prop :=
  ∃ v₀, b.firstRead = some v₀ ∧ Since log v₀ x

structure DetailBuild.Sound (q : DetailQueries δ) (log : List (Nat × δ)) (b : DetailBuild δ) : Prop where
  path : Reads.Reaches (b.ReadFrom log) b.caller (buildArtifactDetail q b.ref b.now) b.prog
  returned : ∀ r, b.phase = .returned r → b.prog = .done r

theorem DetailBuild.Sound.mono {b : DetailBuild δ} (h : b.Sound q log)
    (hlog : ∀ e ∈ log, e ∈ log') : b.Sound q log' :=
  ⟨h.path.mono (fun _ ⟨v, hv, hx⟩ => ⟨v, hv, hx.mono hlog⟩) fun _ ha => ha, h.returned⟩

theorem DetailBuild.Sound.gives {b : DetailBuild δ} (h : b.Sound q log) (hdone : b.prog = .done r)
    (hfloor : ∀ v, b.firstRead = some v → floor ≤ v) : b.toOrigin.Gives q log floor r := by
  have hpath := h.path
  rw [hdone] at hpath
  refine hpath.mono ?_ fun _ ha => ha
  intro x hx
  obtain ⟨v₀, hv₀, v, hv, hmem⟩ := hx
  exact ⟨v, (hfloor v₀ hv₀).trans hv, hmem⟩

namespace Server

def ReadOk (q : DetailQueries δ) (s : Server δ) (r : DetailRead) : Prop :=
  match r.phase with
  | .waiting i => ∃ b, s.builds[i]? = some b ∧ b.ref.artifactId = r.ref.artifactId ∧
      ∀ v, b.firstRead = some v → r.floor ≤ v
  | .answered d o => o.ref.artifactId = r.ref.artifactId ∧ o.Gives q s.log r.floor d
  | .failed _ => True

structure Inv (q : DetailQueries δ) (s : Server δ) : Prop where
  current : (s.version, s.db) ∈ s.log
  floors : ∀ a, s.floors a ≤ s.version
  sound : ∀ b ∈ s.builds, b.Sound q s.log
  readLe : ∀ b ∈ s.builds, ∀ v, b.firstRead = some v → v ≤ s.version
  fresh : ∀ b ∈ s.builds, b.running → ∀ v, b.firstRead = some v → s.floors b.ref.artifactId ≤ v
  cache : ∀ a c, s.detailCache.get? a = some c →
    c.origin.ref.artifactId = a ∧ c.origin.Gives q s.log (s.floors a) (some c.detail)
  inflight : ∀ a i, s.detailInflight.get? a = some i →
    ∃ b, s.builds[i]? = some b ∧ b.ref.artifactId = a ∧ b.running
  floor : ∀ r ∈ s.reads, r.floor ≤ s.version
  reads : ∀ r ∈ s.reads, s.ReadOk q r

theorem Inv.start (x : δ) : Inv q (start x) where
  current := mem_singleton_self _
  floors := fun _ => Nat.le_refl 0
  sound := fun _ h => absurd h not_mem_nil
  readLe := fun _ h => absurd h not_mem_nil
  fresh := fun _ h => absurd h not_mem_nil
  cache := fun _ _ h => nomatch h
  inflight := fun _ _ h => nomatch h
  floor := fun _ h => absurd h not_mem_nil
  reads := fun _ h => absurd h not_mem_nil

variable {s : Server δ}

theorem ReadOk.mono {t : Server δ} (h : s.ReadOk q r) (hlog : ∀ e ∈ s.log, e ∈ t.log)
    (hbuilds : ∀ (i : Nat) (b : DetailBuild δ), s.builds[i]? = some b →
      ∃ b' : DetailBuild δ, t.builds[i]? = some b' ∧ b'.ref = b.ref ∧
        ∀ v, b'.firstRead = some v → b.firstRead = some v ∨ r.floor ≤ v) : t.ReadOk q r := by
  rw [ReadOk] at h ⊢
  cases hphase : r.phase with
  | failed e => trivial
  | answered d o =>
    rw [hphase] at h
    exact ⟨h.1, h.2.mono hlog⟩
  | waiting i =>
    rw [hphase] at h
    obtain ⟨b, hb, hartifact, hfirst⟩ := h
    obtain ⟨b', hb', href, hread⟩ := hbuilds i b hb
    refine ⟨b', hb', by rw [href, hartifact], ?_⟩
    intro v hv
    rcases hread v hv with hold | hnew
    · exact hfirst v hold
    · exact hnew

theorem Inv.write (h : Inv q s) (x : δ) : Inv q (s.write x) := by
  have hlog : ∀ e ∈ s.log, e ∈ (s.write x).log := fun e he => mem_append_left _ he
  constructor
  · exact mem_append_right _ (mem_singleton_self _)
  · exact fun a => (h.floors a).trans (Nat.le_succ _)
  · exact fun b hb => (h.sound b hb).mono hlog
  · exact fun b hb v hv => (h.readLe b hb v hv).trans (Nat.le_succ _)
  · exact h.fresh
  · exact fun a c hc => ⟨(h.cache a c hc).1, (h.cache a c hc).2.mono hlog⟩
  · exact h.inflight
  · exact fun r hr => (h.floor r hr).trans (Nat.le_succ _)
  · exact fun r hr => (h.reads r hr).mono hlog fun i b hb => ⟨b, hb, rfl, fun v hv => .inl hv⟩

def unread (s : Server δ) (artifactId : String) : Bool :=
  s.builds.all fun b =>
    !(b.running && b.ref.artifactId = artifactId) || b.firstRead.all (· = s.version)

theorem unread_spec (h : s.unread artifactId) (hb : b ∈ s.builds) (hrun : b.running)
    (hartifact : b.ref.artifactId = artifactId) (hv : b.firstRead = some v) : v = s.version := by
  have hall := all_eq_true.1 h b hb
  simpa [hrun, hartifact, hv] using hall

theorem Inv.invalidate (h : Inv q s) (hunread : s.unread a) :
    Inv q (s.invalidateArtifactDetail a) := by
  constructor
  · exact h.current
  · intro a'
    rw [invalidateArtifactDetail]
    dsimp only
    split
    · exact Nat.le_refl _
    · exact h.floors a'
  · exact h.sound
  · exact h.readLe
  · intro b hb hrun v hv
    rw [invalidateArtifactDetail]
    dsimp only
    split
    · next hartifact => exact (unread_spec hunread hb hrun hartifact hv).ge
    · exact h.fresh b hb hrun v hv
  · intro a' c hc
    obtain ⟨hne, hc⟩ := Dict.get?_delete.1 hc
    have hold := h.cache a' c hc
    have hfloors : (s.invalidateArtifactDetail a).floors a' = s.floors a' := if_neg hne
    rw [hfloors]
    exact hold
  · intro a' i hi
    exact h.inflight a' i (Dict.get?_delete.1 hi).2
  · exact h.floor
  · exact h.reads

theorem Inv.clear (h : Inv q s) (hunread : ∀ b ∈ s.builds, s.unread b.ref.artifactId) :
    Inv q s.clearArtifactDetailCache where
  current := h.current
  floors := fun _ => Nat.le_refl _
  sound := h.sound
  readLe := h.readLe
  fresh := fun b hb hrun _ hv => (unread_spec (hunread b hb) hb hrun rfl hv).ge
  cache := fun _ _ hc => nomatch hc
  inflight := fun _ _ hi => nomatch hi
  floor := h.floor
  reads := h.reads

theorem Inv.addRead (h : Inv q s) (hok : s.ReadOk q ⟨ref, teamId, s.floors ref.artifactId, phase⟩) :
    Inv q (s.addRead ref teamId phase) := by
  refine ⟨h.current, h.floors, h.sound, h.readLe, h.fresh, h.cache, h.inflight, ?_, ?_⟩
  · intro r hr
    rcases mem_append.1 hr with hold | hnew
    · exact h.floor r hold
    · rw [mem_singleton.1 hnew]
      exact h.floors ref.artifactId
  · intro r hr
    rcases mem_append.1 hr with hold | hnew
    · exact h.reads r hold
    · rw [mem_singleton.1 hnew]
      exact hok

theorem getElem?_concat_left {l : List α} {i : Nat} (h : l[i]? = some a) (b : α) :
    (l ++ [b])[i]? = some a := by
  obtain ⟨hi, _⟩ := List.getElem?_eq_some_iff.1 h
  rw [List.getElem?_append_left hi, h]

theorem Inv.addBuild (h : Inv q s) (ref : ArtifactDetailRef) (teamId now : String) :
    Inv q (s.addBuild q ref teamId now) := by
  constructor
  · exact h.current
  · exact h.floors
  · intro b hb
    rcases mem_append.1 hb with hold | hnew
    · exact h.sound b hold
    · rw [mem_singleton.1 hnew]
      exact ⟨.refl, fun r hr => nomatch hr⟩
  · intro b hb v hv
    rcases mem_append.1 hb with hold | hnew
    · exact h.readLe b hold v hv
    · rw [mem_singleton.1 hnew] at hv
      cases hv
  · intro b hb hrun v hv
    rcases mem_append.1 hb with hold | hnew
    · exact h.fresh b hold hrun v hv
    · rw [mem_singleton.1 hnew] at hv
      cases hv
  · exact h.cache
  · intro a i hi
    change (s.detailInflight.set ref.artifactId s.builds.length).get? a = some i at hi
    rw [Dict.get?_set] at hi
    split at hi
    · next heq =>
      cases hi
      exact ⟨_, getElem?_concat_length, heq.symm, rfl⟩
    · obtain ⟨b, hb, hrest⟩ := h.inflight a i hi
      exact ⟨b, getElem?_concat_left hb _, hrest⟩
  · exact h.floor
  · intro r hr
    exact (h.reads r hr).mono (fun e he => he) fun i b hb =>
      ⟨b, getElem?_concat_left hb _, rfl, fun v hv => .inl hv⟩

theorem Inv.lookup (h : Inv q s) (ref : ArtifactDetailRef) (teamId now : String) :
    Inv q (s.getArtifactDetailCached q ref teamId now) := by
  rw [getArtifactDetailCached]
  cases hhit : s.detailCache.get? ref.artifactId with
  | some hit => exact h.addRead (h.cache _ _ hhit)
  | none =>
    dsimp only
    cases hexisting : s.detailInflight.get? ref.artifactId with
    | some i =>
      obtain ⟨b, hb, hartifact, hrun⟩ := h.inflight _ _ hexisting
      refine h.addRead ⟨b, hb, hartifact, ?_⟩
      rw [← hartifact]
      exact h.fresh b (mem_of_getElem? hb) hrun
    | none =>
      have hbuild := h.addBuild ref teamId now
      exact hbuild.addRead ⟨_, getElem?_concat_length, rfl, fun v hv => nomatch hv⟩

/-- A build that runs goes on as `b'`, for the same request and with no other first read than now. -/
structure Goes (s : Server δ) (b b' : DetailBuild δ) : Prop where
  ref : b'.ref = b.ref
  firstRead : ∀ v, b'.firstRead = some v → b.firstRead = some v ∨ v = s.version

theorem Inv.setBuild (h : Inv q s) (hb : s.builds[i]? = some b) (hrun : b.running)
    (hgoes : s.Goes b b') (hsound : b'.Sound q s.log) {inflight : Dict String Nat}
    (hinflight : ∀ a j, inflight.get? a = some j → s.detailInflight.get? a = some j ∧
      (j = i → b'.running)) :
    Inv q { s with builds := s.builds.set i b', detailInflight := inflight } := by
  have hi : i < s.builds.length := (List.getElem?_eq_some_iff.1 hb).1
  have hmem := List.mem_of_getElem? hb
  have hfirst (n : Nat) (hn : n ≤ s.version) (hold : ∀ v, b.firstRead = some v → n ≤ v) :
      ∀ v, b'.firstRead = some v → n ≤ v := by
    intro v hv
    rcases hgoes.firstRead v hv with hsame | hnow
    · exact hold v hsame
    · rwa [hnow]
  constructor
  · exact h.current
  · exact h.floors
  · intro c hc
    rcases mem_or_eq_of_mem_set hc with hold | hnew
    · exact h.sound c hold
    · rwa [hnew]
  · intro c hc v hv
    rcases mem_or_eq_of_mem_set hc with hold | hnew
    · exact h.readLe c hold v hv
    · rw [hnew] at hv
      rcases hgoes.firstRead v hv with hsame | hnow
      · exact h.readLe b hmem v hsame
      · exact hnow.le
  · intro c hc hcrun
    rcases mem_or_eq_of_mem_set hc with hold | hnew
    · exact h.fresh c hold hcrun
    · rw [hnew, hgoes.ref]
      exact hfirst _ (h.floors _) (h.fresh b hmem hrun)
  · exact h.cache
  · intro a j hj
    obtain ⟨hold, hruns⟩ := hinflight a j hj
    obtain ⟨c, hc, hartifact, hcrun⟩ := h.inflight a j hold
    by_cases hij : j = i
    · subst hij
      obtain rfl : b = c := Option.some.inj (hb.symm.trans hc)
      exact ⟨b', getElem?_set_self hi, by rw [hgoes.ref, hartifact], hruns rfl⟩
    · exact ⟨c, by rw [getElem?_set_ne (Ne.symm hij), hc], hartifact, hcrun⟩
  · exact h.floor
  · intro r hr
    refine (h.reads r hr).mono (fun e he => he) ?_
    intro j c hc
    by_cases hij : j = i
    · subst hij
      obtain rfl : b = c := Option.some.inj (hb.symm.trans hc)
      refine ⟨b', getElem?_set_self hi, hgoes.ref, ?_⟩
      intro v hv
      rcases hgoes.firstRead v hv with hsame | hnow
      · exact .inl hsame
      · rw [hnow]
        exact .inr (h.floor r hr)
    · exact ⟨c, by rw [getElem?_set_ne (Ne.symm hij), hc], rfl, fun v hv => .inl hv⟩

theorem running_phase {b : DetailBuild δ} (h : b.running) : b.phase = .running := by
  rw [DetailBuild.running] at h
  cases hphase : b.phase with
  | running => rfl
  | returned r => rw [hphase] at h; cases h
  | failed e => rw [hphase] at h; cases h

theorem Inv.progress (h : Inv q s) (i : Nat)
    (hf : ∀ b b', b ∈ s.builds → b.running → f b = some b' →
      s.Goes b b' ∧ b'.Sound q s.log ∧ b'.running) : Inv q (s.setBuild i f) := by
  rw [Server.setBuild]
  cases hb : s.builds[i]? with
  | none => exact h
  | some b =>
    dsimp only
    cases hrun : b.running with
    | false => exact h
    | true =>
      cases hnext : f b with
      | none => exact h
      | some b' =>
        obtain ⟨hgoes, hsound, hrun'⟩ := hf b b' (mem_of_getElem? hb) hrun hnext
        exact h.setBuild hb hrun hgoes hsound fun a j hj => ⟨hj, fun _ => hrun'⟩

theorem Sound.next {log : List (Nat × δ)} {b b' : DetailBuild δ} (h : b.Sound q log) (hrun : b.running)
    (horigin : b'.ref = b.ref ∧ b'.now = b.now) (hphase : b'.phase = b.phase)
    (hread : ∀ x, b.ReadFrom log x → b'.ReadFrom log x)
    (hcaller : ∀ a, b.caller = some a → b'.caller = some a)
    (hstep : Reads.Step (b'.ReadFrom log) b'.caller b.prog b'.prog) : b'.Sound q log := by
  constructor
  · rw [horigin.1, horigin.2]
    exact (h.path.mono hread hcaller).tail hstep
  · intro r hr
    rw [hphase, running_phase hrun] at hr
    cases hr

theorem Inv.answer (h : Inv q s) (i j : Nat) : Inv q (s.step q (.answer i j)) := by
  refine h.progress i ?_
  intro b b' hb hrun hnext
  obtain ⟨prog, hprog, rfl⟩ := Option.map_eq_some_iff.1 hnext
  have hfirst (v : Nat) (hv : b.firstRead.or (some s.version) = some v) :
      b.firstRead = some v ∨ v = s.version := by
    cases hread : b.firstRead with
    | some v₀ => rw [hread] at hv; exact .inl hv
    | none => rw [hread] at hv; exact .inr (Option.some.inj hv).symm
  have hversion (v : Nat) (hv : b.firstRead = some v) : v ≤ s.version := h.readLe b hb v hv
  refine ⟨⟨rfl, hfirst⟩, ?_, hrun⟩
  refine Sound.next (h.sound b hb) hrun ⟨rfl, rfl⟩ rfl ?_ (fun _ ha => ha) (.answer hprog ?_)
  · rintro x ⟨v, hv, hx⟩
    exact ⟨v, by rw [hv]; rfl, hx⟩
  · cases hread : b.firstRead with
    | none => exact ⟨s.version, rfl, s.version, Nat.le_refl _, h.current⟩
    | some v => exact ⟨v, rfl, s.version, hversion v hread, h.current⟩

theorem Inv.settle (h : Inv q s) (i : Nat) : Inv q (s.step q (.settle i)) := by
  refine h.progress i ?_
  intro b b' hb hrun hnext
  obtain ⟨prog, hprog, rfl⟩ := Option.map_eq_some_iff.1 hnext
  exact ⟨⟨rfl, fun v hv => .inl hv⟩,
    Sound.next (h.sound b hb) hrun ⟨rfl, rfl⟩ rfl (fun _ hx => hx) (fun _ ha => ha) (.settle hprog),
    hrun⟩

theorem Inv.tell (h : Inv q s) (i : Nat) : Inv q (s.step q (.tell i)) := by
  refine h.progress i ?_
  intro b b' hb hrun hnext
  obtain ⟨prog, hprog, rfl⟩ := Option.map_eq_some_iff.1 hnext
  refine ⟨⟨rfl, fun v hv => .inl hv⟩, ?_, hrun⟩
  refine Sound.next (h.sound b hb) hrun ⟨rfl, rfl⟩ rfl (fun _ hx => hx) ?_ (.tell rfl hprog)
  intro a ha
  rw [Origin.caller] at ha
  split at ha
  · exact ha
  · cases ha

theorem Inv.endBuild (h : Inv q s) (hb : s.builds[i]? = some b) (hrun : b.running)
    (hphase : ∀ r, phase = .returned r → b.prog = .done r) : Inv q (s.endBuild i b phase) := by
  have hsound : ({ b with phase } : DetailBuild δ).Sound q s.log :=
    ⟨(h.sound b (mem_of_getElem? hb)).path, hphase⟩
  have hgoes : s.Goes b { b with phase } := ⟨rfl, fun v hv => .inl hv⟩
  refine h.setBuild hb hrun hgoes hsound ?_
  intro a j hj
  obtain ⟨hne, hj⟩ := Dict.get?_delete.1 hj
  refine ⟨hj, fun hij => absurd ?_ hne⟩
  subst hij
  obtain ⟨c, hc, hartifact, _⟩ := h.inflight a j hj
  obtain rfl : b = c := Option.some.inj (hb.symm.trans hc)
  exact hartifact.symm

theorem Inv.remember (h : Inv q s) (hartifact : c.origin.ref.artifactId = c.detail.artifactId)
    (hgives : c.origin.Gives q s.log (s.floors c.detail.artifactId) (some c.detail)) :
    Inv q (s.rememberArtifactDetail c) := by
  refine ⟨h.current, h.floors, h.sound, h.readLe, h.fresh, ?_, h.inflight, h.floor, h.reads⟩
  intro a c' hc'
  have hset := Dict.get?_keepNewest hc'
  rw [Dict.get?_set] at hset
  split at hset
  · next heq =>
    cases hset
    rw [heq]
    exact ⟨hartifact, hgives⟩
  · exact h.cache a c' (Dict.get?_delete.1 hset).2

theorem Inv.finish (h : Inv q s) (i : Nat) : Inv q (s.finish i) := by
  rw [Server.finish]
  cases hb : s.builds[i]? with
  | none => exact h
  | some b =>
    dsimp only
    split
    · next detail hrun hdone =>
      have hmem := mem_of_getElem? hb
      have hsound := h.sound b hmem
      have hend := h.endBuild hb hrun fun r (hr : BuildPhase.returned (some detail) = .returned r) => by
        cases hr
        exact hdone
      have hartifact : detail.artifactId = b.ref.artifactId := by
        have hends := hsound.path.ends (buildArtifactDetail_ends b.ref b.now)
        rw [hdone] at hends
        exact hends detail rfl
      refine hend.remember hartifact.symm (hsound.gives hdone ?_)
      intro v hv
      change s.floors detail.artifactId ≤ v
      rw [hartifact]
      exact h.fresh b hmem hrun v hv
    · next hrun hdone =>
      refine h.endBuild hb hrun ?_
      intro r hr
      cases hr
      exact hdone
    · exact h

theorem Inv.fail (h : Inv q s) (i : Nat) (e : String) : Inv q (s.fail i e) := by
  rw [Server.fail]
  cases hb : s.builds[i]? with
  | none => exact h
  | some b =>
    dsimp only
    split
    · next hrun => exact h.endBuild hb hrun fun r hr => nomatch hr
    · exact h

theorem Inv.setPhase (h : Inv q s) (i : Nat) (hr : r ∈ s.reads) (phase : ReadPhase)
    (hok : s.ReadOk q { r with phase }) : Inv q (s.setPhase i r phase) := by
  refine ⟨h.current, h.floors, h.sound, h.readLe, h.fresh, h.cache, h.inflight, ?_, ?_⟩
  · intro r' hr'
    rcases mem_or_eq_of_mem_set hr' with hold | hnew
    · exact h.floor r' hold
    · rw [hnew]
      exact h.floor r hr
  · intro r' hr'
    rcases mem_or_eq_of_mem_set hr' with hold | hnew
    · exact h.reads r' hold
    · rwa [hnew]

theorem Inv.resume (h : Inv q s) (i : Nat) : Inv q (s.resume i) := by
  rw [Server.resume]
  cases hr : s.reads[i]? with
  | none => exact h
  | some r =>
    have hmem := mem_of_getElem? hr
    have hok := h.reads r hmem
    rw [ReadOk] at hok
    dsimp only
    cases hphase : r.phase with
    | answered d o => exact h
    | failed e => exact h
    | waiting j =>
      rw [hphase] at hok
      obtain ⟨b, hb, hartifact, hfirst⟩ := hok
      dsimp only
      rw [hb]
      dsimp only
      cases hended : b.phase with
      | running => exact h
      | failed e => exact h.setPhase i hmem (.failed e) trivial
      | returned d =>
        have hsound := h.sound b (mem_of_getElem? hb)
        exact h.setPhase i hmem (.answered d b.toOrigin)
          ⟨hartifact, hsound.gives (hsound.returned d hended) hfirst⟩

def timely (s : Server δ) : Label δ → Bool
  | .invalidate a => s.unread a
  | .clear => s.builds.all fun b => s.unread b.ref.artifactId
  | _ => true

theorem Inv.step (h : Inv q s) (l : Label δ) (htimely : s.timely l) : Inv q (s.step q l) := by
  cases l with
  | write x => exact h.write x
  | invalidate a => exact h.invalidate htimely
  | clear => exact h.clear (all_eq_true.1 htimely)
  | lookup ref teamId now => exact h.lookup ref teamId now
  | answer i j => exact h.answer i j
  | settle i => exact h.settle i
  | tell i => exact h.tell i
  | finish i => exact h.finish i
  | fail i e => exact h.fail i e
  | resume i => exact h.resume i

def timelyRun (q : DetailQueries δ) (s : Server δ) : List (Label δ) → Bool
  | [] => true
  | l :: labels => s.timely l && timelyRun q (s.step q l) labels

theorem Inv.after (h : Inv q s) (htimely : timelyRun q s labels) : Inv q (s.after q labels) := by
  induction labels generalizing s with
  | nil => exact h
  | cons l labels ih =>
    obtain ⟨hl, hrest⟩ := Bool.and_eq_true_iff.1 htimely
    exact ih (h.step l hl) hrest

/-- Every call that has its answer has the detail of its artifact as built from versions of the database
that are not older than the last invalidation before the call. -/
def ServesPresent (q : DetailQueries δ) (s : Server δ) : Prop :=
  ∀ r ∈ s.reads, ∀ d o, r.phase = .answered d o → ∃ ref now u, ref.artifactId = r.ref.artifactId ∧
    Reads.Reaches (Since s.log r.floor) u (buildArtifactDetail q ref now) (.done d)

end Server

/-- In a run in which every invalidation is timely no call is served the past. -/
theorem servesPresent (q : DetailQueries δ) (x : δ) (labels : List (Label δ))
    (htimely : Server.timelyRun q (.start x) labels) :
    ((Server.start x).after q labels).ServesPresent q := by
  intro r hr d o hphase
  have hok := ((Server.Inv.start x).after htimely).reads r hr
  rw [Server.ReadOk, hphase] at hok
  exact ⟨o.ref, o.now, o.caller, hok.1, hok.2⟩

def approvalQueries : DetailQueries Bool where
  getArtifact := fun _ _ => some ⟨none, .null⟩
  getReviewState := fun approved _ => if approved then some (.str "approved") else none
  listOperations := fun _ _ _ => []
  countOperations := fun _ _ => 0
  listComments := fun _ _ _ => []
  listTimelineEvents := fun _ _ _ => []
  listArtifactSourceEvidence := fun _ _ => []
  getArtifactDraft := fun _ _ => none
  catalogPaths := fun _ => []
  readArtifactByLiveSourceId := fun _ _ _ => none
  stat := fun _ _ => .error "ENOENT"
  readFile := fun _ _ _ => .error "ENOENT"
  getArtifactBodyCache := fun _ _ => none
  artifactIdFromPath := fun path => path
  project := fun _ _ parts _ _ _ => parts.review.getD .null

def noteRef : ArtifactDetailRef := ⟨"note-1", "note-1", "artifact_id", none⟩

def noteQueries : List (Label Bool) := List.replicate 8 (.answer 0 0) ++ [.settle 0]

theorem servesPresent_approved :
    Server.ServesPresent approvalQueries ((Server.start false).after approvalQueries
      ([.lookup noteRef "default" "a"] ++ noteQueries ++ [.finish 0, .resume 0, .write true,
        .invalidate "note-1", .lookup noteRef "default" "b"])) :=
  servesPresent approvalQueries false _ (by decide +kernel)

theorem approved_eval (ref : ArtifactDetailRef) (now u : String) :
    ∃ d, (buildArtifactDetail approvalQueries ref now).eval true u = some d ∧
      d.contents = .str "approved" :=
  ⟨_, rfl, rfl⟩

def approvedMeanwhile : List (Label Bool) :=
  [.lookup noteRef "default" "a"] ++ noteQueries ++ [.write true, .invalidate "note-1", .finish 0,
    .lookup noteRef "default" "b"]

theorem not_servesPresent : ¬ ∀ (δ : Type) (q : DetailQueries δ) (x : δ) (labels : List (Label δ)),
    ((Server.start x).after q labels).ServesPresent q := by
  intro h
  have hserved := h Bool approvalQueries false approvedMeanwhile
  obtain ⟨r, hr, d, o, hphase, hfloor, hcontents⟩ :
      ∃ r, ((Server.start false).after approvalQueries approvedMeanwhile).reads[1]? = some r ∧
        ∃ d o, r.phase = .answered (some d) o ∧ r.floor = 1 ∧ d.contents = .null :=
    ⟨_, rfl, _, _, rfl, rfl, rfl⟩
  obtain ⟨ref, now, u, _, hreaches⟩ := hserved r (mem_of_getElem? hr) _ o hphase
  have hsince : ∀ y, Since ((Server.start false).after approvalQueries approvedMeanwhile).log r.floor y →
      y = true := by
    intro y hy
    obtain ⟨v, hv, hmem⟩ := hy
    have hlog : ((Server.start false).after approvalQueries approvedMeanwhile).log =
      [(0, false), (1, true)] := rfl
    rw [hlog] at hmem
    rw [hfloor] at hv
    rcases mem_cons.1 hmem with hold | hnew
    · cases hold
      omega
    · cases mem_singleton.1 hnew
      rfl
  have hcaller : ∀ a, u = some a → some (u.getD "") = some a := by
    intro a ha
    rw [ha]
    rfl
  have heval := (hreaches.mono (fun _ hy => hy) hcaller).eval (R := Eq) (fun _ => rfl) hsince
    (Reads.blind_eq _ _)
  obtain ⟨d', hd', happroved⟩ := approved_eval ref now (u.getD "")
  rw [heval] at hd'
  cases hd'
  rw [hcontents] at happroved
  cases happroved

end IdAgents.Outputs.Detail
