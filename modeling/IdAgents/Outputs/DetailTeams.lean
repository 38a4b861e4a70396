import IdAgents.Outputs.DetailFreshness

namespace IdAgents.Outputs.Detail
open JsMap Server

variable {δ : Type} {q : DetailQueries δ}

def Origin.serves (o : Origin) (ref : ArtifactDetailRef) (teamId : String) : Bool :=
  o.ref = ref && (!o.consulted || o.teamId = teamId)

theorem Origin.serves_spec {o : Origin} {ref : ArtifactDetailRef} {teamId : String}
    (h : o.serves ref teamId) : o.ref = ref ∧ ∀ a, o.caller = some a → some teamId = some a := by
  obtain ⟨href, hteam⟩ := Bool.and_eq_true_iff.1 h
  constructor
  · exact of_decide_eq_true href
  · intro a ha
    rw [Origin.caller] at ha
    split at ha
    · next hconsulted =>
      have hsame : o.teamId = teamId := by simpa [hconsulted] using hteam
      rw [← hsame, ha]
    · cases ha

namespace Server

def apart (s : Server δ) : Label δ → Bool
  | .lookup ref teamId _ =>
    (s.detailCache.get? ref.artifactId).all fun hit => hit.origin.serves ref teamId
  | .resume i => s.reads[i]?.all fun r => match r.phase with
    | .waiting j => s.builds[j]?.all fun b => match b.phase with
      | .returned _ => b.toOrigin.serves r.ref r.teamId
      | _ => true
    | _ => true
  | _ => true

def apartRun (q : DetailQueries δ) (s : Server δ) : List (Label δ) → Bool
  | [] => true
  | l :: labels => s.apart l && apartRun q (s.step q l) labels

def Apart (s : Server δ) : Prop :=
  ∀ r ∈ s.reads, ∀ d o, r.phase = .answered d o → o.serves r.ref r.teamId

theorem Apart.start (x : δ) : (start x).Apart := fun _ h => absurd h List.not_mem_nil

variable {s : Server δ}

theorem Apart.addRead (h : s.Apart) (hphase : ∀ d o, phase = .answered d o → o.serves ref teamId) :
    (s.addRead ref teamId phase).Apart := by
  intro r hr
  rcases List.mem_append.1 hr with hold | hnew
  · exact h r hold
  · rw [List.mem_singleton.1 hnew]
    exact hphase

theorem Apart.setPhase (h : s.Apart) (i : Nat) (r : DetailRead) (phase : ReadPhase)
    (hphase : ∀ d o, phase = .answered d o → o.serves r.ref r.teamId) : (s.setPhase i r phase).Apart := by
  intro r' hr'
  rcases List.mem_or_eq_of_mem_set hr' with hold | hnew
  · exact h r' hold
  · rw [hnew]
    exact hphase

theorem setBuild_reads (s : Server δ) (i : Nat) (f : DetailBuild δ → Option (DetailBuild δ)) :
    (s.setBuild i f).reads = s.reads := by
  rw [setBuild]
  split
  · split <;> rfl
  · rfl

theorem finish_reads (s : Server δ) (i : Nat) : (s.finish i).reads = s.reads := by
  rw [finish]
  split
  · split <;> rfl
  · rfl

theorem fail_reads (s : Server δ) (i : Nat) (e : String) : (s.fail i e).reads = s.reads := by
  rw [fail]
  split
  · split <;> rfl
  · rfl

theorem Apart.of_reads {t : Server δ} (h : s.Apart) (hreads : t.reads = s.reads) : t.Apart := by
  intro r hr
  rw [hreads] at hr
  exact h r hr

theorem Apart.lookup (h : s.Apart) (ref : ArtifactDetailRef) (teamId now : String)
    (hapart : s.apart (.lookup ref teamId now)) :
    (s.getArtifactDetailCached q ref teamId now).Apart := by
  rw [getArtifactDetailCached]
  rw [apart] at hapart
  cases hhit : s.detailCache.get? ref.artifactId with
  | some hit =>
    rw [hhit] at hapart
    refine h.addRead ?_
    intro d o heq
    cases heq
    exact hapart
  | none =>
    dsimp only
    cases s.detailInflight.get? ref.artifactId with
    | some i => exact h.addRead fun d o heq => by cases heq
    | none =>
      have hbuild : (s.addBuild q ref teamId now).Apart := h
      exact hbuild.addRead fun d o heq => by cases heq

theorem Apart.resume (h : s.Apart) (i : Nat) (hapart : s.apart (.resume i)) :
    (s.resume i).Apart := by
  rw [Server.resume]
  rw [apart] at hapart
  cases hr : s.reads[i]? with
  | none => exact h
  | some r =>
    rw [hr, Option.all_some] at hapart
    dsimp only
    cases hphase : r.phase with
    | answered d o => exact h
    | failed e => exact h
    | waiting j =>
      rw [hphase] at hapart
      dsimp only at hapart ⊢
      cases hb : s.builds[j]? with
      | none => exact h
      | some b =>
        rw [hb, Option.all_some] at hapart
        dsimp only
        cases hended : b.phase with
        | running => exact h
        | failed e => exact h.setPhase i r (.failed e) fun d o heq => by cases heq
        | returned d =>
          rw [hended] at hapart
          refine h.setPhase i r (.answered d b.toOrigin) ?_
          intro d' o heq
          cases heq
          exact hapart

theorem Apart.step (h : s.Apart) (l : Label δ) (hapart : s.apart l) : (s.step q l).Apart := by
  cases l with
  | write x => exact h
  | invalidate a => exact h
  | clear => exact h
  | lookup ref teamId now => exact h.lookup ref teamId now hapart
  | answer i j => exact h.of_reads (setBuild_reads s i _)
  | settle i => exact h.of_reads (setBuild_reads s i _)
  | tell i => exact h.of_reads (setBuild_reads s i _)
  | finish i => exact h.of_reads (finish_reads s i)
  | fail i e => exact h.of_reads (fail_reads s i e)
  | resume i => exact h.resume i hapart

theorem Apart.after (h : s.Apart) (hapart : apartRun q s labels) : (s.after q labels).Apart := by
  induction labels generalizing s with
  | nil => exact h
  | cons l labels ih =>
    obtain ⟨hl, hrest⟩ := Bool.and_eq_true_iff.1 hapart
    exact ih (h.step l hl) hrest

/-- Every answer is the one `buildArtifactDetail` computes for the call's own reference and team, from
versions of the database not older than the last invalidation before the call. -/
def ServesOwn (q : DetailQueries δ) (s : Server δ) : Prop :=
  ∀ r ∈ s.reads, ∀ d o, r.phase = .answered d o → ∃ now,
    Reads.Reaches (Since s.log r.floor) (some r.teamId) (buildArtifactDetail q r.ref now) (.done d)

/-- Where all versions of the database look to a team like one, its answers are the detail of that one,
up to the time of the build: two such runs give the team the same. -/
def Steady (q : DetailQueries δ) (s : Server δ) : Prop :=
  ∀ team x, (∀ e ∈ s.log, Agree q team e.2 x) → ∀ r ∈ s.reads, r.teamId = team →
    ∀ d o, r.phase = .answered d o → ∃ now, d = (buildArtifactDetail q r.ref now).eval x team

theorem ServesOwn.steady (h : s.ServesOwn q) : s.Steady q := by
  intro team x hlog r hr hteam d o hphase
  obtain ⟨now, hreaches⟩ := h r hr d o hphase
  rw [hteam] at hreaches
  refine ⟨now, (hreaches.eval (Agree.refl q team) ?_ (buildArtifactDetail_blind r.ref now team)).symm⟩
  intro y hy
  obtain ⟨v, _, hmem⟩ := hy
  exact hlog _ hmem

end Server

/-- In a run in which every invalidation is timely and every answer comes from a build that serves its
call, a team gets its own details, whatever the others do. -/
theorem servesOwn (q : DetailQueries δ) (x : δ) (labels : List (Label δ))
    (htimely : timelyRun q (.start x) labels) (hapart : apartRun q (.start x) labels) :
    ((start x).after q labels).ServesOwn q ∧ ((start x).after q labels).Steady q := by
  have hown : ((start x).after q labels).ServesOwn q := by
    intro r hr d o hphase
    have hok := ((Server.Inv.start x).after htimely).reads r hr
    rw [Server.ReadOk, hphase] at hok
    obtain ⟨href, hcaller⟩ := Origin.serves_spec ((Server.Apart.start x).after hapart r hr d o hphase)
    refine ⟨o.now, ?_⟩
    rw [← href]
    exact Reads.Reaches.mono hok.2 (fun _ hy => hy) hcaller
  exact ⟨hown, hown.steady⟩

/-- One query of team `a`, with a file. -/
def teamQueries : DetailQueries Unit where
  getArtifact := fun _ _ => none
  getReviewState := fun _ _ => none
  listOperations := fun _ _ _ => []
  countOperations := fun _ _ => 0
  listComments := fun _ _ _ => []
  listTimelineEvents := fun _ _ _ => []
  listArtifactSourceEvidence := fun _ _ => []
  getArtifactDraft := fun _ _ => none
  catalogPaths := fun _ => []
  readArtifactByLiveSourceId := fun _ team _ =>
    if team = "a" then some ⟨some "/a/out.md", .null⟩ else none
  stat := fun _ _ => .ok (true, 5)
  readFile := fun _ _ _ => .ok "plans"
  getArtifactBodyCache := fun _ _ => none
  artifactIdFromPath := fun path => path
  project := fun _ _ _ _ _ _ => .null

def outRef : ArtifactDetailRef := ⟨"query:q1:out.md", "query:q1:out.md", "artifact_id", none⟩

def outBuild (team now : String) : List (Label Unit) :=
  [.lookup outRef team now] ++ List.replicate 8 (.answer 0 0) ++ [.settle 0, .tell 0] ++
    [.answer 0 0, .settle 0, .answer 0 0, .settle 0, .answer 0 0, .settle 0, .finish 0, .resume 0]

theorem servesOwn_team : Server.ServesOwn teamQueries ((start ()).after teamQueries
      (outBuild "a" "t" ++ [.lookup outRef "a" "u"])) ∧
    Server.Steady teamQueries ((start ()).after teamQueries
      (outBuild "a" "t" ++ [.lookup outRef "a" "u"])) :=
  servesOwn teamQueries () _ (by decide +kernel) (by decide +kernel)

theorem other_eval (now : String) : (buildArtifactDetail teamQueries outRef now).eval () "b" = none := by
  rfl

theorem not_servesOwn : ¬ ∀ (δ : Type) (q : DetailQueries δ) (x : δ) (labels : List (Label δ)),
    ((start x).after q labels).ServesOwn q := by
  intro h
  have hserved := h Unit teamQueries () (outBuild "a" "t" ++ [.lookup outRef "b" "u"])
  obtain ⟨r, hr, d, o, hphase, href, hteam⟩ :
      ∃ r, ((start ()).after teamQueries
          (outBuild "a" "t" ++ [.lookup outRef "b" "u"])).reads[1]? = some r ∧
        ∃ d o, r.phase = .answered (some d) o ∧ r.ref = outRef ∧ r.teamId = "b" :=
    ⟨_, rfl, _, _, rfl, rfl, rfl⟩
  obtain ⟨now, hreaches⟩ := hserved r (List.mem_of_getElem? hr) _ o hphase
  rw [href, hteam] at hreaches
  have heval := hreaches.eval (R := Eq) (fun _ => rfl) (fun _ _ => Subsingleton.elim _ ()) (Reads.blind_eq _ _)
  rw [other_eval now] at heval
  cases heval

end IdAgents.Outputs.Detail
