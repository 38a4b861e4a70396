import IdAgents.Orchestration.Safety

namespace IdAgents.Orchestration
open JsText JsMap
section
variable (ctx : AdmissionContext)
section
variable (config : ContinuousOrchestrationConfig)
section
variable (candidates : List BacklogItem)

def progressAfter : Progress :=
  candidates.foldl (consider ctx (slotsFree ctx config) (admissionLimit ctx config))
    { running := ctx.running }

def IsSkipped (before : List BacklogItem) (item : BacklogItem) : Prop :=
  (progressAfter ctx config (before ++ [item])).admits = (progressAfter ctx config before).admits

def SkipsFreely : Prop :=
  ∀ before item after, candidates = before ++ item :: after → IsSkipped ctx config before item →
    (planAdmission candidates ctx config).admits =
      (planAdmission (before ++ after) ctx config).admits ∧
    (planAdmission candidates ctx config).assignments =
      (planAdmission (before ++ after) ctx config).assignments

def takesBuilder (p : Progress) (item : BacklogItem) : Bool :=
  (rowGate ctx (slotsFree ctx config) (admissionLimit ctx config) p.admits.length item).isNone &&
    (poolOf ctx item).any fun poolId =>
      0 < (p.running.poolSlots.get? poolId).getD 0 &&
        (builderIndex ctx item ((p.running.poolBuilders.get? poolId).getD [])).isSome

def keepsBuilder (p : Progress) (item : BacklogItem) : Bool :=
  !takesBuilder ctx config p item ||
    match (laneOf ctx p.running item).1 with
    | .ok lane => (laneGate ctx item lane).isNone
    | .error _ => false

def EmptyHanded : Prop :=
  ∀ before item after, candidates = before ++ item :: after →
    keepsBuilder ctx config (progressAfter ctx config before) item

end

end

end

structure Progress.Agrees (p q : Progress) : Prop where
  admits : p.admits = q.admits
  assignments : p.assignments = q.assignments
  running : p.running = q.running

theorem Progress.Agrees.admitted (h : Progress.Agrees p q) (item : BacklogItem) (lane : Lane) :
    (p.admitted item lane).Agrees (q.admitted item lane) := by
  cases lane with
  | pool poolId builder =>
    refine ⟨congrArg (· ++ [item]) h.admits,
      congrArg (·.set item.itemId builder) h.assignments, ?_⟩
    unfold Progress.admitted
    rw [h.running]
  | own =>
    refine ⟨congrArg (· ++ [item]) h.admits, h.assignments, ?_⟩
    unfold Progress.admitted
    rw [h.running]

variable (ctx : AdmissionContext)

theorem consider_agrees (free limit : Int) (item : BacklogItem) (h : Progress.Agrees p q) :
    (consider ctx free limit p item).Agrees (consider ctx free limit q item) := by
  obtain ⟨admits, assignments, skipped, running⟩ := p
  obtain ⟨admits', assignments', skipped', running'⟩ := q
  obtain ⟨rfl, rfl, rfl⟩ := h
  unfold consider
  dsimp only
  split
  · exact ⟨rfl, rfl, rfl⟩
  · split
    · exact ⟨rfl, rfl, rfl⟩
    · split
      · exact ⟨rfl, rfl, rfl⟩
      · apply Progress.Agrees.admitted
        exact ⟨rfl, rfl, rfl⟩

theorem foldl_agrees (free limit : Int) (items : List BacklogItem) (h : Progress.Agrees p q) :
    (items.foldl (consider ctx free limit) p).Agrees (items.foldl (consider ctx free limit) q) := by
  induction items generalizing p q with
  | nil => exact h
  | cons item items ih => exact ih (consider_agrees ctx free limit item h)

theorem poolLane_running (running : Running) (item : BacklogItem)
    (h : 0 < (running.poolSlots.get? poolId).getD 0 →
      builderIndex ctx item ((running.poolBuilders.get? poolId).getD []) = none) :
    (poolLane ctx running item poolId).2 = running := by
  rw [poolLane]
  split
  · rfl
  · next hslots =>
    have hnone := h (Int.not_le.mp hslots)
    rw [takeBuilder]
    rw [hnone]
    dsimp only
    have hsame : (if running.poolBuilders.has poolId then
        { running with
          poolBuilders := running.poolBuilders.set poolId
            ((running.poolBuilders.get? poolId).getD []) } else running) = running := by
      split
      · next hhas =>
        rw [Dict.has_eq, Option.isSome_iff_exists] at hhas
        obtain ⟨builders, hbuilders⟩ := hhas
        rw [hbuilders, Option.getD_some, Dict.set_self hbuilders]
      · rfl
    rw [hsame]
    rfl

variable {ctx : AdmissionContext}

theorem laneOf_running
    (hrow : rowGate ctx (slotsFree ctx config) (admissionLimit ctx config) p.admits.length item =
      none) (h : takesBuilder ctx config p item = false) :
    (laneOf ctx p.running item).2 = p.running := by
  rw [laneOf]
  rw [takesBuilder] at h
  rw [hrow] at h
  cases hpool : poolOf ctx item with
  | none => rfl
  | some poolId =>
    apply poolLane_running
    intro hslots
    simpa [hpool, hslots] using h

theorem consider_skipped
    (hskip : (consider ctx (slotsFree ctx config) (admissionLimit ctx config) p item).admits =
      p.admits) (h : keepsBuilder ctx config p item) :
    (consider ctx (slotsFree ctx config) (admissionLimit ctx config) p item).Agrees p := by
  unfold consider at hskip ⊢
  cases hrow : rowGate ctx (slotsFree ctx config) (admissionLimit ctx config) p.admits.length
    item with
  | some record => exact ⟨rfl, rfl, rfl⟩
  | none =>
    rw [hrow] at hskip
    dsimp only at hskip ⊢
    have hnotAdmitted : ∀ running' lane,
        ({ p with running := running' }.admitted item lane).admits ≠ p.admits := by
      intro running' lane hsame
      have hlength := congrArg List.length hsame
      cases lane <;> simp [Progress.admitted] at hlength
    rw [keepsBuilder] at h
    have hrunning (htakes : takesBuilder ctx config p item = false) := laneOf_running hrow htakes
    rcases hlane : laneOf ctx p.running item with ⟨record | lane, running'⟩
    · rw [hlane] at h hrunning
      simp only [Bool.or_false, Bool.not_eq_true'] at h
      exact ⟨rfl, rfl, hrunning h⟩
    · rw [hlane] at h hskip hrunning
      dsimp only at h hskip hrunning ⊢
      cases hgate : laneGate ctx item lane with
      | none =>
        rw [hgate] at hskip
        exact absurd hskip (hnotAdmitted running' lane)
      | some record =>
        rw [hgate] at h
        simp only [Option.isNone_some, Bool.or_false, Bool.not_eq_true'] at h
        exact ⟨rfl, rfl, hrunning h⟩

theorem progressAfter_append (config : ContinuousOrchestrationConfig)
    (before after : List BacklogItem) : progressAfter ctx config (before ++ after) =
      after.foldl (consider ctx (slotsFree ctx config) (admissionLimit ctx config))
        (progressAfter ctx config before) :=
  List.foldl_append

theorem planAdmission_of_agrees
    (h : (progressAfter ctx config candidates).Agrees (progressAfter ctx config candidates')) :
    (planAdmission candidates ctx config).admits = (planAdmission candidates' ctx config).admits ∧
      (planAdmission candidates ctx config).assignments =
        (planAdmission candidates' ctx config).assignments := by
  unfold planAdmission
  split
  · exact ⟨rfl, rfl⟩
  · exact ⟨h.admits, h.assignments⟩

/-- Where no candidate is skipped with a builder in hand, skipped candidates use nothing up. -/
theorem skipsFreely_of_emptyHanded (ctx : AdmissionContext)
    (config : ContinuousOrchestrationConfig) (candidates : List BacklogItem)
    (h : EmptyHanded ctx config candidates) : SkipsFreely ctx config candidates := by
  intro before item after hsplit hskip
  rw [IsSkipped] at hskip
  rw [progressAfter_append] at hskip
  have hstep := consider_skipped hskip (h before item after hsplit)
  rw [hsplit]
  apply planAdmission_of_agrees
  rw [progressAfter_append, progressAfter_append, List.foldl_cons]
  exact foldl_agrees ctx _ _ after hstep

def oneBuilder : AdmissionContext :=
  probeContext (Dict.empty.set "core" ["ada"]) (fun _ => some "core") (Dict.empty.set "core" 2)
    .empty

def bodiless : BacklogItem := { probe "bodiless" none [] with dispatchBody := none }

/-- The row without a body takes the only builder, and the row after it finds none. -/
theorem not_skipsFreely : ¬ SkipsFreely oneBuilder ⟨2⟩ [bodiless, probe "whole" none []] := by
  intro h
  have hskip : IsSkipped oneBuilder ⟨2⟩ [] bodiless := by
    rw [IsSkipped]
    decide +kernel
  have hsame := (h [] bodiless [probe "whole" none []] rfl hskip).1
  revert hsame
  decide +kernel

/-- Two rows with bodies for the one builder: the second is skipped with nothing in hand. -/
theorem skipsFreely_of_emptyHanded_two :
    SkipsFreely oneBuilder ⟨2⟩ [probe "first" none [], probe "second" none []] := by
  apply skipsFreely_of_emptyHanded
  intro before item after hsplit
  cases before with
  | nil =>
    obtain ⟨rfl, rfl⟩ := List.cons.inj hsplit
    decide +kernel
  | cons first before =>
    obtain ⟨rfl, hrest⟩ := List.cons.inj hsplit
    cases before with
    | nil =>
      obtain ⟨rfl, rfl⟩ := List.cons.inj hrest
      decide +kernel
    | cons second before =>
      obtain ⟨rfl, hnil⟩ := List.cons.inj hrest
      cases before <;> cases hnil

theorem consider_extends : p.admits <+: (consider ctx free limit p item).admits := by
  rcases consider_cases ctx free limit p item with ⟨_, _, hskip, _⟩ | ⟨lane, _, hadds, _⟩
  · rw [hskip]
    exact List.prefix_rfl
  · rw [hadds]
    cases lane <;> exact List.prefix_append _ _

/-- Under a larger limit all goes as under the smaller one, until that one is used up. -/
theorem foldl_extends {p q : Progress} {items : List BacklogItem} (hle : limit ≤ limit')
    (hbefore : p.admits <+: q.admits)
    (hsame : (p.admits.length : Int) < limit → p = q) :
    (items.foldl (consider ctx free limit) p).admits <+:
      (items.foldl (consider ctx free limit') q).admits := by
  induction items generalizing p q with
  | nil => exact hbefore
  | cons item items ih =>
    by_cases hlt : (p.admits.length : Int) < limit
    · have hcap : consider ctx free limit p item = consider ctx free limit' p item := by
        simp only [consider, rowGate, capGate, if_pos hlt, if_pos (lt_of_lt_of_le hlt hle)]
      rw [← hsame hlt]
      exact ih (hcap ▸ List.prefix_rfl) fun _ => hcap
    · rcases consider_cases ctx free limit p item with ⟨_, _, hskip, _⟩ | ⟨_, _, _, _, _, hcap⟩
      · rw [List.foldl_cons, hskip]
        exact ih (hbefore.trans consider_extends) fun hc => absurd hc hlt
      · exact absurd hcap hlt

/-- A larger limit on the rows of a tick only adds rows to its plan, after all the others. -/
theorem planAdmission_extends (candidates : List BacklogItem) (ctx : AdmissionContext)
    (config : ContinuousOrchestrationConfig) (k : ℕ) :
    (planAdmission candidates ctx config).admits <+:
      (planAdmission candidates { ctx with admitLimit := ctx.admitLimit + k } config).admits := by
  cases hhalt : tickHalt ctx with
  | some reason =>
    rw [planAdmission, hhalt]
    exact List.nil_prefix
  | none =>
    have hlarger : tickHalt { ctx with admitLimit := ctx.admitLimit + k } = none := hhalt
    obtain ⟨p, rfl, hp⟩ := planAdmission_running hhalt candidates config
    obtain ⟨q, rfl, hq⟩ := planAdmission_running hlarger candidates config
    rw [hp, hq]
    refine foldl_extends ?_ List.prefix_rfl fun _ => rfl
    simp only [admissionLimit, slotsFree]
    omega

end IdAgents.Orchestration
