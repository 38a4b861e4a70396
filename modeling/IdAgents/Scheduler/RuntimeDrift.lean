import IdAgents.Orchestration.Admission

namespace IdAgents.RuntimeDrift
open JsText JsMap Orchestration

inductive RuntimeDriftState where
  | healthy | pending | offline | unknown
deriving DecidableEq

def RuntimeDriftState.text : RuntimeDriftState → String
  | healthy => "healthy"
  | pending => "pending"
  | offline => "offline"
  | unknown => "unknown"

def isDegraded (s : RuntimeDriftState) : Bool := s = .pending || s = .offline

/-- Its instants are ISO texts in the source. -/
structure AgentDriftTrackerState where
  state : RuntimeDriftState := .unknown
  since : Option Int := none
  lastAlertAt : Option Int := none

inductive DriftAlertKind where
  | drifted | recovered
deriving DecidableEq

structure DriftAlert where
  kind : DriftAlertKind
  message : String

def shouldReAlert (prev : AgentDriftTrackerState) (now reAlertMs : Int) : Bool :=
  prev.lastAlertAt.all fun last => reAlertMs ≤ now - last

def evaluateRuntimeDrift (prev : AgentDriftTrackerState) (curr : RuntimeDriftState) (now : Int)
    (reAlertMs : Int) : AgentDriftTrackerState × Option DriftAlert :=
  if curr = .unknown then (prev, none)
  else if prev.state = .unknown then (⟨curr, some now, none⟩, none)
  else if curr = .healthy then
    if isDegraded prev.state then
      (⟨.healthy, some now, none⟩,
        some ⟨.recovered, s!"Agent runtime recovered — was {prev.state.text}, now healthy."⟩)
    else (prev, none)
  else if prev.state = .healthy then
    (⟨curr, some now, some now⟩,
      some ⟨.drifted, s!"Agent runtime flipped healthy -> {curr.text}."⟩)
  else
    let since := prev.since.getD now
    if shouldReAlert prev now reAlertMs then
      (⟨curr, some since, some now⟩, some ⟨.drifted, s!"Agent runtime still {curr.text} (since " ++
        ((prev.since.map toISOString).getD "unknown") ++ ")."⟩)
    else (⟨curr, some since, prev.lastAlertAt⟩, none)

structure RuntimeDriftAgent where
  id : String
  name : String
  status : Option String
  runtime : Option String := none

/-- `summary.runtimes_down` of a routing-health model. -/
abbrev RuntimesDown := List String

def LIVE_AGENT_STATUSES : List String := ["running", "active", "online", "healthy"]

def OFFLINE_AGENT_STATUSES : List String := ["stopped", "offline", "deleted", "unhealthy"]

def providersConstrainedByRoutingHealth (model : Option RuntimesDown) : List Provider :=
  ((model.getD []).map fun name =>
    resolveProviderFromRuntime (runtimeText (normalizeRuntime name))).eraseDups
section
variable (agent : RuntimeDriftAgent)

def statusText : String := toLowerCase (trim (agent.status.getD ""))

def isDesiredOnlineAgent : Bool :=
  LIVE_AGENT_STATUSES.contains (statusText agent)

def deriveRuntimeDriftState (model : Option RuntimesDown) : RuntimeDriftState :=
  let status := statusText agent
  if status = "" then .unknown
  else if OFFLINE_AGENT_STATUSES.contains status then .offline
  else if LIVE_AGENT_STATUSES.contains status then
    if (providersConstrainedByRoutingHealth model).contains
      (resolveProviderFromRuntime (agent.runtime.getD "")) then .pending else .healthy
  else .pending

end

structure AgentDriftInput where
  agentId : String
  agentName : String
  state : RuntimeDriftState

def deriveFleetRuntimeDriftInputs (agents : List RuntimeDriftAgent) (model : Option RuntimesDown) :
    List AgentDriftInput :=
  (agents.filter isDesiredOnlineAgent).map fun agent =>
    ⟨agent.id, agent.name, deriveRuntimeDriftState agent model⟩

abbrev FleetRuntimeDriftState := Dict String AgentDriftTrackerState

structure AgentDriftAlert where
  agentId : String
  agentName : String
  alert : DriftAlert

structure DriftedAgentSummary where
  agentId : String
  agentName : String
  state : RuntimeDriftState
  since : Option Int

structure FleetDriftResult where
  next : FleetRuntimeDriftState := .empty
  alerts : List AgentDriftAlert := []
  driftedAgents : List DriftedAgentSummary := []

/-- The kinds of the alerts on an agent. -/
def FleetDriftResult.kinds (result : FleetDriftResult) (id : String) : List DriftAlertKind :=
  (result.alerts.filter (·.agentId = id)).map (·.alert.kind)

def observe (prev : FleetRuntimeDriftState) (now reAlertMs : Int) (result : FleetDriftResult)
    (input : AgentDriftInput) : FleetDriftResult :=
  let (next, alert) :=
    evaluateRuntimeDrift ((prev.get? input.agentId).getD {}) input.state now reAlertMs
  { next := result.next.set input.agentId next
    alerts := result.alerts ++ (alert.map (⟨input.agentId, input.agentName, ·⟩)).toList
    driftedAgents := result.driftedAgents ++ if isDegraded next.state then
      [⟨input.agentId, input.agentName, next.state, next.since⟩] else [] }

def evaluateFleetRuntimeDrift (prev : FleetRuntimeDriftState) (inputs : List AgentDriftInput)
    (now : Int) (reAlertMs : Int := 3600000) : FleetDriftResult :=
  inputs.foldl (observe prev now reAlertMs) {}

section
variable {prev : FleetRuntimeDriftState} {now reAlertMs : Int} {inputs : List AgentDriftInput}
  {id : String}

theorem find?_absent (h : id ∉ inputs.map (·.agentId)) : inputs.find? (·.agentId = id) = none :=
  List.find?_eq_none.mpr fun i hi heq => h (List.mem_map.mpr ⟨i, hi, of_decide_eq_true heq⟩)

theorem foldl_observe_get? (h : (inputs.map (·.agentId)).Nodup) (result : FleetDriftResult) :
    (inputs.foldl (observe prev now reAlertMs) result).next.get? id =
      match inputs.find? (·.agentId = id) with
      | some input =>
        some (evaluateRuntimeDrift ((prev.get? id).getD {}) input.state now reAlertMs).1
      | none => result.next.get? id := by
  induction inputs generalizing result with
  | nil => rfl
  | cons input rest ih =>
    obtain ⟨hnew, hrest⟩ := List.nodup_cons.mp h
    rw [List.foldl_cons, ih hrest]
    by_cases hid : input.agentId = id
    · rw [find?_absent (hid ▸ hnew), List.find?_cons_of_pos (by simpa using hid)]
      simp [observe, hid]
    · rw [List.find?_cons_of_neg (by simpa using hid)]
      cases rest.find? (·.agentId = id) with
      | none => simp [observe, Dict.get?_set_ne (Ne.symm hid)]
      | some _ => rfl

theorem kinds_observe (result : FleetDriftResult) (input : AgentDriftInput) :
    (observe prev now reAlertMs result input).kinds id = result.kinds id ++
      if input.agentId = id then ((evaluateRuntimeDrift ((prev.get? id).getD {}) input.state now
        reAlertMs).2.map (·.kind)).toList else [] := by
  simp only [FleetDriftResult.kinds, observe, List.filter_append, List.map_append]
  congr 1
  by_cases hid : input.agentId = id
  · subst hid
    cases (evaluateRuntimeDrift ((prev.get? input.agentId).getD {}) input.state now reAlertMs).2 <;>
      simp
  · cases (evaluateRuntimeDrift ((prev.get? input.agentId).getD {}) input.state now reAlertMs).2 <;>
      simp [hid]

theorem foldl_observe_kinds (h : (inputs.map (·.agentId)).Nodup) (result : FleetDriftResult) :
    (inputs.foldl (observe prev now reAlertMs) result).kinds id = result.kinds id ++
      match inputs.find? (·.agentId = id) with
      | some input => ((evaluateRuntimeDrift ((prev.get? id).getD {}) input.state now
          reAlertMs).2.map (·.kind)).toList
      | none => [] := by
  induction inputs generalizing result with
  | nil => simp
  | cons input rest ih =>
    obtain ⟨hnew, hrest⟩ := List.nodup_cons.mp h
    rw [List.foldl_cons, ih hrest, kinds_observe, List.append_assoc]
    by_cases hid : input.agentId = id
    · rw [find?_absent (hid ▸ hnew), List.find?_cons_of_pos (by simpa using hid), if_pos hid]
      simp
    · rw [List.find?_cons_of_neg (by simpa using hid), if_neg hid, List.nil_append]

end

/-- One check of the fleet; no two rows have one id. -/
structure Check where
  agents : List RuntimeDriftAgent
  model : Option RuntimesDown
  now : Int
  nodup : (agents.map (·.id)).Nodup

structure DriftRun where
  checks : List Check
  reAlertMs : Int := 3600000
  ordered : checks.Pairwise (·.now ≤ ·.now)

namespace DriftRun
section
variable (run : DriftRun)

def result (state : FleetRuntimeDriftState) (check : Check) : FleetDriftResult :=
  evaluateFleetRuntimeDrift state (deriveFleetRuntimeDriftInputs check.agents check.model) check.now
    run.reAlertMs

def state (n : Nat) : FleetRuntimeDriftState :=
  (run.checks.take n).foldl (fun state check => (run.result state check).next) .empty

/-- The alerts on an agent at a check. -/
def alerts (id : String) (n : Nat) : List DriftAlertKind :=
  match run.checks[n]? with
  | some check => (run.result (run.state n) check).kinds id
  | none => []

/-- The derived state of an agent's row at a check. -/
def derived (id : String) (n : Nat) : Option RuntimeDriftState :=
  run.checks[n]?.bind fun check =>
    (check.agents.find? (·.id = id)).map (deriveRuntimeDriftState · check.model)

/-- That of a row which is desired online. -/
def observed (id : String) (n : Nat) : Option RuntimeDriftState :=
  run.checks[n]?.bind fun check =>
    ((check.agents.find? (·.id = id)).filter isDesiredOnlineAgent).map
      (deriveRuntimeDriftState · check.model)

end

variable (run : DriftRun) {agents : List RuntimeDriftAgent} {id : String} {n m : Nat}
  {s : RuntimeDriftState} {check : Check}

theorem find?_desired (h : (agents.map (·.id)).Nodup) :
    (agents.filter isDesiredOnlineAgent).find? (·.id = id) =
      (agents.find? (·.id = id)).filter isDesiredOnlineAgent := by
  induction agents with
  | nil => rfl
  | cons agent rest ih =>
    obtain ⟨hnew, hrest⟩ := List.nodup_cons.mp h
    by_cases hid : agent.id = id
    · have hnone : (rest.filter isDesiredOnlineAgent).find? (·.id = id) = none :=
        List.find?_eq_none.mpr fun i hi heq => hnew (List.mem_map.mpr
          ⟨i, (List.mem_filter.mp hi).1, (of_decide_eq_true heq).trans hid.symm⟩)
      cases hon : isDesiredOnlineAgent agent with
      | true => simp [Option.filter, hon, hid]
      | false => rw [List.filter_cons_of_neg (by simp [hon]), hnone]; simp [Option.filter, hon, hid]
    · rw [List.find?_cons_of_neg (by simpa using hid), ← ih hrest]
      cases hon : isDesiredOnlineAgent agent <;> simp [hon, hid]

theorem find?_inputs (h : (agents.map (·.id)).Nodup) (model : Option RuntimesDown) :
    (deriveFleetRuntimeDriftInputs agents model).find? (·.agentId = id) =
      ((agents.find? (·.id = id)).filter isDesiredOnlineAgent).map fun agent =>
        ⟨agent.id, agent.name, deriveRuntimeDriftState agent model⟩ := by
  rw [deriveFleetRuntimeDriftInputs, List.find?_map, ← find?_desired h]
  rfl

theorem nodup_inputs (h : (agents.map (·.id)).Nodup) (model : Option RuntimesDown) :
    ((deriveFleetRuntimeDriftInputs agents model).map (·.agentId)).Nodup := by
  have heq : (deriveFleetRuntimeDriftInputs agents model).map (·.agentId) =
      (agents.filter isDesiredOnlineAgent).map (·.id) := by
    simp [deriveFleetRuntimeDriftInputs]
  exact heq ▸ h.sublist (List.filter_sublist.map _)

theorem state_succ (h : run.checks[n]? = some check) :
    run.state (n + 1) = (run.result (run.state n) check).next := by
  obtain ⟨hn, rfl⟩ := List.getElem?_eq_some_iff.mp h
  rw [state, List.take_succ_eq_append_getElem hn, List.foldl_append]
  rfl

theorem observed_eq (h : run.checks[n]? = some check) :
    run.observed id n = ((check.agents.find? (·.id = id)).filter isDesiredOnlineAgent).map
      (deriveRuntimeDriftState · check.model) := by
  rw [observed, h]
  rfl

theorem tracker_succ (h : run.checks[n]? = some check) :
    (run.state (n + 1)).get? id = (run.observed id n).map fun s =>
      (evaluateRuntimeDrift (((run.state n).get? id).getD {}) s check.now run.reAlertMs).1 := by
  rw [run.state_succ h, result, evaluateFleetRuntimeDrift,
    foldl_observe_get? (nodup_inputs check.nodup _), find?_inputs check.nodup, run.observed_eq h]
  cases (check.agents.find? (·.id = id)).filter isDesiredOnlineAgent with
  | none => simp
  | some agent => simp

theorem alerts_eq (h : run.checks[n]? = some check) :
    run.alerts id n = match run.observed id n with
      | some s => ((evaluateRuntimeDrift (((run.state n).get? id).getD {}) s check.now
          run.reAlertMs).2.map (·.kind)).toList
      | none => [] := by
  rw [alerts, h]
  simp only [result, evaluateFleetRuntimeDrift]
  rw [foldl_observe_kinds (nodup_inputs check.nodup _), find?_inputs check.nodup, run.observed_eq h]
  cases (check.agents.find? (·.id = id)).filter isDesiredOnlineAgent with
  | none => simp [FleetDriftResult.kinds]
  | some agent => simp [FleetDriftResult.kinds]

end DriftRun

section
variable {prev : AgentDriftTrackerState} {curr : RuntimeDriftState} {now reAlertMs : Int}

theorem evaluate_state (h : curr ≠ .unknown) :
    (evaluateRuntimeDrift prev curr now reAlertMs).1.state = curr := by
  simp only [evaluateRuntimeDrift, if_neg h, isDegraded]
  cases hprev : prev.state <;> cases curr <;> simp_all <;> split <;> rfl

theorem evaluate_baseline (h : prev.state = .unknown) :
    (evaluateRuntimeDrift prev curr now reAlertMs).2 = none := by
  simp only [evaluateRuntimeDrift, if_pos h]
  split <;> rfl

theorem evaluate_drifted (h : prev.state = .healthy) (hc : isDegraded curr) :
    (evaluateRuntimeDrift prev curr now reAlertMs).2.map (·.kind) = some .drifted := by
  cases curr <;> simp_all [evaluateRuntimeDrift, isDegraded]

theorem evaluate_healthy (h : prev.state = .healthy) :
    (evaluateRuntimeDrift prev .healthy now reAlertMs).2 = none := by
  simp [evaluateRuntimeDrift, isDegraded, h]

theorem evaluate_recovered (h : isDegraded prev.state) :
    (evaluateRuntimeDrift prev .healthy now reAlertMs).2.map (·.kind) = some .recovered := by
  have hne : prev.state ≠ .unknown := by rintro heq; simp [heq, isDegraded] at h
  simp [evaluateRuntimeDrift, h, hne]

theorem evaluate_lastAlertAt
    (h : (evaluateRuntimeDrift prev curr now reAlertMs).2.map (·.kind) = some .drifted) :
    (evaluateRuntimeDrift prev curr now reAlertMs).1.lastAlertAt = some now := by
  unfold evaluateRuntimeDrift at h ⊢
  grind

/-- Within a degraded streak the alerts are repeats. -/
theorem evaluate_streak (h : isDegraded prev.state) (hc : isDegraded curr) :
    let r := evaluateRuntimeDrift prev curr now reAlertMs
    (r.2 = none ∧ r.1.lastAlertAt = prev.lastAlertAt) ∨
      (r.2.map (·.kind) = some .drifted ∧ r.1.lastAlertAt = some now ∧
        shouldReAlert prev now reAlertMs) := by
  have hne : prev.state ≠ .unknown := by rintro heq; simp [heq, isDegraded] at h
  have hh : prev.state ≠ .healthy := by rintro heq; simp [heq, isDegraded] at h
  have hcu : curr ≠ .unknown := by rintro rfl; simp [isDegraded] at hc
  have hch : curr ≠ .healthy := by rintro rfl; simp [isDegraded] at hc
  simp only [evaluateRuntimeDrift, if_neg hcu, if_neg hne, if_neg hch, if_neg hh]
  split
  · next hre => exact .inr ⟨rfl, rfl, hre⟩
  · exact .inl ⟨rfl, rfl⟩

end

namespace DriftRun
variable {run : DriftRun} {id : String} {n m i j : Nat} {s s' : RuntimeDriftState} {check : Check}

theorem check_of_observed (h : run.observed id n = some s) :
    ∃ check, run.checks[n]? = some check := by
  obtain ⟨check, hcheck, _⟩ := Option.bind_eq_some_iff.mp h
  exact ⟨check, hcheck⟩

theorem observed_ne_unknown (h : run.observed id n = some s) : s ≠ .unknown := by
  obtain ⟨check, hcheck⟩ := check_of_observed h
  rw [run.observed_eq hcheck] at h
  obtain ⟨agent, hagent, rfl⟩ := Option.map_eq_some_iff.mp h
  have hon : LIVE_AGENT_STATUSES.contains (statusText agent) :=
    (Option.filter_eq_some_iff.mp hagent).2
  have hne : statusText agent ≠ "" := by rintro heq; rw [heq] at hon; exact absurd hon (by decide)
  simp only [deriveRuntimeDriftState, if_neg hne]
  repeat' split
  all_goals simp

theorem tracker_observed (h : run.observed id n = some s) :
    ∃ t, (run.state (n + 1)).get? id = some t ∧ t.state = s := by
  obtain ⟨check, hcheck⟩ := check_of_observed h
  rw [run.tracker_succ hcheck, h]
  exact ⟨_, rfl, evaluate_state (observed_ne_unknown h)⟩

/-- The alerts at an observation that follows one: those of the tracker it left. -/
theorem alerts_succ (h : run.observed id n = some s) (h' : run.observed id (n + 1) = some s') :
    ∃ check t, run.checks[n + 1]? = some check ∧ (run.state (n + 1)).get? id = some t ∧
      t.state = s ∧ run.alerts id (n + 1) =
        ((evaluateRuntimeDrift t s' check.now run.reAlertMs).2.map (·.kind)).toList := by
  obtain ⟨check, hcheck⟩ := check_of_observed h'
  obtain ⟨t, ht, hts⟩ := tracker_observed h
  exact ⟨check, t, hcheck, ht, hts, by rw [run.alerts_eq hcheck, h', ht]; rfl⟩

theorem alerts_drifted (h : run.observed id n = some .healthy)
    (h' : run.observed id (n + 1) = some s') (hs : isDegraded s') :
    run.alerts id (n + 1) = [.drifted] := by
  obtain ⟨_, _, _, _, hstate, halerts⟩ := alerts_succ h h'
  rw [halerts, evaluate_drifted hstate hs]
  rfl

theorem alerts_recovered (h : run.observed id n = some s) (hs : isDegraded s)
    (h' : run.observed id (n + 1) = some .healthy) : run.alerts id (n + 1) = [.recovered] := by
  obtain ⟨_, _, _, _, rfl, halerts⟩ := alerts_succ h h'
  rw [halerts, evaluate_recovered hs]
  rfl

theorem alerts_healthy (h : run.observed id n = some .healthy)
    (h' : run.observed id (n + 1) = some .healthy) : run.alerts id (n + 1) = [] := by
  obtain ⟨_, _, _, _, hstate, halerts⟩ := alerts_succ h h'
  rw [halerts, evaluate_healthy hstate]
  rfl

theorem alerts_streak (h : run.observed id n = some s) (hs : isDegraded s)
    (h' : run.observed id (n + 1) = some s') (hs' : isDegraded s') :
    run.alerts id (n + 1) = [] ∨ run.alerts id (n + 1) = [.drifted] := by
  obtain ⟨_, _, _, _, rfl, halerts⟩ := alerts_succ h h'
  rw [halerts]
  obtain ⟨hnone, _⟩ | ⟨hdrift, _⟩ := evaluate_streak hs hs'
  · exact .inl (by rw [hnone]; rfl)
  · exact .inr (by rw [hdrift]; rfl)

/-- An agent without a tracker gets its baseline, and no alert. -/
theorem no_tracker (h : (run.state n).get? id = none) : run.alerts id n = [] := by
  cases hcheck : run.checks[n]? with
  | none => rw [alerts, hcheck]
  | some check =>
    rw [run.alerts_eq hcheck, h]
    cases run.observed id n with
    | none => rfl
    | some s => simp [evaluate_baseline]

theorem alerts_observed (h : run.alerts id n ≠ []) :
    ∃ m s s', n = m + 1 ∧ run.observed id m = some s ∧ run.observed id n = some s' ∧
      (isDegraded s ∨ isDegraded s') := by
  obtain ⟨check, hcheck⟩ : ∃ check, run.checks[n]? = some check := by
    cases hn : run.checks[n]? with
    | none => rw [alerts, hn] at h; exact absurd rfl h
    | some check => exact ⟨check, rfl⟩
  cases n with
  | zero => exact absurd (no_tracker rfl) h
  | succ m =>
    have hm : m < run.checks.length := by
      have := (List.getElem?_eq_some_iff.mp hcheck).1
      omega
    cases hprev : run.observed id m with
    | none =>
      refine absurd (no_tracker ?_) h
      rw [run.tracker_succ (List.getElem?_eq_getElem hm), hprev]
      rfl
    | some s =>
      cases hcur : run.observed id (m + 1) with
      | none => rw [run.alerts_eq hcheck, hcur] at h; exact absurd rfl h
      | some s' =>
        refine ⟨m, s, s', rfl, hprev, rfl, ?_⟩
        have hs := observed_ne_unknown hprev
        have hs' := observed_ne_unknown hcur
        by_contra hnot
        obtain ⟨hns, hns'⟩ := not_or.mp hnot
        have hh : s = .healthy := by cases s <;> simp_all [isDegraded]
        have hh' : s' = .healthy := by cases s' <;> simp_all [isDegraded]
        exact h (alerts_healthy (hh ▸ hprev) (hh' ▸ hcur))

/-- The agent is seen degraded at every check from the one to the other. -/
def Streak (seen : String → Nat → Option RuntimeDriftState) (id : String) (i j : Nat) : Prop :=
  ∀ k, i ≤ k → k ≤ j → ∃ s, seen id k = some s ∧ isDegraded s

/-- After an alert of a degraded streak the re-alert clock runs from that alert or a later one. -/
theorem clock_of_streak (hij : i ≤ j) (hstreak : Streak run.observed id i j)
    (hi : run.checks[i]? = some check) (halert : .drifted ∈ run.alerts id i) :
    ∃ t last, (run.state (j + 1)).get? id = some t ∧ t.lastAlertAt = some last ∧
      check.now ≤ last := by
  induction j, hij using Nat.le_induction with
  | base =>
    obtain ⟨s, hs, _⟩ := hstreak i le_rfl le_rfl
    rw [run.alerts_eq hi, hs] at halert
    rw [run.tracker_succ hi, hs]
    exact ⟨_, _, rfl, evaluate_lastAlertAt (Option.mem_toList.mp halert), le_rfl⟩
  | succ j hij ih =>
    obtain ⟨t, last, ht, hlast, hle⟩ := ih fun k hk hkj => hstreak k hk (by omega)
    obtain ⟨s, hs, hsd⟩ := hstreak j hij (by omega)
    obtain ⟨s', hs', hsd'⟩ := hstreak (j + 1) (by omega) le_rfl
    obtain ⟨check', t', hcheck', ht', rfl, _⟩ := alerts_succ hs hs'
    obtain rfl : t = t' := Option.some.inj (ht.symm.trans ht')
    rw [run.tracker_succ hcheck', hs', ht]
    obtain ⟨_, hkeep⟩ | ⟨_, hnow, _⟩ :=
      @evaluate_streak t s' check'.now run.reAlertMs hsd hsd'
    · exact ⟨_, last, rfl, hkeep.trans hlast, hle⟩
    · obtain ⟨hi', rfl⟩ := List.getElem?_eq_some_iff.mp hi
      obtain ⟨hj', rfl⟩ := List.getElem?_eq_some_iff.mp hcheck'
      exact ⟨_, _, rfl, hnow,
        List.pairwise_iff_getElem.mp run.ordered i (j + 1) hi' hj' (by omega)⟩

theorem alerts_spaced (hij : i < j) (hstreak : Streak run.observed id i j)
    (hi : run.checks[i]? = some check) (hj : run.checks[j]? = some check')
    (halert : .drifted ∈ run.alerts id i) (halert' : .drifted ∈ run.alerts id j) :
    run.reAlertMs ≤ check'.now - check.now := by
  obtain ⟨j, rfl⟩ : ∃ k, j = k + 1 := ⟨j - 1, by omega⟩
  have hle : i ≤ j := by omega
  obtain ⟨t, last, ht, hlast, hle⟩ := clock_of_streak hle
    (fun k hk hkj => hstreak k hk (by omega)) hi halert
  obtain ⟨s, hs, hsd⟩ := hstreak j (by omega) (by omega)
  obtain ⟨s', hs', hsd'⟩ := hstreak (j + 1) (by omega) le_rfl
  obtain ⟨_, t', hcheck, ht', rfl, halerts⟩ := alerts_succ hs hs'
  obtain rfl : t = t' := Option.some.inj (ht.symm.trans ht')
  obtain rfl := Option.some.inj (hj.symm.trans hcheck)
  obtain ⟨hnone, _⟩ | ⟨_, _, hre⟩ :=
    @evaluate_streak t s' check'.now run.reAlertMs hsd hsd'
  · rw [halerts, hnone] at halert'
    exact absurd halert' (by simp)
  · have := of_decide_eq_true (Option.all_eq_true_iff_get _ _ |>.mp hre (by simp [hlast]))
    simp only [hlast, Option.get_some] at this
    omega

/-- What a run announces of the states in which its agents are seen. -/
structure Announces (run : DriftRun) (seen : String → Nat → Option RuntimeDriftState) : Prop where
  drifted : ∀ id n s, seen id n = some .healthy → seen id (n + 1) = some s → isDegraded s →
    run.alerts id (n + 1) = [.drifted]
  repeats : ∀ id n s s', seen id n = some s → isDegraded s → seen id (n + 1) = some s' →
    isDegraded s' → run.alerts id (n + 1) = [] ∨ run.alerts id (n + 1) = [.drifted]
  spaced : ∀ id i j check check', i < j → Streak seen id i j → run.checks[i]? = some check →
    run.checks[j]? = some check' → .drifted ∈ run.alerts id i → .drifted ∈ run.alerts id j →
    run.reAlertMs ≤ check'.now - check.now
  recovered : ∀ id i n, i ≤ n → Streak seen id i n → .drifted ∈ run.alerts id i →
    seen id (n + 1) = some .healthy → run.alerts id (n + 1) = [.recovered]

/-- An agent that is stopped between two checks. -/
def stopped : DriftRun where
  checks :=
    [⟨[⟨"a", "a", some "running", none⟩], none, 0, by simp⟩,
      ⟨[⟨"a", "a", some "stopped", none⟩], none, 1, by simp⟩]
  ordered := by simp

def ofAgent (id : String) (check : Check) : Check :=
  { check with
    agents := check.agents.filter (·.id = id)
    nodup := check.nodup.sublist (List.filter_sublist.map _) }

/-- The run in which every check is given the rows of one agent only. -/
def alone (run : DriftRun) (id : String) : DriftRun :=
  { run with
    checks := run.checks.map (ofAgent id)
    ordered := List.pairwise_map.mpr run.ordered }

theorem check_alone (h : run.checks[n]? = some check) :
    (run.alone id).checks[n]? = some (ofAgent id check) := by
  rw [alone, List.getElem?_map, h, Option.map_some]

theorem observed_alone (h : run.checks[n]? = some check) :
    (run.alone id).observed id n = run.observed id n := by
  rw [observed_eq _ (check_alone h), run.observed_eq h]
  simp [ofAgent, List.find?_filter]

theorem tracker_alone (h : n ≤ run.checks.length) :
    ((run.alone id).state n).get? id = (run.state n).get? id := by
  induction n with
  | zero => rfl
  | succ n ih =>
    have hcheck := List.getElem?_eq_getElem h
    rw [run.tracker_succ hcheck, tracker_succ _ (check_alone hcheck), observed_alone hcheck,
      ih (by omega)]
    rfl

end DriftRun

end IdAgents.RuntimeDrift
