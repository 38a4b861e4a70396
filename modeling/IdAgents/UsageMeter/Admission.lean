import IdAgents.UsageMeter.GateConsistency

namespace IdAgents.UsageMeter.Admission
open JsText Admission

inductive DispatchGateReason where
  | budgetExhausted | nearBudgetRequiresOverride | overConcurrency | providerCapacityFull
  | providerPaused | operatorPaused | missingBudgetConfig
deriving DecidableEq, Repr

def DispatchGateReason.text : DispatchGateReason → String
  | budgetExhausted => "budget_exhausted"
  | nearBudgetRequiresOverride => "near_budget_requires_override"
  | overConcurrency => "over_concurrency"
  | providerCapacityFull => "provider_capacity_full"
  | providerPaused => "provider_paused"
  | operatorPaused => "operator_paused"
  | missingBudgetConfig => "missing_budget_config"

inductive GateState where
  | blocked | queued | overridden | released
deriving DecidableEq, Repr

def GateState.text : GateState → String
  | blocked => "blocked"
  | queued => "queued"
  | overridden => "overridden"
  | released => "released"

inductive AdmissionStatus where
  | delivering | dispatchBlocked | queuedForCapacity
deriving DecidableEq, Repr

structure OperatorOverride where
  forceDispatch : Bool
  reason : Option String
  actor : Option String

/-- A value of `gate_metadata`. -/
inductive MetaValue where
  | number (value : Rat)
  | text (value : String)
  | flag (value : Bool)
deriving DecidableEq

abbrev GateMetadata := List (String × MetaValue)

structure GateOverride where
  forced : Bool
  reason : Option String
  actor : Option String
  at_ : Option String
deriving DecidableEq

structure DispatchGate where
  dispatchGatePhid : String
  dispatchPhid : String
  agentId : String
  provider : Option String
  gateState : GateState
  gateReason : DispatchGateReason
  gateMetadata : GateMetadata
  operatorOverride : GateOverride
  createdAt : String
  releasedAt : Option String
deriving DecidableEq

structure AdmissionResult where
  admits : Bool
  status : AdmissionStatus
  gate : Option DispatchGate
  warnings : List String
deriving DecidableEq

structure Limits where
  dailyLimit : Rat
  weeklyLimit : Rat

structure Usage where
  dailyUsed : Rat
  weeklyUsed : Rat

structure Concurrency where
  current : Rat
  max : Option Rat

structure Spacing where
  minSeconds : Option Rat
  lastDispatchedAt : Option String

structure AdmissionInput where
  dispatchPhid : String
  agentId : String
  provider : Option String
  enforcement : UsageGateEnforcement
  nowIso : String
  budget : Option Limits
  usage : Usage
  nearBudgetPct : Option Rat
  requireOverrideNearBudget : Bool
  agentConcurrency : Option Concurrency
  providerConcurrency : Option Concurrency
  spacing : Option Spacing
  providerPaused : Bool
  operatorPaused : Bool
  override : Option OperatorOverride

def defaultAgentMaxConcurrent : Rat := 1
def defaultProviderMaxConcurrent_ : Rat := 3
def defaultMinSpacingSeconds : Rat := 30
def defaultNearBudgetPct : Rat := 9 / 10

def defaultProviderMaxConcurrentByProvider : List (String × Rat) :=
  [("anthropic", 3), ("openai", 4), ("cursor", 2), ("other", 2)]

/-- What every object inherits, and `in` finds as well. -/
def inheritedNames : List String :=
  ["constructor", "__defineGetter__", "__defineSetter__", "hasOwnProperty", "__lookupGetter__",
    "__lookupSetter__", "isPrototypeOf", "propertyIsEnumerable", "toString", "valueOf", "__proto__",
    "toLocaleString"]

/-- The cap of a provider. An inherited name yields a value that no number reaches: `none`. -/
def defaultProviderMaxConcurrent (provider : Option String) : Option Rat :=
  match nonEmpty provider with
  | none => some defaultProviderMaxConcurrent_
  | some name =>
    match defaultProviderMaxConcurrentByProvider.lookup name with
    | some cap => some cap
    | none => if name ∈ inheritedNames then none else some defaultProviderMaxConcurrent_

/-- The arguments a branch hands to `decide`. -/
structure Verdict where
  gateState : GateState
  /-- `"queued"`, or else `"budget"` or `"delivering"`. -/
  queues : Bool
  reason : DispatchGateReason
  metadata : GateMetadata
  forced : Bool

def blank (text : Option String) : Bool := text.all (trim · = "")
section
variable (input : AdmissionInput)

def overrideValid : Bool :=
  input.override.any fun o => o.forceDispatch && !blank o.reason && !blank o.actor

def overrideWarnings : List String :=
  if input.override.any (·.forceDispatch) && !overrideValid input then
    ["operator override ignored: force_dispatch requires a non-empty reason and actor"]
  else []

def budgetWarnings : List String :=
  if input.budget.isNone then
    ["missing_budget_config: no budget configured for agent; using cost-tier default and admitting"]
  else []

def pauseVerdict : Option Verdict :=
  if input.providerPaused then some ⟨.blocked, false, .providerPaused, [], false⟩
  else if input.operatorPaused && !overrideValid input then
    some ⟨.blocked, false, .operatorPaused, [], false⟩
  else none

def reached (limit threshold used : Rat) : Bool := 0 < limit && threshold ≤ used

def overridable (reason : DispatchGateReason) (metadata : GateMetadata) : Verdict :=
  if overrideValid input then ⟨.overridden, false, reason, metadata, true⟩
  else ⟨.blocked, false, reason, metadata, false⟩

def nearPct : Rat := input.nearBudgetPct.getD defaultNearBudgetPct

def budgetVerdict : Option Verdict :=
  match input.budget with
  | none => none
  | some ⟨dailyLimit, weeklyLimit⟩ =>
    let ⟨dailyUsed, weeklyUsed⟩ := input.usage
    let dailyExhausted := reached dailyLimit dailyLimit dailyUsed
    let weeklyExhausted := reached weeklyLimit weeklyLimit weeklyUsed
    let dailyNear := reached dailyLimit (nearPct input * dailyLimit) dailyUsed
    let weeklyNear := reached weeklyLimit (nearPct input * weeklyLimit) weeklyUsed
    if dailyExhausted || weeklyExhausted then
      some (overridable input .budgetExhausted
        [("daily_used", .number dailyUsed), ("daily_limit", .number dailyLimit),
          ("weekly_used", .number weeklyUsed), ("weekly_limit", .number weeklyLimit),
          ("window", .text (if dailyExhausted then "daily" else "weekly"))])
    else if input.requireOverrideNearBudget && (dailyNear || weeklyNear) then
      some (overridable input .nearBudgetRequiresOverride
        [("near_budget_pct", .number (nearPct input)),
          ("window", .text (if dailyNear then "daily" else "weekly"))])
    else none

def agentMax : Rat :=
  (input.agentConcurrency.bind (·.max)).getD defaultAgentMaxConcurrent

def agentCurrent : Rat := (input.agentConcurrency.map (·.current)).getD 0

def providerMax : Option Rat :=
  match input.providerConcurrency.bind (·.max) with
  | some cap => some cap
  | none => defaultProviderMaxConcurrent input.provider

def providerCurrent : Rat :=
  (input.providerConcurrency.map (·.current)).getD 0

def concurrencyMetadata (scope : String) (current cap : Rat) : GateMetadata :=
  [("scope", .text scope), ("concurrent_count", .number current), ("max_concurrent", .number cap)]

def capacityVerdict : Option Verdict :=
  if overrideValid input then none
  else if agentMax input ≤ agentCurrent input then
    some ⟨.queued, true, .overConcurrency,
      concurrencyMetadata "agent" (agentCurrent input) (agentMax input), false⟩
  else (providerMax input).bind fun cap =>
    if cap ≤ providerCurrent input then
      some ⟨.queued, true, .providerCapacityFull,
        concurrencyMetadata "provider" (providerCurrent input) cap, false⟩
    else none

end

/-- The last instant of a `Date`. -/
def maxDate : Rat := 8640000000000000

/-- `new Date(ms).toISOString()` -/
def dateToISOString (ms : Rat) : Except String String :=
  if |ms| ≤ maxDate then .ok (toISOString (if 0 ≤ ms then ⌊ms⌋ else ⌈ms⌉))
  else .error "RangeError: Invalid time value"

section
variable (dateParse : String → Option Int)
section
variable (input : AdmissionInput)

def minSeconds : Rat :=
  (input.spacing.bind (·.minSeconds)).getD defaultMinSpacingSeconds

def lastAndNow : Option (Rat × Rat) := do
  let lastAt ← nonEmpty (input.spacing.bind (·.lastDispatchedAt))
  let last ← dateParse lastAt
  let now ← dateParse input.nowIso
  some (last, now)

def spacingVerdict : Except String (Option Verdict) :=
  if overrideValid input then .ok none
  else match lastAndNow dateParse input with
    | none => .ok none
    | some (last, now) =>
      let earliest := last + minSeconds input * 1000
      if now < earliest then do
        let text ← dateToISOString earliest
        return some ⟨.queued, true, .overConcurrency,
          [("kind", .text "spacing"), ("min_seconds", .number (minSeconds input)),
            ("next_dispatch_no_earlier_than", .text text)], false⟩
      else .ok none

/-- The branch that is taken; `none` is the clean admission. -/
def verdict : Except String (Option Verdict) :=
  match ((pauseVerdict input).or (budgetVerdict input)).or (capacityVerdict input) with
  | some v => .ok (some v)
  | none => spacingVerdict dateParse input

end

end
section
variable (input : AdmissionInput)

def buildGate (gateState : GateState) (reason : DispatchGateReason)
    (metadata : GateMetadata) (forced : Bool) : DispatchGate where
  dispatchGatePhid := "phid:dgate-" ++ if input.dispatchPhid.startsWith "phid:" then
    (input.dispatchPhid.drop 5).toString else input.dispatchPhid
  dispatchPhid := input.dispatchPhid
  agentId := input.agentId
  provider := input.provider
  gateState
  gateReason := reason
  gateMetadata := metadata
  operatorOverride :=
    { forced
      reason := if forced then input.override.bind (·.reason) else none
      actor := if forced then input.override.bind (·.actor) else none
      at_ := if forced then some input.nowIso else none }
  createdAt := input.nowIso
  releasedAt := none

def decide_ (v : Verdict) (warnings : List String) : AdmissionResult :=
  if v.gateState = .overridden then
    ⟨true, .delivering, some (buildGate input .overridden v.reason v.metadata v.forced), warnings⟩
  else if input.enforcement ≠ .enforce then
    ⟨true, .delivering,
      some (buildGate input v.gateState v.reason (v.metadata ++ [("shadow", .flag true)]) false),
      warnings ++ ["warn-only: would " ++ v.gateState.text ++ " (" ++ v.reason.text ++
        "); admitting"]⟩
  else
    ⟨false, if v.queues then .queuedForCapacity else .dispatchBlocked,
      some (buildGate input v.gateState v.reason v.metadata false), warnings⟩

def admitDispatch (dateParse : String → Option Int) (input : AdmissionInput) :
    Except String AdmissionResult := do
  let warnings := overrideWarnings input ++
    if (pauseVerdict input).isSome then [] else budgetWarnings input
  match ← verdict dateParse input with
  | some v => return decide_ input v warnings
  | none => return ⟨true, .delivering, none, warnings⟩

def budgetStops : Bool :=
  input.budget.any fun b =>
    (reached b.dailyLimit b.dailyLimit input.usage.dailyUsed ||
      reached b.weeklyLimit b.weeklyLimit input.usage.weeklyUsed) ||
    input.requireOverrideNearBudget &&
      (reached b.dailyLimit (nearPct input * b.dailyLimit) input.usage.dailyUsed ||
        reached b.weeklyLimit (nearPct input * b.weeklyLimit) input.usage.weeklyUsed)

def capacityStops : Bool :=
  agentMax input ≤ agentCurrent input || (providerMax input).any (· ≤ providerCurrent input)

end

section
variable (dateParse : String → Option Int)

def spacingStops (input : AdmissionInput) : Bool :=
  (lastAndNow dateParse input).any fun p => p.2 < p.1 + minSeconds input * 1000

def Stopped (input : AdmissionInput) : Prop :=
  input.providerPaused = true ∨ overrideValid input = false ∧
    (input.operatorPaused = true ∨ budgetStops input = true ∨ capacityStops input = true ∨
      spacingStops dateParse input = true)

end

def Verdict.Stops (v : Verdict) : Prop := v.gateState = .blocked ∨ v.gateState = .queued

theorem overridable_stops (reason : DispatchGateReason) (metadata : GateMetadata) :
    (overridable input reason metadata).Stops ↔ overrideValid input = false := by
  rw [overridable, Verdict.Stops]
  cases overrideValid input <;> simp

theorem budgetVerdict_eq (input : AdmissionInput) :
    ∃ reason metadata, (∀ p ∈ metadata, p.1 ≠ "shadow") ∧ budgetVerdict input =
      if budgetStops input then some (overridable input reason metadata) else none := by
  rw [budgetVerdict, budgetStops]
  cases input.budget with
  | none => exact ⟨.budgetExhausted, [], by simp, by simp⟩
  | some b =>
    simp only [Option.any_some]
    split
    · rename_i hspent
      refine ⟨_, _, ?_, (if_pos (by rw [hspent]; rfl)).symm⟩
      simp
    · rename_i hspent
      split
      · rename_i hnear
        refine ⟨_, _, ?_, (if_pos (Bool.or_eq_true_iff.mpr (.inr hnear))).symm⟩
        simp
      · rename_i hnear
        refine ⟨.budgetExhausted, [], by simp, (if_neg ?_).symm⟩
        rintro (h : (_ || _) = true)
        exact (Bool.or_eq_true_iff.mp h).elim hspent hnear

theorem capacityVerdict_eq (hvalid : overrideValid input = false) :
    ∃ reason scope current cap, capacityVerdict input = if capacityStops input then
      some ⟨.queued, true, reason, concurrencyMetadata scope current cap, false⟩ else none := by
  rw [capacityVerdict, capacityStops, if_neg (by simp [hvalid])]
  by_cases hagent : agentMax input ≤ agentCurrent input
  · exact ⟨.overConcurrency, "agent", agentCurrent input, agentMax input, by simp [hagent]⟩
  · cases providerMax input with
    | none => exact ⟨.overConcurrency, "agent", 0, 0, by simp [hagent]⟩
    | some cap =>
      exact ⟨.providerCapacityFull, "provider", providerCurrent input, cap, by simp [hagent]⟩

theorem spacingVerdict_ok (h : spacingVerdict dateParse input = .ok o)
    (hvalid : overrideValid input = false) :
    (spacingStops dateParse input = false ∧ o = none) ∨ spacingStops dateParse input = true ∧
      ∃ text, o = some ⟨.queued, true, .overConcurrency, [("kind", .text "spacing"),
        ("min_seconds", .number (minSeconds input)),
        ("next_dispatch_no_earlier_than", .text text)], false⟩ := by
  rw [spacingVerdict, if_neg (by simp [hvalid])] at h
  rw [spacingStops]
  cases htimes : lastAndNow dateParse input with
  | none =>
    rw [htimes] at h
    cases h
    exact .inl ⟨rfl, rfl⟩
  | some p =>
    rw [htimes] at h
    simp only [Option.any_some] at h ⊢
    by_cases hsoon : p.2 < p.1 + minSeconds input * 1000
    · rw [if_pos hsoon] at h
      cases htext : dateToISOString (p.1 + minSeconds input * 1000) with
      | error e =>
        rw [htext] at h
        cases h
      | ok text =>
        rw [htext] at h
        cases h
        exact .inr ⟨by simp [hsoon], text, rfl⟩
    · rw [if_neg hsoon] at h
      cases h
      exact .inl ⟨by simp [hsoon], rfl⟩

def Verdict.Proper (v : Verdict) : Prop :=
  (v.Stops ∨ v.gateState = .overridden) ∧ ∀ p ∈ v.metadata, p.1 ≠ "shadow"

theorem overridable_proper (hmeta : ∀ p ∈ metadata, p.1 ≠ "shadow") :
    (overridable input reason metadata).Proper := by
  rw [overridable]
  cases overrideValid input with
  | true => exact ⟨.inr rfl, hmeta⟩
  | false => exact ⟨.inl (.inl rfl), hmeta⟩

theorem verdict_ok (h : verdict dateParse input = .ok o) :
    (∀ v, o = some v → v.Proper) ∧ ((∃ v, o = some v ∧ v.Stops) ↔ Stopped dateParse input) := by
  rw [verdict, pauseVerdict] at h
  rw [Stopped]
  cases hprovider : input.providerPaused with
  | true =>
    rw [hprovider] at h
    cases h
    exact ⟨fun v hv => by cases hv; exact ⟨.inl (.inl rfl), by simp⟩, by simp [Verdict.Stops]⟩
  | false =>
    obtain ⟨reason, metadata, hmeta, hbudget⟩ := budgetVerdict_eq input
    rw [hprovider, hbudget] at h
    cases hvalid : overrideValid input with
    | true =>
      simp only [hvalid, Bool.false_eq_true, if_false, Bool.not_true, Bool.and_false,
        Option.none_or, capacityVerdict, spacingVerdict, if_true, Option.or_none] at h
      simp only [Bool.false_eq_true, Bool.true_eq_false, false_and, or_false, iff_false]
      cases hstops : budgetStops input with
      | false =>
        rw [hstops] at h
        cases h
        simp
      | true =>
        rw [hstops] at h
        cases h
        refine ⟨fun v hv => by cases hv; exact overridable_proper hmeta, ?_⟩
        rintro ⟨v, hv, hstop⟩
        cases hv
        rw [overridable_stops, hvalid] at hstop
        cases hstop
    | false =>
      obtain ⟨reason', scope, current, cap, hcapacity⟩ := capacityVerdict_eq hvalid
      simp only [hvalid, hcapacity, Bool.false_eq_true, if_false, Bool.not_false,
        Bool.and_true] at h
      simp only [Bool.false_eq_true, false_or, true_and]
      cases hoperator : input.operatorPaused with
      | true =>
        rw [hoperator] at h
        cases h
        exact ⟨fun v hv => by cases hv; exact ⟨.inl (.inl rfl), by simp⟩, by simp [Verdict.Stops]⟩
      | false =>
        cases hspent : budgetStops input with
        | true =>
          rw [hoperator, hspent] at h
          cases h
          refine ⟨fun v hv => by cases hv; exact overridable_proper hmeta, ?_⟩
          simp [overridable_stops, hvalid]
        | false =>
          cases hfull : capacityStops input with
          | true =>
            rw [hoperator, hspent, hfull] at h
            cases h
            refine ⟨fun v hv => ?_, by simp [Verdict.Stops]⟩
            cases hv
            exact ⟨.inl (.inr rfl), by simp [concurrencyMetadata]⟩
          | false =>
            rw [hoperator, hspent, hfull] at h
            obtain ⟨hclear, rfl⟩ | ⟨hsoon, text, rfl⟩ := spacingVerdict_ok h hvalid
            · simp [hclear]
            · refine ⟨fun v hv => by cases hv; exact ⟨.inl (.inr rfl), by simp⟩, ?_⟩
              simp [hsoon, Verdict.Stops]

section
variable (r : AdmissionResult)

def AdmissionResult.Refused : Prop :=
  ∃ g, r.gate = some g ∧ (g.gateState = .blocked ∨ g.gateState = .queued)

def AdmissionResult.Overridden : Prop :=
  ∃ g, r.gate = some g ∧ g.gateState = .overridden

def AdmissionResult.Clean : Prop := r.admits = true ∧ r.gate = none

def AdmissionResult.ShadowGate (reason : DispatchGateReason) : Prop :=
  ∃ g, r.gate = some g ∧ g.gateReason = reason ∧ ("shadow", .flag true) ∈ g.gateMetadata

end

theorem admitDispatch_ok (h : admitDispatch dateParse input = .ok r) :
    ∃ warnings, (verdict dateParse input = .ok none ∧ r = ⟨true, .delivering, none, warnings⟩) ∨
      ∃ v, verdict dateParse input = .ok (some v) ∧ r = decide_ input v warnings := by
  rw [admitDispatch] at h
  cases hverdict : verdict dateParse input with
  | error e =>
    rw [hverdict] at h
    cases h
  | ok o =>
    rw [hverdict] at h
    cases o with
    | none =>
      cases h
      exact ⟨_, .inl ⟨rfl, rfl⟩⟩
    | some v =>
      cases h
      exact ⟨_, .inr ⟨v, rfl, rfl⟩⟩

theorem decide_refused (hproper : v.Proper) : (decide_ input v warnings).Refused ↔ v.Stops := by
  obtain ⟨hstate, -⟩ := hproper
  rw [AdmissionResult.Refused, decide_]
  by_cases hover : v.gateState = .overridden
  · rw [if_pos hover]
    simp [Verdict.Stops, hover, buildGate]
  · rw [if_neg hover]
    have hstops : v.Stops := hstate.resolve_right hover
    split <;> exact iff_of_true ⟨_, rfl, hstops⟩ hstops

theorem refused_iff (h : admitDispatch dateParse input = .ok r) :
    r.Refused ↔ Stopped dateParse input := by
  obtain ⟨warnings, ⟨hverdict, rfl⟩ | ⟨v, hverdict, rfl⟩⟩ := admitDispatch_ok h
  · rw [← (verdict_ok hverdict).2]
    simp [AdmissionResult.Refused]
  · obtain ⟨hproper, hstops⟩ := verdict_ok hverdict
    rw [decide_refused (hproper v rfl), ← hstops]
    simp

def Lowered (limit lower : Rat) : Prop := 0 < limit → 0 < lower ∧ lower ≤ limit

/-- `b` is `a` with more usage, more concurrency, lower limits, less time since the last dispatch,
more pauses or an override withdrawn. The modes are free. -/
structure Harsher (dateParse : String → Option Int) (a b : AdmissionInput) : Prop where
  providerPaused : a.providerPaused = true → b.providerPaused = true
  operatorPaused : a.operatorPaused = true → b.operatorPaused = true
  override : overrideValid b = true → overrideValid a = true
  dailyUsed : a.usage.dailyUsed ≤ b.usage.dailyUsed
  weeklyUsed : a.usage.weeklyUsed ≤ b.usage.weeklyUsed
  limits : ∀ x, a.budget = some x → ∃ y, b.budget = some y ∧
    Lowered x.dailyLimit y.dailyLimit ∧ Lowered x.weeklyLimit y.weeklyLimit
  near : a.requireOverrideNearBudget = true → b.requireOverrideNearBudget = true
  nearPct : nearPct b = nearPct a
  agentMax : agentMax b ≤ agentMax a
  agentCurrent : agentCurrent a ≤ agentCurrent b
  providerMax : ∀ cap, providerMax a = some cap → ∃ lower, providerMax b = some lower ∧ lower ≤ cap
  providerCurrent : providerCurrent a ≤ providerCurrent b
  minSeconds : minSeconds a ≤ minSeconds b
  since : ∀ p, lastAndNow dateParse a = some p →
    ∃ q, lastAndNow dateParse b = some q ∧ q.2 - q.1 ≤ p.2 - p.1

theorem reached_lowered (hlimit : Lowered limit lower) (hused : used ≤ used')
    (hthreshold : 0 < lower → lower ≤ limit → pct * lower ≤ used' ∨ pct * lower ≤ pct * limit)
    (h : reached limit (pct * limit) used = true) : reached lower (pct * lower) used' = true := by
  simp only [reached, Bool.and_eq_true, decide_eq_true_eq] at h ⊢
  obtain ⟨hpos, hle⟩ := hlimit h.1
  exact ⟨hpos, (hthreshold hpos hle).elim id fun hlower => hlower.trans (h.2.trans hused)⟩

theorem threshold_le (hpct : 0 ≤ pct ∨ 0 ≤ used) {limit lower : Rat} (hpos : 0 < lower)
    (hle : lower ≤ limit) : pct * lower ≤ used ∨ pct * lower ≤ pct * limit := by
  by_cases hsign : 0 ≤ pct
  · exact .inr (mul_le_mul_of_nonneg_left hle hsign)
  · exact .inl ((mul_nonpos_of_nonpos_of_nonneg (le_of_not_ge hsign) hpos.le).trans
      (hpct.resolve_left hsign))

section
variable (h : Harsher dateParse a b)
include h

theorem Harsher.budgetStops
    (hpct : 0 ≤ Admission.nearPct a ∨ 0 ≤ b.usage.dailyUsed ∧ 0 ≤ b.usage.weeklyUsed)
    (hstops : Admission.budgetStops a = true) : Admission.budgetStops b = true := by
  obtain ⟨x, hx, hreached⟩ := (Option.any_eq_true ..).mp hstops
  obtain ⟨y, hy, hdaily, hweekly⟩ := h.limits x hx
  rw [Admission.budgetStops, hy, Option.any_some, h.nearPct]
  have hwhole : ∀ {limit lower used used' : Rat}, Lowered limit lower → used ≤ used' →
      reached limit limit used = true → reached lower lower used' = true := by
    intro limit lower used used' hlimit hused hlimited
    have hone : ∀ x : Rat, 1 * x = x := one_mul
    have hlower : reached lower (1 * lower) used' = true :=
      reached_lowered hlimit hused (threshold_le (.inl zero_le_one)) (by rwa [hone])
    rwa [hone] at hlower
  simp only [Bool.or_eq_true, Bool.and_eq_true] at hreached ⊢
  obtain (hspent | hspent) | ⟨hnear, hspent | hspent⟩ := hreached
  · exact .inl (.inl (hwhole hdaily h.dailyUsed hspent))
  · exact .inl (.inr (hwhole hweekly h.weeklyUsed hspent))
  · exact .inr ⟨h.near hnear, .inl (reached_lowered hdaily h.dailyUsed
      (threshold_le (hpct.imp_right And.left)) hspent)⟩
  · exact .inr ⟨h.near hnear, .inr (reached_lowered hweekly h.weeklyUsed
      (threshold_le (hpct.imp_right And.right)) hspent)⟩

theorem Harsher.capacityStops (hstops : capacityStops a = true) :
    Admission.capacityStops b = true := by
  simp only [Admission.capacityStops, Bool.or_eq_true, decide_eq_true_eq] at hstops ⊢
  obtain hagent | hprovider := hstops
  · exact .inl ((h.agentMax.trans hagent).trans h.agentCurrent)
  · obtain ⟨cap, hcap, hfull⟩ := (Option.any_eq_true ..).mp hprovider
    obtain ⟨lower, hlower, hle⟩ := h.providerMax cap hcap
    rw [decide_eq_true_eq] at hfull
    rw [hlower, Option.any_some, decide_eq_true_eq]
    exact .inr ((hle.trans hfull).trans h.providerCurrent)

theorem Harsher.spacingStops (hstops : spacingStops dateParse a = true) :
    spacingStops dateParse b = true := by
  obtain ⟨p, hp, hsoon⟩ := (Option.any_eq_true ..).mp hstops
  obtain ⟨q, hq, hsince⟩ := h.since p hp
  rw [decide_eq_true_eq] at hsoon
  rw [Admission.spacingStops, hq, Option.any_some, decide_eq_true_eq]
  have hmin := h.minSeconds
  linarith

theorem Harsher.stopped
    (hpct : 0 ≤ Admission.nearPct a ∨ 0 ≤ b.usage.dailyUsed ∧ 0 ≤ b.usage.weeklyUsed)
    (hstopped : Stopped dateParse a) : Stopped dateParse b := by
  obtain hprovider | ⟨hvalid, hrest⟩ := hstopped
  · exact .inl (h.providerPaused hprovider)
  · have hvalid' : overrideValid b = false := by
      cases hb : overrideValid b with
      | false => rfl
      | true =>
        rw [h.override hb] at hvalid
        cases hvalid
    refine .inr ⟨hvalid', ?_⟩
    obtain hoperator | hbudget | hcapacity | hspacing := hrest
    · exact .inl (h.operatorPaused hoperator)
    · exact .inr (.inl (h.budgetStops hpct hbudget))
    · exact .inr (.inr (.inl (h.capacityStops hcapacity)))
    · exact .inr (.inr (.inr (h.spacingStops hspacing)))

end

theorem verdict_mode (input : AdmissionInput) (mode : UsageGateEnforcement) :
    verdict dateParse { input with enforcement := mode } = verdict dateParse input := rfl

theorem modes_verdict {input : AdmissionInput}
    (hwarn : admitDispatch dateParse { input with enforcement := .warn } = .ok w)
    (henforce : admitDispatch dateParse { input with enforcement := .enforce } = .ok e) :
    w.admits = true ∧ (∀ reason, w.ShadowGate reason ↔
        e.admits = false ∧ ∃ g, e.gate = some g ∧ g.gateReason = reason) ∧
      (w.Overridden ∨ e.Overridden → w.gate = e.gate) := by
  obtain ⟨ws, hw⟩ := admitDispatch_ok hwarn
  obtain ⟨es, he⟩ := admitDispatch_ok henforce
  rw [verdict_mode] at hw he
  obtain ⟨hnone, rfl⟩ | ⟨v, hv, rfl⟩ := hw
  · obtain ⟨-, rfl⟩ | ⟨v, hv, -⟩ := he
    · simp [AdmissionResult.ShadowGate]
    · rw [hnone] at hv
      cases hv
  · obtain ⟨hnone, -⟩ | ⟨v', hv', rfl⟩ := he
    · rw [hv] at hnone
      cases hnone
    · rw [hv] at hv'
      cases hv'
      have hmeta := ((verdict_ok hv).1 v rfl).2
      by_cases hover : v.gateState = .overridden
      · rw [decide_, if_pos hover, decide_, if_pos hover]
        refine ⟨rfl, fun reason => iff_of_false ?_ (by simp), fun _ => rfl⟩
        rintro ⟨g, hg, -, hshadow⟩
        cases hg
        exact hmeta _ hshadow rfl
      · rw [decide_, if_neg hover, decide_, if_neg hover, if_pos (by simp),
          if_neg (by simp)]
        refine ⟨rfl, fun reason => ?_, ?_⟩
        · simp [AdmissionResult.ShadowGate, buildGate]
        · simp [AdmissionResult.Overridden, buildGate, hover]

def tenth (limit : Rat) : AdmissionInput where
  dispatchPhid := "phid:disp-1"
  agentId := "agent-1"
  provider := none
  enforcement := .enforce
  nowIso := ""
  budget := some ⟨limit, 0⟩
  usage := ⟨10, 10⟩
  nearBudgetPct := none
  requireOverrideNearBudget := false
  agentConcurrency := none
  providerConcurrency := none
  spacing := none
  providerPaused := false
  operatorPaused := false
  override := none

def tenthRefused (mode : UsageGateEnforcement) (limit : Rat) : AdmissionResult :=
  decide_ { tenth limit with enforcement := mode } ⟨.blocked, false, .budgetExhausted,
    [("daily_used", .number 10), ("daily_limit", .number limit), ("weekly_used", .number 10),
      ("weekly_limit", .number 0), ("window", .text "daily")], false⟩ []

end IdAgents.UsageMeter.Admission
