import Mathlib.Data.Rat.Floor
import IdAgents.Library.Dict
import IdAgents.Library.Text

namespace IdAgents.UsageMeter
open JsText JsMap List

inductive UsageGateEnforcement where
  | warn | enforce
deriving DecidableEq, Repr

inductive UsageGateState where
  | normal | softWarning | hardPaused | degraded
deriving DecidableEq, Repr

inductive UsageGateDecisionLabel where
  | allow | warnAllow | pauseAgent | pauseNonCore | pauseUnknown
deriving DecidableEq, Repr

structure UsageGateDecision where
  state : UsageGateState
  decision : UsageGateDecisionLabel
  reason : String
  dailyPct : Option Rat
  weeklyPct : Option Rat
deriving DecidableEq

structure AgentBudget where
  dailyWeightedTokens : Rat
  weeklyWeightedTokens : Rat

structure GlobalBudget where
  dailyWeightedTokens : Rat
  weeklyWeightedTokens : Rat
  softThresholdPct : Option Rat
  hardThresholdPct : Option Rat

structure EmergencyOverride where
  enabled : Bool
  reason : Option String
  expiresAt : Option String

structure UsageBudgetPolicy where
  schemaVersion : String := "usage-budget-policy.v1"
  global : GlobalBudget
  agents : Dict String AgentBudget
  exemptAgents : List String
  emergencyOverride : EmergencyOverride
  failClosedOnUnknown : Option Bool

structure AgentUsageRollup where
  weightedTokens : Rat

structure WindowRollups where
  day : AgentUsageRollup
  week : AgentUsageRollup

structure ProviderLimitSignal where
  provider : String
  resetAt : Option String
deriving DecidableEq

structure EvaluateGateInput where
  globalRollup : WindowRollups
  rollupsByAgent : Dict String WindowRollups
  policy : UsageBudgetPolicy
  enforcement : UsageGateEnforcement
  nowIso : String
  /-- `none` is `Infinity`. -/
  dataFreshnessMs : Option Rat
  providerLimits : Option (List ProviderLimitSignal)

structure UsageGateSnapshot where
  /-- `"degraded"`, or else `"ok"`. -/
  isDegraded : Bool
  policyVersion : String
  global : UsageGateDecision
  agents : Dict String UsageGateDecision
  exemptAgents : List String
  enforcement : UsageGateEnforcement
  overrideActive : Bool
  overrideReason : Option String
  overrideExpiresAt : Option String
  degradedReason : Option String
  providerLimits : List ProviderLimitSignal
  generatedAt : String

def nonEmpty (text : Option String) : Option String := text.filter (· ≠ "")

/-- `Math.round(x)` -/
def round (x : Rat) : Int := ⌊x + 1 / 2⌋

def pctOrNull (used budget : Rat) : Option Rat := if budget ≤ 0 then none else some (used / budget)

def pctStr : Option Rat → String
  | none => "n/a"
  | some pct => toString (round (pct * 100)) ++ "%"

def classifyState (dailyPct weeklyPct : Option Rat) (policy : UsageBudgetPolicy) : UsageGateState :=
  let soft := policy.global.softThresholdPct.getD (4 / 5)
  let hard := policy.global.hardThresholdPct.getD 1
  let worst := max (dailyPct.getD 0) (weeklyPct.getD 0)
  if hard ≤ worst then .hardPaused else if soft ≤ worst then .softWarning else .normal

def classifyAgentState (dailyPct weeklyPct : Option Rat) (policy : UsageBudgetPolicy) :
    UsageGateState :=
  if dailyPct.isNone && weeklyPct.isNone then .normal else classifyState dailyPct weeklyPct policy

def limitSummary (signal : ProviderLimitSignal) : String :=
  signal.provider ++ match nonEmpty signal.resetAt with
    | some reset => " until " ++ reset
    | none => ""

def limitsReason (limits : List ProviderLimitSignal) : String :=
  "provider limit observed: " ++ String.intercalate "; " (limits.map limitSummary)

def UsageGateDecisionLabel.isPause : UsageGateDecisionLabel → Bool
  | .pauseAgent | .pauseNonCore | .pauseUnknown => true
  | .allow | .warnAllow => false

def applyEnforcement (intent : UsageGateDecisionLabel) (enforcement : UsageGateEnforcement) :
    UsageGateDecisionLabel :=
  if enforcement = .enforce then intent else if intent.isPause then .warnAllow else intent

def staleAfterMs : Rat := 5 * 60 * 1000

namespace EvaluateGateInput
section
variable (input : EvaluateGateInput)

def limits : List ProviderLimitSignal := input.providerLimits.getD []

def stale : Bool := input.dataFreshnessMs.all (staleAfterMs < ·)

def failClosed : Bool := input.policy.failClosedOnUnknown ≠ some false

def staleText : String :=
  "usage telemetry stale (" ++ (match input.dataFreshnessMs with
    | some ms => toString (round (ms / 1000))
    | none => "Infinity") ++ "s); "

def knownAgents : List String :=
  (input.rollupsByAgent.entries.map Prod.fst ++ input.policy.agents.entries.map Prod.fst ++
    input.policy.exemptAgents).eraseDups

end

end EvaluateGateInput

section Gate
-- `Date.parse`, which answers a number for the texts that it can read
variable (parse : String → Option Int)

def overrideIsActive (policy : UsageBudgetPolicy) (nowIso : String) : Bool :=
  let o := policy.emergencyOverride
  o.enabled && match nonEmpty o.expiresAt with
    | none => true
    | some expiresAt => match parse nowIso, parse expiresAt with
      | some now, some exp => now < exp
      | _, _ => false
section
variable (input : EvaluateGateInput)

def EvaluateGateInput.overridden : Bool :=
  overrideIsActive parse input.policy input.nowIso

def globalDecision : UsageGateDecision :=
  let gDay := pctOrNull input.globalRollup.day.weightedTokens
    input.policy.global.dailyWeightedTokens
  let gWeek := pctOrNull input.globalRollup.week.weightedTokens
    input.policy.global.weeklyWeightedTokens
  let gState := if !input.limits.isEmpty then .hardPaused
    else classifyState gDay gWeek input.policy
  let decide (state : UsageGateState) (intent : UsageGateDecisionLabel) (reason : String) :
      UsageGateDecision :=
    ⟨state, applyEnforcement intent input.enforcement, reason, gDay, gWeek⟩
  let usage := "(daily " ++ pctStr gDay ++ ", weekly " ++ pctStr gWeek ++ ")"
  if input.overridden parse then
    decide .normal .allow ("emergency override active" ++
      match nonEmpty input.policy.emergencyOverride.reason with
      | some reason => ": " ++ reason
      | none => "")
  else if input.stale && input.failClosed then
    decide .degraded .pauseUnknown (input.staleText ++ "fail-closed")
  else if input.stale then decide .degraded .warnAllow (input.staleText ++ "fail-open")
  else if !input.limits.isEmpty then
    decide .hardPaused .pauseNonCore (limitsReason input.limits)
  else if gState = .hardPaused then
    decide .softWarning .warnAllow
      ("configured token reference exceeded, but no real provider limit observed " ++ usage)
  else if gState = .softWarning then
    decide .softWarning .warnAllow ("global budget at soft threshold " ++ usage)
  else
    decide .normal .allow
      (if gDay.isNone && gWeek.isNone then
        "usage observed with no provider limit denominator; no active provider limit"
      else "configured token reference under soft threshold")

def agentDecision (agentId : String) : UsageGateDecision :=
  let global := globalDecision parse input
  let r := (input.rollupsByAgent.get? agentId).getD ⟨⟨0⟩, ⟨0⟩⟩
  let budget := input.policy.agents.get? agentId
  let dailyPct := budget.bind fun b => pctOrNull r.day.weightedTokens b.dailyWeightedTokens
  let weeklyPct := budget.bind fun b => pctOrNull r.week.weightedTokens b.weeklyWeightedTokens
  let aState := if !input.limits.isEmpty then .hardPaused
    else classifyAgentState dailyPct weeklyPct input.policy
  let decide (state : UsageGateState) (intent : UsageGateDecisionLabel) (reason : String) :
      UsageGateDecision :=
    ⟨state, applyEnforcement intent input.enforcement, reason, dailyPct, weeklyPct⟩
  if input.overridden parse then
    ⟨.normal, applyEnforcement .allow input.enforcement, "emergency override active", none, none⟩
  else if input.policy.exemptAgents.contains agentId then
    ⟨.normal, applyEnforcement .allow input.enforcement, "agent " ++ agentId ++ " is exempt", none,
      none⟩
  else if global.state = .hardPaused || global.state = .degraded then
    decide global.state (if global.decision = .pauseUnknown then .pauseUnknown else .pauseNonCore)
      global.reason
  else if aState = .hardPaused && !input.limits.isEmpty then
    decide .hardPaused .pauseAgent (limitsReason input.limits)
  else if aState = .hardPaused then
    decide .softWarning .warnAllow ("agent " ++ agentId ++
      " configured token reference exceeded, but no real provider limit observed")
  else if aState = .softWarning then
    decide .softWarning .warnAllow ("agent " ++ agentId ++ " at soft threshold")
  else decide .normal .allow ("agent " ++ agentId ++ " under soft threshold")

def evaluateGate : UsageGateSnapshot where
  isDegraded := input.stale
  policyVersion := input.policy.schemaVersion
  global := globalDecision parse input
  agents := input.knownAgents.foldl
    (fun agents agentId => agents.set agentId (agentDecision parse input agentId)) .empty
  exemptAgents := input.policy.exemptAgents
  enforcement := input.enforcement
  overrideActive := input.overridden parse
  overrideReason := if input.overridden parse then input.policy.emergencyOverride.reason else none
  overrideExpiresAt :=
    if input.overridden parse then input.policy.emergencyOverride.expiresAt else none
  degradedReason := if input.stale then some "usage telemetry stale" else none
  providerLimits := input.limits
  generatedAt := input.nowIso

end

end Gate

def shouldPauseAgent (snapshot : UsageGateSnapshot) (agentId : String) : Bool :=
  snapshot.enforcement = .enforce &&
    ((snapshot.agents.get? agentId).getD snapshot.global).decision.isPause

def resolveExcludedAgents (snapshot : UsageGateSnapshot) : List String :=
  if snapshot.enforcement = .enforce then
    (snapshot.agents.entries.filter fun entry =>
      entry.2.decision.isPause && !snapshot.exemptAgents.contains entry.1).map Prod.fst
  else []

section
variable (parse : String → Option Int)

structure GateConsistent (input : EvaluateGateInput) : Prop where
  all : input.enforcement = .enforce → (evaluateGate parse input).global.decision.isPause →
    ∀ agentId, agentId ∈ resolveExcludedAgents (evaluateGate parse input) ↔
      agentId ∈ input.knownAgents ∧ agentId ∉ input.policy.exemptAgents
  none : input.enforcement = .enforce →
    (evaluateGate parse input).global.decision.isPause = false → input.limits = [] →
    resolveExcludedAgents (evaluateGate parse input) = []
  agree : input.enforcement = .enforce → ∀ agentId ∈ input.knownAgents,
    shouldPauseAgent (evaluateGate parse input) agentId ↔
      agentId ∈ resolveExcludedAgents (evaluateGate parse input)
  warn : input.enforcement = .warn → resolveExcludedAgents (evaluateGate parse input) = [] ∧
    ∀ agentId, shouldPauseAgent (evaluateGate parse input) agentId = false

def EvaluateGateInput.failsOpen (input : EvaluateGateInput) : Bool :=
  input.enforcement = .enforce && !input.overridden parse && input.stale && !input.failClosed &&
    input.limits.isEmpty &&
      input.knownAgents.any fun agentId => !input.policy.exemptAgents.contains agentId

theorem get?_decided {β : Type} (decide : String → β) (agentIds : List String)
    (agents : Dict String β) (agentId : String) :
    (agentIds.foldl (fun agents agentId => agents.set agentId (decide agentId)) agents).get?
      agentId = if agentId ∈ agentIds then some (decide agentId) else agents.get? agentId := by
  induction agentIds generalizing agents with
  | nil => rfl
  | cons first rest ih =>
    rw [foldl_cons, ih, Dict.get?_set]
    by_cases hrest : agentId ∈ rest
    · rw [if_pos hrest, if_pos (mem_cons_of_mem _ hrest)]
    · rw [if_neg hrest]
      by_cases hfirst : agentId = first
      · subst hfirst
        rw [if_pos rfl, if_pos mem_cons_self]
      · rw [if_neg hfirst, if_neg (by simp [hfirst, hrest])]

variable (input : EvaluateGateInput)

theorem evaluateGate_get? (agentId : String) : (evaluateGate parse input).agents.get? agentId =
      if agentId ∈ input.knownAgents then some (agentDecision parse input agentId) else none :=
  get?_decided (agentDecision parse input) input.knownAgents .empty agentId

theorem mem_resolveExcludedAgents (henforce : input.enforcement = .enforce) (agentId : String) :
    agentId ∈ resolveExcludedAgents (evaluateGate parse input) ↔
      agentId ∈ input.knownAgents ∧ agentId ∉ input.policy.exemptAgents ∧
        (agentDecision parse input agentId).decision.isPause := by
  have hexempt : (evaluateGate parse input).exemptAgents = input.policy.exemptAgents := rfl
  have henforce' : (evaluateGate parse input).enforcement = .enforce := henforce
  rw [resolveExcludedAgents]
  rw [if_pos henforce', mem_map]
  constructor
  · rintro ⟨entry, hentry, rfl⟩
    obtain ⟨hentry, hpasses⟩ := mem_filter.mp hentry
    have hget := Dict.get?_of_mem hentry
    rw [evaluateGate_get?] at hget
    split at hget
    · next hknown =>
      rw [← Option.some.inj hget, hexempt] at hpasses
      simp only [Bool.and_eq_true, Bool.not_eq_true', contains_eq_mem,
        decide_eq_false_iff_not] at hpasses
      exact ⟨hknown, hpasses.2, hpasses.1⟩
    · cases hget
  · rintro ⟨hknown, hnotExempt, hpause⟩
    have hget : (evaluateGate parse input).agents.get? agentId =
        some (agentDecision parse input agentId) := by
      rw [evaluateGate_get?, if_pos hknown]
    refine ⟨(agentId, agentDecision parse input agentId),
      mem_filter.mpr ⟨Dict.mem_of_get? hget, ?_⟩, rfl⟩
    simp [hpause, hexempt, hnotExempt]

theorem shouldPauseAgent_known
    (henforce : input.enforcement = .enforce) (hknown : agentId ∈ input.knownAgents) :
    shouldPauseAgent (evaluateGate parse input) agentId =
      (agentDecision parse input agentId).decision.isPause := by
  have henforce' : (evaluateGate parse input).enforcement = .enforce := henforce
  rw [shouldPauseAgent]
  rw [evaluateGate_get?, if_pos hknown, henforce']
  rfl

theorem applyEnforcement_enforce (intent : UsageGateDecisionLabel) :
    applyEnforcement intent .enforce = intent := rfl

theorem globalDecision_isPause (henforce : input.enforcement = .enforce) :
    (globalDecision parse input).decision.isPause = (!input.overridden parse &&
      if input.stale then input.failClosed else !input.limits.isEmpty) := by
  rw [globalDecision]
  dsimp only
  rw [henforce]
  cases input.overridden parse with
  | true => rfl
  | false =>
    cases input.stale with
    | true => cases input.failClosed <;> rfl
    | false =>
      cases input.limits.isEmpty with
      | false => rfl
      | true =>
        simp only [Bool.false_eq_true, Bool.not_true, Bool.false_and, if_false,
          applyEnforcement_enforce]
        split
        · rfl
        · split <;> rfl

theorem globalDecision_state : ((globalDecision parse input).state = .hardPaused ∨
      (globalDecision parse input).state = .degraded) ↔
    (!input.overridden parse && (input.stale || !input.limits.isEmpty)) := by
  rw [globalDecision]
  dsimp only
  cases input.overridden parse with
  | true => simp
  | false =>
    cases input.stale with
    | true => cases input.failClosed <;> simp
    | false =>
      cases input.limits.isEmpty with
      | false => simp
      | true =>
        simp only [Bool.false_eq_true, Bool.not_true, Bool.false_and, if_false]
        split
        · simp
        · split <;> simp

theorem agentDecision_isPause
    (henforce : input.enforcement = .enforce) (hnotExempt : agentId ∉ input.policy.exemptAgents) :
    (agentDecision parse input agentId).decision.isPause = (!input.overridden parse &&
      (input.stale || !input.limits.isEmpty)) := by
  have hstate := globalDecision_state parse input
  have hcontains : input.policy.exemptAgents.contains agentId = false := by
    simpa using hnotExempt
  rw [agentDecision]
  dsimp only
  rw [henforce, hcontains]
  simp only [applyEnforcement_enforce, Bool.or_eq_true, decide_eq_true_eq]
  cases hoverride : input.overridden parse with
  | true => rfl
  | false =>
    rw [hoverride] at hstate
    simp only [Bool.false_eq_true, if_false]
    split
    · next hpaused =>
      have hvalue : (input.stale || !input.limits.isEmpty) = true := hstate.mp hpaused
      rw [hvalue]
      dsimp only
      split <;> rfl
    · next hpaused =>
      have hvalue : (input.stale || !input.limits.isEmpty) = false :=
        Bool.eq_false_iff.mpr fun h => hpaused (hstate.mpr h)
      have hlimits : input.limits.isEmpty = true := by
        simpa using (Bool.or_eq_false_iff.mp hvalue).2
      rw [hvalue, hlimits]
      simp only [Bool.not_true, Bool.and_false, Bool.false_eq_true, if_false]
      split
      · rfl
      · split <;> rfl

theorem agentDecision_exempt (hexempt : agentId ∈ input.policy.exemptAgents) :
    (agentDecision parse input agentId).decision.isPause = false := by
  have hallow : (applyEnforcement .allow input.enforcement).isPause = false := by
    cases input.enforcement <;> rfl
  rw [agentDecision]
  dsimp only
  rw [if_pos (contains_iff_mem.mpr hexempt)]
  split <;> exact hallow

theorem failsOpen_iff : input.failsOpen parse ↔
    input.enforcement = .enforce ∧ input.overridden parse = false ∧ input.stale ∧
      input.failClosed = false ∧ input.limits = [] ∧
        ∃ agentId ∈ input.knownAgents, agentId ∉ input.policy.exemptAgents := by
  simp [EvaluateGateInput.failsOpen, and_assoc]

theorem failsOpen_of_consistent {input : EvaluateGateInput} (h : GateConsistent parse input) :
    ¬ input.failsOpen parse := by
  rw [failsOpen_iff]
  rintro ⟨henforce, hoverride, hstale, hopen, hlimits, agentId, hknown, hnotExempt⟩
  have hglobal : (evaluateGate parse input).global.decision.isPause = false := by
    apply (globalDecision_isPause parse input henforce).trans
    rw [hstale, hopen]
    simp
  have hexcluded : agentId ∈ resolveExcludedAgents (evaluateGate parse input) := by
    rw [mem_resolveExcludedAgents parse input henforce]
    refine ⟨hknown, hnotExempt, ?_⟩
    rw [agentDecision_isPause parse input henforce hnotExempt, hoverride, hstale]
    rfl
  rw [h.none henforce hglobal hlimits] at hexcluded
  cases hexcluded

/-- The gate is consistent exactly when it does not fail open on a stale reading with an agent to
pause. -/
theorem gateConsistent_iff (input : EvaluateGateInput) :
    GateConsistent parse input ↔ ¬ input.failsOpen parse := by
  refine ⟨failsOpen_of_consistent parse, fun hfails => ?_⟩
  have hmem := mem_resolveExcludedAgents parse input
  constructor
  case all =>
    intro henforce hpause agentId
    rw [hmem henforce]
    constructor
    · rintro ⟨hknown, hnotExempt, _⟩
      exact ⟨hknown, hnotExempt⟩
    · rintro ⟨hknown, hnotExempt⟩
      refine ⟨hknown, hnotExempt, ?_⟩
      have hglobal := (globalDecision_isPause parse input henforce).symm.trans hpause
      rw [agentDecision_isPause parse input henforce hnotExempt]
      rw [Bool.and_eq_true] at hglobal ⊢
      refine ⟨hglobal.1, ?_⟩
      have hreason := hglobal.2
      split at hreason
      · next hstale => rw [hstale, Bool.true_or]
      · rw [hreason, Bool.or_true]
  case none =>
    intro henforce hpause hlimits
    rw [eq_nil_iff_forall_not_mem]
    intro agentId hexcluded
    obtain ⟨hknown, hnotExempt, hagent⟩ := (hmem henforce agentId).mp hexcluded
    have hglobal := (globalDecision_isPause parse input henforce).symm.trans hpause
    rw [agentDecision_isPause parse input henforce hnotExempt, hlimits] at hagent
    simp only [isEmpty_nil, Bool.not_true, Bool.or_false, Bool.and_eq_true,
      Bool.not_eq_true'] at hagent
    obtain ⟨hoverride, hstale⟩ := hagent
    have hopen : input.failClosed = false := by simpa [hoverride, hstale] using hglobal
    apply hfails
    rw [failsOpen_iff]
    exact ⟨henforce, hoverride, hstale, hopen, hlimits, agentId, hknown, hnotExempt⟩
  case agree =>
    intro henforce agentId hknown
    rw [hmem henforce, shouldPauseAgent_known parse input henforce hknown]
    constructor
    · intro hpause
      refine ⟨hknown, fun hexempt => ?_, hpause⟩
      rw [agentDecision_exempt parse input hexempt] at hpause
      cases hpause
    · exact fun h => h.2.2
  case warn =>
    intro hwarn
    have henforcement : (evaluateGate parse input).enforcement = .warn := hwarn
    constructor
    · rw [resolveExcludedAgents]
      rw [henforcement, if_neg (by decide)]
    · intro agentId
      rw [shouldPauseAgent]
      rw [henforcement]
      rfl

end

def unreadTelemetry : EvaluateGateInput where
  globalRollup := ⟨⟨0⟩, ⟨0⟩⟩
  rollupsByAgent := .empty
  policy := {
    global := ⟨1000, 5000, none, none⟩
    agents := Dict.empty.set "ada" ⟨100, 500⟩
    exemptAgents := []
    emergencyOverride := ⟨false, none, none⟩
    failClosedOnUnknown := some false }
  enforcement := .enforce
  nowIso := "2026-05-31T00:00:00.000Z"
  dataFreshnessMs := none
  providerLimits := none

/-- The global decision lets everyone through, and the agent is paused. -/
theorem not_gateConsistent : ¬ GateConsistent (fun _ => none) unreadTelemetry := by
  intro h
  have hnone := h.none rfl (by decide +kernel) rfl
  revert hnone
  decide +kernel

end IdAgents.UsageMeter
