import IdAgents.Orchestration.Admission

namespace IdAgents.Orchestration
open JsText JsMap List

structure Cleared (ctx : AdmissionContext) (item : BacklogItem) : Prop where
  ready : item.readinessState = .ready
  unheld : ctx.readyItemBlockers.bind (·.get? item.itemId) = none
  retriable : given item.lastDispatchPhid = none ∨ item.retrySafe
  approved : item.riskClass ∈ autoRunRisk ∨ item.approvedAt.isSome ∨ item.autoReadyApprovedAt.isSome
  dependencies : ∀ d ∈ item.dependencies, ctx.dependencyIndex.get? d = some true

def ownItems (ctx : AdmissionContext) (admits : List BacklogItem) : List BacklogItem :=
  admits.filter fun item => (poolOf ctx item).isNone

def poolAdmits (ctx : AdmissionContext) (poolId : String) (admits : List BacklogItem) : Nat :=
  admits.countP fun item => poolOf ctx item = some poolId

def Apart (a b : BacklogItem) : Prop := ∀ s ∈ a.writeScope, s ∉ b.writeScope

structure SafePlan (candidates : List BacklogItem) (ctx : AdmissionContext)
    (config : ContinuousOrchestrationConfig) (plan : AdmissionPlan) : Prop where
  each : ∃ held : List BacklogItem, (plan.admits ++ held).Perm candidates ∧
    plan.skipped.map (·.itemId) = held.map (·.itemId)
  capped : plan.admits.length ≤ (min ctx.admitLimit (config.maxInFlight - ctx.inFlight)).toNat
  cleared : ∀ item ∈ plan.admits, Cleared ctx item
  scopes : (ownItems ctx plan.admits).Pairwise Apart
  unlocked : ∀ item ∈ ownItems ctx plan.admits, ∀ s ∈ item.writeScope, s ∉ ctx.activeWriteScopes
  slots : ∀ poolId, poolAdmits ctx poolId plan.admits ≤
    ((ctx.running.poolSlots.get? poolId).getD 0).toNat
  builders : ∀ i j builder, plan.assignments.get? i = some builder →
    plan.assignments.get? j = some builder → i = j

theorem rowGate_none (h : rowGate ctx free limit admitted item = none) :
    Cleared ctx item ∧ (admitted : Int) < limit := by
  simp only [rowGate, Option.orElse_eq_orElse, Option.orElse_eq_or, Option.or_eq_none_iff] at h
  obtain ⟨hready, hblocker, hretry, _, hcap, hrisk, hdeps⟩ := h
  constructor
  · constructor
    case ready =>
      rw [readinessGate] at hready
      split at hready
      · assumption
      · cases hready
    case unheld =>
      rw [blockerGate] at hblocker
      cases hget : ctx.readyItemBlockers.bind (·.get? item.itemId) with
      | none => rfl
      | some blocker =>
        rw [hget] at hblocker
        cases hblocker
    case retriable =>
      rw [retryGate] at hretry
      cases hphid : given item.lastDispatchPhid with
      | none => exact .inl rfl
      | some phid =>
        rw [hphid] at hretry
        dsimp only at hretry
        split at hretry
        · exact .inr ‹_›
        · split at hretry <;> cases hretry
    case approved =>
      unfold riskGate at hrisk
      dsimp only at hrisk
      split at hrisk
      · next happroved => simpa [or_assoc] using happroved
      · cases hrisk
    case dependencies =>
      unfold dependencyGate at hdeps
      dsimp only at hdeps
      split at hdeps
      · cases hdeps
      · next hbroken =>
        split at hdeps
        · cases hdeps
        · next hpending =>
          intro d hd
          rw [not_not, brokenDeps, filter_eq_nil_iff] at hbroken
          rw [not_not, pendingDeps, filter_eq_nil_iff] at hpending
          have hknown := hbroken d hd
          have hdone := hpending d hd
          cases hget : ctx.dependencyIndex.get? d with
          | none => simp [hget] at hknown
          | some done =>
            cases done with
            | true => rfl
            | false => simp [hget] at hdone
  · rw [capGate] at hcap
    split at hcap
    · assumption
    · split at hcap <;> cases hcap

def Shrinks (lists lists' : Dict String (List String)) : Prop :=
  ∀ poolId builders', lists'.get? poolId = some builders' →
    ∃ builders, lists.get? poolId = some builders ∧ ∀ b, builders'.count b ≤ builders.count b

theorem Shrinks.refl (lists : Dict String (List String)) : Shrinks lists lists :=
  fun _ builders h => ⟨builders, h, fun _ => Nat.le_refl _⟩

theorem Shrinks.trans (h : Shrinks lists lists') (h' : Shrinks lists' lists'') :
    Shrinks lists lists'' := by
  intro poolId builders'' hget
  obtain ⟨builders', hget', hle'⟩ := h' poolId builders'' hget
  obtain ⟨builders, hget, hle⟩ := h poolId builders' hget'
  exact ⟨builders, hget, fun b => Nat.le_trans (hle' b) (hle b)⟩

theorem Shrinks.set (hget : lists.get? poolId = some builders)
    (hle : ∀ b, rest.count b ≤ builders.count b) : Shrinks lists (lists.set poolId rest) := by
  intro poolId' builders' hget'
  rw [Dict.get?_set] at hget'
  split at hget'
  · next heq =>
    obtain rfl := Option.some.inj hget'
    exact ⟨builders, by rw [heq, hget], hle⟩
  · exact ⟨builders', hget', fun _ => Nat.le_refl _⟩

theorem splice_count (builders : List String) (index : Nat) (b : String) :
    (builders.eraseIdx index).count b + (if builders[index]? = some b then 1 else 0) =
      builders.count b := by
  by_cases hlt : index < builders.length
  · have hperm := getElem_cons_eraseIdx_perm hlt
    rw [← hperm.count_eq b, count_cons, getElem?_eq_getElem hlt]
    simp
  · rw [eraseIdx_of_length_le (Nat.le_of_not_lt hlt),
      getElem?_eq_none (Nat.le_of_not_lt hlt)]
    simp

theorem takeBuilder_count (ctx : AdmissionContext) (item : BacklogItem) (builders : List String)
    (b : String) : (takeBuilder ctx item builders).2.count b +
      (if (takeBuilder ctx item builders).1 = some b then 1 else 0) = builders.count b := by
  rw [takeBuilder]
  cases builderIndex ctx item builders with
  | none => simp
  | some index => exact splice_count builders index b

structure Spends (running running' : Running) : Prop where
  locked : running'.lockedScopes = running.lockedScopes
  slots : running'.poolSlots = running.poolSlots
  builders : Shrinks running.poolBuilders running'.poolBuilders

theorem Spends.refl (running : Running) : Spends running running := ⟨rfl, rfl, .refl _⟩

inductive Grants (ctx : AdmissionContext) (running : Running) (item : BacklogItem) :
    Lane → Running → Prop
  | pool (hpool : poolOf ctx item = some poolId)
      (hslots : 0 < (running.poolSlots.get? poolId).getD 0) (hbuilder : builder ≠ "")
      (hget : running.poolBuilders.get? poolId = some builders)
      (hcount : ∀ b, rest.count b + (if builder = b then 1 else 0) = builders.count b) :
      Grants ctx running item (.pool poolId builder)
        { running with poolBuilders := running.poolBuilders.set poolId rest }
  | own (hpool : poolOf ctx item = none)
      (hscopes : given (item.writeScope.find? running.lockedScopes.contains) = none) :
      Grants ctx running item .own running

theorem given_some (h : given text = some value) : text = some value ∧ value ≠ "" := by
  obtain ⟨htext, hne⟩ := Option.filter_eq_some_iff.mp h
  exact ⟨htext, of_decide_eq_true hne⟩

theorem Grants.spends (h : Grants ctx running item lane running') : Spends running running' := by
  cases h with
  | pool _ _ _ hget hcount =>
    refine ⟨rfl, rfl, .set hget ?_⟩
    intro b
    have := hcount b
    omega
  | own => exact .refl running

theorem laneOf_cases (ctx : AdmissionContext) (running : Running) (item : BacklogItem) :
    (∃ record running', laneOf ctx running item = (.error record, running') ∧
      record.itemId = item.itemId ∧ Spends running running') ∨
        ∃ lane running', laneOf ctx running item = (.ok lane, running') ∧
          Grants ctx running item lane running' := by
  rw [laneOf]
  cases hpool : poolOf ctx item with
  | none =>
    dsimp only
    cases hscopes : given (item.writeScope.find? running.lockedScopes.contains) with
    | some s =>
      left
      exact ⟨_, running, by rw [ownLane, hscopes], rfl, .refl running⟩
    | none =>
      right
      exact ⟨.own, running, by rw [ownLane, hscopes], .own hpool hscopes⟩
  | some poolId =>
    dsimp only
    rw [poolLane]
    split
    · left
      exact ⟨_, running, rfl, rfl, .refl running⟩
    · next hslots =>
      have hcount := takeBuilder_count ctx item ((running.poolBuilders.get? poolId).getD [])
      cases htake : takeBuilder ctx item ((running.poolBuilders.get? poolId).getD []) with
      | mk assigned rest =>
        rw [htake] at hcount
        dsimp only at hcount ⊢
        cases hget : running.poolBuilders.get? poolId with
        | none =>
          have hhas : running.poolBuilders.has poolId = false := by rw [Dict.has_eq, hget]; rfl
          have hnone : given assigned = none := by
            cases hassigned : given assigned with
            | none => rfl
            | some builder =>
              have hthis := hcount builder
              rw [(given_some hassigned).1, hget] at hthis
              simp at hthis
          rw [hhas, hnone]
          left
          exact ⟨_, running, rfl, rfl, .refl running⟩
        | some builders =>
          have hhas : running.poolBuilders.has poolId = true := by rw [Dict.has_eq, hget]; rfl
          rw [hget, Option.getD_some] at hcount
          rw [hhas]
          cases hassigned : given assigned with
          | none =>
            left
            refine ⟨_, _, rfl, rfl, rfl, rfl, .set hget ?_⟩
            intro b
            have := hcount b
            omega
          | some builder =>
            obtain ⟨rfl, hne⟩ := given_some hassigned
            right
            refine ⟨_, _, rfl, .pool hpool (Int.not_le.mp hslots) hne hget ?_⟩
            intro b
            rw [← hcount b]
            simp

def Names (item : BacklogItem) (record : Option DecisionRecord) : Prop :=
  ∀ r, record = some r → r.itemId = item.itemId

theorem Names.none (item : BacklogItem) : Names item none := nofun

theorem Names.some (item : BacklogItem) (action : DecisionAction) (code : NonAdmissionCode)
    (reason : String) (extra : List (String × Json)) :
    Names item (nonAdmission item.itemId action code reason extra) := by
  intro r h
  obtain rfl := Option.some.inj h
  rfl

theorem Names.or (h : Names item record) (h' : Names item record') :
    Names item (record <|> record') := by
  intro r hr
  rw [Option.orElse_eq_some] at hr
  rcases hr with hr | ⟨_, hr⟩
  · exact h r hr
  · exact h' r hr

theorem Names.ite [Decidable c] (h : Names item record) (h' : Names item record') :
    Names item (if c then record else record') := by
  split
  · exact h
  · exact h'

theorem disk_names (item : BacklogItem) (disk : Option DiskHeadroom) :
    Names item (diskAdmissionBlocker item disk) := by
  cases disk with
  | none => exact .none item
  | some disk =>
    obtain ⟨state, headroom⟩ := disk
    cases state with
    | ok => exact .none item
    | unknown => exact .none item
    | critical =>
      exact .ite (.none item) (.some item _ _ _ _)
    | warn =>
      exact .ite (.none item) (.some item _ _ _ _)

theorem rowGate_itemId (h : rowGate ctx free limit admitted item = some record) :
    record.itemId = item.itemId := by
  have hnames : Names item (rowGate ctx free limit admitted item) := by
    rw [rowGate]
    apply Names.or
    · exact .ite (.none item) (.some item _ _ _ _)
    apply Names.or
    · rw [blockerGate]
      cases ctx.readyItemBlockers.bind (·.get? item.itemId) with
      | none => exact .none item
      | some blocker => exact .some item _ _ _ _
    apply Names.or
    · rw [retryGate]
      cases given item.lastDispatchPhid with
      | none => exact .none item
      | some phid =>
        apply Names.ite (.none item)
        split
        · exact .some item _ _ _ _
        · exact .some item _ _ _ _
    apply Names.or (disk_names item ctx.diskHeadroom)
    apply Names.or
    · exact .ite (.none item) (.ite (.some item _ _ _ _) (.some item _ _ _ _))
    apply Names.or
    · exact .ite (.none item) (.some item _ _ _ _)
    · exact .ite (.some item _ _ _ _) (.ite (.some item _ _ _ _) (.none item))
  exact hnames record h

theorem laneGate_itemId (h : laneGate ctx item lane = some record) :
    record.itemId = item.itemId := by
  have hnames : Names item (laneGate ctx item lane) := by
    rw [laneGate]
    apply Names.or
    · cases lane with
      | pool poolId builder => exact .ite (.none item) (.some item _ _ _ _)
      | own => exact .ite (.none item) (.some item _ _ _ _)
    apply Names.or
    · unfold mismatchGate
      dsimp only
      cases providerRuntimeMismatch item (lane.target item)
          ((given (lane.target item)).bind (targetRuntimeOf ctx)) with
      | none => exact .none item
      | some mismatch => exact .some item _ _ _ _
    · rw [healthGate]
      cases given (lane.target item) with
      | none => exact .none item
      | some target => exact .ite (.none item) (.some item _ _ _ _)
  exact hnames record h

theorem consider_cases (ctx : AdmissionContext) (free limit : Int) (p : Progress)
    (item : BacklogItem) : (∃ record running', consider ctx free limit p item =
        { p with running := running' }.skip record ∧ record.itemId = item.itemId ∧
          Spends p.running running') ∨ ∃ lane running', consider ctx free limit p item =
        { p with running := running' }.admitted item lane ∧
          Grants ctx p.running item lane running' ∧ Cleared ctx item ∧
            (p.admits.length : Int) < limit := by
  rw [consider]
  cases hrow : rowGate ctx free limit p.admits.length item with
  | some record => exact .inl ⟨record, p.running, rfl, rowGate_itemId hrow, .refl _⟩
  | none =>
    obtain ⟨hcleared, hcap⟩ := rowGate_none hrow
    dsimp only
    rcases laneOf_cases ctx p.running item with ⟨record, running', hlane, hid, hspends⟩ |
      ⟨lane, running', hlane, hgrants⟩
    · rw [hlane]
      exact .inl ⟨record, running', rfl, hid, hspends⟩
    · rw [hlane]
      dsimp only
      cases hgate : laneGate ctx item lane with
      | some record => exact .inl ⟨record, running', rfl, laneGate_itemId hgate, hgrants.spends⟩
      | none => exact .inr ⟨lane, running', rfl, hgrants, hcleared, hcap⟩

structure Kept (ctx : AdmissionContext) (limit : Int) (done : List BacklogItem) (p : Progress) :
    Prop where
  each : ∃ held : List BacklogItem, (p.admits ++ held).Perm done ∧
    p.skipped.map (·.itemId) = held.map (·.itemId)
  capped : (p.admits.length : Int) ≤ limit
  cleared : ∀ item ∈ p.admits, Cleared ctx item
  slots : ∀ poolId, poolAdmits ctx poolId p.admits +
    ((p.running.poolSlots.get? poolId).getD 0).toNat =
      ((ctx.running.poolSlots.get? poolId).getD 0).toNat
  locked : p.running.lockedScopes =
    ctx.activeWriteScopes ++ (ownItems ctx p.admits).flatMap (·.writeScope)
  builders : Shrinks ctx.running.poolBuilders p.running.poolBuilders

theorem Kept.skip (h : Kept ctx limit done p) (hspends : Spends p.running running')
    (hid : record.itemId = item.itemId) :
    Kept ctx limit (done ++ [item]) ({ p with running := running' }.skip record) where
  each := by
    obtain ⟨held, hperm, hids⟩ := h.each
    refine ⟨held ++ [item], ?_, ?_⟩
    · rw [Progress.skip, ← append_assoc]
      exact hperm.append_right [item]
    · rw [Progress.skip, map_append, map_append, hids]
      simp [hid]
  capped := h.capped
  cleared := h.cleared
  slots poolId := by
    have hslots := h.slots poolId
    rw [← hspends.slots] at hslots
    exact hslots
  locked := hspends.locked.trans h.locked
  builders := h.builders.trans hspends.builders

theorem poolAdmits_concat (ctx : AdmissionContext) (poolId : String) (admits : List BacklogItem)
    (item : BacklogItem) : poolAdmits ctx poolId (admits ++ [item]) =
      poolAdmits ctx poolId admits + if poolOf ctx item = some poolId then 1 else 0 := by
  rw [poolAdmits, countP_append, countP_singleton]
  simp [poolAdmits]

theorem Kept.admitted (h : Kept ctx limit done p) (hgrants : Grants ctx p.running item lane running')
    (hcleared : Cleared ctx item) (hcap : (p.admits.length : Int) < limit) :
    Kept ctx limit (done ++ [item]) ({ p with running := running' }.admitted item lane) := by
  have heach : ∃ held : List BacklogItem, ((p.admits ++ [item]) ++ held).Perm (done ++ [item]) ∧
      p.skipped.map (·.itemId) = held.map (·.itemId) := by
    obtain ⟨held, hperm, hids⟩ := h.each
    refine ⟨held, ?_, hids⟩
    rw [append_assoc]
    exact (perm_append_comm.append_left p.admits).trans (by
      rw [← append_assoc]
      exact hperm.append_right [item])
  have hlength : ((p.admits ++ [item]).length : Int) ≤ limit := by
    rw [length_append, length_singleton]
    omega
  have hall : ∀ i ∈ p.admits ++ [item], Cleared ctx i := by
    intro i hi
    rcases mem_append.mp hi with hi | hi
    · exact h.cleared i hi
    · rw [mem_singleton.mp hi]
      exact hcleared
  have hbuilders := h.builders.trans hgrants.spends.builders
  cases hgrants with
  | @pool poolId builder builders rest hpool hslots _ _ _ =>
    refine ⟨heach, hlength, hall, ?_, ?_, hbuilders⟩
    · intro poolId'
      have hbefore := h.slots poolId'
      change poolAdmits ctx poolId' (p.admits ++ [item]) + (((p.running.poolSlots.set poolId
        ((p.running.poolSlots.get? poolId).getD 0 - 1)).get? poolId').getD 0).toNat = _
      rw [poolAdmits_concat, hpool, Dict.get?_set]
      by_cases heq : poolId' = poolId
      · subst heq
        rw [if_pos rfl, if_pos rfl, Option.getD_some]
        omega
      · rw [if_neg heq, if_neg fun hsome => heq (Option.some.inj hsome).symm]
        exact hbefore
    · change p.running.lockedScopes = _
      have hown : ownItems ctx (p.admits ++ [item]) = ownItems ctx p.admits := by
        simp [ownItems, hpool]
      exact h.locked.trans (by rw [← hown]; rfl)
  | own hpool _ =>
    refine ⟨heach, hlength, hall, ?_, ?_, hbuilders⟩
    · intro poolId
      have hbefore := h.slots poolId
      change poolAdmits ctx poolId (p.admits ++ [item]) + _ = _
      rw [poolAdmits_concat, hpool, if_neg nofun]
      exact hbefore
    · change p.running.lockedScopes ++ item.writeScope = _
      have hown : ownItems ctx (p.admits ++ [item]) = ownItems ctx p.admits ++ [item] := by
        simp [ownItems, hpool]
      rw [h.locked, append_assoc]
      change _ = ctx.activeWriteScopes ++ (ownItems ctx (p.admits ++ [item])).flatMap _
      rw [hown, flatMap_append]
      simp

theorem Kept.step (h : Kept ctx limit done p) (free : Int) (item : BacklogItem) :
    Kept ctx limit (done ++ [item]) (consider ctx free limit p item) := by
  rcases consider_cases ctx free limit p item with ⟨record, running', hconsider, hid, hspends⟩ |
    ⟨lane, running', hconsider, hgrants, hcleared, hcap⟩
  · rw [hconsider]
    exact h.skip hspends hid
  · rw [hconsider]
    exact h.admitted hgrants hcleared hcap

structure Scoped (ctx : AdmissionContext) (p : Progress) : Prop where
  scopes : (ownItems ctx p.admits).Pairwise Apart
  unlocked : ∀ item ∈ ownItems ctx p.admits, ∀ s ∈ item.writeScope, s ∉ ctx.activeWriteScopes

theorem Scoped.step (h : Scoped ctx p) (hkept : Kept ctx limit done p) (free : Int)
    (item : BacklogItem) (hnamed : poolOf ctx item = none → "" ∉ item.writeScope) :
    Scoped ctx (consider ctx free limit p item) := by
  rcases consider_cases ctx free limit p item with ⟨record, running', hconsider, _, _⟩ |
    ⟨lane, running', hconsider, hgrants, _, _⟩
  · rw [hconsider]
    exact ⟨h.scopes, h.unlocked⟩
  · rw [hconsider]
    cases hgrants with
    | pool hpool =>
      have hown : ownItems ctx (p.admits ++ [item]) = ownItems ctx p.admits := by
        simp [ownItems, hpool]
      constructor
      case scopes =>
        change (ownItems ctx (p.admits ++ [item])).Pairwise Apart
        rw [hown]
        exact h.scopes
      case unlocked =>
        change ∀ i ∈ ownItems ctx (p.admits ++ [item]), _
        rw [hown]
        exact h.unlocked
    | own hpool hscopes =>
      have hown : ownItems ctx (p.admits ++ [item]) = ownItems ctx p.admits ++ [item] := by
        simp [ownItems, hpool]
      -- no scope is locked: a clash is found, unless it is the empty string
      have hfree : ∀ s ∈ item.writeScope, s ∉ p.running.lockedScopes := by
        intro s hs hlocked
        cases hfind : item.writeScope.find? p.running.lockedScopes.contains with
        | none =>
          have hnone := find?_eq_none.mp hfind s hs
          simp [hlocked] at hnone
        | some s' =>
          rw [hfind, given, Option.filter_eq_none_iff] at hscopes
          have hempty : s' = "" := by simpa using hscopes s' rfl
          exact hnamed hpool (hempty ▸ mem_of_find?_eq_some hfind)
      rw [hkept.locked] at hfree
      constructor
      case scopes =>
        change (ownItems ctx (p.admits ++ [item])).Pairwise Apart
        rw [hown, pairwise_append]
        refine ⟨h.scopes, pairwise_singleton .., ?_⟩
        intro a ha b hb s hs hs'
        rw [mem_singleton.mp hb] at hs'
        apply hfree s hs'
        exact mem_append_right _ (mem_flatMap.mpr ⟨a, ha, hs⟩)
      case unlocked =>
        change ∀ i ∈ ownItems ctx (p.admits ++ [item]), _
        rw [hown]
        intro i hi s hs
        rcases mem_append.mp hi with hi | hi
        · exact h.unlocked i hi s hs
        · rw [mem_singleton.mp hi] at hs
          intro hactive
          exact hfree s hs (mem_append_left _ hactive)

structure ListedOnce (lists : Dict String (List String)) : Prop where
  within : ∀ poolId builders, lists.get? poolId = some builders → poolId ≠ "" →
    ∀ b ≠ "", builders.count b ≤ 1
  across : ∀ i j builders builders', lists.get? i = some builders → lists.get? j = some builders' →
    i ≠ "" → j ≠ "" → ∀ b ≠ "", b ∈ builders → b ∈ builders' → i = j

structure Assigned (ctx : AdmissionContext) (p : Progress) : Prop where
  distinct : ∀ i j builder, p.assignments.get? i = some builder →
    p.assignments.get? j = some builder → i = j
  gone : ∀ i builder, p.assignments.get? i = some builder → builder ≠ "" ∧ ∃ poolId builders,
    poolId ≠ "" ∧ ctx.running.poolBuilders.get? poolId = some builders ∧ builder ∈ builders ∧
      ∀ left, p.running.poolBuilders.get? poolId = some left → builder ∉ left

theorem Assigned.shrinks (h : Assigned ctx p)
    (hshrinks : Shrinks p.running.poolBuilders running'.poolBuilders) :
    Assigned ctx { p with running := running' } where
  distinct := h.distinct
  gone i builder hget := by
    obtain ⟨hne, poolId, builders, hpool, hlist, hmem, hleft⟩ := h.gone i builder hget
    refine ⟨hne, poolId, builders, hpool, hlist, hmem, ?_⟩
    intro left hleft'
    obtain ⟨before, hbefore, hle⟩ := hshrinks poolId left hleft'
    have hnot := count_eq_zero.mpr (hleft before hbefore)
    have hthis := hle builder
    rw [← count_eq_zero]
    omega

theorem Assigned.step (h : Assigned ctx p) (hkept : Kept ctx limit done p)
    (honce : ListedOnce ctx.running.poolBuilders) (free : Int) (item : BacklogItem) :
    Assigned ctx (consider ctx free limit p item) := by
  rcases consider_cases ctx free limit p item with ⟨record, running', hconsider, _, hspends⟩ |
    ⟨lane, running', hconsider, hgrants, _, _⟩
  · rw [hconsider]
    have hshrunk := h.shrinks hspends.builders
    exact ⟨hshrunk.distinct, hshrunk.gone⟩
  · rw [hconsider]
    have hshrunk := h.shrinks hgrants.spends.builders
    cases hgrants with
    | own => exact ⟨hshrunk.distinct, hshrunk.gone⟩
    | @pool poolId builder builders rest hpool _ hne hget hcount =>
      have hpoolId : poolId ≠ "" := (given_some hpool).2
      obtain ⟨listed, hlisted, hle⟩ := hkept.builders poolId builders hget
      have hfirst := hcount builder
      rw [if_pos rfl] at hfirst
      have hlistedOnce := honce.within poolId listed hlisted hpoolId builder hne
      have hmem : builder ∈ listed := by
        rw [← count_pos_iff]
        have := hle builder
        omega
      -- a builder that is assigned already is in no list that is left
      have hfresh : ∀ i, p.assignments.get? i ≠ some builder := by
        intro i hi
        obtain ⟨_, poolId', listed', hpoolId', hlisted', hmem', hgone⟩ := h.gone i builder hi
        obtain rfl := honce.across poolId' poolId listed' listed hlisted' hlisted hpoolId' hpoolId
          builder hne hmem' hmem
        have hnot := count_eq_zero.mpr (hgone builders hget)
        omega
      have hassigned : ∀ i b, (p.assignments.set item.itemId builder).get? i = some b →
          (i = item.itemId ∧ b = builder) ∨ p.assignments.get? i = some b := by
        intro i b hi
        rw [Dict.get?_set] at hi
        split at hi
        · next heq => exact .inl ⟨heq, (Option.some.inj hi).symm⟩
        · exact .inr hi
      constructor
      case distinct =>
        intro i j b hi hj
        rcases hassigned i b hi with ⟨rfl, rfl⟩ | hi <;> rcases hassigned j b hj with ⟨rfl, heq⟩ | hj
        · rfl
        · exact absurd hj (hfresh j)
        · exact absurd (heq ▸ hi) (hfresh i)
        · exact h.distinct i j b hi hj
      case gone =>
        intro i b hi
        rcases hassigned i b hi with ⟨_, rfl⟩ | hi
        · refine ⟨hne, poolId, listed, hpoolId, hlisted, hmem, ?_⟩
          intro left hleft
          have hrest : (p.running.poolBuilders.set poolId rest).get? poolId = some left := hleft
          rw [Dict.get?_set_self] at hrest
          obtain rfl := Option.some.inj hrest
          have := hle b
          rw [← count_eq_zero]
          omega
        · exact hshrunk.gone i b hi

variable {ctx : AdmissionContext} {p : Progress} {done : List BacklogItem} {limit : Int}

theorem kept_run (free : Int) (hkept : Kept ctx limit done p) (rest : List BacklogItem) :
    Kept ctx limit (done ++ rest) (rest.foldl (consider ctx free limit) p) := by
  induction rest generalizing done p with
  | nil =>
    rw [append_nil]
    exact hkept
  | cons item rest ih =>
    have hrest := ih (hkept.step free item)
    rw [append_assoc, singleton_append] at hrest
    exact hrest

theorem scoped_run (free : Int) (hkept : Kept ctx limit done p) (h : Scoped ctx p)
    {rest : List BacklogItem}
    (hnamed : ∀ item ∈ rest, poolOf ctx item = none → "" ∉ item.writeScope) :
    Scoped ctx (rest.foldl (consider ctx free limit) p) := by
  induction rest generalizing done p with
  | nil => exact h
  | cons item rest ih =>
    apply ih (hkept.step free item)
    · exact h.step hkept free item (hnamed item (by simp))
    · intro i hi
      exact hnamed i (by simp [hi])

theorem assigned_run (free : Int) (honce : ListedOnce ctx.running.poolBuilders)
    (hkept : Kept ctx limit done p) (h : Assigned ctx p) (rest : List BacklogItem) :
    Assigned ctx (rest.foldl (consider ctx free limit) p) := by
  induction rest generalizing done p with
  | nil => exact h
  | cons item rest ih =>
    apply ih (hkept.step free item)
    exact h.step hkept honce free item
section
variable (ctx : AdmissionContext)

theorem kept_start (hlimit : 0 ≤ limit) : Kept ctx limit [] { running := ctx.running } where
  each := ⟨[], .nil, rfl⟩
  capped := hlimit
  cleared _ h := nomatch h
  slots _ := Nat.zero_add _
  locked := (append_nil _).symm
  builders := .refl _

theorem assigned_start : Assigned ctx { running := ctx.running } where
  distinct i j builder h := by
    rw [Dict.get?_empty] at h
    cases h
  gone i builder h := by
    rw [Dict.get?_empty] at h
    cases h

theorem scoped_start : Scoped ctx { running := ctx.running } where
  scopes := List.Pairwise.nil
  unlocked _ h := nomatch h

end

theorem planAdmission_running (h : tickHalt ctx = none) (candidates : List BacklogItem)
    (config : ContinuousOrchestrationConfig) :
    ∃ p, candidates.foldl (consider ctx (slotsFree ctx config) (admissionLimit ctx config))
        { running := ctx.running } = p ∧
      planAdmission candidates ctx config = ⟨none, p.admits, p.assignments, p.skipped⟩ := by
  refine ⟨_, rfl, ?_⟩
  rw [planAdmission, h]

theorem tickHalt_of_plan (h : (planAdmission candidates ctx config).halt = none) :
    tickHalt ctx = none := by
  rw [planAdmission] at h
  cases htick : tickHalt ctx with
  | none => rfl
  | some reason =>
    rw [htick] at h
    cases h

theorem safePlan_of_listedOnce (config : ContinuousOrchestrationConfig)
    {candidates : List BacklogItem} (honce : ListedOnce ctx.running.poolBuilders)
    (hnamed : ∀ item ∈ candidates, poolOf ctx item = none → "" ∉ item.writeScope)
    (hhalt : (planAdmission candidates ctx config).halt = none) :
    SafePlan candidates ctx config (planAdmission candidates ctx config) := by
  have hlimit : 0 ≤ admissionLimit ctx config := Int.le_max_left ..
  obtain ⟨p, hp, hplan⟩ := planAdmission_running (tickHalt_of_plan hhalt) candidates config
  have hstart := kept_start ctx hlimit
  have hkept := kept_run (slotsFree ctx config) hstart candidates
  have hscoped := scoped_run (slotsFree ctx config) hstart (scoped_start ctx) hnamed
  have hassigned := assigned_run (slotsFree ctx config) honce hstart (assigned_start ctx)
    candidates
  rw [hp] at hkept hscoped hassigned
  rw [hplan]
  constructor
  case each => exact hkept.each
  case capped =>
    have hle := hkept.capped
    simp only [admissionLimit, slotsFree] at hle
    dsimp only
    omega
  case cleared => exact hkept.cleared
  case scopes => exact hscoped.scopes
  case unlocked => exact hscoped.unlocked
  case slots =>
    intro poolId
    have hslots := hkept.slots poolId
    dsimp only
    omega
  case builders => exact hassigned.distinct

def probe (id : String) (runtime : Option String) (writeScope : List String) : BacklogItem where
  itemId := id
  title := "work"
  track := none
  toAgent := some "agent"
  dispatchBody := some "work"
  readinessState := .ready
  riskClass := .routine
  writeScope := writeScope
  dependencies := []
  provider := none
  runtime := runtime
  sourceRefs := []
  approvedAt := none
  lastDispatchPhid := none
  retrySafe := false
  retryReadiness := none
  autoReadyApprovedAt := none
section
variable (lists : Dict String (List String))
section
variable (poolFor : BacklogItem → Option String)
section
variable (slots : Dict String Int)

def probeContext (runtimes : Dict String String) : AdmissionContext where
  mode := .running
  killSwitchActive := false
  hardPaused := false
  inFlight := 0
  activeWriteScopes := []
  dependencyIndex := .empty
  admitLimit := 2
  poolFor := poolFor
  poolFreeSlots := some slots
  poolFreeBuilders := some lists
  poolLaneBlockers := none
  healthyAgents := none
  targetAgentRuntimes := some runtimes
  readyItemBlockers := none
  diskHeadroom := none

theorem rowGate_probe (runtimes : Dict String String) (itemId : String)
    (runtime : Option String) (scope : List String) (hlt : admitted < 2) :
    rowGate (probeContext lists poolFor slots runtimes) 2 2 admitted
      (probe itemId runtime scope) = none := by
  have hcap : ((admitted : Nat) : Int) < 2 := by omega
  simp [rowGate, readinessGate, blockerGate, retryGate, diskAdmissionBlocker, capGate, riskGate,
    dependencyGate, brokenDeps, pendingDeps, probe, probeContext, given, autoRunRisk, hcap]

theorem healthGate_unknown (h : ctx.healthyAgents = none) (item : BacklogItem) (lane : Lane) :
    healthGate ctx item lane = none := by
  rw [healthGate]
  cases given (lane.target item) with
  | none => rfl
  | some target => simp [isHealthy, h]

theorem consider_unnamed
    (runtimes : Dict String String) (itemId : String) (hlt : p.admits.length < 2) :
    consider (probeContext lists (fun _ => none) slots runtimes) 2 2 p (probe itemId none [""]) =
      p.admitted (probe itemId none [""]) .own := by
  have hclash : given ([""].find? p.running.lockedScopes.contains) = none := by
    rw [find?_singleton]
    split
    · rfl
    · rfl
  have hlane : laneOf (probeContext lists (fun _ => none) slots runtimes) p.running
      (probe itemId none [""]) = (.ok .own, p.running) := by
    change (ownLane p.running (probe itemId none [""]), p.running) = _
    rw [ownLane]
    dsimp only [probe]
    rw [hclash]
  have hgate : laneGate (probeContext lists (fun _ => none) slots runtimes)
      (probe itemId none [""]) .own = none := by
    rw [laneGate, healthGate_unknown rfl]
    rfl
  rw [consider]
  rw [rowGate_probe _ _ _ _ _ _ _ hlt]
  dsimp only
  rw [hlane]
  dsimp only
  rw [hgate]

theorem matches_probe (b itemId builder : String) :
    poolBuilderMatchesRequestedRuntime (probe itemId (some "codex") []) builder
      (probeContext lists poolFor slots (Dict.empty.set b "codex")) = decide (builder = b) := by
  have hruntime : targetRuntimeOf (probeContext lists poolFor slots (Dict.empty.set b "codex"))
      builder = if builder = b then some "codex" else none := by
    change (Dict.empty.set b "codex").get? builder = _
    rw [Dict.get?_set, Dict.get?_empty]
  rw [poolBuilderMatchesRequestedRuntime]
  rw [hruntime]
  by_cases hb : builder = b
  · rw [if_pos hb, decide_eq_true hb]
    rfl
  · rw [if_neg hb, decide_eq_false hb]
    rfl

theorem consider_probe (itemId : String) (hlt : p.admits.length < 2)
    (hpool : poolFor (probe itemId (some "codex") []) = some poolId) (hpoolId : poolId ≠ "")
    (hb : b ≠ "") (hslots : 0 < (p.running.poolSlots.get? poolId).getD 0)
    (hget : p.running.poolBuilders.get? poolId = some builders) (hmem : b ∈ builders) :
    ∃ rest : List String, rest.count b + 1 = builders.count b ∧
      consider (probeContext lists poolFor slots (Dict.empty.set b "codex")) 2 2 p
        (probe itemId (some "codex") []) = ({ p with running := { p.running with
          poolBuilders := p.running.poolBuilders.set poolId rest } }).admitted
            (probe itemId (some "codex") []) (.pool poolId b) := by
  generalize hctx : probeContext lists poolFor slots (Dict.empty.set b "codex") = ctx
  have hmatch : ∀ builder, (isHealthy ctx builder &&
      poolBuilderMatchesRequestedRuntime (probe itemId (some "codex") []) builder ctx) =
        decide (builder = b) := by
    intro builder
    rw [← hctx, matches_probe]
    rfl
  obtain ⟨index, hindex, hat⟩ : ∃ index, builderIndex ctx (probe itemId (some "codex") [])
      builders = some index ∧ builders[index]? = some b := by
    rw [builderIndex]
    rw [funext hmatch]
    cases hfind : builders.findIdx? (fun builder => decide (builder = b)) with
    | none =>
      have hnot := findIdx?_eq_none_iff.mp hfind b hmem
      simp at hnot
    | some index =>
      obtain ⟨hlt, hat, _⟩ := findIdx?_eq_some_iff_getElem.mp hfind
      refine ⟨index, rfl, ?_⟩
      rw [getElem?_eq_getElem hlt, of_decide_eq_true hat]
  have hcount := splice_count builders index b
  rw [if_pos hat] at hcount
  refine ⟨builders.eraseIdx index, hcount, ?_⟩
  have hgiven : given (some b) = some b := by simp [given, hb]
  have hpoolOf : poolOf ctx (probe itemId (some "codex") []) = some poolId := by
    rw [poolOf, ← hctx]
    change given (poolFor (probe itemId (some "codex") [])) = _
    rw [hpool]
    simp [given, hpoolId]
  have hhas : p.running.poolBuilders.has poolId = true := by
    rw [Dict.has_eq, hget]
    rfl
  have hlane : laneOf ctx p.running (probe itemId (some "codex") []) =
      (.ok (.pool poolId b), { p.running with
        poolBuilders := p.running.poolBuilders.set poolId (builders.eraseIdx index) }) := by
    rw [laneOf, hpoolOf]
    dsimp only
    rw [poolLane, if_neg (Int.not_le.mpr hslots), hget, Option.getD_some, takeBuilder, hindex]
    dsimp only
    rw [hat, hgiven, hhas, if_pos rfl]
  have hgate : laneGate ctx (probe itemId (some "codex") []) (.pool poolId b) = none := by
    have hruntime : targetRuntimeOf ctx b = some "codex" := by
      rw [← hctx]
      change (Dict.empty.set b "codex").get? b = _
      rw [Dict.get?_set_self]
    have hmismatch : mismatchGate ctx (probe itemId (some "codex") []) (.pool poolId b) = none := by
      rw [mismatchGate]
      dsimp only [Lane.target]
      rw [hgiven, Option.bind_some, hruntime]
      rfl
    rw [laneGate, hmismatch, healthGate_unknown (by rw [← hctx]; rfl)]
    rfl
  have hrow : rowGate ctx 2 2 p.admits.length (probe itemId (some "codex") []) = none := by
    rw [← hctx]
    exact rowGate_probe _ _ _ _ _ _ _ hlt
  rw [consider]
  rw [hrow]
  dsimp only
  rw [hlane]
  dsimp only
  rw [hgate]

end

end

def SafeFor (named : String → Prop) : Prop :=
  ∀ candidates ctx config, ctx.running.poolBuilders = lists →
    (∀ item ∈ candidates, poolOf ctx item = none → ∀ s ∈ item.writeScope, named s) →
      (planAdmission candidates ctx config).halt = none →
        SafePlan candidates ctx config (planAdmission candidates ctx config)

end

theorem assigned_twice (hb : b ≠ "") (hi : i ≠ "")
    (hj : j ≠ "") (hget : lists.get? i = some builders) (hget' : lists.get? j = some builders')
    (hmem : b ∈ builders) (hmem' : b ∈ builders') (htwice : i = j → 2 ≤ builders.count b)
    (named : String → Prop) : ¬ SafeFor lists named := by
  intro hsafe
  let poolFor : BacklogItem → Option String := fun item =>
    if item.itemId = "first" then some i else some j
  let slots : Dict String Int := (Dict.empty.set i 2).set j 2
  let ctx := probeContext lists poolFor slots (Dict.empty.set b "codex")
  have hsloti : slots.get? i = some 2 := by
    rw [Dict.get?_set]
    split
    · rfl
    · exact Dict.get?_set_self ..
  have hslotj : slots.get? j = some 2 := Dict.get?_set_self ..
  have hpooli : poolFor (probe "first" (some "codex") []) = some i := rfl
  have hpoolj : poolFor (probe "second" (some "codex") []) = some j := rfl
  have hslots : 0 < (slots.get? i).getD 0 := by
    rw [hsloti]
    decide
  obtain ⟨rest, hrest, hfirst⟩ := consider_probe lists poolFor slots "first"
    (p := { running := ctx.running }) Nat.zero_lt_two hpooli hi hb hslots hget hmem
  let p := ({ running := { ctx.running with
    poolBuilders := ctx.running.poolBuilders.set i rest } } : Progress).admitted
      (probe "first" (some "codex") []) (.pool i b)
  have hleft : ∃ left, p.running.poolBuilders.get? j = some left ∧ b ∈ left := by
    change ∃ left, (lists.set i rest).get? j = some left ∧ b ∈ left
    rw [Dict.get?_set]
    split
    · next heq =>
      refine ⟨rest, rfl, ?_⟩
      rw [← count_pos_iff]
      have := htwice heq.symm
      omega
    · exact ⟨builders', hget', hmem'⟩
  obtain ⟨left, hgetLeft, hmemLeft⟩ := hleft
  have hslotsLeft : 0 < (p.running.poolSlots.get? j).getD 0 := by
    change 0 < ((slots.set i ((slots.get? i).getD 0 - 1)).get? j).getD 0
    rw [Dict.get?_set, hsloti, hslotj]
    split
    · decide
    · decide
  obtain ⟨rest', _, hsecond⟩ := consider_probe lists poolFor slots "second" (p := p)
    Nat.one_lt_two hpoolj hj hb hslotsLeft hgetLeft hmemLeft
  have hplan : planAdmission [probe "first" (some "codex") [], probe "second" (some "codex") []]
      ctx ⟨2⟩ = ⟨none, [probe "first" (some "codex") [], probe "second" (some "codex") []],
        (Dict.empty.set "first" b).set "second" b, []⟩ := by
    change (let q := consider ctx 2 2 (consider ctx 2 2 { running := ctx.running }
      (probe "first" (some "codex") [])) (probe "second" (some "codex") [])
      (⟨none, q.admits, q.assignments, q.skipped⟩ : AdmissionPlan)) = _
    rw [hfirst]
    change (let q := consider ctx 2 2 p (probe "second" (some "codex") [])
      (⟨none, q.admits, q.assignments, q.skipped⟩ : AdmissionPlan)) = _
    rw [hsecond]
    rfl
  have hsafe' := hsafe [probe "first" (some "codex") [], probe "second" (some "codex") []] ctx ⟨2⟩
    rfl (by simp [probe]) (by rw [hplan])
  rw [hplan] at hsafe'
  have heq := hsafe'.builders "first" "second" b
    (by rw [Dict.get?_set_ne (by decide), Dict.get?_set_self]) (Dict.get?_set_self ..)
  exact absurd heq (by decide)

theorem unnamed_twice (lists : Dict String (List String))
    (h : named "") : ¬ SafeFor lists named := by
  intro hsafe
  let ctx := probeContext lists (fun _ => none) .empty .empty
  let candidates := [probe "first" none [""], probe "second" none [""]]
  have hplan : (planAdmission candidates ctx ⟨2⟩).admits = candidates := by
    change (consider ctx 2 2 (consider ctx 2 2 { running := ctx.running }
      (probe "first" none [""])) (probe "second" none [""])).admits = _
    rw [consider_unnamed lists .empty .empty "first" (p := { running := ctx.running })
      Nat.zero_lt_two, consider_unnamed lists .empty .empty "second"
      (p := Progress.admitted { running := ctx.running } (probe "first" none [""]) .own)
      Nat.one_lt_two]
    rfl
  have hsafe' := hsafe candidates ctx ⟨2⟩ rfl (by simp [candidates, probe, h]) rfl
  have hscopes := hsafe'.scopes
  rw [hplan] at hscopes
  have hown : ownItems ctx candidates = candidates := rfl
  rw [hown, pairwise_pair] at hscopes
  exact hscopes "" (mem_singleton_self _) (mem_singleton_self _)

/-- All plans are safe exactly where each builder is listed once and no write scope is the empty
string. -/
theorem plans_safely (lists : Dict String (List String)) (named : String → Prop) :
    SafeFor lists named ↔ ListedOnce lists ∧ ¬ named "" := by
  constructor
  · intro hsafe
    refine ⟨?_, fun hnamed => unnamed_twice lists hnamed hsafe⟩
    constructor
    case within =>
      intro poolId builders hget hpoolId b hb
      by_contra htwice
      have hmem : b ∈ builders := count_pos_iff.mp (by omega)
      exact assigned_twice hb hpoolId hpoolId hget hget hmem hmem (fun _ => by omega) named hsafe
    case across =>
      intro i j builders builders' hget hget' hi hj b hb hmem hmem'
      by_contra hne
      exact assigned_twice hb hi hj hget hget' hmem hmem' (fun heq => absurd heq hne) named hsafe
  · rintro ⟨honce, hnamed⟩ candidates ctx config hlists hscopes hhalt
    apply safePlan_of_listedOnce config (by rw [hlists]; exact honce) _ hhalt
    intro item hitem hpool hmem
    exact hnamed (hscopes item hitem hpool "" hmem)

/-- Two pools list one builder, and a row of each is given it. -/
theorem not_plans_safely : ¬ ∀ candidates ctx config,
    (planAdmission candidates ctx config).halt = none →
      SafePlan candidates ctx config (planAdmission candidates ctx config) := by
  intro h
  have hlists : ((Dict.empty.set "backend" ["roger"]).set "frontend" ["roger"]).get? "backend" =
      some ["roger"] := rfl
  apply assigned_twice (b := "roger") (i := "backend") (j := "frontend") (by decide) (by decide)
    (by decide) hlists rfl (mem_singleton_self _) (mem_singleton_self _)
    (fun heq => absurd heq (by decide)) fun _ => True
  intro candidates ctx config _ _ hhalt
  exact h candidates ctx config hhalt

end IdAgents.Orchestration
