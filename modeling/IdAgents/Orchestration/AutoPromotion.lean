import IdAgents.Orchestration.FairLanes

namespace IdAgents.Orchestration
open List

def buildRows (rows : List BacklogRow) : List BacklogRow := rows.filter (·.riskClass = .build)

def isSafeCandidate (opts : AutoPromoteOptions) (item : BacklogRow) : Bool :=
  (autoPromoteRejections item opts.confidenceThreshold).isEmpty

def floorDeficit (ready : List BacklogRow) (opts : AutoPromoteOptions) : Int :=
  max 0 (opts.floor - (buildRows ready).length)

def laneDeficit (ready : List BacklogRow) (opts : AutoPromoteOptions) : Int :=
  max 0 (opts.minLanes - laneCount (buildRows ready))

structure RestoresFuel (needsReview ready : List BacklogRow) (opts : AutoPromoteOptions)
    (promote : List BacklogRow) : Prop where
  safe : ∀ item ∈ promote, item ∈ needsReview ∧
    autoPromoteRejections item opts.confidenceThreshold = []
  once : (promote.map (·.itemId)).Nodup
  floor : opts.floor ≤ (buildRows (ready ++ promote)).length ∨
    ∀ item ∈ needsReview, autoPromoteRejections item opts.confidenceThreshold = [] →
      item ∈ promote
  lanes : opts.minLanes ≤ laneCount (buildRows (ready ++ promote)) ∨
    ∀ item ∈ needsReview, autoPromoteRejections item opts.confidenceThreshold = [] →
      laneKeyOf item ∈ (buildRows (ready ++ promote)).map laneKeyOf
  few : promote.length ≤ max (floorDeficit ready opts) (laneDeficit ready opts)

structure Selected.Of (ranked buildReady : List BacklogRow) (s : Selected) : Prop where
  mem : ∀ item ∈ s.promote, item ∈ ranked
  once : (s.promote.map (·.itemId)).Nodup
  total : s.total = buildReady.length + s.promote.length
  lanes : ∀ lane, lane ∈ s.lanes ↔ ∃ item ∈ buildReady ++ s.promote, laneKeyOf item = lane
  nodup : s.lanes.Nodup

theorem Selected.Of.start (ranked buildReady : List BacklogRow) : Selected.Of ranked buildReady
      { lanes := (buildReady.map laneKeyOf).eraseDups, total := buildReady.length } where
  mem item hitem := absurd hitem not_mem_nil
  once := nodup_nil
  total := (Int.add_zero _).symm
  lanes key := by
    dsimp only
    rw [append_nil, mem_eraseDups, mem_map]
  nodup := nodup_eraseDups _

variable {s : Selected}

theorem Selected.mem_add_lanes {lane : String} :
    lane ∈ (s.add item).lanes ↔ lane ∈ s.lanes ∨ lane = laneKeyOf item := by
  rw [Selected.add]
  dsimp only
  split
  · next h =>
    have hmem := contains_iff_mem.mp h
    constructor
    · exact .inl
    · rintro (hold | rfl)
      · exact hold
      · exact hmem
  · rw [mem_append, mem_singleton]

theorem Selected.nodup_add_lanes (h : s.lanes.Nodup) : (s.add item).lanes.Nodup := by
  rw [Selected.add]
  dsimp only
  split
  · exact h
  · next hlane =>
    rw [nodup_append]
    refine ⟨h, nodup_singleton _, ?_⟩
    intro lane hmem lane' hmem' heq
    rw [heq, mem_singleton.mp hmem'] at hmem
    exact hlane (contains_iff_mem.mpr hmem)

theorem Selected.length_add (s : Selected) (item : BacklogRow) :
    ((s.add item).promote.length : Int) = s.promote.length + 1 := by
  rw [Selected.add]
  simp

theorem Selected.Of.add (h : s.Of ranked buildReady) (hitem : item ∈ ranked)
    (hnew : item.itemId ∉ s.promote.map (·.itemId)) : (s.add item).Of ranked buildReady where
  mem := by
    intro other hother
    rcases mem_append.mp hother with hold | hadded
    · exact h.mem other hold
    · rw [mem_singleton.mp hadded]
      exact hitem
  once := by
    change ((s.promote ++ [item]).map (·.itemId)).Nodup
    rw [map_append, nodup_append]
    refine ⟨h.once, nodup_singleton _, ?_⟩
    intro id hid id' hid' heq
    rw [heq, mem_singleton.mp hid'] at hid
    exact hnew hid
  total := by
    change s.total + 1 = _
    rw [h.total, Selected.length_add, add_assoc]
  lanes lane := by
    change _ ↔ ∃ other ∈ buildReady ++ (s.promote ++ [item]), _
    rw [Selected.mem_add_lanes, h.lanes, ← append_assoc]
    constructor
    · rintro (⟨other, hother, hlane⟩ | rfl)
      · exact ⟨other, mem_append_left _ hother, hlane⟩
      · exact ⟨item, mem_append_right _ (mem_singleton_self _), rfl⟩
    · rintro ⟨other, hother, hlane⟩
      rcases mem_append.mp hother with hold | hadded
      · exact .inl ⟨other, hold, hlane⟩
      · rw [mem_singleton.mp hadded] at hlane
        exact .inr hlane.symm
  nodup := Selected.nodup_add_lanes h.nodup

theorem Selected.Of.fresh (h : s.Of ranked buildReady)
    (hids : (ranked.map (·.itemId)).Nodup) (hitem : item ∈ ranked)
    (hlane : laneKeyOf item ∉ s.lanes) : item.itemId ∉ s.promote.map (·.itemId) := by
  intro hmem
  obtain ⟨other, hother, hid⟩ := mem_map.mp hmem
  have heq := inj_on_of_nodup_map hids (h.mem other hother) hitem hid
  apply hlane
  rw [h.lanes]
  exact ⟨item, mem_append_right _ (heq ▸ hother), rfl⟩

structure Selected.Covering (ranked buildReady : List BacklogRow) (opts : AutoPromoteOptions)
    (s : Selected) : Prop extends s.Of ranked buildReady where
  fresh : s.lanes.length = laneCount buildReady + s.promote.length
  needed : (s.promote.length : Int) ≤ max 0 (opts.minLanes - laneCount buildReady)

theorem coverLane_covering (h : s.Covering ranked buildReady opts)
    (hids : (ranked.map (·.itemId)).Nodup) (hitem : item ∈ ranked) :
    (coverLane opts passLimit s item).Covering ranked buildReady opts := by
  rw [coverLane]
  split
  · exact h
  · next hgo =>
    simp only [Bool.or_eq_true, decide_eq_true_eq, contains_iff_mem, not_or] at hgo
    obtain ⟨⟨_, hfew⟩, hlane⟩ := hgo
    have hfresh := h.fresh
    refine ⟨h.toOf.add hitem (h.toOf.fresh hids hitem hlane), ?_, ?_⟩
    · have hlanes : (s.add item).lanes = s.lanes ++ [laneKeyOf item] :=
        if_neg fun hmem => hlane (contains_iff_mem.mp hmem)
      rw [hlanes, length_append, hfresh]
      simp only [Selected.add, length_append, length_singleton]
      omega
    · rw [Selected.length_add]
      omega

theorem coverLanes_covering {items : List BacklogRow}
    (h : s.Covering ranked buildReady opts) (hids : (ranked.map (·.itemId)).Nodup)
    (hitems : ∀ item ∈ items, item ∈ ranked) :
    (items.foldl (coverLane opts passLimit) s).Covering ranked buildReady opts := by
  induction items generalizing s with
  | nil => exact h
  | cons item items ih =>
    apply ih (coverLane_covering h hids (hitems item mem_cons_self))
    exact fun other hother => hitems other (mem_cons_of_mem _ hother)

structure Selected.Grows (s s' : Selected) : Prop where
  lanes : ∀ lane ∈ s.lanes, lane ∈ s'.lanes
  count : s.lanes.length ≤ s'.lanes.length
  promote : ∀ item ∈ s.promote, item ∈ s'.promote
  total : s.total ≤ s'.total

theorem Selected.Grows.refl (s : Selected) : s.Grows s :=
  ⟨fun _ h => h, Nat.le_refl _, fun _ h => h, Int.le_refl _⟩

theorem Selected.Grows.trans (h : s.Grows t) (h' : t.Grows u) : s.Grows u where
  lanes lane hlane := h'.lanes lane (h.lanes lane hlane)
  count := h.count.trans h'.count
  promote item hitem := h'.promote item (h.promote item hitem)
  total := h.total.trans h'.total

theorem Selected.grows_add (s : Selected) (item : BacklogRow) : s.Grows (s.add item) where
  lanes lane hlane := Selected.mem_add_lanes.mpr (.inl hlane)
  count := by
    rw [Selected.add]
    dsimp only
    split
    · exact Nat.le_refl _
    · rw [length_append]
      exact Nat.le_add_right _ _
  promote other hother := mem_append_left _ hother
  total := Int.le_add_of_nonneg_right (by decide)

theorem foldl_grows (hstep : ∀ (s : Selected) item, s.Grows (step s item)) (items : List BacklogRow)
    (s : Selected) : s.Grows (items.foldl step s) := by
  induction items generalizing s with
  | nil => exact .refl s
  | cons item items ih => exact (hstep s item).trans (ih _)

theorem coverLane_grows (opts : AutoPromoteOptions) (passLimit : Int) (s : Selected)
    (item : BacklogRow) : s.Grows (coverLane opts passLimit s item) := by
  rw [coverLane]
  split
  · exact .refl s
  · exact s.grows_add item

theorem topUp_grows (opts : AutoPromoteOptions) (passLimit : Int) (s : Selected)
    (item : BacklogRow) : s.Grows (topUp opts passLimit s item) := by
  rw [topUp]
  split
  · exact .refl s
  · exact s.grows_add item

theorem coverLane_done (h : s.Covering ranked buildReady opts)
    (hlimit : opts.minLanes - laneCount buildReady ≤ passLimit) (item : BacklogRow) :
    opts.minLanes ≤ (coverLane opts passLimit s item).lanes.length ∨
      laneKeyOf item ∈ (coverLane opts passLimit s item).lanes := by
  have hfresh := h.fresh
  rw [coverLane]
  split
  · next hstop =>
    simp only [Bool.or_eq_true, decide_eq_true_eq, contains_iff_mem] at hstop
    rcases hstop with (hfull | henough) | hlane
    · left
      omega
    · exact .inl henough
    · exact .inr hlane
  · exact .inr (Selected.mem_add_lanes.mpr (.inr rfl))

theorem coverLanes_done {items : List BacklogRow}
    (h : s.Covering ranked buildReady opts) (hids : (ranked.map (·.itemId)).Nodup)
    (hitems : ∀ item ∈ items, item ∈ ranked)
    (hlimit : opts.minLanes - laneCount buildReady ≤ passLimit) :
    opts.minLanes ≤ (items.foldl (coverLane opts passLimit) s).lanes.length ∨
      ∀ item ∈ items, laneKeyOf item ∈ (items.foldl (coverLane opts passLimit) s).lanes := by
  induction items generalizing s with
  | nil => exact .inr fun item hitem => absurd hitem not_mem_nil
  | cons item items ih =>
    have hnext : (coverLane opts passLimit s item).Covering ranked buildReady opts :=
      coverLane_covering h hids (hitems item mem_cons_self)
    have hgrows := foldl_grows (coverLane_grows opts passLimit) items
      (coverLane opts passLimit s item)
    rcases ih hnext fun other hother => hitems other (mem_cons_of_mem _ hother) with
      henough | hrest
    · exact .inl henough
    rcases coverLane_done h hlimit item with henough | hlane
    · exact .inl (henough.trans (Int.ofNat_le.mpr hgrows.count))
    · right
      intro other hother
      rcases mem_cons.mp hother with rfl | hother
      · exact hgrows.lanes _ hlane
      · exact hrest other hother

section TopUp
variable {opts : AutoPromoteOptions} {passLimit few : Int}

variable {s : Selected}

theorem topUp_of (h : s.Of ranked buildReady) (hitem : item ∈ ranked) :
    (topUp opts passLimit s item).Of ranked buildReady := by
  rw [topUp]
  split
  · exact h
  · next hgo =>
    simp only [Bool.or_eq_true, decide_eq_true_eq, contains_iff_mem, not_or] at hgo
    exact h.add hitem hgo.2

theorem topUp_few (h : s.Of ranked buildReady)
    (hfew : s.promote.length ≤ max (opts.floor - buildReady.length) few) (item : BacklogRow) :
    (topUp opts passLimit s item).promote.length ≤ max (opts.floor - buildReady.length) few := by
  have htotal := h.total
  rw [topUp]
  split
  · exact hfew
  · next hgo =>
    simp only [Bool.or_eq_true, decide_eq_true_eq, not_or] at hgo
    rw [Selected.length_add]
    omega

theorem topUp_done (h : s.Of ranked buildReady)
    (hids : (ranked.map (·.itemId)).Nodup) (hitem : item ∈ ranked)
    (hlimit : opts.floor - buildReady.length ≤ passLimit) :
    opts.floor ≤ (topUp opts passLimit s item).total ∨
      item ∈ (topUp opts passLimit s item).promote := by
  have htotal := h.total
  rw [topUp]
  split
  · next hstop =>
    simp only [Bool.or_eq_true, decide_eq_true_eq, contains_iff_mem] at hstop
    rcases hstop with (hfull | henough) | hid
    · left
      omega
    · exact .inl henough
    · right
      obtain ⟨other, hother, hid⟩ := mem_map.mp hid
      have heq := inj_on_of_nodup_map hids (h.mem other hother) hitem hid
      exact heq ▸ hother
  · exact .inr (mem_append_right _ (mem_singleton_self _))

structure Selected.Topped (ranked items buildReady : List BacklogRow) (opts : AutoPromoteOptions)
    (few : Int) (s : Selected) : Prop extends s.Of ranked buildReady where
  few : s.promote.length ≤ max (opts.floor - buildReady.length) few
  done : opts.floor ≤ s.total ∨ ∀ item ∈ items, item ∈ s.promote

theorem topUps_topped {ranked items buildReady : List BacklogRow}
    (h : s.Of ranked buildReady) (hids : (ranked.map (·.itemId)).Nodup)
    (hitems : ∀ item ∈ items, item ∈ ranked)
    (hfew : s.promote.length ≤ max (opts.floor - buildReady.length) few)
    (hlimit : opts.floor - buildReady.length ≤ passLimit) :
    (items.foldl (topUp opts passLimit) s).Topped ranked items buildReady opts few := by
  induction items generalizing s with
  | nil => exact ⟨h, hfew, .inr fun item hitem => absurd hitem not_mem_nil⟩
  | cons item items ih =>
    have hitem := hitems item mem_cons_self
    have hnext : (topUp opts passLimit s item).Of ranked buildReady := topUp_of h hitem
    have hrest := ih hnext (fun other hother => hitems other (mem_cons_of_mem _ hother))
      (topUp_few h hfew item)
    have hgrows := foldl_grows (topUp_grows opts passLimit) items (topUp opts passLimit s item)
    refine ⟨hrest.toOf, hrest.few, ?_⟩
    rcases hrest.done with henough | hall
    · exact .inl henough
    rcases topUp_done h hids hitem hlimit with henough | htaken
    · exact .inl (henough.trans hgrows.total)
    · right
      intro other hother
      rcases mem_cons.mp hother with rfl | hother
      · exact hgrows.promote _ htaken
      · exact hall other hother

end TopUp

theorem riskClass_of_safe (h : autoPromoteRejections item threshold = []) :
    item.riskClass = .build := by
  by_contra hrisk
  have hmem : "risk_class '" ++ item.riskClass.text ++ "' is not auto-promotable (build only)" ∈
      autoPromoteRejections item threshold := by
    simp [autoPromoteRejections, errorIf, hrisk]
  rw [h] at hmem
  cases hmem

theorem buildRows_append (h : ∀ item ∈ promote, item.riskClass = .build) (ready : List BacklogRow) :
    buildRows (ready ++ promote) = buildRows ready ++ promote := by
  unfold buildRows
  rw [filter_append, filter_eq_self.mpr fun item hitem => decide_eq_true (h item hitem)]

theorem Selected.Of.laneCount_eq (h : s.Of ranked buildReady) :
    s.lanes.length = laneCount (buildReady ++ s.promote) := by
  apply List.Perm.length_eq
  rw [perm_ext_iff_of_nodup h.nodup (nodup_eraseDups _)]
  intro key
  rw [h.lanes, mem_eraseDups, mem_map]

def approvedBuild : BacklogRow :=
  { insertedRow { title := "Index the log", writeScope := some ["/repo"] } "item-1" 0 with
    toAgent := some "builder", dispatchBody := some "Add an index", riskClass := .build
    readinessState := .needsReview, approvedBy := some "operator" }

end IdAgents.Orchestration
