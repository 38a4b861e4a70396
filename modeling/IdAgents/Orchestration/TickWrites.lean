import IdAgents.Orchestration.Daemon
import IdAgents.Orchestration.FleshGate

namespace IdAgents.Orchestration
open JsText JsMap AtomicProgram

/-- `Q` holds of every UPDATE that a tick issues before it fires. -/
structure TickUpdates (Q : UpdateStmt → Prop) : Prop where
  release : ∀ item state now, (item.readinessState = .queued ∨ item.readinessState = .inFlight) →
    (state = .done ∨ state = .cancelled ∨ state = .needsReview) →
      Q (.setItemState item state none now)
  close : ∀ item toState sourceRefs receipt actor now,
    (toState = .done ∨ toState = .superseded) →
      Q (.closeDuplicate item [.ready, .needsReview] toState sourceRefs receipt actor now)
  mark : ∀ item actor reason retryCount now, Q (.markRetrySafe item actor reason retryCount now)
  promote : ∀ item approvedBy now, isFleshable item.readinessState →
    promotionRefusal item false = none → Q (.promoteToReady item approvedBy false now)
  flesh : ∀ item outcome now, isFleshable item.readinessState →
    Q (.recordFleshOutcome item outcome now)
  repair : ∀ itemId provider runtime now, Q (.repairRuntime itemId provider runtime now)
  dependencies : ∀ item toState dependencies actor now,
    Q (.reconcileDependencies item toState dependencies actor now)
  reroute : ∀ itemId (target : String) now, Q (.updateBacklogFields itemId
    { toAgent := some (some target) } (some (some "continuous-orchestration")) now)

variable {Q : UpdateStmt → Prop}

variable {P : Stmt → Prop}

theorem listBacklogByState_meets (h : P .select) (state : ReadinessState) (limit : Nat) :
    (listBacklogByState state limit).Meets P fun rows => ∀ row ∈ rows,
      row.readinessState = state := by
  refine ⟨h, fun rows row hrow => ?_⟩
  have hlisted := mem_orderBy.mp (List.mem_of_mem_take hrow)
  exact of_decide_eq_true (List.mem_filter.mp hlisted).2

theorem getDispatchStatusesByPhid_meets (h : P .selectDispatches)
    (phids : List String) : (getDispatchStatusesByPhid phids).Meets P fun _ => True := by
  unfold getDispatchStatusesByPhid
  dsimp only
  split
  · trivial
  · exact ⟨h, fun _ => trivial⟩

theorem getDispatchOutcomesByPhid_meets (h : P .selectDispatches)
    (phids : List String) : (getDispatchOutcomesByPhid phids).Meets P fun _ => True := by
  unfold getDispatchOutcomesByPhid
  dsimp only
  split
  · trivial
  · exact ⟨h, fun _ => trivial⟩

theorem getHealthyAgentNames_meets (h : P .selectAgents) (names : List String) :
    (getHealthyAgentNames names).Meets P fun _ => True := by
  unfold getHealthyAgentNames
  dsimp only
  split
  · trivial
  · exact ⟨h, fun _ => trivial⟩

theorem getAgentRuntimeMap_meets (h : P .selectAgents) (names : List String) :
    (getAgentRuntimeMap names).Meets P fun _ => True := by
  rw [getAgentRuntimeMap]
  dsimp only
  split
  · trivial
  · exact ⟨h, fun _ => trivial⟩

theorem setItemState_meets (hnow : P .now)
    (h : ∀ now, P (.update (.setItemState item state phid now))) :
    (setItemState item state phid).Meets P fun _ => True := by
  refine ⟨hnow, fun now => ?_⟩
  apply (execUpdate_meets (h now)).bind
  intro _ _
  trivial

theorem bindItemForFire_meets (hnow : P .now)
    (h : ∀ now, P (.update (.bindItemForFire itemId toAgent writeScope now))) :
    (bindItemForFire itemId toAgent writeScope).Meets P fun _ => True := by
  refine ⟨hnow, fun now => ?_⟩
  apply (execUpdate_meets (h now)).bind
  intro _ _
  trivial

theorem updateBacklogFields_meets (h : ∀ now, Q (.updateBacklogFields itemId patch updatedBy now)) :
    (updateBacklogFields itemId patch updatedBy).Meets (Stmt.Quiet Q) fun _ => True := by
  have hread : (getBacklogItem itemId).Meets (Stmt.Quiet Q) fun _ => True :=
    (getBacklogItem_meets itemId trivial).mono (fun _ hc => hc) fun _ _ => trivial
  rw [updateBacklogFields]
  split
  · exact hread
  · refine ⟨trivial, fun now => ?_⟩
    apply (execUpdate_meets (h now)).bind
    intro _ _
    exact hread

theorem markFailedDuplicateDispatchRetrySafe_meets (itemId actor reason : String)
    (h : ∀ item actor reason retryCount now, Q (.markRetrySafe item actor reason retryCount now)) :
    (markFailedDuplicateDispatchRetrySafe itemId actor reason).Meets (Stmt.Quiet Q)
      fun _ => True := by
  have hwrite (item : BacklogRow) (actor reason : String) (n : Nat) :
      (writeMark item actor reason n).Meets (Stmt.Quiet Q) fun _ => True := by
    refine ⟨trivial, fun now => ?_⟩
    apply (execUpdate_meets (h item _ _ n now)).bind
    intro _ _
    apply (getBacklogItem_meets item.itemId trivial).bind
    intro updated _
    split <;> trivial
  rw [markFailedDuplicateDispatchRetrySafe]
  generalize trim actor = actor
  generalize trim reason = reason
  split
  · trivial
  split
  · trivial
  apply (getBacklogItem_meets itemId trivial).bind
  intro item _
  cases item with
  | none => trivial
  | some item =>
    dsimp only
    split
    · trivial
    split
    · trivial
    · apply (getDispatchOutcomesByPhid_meets trivial _).bind
      intro outcomes _
      split
      · trivial
      · exact hwrite item actor reason _

theorem closeStaleRow_meets (opts : ReconcileStaleOptions)
    (h : ∀ item toState sourceRefs receipt actor now, (toState = .done ∨ toState = .superseded) →
      Q (.closeDuplicate item [.ready, .needsReview] toState sourceRefs receipt actor now))
    (closed : List StaleReadyItem) (row : DispatchedRow) :
    (closeStaleRow opts closed row).Meets (Stmt.Quiet Q) fun _ => True := by
  rw [closeStaleRow]
  cases hstale : staleDisposition opts row with
  | none => trivial
  | some stale =>
    have hstate : stale.toState = .done ∨ stale.toState = .superseded := by
      simp only [staleDisposition] at hstale
      split at hstale
      · cases hstale
      split at hstale
      · cases hstale
      · cases hstale
        dsimp only
        split
        · exact .inl rfl
        · exact .inr rfl
    refine ⟨trivial, fun now => ?_⟩
    split
    · trivial
    · apply (execUpdate_meets (h row.item _ _ _ _ now hstate)).bind
      intro _ _
      trivial

theorem reconcileStale_meets (opts : ReconcileStaleOptions)
    (h : ∀ item toState sourceRefs receipt actor now, (toState = .done ∨ toState = .superseded) →
      Q (.closeDuplicate item [.ready, .needsReview] toState sourceRefs receipt actor now)) :
    (reconcileStaleAlreadyDispatchedReadyRows opts).Meets (Stmt.Quiet Q) fun _ => True := by
  refine ⟨trivial, fun tables => ?_⟩
  apply Program.Meets.fold
  intro closed row _
  exact closeStaleRow_meets opts h closed row

theorem projectReady_meets (pools : Option PoolRouting) (ready : List BacklogRow) :
    (projectReady pools ready).Meets (Stmt.Quiet Q) fun p =>
      p.ordered = fairInterleaveByLane (orderCandidates ready) := by
  apply (getDispatchOutcomesByPhid_meets trivial _).bind
  intro outcomes _
  apply Program.Meets.bind (R := fun _ => True)
  · unfold buildPoolGate
    split
    · trivial
    · apply (listBacklogByState_meets trivial .inFlight _).bind
      intro _ _
      trivial
  intro gate _
  apply (getHealthyAgentNames_meets trivial _).bind
  intro healthyAgents _
  apply (getAgentRuntimeMap_meets trivial _).bind
  intro runtimes _
  rfl

theorem releaseState_cases (h : releaseState config nowMs status item = some state) :
    state = .done ∨ state = .cancelled ∨ state = .needsReview := by
  rw [releaseState] at h
  generalize status.filter terminalDispatchStatuses.contains = ended at h
  cases ended with
  | some status =>
    obtain rfl := Option.some.inj h
    by_cases hdone : status = "done"
    · exact .inl (if_pos hdone)
    by_cases hcancelled : status = "cancelled"
    · rw [if_neg hdone, if_pos hcancelled]
      exact .inr (.inl rfl)
    · rw [if_neg hdone, if_neg hcancelled]
      exact .inr (.inr rfl)
  | none =>
    dsimp only at h
    obtain ⟨_, hstate⟩ := Option.ite_none_right_eq_some.mp h
    exact .inr (.inr (Option.some.inj hstate).symm)

namespace TickUpdates

theorem reconcileDispatchedItems (hQ : TickUpdates Q) (config : DaemonConfig) (nowMs : Instant) :
    (reconcileDispatchedItems config nowMs).Meets (Stmt.Quiet Q) fun _ => True := by
  apply (listBacklogByState_meets trivial .queued _).bind
  intro queued hqueued
  apply (listBacklogByState_meets trivial .inFlight _).bind
  intro inFlight hinFlight
  dsimp only
  split
  · trivial
  apply (getDispatchStatusesByPhid_meets trivial _).bind
  intro statuses _
  apply Program.Meets.fold
  intro reconciled item hitem
  have hstate : item.readinessState = .queued ∨ item.readinessState = .inFlight :=
    (List.mem_append.mp hitem).imp (hqueued item) (hinFlight item)
  rw [reconcileItem]
  cases hrelease : releaseState config nowMs
    ((given item.lastDispatchPhid).bind statuses.get?) item with
  | none => trivial
  | some state =>
    have hto := releaseState_cases hrelease
    dsimp only
    split
    · trivial
    · apply (setItemState_meets trivial fun now => hQ.release item state now hstate hto).bind
      intro _ _
      trivial

theorem applyClassified (hQ : TickUpdates Q) (opts : LifecycleOptions) (item : ClassifiedItem) :
    (applyClassified opts item).Meets (Stmt.Quiet Q) fun _ => True := by
  have hclose (action : LifecycleAction) (toState : ReadinessState) :
      (closeClassified opts item action toState).Meets (Stmt.Quiet Q) fun _ => True := by
    apply (reconcileStale_meets _ hQ.close).bind
    intro _ _
    trivial
  have hmark := fun reason : String =>
    markFailedDuplicateDispatchRetrySafe_meets item.itemId opts.actor reason hQ.mark
  rw [Orchestration.applyClassified]
  generalize markFailedDuplicateDispatchRetrySafe item.itemId opts.actor = mark at hmark ⊢
  split
  · exact hclose .autoClose .done
  split
  · exact hclose .supersede .superseded
  split
  · split
    · trivial
    · apply (hmark _).bind
      intro _ _
      trivial
  · trivial

theorem runLifecycle (hQ : TickUpdates Q) (opts : LifecycleOptions) :
    (runBoundedLifecycleReconciliationCycle opts).Meets (Stmt.Quiet Q) fun _ => True := by
  apply (listBacklogByState_meets trivial .ready _).bind
  intro candidates _
  apply (getDispatchOutcomesByPhid_meets trivial _).bind
  intro outcomes _
  dsimp only
  apply Program.Meets.bind
  · apply Program.Meets.fold
    intro receipts item _
    apply (hQ.applyClassified opts item).bind
    intro _ _
    trivial
  intro receipts _
  split
  · trivial
  · apply (appendDecisions_meets trivial).bind
    intro _ _
    trivial

theorem reconcileStaleReady (hQ : TickUpdates Q) (config : DaemonConfig) :
    (reconcileStaleReady config).Meets (Stmt.Quiet Q) fun _ => True := by
  rw [Orchestration.reconcileStaleReady]
  split
  · trivial
  · apply (reconcileStale_meets _ hQ.close).bind
    intro _ _
    trivial

theorem reconcileLifecycle (hQ : TickUpdates Q) (config : DaemonConfig) :
    (reconcileLifecycle config).Meets (Stmt.Quiet Q) fun _ => True := by
  rw [Orchestration.reconcileLifecycle]
  split
  · apply (hQ.runLifecycle _).bind
    intro _ _
    trivial
  · apply (hQ.reconcileStaleReady config).bind
    intro _ _
    trivial

theorem autoPromoteFuel (hQ : TickUpdates Q) (config : DaemonConfig) :
    (autoPromoteFuel config).Meets (Stmt.Quiet Q) fun _ => True := by
  apply (listBacklogByState_meets trivial .ready _).bind
  intro ready _
  apply (listBacklogByState_meets trivial .needsReview _).bind
  intro needsReview _
  apply (listBacklogByState_meets trivial .inFlight _).bind
  intro inFlight _
  apply Program.Meets.bind (R := fun _ => True)
  · unfold nonUsefulProviderRuntimeReadyFuelIds
    dsimp only
    split
    · trivial
    · apply (getAgentRuntimeMap_meets trivial _).bind
      intro _ _
      trivial
  intro nonUseful _
  split
  · trivial
  apply Program.Meets.bind (R := fun _ => True)
  · rw [autoPromote]
    split
    · trivial
    apply Program.Meets.fold
    intro promoted item _
    apply (promoteToReady_meets item.itemId "auto-promote-policy" false
      fun item now _ => hQ.promote item _ now).bind
    intro _ _
    trivial
  intro _ _
  trivial

theorem maybeAutoPromote (hQ : TickUpdates Q) (config : DaemonConfig) (r : TickReadings) :
    (maybeAutoPromote config r).Meets (Stmt.Quiet Q) fun _ => True := by
  rw [Orchestration.maybeAutoPromote]
  split
  · trivial
  · apply (hQ.autoPromoteFuel config).tryCatch
    intro _
    trivial

theorem runFleshPass (hQ : TickUpdates Q) (config : FleshConfig) (maxFleshPerTick : Int)
    (opts : FleshRunOptions) :
    (runFleshPass config maxFleshPerTick opts).Meets (Stmt.Quiet Q) fun _ => True := by
  apply (runFleshPass_meets config maxFleshPerTick opts).mono _ fun _ _ => trivial
  intro c hc
  cases c with
  | update u =>
    obtain ⟨item, outcome, now, hstate, rfl⟩ := hc
    exact hQ.flesh item outcome now hstate
  | insert row => exact hc.elim
  | enqueuePayload item => exact hc.elim
  | scheduler c => exact hc.elim
  | _ => trivial

theorem fleshPass (hQ : TickUpdates Q) (config : DaemonConfig) (r : TickReadings) (limit : Int) :
    (fleshPass config r limit).Meets (Stmt.Quiet Q) fun _ => True := by
  apply Program.Meets.tryCatch
  · apply (hQ.runFleshPass config.flesh config.maxFleshPerTick _).bind
    intro _ _
    trivial
  · intro _
    trivial

theorem maybeRefuel (hQ : TickUpdates Q) (config : DaemonConfig) (r : TickReadings) :
    (maybeRefuel config r).Meets (Stmt.Quiet Q) fun _ => True := by
  rw [Orchestration.maybeRefuel]
  split
  · trivial
  apply (listBacklogByState_meets trivial .ready _).bind
  intro ready _
  apply (listBacklogByState_meets trivial .inFlight _).bind
  intro inFlight _
  split
  · trivial
  · exact hQ.fleshPass config r _

theorem prepareTick (hQ : TickUpdates Q) (config : DaemonConfig) :
    (prepareTick config).Meets (Stmt.Quiet Q) fun _ => True := by
  refine ⟨trivial, fun nowMs => ⟨trivial, fun state => ⟨trivial, fun killSwitch => ?_⟩⟩⟩
  apply (hQ.reconcileDispatchedItems config nowMs).bind
  intro reconciled _
  apply (hQ.reconcileLifecycle config).bind
  intro marked _
  refine ⟨trivial, fun usage => ?_⟩
  apply (listBacklogByState_meets trivial .inFlight _).bind
  intro inFlight _
  refine ⟨trivial, fun disk => ?_⟩
  apply (hQ.maybeAutoPromote config _).bind
  intro promoted _
  apply (hQ.reconcileStaleReady config).bind
  intro _ _
  apply (hQ.maybeRefuel config _).bind
  intro refuel _
  apply (hQ.reconcileStaleReady config).bind
  intro _ _
  trivial

theorem rerouteTargetUnhealthyReadyRows (hQ : TickUpdates Q) (deps : DaemonDeps)
    (p : ReadyProjection) :
    (rerouteTargetUnhealthyReadyRows deps p).Meets (Stmt.Quiet Q) fun _ => True := by
  rw [Orchestration.rerouteTargetUnhealthyReadyRows]
  split
  · trivial
  apply (listBacklogByState_meets trivial .inFlight _).bind
  intro inFlight _
  apply (getDispatchOutcomesByPhid_meets trivial _).bind
  intro _ _
  apply Program.Meets.fold
  intro changed item _
  rw [rerouteItem]
  split
  · trivial
  split
  · trivial
  · apply (updateBacklogFields_meets (hQ.reroute item.itemId _)).bind
    intro _ _
    trivial

theorem repairReady (hQ : TickUpdates Q) (apply_ : Bool) :
    (repairReadyCodexRuntimeMetadata apply_).Meets (Stmt.Quiet Q) fun _ => True := by
  refine ⟨trivial, fun tables => ?_⟩
  apply Program.Meets.fold
  intro repairs repair _
  rw [repairRow]
  split
  · refine ⟨trivial, fun now => ?_⟩
    apply (execUpdate_meets (hQ.repair repair.itemId _ _ now)).bind
    intro _ _
    trivial
  · trivial

theorem readReady (hQ : TickUpdates Q) (deps : DaemonDeps) (marked : List String) :
    (readReady deps marked).Meets (Stmt.Quiet Q) fun _ => True := by
  apply (hQ.repairReady true).bind
  intro _ _
  apply (reconcileTerminalBacklogDependencies_meets 100 _ _ fun item toState dependencies now =>
    hQ.dependencies item toState dependencies _ now).bind
  intro _ _
  apply (listBacklogByState_meets trivial .ready _).bind
  intro ready _
  refine ⟨trivial, fun rows => ?_⟩
  apply (projectReady_meets deps.pools _).bind
  intro projection _
  refine ⟨trivial, fun blockers => ?_⟩
  apply (hQ.rerouteTargetUnhealthyReadyRows deps projection).bind
  intro changed _
  split
  · apply (listBacklogByState_meets trivial .ready _).bind
    intro ready _
    apply (projectReady_meets deps.pools ready).bind
    intro _ _
    trivial
  · trivial

theorem stallWatchdog (hQ : TickUpdates Q) (config : DaemonConfig) (r : TickReadings)
    (refuel : Option FleshRunSummary) (zeroTicks usefulReady : Int) :
    (stallWatchdog config r refuel zeroTicks usefulReady).Meets (Stmt.Quiet Q) fun _ => True := by
  unfold Orchestration.stallWatchdog
  dsimp only
  split
  · apply (hQ.fleshPass config r _).bind
    intro _ _
    trivial
  · trivial

end TickUpdates

/-- `Q` holds of every UPDATE of a fire. -/
structure FireUpdates (Q : UpdateStmt → Prop) : Prop where
  bind : ∀ itemId toAgent writeScope now, Q (.bindItemForFire itemId toAgent writeScope now)
  fire : ∀ item phid now, Q (.setItemState item .inFlight (some phid) now)

theorem scheduled_meets (p : IdAgents.Prog α)
    (h : ∀ c, P (.scheduler c)) : (scheduled p).Meets P fun _ => True := by
  induction p with
  | ret a => trivial
  | throw e => cases e <;> trivial
  | issue c k ih => exact ⟨h c, ih⟩

theorem enqueue_meets (item : BacklogRow) (hpayload : P (.enqueuePayload item))
    (hscheduler : ∀ c, P (.scheduler c)) : (enqueue item).Meets P fun _ => True := by
  rw [enqueue]
  split
  · trivial
  split
  · trivial
  refine ⟨hpayload, fun payload => ?_⟩
  apply (returned_meets payload).bind
  intro payload _
  apply (scheduled_meets _ hscheduler).bind
  intro _ _
  trivial

namespace FireUpdates

theorem fire_meets (hQ : FireUpdates Q) (deps : DaemonDeps) (assignments : Dict String String)
    (view : BacklogItem) (item : BacklogRow) :
    (Orchestration.fire deps assignments view item).Meets (Stmt.Updates Q) fun _ => True := by
  apply Program.Meets.bind (R := fun _ => True)
  · rw [bindToPool]
    split
    · refine ⟨trivial, fun path => ?_⟩
      apply (returned_meets path).bind
      intro path _
      apply (bindItemForFire_meets trivial fun now => hQ.bind item.itemId _ _ now).bind
      intro _ _
      trivial
    · trivial
  intro bound _
  apply Program.Meets.bind (R := fun _ => True)
  · apply (enqueue_meets _ trivial fun _ => trivial).tryCatch
    intro e
    apply Program.Meets.bind (R := fun _ => True)
    · rw [revertBind]
      split
      · exact bindItemForFire_meets trivial fun now => hQ.bind item.itemId _ _ now
      · trivial
    intro _ _
    trivial
  intro phid _
  apply (setItemState_meets trivial fun now => hQ.fire item phid now).bind
  intro _ _
  trivial

theorem fireAdmitted_meets (hQ : FireUpdates Q) (deps : DaemonDeps) (p : ReadyProjection)
    (plan : AdmissionPlan) : (fireAdmitted deps p plan).Meets (Stmt.Updates Q) fun _ => True := by
  apply Program.Meets.fold
  intro decisions item _
  rw [fireStep]
  split
  · trivial
  · apply Program.Meets.bind (R := fun _ => True)
    · apply Program.Meets.tryCatch
      · apply (hQ.fire_meets deps _ _ item).bind
        intro _ _
        trivial
      · intro _
        trivial
    intro _ _
    trivial

end FireUpdates

theorem runTickOnce_meets (hQ : TickUpdates Q) (hfire : FireUpdates Q) (deps : DaemonDeps) :
    (runTickOnce deps).Meets (Stmt.Updates Q) fun _ => True := by
  have hquiet (c : Stmt) (hc : c.Quiet Q) : c.Updates Q := hc.updates fun _ hu => hu
  apply ((hQ.prepareTick deps.config).mono hquiet fun _ h => h).bind
  intro prepared _
  apply ((hQ.readReady deps _).mono hquiet fun _ h => h).bind
  intro rr _
  apply (hfire.fireAdmitted_meets deps rr.projection _).bind
  intro decisions _
  apply ((hQ.stallWatchdog deps.config _ _ _ _).mono hquiet fun _ h => h).bind
  intro _ _
  apply (appendDecisions_meets trivial).bind
  intro _ _
  refine ⟨trivial, fun r => ?_⟩
  apply (returned_meets r).bind
  intro _ _
  trivial

theorem daemonLoop_meets (hQ : TickUpdates Q) (hfire : FireUpdates Q) (deps : DaemonDeps)
    (ticks : Nat) : (daemonLoop deps ticks).Meets (Stmt.Updates Q) fun _ => True := by
  induction ticks with
  | zero => trivial
  | succ ticks ih =>
    apply Program.Meets.bind (R := fun _ => True)
    · apply Program.Meets.tryCatch
      · apply (runTickOnce_meets hQ hfire deps).bind
        intro _ _
        trivial
      · intro _
        trivial
    intro _ _
    exact ih

end IdAgents.Orchestration
