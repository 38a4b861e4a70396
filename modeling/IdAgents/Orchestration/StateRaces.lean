import IdAgents.Orchestration.TickWrites

namespace IdAgents.Orchestration
open JsText KeyedTable AtomicProgram

/-- `POST /orchestration/backlog/:id/promote` -/
def promoteRoute (itemId approvedBy : String) (patch : Option BacklogPatch) (retrySafe : Bool) :
    Prog Unit :=
  let promote := (promoteToReady itemId approvedBy retrySafe).bind fun _ => .ret ()
  match patch with
  | some patch => (updateBacklogFields itemId patch).bind fun _ => promote
  | none => promote

/-- `POST /orchestration/flesh/:item_id/approve` -/
def approveRoute (itemId approvedBy : String) : Prog Unit :=
  (getBacklogItem itemId).bind fun item =>
    match item.bind fun item => item.fleshPatch.map (item, ·) with
    | none => .ret ()
    | some (item, patch) =>
      (recordFleshOutcome {
        itemId := itemId
        fleshStatus := .approvedReady
        fleshSource := (item.fleshSource.or item.sourceRefs.head?).getD "roadmap"
        fleshConfidence := item.fleshConfidence.getD patch.confidence
        patch := patch
        promote := true
        approvedBy := approvedBy }).bind fun _ =>
      insertFleshLog itemId

/-- `POST /orchestration/flesh/:item_id/reject` -/
def rejectRoute (itemId : String) (reason : Option String) : Prog Unit :=
  (getBacklogItem itemId).bind fun item =>
    match item with
    | none => .ret ()
    | some item =>
      (setItemState item .needsReview).bind fun _ =>
      (recordFleshOutcome {
        itemId := itemId
        fleshStatus := .failed
        fleshSource := item.fleshSource.getD "roadmap"
        fleshConfidence := item.fleshConfidence.getD 0
        fleshError := reason.getD "rejected by operator" }).bind fun _ =>
      insertFleshLog itemId

inductive BacklogCall where
  | daemon (deps : DaemonDeps) (ticks : Nat)
  | promote (itemId approvedBy : String) (patch : Option BacklogPatch) (retrySafe : Bool)
  | fleshRun (config : FleshConfig) (maxFleshPerTick : Int) (opts : FleshRunOptions)
  | fleshApprove (itemId approvedBy : String)
  | fleshReject (itemId : String) (reason : Option String)
  | clearDependencyBlocker (itemId dependency actor reason : String)
  | other (p : Prog Unit)

def BacklogCall.prog : BacklogCall → Prog Unit
  | daemon deps ticks => daemonLoop deps ticks
  | promote itemId approvedBy patch retrySafe => promoteRoute itemId approvedBy patch retrySafe
  | fleshRun config maxFleshPerTick opts =>
    (runFleshPass config maxFleshPerTick opts).bind fun _ => .ret ()
  | fleshApprove itemId approvedBy => approveRoute itemId approvedBy
  | fleshReject itemId reason => rejectRoute itemId reason
  | clearDependencyBlocker itemId dependency actor reason =>
    (clearBacklogDependencyBlocker itemId dependency actor reason).bind fun _ => .ret ()
  | other p => p

def BacklogCall.isOther : BacklogCall → Bool
  | other _ => true
  | _ => false

structure BacklogRun where
  calls : List BacklogCall
  schedule : List Nat
  start : World

def isClosed (state : ReadinessState) : Bool :=
  state = .done || state = .superseded || state = .cancelled

def KeepsState (e : Event sql World) : Prop :=
  ∀ itemId row row', e.before.row? itemId = some row → World.row? e.after itemId = some row' →
    (isClosed row.readinessState → row'.readinessState = row.readinessState) ∧
      ¬ (row.readinessState = .inFlight ∧ row'.readinessState = .ready)

def UpdateStmt.blind : UpdateStmt → Option BacklogRow
  | promoteToReady item .. | setItemState item .. | clearDependencyBlocker item .. => some item
  | recordFleshOutcome item outcome _ => if outcome.promotes then some item else none
  | _ => none

def upToDate (e : Event sql World) : Bool :=
  match e.stmt with
  | .update u => e.before.env.fails e.before.step || u.blind.all fun item =>
      !isClosed item.readinessState && (e.before.row? u.itemId).all fun row =>
        !(isClosed row.readinessState || row.readinessState = .inFlight) ||
          row.readinessState = item.readinessState
  | _ => true

namespace BacklogRun

variable (run : BacklogRun)

def threads : List (Prog Unit) := run.calls.map BacklogCall.prog

def events : List (Nat × Event sql World) :=
  interleaveEvents run.schedule run.threads run.start

def IsBound (i : Nat) (e : Event sql World) : Prop :=
  (i, e) ∈ run.events ∧ ∃ call, run.calls[i]? = some call ∧ call.isOther = false

def KeepsStates : Prop := ∀ i e, run.IsBound i e → KeepsState e

def UpToDate : Prop := ∀ i e, run.IsBound i e → upToDate e

end BacklogRun

/-- What the calls see to of an UPDATE: they promote no row that they have read in flight, move
none to ready by its id alone, and close none that is closed or in flight. -/
def UpdateStmt.Careful : UpdateStmt → Prop
  | promoteToReady item .. | clearDependencyBlocker item .. | recordFleshOutcome item .. =>
    item.readinessState ≠ .inFlight
  | setItemState _ state _ _ => state ≠ .ready
  | closeDuplicate _ fromStates .. => ∀ s ∈ fromStates, isClosed s = false ∧ s ≠ .inFlight
  | _ => True

theorem isFleshable_ne (h : isFleshable state) : state ≠ .inFlight := by
  rintro rfl
  cases h

theorem careful_tick : TickUpdates UpdateStmt.Careful where
  release item state now _ hstate := by
    rcases hstate with rfl | rfl | rfl <;> exact nofun
  close item toState sourceRefs receipt actor now _ := by
    intro s hs
    simp only [List.mem_cons, List.not_mem_nil, or_false] at hs
    rcases hs with rfl | rfl <;> exact ⟨rfl, nofun⟩
  mark _ _ _ _ _ := trivial
  promote item approvedBy now hstate _ := isFleshable_ne hstate
  flesh item outcome now hstate := isFleshable_ne hstate
  repair _ _ _ _ := trivial
  dependencies _ _ _ _ _ := trivial
  reroute _ _ _ := trivial

theorem careful_fire : FireUpdates UpdateStmt.Careful where
  bind _ _ _ _ := trivial
  fire _ _ _ := nofun

theorem promoteRoute_meets (itemId approvedBy : String) (patch : Option BacklogPatch)
    (retrySafe : Bool) :
    (promoteRoute itemId approvedBy patch retrySafe).Meets (Stmt.Quiet UpdateStmt.Careful)
      fun _ => True := by
  have hpromote : ((promoteToReady itemId approvedBy retrySafe).bind fun _ =>
      Program.ret ()).Meets (Stmt.Quiet UpdateStmt.Careful) fun _ => True := by
    apply (promoteToReady_meets itemId approvedBy retrySafe fun item now _ hstate _ =>
      isFleshable_ne hstate).bind
    intro _ _
    trivial
  cases patch with
  | none => exact hpromote
  | some patch =>
    apply (updateBacklogFields_meets fun now => trivial).bind
    intro _ _
    exact hpromote

theorem approveRoute_meets (itemId approvedBy : String) :
    (approveRoute itemId approvedBy).Meets (Stmt.Quiet UpdateStmt.Careful) fun _ => True := by
  apply (getBacklogItem_meets itemId trivial).bind
  intro item _
  split
  · trivial
  · apply (recordFleshOutcome_meets _ fun item now _ hstate => isFleshable_ne hstate).bind
    intro _ _
    exact insertFleshLog_meets trivial

theorem rejectRoute_meets (itemId : String) (reason : Option String) :
    (rejectRoute itemId reason).Meets (Stmt.Quiet UpdateStmt.Careful) fun _ => True := by
  apply (getBacklogItem_meets itemId trivial).bind
  intro item _
  cases item with
  | none => trivial
  | some item =>
    apply (setItemState_meets trivial fun now => nofun).bind
    intro _ _
    apply (recordFleshOutcome_meets _ fun item now _ hstate => isFleshable_ne hstate).bind
    intro _ _
    exact insertFleshLog_meets trivial

theorem writeClear_meets (upstream : BacklogRow)
    (dependency actor reason : String) (h : item.readinessState ≠ .inFlight) :
    (writeClear item upstream dependency actor reason).Meets (Stmt.Quiet UpdateStmt.Careful)
      fun _ => True := by
  refine ⟨trivial, fun now => ?_⟩
  apply (execUpdate_meets h).bind
  intro _ _
  apply (appendDecisions_meets trivial).bind
  intro _ _
  apply (getBacklogItem_meets item.itemId trivial).bind
  intro updated _
  cases updated with
  | none => trivial
  | some updated => trivial

theorem clearRefusal_none (h : clearRefusal item dependency = none) :
    item.readinessState ≠ .inFlight := by
  intro hstate
  simp [clearRefusal, hstate] at h

theorem clearBacklogDependencyBlocker_meets (itemId dependency actor reason : String) :
    (clearBacklogDependencyBlocker itemId dependency actor reason).Meets
      (Stmt.Quiet UpdateStmt.Careful) fun _ => True := by
  rw [clearBacklogDependencyBlocker]
  generalize trim dependency = dependency
  generalize trim actor = actor
  generalize trim reason = reason
  split
  · trivial
  split
  · trivial
  split
  · trivial
  apply (getBacklogItem_meets itemId trivial).bind
  intro item _
  cases item with
  | none => trivial
  | some item =>
    dsimp only
    cases hrefusal : clearRefusal item dependency with
    | some refusal => trivial
    | none =>
      have hwrite (upstream : Option BacklogRow) : (match upstream with
          | none => Program.ret (ClearResult.refused 409 "dependency is not landed or superseded"
              "dependency_not_terminal")
          | some upstream => writeClear item upstream dependency actor reason).Meets
              (Stmt.Quiet UpdateStmt.Careful) fun _ => True := by
        cases upstream with
        | none => trivial
        | some upstream => exact writeClear_meets _ _ _ _ (clearRefusal_none hrefusal)
      exact ⟨trivial, fun rows => hwrite _⟩

theorem unit_meets {p : Prog α} (h : p.Meets (Stmt.Quiet UpdateStmt.Careful) fun _ => True) :
    (p.bind fun _ => Program.ret ()).Meets (Stmt.Updates UpdateStmt.Careful) fun _ => True := by
  have hupdates : p.Meets (Stmt.Updates UpdateStmt.Careful) fun _ => True :=
    h.mono (fun _ hc => Stmt.Quiet.updates hc fun _ hu => hu) fun _ h => h
  exact hupdates.bind fun _ _ => trivial

theorem BacklogCall.meets {call : BacklogCall} (h : call.isOther = false) :
    call.prog.Meets (Stmt.Updates UpdateStmt.Careful) fun _ => True := by
  have hquiet (c : Stmt) (hc : c.Quiet UpdateStmt.Careful) : c.Updates UpdateStmt.Careful :=
    hc.updates fun _ hu => hu
  cases call with
  | daemon deps ticks => exact daemonLoop_meets careful_tick careful_fire deps ticks
  | promote itemId approvedBy patch retrySafe =>
    exact (promoteRoute_meets itemId approvedBy patch retrySafe).mono hquiet fun _ h => h
  | fleshRun config maxFleshPerTick opts =>
    exact unit_meets (careful_tick.runFleshPass config maxFleshPerTick opts)
  | fleshApprove itemId approvedBy =>
    exact (approveRoute_meets itemId approvedBy).mono hquiet fun _ h => h
  | fleshReject itemId reason => exact (rejectRoute_meets itemId reason).mono hquiet fun _ h => h
  | clearDependencyBlocker itemId dependency actor reason =>
    have hclear := clearBacklogDependencyBlocker_meets itemId dependency actor reason
    rw [BacklogCall.prog]
    generalize clearBacklogDependencyBlocker itemId dependency actor reason = p at hclear ⊢
    exact unit_meets hclear
  | other p => cases h

theorem recordFleshOutcome_state (item : BacklogRow) (outcome : FleshOutcome) (now : Instant)
    (row : BacklogRow) : ((UpdateStmt.recordFleshOutcome item outcome now).set row).readinessState =
      if outcome.promotes then .ready else row.readinessState := by
  cases hpatch : outcome.patch with
  | none => simp [UpdateStmt.set, UpdateStmt.stampFlesh, FleshOutcome.promotes, hpatch]
  | some patch =>
    cases hpromote : outcome.promote <;>
      simp [UpdateStmt.set, UpdateStmt.stampFlesh, UpdateStmt.applyPatch, UpdateStmt.approveFlesh,
        FleshOutcome.promotes, hpatch, hpromote]

theorem UpdateStmt.Careful.keeps {u : UpdateStmt} (h : u.Careful) (hguard : u.guard row)
    (hfound : ∀ item, u.blind = some item → isClosed row.readinessState = false ∧
      (row.readinessState = .inFlight → item.readinessState = .inFlight)) :
    (isClosed row.readinessState → (u.set row).readinessState = row.readinessState) ∧
      ¬ (row.readinessState = .inFlight ∧ (u.set row).readinessState = .ready) := by
  cases u with
  | promoteToReady item approvedBy retrySafe now =>
    obtain ⟨hopen, hfired⟩ := hfound item rfl
    exact ⟨fun hclosed => by simp [hopen] at hclosed, fun hrow => h (hfired hrow.1)⟩
  | clearDependencyBlocker item dependencies receipt actor now =>
    obtain ⟨hopen, hfired⟩ := hfound item rfl
    exact ⟨fun hclosed => by simp [hopen] at hclosed, fun hrow => h (hfired hrow.1)⟩
  | setItemState item state dispatchPhid now =>
    obtain ⟨hopen, _⟩ := hfound item rfl
    exact ⟨fun hclosed => by simp [hopen] at hclosed, fun hrow => h hrow.2⟩
  | recordFleshOutcome item outcome now =>
    rw [recordFleshOutcome_state]
    cases hpromotes : outcome.promotes with
    | true =>
      obtain ⟨hopen, hfired⟩ := hfound item (by simp [blind, hpromotes])
      exact ⟨fun hclosed => by simp [hopen] at hclosed, fun hrow => h (hfired hrow.1)⟩
    | false =>
      refine ⟨fun _ => rfl, ?_⟩
      rintro ⟨hinFlight, hready⟩
      cases hinFlight.symm.trans hready
  | closeDuplicate item fromStates toState sourceRefs receipt actor now =>
    simp only [guard, Bool.and_eq_true, List.contains_iff_mem] at hguard
    obtain ⟨hopen, hinFlight⟩ := h _ hguard.1.1
    exact ⟨fun hclosed => by simp [hopen] at hclosed, fun hrow => hinFlight hrow.1⟩
  | reconcileDependencies item toState dependencies actor now =>
    have hstate : row.readinessState = .blockedDependency := of_decide_eq_true hguard
    rw [hstate]
    exact ⟨nofun, nofun⟩
  | supersedeOffline item sourceRefs receipt actor now =>
    have hstate : row.readinessState = .ready := of_decide_eq_true hguard
    rw [hstate]
    exact ⟨nofun, nofun⟩
  | _ =>
    refine ⟨fun _ => rfl, ?_⟩
    rintro ⟨hinFlight, hready⟩
    cases hinFlight.symm.trans hready

theorem Stmt.row?_of_fails {c : Stmt} {w : World} (h : w.env.fails w.step) :
    World.row? (c.effect w) itemId = w.row? itemId := by
  cases c with
  | insert row => simp only [World.row?, Stmt.effect_backlog, Stmt.backlog, h, if_true]
  | update u => simp only [World.row?, Stmt.effect_backlog, Stmt.backlog, h, if_true]
  | _ => rfl

theorem keepsState_of_upToDate {e : Event sql World}
    (hcareful : e.stmt.Updates UpdateStmt.Careful) (h : upToDate e) : KeepsState e := by
  intro itemId row row' hrow hrow'
  have hsame (heq : row' = row) : (isClosed row.readinessState →
      row'.readinessState = row.readinessState) ∧
        ¬ (row.readinessState = .inFlight ∧ row'.readinessState = .ready) := by
    subst heq
    refine ⟨fun _ => rfl, ?_⟩
    rintro ⟨hinFlight, hready⟩
    cases hinFlight.symm.trans hready
  rcases e.stmt.row?_effect hrow with hleft | ⟨u, hu, rfl, hguard, hset⟩
  · exact hsame (Option.some.inj (hrow'.symm.trans hleft))
  cases hfails : e.before.env.fails e.before.step with
  | true =>
    have hleft : World.row? e.after u.itemId = e.before.row? u.itemId :=
      Stmt.row?_of_fails (c := e.stmt) hfails
    exact hsame (Option.some.inj (hrow'.symm.trans (hleft.trans hrow)))
  | false =>
    obtain rfl := Option.some.inj (hrow'.symm.trans hset)
    rw [hu] at hcareful
    apply UpdateStmt.Careful.keeps hcareful hguard
    intro item hblind
    simp only [upToDate, hu, hfails, hblind, Bool.false_or, Option.all_some, hrow,
      Bool.and_eq_true, Bool.or_eq_true, Bool.not_eq_true', decide_eq_true_eq] at h
    obtain ⟨hread, hfound⟩ := h
    rcases hfound with hunsettled | hstate
    · simp only [Bool.or_eq_false_iff, decide_eq_false_iff_not] at hunsettled
      exact ⟨hunsettled.1, fun hinFlight => absurd hinFlight hunsettled.2⟩
    · rw [hstate]
      exact ⟨hread, id⟩

theorem BacklogRun.IsBound.careful {run : BacklogRun} (h : run.IsBound i e) :
    e.stmt.Updates UpdateStmt.Careful := by
  have hthreads : ∀ (j : Nat) (p : Prog Unit), run.threads[j]? = some p →
      p.Meets (fun c : Stmt => (∃ call : BacklogCall, run.calls[j]? = some call ∧
        call.isOther = false) → c.Updates UpdateStmt.Careful) fun _ => True := by
    intro j p hp
    rw [threads, List.getElem?_map, Option.map_eq_some_iff] at hp
    obtain ⟨called, hcalled, rfl⟩ := hp
    cases hother : called.isOther with
    | true =>
      refine Program.Meets.of_forall _ ?_ fun _ => trivial
      rintro c ⟨call, hcall, hbound⟩
      obtain rfl := Option.some.inj (hcalled.symm.trans hcall)
      simp [hother] at hbound
    | false => exact (BacklogCall.meets hother).mono (fun c hc _ => hc) fun _ h => h
  exact interleaveEvents_meet run.schedule run.start hthreads (i, e) h.1 h.2

/-- In every run whose writes by id alone are up to date, every event of the daemon and of the
promote, flesh and clear-dependency calls keeps the state of closed rows and of rows in flight. -/
theorem BacklogRun.keepsStates {run : BacklogRun} (h : run.UpToDate) : run.KeepsStates := by
  intro i e hbound
  exact keepsState_of_upToDate hbound.careful (h i e hbound)

def reviewedRow : BacklogRow :=
  { insertedRow {
      title := "t"
      toAgent := some "roger"
      dispatchBody := some "b"
      readinessState := some .needsReview } "item" 0 with lastDispatchPhid := some "phid:disp-1" }

def promotedUnder (schedule : List Nat) : BacklogRun where
  calls := [.promote "item" "operator" none true,
    .other ((reconcileStaleAlreadyDispatchedReadyRows { actor := some "operator" }).bind
      fun _ => .ret ())]
  schedule := schedule
  start := { World.holding [reviewedRow] with
    scheduler := .start [{ freshRow "phid:disp-1" with status := .done }] .quiet }

def closedMeanwhile : BacklogRun := promotedUnder [0, 0, 1, 1, 1, 0]

theorem closed_reopened : (eventsOf 0 closedMeanwhile.events)[2]?.any fun e =>
    (e.before.row? "item").any (·.readinessState = .done) &&
      (World.row? e.after "item").any (·.readinessState = .ready) := by decide +kernel

theorem not_keepsStates : ¬ closedMeanwhile.KeepsStates := by
  intro h
  have hreopened := closed_reopened
  rw [Option.any_eq_true] at hreopened
  obtain ⟨e, he, hstates⟩ := hreopened
  simp only [Bool.and_eq_true, Option.any_eq_true, decide_eq_true_eq] at hstates
  obtain ⟨⟨row, hrow, hdone⟩, row', hrow', hready⟩ := hstates
  have hbound : closedMeanwhile.IsBound 0 e :=
    ⟨mem_eventsOf.mp (List.mem_of_getElem? he), _, rfl, rfl⟩
  have hkept := (h 0 e hbound "item" row row' hrow hrow').1 (by rw [hdone]; rfl)
  rw [hdone, hready] at hkept
  cases hkept

/-- The promotion comes first. -/
theorem keepsStates_before : (promotedUnder [0, 0, 0, 0, 1, 1, 1]).KeepsStates := by
  apply BacklogRun.keepsStates
  intro i e hbound
  have hall : ∀ e ∈ (promotedUnder [0, 0, 0, 0, 1, 1, 1]).events, upToDate e.2 := by
    decide +kernel
  exact hall (i, e) hbound.1

end IdAgents.Orchestration
