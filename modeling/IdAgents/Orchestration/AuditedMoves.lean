import IdAgents.Orchestration.Audit

namespace IdAgents.Orchestration
open JsText JsMap AtomicProgram

/-- The item and the dispatch of a write that moves a row to `in_flight`. -/
def moveOf (e : Event sql World) : Option (String × String) :=
  match e.stmt with
  | .update (.setItemState item .inFlight (some phid) now) =>
    match Stmt.answer (.update (.setItemState item .inFlight (some phid) now)) e.before with
    | .ok (_ + 1) => some (item.itemId, phid)
    | _ => none
  | _ => none

def auditMoveOf (e : Event auditSql AuditWorld) : Option (String × String) :=
  match e.stmt with
  | .base c => moveOf ⟨c, e.before.world⟩
  | _ => none

def Logged (w : AuditWorld) (move : String × String) : Prop :=
  ∃ row ∈ w.log, row.record.itemId = some move.1 ∧ row.record.action = .dispatched ∧
    row.record.dispatchPhid = some move.2

def AuditFails : (c : AuditStmt) → c.Ans → Prop
  | .modelPolicyDrift, answer => ∃ e, answer = .error e
  | .alert _, answer | .insertDecision _, answer => ∃ e, answer = .error e
  | _, _ => False

def Audited (tick : AuditProg α) (w : AuditWorld) : Prop :=
  ∀ move ∈ (tick.trace w).filterMap auditMoveOf, Logged (tick.run w).2 move

def FailsLate (tick : AuditProg α) (w : AuditWorld) : Prop :=
  ∀ e ∈ tick.trace w, AuditFails e.stmt (Store.answer e.stmt e.before) →
    ∀ move ∈ (tick.trace w).filterMap auditMoveOf, Logged e.before move

theorem effect_log (c : AuditStmt) (w : AuditWorld) : w.log ⊆ (c.effect w).log := by
  cases c with
  | insertDecision row =>
    intro r hr
    change r ∈ if w.world.env.fails w.world.step then w.log else w.log ++ [row]
    split
    · exact hr
    · exact List.mem_append_left _ hr
  | _ => exact fun _ hr => hr

theorem Logged.mono {w w' : AuditWorld} (h : Logged w move) (hlog : w.log ⊆ w'.log) :
    Logged w' move := by
  obtain ⟨row, hrow, hmove⟩ := h
  exact ⟨row, hlog hrow, hmove⟩

theorem run_log (p : AuditProg α) (w : AuditWorld) : w.log ⊆ (p.run w).2.log := by
  apply (p.run_chain w).related (R := fun a b => a.log ⊆ b.log)
  · exact fun _ _ hr => hr
  · exact fun _ _ _ hab hbc _ hr => hbc (hab hr)
  · exact fun e _ => effect_log e.stmt e.before

theorem log_of_fails {c : AuditStmt} {w : AuditWorld} (h : AuditFails c (c.answer w)) :
    (c.effect w).log = w.log := by
  cases c with
  | insertDecision row =>
    obtain ⟨e, he⟩ := h
    change Stmt.written w.world () = .error e at he
    rw [Stmt.written] at he
    split at he
    · next hfails => exact if_pos hfails
    · cases he
  | _ => rfl

def NoFire : UpdateStmt → Prop
  | .setItemState _ .inFlight (some _) _ => False
  | _ => True

theorem moveOf_eq_none {c : Stmt} (h : c.Updates NoFire) (w : World) : moveOf ⟨c, w⟩ = none := by
  cases c with
  | update u => cases u with
    | setItemState item state phid now =>
      cases state <;> cases phid <;> first | rfl | exact h.elim
    | _ => rfl
  | insert row => rfl
  | _ => rfl

variable {p : Prog α}

theorem moves_eq_nil (h : p.Meets (Stmt.Updates NoFire) R) (w : World) :
    (p.trace w).filterMap moveOf = [] := by
  rw [List.filterMap_eq_nil_iff]
  exact fun e he => moveOf_eq_none (h.trace w e he) e.before

def fireTarget (deps : DaemonDeps) (assignments : Dict String String) (view : BacklogItem)
    (item : BacklogRow) : Prog String :=
  (bindToPool deps assignments view item).bind fun bound =>
  (enqueue (bound.getD item)).tryCatch fun e => (revertBind item bound).bind fun _ => .throw e

theorem fireTarget_meets (deps : DaemonDeps) (assignments : Dict String String)
    (view : BacklogItem) (item : BacklogRow) :
    (fireTarget deps assignments view item).Meets (Stmt.Updates NoFire) fun _ => True := by
  apply Program.Meets.bind (R := fun _ => True)
  · rw [bindToPool]
    split
    · refine ⟨trivial, fun path => ?_⟩
      apply (returned_meets path).bind
      intro path _
      apply (bindItemForFire_meets trivial fun now => trivial).bind
      intro _ _
      trivial
    · trivial
  intro bound _
  apply (enqueue_meets _ trivial fun _ => trivial).tryCatch
  intro e
  apply Program.Meets.bind (R := fun _ => True)
  · rw [revertBind]
    split
    · exact bindItemForFire_meets trivial fun now => trivial
    · trivial
  intro _ _
  trivial

variable {w : World}

theorem moveOf_fire {item : BacklogRow} {phid : String} {now : Instant}
    (h : moveOf ⟨.update (.setItemState item .inFlight (some phid) now), w⟩ = some move) :
    move = (item.itemId, phid) ∧
      ∃ n, Stmt.answer (.update (.setItemState item .inFlight (some phid) now)) w = .ok n := by
  simp only [moveOf] at h
  split at h
  · next n hanswer => exact ⟨(Option.some.inj h).symm, _, hanswer⟩
  · cases h

def setInFlight (item : BacklogRow) (phid : String) : Prog String :=
  (setItemState item .inFlight (some phid)).bind fun _ => .ret phid

theorem setInFlight_moves (item : BacklogRow) (phid : String)
    (h : move ∈ ((setInFlight item phid).trace w).filterMap moveOf) :
    move = (item.itemId, phid) ∧ ∃ t, (setInFlight item phid).run w = (.ok phid, t) := by
  let v := Stmt.effect .now w
  let u : UpdateStmt := .setItemState item .inFlight (some phid) (Stmt.answer .now w)
  have htrace : (setInFlight item phid).trace w = ⟨.now, w⟩ :: ⟨.update u, v⟩ ::
      (((returned (Stmt.answer (.update u) v)).bind fun _ => .ret ()).bind fun _ =>
        (.ret phid : Prog String)).trace (Stmt.effect (.update u) v) := rfl
  have hrun : (setInFlight item phid).run w =
      (((returned (Stmt.answer (.update u) v)).bind fun _ => .ret ()).bind fun _ =>
        (.ret phid : Prog String)).run (Stmt.effect (.update u) v) := rfl
  have hrest : (((returned (Stmt.answer (.update u) v)).bind fun _ => .ret ()).bind fun _ =>
      (.ret phid : Prog String)).trace (Stmt.effect (.update u) v) = [] := by
    cases Stmt.answer (.update u) v <;> rfl
  rw [htrace, hrest] at h
  have hnow : moveOf ⟨.now, w⟩ = none := rfl
  rw [List.filterMap_cons_none hnow, List.mem_filterMap] at h
  obtain ⟨e, he, hmove⟩ := h
  obtain rfl := List.mem_singleton.1 he
  obtain ⟨rfl, n, hanswer⟩ := moveOf_fire hmove
  refine ⟨rfl, Stmt.effect (.update u) v, ?_⟩
  rw [hrun, show Stmt.answer (.update u) v = .ok n from hanswer]
  rfl
section
variable (deps : DaemonDeps)
section
variable (assignments : Dict String String)
section
variable (view : BacklogItem)

theorem fire_moves
    (item : BacklogRow) (h : move ∈ ((fire deps assignments view item).trace w).filterMap moveOf) :
    move.1 = item.itemId ∧ ∃ t, (fire deps assignments view item).run w = (.ok move.2, t) := by
  have hfire : fire deps assignments view item =
      (fireTarget deps assignments view item).bind (setInFlight item) := by
    rw [fireTarget, Program.bind_assoc]
    rfl
  rw [hfire, Program.trace_bind, List.filterMap_append,
    moves_eq_nil (fireTarget_meets deps assignments view item), List.nil_append] at h
  rw [hfire]
  cases htarget : (fireTarget deps assignments view item).run w with
  | mk result t =>
    rw [htarget] at h
    cases result with
    | error e => exact absurd h List.not_mem_nil
    | ok phid =>
      obtain ⟨rfl, u, hrun⟩ := setInFlight_moves item phid h
      rw [Program.run_bind_ok htarget]
      exact ⟨rfl, u, hrun⟩

def fireDecided (item : BacklogRow) : Prog FireDecision :=
  ((fire deps assignments view item).bind fun phid =>
    .ret (FireDecision.dispatched item.itemId phid)).tryCatch fun e =>
      .ret (.skipped item.itemId ("enqueue failed: " ++ e))

theorem fireDecided_moves (item : BacklogRow) (w : World) :
    ∃ decision t, (fireDecided deps assignments view item).run w = (.ok decision, t) ∧
      ∀ move ∈ ((fireDecided deps assignments view item).trace w).filterMap moveOf,
        decision = .dispatched move.1 move.2 := by
  have htrace : (fireDecided deps assignments view item).trace w =
      (fire deps assignments view item).trace w := by
    rw [fireDecided, Program.trace_tryCatch, Program.run_bind, Program.trace_bind]
    cases (fire deps assignments view item).run w with
    | mk result t => cases result <;> simp
  have hrun : (fireDecided deps assignments view item).run w =
      ((((fire deps assignments view item).bind fun phid =>
        .ret (FireDecision.dispatched item.itemId phid)).tryCatch fun e =>
          .ret (.skipped item.itemId ("enqueue failed: " ++ e))).run w) := rfl
  rw [htrace]
  rw [Program.run_tryCatch] at hrun
  cases hfire : (fire deps assignments view item).run w with
  | mk result t =>
    cases result with
    | error e =>
      rw [Program.run_bind_error hfire] at hrun
      refine ⟨_, t, hrun, ?_⟩
      intro move hmove
      obtain ⟨-, u, hok⟩ := fire_moves deps assignments view item hmove
      rw [hfire] at hok
      cases hok
    | ok phid =>
      rw [Program.run_bind_ok hfire] at hrun
      refine ⟨_, t, hrun, ?_⟩
      intro move hmove
      obtain ⟨hitem, u, hok⟩ := fire_moves deps assignments view item hmove
      rw [hfire] at hok
      cases hok
      rw [hitem]

end

end

theorem fireAdmitted_moves (p : ReadyProjection) (plan : AdmissionPlan)
    (rows : List BacklogRow) (decisions : List FireDecision) (w : World) :
    ∃ fired t, (Program.fold rows decisions (fireStep deps p plan)).run w =
        (.ok (decisions ++ fired), t) ∧
      ∀ move ∈ ((Program.fold rows decisions (fireStep deps p plan)).trace w).filterMap moveOf,
        FireDecision.dispatched move.1 move.2 ∈ fired := by
  induction rows generalizing decisions w with
  | nil =>
    refine ⟨[], w, by simp, ?_⟩
    intro move hmove
    exact absurd hmove List.not_mem_nil
  | cons item rows ih =>
    obtain ⟨decision, t, hrun, hmoves⟩ : ∃ decision t, (fireStep deps p plan decisions item).run w =
        (.ok (decisions ++ [decision]), t) ∧
        ∀ move ∈ ((fireStep deps p plan decisions item).trace w).filterMap moveOf,
          decision = .dispatched move.1 move.2 := by
      rw [fireStep]
      split
      · refine ⟨.wouldDispatch item.itemId, w, rfl, ?_⟩
        intro move hmove
        exact absurd hmove List.not_mem_nil
      · obtain ⟨decision, t, hrun, hmoves⟩ := fireDecided_moves deps plan.assignments
          (attachBacklogRetryReadiness p.outcomes item) item w
        rw [fireDecided] at hrun hmoves
        refine ⟨decision, t, ?_, ?_⟩
        · rw [Program.run_bind_ok hrun]
          rfl
        · intro move hmove
          rw [Program.trace_bind, hrun] at hmove
          apply hmoves
          simpa using hmove
    obtain ⟨fired, u, hrest, hrestMoves⟩ := ih (decisions ++ [decision]) t
    refine ⟨decision :: fired, u, ?_, ?_⟩
    · rw [Program.fold_cons, Program.run_bind_ok hrun, hrest, List.append_assoc]
      rfl
    · intro move hmove
      rw [Program.fold_cons, Program.trace_bind, hrun, List.filterMap_append,
        List.mem_append] at hmove
      obtain hmove | hmove := hmove
      · rw [← hmoves move hmove]
        exact List.mem_cons_self
      · exact List.mem_cons_of_mem _ (hrestMoves move hmove)

end

theorem based_run (p : Prog α) (w : AuditWorld) :
    (based p).run w = ((p.run w.world).1, { w with world := (p.run w.world).2 }) := by
  induction p generalizing w with
  | ret a => rfl
  | throw e => rfl
  | issue c k ih => exact ih _ _

theorem based_moves (p : Prog α) (w : AuditWorld) :
    ((based p).trace w).filterMap auditMoveOf = (p.trace w.world).filterMap moveOf := by
  induction p generalizing w with
  | ret a => rfl
  | throw e => rfl
  | issue c k ih =>
    have htrace : (based (.issue c k)).trace w = ⟨.base c, w⟩ ::
        (based (k (Stmt.answer c w.world))).trace
          { w with world := Stmt.effect c w.world } := rfl
    have hworld : (Program.issue c k : Prog α).trace w.world = ⟨c, w.world⟩ ::
        (k (Stmt.answer c w.world)).trace (Stmt.effect c w.world) := rfl
    rw [htrace, hworld, List.filterMap_cons, List.filterMap_cons, ih]
    rfl

theorem based_stopsAt (p : Prog α) : (based p).StopsAt AuditFails := by
  induction p with
  | ret a => trivial
  | throw e => trivial
  | issue c k ih => exact fun a => ⟨fun h => h.elim, ih a⟩

theorem based_throwsAfter (h : p.ThrowsAfter fun _ _ => False) :
    (based p).ThrowsAfter AuditFails := by
  induction p with
  | ret a => trivial
  | throw e => exact h
  | issue c k ih => exact fun a => .inr (ih a ((h a).resolve_left id))

def NoMove (c : AuditStmt) : Prop := ∀ w, auditMoveOf ⟨c, w⟩ = none

theorem noMoves {p : AuditProg α} (h : p.Meets NoMove R) (w : AuditWorld) :
    (p.trace w).filterMap auditMoveOf = [] := by
  rw [List.filterMap_eq_nil_iff]
  exact fun e he => h.trace w e he e.before

theorem based_meets (h : p.Meets (Stmt.Updates NoFire) R) : (based p).Meets NoMove R := by
  induction p with
  | ret a => exact h
  | throw e => trivial
  | issue c k ih => exact ⟨fun w => moveOf_eq_none h.1 w.world, fun a => ih a (h.2 a)⟩

structure Steady (p : AuditProg α) (R : α → Prop) : Prop where
  meets : p.Meets NoMove R
  throws : p.ThrowsAfter AuditFails
  stops : p.StopsAt AuditFails

namespace Steady

variable {R : α → Prop}

theorem ret (h : R a) : Steady (.ret a) R := ⟨h, trivial, trivial⟩

theorem bind {p : AuditProg α} {f : α → AuditProg β} {T : β → Prop}
    (h : Steady p R) (hf : ∀ a, R a → Steady (f a) T) : Steady (p.bind f) T :=
  ⟨h.meets.bind fun a ha => (hf a ha).meets, h.throws.bind h.meets fun a ha => (hf a ha).throws,
    h.stops.bind h.meets fun a ha => (hf a ha).stops⟩

theorem issue {c : AuditStmt} {k : c.Ans → AuditProg α} (hmove : NoMove c)
    (h : ∀ a, (AuditFails c a ∧ ∃ e, k a = .throw e) ∨ (¬ AuditFails c a ∧ Steady (k a) R)) :
    Steady (Program.issue (S := auditSql) c k) R := by
  constructor
  · refine ⟨hmove, fun a => ?_⟩
    obtain ⟨-, e, he⟩ | ⟨-, hsteady⟩ := h a
    · rw [he]
      trivial
    · exact hsteady.meets
  · intro a
    exact (h a).imp And.left fun hk => hk.2.throws
  · intro a
    obtain ⟨hfails, e, he⟩ | ⟨hfine, hsteady⟩ := h a
    · exact ⟨fun _ => ⟨e, he⟩, by rw [he]; trivial⟩
    · exact ⟨fun hfails => (hfine hfails).elim, hsteady.stops⟩

theorem ask {c : AuditStmt} (hmove : NoMove c) (h : ∀ a, ¬ AuditFails c a) :
    Steady (ask c) fun _ => True :=
  issue hmove fun a => .inr ⟨h a, .ret trivial⟩

theorem fold {body : α → β → AuditProg α} {xs : List β} (acc : α)
    (h : ∀ acc, ∀ x ∈ xs, Steady (body acc x) fun _ => True) :
    Steady (Program.fold xs acc body) fun _ => True := by
  induction xs generalizing acc with
  | nil => exact .ret trivial
  | cons x xs ih =>
    apply (h acc x (by simp)).bind
    exact fun acc _ => ih acc fun acc y hy => h acc y (by simp [hy])

end Steady

theorem ok_not_error (a : α) : ¬ ∃ e, (.ok a : Except String α) = .error e := by simp

theorem alert_steady (message : String) : Steady (alert message) fun _ => True := by
  apply Steady.issue fun _ => rfl
  intro a
  cases a with
  | ok a => exact .inr ⟨ok_not_error a, .ret trivial⟩
  | error e => exact .inl ⟨⟨e, rfl⟩, e, rfl⟩
section
variable (deps : AuditDeps)
section
variable (tick : PlannedTick)

theorem logRecord_steady (record : LogRecord) :
    Steady (logRecord deps tick record) fun _ => True := by
  apply Steady.issue fun _ => rfl
  intro a
  cases a with
  | ok a => exact .inr ⟨ok_not_error a, .ret trivial⟩
  | error e => exact .inl ⟨⟨e, rfl⟩, e, rfl⟩

theorem emitNews_steady (record : LogRecord) : Steady (emitNews record) fun _ => True :=
  (Steady.ask (fun _ => rfl) fun _ => id).bind fun _ _ => .ret trivial
section
variable (sha256Hex : String → String)

theorem alertIncident_steady (nowMs : Instant)
    (incident : Incident) : Steady (alertIncident sha256Hex nowMs incident) fun _ => True := by
  have hset : ∀ opened, Steady (ask (.setIncidents opened)) fun _ => True :=
    fun _ => Steady.ask (fun _ => rfl) fun _ => id
  have hraise : ∀ incidents existing,
      Steady (raiseIncident sha256Hex nowMs incident incidents existing) fun _ => True := by
    intro incidents existing
    cases existing with
    | none =>
      apply (hset _).bind
      intro _ _
      exact (alert_steady _).bind fun _ _ => .ret trivial
    | some existing =>
      rw [raiseIncident]
      split
      · apply (hset _).bind
        intro _ _
        exact (alert_steady _).bind fun _ _ => .ret trivial
      · exact .ret trivial
  apply (Steady.ask (c := .incidents) (fun _ => rfl) fun _ => id).bind
  intro incidents _
  exact hraise incidents _

theorem recoverInactive_steady (activeIncidentKeys : List String) :
    Steady (recoverInactiveIncidents activeIncidentKeys) fun _ => True := by
  apply (Steady.ask (c := .incidents) (fun _ => rfl) fun _ => id).bind
  intro (incidents : Dict String AlertIncidentState) _
  apply Steady.fold
  intro _ incident _
  rw [recoverIncident]
  split
  · exact .ret trivial
  · apply (Steady.ask (c := .incidents) (fun _ => rfl) fun _ => id).bind
    intro (incidents : Dict String AlertIncidentState) _
    apply (Steady.ask (c := .setIncidents (forget incidents incident.1)) (fun _ => rfl)
      fun _ => id).bind
    intro _ _
    exact alert_steady _

theorem noFire_tickUpdates : TickUpdates NoFire := by
  constructor
  case release =>
    intro item state now _ hstate
    obtain rfl | rfl | rfl := hstate <;> trivial
  all_goals intros; trivial

theorem fleshPass_steady (config : DaemonConfig) (r : TickReadings) (limit : Int) :
    Steady (based (fleshPass config r limit)) fun _ => True := by
  constructor
  · apply based_meets
    exact (noFire_tickUpdates.fleshPass config r limit).mono (fun _ hc => hc.updates fun _ hu => hu)
      fun _ _ => trivial
  · apply based_throwsAfter
    exact .tryCatch _ fun _ => trivial
  · exact based_stopsAt _

def Extends (book book' : Book) : Prop := ∀ record ∈ book.records, record ∈ book'.records

theorem Extends.push (h : Extends book book') (record : LogRecord) :
    Extends book (book'.push record) :=
  fun r hr => List.mem_append_left _ (h r hr)

theorem extends_refl (book : Book) : Extends book book := fun _ hr => hr

theorem reportIncident_steady (deps : AuditDeps)
    (tick : PlannedTick) (admitted : Nat) (zeroTicks : Int) (book : Book) :
    Steady (reportIncident sha256Hex deps tick admitted zeroTicks book) (Extends book) := by
  rw [reportIncident]
  dsimp only
  split
  · apply (alertIncident_steady sha256Hex _ _).bind
    intro _ _
    exact .ret ((extends_refl book).push _)
  split
  · apply (alertIncident_steady sha256Hex _ _).bind
    intro opened _
    cases opened with
    | true => exact .ret ((extends_refl book).push _)
    | false => exact .ret (extends_refl book)
  split
  · apply (alertIncident_steady sha256Hex _ _).bind
    intro _ _
    exact .ret ((extends_refl book).push _)
  · exact .ret (extends_refl book)

theorem watchStall_steady (zeroTicks : Int)
    (book : Book) : Steady (watchStall deps tick zeroTicks book) (Extends book) := by
  rw [watchStall]
  dsimp only
  split
  · apply (emitNews_steady _).bind
    intro _ _
    split
    · exact .ret ((extends_refl book).push _)
    · apply (fleshPass_steady _ _ _).bind
      intro refuel _
      cases refuel with
      | none => exact .ret ((extends_refl book).push _)
      | some summary => exact .ret (((extends_refl book).push _).push _)
  · exact .ret (extends_refl book)

theorem reportEmptyPipe_steady (book : Book) :
    Steady (reportEmptyPipe deps tick book) (Extends book) := by
  rw [reportEmptyPipe]
  cases deps.texts.emptyPipe tick with
  | none => exact .ret (extends_refl book)
  | some message =>
    apply (emitNews_steady _).bind
    intro _ _
    exact .ret ((extends_refl book).push _)

theorem reportDrift_steady (tick : PlannedTick) (drift : Option Report) (book : Book) :
    Steady (reportDrift sha256Hex tick drift book) (Extends book) := by
  cases drift with
  | none => exact .ret (extends_refl book)
  | some report =>
    apply (alertIncident_steady sha256Hex _ _).bind
    intro _ _
    apply (emitNews_steady _).bind
    intro _ _
    exact .ret ((extends_refl book).push _)

theorem reportAll_steady (deps : AuditDeps) (tick : PlannedTick)
    (drift : Option Report) (admitted : Nat) (zeroTicks : Int) (book : Book) :
    Steady (reportAll sha256Hex deps tick drift admitted zeroTicks book) (Extends book) := by
  apply (reportIncident_steady sha256Hex deps tick admitted zeroTicks book).bind
  intro book₁ h₁
  apply (watchStall_steady deps tick zeroTicks book₁).bind
  intro book₂ h₂
  apply (reportEmptyPipe_steady deps tick book₂).bind
  intro book₃ h₃
  apply (reportDrift_steady sha256Hex tick drift book₃).bind
  intro book₄ h₄
  apply (recoverInactive_steady book₄.activeIncidentKeys).bind
  intro _ _
  exact .ret fun r hr => h₄ r (h₃ r (h₂ r (h₁ r hr)))

end

theorem fireAll_moves (w : AuditWorld) : ∃ fired t, (fireAll deps tick).run w = (.ok fired, t) ∧
      ∀ move ∈ ((fireAll deps tick).trace w).filterMap auditMoveOf,
        tick.plan.halt = none ∧ FireDecision.dispatched move.1 move.2 ∈ fired := by
  rw [fireAll]
  split
  · refine ⟨[], w, rfl, ?_⟩
    intro move hmove
    exact absurd hmove List.not_mem_nil
  · next hhalt =>
    obtain ⟨fired, t, hrun, hmoves⟩ := fireAdmitted_moves deps.toDaemonDeps tick.projection
      tick.plan (admittedRows tick.projection tick.plan) [] w.world
    refine ⟨fired, { w with world := t }, ?_, ?_⟩
    · rw [based_run, fireAdmitted, hrun]
      rfl
    · intro move hmove
      rw [based_moves] at hmove
      exact ⟨Option.not_isSome_iff_eq_none.1 hhalt, hmoves move hmove⟩

theorem fireAll_throwsAfter : (fireAll deps tick).ThrowsAfter AuditFails := by
  rw [fireAll]
  split
  · trivial
  · apply based_throwsAfter
    apply Program.ThrowsAfter.fold
    intro decisions item _
    rw [fireStep]
    split
    · trivial
    · have hdecided : (fireDecided deps.toDaemonDeps tick.plan.assignments
          (attachBacklogRetryReadiness tick.projection.outcomes item) item).ThrowsAfter
          fun _ _ => False := .tryCatch _ fun _ => trivial
      apply hdecided.bind (.of_forall (Q := fun _ => True) (R := fun _ => True) _
        (fun _ => trivial) fun _ => trivial)
      exact fun _ _ => trivial

theorem fireAll_stopsAt : (fireAll deps tick).StopsAt AuditFails := by
  rw [fireAll]
  split
  · trivial
  · exact based_stopsAt _

theorem logRecords_steady (records : List LogRecord) :
    Steady (logRecords deps tick records) fun _ => True :=
  .fold () fun _ record _ => logRecord_steady deps tick record

theorem logRecord_logged (record : LogRecord)
    {w t : AuditWorld} (h : (logRecord deps tick record).run w = (.ok u, t)) :
    ∃ row ∈ t.log, row.record = record := by
  let row : DecisionLogRow := ⟨tick.tickId, deps.config.dryRun, record⟩
  have hrun : (logRecord deps tick record).run w =
      (answered (Stmt.written w.world ())).run (AuditStmt.effect (.insertDecision row) w) := rfl
  rw [hrun, Stmt.written] at h
  cases hfails : w.world.env.fails w.world.step with
  | true =>
    rw [hfails] at h
    cases h
  | false =>
    rw [hfails] at h
    have hlog : t.log = w.log ++ [row] := by
      rw [← (Prod.mk.inj h).2]
      simp [AuditStmt.effect, hfails]
    exact ⟨row, by simp [hlog], rfl⟩

theorem logRecords_logged {records : List LogRecord}
    {w t : AuditWorld} (h : (logRecords deps tick records).run w = (.ok (), t)) :
    ∀ record ∈ records, ∃ row ∈ t.log, row.record = record := by
  induction records generalizing w with
  | nil => simp
  | cons record records ih =>
    rw [logRecords, Program.fold_cons] at h
    obtain ⟨_, u, hfirst, hrest, -⟩ := Program.run_bind_returns h
    have hlog : u.log ⊆ t.log := by
      have hmono := run_log (logRecords deps tick records) u
      rwa [show (logRecords deps tick records).run u = _ from hrest] at hmono
    intro r hr
    obtain rfl | hr := List.mem_cons.1 hr
    · obtain ⟨row, hrow, hrecord⟩ := logRecord_logged deps tick r hfirst
      exact ⟨row, hlog hrow, hrecord⟩
    · exact ih hrest r hr

end

end

section
variable (sha256Hex : String → String) (deps : AuditDeps) (tick : PlannedTick)
section
variable (drift : Option Report)

theorem afterFiring_steady (fired : List FireDecision) :
    Steady (afterFiring sha256Hex deps tick drift fired) fun _ => True := by
  apply (reportAll_steady sha256Hex deps tick drift _ _ _).bind
  intro book _
  exact (logRecords_steady deps tick book.records).bind fun _ _ => .ret trivial

theorem fired_throwsAfter :
    ((fireAll deps tick).bind (afterFiring sha256Hex deps tick drift)).ThrowsAfter AuditFails :=
  (fireAll_throwsAfter deps tick).bind (.of_forall (Q := fun _ => True) (R := fun _ => True) _
    (fun _ => trivial) fun _ => trivial) fun fired _ =>
      (afterFiring_steady sha256Hex deps tick drift fired).throws

theorem fired_stopsAt :
    ((fireAll deps tick).bind (afterFiring sha256Hex deps tick drift)).StopsAt AuditFails :=
  (fireAll_stopsAt deps tick).bind (.of_forall (Q := fun _ => True) (R := fun _ => True) _
    (fun _ => trivial) fun _ => trivial) fun fired _ =>
      (afterFiring_steady sha256Hex deps tick drift fired).stops

end

theorem fireToLog_throwsAfter : (fireToLog sha256Hex deps tick).ThrowsAfter AuditFails := by
  intro a
  cases a with
  | error e => exact .inl ⟨e, rfl⟩
  | ok drift => exact .inr (fired_throwsAfter sha256Hex deps tick drift)

theorem fireToLog_stopsAt : (fireToLog sha256Hex deps tick).StopsAt AuditFails := by
  intro a
  cases a with
  | error e => exact ⟨fun _ => ⟨e, rfl⟩, trivial⟩
  | ok drift =>
    exact ⟨fun hfails => (ok_not_error drift hfails).elim, fired_stopsAt sha256Hex deps tick drift⟩

theorem afterFiring_logged {drift : Option Report} {fired : List FireDecision}
    (hhalt : tick.plan.halt = none)
    (hfired : FireDecision.dispatched move.1 move.2 ∈ fired) {w t : AuditWorld}
    (h : (afterFiring sha256Hex deps tick drift fired).run w = (.ok counts, t)) :
    Logged t move := by
  obtain ⟨book, u, hreport, hrest, -⟩ := Program.run_bind_returns h
  obtain ⟨_, v, hlog, hret, -⟩ := Program.run_bind_returns hrest
  cases hret
  have hextends := (reportAll_steady sha256Hex deps tick drift _ _ _).meets.run hreport
  have hrecord : (FireDecision.dispatched move.1 move.2).record tick deps.texts ∈
      (firedBook deps tick fired).records := by
    rw [firedBook, hhalt]
    have hmem : (FireDecision.dispatched move.1 move.2).record tick deps.texts ∈
        fired.map (·.record tick deps.texts) := List.mem_map_of_mem hfired
    simp [hmem]
  obtain ⟨row, hrow, heq⟩ := logRecords_logged deps tick hlog _ (hextends _ hrecord)
  refine ⟨row, hrow, ?_⟩
  rw [heq]
  exact ⟨rfl, rfl, rfl⟩

theorem fireToLog_logged {w t : AuditWorld}
    (h : (fireToLog sha256Hex deps tick).run w = (.ok counts, t)) :
    ∀ move ∈ ((fireToLog sha256Hex deps tick).trace w).filterMap auditMoveOf, Logged t move := by
  let v := AuditStmt.effect .modelPolicyDrift w
  have hrun : (fireToLog sha256Hex deps tick).run w = ((answered (w.env.modelPolicyDrift
      w.world.step)).bind fun drift =>
        (fireAll deps tick).bind (afterFiring sha256Hex deps tick drift)).run v := rfl
  have htrace : (fireToLog sha256Hex deps tick).trace w = ⟨.modelPolicyDrift, w⟩ ::
      ((answered (w.env.modelPolicyDrift w.world.step)).bind fun drift =>
        (fireAll deps tick).bind (afterFiring sha256Hex deps tick drift)).trace v := rfl
  have hfirst : auditMoveOf ⟨.modelPolicyDrift, w⟩ = none := rfl
  rw [htrace, List.filterMap_cons_none hfirst]
  rw [hrun] at h
  cases hdrift : w.env.modelPolicyDrift w.world.step with
  | error e =>
    rw [hdrift] at h
    cases h
  | ok drift =>
    rw [hdrift] at h
    change ((fireAll deps tick).bind (afterFiring sha256Hex deps tick drift)).run v = _ at h
    change ∀ move ∈ (((fireAll deps tick).bind (afterFiring sha256Hex deps tick drift)).trace
      v).filterMap auditMoveOf, Logged t move
    obtain ⟨fired, u, hfire, hmoves⟩ := fireAll_moves deps tick v
    rw [Program.run_bind_ok hfire] at h
    have hquiet : ((afterFiring sha256Hex deps tick drift fired).trace u).filterMap auditMoveOf =
        [] := noMoves (afterFiring_steady sha256Hex deps tick drift fired).meets u
    rw [Program.trace_bind, hfire, List.filterMap_append, hquiet, List.append_nil]
    intro move hmove
    obtain ⟨hhalt, hfired⟩ := hmoves move hmove
    exact afterFiring_logged sha256Hex deps tick hhalt hfired h

theorem fireAndLog_stopsAt : (fireAndLog sha256Hex deps tick).StopsAt AuditFails := by
  apply (fireToLog_stopsAt sha256Hex deps tick).bind (.of_forall (Q := fun _ => True)
    (R := fun _ => True) _ (fun _ => trivial) fun _ => trivial)
  intro counts _ a
  refine ⟨fun hfails => hfails.elim, ?_⟩
  cases a <;> trivial

theorem fireAndLog_moves (w : AuditWorld) :
    ((fireAndLog sha256Hex deps tick).trace w).filterMap auditMoveOf =
      ((fireToLog sha256Hex deps tick).trace w).filterMap auditMoveOf := by
  rw [fireAndLog, Program.trace_bind, List.filterMap_append]
  cases (fireToLog sha256Hex deps tick).run w with
  | mk result t =>
    cases result with
    | error e => exact List.append_nil _
    | ok counts =>
      have hlast : ((ask (.base (.recordTickOutcome counts.1
          (0 < counts.2 && !deps.config.dryRun)))).bind answered).Meets NoMove fun _ => True := by
        refine ⟨fun _ => rfl, fun a => ?_⟩
        cases a <;> trivial
      rw [noMoves hlast t, List.append_nil]

end

def firedRow : BacklogRow :=
  insertedRow {
    title := "build it"
    toAgent := some "roger"
    dispatchBody := some "build it"
    readinessState := some .ready } "item" 0

def plainTexts : Texts where
  dispatched _ _ := "fired to roger"
  tokenWarning _ := "token reference warn"
  targetUnhealthy _ _ := ⟨⟨.targetUnhealthyReadyBlocked, "", "", ""⟩,
    ⟨none, .targetUnhealthyIncident, "", none⟩⟩
  zeroAdmit _ _ := ⟨⟨.zeroAdmitReadyBlocked, "", "", ""⟩, ⟨none, .zeroAdmitIncident, "", none⟩⟩
  stall _ _ := ⟨⟨.stall, "", "", ""⟩, ⟨none, .stallAlert, "", none⟩⟩
  fleetBlockage _ _ := ""
  watchdogRefuel _ := ""
  emptyPipe _ := none

def liveDeps : AuditDeps where
  config := { defaultConfig with dryRun := false }
  pools := none
  warnFraction := 3 / 4
  texts := plainTexts

def firedTick : PlannedTick where
  tickId := "tick_1"
  nowMs := 0
  prepared := ⟨⟨(World.holding []).env.orchestrationState 0, false, ⟨false, 0⟩, [], none⟩, [], [],
    none, none⟩
  projection := ⟨[firedRow], [firedRow], .empty, none, ["roger"], .empty⟩
  plan := ⟨none, [attachBacklogRetryReadiness .empty firedRow], .empty, []⟩
  gathered := []

def lockedWorld : AuditWorld where
  world := { World.holding [firedRow] with
    env := { (World.holding [firedRow]).env with fails := fun n => 8 ≤ n } }
  incidents := .empty
  log := []
  env := ⟨fun _ => .ok none, fun _ _ => .ok (), fun _ _ => .ok ()⟩

end IdAgents.Orchestration
