import Mathlib.Data.Prod.Lex
import Mathlib.Data.String.Basic
import IdAgents.Library.Selection
import IdAgents.Scheduler.Tick

namespace IdAgents
open JsText KeyedTable AtomicProgram

/-- The queue as one call of `claim` finds it: nobody else writes while the call runs, and the graph
nodes of the dispatches stay as they are. -/
structure ClaimQueue where
  world : World
  held : String → Bool
  steady : ∀ step phid, world.env.pendingDependencies step phid = held phid

namespace ClaimQueue
section
variable (queue : ClaimQueue)

def rows : List Row := queue.world.table.rows
section
variable (filter : QueueEligibleFilter)

def now : Instant :=
  filter.now.getD (queue.world.env.clock queue.world.step)

/-- The smaller of the limit and of what `max_in_flight` leaves free in the lane. -/
def slots : Int :=
  match filter.maxInFlight with
  | none => filter.limit.getD 10
  | some maxInFlight => min (filter.limit.getD 10)
      (max 0 (maxInFlight - laneInFlight filter.provider filter.runtime queue.rows))

def free (row : Row) : Bool := !queue.held row.dispatchPhid

def claimable (row : Row) : Bool :=
  row.status = .queued && row.notBeforeAt ≤ queue.now filter &&
    lane filter.provider filter.runtime row.toDispatchDoc &&
    !filter.excludeAgents.contains row.toAgent && queue.free row

def due : List Row :=
  orderBy claimOrder (queue.rows.filter (eligible filter (queue.now filter)))

def selection : List Row :=
  (orderBy claimOrder (queue.rows.filter (queue.claimable filter))).take (queue.slots filter).toNat

def started (now : Instant) (row : Row) : DispatchDoc :=
  { row.toDispatchDoc with
    status := .inFlight
    attemptCount := row.attemptCount + 1
    startedAt := some now
    updatedAt := now }

def ClaimsSelection : Prop :=
  ((runClaim filter).run queue.world).1 =
    .ok ((queue.selection filter).map (started (queue.now filter)))

def UnobstructedBy : Prop :=
  (0 ≤ queue.slots filter ∧
    ∀ row ∈ (queue.due filter).take (queue.slots filter).toNat, queue.free row) ∨
  ∀ row ∈ (queue.due filter).drop (queue.slots filter).toNat, queue.free row = false

end

end

end ClaimQueue

def claimKey (row : Row) : Lex (Int × Lex (Int × String)) :=
  toLex (-(row.priority : Int), toLex (row.notBeforeAt, row.dispatchPhid))

theorem claimOrder_iff : claimOrder a b ↔ claimKey a ≤ claimKey b := by
  simp only [claimOrder, claimKey, Prod.Lex.toLex_le_toLex, Bool.or_eq_true, Bool.and_eq_true,
    decide_eq_true_eq, neg_lt_neg_iff, neg_inj, Int.ofNat_lt,
    Int.natCast_inj]

instance : Std.Total fun a b : Row => (claimOrder a b : Prop) where
  total a b := by
    rw [claimOrder_iff, claimOrder_iff]
    exact le_total _ _

instance : IsTrans Row fun a b => claimOrder a b where
  trans a b c hab hbc := by
    rw [claimOrder_iff] at *
    exact hab.trans hbc

theorem claimOrder_antisymm (hab : claimOrder a b) (hba : claimOrder b a) :
    a.dispatchPhid = b.dispatchPhid := by
  rw [claimOrder_iff] at hab hba
  have hkey := le_antisymm hab hba
  simp only [claimKey, toLex_inj, Prod.mk.injEq] at hkey
  exact hkey.2.2

theorem execUpdate_run {u : UpdateStmt} (h : w.table.updateRefused u.toUpdate = false) :
    (execUpdate u).run w = (.ok (w.table.rowCount u.toUpdate), Stmt.effect (.update u) w) := by
  have hanswer : Stmt.answer (.update u) w = some (w.table.rowCount u.toUpdate) := by
    change (if w.table.updateRefused u.toUpdate then none
      else some (w.table.rowCount u.toUpdate)) = _
    rw [if_neg (by simp [h])]
  rw [execUpdate, Program.bind_eq, Program.stmt, Program.issue_bind, Program.run_issue]
  change Program.run (Program.bind (.ret (Stmt.answer (.update u) w)) _) _ = _
  rw [hanswer]
  rfl

theorem getByPhid_run (phid : String) (w : World) :
    (getByPhid phid).run w = (.ok ((w.row? phid).map rowToDoc), Stmt.effect .select w) := rfl

theorem active_started (h : row.status = .queued) :
    isActiveForDedup ((UpdateStmt.runClaim call phid n now).set row) = isActiveForDedup row := by
  simp only [isActiveForDedup, UpdateStmt.set, h]
  rfl

theorem claim_not_refused (call : ClaimCall) (phid : String) (n : Nat) (now : Instant)
    (w : World) : w.table.updateRefused (UpdateStmt.runClaim call phid n now).toUpdate = false := by
  apply Table.not_refused_of_entry
  intro row hhit
  have hqueued : row.status = .queued := by
    simpa [UpdateStmt.guard] using (UpdateStmt.hits_iff.mp hhit).2
  change (if isActiveForDedup ((UpdateStmt.runClaim call phid n now).set row) then
    row.dedupKey else none) = if isActiveForDedup row then row.dedupKey else none
  rw [active_started hqueued]

theorem claimRows_run {rows : List Row} (claimed : List DispatchDoc)
    (hrows : ∀ row ∈ rows, w.row? row.dispatchPhid = some row ∧ row.status = .queued)
    (hnodup : (rows.map (·.dispatchPhid)).Nodup) :
    ((claimRows filter inFlight now rows claimed).run w).1 =
      .ok (claimed ++ rows.map (ClaimQueue.started now)) := by
  induction rows generalizing claimed w with
  | nil => simp [claimRows]
  | cons row rows ih =>
    obtain ⟨hrow, hqueued⟩ := hrows row (by simp)
    rw [List.map_cons, List.nodup_cons] at hnodup
    let u := UpdateStmt.runClaim ⟨filter, inFlight, claimed.length⟩ row.dispatchPhid
      (row.attemptCount + 1) now
    have hrefused : w.table.updateRefused u.toUpdate = false := claim_not_refused _ _ _ _ w
    have hguard : u.guard row := by simp [u, UpdateStmt.guard, hqueued]
    have hcount : w.table.rowCount u.toUpdate ≠ 0 := by
      intro hzero
      have hfalse : u.guard row = false := Table.rowCount_eq_zero.mp hzero row hrow
      rw [hguard] at hfalse
      cases hfalse
    have hset : World.row? (Stmt.effect (.update u) w) row.dispatchPhid = some (u.set row) :=
      UpdateStmt.row?_effect_self hrow hguard hrefused
    rw [claimRows, Program.bind_eq, Program.run_bind_ok (execUpdate_run hrefused), if_neg hcount,
      Program.bind_eq, Program.run_bind_ok (getByPhid_run _ _), hset]
    have hrest : ∀ r ∈ rows, World.row? (Stmt.effect .select (Stmt.effect (.update u) w))
        r.dispatchPhid = some r ∧ r.status = .queued := by
      intro r hr
      have hne : row.dispatchPhid ≠ r.dispatchPhid := fun he =>
        hnodup.1 (List.mem_map.mpr ⟨r, hr, he.symm⟩)
      obtain ⟨hstands, hs⟩ := hrows r (List.mem_cons_of_mem _ hr)
      exact ⟨(Table.get?_update_ne hne).trans hstands, hs⟩
    change ((claimRows filter inFlight now rows (claimed ++ [rowToDoc (u.set row)])).run _).1 = _
    rw [ih _ hrest hnodup.2, List.append_assoc]
    rfl

namespace ClaimQueue
variable (queue : ClaimQueue)

variable {w : World}

theorem steady_at (h : w.env = queue.world.env) (phid : String) : (pendingDependencies phid).run w =
      (.ok (queue.held phid), Stmt.effect (.pendingDependencies phid) w) := by
  change (Except.ok (w.env.pendingDependencies w.step phid), _) = _
  rw [h, queue.steady]
  rfl

theorem graphFilteredRows_run (h : w.env = queue.world.env) (rows : List Row) :
    ∃ w', (graphFilteredRows rows).run w = (.ok (rows.filter queue.free), w') ∧
      w'.table = w.table := by
  induction rows generalizing w with
  | nil => exact ⟨w, rfl, rfl⟩
  | cons row rows ih =>
    obtain ⟨w', hrest, htable⟩ := ih (w := Stmt.effect (.pendingDependencies row.dispatchPhid) w) h
    refine ⟨w', ?_, htable⟩
    rw [graphFilteredRows, Program.bind_eq, Program.run_bind_ok (queue.steady_at h _),
      Program.bind_eq, Program.run_bind_ok hrest, List.filter_cons, free]
    cases queue.held row.dispatchPhid <;> rfl

theorem claimEligible_run (henv : w.env = queue.world.env)
    (htable : w.table = queue.world.table) (inFlight : Nat) (limit : Int) :
    ((claimEligible filter inFlight limit (queue.now filter)).run w).1 =
      .ok (((limitTo limit (queue.due filter)).filter queue.free).map
        (started (queue.now filter))) := by
  rw [claimEligible]
  by_cases hzero : limit = 0
  · simp [hzero, limitTo]
  · rw [if_neg hzero, Program.bind_eq]
    change ((Program.bind (graphFilteredRows (limitTo limit (orderBy claimOrder
      (w.table.rows.filter (eligible filter (queue.now filter)))))) _).run
        (Stmt.effect .select w)).1 = _
    rw [htable]
    change ((Program.bind (graphFilteredRows (limitTo limit (queue.due filter))) _).run _).1 = _
    obtain ⟨w', hrun, htable'⟩ := queue.graphFilteredRows_run
      (w := Stmt.effect .select w) henv (limitTo limit (queue.due filter))
    rw [Program.run_bind_ok hrun]
    have hsub : ((limitTo limit (queue.due filter)).filter queue.free).Sublist (queue.due filter) :=
      List.filter_sublist.trans (limitTo_sublist _ _)
    have hperm : (queue.due filter).Perm (queue.rows.filter (eligible filter (queue.now filter))) :=
      orderBy_perm _ _
    apply (claimRows_run [] _ _).trans
    · rw [List.nil_append]
    · intro row hrow
      obtain ⟨hmem, heligible⟩ := List.mem_filter.mp (hperm.subset (hsub.subset hrow))
      refine ⟨?_, by simp_all [eligible]⟩
      rw [World.row?_congr (htable'.trans htable)]
      exact World.row?_of_mem hmem
    · have hnodup : ((queue.due filter).map (·.dispatchPhid)).Nodup := by
        rw [(hperm.map _).nodup_iff]
        exact queue.world.nodup_phids.sublist (List.filter_sublist.map _)
      exact hnodup.sublist (hsub.map _)

theorem runClaim_run : ((runClaim filter).run queue.world).1 =
    .ok (((limitTo (queue.slots filter) (queue.due filter)).filter queue.free).map
      (started (queue.now filter))) := by
  have hnow : ∃ w, (filter.now.elim nowFn .ret).run queue.world = (.ok (queue.now filter), w) ∧
      w.env = queue.world.env ∧ w.table = queue.world.table := by
    rw [now]
    cases filter.now with
    | none => exact ⟨Stmt.effect .now queue.world, rfl, rfl, rfl⟩
    | some at_ => exact ⟨queue.world, rfl, rfl, rfl⟩
  obtain ⟨w, hrun, henv, htable⟩ := hnow
  rw [runClaim, Program.bind_eq, Program.run_bind_ok hrun]
  cases hmax : filter.maxInFlight with
  | none =>
    simp only [slots, hmax]
    exact queue.claimEligible_run henv htable _ _
  | some maxInFlight =>
    simp only [slots, hmax]
    change ((claimEligible filter (laneInFlight _ _ w.table.rows) (min _ (max 0 (maxInFlight -
      laneInFlight _ _ w.table.rows))) _).run (Stmt.effect .select w)).1 = _
    rw [htable]
    exact queue.claimEligible_run (w := Stmt.effect .select w) henv htable _ _

theorem orderBy_filter {rows : List Row} (p : Row → Bool) (h : (rows.map (·.dispatchPhid)).Nodup) :
    orderBy claimOrder (rows.filter p) = (orderBy claimOrder rows).filter p := by
  apply Selection.insertionSort_filter
  intro a ha b hb hab hba
  exact List.inj_on_of_nodup_map h ha hb (claimOrder_antisymm hab hba)

theorem claimable_order (filter : QueueEligibleFilter) :
    orderBy claimOrder (queue.rows.filter (queue.claimable filter)) =
      (queue.due filter).filter queue.free := by
  have hclaimable : queue.rows.filter (queue.claimable filter) =
      (queue.rows.filter (eligible filter (queue.now filter))).filter queue.free := by
    rw [List.filter_filter]
    apply List.filter_congr
    intro row _
    rw [claimable, eligible, Bool.and_comm (queue.free row)]
  rw [hclaimable, due]
  apply orderBy_filter
  exact queue.world.nodup_phids.sublist (List.filter_sublist.map _)

theorem eq_of_started {now : Instant} {as bs : List Row} (has : as ⊆ queue.rows)
    (hbs : bs ⊆ queue.rows) (h : as.map (started now) = bs.map (started now)) : as = bs := by
  induction as generalizing bs with
  | nil => exact (List.map_eq_nil_iff.mp h.symm).symm
  | cons a as ih =>
    cases bs with
    | nil => cases h
    | cons b bs =>
      rw [List.map_cons, List.map_cons, List.cons.injEq] at h
      obtain ⟨hab, hrest⟩ := h
      have hphid : (started now a).dispatchPhid = (started now b).dispatchPhid := by rw [hab]
      obtain rfl : a = b := Table.eq_of_key (has (by simp)) (hbs (by simp)) hphid
      rw [ih (fun r hr => has (by simp [hr])) (fun r hr => hbs (by simp [hr])) hrest]

theorem due_subset (filter : QueueEligibleFilter) : queue.due filter ⊆ queue.rows :=
  fun _ hr => List.mem_of_mem_filter ((orderBy_perm _ _).subset hr)

/-- A call claims the reference selection exactly when no held dispatch takes up one of its slots
while a claimable one waits behind. -/
theorem claimsSelection_iff (queue : ClaimQueue) (filter : QueueEligibleFilter) :
    queue.ClaimsSelection filter ↔ queue.UnobstructedBy filter := by
  have hrows : queue.ClaimsSelection filter ↔
      (limitTo (queue.slots filter) (queue.due filter)).filter queue.free =
        ((queue.due filter).filter queue.free).take (queue.slots filter).toNat := by
    rw [ClaimsSelection, selection, runClaim_run, claimable_order, Except.ok.injEq]
    constructor
    · apply queue.eq_of_started
      · exact fun _ hr => queue.due_subset filter
          ((limitTo_sublist _ _).subset (List.mem_of_mem_filter hr))
      · exact fun _ hr => queue.due_subset filter (List.mem_of_mem_filter (List.mem_of_mem_take hr))
    · exact congrArg _
  rw [hrows, UnobstructedBy]
  by_cases hslots : 0 ≤ queue.slots filter
  · rw [limitTo, if_neg (by omega), Selection.filter_take_eq_iff]
    simp only [hslots, true_and]
  · -- a negative limit is none to SQLite
    have hzero : (queue.slots filter).toNat = 0 := by omega
    rw [limitTo, if_pos (by omega), hzero, List.take_zero, List.drop_zero]
    simp only [hslots, false_and, false_or, List.filter_eq_nil_iff, Bool.not_eq_true]

def obstructed : ClaimQueue where
  world := .start [{ freshRow "held" with priority := 9 }, freshRow "ready"]
    { Environment.quiet with pendingDependencies := fun _ phid => phid = "held" }
  held phid := phid = "held"
  steady _ _ := rfl

theorem obstructed_claims_nothing :
    ((runClaim { limit := some 1 }).run obstructed.world).1.toOption.map
        (·.map (·.dispatchPhid)) = some [] ∧
      (obstructed.selection { limit := some 1 }).map (·.dispatchPhid) = ["ready"] := by
  decide +kernel

theorem not_claimsSelection : ¬ obstructed.ClaimsSelection { limit := some 1 } := by
  intro h
  obtain ⟨hrun, hready⟩ := obstructed_claims_nothing
  rw [h] at hrun
  simp only [Except.toOption, Option.map_some, List.map_map, Option.some.injEq,
    List.map_eq_nil_iff] at hrun
  rw [hrun] at hready
  cases hready

end ClaimQueue

end IdAgents
