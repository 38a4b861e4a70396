import Mathlib.Tactic.IntervalCases
import IdAgents.Orchestration.FleshGate
import IdAgents.Orchestration.LifecycleSteps

namespace IdAgents.Orchestration
open JsText JsMap KeyedTable AtomicProgram

def World.blocked (w : World) : List BacklogRow :=
  orderBy (fun a b => compare a.itemId b.itemId) (w.backlog.rows.filter (·.isBlocked))

def LifecycleOptions.cap (opts : LifecycleOptions) : Nat := (max 1 (min 100 opts.maxActions)).toNat

structure LifecycleRun where
  opts : LifecycleOptions
  start : World
  live : opts.dryRun = false
  named : trim opts.actor ≠ ""
  written : ∀ step, start.env.fails step = false
  steady : ∀ step phid, start.env.reliabilityClassification step phid =
    start.env.reliabilityClassification 0 phid

namespace LifecycleRun
section
variable (run : LifecycleRun)

def cap : Nat := run.opts.cap

def world (run : LifecycleRun) : Nat → World
  | 0 => run.start
  | k + 1 => ((runBoundedLifecycleReconciliationCycle run.opts).run (run.world k)).2

/-- What cycle `k` answers. -/
def receipts (k : Nat) : Except String (List LifecycleReconciliationActionReceipt) :=
  ((runBoundedLifecycleReconciliationCycle run.opts).run (run.world k)).1

def classified (row : BacklogRow) : ClassifiedItem :=
  Orchestration.classified (Stmt.dispatches run.start) row

/-- Cycle `k` acts on the row. -/
def ActsOn (k : Nat) (itemId : String) : Prop :=
  ∃ receipts, run.receipts k = .ok receipts ∧
    ∃ receipt ∈ receipts, receipt.itemId = itemId ∧ receipt.action ≠ .hold

def cycles : Nat :=
  (run.start.backlog.rows.countP (·.isBlocked) + run.cap - 1) / run.cap

def ActsOnAll : Prop :=
  ∀ row ∈ run.start.backlog.rows, row.isBlocked → (run.classified row).action ≠ .hold →
    ∃ k < run.cycles, run.ActsOn k row.itemId

def stays (row : BacklogRow) : Bool :=
  !leaves run.opts (Stmt.dispatches run.start) row

end

def looked (run : LifecycleRun) : Nat → Nat
  | 0 => 0
  | k + 1 => run.looked k + (run.cap - (run.start.blocked.take (run.looked k)).countP run.stays)

structure Plain (run : LifecycleRun) : Prop where
  itemId : ∀ row ∈ run.start.backlog.rows, trim row.itemId = row.itemId ∧ row.itemId ≠ ""
  phid : ∀ row ∈ run.start.backlog.rows, ∀ phid, row.lastDispatchPhid = some phid →
    trim phid = phid
  few : (run.start.backlog.rows.filter (·.readinessState = .ready)).length ≤ 500

end LifecycleRun

theorem LifecycleRun.dispatches_eq (run : LifecycleRun) (h : Follows run.start w) :
    Stmt.dispatches w = Stmt.dispatches run.start := by
  rw [Stmt.dispatches]
  rw [h.env, h.scheduler]
  apply List.map_congr_left
  intro row _
  rw [run.steady w.step, run.steady run.start.step]

abbrev inReport (a b : BacklogRow) : Prop := (compare a.itemId b.itemId).isLE = true

theorem eq_of_isLE {a b : String} (h : (compare a b).isLE) (h' : (compare b a).isLE) : a = b := by
  have hswap : compare b a = (compare a b).swap := Std.OrientedOrd.eq_swap
  rw [hswap] at h'
  apply Std.LawfulEqOrd.eq_of_compare
  revert h h'
  cases compare a b <;> decide

instance : Std.Total inReport where
  total a b := by
    have hswap : compare b.itemId a.itemId = (compare a.itemId b.itemId).swap :=
      Std.OrientedOrd.eq_swap
    simp only [inReport]
    rw [hswap]
    cases compare a.itemId b.itemId <;> decide

instance : IsTrans BacklogRow inReport where
  trans _ _ _ h h' := Std.TransOrd.isLE_trans h h'

theorem eq_of_inReport {l m : List BacklogRow} (hnodup : (l.map (·.itemId)).Nodup)
    (hl : l.Pairwise inReport) (hm : m.Pairwise inReport) (hperm : l.Perm m) : l = m := by
  apply hperm.eq_of_pairwise _ hl hm
  intro a b ha hb hab hba
  exact List.inj_on_of_nodup_map hnodup ha (hperm.mem_iff.mpr hb) (eq_of_isLE hab hba)

theorem orderBy_inReport (l : List BacklogRow) :
    (orderBy (fun a b => compare a.itemId b.itemId) l).Pairwise inReport :=
  List.pairwise_insertionSort inReport l

theorem orderBy_perm (order : BacklogRow → BacklogRow → Ordering) (l : List BacklogRow) :
    (orderBy order l).Perm l :=
  List.perm_insertionSort _ l

theorem nodup_filter {rows : List BacklogRow} (hnodup : (rows.map (·.itemId)).Nodup)
    (p : BacklogRow → Bool) : ((rows.filter p).map (·.itemId)).Nodup :=
  hnodup.sublist (List.filter_sublist.map _)

theorem classifyItem_eq {dispatches : List DispatchRow} {identifiers : List String}
    (hphid : row.lastDispatchPhid = some phid) (hne : phid ≠ "") (htrim : trim phid = phid)
    (hmem : phid ∈ identifiers) :
    classifyItem (outcomesOf dispatches identifiers) row = classified dispatches row := by
  have hgiven : (given row.lastDispatchPhid).toList = [phid] := by simp [hphid, given, hne]
  rw [classified, hgiven]
  simp only [classifyItem, hphid, Option.getD_some, outcomesOf_get? hmem htrim hne,
    outcomesOf_get? (List.mem_singleton_self phid) htrim hne]

def cycleCandidates (rows : List BacklogRow) : List BacklogRow :=
  (orderBy byPriority (rows.filter (·.readinessState = .ready))).take 500

theorem report_eq {rows : List BacklogRow} (hnodup : (rows.map (·.itemId)).Nodup)
    (dispatches : List DispatchRow) (hfew : (rows.filter (·.readinessState = .ready)).length ≤ 500)
    (hphid : ∀ row ∈ rows, ∀ phid, row.lastDispatchPhid = some phid → trim phid = phid) :
    buildDuplicateDispatchRetryClassificationReport (cycleCandidates rows)
        (outcomesOf dispatches ((cycleCandidates rows).filterMap (given ·.lastDispatchPhid))) =
      (orderBy (fun a b => compare a.itemId b.itemId) (rows.filter (·.isBlocked))).map
        (classified dispatches) := by
  have hcandidates : cycleCandidates rows =
      orderBy byPriority (rows.filter (·.readinessState = .ready)) := by
    apply List.take_of_length_le
    rw [(orderBy_perm _ _).length_eq]
    exact hfew
  have hperm : ((cycleCandidates rows).filter fun item =>
      (item.readinessState = .ready || item.readinessState = .needsReview) &&
        (given item.lastDispatchPhid).isSome && !item.retrySafe).Perm
      (rows.filter (·.isBlocked)) := by
    rw [hcandidates]
    apply ((orderBy_perm byPriority _).filter _).trans
    rw [List.filter_filter]
    apply List.Perm.of_eq
    apply List.filter_congr
    intro row _
    cases hready : decide (row.readinessState = .ready) <;> simp [BacklogRow.isBlocked, hready]
  have hsorted : orderBy (fun a b => compare a.itemId b.itemId)
      ((cycleCandidates rows).filter fun item =>
        (item.readinessState = .ready || item.readinessState = .needsReview) &&
          (given item.lastDispatchPhid).isSome && !item.retrySafe) =
      orderBy (fun a b => compare a.itemId b.itemId) (rows.filter (·.isBlocked)) := by
    apply eq_of_inReport _ (orderBy_inReport _) (orderBy_inReport _)
      ((orderBy_perm _ _).trans (hperm.trans (orderBy_perm _ _).symm))
    exact ((((orderBy_perm _ _).trans hperm).map _).nodup_iff).mpr (nodup_filter hnodup _)
  rw [buildDuplicateDispatchRetryClassificationReport, hsorted]
  apply List.map_congr_left
  intro row hrow
  rw [mem_orderBy, List.mem_filter] at hrow
  obtain ⟨hmem, hblocked⟩ := hrow
  obtain ⟨hready, ⟨phid, hsome, hne⟩, _⟩ := BacklogRow.isBlocked_iff.mp hblocked
  apply classifyItem_eq hsome hne (hphid row hmem phid hsome)
  rw [List.mem_filterMap]
  refine ⟨row, ?_, by simp [hsome, given, hne]⟩
  rw [hcandidates, mem_orderBy]
  exact List.mem_filter.mpr ⟨hmem, by simpa using hready⟩

def SteadyFrom (w : World) (dispatches : List DispatchRow) : Prop :=
  ∀ v, Follows w v → Stmt.dispatches v = dispatches

theorem SteadyFrom.next (h : SteadyFrom w dispatches) (hv : Follows w v) :
    SteadyFrom v dispatches :=
  fun u hu => h u (hv.trans hu)

variable {w : World}

theorem World.mem_blocked : row ∈ w.blocked ↔ w.row? row.itemId = some row ∧ row.isBlocked := by
  rw [World.blocked]
  rw [mem_orderBy, List.mem_filter]
  refine and_congr_left fun _ => ⟨World.row?_of_mem, fun h => (World.row?_mem h).1⟩

theorem World.blocked_nodup (w : World) : (w.blocked.map (·.itemId)).Nodup :=
  (((orderBy_perm _ _).map _).nodup_iff).mpr (nodup_filter w.backlog.key_nodup _)

theorem World.blocked_eq {v : World} (h : v.backlog = w.backlog) : v.blocked = w.blocked := by
  unfold World.blocked
  rw [h]

def LifecycleOptions.applyAll (opts : LifecycleOptions) (items : List ClassifiedItem) :
    Prog (List LifecycleReconciliationActionReceipt) :=
  (Program.fold items [] (lifecycleStep opts)).bind fun receipts =>
    appendDecisions.bind fun _ => .ret receipts

variable {opts : LifecycleOptions}

theorem cycle_run (hlive : opts.dryRun = false) (hsteady : SteadyFrom w dispatches)
    (hfew : (w.backlog.rows.filter (·.readinessState = .ready)).length ≤ 500)
    (hphid : ∀ row ∈ w.backlog.rows, ∀ phid, row.lastDispatchPhid = some phid → trim phid = phid) :
    ∃ v, v.backlog = w.backlog ∧ Follows w v ∧ (runBoundedLifecycleReconciliationCycle opts).run w =
        (opts.applyAll ((w.blocked.take opts.cap).map (classified dispatches))).run v := by
  have hlist : (listBacklogByState .ready).run w =
    (.ok (cycleCandidates w.backlog.rows), Stmt.effect .select w) := rfl
  obtain ⟨v, hrun, hbacklog, hfollows⟩ := getDispatchOutcomesByPhid_run
    ((cycleCandidates w.backlog.rows).filterMap (given ·.lastDispatchPhid)) (Stmt.effect .select w)
  refine ⟨v, hbacklog, Follows.trans (v := Stmt.effect .select w) ⟨rfl, rfl⟩ hfollows, ?_⟩
  rw [runBoundedLifecycleReconciliationCycle]
  rw [Program.run_bind_ok hlist, Program.run_bind_ok hrun,
    hsteady (Stmt.effect .select w) ⟨rfl, rfl⟩]
  dsimp only
  rw [report_eq w.backlog.key_nodup dispatches hfew hphid, hlive, List.map_take]
  rfl

def ReceiptsOf (items : List ClassifiedItem) (out : List LifecycleReconciliationActionReceipt) :
    Prop :=
  out.map (fun receipt => (receipt.itemId, receipt.action)) =
    items.map fun item => (item.itemId, item.action)

theorem fold_receipts (hlive : opts.dryRun = false)
    (items : List ClassifiedItem) (receipts : List LifecycleReconciliationActionReceipt) :
    Completes (Program.fold items receipts (lifecycleStep opts)) fun out =>
      ∃ later, out = receipts ++ later ∧ ReceiptsOf items later := by
  induction items generalizing receipts with
  | nil => exact .ret ⟨[], (List.append_nil _).symm, rfl⟩
  | cons item items ih =>
    have hstep : Completes (lifecycleStep opts receipts item) fun out =>
        ∃ receipt, ReceiptOf item receipt ∧ out = receipts ++ [receipt] :=
      (applyClassified_completes hlive item).bind fun receipt h => .ret ⟨receipt, h, rfl⟩
    apply hstep.bind
    rintro _ ⟨receipt, hreceipt, rfl⟩ w hwritten
    obtain ⟨out, v, hrun, ⟨later, hout, hlater⟩, hv⟩ := ih (receipts ++ [receipt]) w hwritten
    refine ⟨out, v, hrun, ⟨receipt :: later, ?_, ?_⟩, hv⟩
    · rw [hout, List.append_assoc]
      rfl
    · rw [ReceiptsOf]
      rw [List.map_cons, List.map_cons, hlater, hreceipt.1, hreceipt.2]

theorem applyAll_completes (hlive : opts.dryRun = false)
    (items : List ClassifiedItem) : Completes (opts.applyAll items) (ReceiptsOf items) := by
  apply (fold_receipts hlive items []).bind
  rintro _ ⟨later, rfl, hlater⟩
  exact Completes.appendDecisions.bind fun _ _ => .ret hlater

structure AllTurned (gone : BacklogRow → Bool) (rows : List BacklogRow) (w w' : World) : Prop
    extends Follows w w' where
  others : ∀ itemId, itemId ∉ rows.map (·.itemId) → w'.row? itemId = w.row? itemId
  turned : ∀ row ∈ rows, ∃ row', w'.row? row.itemId = some row' ∧ Turned row (gone row) row'

theorem fold_turned (hlive : opts.dryRun = false)
    (hactor : trim opts.actor ≠ "") (rows : List BacklogRow)
    (receipts : List LifecycleReconciliationActionReceipt)
    (hwritten : ∀ step, w.env.fails step = false) (hsteady : SteadyFrom w dispatches)
    (hnodup : (rows.map (·.itemId)).Nodup)
    (hrows : ∀ row ∈ rows, w.row? row.itemId = some row ∧ row.isBlocked)
    (hids : ∀ row ∈ rows, trim row.itemId = row.itemId ∧ row.itemId ≠ "") :
    ∃ out w', (Program.fold (rows.map (classified dispatches)) receipts
      (lifecycleStep opts)).run w = (.ok out, w') ∧
        AllTurned (leaves opts dispatches) rows w w' := by
  induction rows generalizing receipts w with
  | nil => exact ⟨receipts, w, rfl, .refl w, fun _ _ => rfl, fun _ h => absurd h List.not_mem_nil⟩
  | cons row rows ih =>
    rw [List.map_cons, List.nodup_cons] at hnodup
    obtain ⟨hfresh, hnodup⟩ := hnodup
    have hdispatches : Stmt.dispatches w = dispatches := hsteady w (.refl w)
    obtain ⟨hrow, hblocked⟩ := hrows row List.mem_cons_self
    obtain ⟨htrim, hid⟩ := hids row List.mem_cons_self
    have hends : Ends (lifecycleStep opts receipts (classified dispatches row)) row
        (leaves opts dispatches row) w := by
      have hsteady' : ∀ v, Follows w v → Stmt.dispatches v = Stmt.dispatches w :=
        fun v hv => (hsteady v hv).trans hdispatches.symm
      rw [← hdispatches]
      apply (applyClassified_ends hlive hactor hwritten hrow hblocked htrim hid hsteady').bind
      intro receipt v _
      exact ⟨_, v, rfl, rfl, .refl v⟩
    obtain ⟨receipts', v, hrun, honly, row', hrow', hturned⟩ := hends
    have hne : ∀ other ∈ rows, other.itemId ≠ row.itemId :=
      fun other hother h => hfresh (h ▸ List.mem_map_of_mem hother)
    obtain ⟨out, w', hrest, hall⟩ := ih receipts' (w := v)
      (by rw [honly.env]; exact hwritten) (hsteady.next honly.toFollows) hnodup
      (fun other hother => by
        rw [honly.others _ (hne other hother)]
        exact hrows other (List.mem_cons_of_mem _ hother))
      (fun other hother => hids other (List.mem_cons_of_mem _ hother))
    refine ⟨out, w', (Program.run_bind_ok hrun _).trans hrest,
      honly.toFollows.trans hall.toFollows, ?_, ?_⟩
    · intro itemId hitem
      rw [List.map_cons, List.mem_cons, not_or] at hitem
      rw [hall.others itemId hitem.2, honly.others itemId hitem.1]
    · intro other hother
      rcases List.mem_cons.mp hother with rfl | hother
      · exact ⟨row', (hall.others _ hfresh).trans hrow', hturned⟩
      · exact hall.turned other hother

def RowsKept (w w' : World) : Prop :=
  ∀ itemId row', w'.row? itemId = some row' → ∃ row, w.row? itemId = some row ∧
    row'.lastDispatchPhid = row.lastDispatchPhid ∧
    (row'.readinessState = .ready → row.readinessState = .ready)

theorem RowsKept.refl (w : World) : RowsKept w w := fun _ row h => ⟨row, h, rfl, id⟩

theorem RowsKept.trans (h : RowsKept w v) (h' : RowsKept v u) : RowsKept w u := by
  intro itemId row'' hrow''
  obtain ⟨row', hrow', hphid', hready'⟩ := h' itemId row'' hrow''
  obtain ⟨row, hrow, hphid, hready⟩ := h itemId row' hrow'
  exact ⟨row, hrow, hphid'.trans hphid, fun hr => hready (hready' hr)⟩

theorem RowsKept.phid (h : RowsKept w w')
    (hphid : ∀ row ∈ w.backlog.rows, ∀ phid, row.lastDispatchPhid = some phid → trim phid = phid) :
    ∀ row ∈ w'.backlog.rows, ∀ phid, row.lastDispatchPhid = some phid → trim phid = phid := by
  intro row' hmem phid hsome
  obtain ⟨row, hrow, hsame, _⟩ := h _ _ (World.row?_of_mem hmem)
  exact hphid row (World.row?_mem hrow).1 phid (hsame ▸ hsome)

theorem RowsKept.ready_le (h : RowsKept w w') :
    (w'.backlog.rows.filter (·.readinessState = .ready)).length ≤
      (w.backlog.rows.filter (·.readinessState = .ready)).length := by
  have hsub : (w'.backlog.rows.filter (·.readinessState = .ready)).map (·.itemId) ⊆
      (w.backlog.rows.filter (·.readinessState = .ready)).map (·.itemId) := by
    intro itemId hitem
    obtain ⟨row', hrow', rfl⟩ := List.mem_map.mp hitem
    rw [List.mem_filter, decide_eq_true_eq] at hrow'
    obtain ⟨row, hrow, _, hready⟩ := h _ _ (World.row?_of_mem hrow'.1)
    obtain ⟨hmem, hid⟩ := World.row?_mem hrow
    rw [← hid]
    apply List.mem_map_of_mem
    exact List.mem_filter.mpr ⟨hmem, decide_eq_true (hready hrow'.2)⟩
  have hle := (List.subperm_of_subset (nodup_filter w'.backlog.key_nodup _) hsub).length_le
  rwa [List.length_map, List.length_map] at hle

theorem AllTurned.kept (h : AllTurned gone rows w w')
    (hrows : ∀ row ∈ rows, w.row? row.itemId = some row) : RowsKept w w' := by
  intro itemId row' hrow'
  by_cases hmem : itemId ∈ rows.map (·.itemId)
  · obtain ⟨row, hrow, rfl⟩ := List.mem_map.mp hmem
    obtain ⟨row'', hrow'', hturned⟩ := h.turned row hrow
    obtain rfl : row' = row'' := Option.some_inj.mp (hrow'.symm.trans hrow'')
    refine ⟨row, hrows row hrow, ?_⟩
    generalize gone row = left at hturned
    cases hturned with
    | left hleft => exact ⟨hleft.phid, hleft.ready⟩
    | stays => exact ⟨rfl, id⟩
  · rw [h.others itemId hmem] at hrow'
    exact ⟨row', hrow', rfl, id⟩

theorem AllTurned.blocked (h : AllTurned gone (w.blocked.take n) w w') :
    w'.blocked = (w.blocked.take n).filter (!gone ·) ++ w.blocked.drop n := by
  have hids : ((w.blocked.take n).map (·.itemId) ++ (w.blocked.drop n).map (·.itemId)).Nodup := by
    rw [← List.map_append, List.take_append_drop]
    exact w.blocked_nodup
  obtain ⟨_, _, hdisjoint⟩ := List.nodup_append.mp hids
  have hsublist : ((w.blocked.take n).filter (!gone ·) ++ w.blocked.drop n).Sublist w.blocked := by
    conv_rhs => rw [← List.take_append_drop n w.blocked]
    exact List.filter_sublist.append_right _
  have hmem : ∀ row, row ∈ w'.blocked ↔
      row ∈ (w.blocked.take n).filter (!gone ·) ++ w.blocked.drop n := by
    intro row
    rw [World.mem_blocked, List.mem_append, List.mem_filter]
    constructor
    · rintro ⟨hrow, hblocked⟩
      by_cases hin : row.itemId ∈ (w.blocked.take n).map (·.itemId)
      · obtain ⟨before, hbefore, hid⟩ := List.mem_map.mp hin
        obtain ⟨row', hrow', hturned⟩ := h.turned before hbefore
        rw [hid] at hrow'
        obtain rfl : row = row' := Option.some_inj.mp (hrow.symm.trans hrow')
        generalize hgone : gone before = left at hturned
        cases hturned with
        | left hleft =>
          rw [hleft.left] at hblocked
          cases hblocked
        | stays => exact .inl ⟨hbefore, by rw [hgone]; rfl⟩
      · rw [h.others _ hin] at hrow
        have hboth : row ∈ w.blocked.take n ++ w.blocked.drop n := by
          rw [List.take_append_drop]
          exact World.mem_blocked.mpr ⟨hrow, hblocked⟩
        exact .inr ((List.mem_append.mp hboth).resolve_left
          fun htake => hin (List.mem_map_of_mem htake))
    · rintro (⟨hrow, hstays⟩ | hrow)
      · obtain ⟨row', hrow', hturned⟩ := h.turned row hrow
        rw [Bool.not_eq_true'] at hstays
        rw [hstays] at hturned
        cases hturned
        exact ⟨hrow', (World.mem_blocked.mp (List.mem_of_mem_take hrow)).2⟩
      · have hout : row.itemId ∉ (w.blocked.take n).map (·.itemId) :=
          fun hin => hdisjoint _ hin _ (List.mem_map_of_mem hrow) rfl
        rw [h.others _ hout]
        exact World.mem_blocked.mp (List.mem_of_mem_drop hrow)
  have hnodup := w.blocked_nodup.sublist (hsublist.map (·.itemId))
  apply eq_of_inReport w'.blocked_nodup (orderBy_inReport _)
    ((orderBy_inReport _).sublist hsublist)
  exact (List.perm_ext_iff_of_nodup (.of_map _ w'.blocked_nodup) (.of_map _ hnodup)).mpr hmem

namespace LifecycleRun

structure Reaches (run : LifecycleRun) (w : World) : Prop where
  follows : Follows run.start w
  kept : RowsKept run.start w

namespace Reaches
variable {run : LifecycleRun} {w : World}

theorem written (h : run.Reaches w) (step : Nat) : w.env.fails step = false := by
  rw [h.follows.env]
  exact run.written step

theorem steadyFrom (h : run.Reaches w) : SteadyFrom w (Stmt.dispatches run.start) :=
  fun _ hv => run.dispatches_eq (h.follows.trans hv)

theorem cycle_run (h : run.Reaches w) (hplain : run.Plain) :
    ∃ v, v.backlog = w.backlog ∧ Follows w v ∧
      (runBoundedLifecycleReconciliationCycle run.opts).run w =
        (run.opts.applyAll ((w.blocked.take run.cap).map run.classified)).run v :=
  Orchestration.cycle_run run.live h.steadyFrom (h.kept.ready_le.trans hplain.few)
    (h.kept.phid hplain.phid)

theorem itemId (h : run.Reaches w) (hplain : run.Plain) (hrow : row ∈ w.blocked) :
    trim row.itemId = row.itemId ∧ row.itemId ≠ "" := by
  obtain ⟨first, hfirst, _⟩ := h.kept _ _ (World.mem_blocked.mp hrow).1
  obtain ⟨hmem, hid⟩ := World.row?_mem hfirst
  rw [← hid]
  exact hplain.itemId first hmem

end Reaches

variable {run : LifecycleRun}

theorem actsOn_iff (hplain : run.Plain)
    (hreaches : run.Reaches (run.world k)) : run.ActsOn k itemId ↔
      ∃ row ∈ (run.world k).blocked.take run.cap, row.itemId = itemId ∧
        (run.classified row).action ≠ .hold := by
  obtain ⟨v, _, hv, hrun⟩ := hreaches.cycle_run hplain
  have hwritten : ∀ step, v.env.fails step = false := by
    rw [hv.env]
    exact hreaches.written
  obtain ⟨receipts, u, hall, hreceipts, _⟩ := applyAll_completes run.live
    (((run.world k).blocked.take run.cap).map run.classified) v hwritten
  have hanswer : run.receipts k = .ok receipts := by
    rw [LifecycleRun.receipts]
    rw [hrun, hall]
  have hshown (itemId : String) (action : LifecycleAction) :
      (∃ receipt ∈ receipts, receipt.itemId = itemId ∧ receipt.action = action) ↔
        ∃ row ∈ (run.world k).blocked.take run.cap, row.itemId = itemId ∧
          (run.classified row).action = action := by
    have hpair : (itemId, action) ∈ receipts.map (fun r => (r.itemId, r.action)) ↔
        (itemId, action) ∈ (((run.world k).blocked.take run.cap).map run.classified).map
          fun item => (item.itemId, item.action) := by rw [hreceipts]
    simp only [List.map_map, List.mem_map, Prod.mk.injEq, Function.comp] at hpair
    exact hpair
  constructor
  · rintro ⟨_, hsome, receipt, hmem, hid, hact⟩
    rw [hanswer] at hsome
    cases hsome
    obtain ⟨row, hrow, hid', haction⟩ := (hshown itemId receipt.action).mp ⟨receipt, hmem, hid, rfl⟩
    exact ⟨row, hrow, hid', haction ▸ hact⟩
  · rintro ⟨row, hrow, hid, hact⟩
    obtain ⟨receipt, hmem, hid', haction⟩ :=
      (hshown itemId (run.classified row).action).mpr ⟨row, hrow, hid, rfl⟩
    exact ⟨receipts, hanswer, receipt, hmem, hid', haction ▸ hact⟩

theorem world_next (hplain : run.Plain)
    (hreaches : run.Reaches (run.world k)) : run.Reaches (run.world (k + 1)) ∧
      (run.world (k + 1)).blocked = ((run.world k).blocked.take run.cap).filter run.stays ++
        (run.world k).blocked.drop run.cap := by
  obtain ⟨v, hbacklog, hv, hrun⟩ := hreaches.cycle_run hplain
  have hwritten : ∀ step, v.env.fails step = false := by
    rw [hv.env]
    exact hreaches.written
  have hblocked : v.blocked = (run.world k).blocked := World.blocked_eq hbacklog
  have hreached : run.Reaches v := by
    refine ⟨hreaches.follows.trans hv, ?_⟩
    intro itemId row hrow
    unfold World.row? at hrow
    rw [hbacklog] at hrow
    exact hreaches.kept itemId row hrow
  have htaken : ∀ row ∈ v.blocked.take run.cap, v.row? row.itemId = some row ∧ row.isBlocked :=
    fun row hrow => World.mem_blocked.mp (List.mem_of_mem_take hrow)
  rw [← hblocked] at hrun
  obtain ⟨receipts, u, hfold, hturned⟩ := fold_turned run.live run.named
    (v.blocked.take run.cap) [] hwritten hreached.steadyFrom
    (v.blocked_nodup.sublist ((List.take_sublist _ _).map _)) htaken
    (fun row hrow => hreached.itemId hplain (List.mem_of_mem_take hrow))
  obtain ⟨_, w', hdecisions, _, hw'⟩ := Completes.appendDecisions u (by
    rw [hturned.env]
    exact hwritten)
  have hlast : w'.backlog = u.backlog := by
    have hstmt : (Orchestration.appendDecisions.run u).2 = Stmt.effect .appendDecisions u := by
      change ((returned (Stmt.answer .appendDecisions u)).run _).2 = _
      cases Stmt.answer .appendDecisions u <;> rfl
    rw [hdecisions] at hstmt
    change w' = _ at hstmt
    rw [hstmt]
    rfl
  have hnext : run.world (k + 1) = w' := by
    have happly : (run.opts.applyAll ((v.blocked.take run.cap).map run.classified)).run v =
        (.ok receipts, w') := by
      rw [LifecycleOptions.applyAll]
      exact (Program.run_bind_ok hfold _).trans (Program.run_bind_ok hdecisions _)
    change ((runBoundedLifecycleReconciliationCycle run.opts).run (run.world k)).2 = _
    rw [hrun, happly]
  rw [hnext, World.blocked_eq hlast, hturned.blocked, hblocked]
  refine ⟨⟨(hreached.follows.trans hturned.toFollows).trans hw', ?_⟩, rfl⟩
  have hkept := hreached.kept.trans (hturned.kept fun row hrow => (htaken row hrow).1)
  intro itemId row hrow
  unfold World.row? at hrow
  rw [hlast] at hrow
  exact hkept itemId row hrow

theorem take_stayed {l : List BacklogRow} {p : BacklogRow → Bool} (x c : Nat) :
    ((l.take x).filter p ++ l.drop x).take c =
      ((l.take x).filter p).take c ++ (l.drop x).take (c - (l.take x).countP p) := by
  rw [List.take_append, List.countP_eq_length_filter]

theorem next_stayed {l : List BacklogRow} {p : BacklogRow → Bool} (x c : Nat) :
    (((l.take x).filter p ++ l.drop x).take c).filter p ++
        ((l.take x).filter p ++ l.drop x).drop c =
      (l.take (x + (c - (l.take x).countP p))).filter p ++
        l.drop (x + (c - (l.take x).countP p)) := by
  have hfilter : (((l.take x).filter p).take c).filter p = ((l.take x).filter p).take c :=
    List.filter_eq_self.mpr fun row hrow => List.of_mem_filter (List.mem_of_mem_take hrow)
  rw [take_stayed, List.filter_append, hfilter, List.drop_append,
    ← List.countP_eq_length_filter, List.take_add, List.filter_append, ← List.drop_drop]
  rcases Nat.le_total c ((l.take x).countP p) with hc | hc
  · rw [Nat.sub_eq_zero_of_le hc]
    simp only [List.take_zero, List.filter_nil, List.append_nil, List.drop_zero]
    rw [← List.append_assoc, List.take_append_drop]
  · rw [List.countP_eq_length_filter] at hc
    rw [List.take_of_length_le hc, List.drop_of_length_le hc, List.nil_append]

theorem blocked_eq (hplain : run.Plain) (k : Nat) :
    run.Reaches (run.world k) ∧ (run.world k).blocked =
      (run.start.blocked.take (run.looked k)).filter run.stays ++
        run.start.blocked.drop (run.looked k) := by
  induction k with
  | zero => exact ⟨⟨.refl _, .refl _⟩, rfl⟩
  | succ k ih =>
    obtain ⟨hreaches, hblocked⟩ := ih
    obtain ⟨hreaches', hnext⟩ := world_next hplain hreaches
    rw [hblocked, next_stayed] at hnext
    exact ⟨hreaches', hnext⟩

theorem looked_mono (run : LifecycleRun) (h : k ≤ j) : run.looked k ≤ run.looked j :=
  monotone_nat_of_le_succ (f := run.looked) (fun _ => Nat.le_add_right _ _) h

theorem looked_of_taken (hplain : run.Plain) (hrow : row ∈ (run.world k).blocked.take run.cap) :
    row ∈ run.start.blocked.take (run.looked (k + 1)) := by
  rw [(blocked_eq hplain k).2, take_stayed, List.mem_append] at hrow
  change row ∈ run.start.blocked.take (run.looked k + _)
  rw [List.take_add, List.mem_append]
  rcases hrow with hstayed | hnew
  · exact .inl (List.mem_of_mem_filter (List.mem_of_mem_take hstayed))
  · exact .inr hnew

theorem taken_of_looked (hplain : run.Plain) (hrow : row ∈ run.start.blocked.take (run.looked n)) :
    ∃ k < n, row ∈ (run.world k).blocked.take run.cap := by
  induction n with
  | zero => exact absurd hrow List.not_mem_nil
  | succ n ih =>
    change row ∈ run.start.blocked.take (run.looked n + _) at hrow
    rw [List.take_add, List.mem_append] at hrow
    rcases hrow with hbefore | hnew
    · obtain ⟨k, hk, htaken⟩ := ih hbefore
      exact ⟨k, Nat.lt_succ_of_lt hk, htaken⟩
    · refine ⟨n, Nat.lt_succ_self n, ?_⟩
      rw [(blocked_eq hplain n).2, take_stayed]
      exact List.mem_append_right _ hnew

/-- Every row with an action has its turn exactly where all rows are held that the cycles do not
get to. -/
theorem actsOnAll_iff {run : LifecycleRun} (hplain : run.Plain) : run.ActsOnAll ↔
    ∀ row ∈ run.start.blocked.drop (run.looked run.cycles),
      (run.classified row).action = .hold := by
  constructor
  · intro hall row hrow
    by_contra haction
    obtain ⟨hmem, hblocked⟩ := World.mem_blocked.mp (List.mem_of_mem_drop hrow)
    obtain ⟨k, hk, hacts⟩ := hall row (World.row?_mem hmem).1 hblocked haction
    obtain ⟨taken, htaken, hid, _⟩ := (actsOn_iff hplain (blocked_eq hplain k).1).mp hacts
    have hids := run.start.blocked_nodup
    rw [← List.take_append_drop (run.looked run.cycles) run.start.blocked, List.map_append,
      List.nodup_append] at hids
    have hlooked : taken ∈ run.start.blocked.take (run.looked run.cycles) :=
      List.take_subset_take_left _ (run.looked_mono hk) (looked_of_taken hplain htaken)
    exact hids.2.2 _ (List.mem_map_of_mem hlooked) _ (List.mem_map_of_mem hrow) hid
  · intro hheld row hmem hblocked haction
    have hrow : row ∈ run.start.blocked := World.mem_blocked.mpr ⟨World.row?_of_mem hmem, hblocked⟩
    rw [← List.take_append_drop (run.looked run.cycles) run.start.blocked, List.mem_append] at hrow
    have hlooked := hrow.resolve_right fun hdrop => haction (hheld row hdrop)
    obtain ⟨k, hk, htaken⟩ := taken_of_looked hplain hlooked
    exact ⟨k, hk, (actsOn_iff hplain (blocked_eq hplain k).1).mpr ⟨row, htaken, rfl, haction⟩⟩

end LifecycleRun

def pointingRow (itemId phid : String) : BacklogRow :=
  { insertedRow { title := "t", readinessState := some .ready } itemId 0 with
    lastDispatchPhid := some phid }

/-- Cycles that take one row each, of a row `a` and a row `b` with the statuses of their
dispatches. -/
def oneAtATime (a b : SchedulerStatus) : LifecycleRun where
  opts := { actor := "reconciler", dryRun := false, maxActions := 1 }
  start := { World.holding [pointingRow "a" "phid:disp-1", pointingRow "b" "phid:disp-2"] with
    scheduler := .start [{ freshRow "phid:disp-1" with status := a },
      { freshRow "phid:disp-2" with status := b }] .quiet }
  live := rfl
  named := by decide
  written _ := rfl
  steady _ _ := rfl

theorem oneAtATime_actsOnAll : (oneAtATime .done .inFlight).ActsOnAll :=
  (LifecycleRun.actsOnAll_iff ⟨by decide +kernel, by decide +kernel, by decide +kernel⟩).mpr
    (by decide +kernel)

/-- A row that is held has the one place in every cycle. -/
theorem held_not_actsOnAll : ¬ (oneAtATime .inFlight .done).ActsOnAll := by
  intro hall
  obtain ⟨k, hk, receipts, hrun, receipt, hmem, hid, -⟩ :=
    hall (pointingRow "b" "phid:disp-2") (by decide) (by decide) (by decide +kernel)
  have hcycles : (oneAtATime .inFlight .done).cycles = 2 := by decide +kernel
  rw [hcycles] at hk
  have hids : ((oneAtATime .inFlight .done).receipts k).toOption.map (·.map (·.itemId)) =
      some ["a"] := by
    interval_cases k <;> decide +kernel
  rw [hrun] at hids
  have hrow : receipt.itemId ∈ ["a"] := Option.some_inj.mp hids ▸ List.mem_map_of_mem hmem
  rw [hid] at hrow
  exact absurd hrow (by decide)

end IdAgents.Orchestration
