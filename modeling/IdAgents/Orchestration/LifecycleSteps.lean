import Mathlib.Data.List.TakeWhile
import IdAgents.Orchestration.Lifecycle

namespace IdAgents.Orchestration
open JsText JsMap KeyedTable AtomicProgram List

section
variable (dispatches : List DispatchRow)

/-- The outcomes that `getDispatchOutcomesByPhid` keeps of the dispatches. -/
def outcomesOf (identifiers : List String) : Dict String DispatchOutcome :=
  let unique := (identifiers.map trim).filter (· ≠ "")
  (dispatches.filter fun row => (identifiersOf row).any unique.contains).foldl
    (fun outcomes row => ((identifiersOf row).filter (· ≠ "")).foldl
      (fun outcomes key => outcomes.set key (outcomeOf row)) outcomes) .empty

def BacklogRow.isBlocked (row : BacklogRow) : Bool :=
  row.readinessState = .ready && (given row.lastDispatchPhid).isSome && !row.retrySafe

def classified (row : BacklogRow) : ClassifiedItem :=
  classifyItem (outcomesOf dispatches (given row.lastDispatchPhid).toList) row

def ClassifiedItem.action (item : ClassifiedItem) : LifecycleAction :=
  if item.failureClass = .staleDuplicate && item.recommended = .close then .autoClose
  else if item.failureClass = .staleDuplicate && item.recommended = .supersede then .supersede
  else if item.failureClass = .retryableTransient && item.recommended = .markRetrySafe then
    .markRetrySafe
  else .hold

def leaves (opts : LifecycleOptions) (dispatches : List DispatchRow) (row : BacklogRow) : Bool :=
  match (classified dispatches row).action with
  | .hold => false
  | .markRetrySafe => (markRefusal row
      ((outcomesOf dispatches (given row.lastDispatchPhid).toList).get?
        (row.lastDispatchPhid.getD ""))).isOk
  | _ => (staleDisposition {
      dryRun := false, actor := opts.actor, itemId := row.itemId, maxRows := 1 }
      (joinDispatch dispatches row)).isSome

def lastOutcome (phid : String) : Option DispatchOutcome :=
  (dispatches.reverse.find? fun row => (identifiersOf row).contains phid).map outcomeOf

theorem get?_setAll (keys : List String) (outcome : DispatchOutcome)
    (outcomes : Dict String DispatchOutcome) (phid : String) :
    (keys.foldl (fun outcomes key => outcomes.set key outcome) outcomes).get? phid =
      if phid ∈ keys then some outcome else outcomes.get? phid := by
  induction keys generalizing outcomes with
  | nil => rfl
  | cons key keys ih =>
    rw [foldl_cons, ih]
    by_cases hmem : phid ∈ keys
    · rw [if_pos hmem, if_pos (mem_cons_of_mem _ hmem)]
    · rw [if_neg hmem, Dict.get?_set]
      by_cases hkey : phid = key
      · rw [if_pos hkey, if_pos (hkey ▸ mem_cons_self)]
      · rw [if_neg hkey, if_neg]
        intro h
        rcases mem_cons.mp h with h | h
        · exact hkey h
        · exact hmem h

theorem get?_outcomes (hphid : phid ≠ "") (outcomes : Dict String DispatchOutcome) :
    (dispatches.foldl (fun outcomes row => ((identifiersOf row).filter (· ≠ "")).foldl
      (fun outcomes key => outcomes.set key (outcomeOf row)) outcomes) outcomes).get? phid =
      (lastOutcome dispatches phid).or (outcomes.get? phid) := by
  induction dispatches generalizing outcomes with
  | nil => rfl
  | cons row rows ih =>
    rw [foldl_cons, ih, get?_setAll]
    unfold lastOutcome
    rw [reverse_cons, find?_append, Option.map_or, Option.or_assoc]
    congr 1
    have hfilter : phid ∈ (identifiersOf row).filter (· ≠ "") ↔ phid ∈ identifiersOf row := by
      simp [hphid]
    by_cases hmem : phid ∈ identifiersOf row
    · rw [if_pos (hfilter.mpr hmem)]
      simp [hmem]
    · rw [if_neg (fun h => hmem (hfilter.mp h))]
      simp [hmem]

theorem outcomesOf_get? {dispatches : List DispatchRow} {identifiers : List String}
    (hmem : phid ∈ identifiers) (htrim : trim phid = phid) (hphid : phid ≠ "") :
    (outcomesOf dispatches identifiers).get? phid = lastOutcome dispatches phid := by
  have hunique : ((identifiers.map trim).filter (· ≠ "")).contains phid := by
    rw [contains_iff_mem, mem_filter]
    refine ⟨mem_map.mpr ⟨phid, hmem, htrim⟩, by simpa using hphid⟩
  unfold outcomesOf
  dsimp only
  rw [get?_outcomes _ hphid, Dict.get?_empty, Option.or_none]
  rw [lastOutcome]
  rw [← filter_reverse, find?_filter]
  congr 2
  funext row
  by_cases h : (identifiersOf row).contains phid
  · have hany : (identifiersOf row).any
        ((identifiers.map trim).filter (· ≠ "")).contains :=
      any_eq_true.mpr ⟨phid, contains_iff_mem.mp h, hunique⟩
    simp only [h, hany, and_self, decide_true]
  · have hnot : phid ∉ identifiersOf row := fun hmem => h (contains_iff_mem.mpr hmem)
    simp [hnot]

structure Follows (w w' : World) : Prop where
  env : w'.env = w.env
  scheduler : w'.scheduler = w.scheduler

theorem Follows.refl (w : World) : Follows w w := ⟨rfl, rfl⟩

theorem Follows.trans (h : Follows w v) (h' : Follows v u) : Follows w u :=
  ⟨h'.env.trans h.env, h'.scheduler.trans h.scheduler⟩

structure Only (itemId : String) (w w' : World) : Prop extends Follows w w' where
  others : ∀ other, other ≠ itemId → w'.row? other = w.row? other

theorem Only.refl (itemId : String) (w : World) : Only itemId w w := ⟨.refl w, fun _ _ => rfl⟩

theorem Only.trans (h : Only itemId w v) (h' : Only itemId v u) : Only itemId w u :=
  ⟨h.toFollows.trans h'.toFollows,
    fun other hne => (h'.others other hne).trans (h.others other hne)⟩

theorem outcomesOf_nil {identifiers : List String}
    (h : ((identifiers.map trim).filter (· ≠ "")).isEmpty) :
    outcomesOf dispatches identifiers = .empty := by
  have hnil := isEmpty_iff.mp h
  unfold outcomesOf
  dsimp only
  rw [hnil]
  have hfilter : dispatches.filter
      (fun row => (identifiersOf row).any ([] : List String).contains) = [] := by simp
  rw [hfilter]
  rfl

end

theorem getDispatchOutcomesByPhid_run (identifiers : List String) (w : World) :
    ∃ w', (getDispatchOutcomesByPhid identifiers).run w =
        (.ok (outcomesOf (Stmt.dispatches w) identifiers), w') ∧
      w'.backlog = w.backlog ∧ Follows w w' := by
  by_cases h : ((identifiers.map trim).filter (· ≠ "")).isEmpty
  · refine ⟨w, ?_, rfl, .refl w⟩
    unfold getDispatchOutcomesByPhid
    dsimp only
    rw [if_pos h, outcomesOf_nil _ h]
    rfl
  · refine ⟨Stmt.effect .selectDispatches w, ?_, rfl, ⟨rfl, rfl⟩⟩
    unfold getDispatchOutcomesByPhid
    dsimp only
    rw [if_neg h]
    rfl

theorem filter_eq_singleton {rows : List BacklogRow} {p : BacklogRow → Bool}
    (hnodup : (rows.map (·.itemId)).Nodup) (hmem : row ∈ rows) (hrow : p row)
    (honly : ∀ other ∈ rows, p other → other.itemId = row.itemId) : rows.filter p = [row] := by
  induction rows with
  | nil => cases hmem
  | cons first rows ih =>
    rw [map_cons, nodup_cons] at hnodup
    have hrest : ∀ other ∈ rows, p other → other.itemId = row.itemId :=
      fun other hother => honly other (mem_cons_of_mem _ hother)
    rcases mem_cons.mp hmem with rfl | hmem
    · rw [filter_cons_of_pos hrow]
      have hnone : rows.filter p = [] := by
        rw [filter_eq_nil_iff]
        intro other hother hp
        exact hnodup.1 (hrest other hother hp ▸ mem_map_of_mem hother)
      rw [hnone]
    · rw [filter_cons_of_neg, ih hnodup.2 hmem hrest]
      intro hp
      apply hnodup.1
      rw [honly first mem_cons_self hp]
      exact mem_map_of_mem hmem

variable {w : World}

theorem rowCount_one {u : UpdateStmt} (hrow : w.row? u.itemId = some row)
    (hguard : u.guard row) : w.backlog.rowCount u.toUpdate = 1 := by
  obtain ⟨hmem, hid⟩ := World.row?_mem hrow
  have hhits : u.toUpdate.hits row := Bool.and_eq_true_iff.mpr ⟨decide_eq_true hid, hguard⟩
  have hone : w.backlog.rows.filter u.toUpdate.hits = [row] := by
    apply filter_eq_singleton w.backlog.key_nodup hmem hhits
    intro other _ hother
    exact (of_decide_eq_true (Bool.and_eq_true_iff.mp hother).1 : other.itemId = u.itemId).trans
      hid.symm
  rw [Table.rowCount]
  rw [countP_eq_length_filter, hone]
  rfl

theorem execUpdate_run {u : UpdateStmt} (hwritten : w.env.fails w.step = false)
    (hrow : w.row? u.itemId = some row) (hguard : u.guard row) :
    ∃ w', (execUpdate u).run w = (.ok 1, w') ∧ w'.row? u.itemId = some (u.set row) ∧
      Only u.itemId w w' := by
  have heffect : (Stmt.effect (.update u) w).backlog = w.backlog.update u.toUpdate := by
    simp only [Stmt.effect_backlog, Stmt.backlog, hwritten, Bool.false_eq_true, if_false]
  have hset : (w.backlog.update u.toUpdate).get? u.itemId = some (u.set row) :=
    Table.get?_update_self (u := u.toUpdate) hrow hguard
      (Table.not_refused_of_entry fun _ _ => rfl)
  refine ⟨Stmt.effect (.update u) w, ?_, ?_, ⟨rfl, rfl⟩, ?_⟩
  · have hanswer : Stmt.answer (.update u) w = Except.ok 1 := by
      change Stmt.written w (w.backlog.rowCount u.toUpdate) = _
      rw [Stmt.written]
      rw [hwritten, rowCount_one hrow hguard]
      rfl
    have hrun : (execUpdate u).run w = (returned (Stmt.answer (.update u) w)).run
      (Stmt.effect (.update u) w) := rfl
    rw [hrun, hanswer]
    rfl
  · unfold World.row?
    rw [heffect]
    exact hset
  · intro other hne
    unfold World.row?
    rw [heffect]
    exact Table.get?_update_ne (u := u.toUpdate) (Ne.symm hne)

def Completes (p : Prog α) (R : α → Prop) : Prop :=
  ∀ w : World, (∀ step, w.env.fails step = false) →
    ∃ a w', p.run w = (.ok a, w') ∧ R a ∧ Follows w w'

theorem Completes.ret {R : α → Prop} (h : R a) : Completes (.ret a) R :=
  fun w _ => ⟨a, w, rfl, h, .refl w⟩

variable {f : α → Prog β} {p : Prog α}

theorem Completes.bind {R : α → Prop} {T : β → Prop}
    (h : Completes p R) (hf : ∀ a, R a → Completes (f a) T) : Completes (p.bind f) T := by
  intro w hwritten
  obtain ⟨a, v, hrun, ha, hv⟩ := h w hwritten
  have hwritten' : ∀ step, v.env.fails step = false := by
    rw [hv.env]
    exact hwritten
  obtain ⟨b, u, hrun', hb, hu⟩ := hf a ha v hwritten'
  exact ⟨b, u, (Program.run_bind_ok hrun f).trans hrun', hb, hv.trans hu⟩

theorem Completes.fold {xs : List β} {body : α → β → Prog α} {J : α → Prop}
    (h : ∀ acc x, J acc → Completes (body acc x) J) (hacc : J acc) :
    Completes (Program.fold xs acc body) J := by
  induction xs generalizing acc with
  | nil => exact .ret hacc
  | cons x xs ih => exact (h acc x hacc).bind fun acc hacc => ih hacc

theorem Completes.issue (c : Stmt) (hquiet : ∀ w, (Stmt.effect c w).scheduler = w.scheduler) :
    Completes (issue c) fun _ => True :=
  fun w _ => ⟨Stmt.answer c w, Stmt.effect c w, rfl, trivial, rfl, hquiet w⟩

theorem Completes.execUpdate (u : UpdateStmt) : Completes (execUpdate u) fun _ => True := by
  intro w hwritten
  have hanswer : Stmt.answer (.update u) w = Except.ok (w.backlog.rowCount u.toUpdate) := by
    change Stmt.written w (w.backlog.rowCount u.toUpdate) = _
    rw [Stmt.written]
    rw [hwritten]
    rfl
  have hrun : (Orchestration.execUpdate u).run w = (returned (Stmt.answer (.update u) w)).run
    (Stmt.effect (.update u) w) := rfl
  rw [hanswer] at hrun
  exact ⟨_, _, hrun, trivial, rfl, rfl⟩

theorem Completes.appendDecisions : Completes appendDecisions fun _ => True := by
  intro w hwritten
  have hanswer : Stmt.answer .appendDecisions w = Except.ok () := by
    change Stmt.written w () = _
    rw [Stmt.written]
    rw [hwritten]
    rfl
  have hrun : Orchestration.appendDecisions.run w = (returned (Stmt.answer .appendDecisions w)).run
    (Stmt.effect .appendDecisions w) := rfl
  rw [hanswer] at hrun
  exact ⟨_, _, hrun, trivial, rfl, rfl⟩

theorem Completes.outcomes (identifiers : List String) :
    Completes (getDispatchOutcomesByPhid identifiers) fun _ => True := by
  intro w _
  obtain ⟨w', hrun, _, hfollows⟩ := getDispatchOutcomesByPhid_run identifiers w
  exact ⟨_, w', hrun, trivial, hfollows⟩

theorem Completes.getBacklogItem (itemId : String) :
    Completes (getBacklogItem itemId) fun _ => True :=
  (Completes.issue .select fun _ => rfl).bind fun _ _ => .ret trivial

theorem closeStaleRow_completes (opts : ReconcileStaleOptions) (closed : List StaleReadyItem)
    (row : DispatchedRow) : Completes (closeStaleRow opts closed row) fun _ => True := by
  rw [closeStaleRow]
  split
  · exact .ret trivial
  · apply (Completes.issue .now fun _ => rfl).bind
    intro now _
    dsimp only
    split
    · exact .ret trivial
    · exact (Completes.execUpdate _).bind fun _ _ => .ret trivial

theorem reconcileStale_completes (opts : ReconcileStaleOptions) :
    Completes (reconcileStaleAlreadyDispatchedReadyRows opts) fun _ => True :=
  (Completes.issue .selectWithDispatches fun _ => rfl).bind fun _ _ =>
    .fold (fun closed row _ => closeStaleRow_completes opts closed row) trivial

theorem markRetrySafe_completes (itemId actor reason : String) :
    Completes (markFailedDuplicateDispatchRetrySafe itemId actor reason) fun _ => True := by
  unfold markFailedDuplicateDispatchRetrySafe
  dsimp only
  split
  · exact .ret trivial
  split
  · exact .ret trivial
  apply (Completes.getBacklogItem itemId).bind
  intro item _
  cases item with
  | none => exact .ret trivial
  | some item =>
    dsimp only
    split
    · exact .ret trivial
    cases given item.lastDispatchPhid with
    | none => exact .ret trivial
    | some phid =>
      apply (Completes.outcomes [phid]).bind
      intro outcomes _
      cases markRefusal item (outcomes.get? phid) with
      | error refusal => exact .ret trivial
      | ok attempts =>
        apply (Completes.issue .now fun _ => rfl).bind
        intro now _
        apply (Completes.execUpdate _).bind
        intro rowCount _
        apply (Completes.getBacklogItem item.itemId).bind
        intro updated _
        cases updated.filter (·.retrySafe) with
        | none => exact .ret trivial
        | some updated => exact .ret trivial

def ReceiptOf (item : ClassifiedItem) (receipt : LifecycleReconciliationActionReceipt) : Prop :=
  receipt.itemId = item.itemId ∧ receipt.action = item.action

theorem applyClassified_completes (hlive : opts.dryRun = false) (item : ClassifiedItem) :
    Completes (applyClassified opts item) (ReceiptOf item) := by
  have hclose (action : LifecycleAction) (toState : ReadinessState)
      (haction : item.action = action) :
      Completes (closeClassified opts item action toState) (ReceiptOf item) :=
    (reconcileStale_completes _).bind fun _ _ => .ret ⟨rfl, haction.symm⟩
  rw [applyClassified]
  split
  · next h => exact hclose _ _ (if_pos h)
  next hnotClose =>
  split
  · next h => exact hclose _ _ ((if_neg hnotClose).trans (if_pos h))
  next hnotSupersede =>
  split
  · next h =>
    have haction : item.action = .markRetrySafe :=
      (if_neg hnotClose).trans ((if_neg hnotSupersede).trans (if_pos h))
    rw [hlive]
    exact (markRetrySafe_completes _ _ _).bind fun _ _ => .ret ⟨rfl, haction.symm⟩
  · next hnotMark =>
    have haction : item.action = .hold :=
      (if_neg hnotClose).trans ((if_neg hnotSupersede).trans (if_neg hnotMark))
    exact .ret ⟨rfl, haction.symm⟩

structure Left (row row' : BacklogRow) : Prop where
  phid : row'.lastDispatchPhid = row.lastDispatchPhid
  ready : row'.readinessState = .ready → row.readinessState = .ready
  left : row'.isBlocked = false

inductive Turned (row : BacklogRow) : Bool → BacklogRow → Prop where
  | left (h : Left row row') : Turned row true row'
  | stays : Turned row false row

def Ends (p : Prog α) (row : BacklogRow) (gone : Bool) (w : World) : Prop :=
  ∃ a w', p.run w = (.ok a, w') ∧ Only row.itemId w w' ∧
    ∃ row', w'.row? row.itemId = some row' ∧ Turned row gone row'

theorem Ends.ret (hrow : w.row? row.itemId = some row) : Ends (.ret a) row false w :=
  ⟨a, w, rfl, .refl _ w, row, hrow, .stays⟩

theorem BacklogRow.isBlocked_iff {row : BacklogRow} : row.isBlocked ↔
    row.readinessState = .ready ∧ (∃ phid, row.lastDispatchPhid = some phid ∧ phid ≠ "") ∧
      row.retrySafe = false := by
  cases hphid : row.lastDispatchPhid with
  | none => simp [BacklogRow.isBlocked, given, hphid]
  | some phid => simp [BacklogRow.isBlocked, given, hphid, Option.filter_some, and_assoc]

theorem staleDisposition_toState {opts : ReconcileStaleOptions} {row : DispatchedRow}
    (h : staleDisposition opts row = some stale) : stale.toState ≠ .ready := by
  rw [staleDisposition] at h
  dsimp only at h
  split at h
  · cases h
  split at h
  · cases h
  · cases h
    dsimp only
    split <;> decide

theorem closeStaleRow_ends (opts : ReconcileStaleOptions) (hlive : opts.dryRun = false)
    (closed : List StaleReadyItem) (hwritten : ∀ step, w.env.fails step = false)
    (hrow : w.row? row.itemId = some row) (hblocked : row.isBlocked)
    (dispatches : List DispatchRow) :
    Ends (closeStaleRow opts closed (joinDispatch dispatches row)) row
      (staleDisposition opts (joinDispatch dispatches row)).isSome w := by
  cases hstale : staleDisposition opts (joinDispatch dispatches row) with
  | none =>
    rw [closeStaleRow]
    rw [hstale]
    exact .ret hrow
  | some stale =>
    obtain ⟨hready, ⟨phid, hphid, _⟩, hsafe⟩ := BacklogRow.isBlocked_iff.mp hblocked
    let receipt := staleReceipt opts row stale (w.env.clock w.step)
    let u : UpdateStmt := .closeDuplicate row [.ready, .needsReview] stale.toState
      (closeoutSourceRefs (joinDispatch dispatches row)) receipt receipt.closedBy
      (w.env.clock w.step)
    have hguard : u.guard row := by
      change ([ReadinessState.ready, .needsReview].contains row.readinessState && !row.retrySafe &&
        decide (row.lastDispatchPhid = some (row.lastDispatchPhid.getD ""))) = true
      rw [hready, hsafe, hphid]
      simp
    obtain ⟨w', hrun, hset, honly⟩ := execUpdate_run (u := u) (w := Stmt.effect .now w)
      (hwritten _) hrow hguard
    refine ⟨closed ++ [⟨row.itemId, stale.toState⟩], w', ?_,
      ⟨⟨honly.env, honly.scheduler⟩, honly.others⟩, u.set row, hset, .left ?_⟩
    · have hbody : (closeStaleRow opts closed (joinDispatch dispatches row)).run w =
          ((execUpdate u).bind fun rowCount => Program.ret (if rowCount ≠ 1 then closed
            else closed ++ [⟨row.itemId, stale.toState⟩])).run (Stmt.effect .now w) := by
        rw [closeStaleRow]
        rw [hstale, hlive]
        rfl
      rw [hbody]
      exact Program.run_bind_ok hrun _
    · have hstate : (u.set row).readinessState = stale.toState := rfl
      refine ⟨rfl, fun h => absurd (hstate.symm.trans h) (staleDisposition_toState hstale), ?_⟩
      apply Bool.eq_false_iff.mpr
      intro h
      exact staleDisposition_toState hstale (BacklogRow.isBlocked_iff.mp h).1

theorem Only.of_follows (h : Follows w w') (hbacklog : w'.backlog = w.backlog) (itemId : String) :
    Only itemId w w' := by
  refine ⟨h, fun other _ => ?_⟩
  unfold World.row?
  rw [hbacklog]

theorem Ends.bind (h : Ends p row gone w)
    (hf : ∀ a w', p.run w = (.ok a, w') → ∃ b u, (f a).run w' = (.ok b, u) ∧
      u.backlog = w'.backlog ∧ Follows w' u) : Ends (p.bind f) row gone w := by
  obtain ⟨a, w', hrun, honly, row', hrow', hturned⟩ := h
  obtain ⟨b, u, hrun', hbacklog, hfollows⟩ := hf a w' hrun
  refine ⟨b, u, (Program.run_bind_ok hrun f).trans hrun',
    honly.trans (.of_follows hfollows hbacklog _), row', ?_, hturned⟩
  unfold World.row?
  rw [hbacklog]
  exact hrow'

theorem Ends.after {v : World} (hrun : p.run w = (.ok a, v))
    (hbacklog : v.backlog = w.backlog) (hfollows : Follows w v) (h : Ends (f a) row gone v) :
    Ends (p.bind f) row gone w := by
  obtain ⟨b, u, hrun', honly, hturned⟩ := h
  exact ⟨b, u, (Program.run_bind_ok hrun f).trans hrun',
    (Only.of_follows hfollows hbacklog _).trans honly, hturned⟩

theorem staleCandidates_one (hrow : w.row? row.itemId = some row)
    (hblocked : row.isBlocked) (htrim : trim row.itemId = row.itemId) (hid : row.itemId ≠ "")
    (actor : String) (dispatches : List DispatchRow) :
    staleCandidates { dryRun := false, actor := actor, itemId := row.itemId, maxRows := 1 }
      w.backlog.rows dispatches = [joinDispatch dispatches row] := by
  obtain ⟨hready, ⟨phid, hphid, _⟩, hsafe⟩ := BacklogRow.isBlocked_iff.mp hblocked
  have hgiven : given (some (trim row.itemId)) = some row.itemId := by
    simp [given, htrim, hid]
  have hlisted : w.backlog.rows.filter (fun other =>
      (given ((some row.itemId).map trim)).all (other.itemId = ·) &&
        (other.readinessState = .ready || other.readinessState = .needsReview) &&
        other.lastDispatchPhid.isSome && !other.retrySafe) = [row] := by
    apply filter_eq_singleton w.backlog.key_nodup (World.row?_mem hrow).1
    · simp [hgiven, hready, hphid, hsafe]
    · intro other _ hother
      simp only [Option.map_some, hgiven, Option.all_some, Bool.and_eq_true,
        decide_eq_true_eq] at hother
      exact hother.1.1.1
  rw [staleCandidates]
  dsimp only
  rw [hlisted]
  rfl

theorem reconcileStale_ends (hwritten : ∀ step, w.env.fails step = false)
    (hrow : w.row? row.itemId = some row) (hblocked : row.isBlocked)
    (htrim : trim row.itemId = row.itemId) (hid : row.itemId ≠ "") (actor : String) :
    Ends (reconcileStaleAlreadyDispatchedReadyRows {
      dryRun := false, actor := actor, itemId := row.itemId, maxRows := 1 }) row (staleDisposition {
        dryRun := false, actor := actor, itemId := row.itemId, maxRows := 1 }
        (joinDispatch (Stmt.dispatches w) row)).isSome w := by
  have hread : (issue .selectWithDispatches).run w =
    (.ok (w.backlog.rows, Stmt.dispatches w), Stmt.effect .selectWithDispatches w) := rfl
  apply Ends.after hread rfl ⟨rfl, rfl⟩
  dsimp only
  rw [staleCandidates_one hrow hblocked htrim hid]
  have hwritten' : ∀ step, (Stmt.effect .selectWithDispatches w).env.fails step = false := hwritten
  apply (closeStaleRow_ends _ rfl [] hwritten' hrow hblocked (Stmt.dispatches w)).bind
  intro closed w' _
  exact ⟨closed, w', rfl, rfl, .refl w'⟩

theorem getBacklogItem_run (itemId : String) (w : World) :
    (getBacklogItem itemId).run w = (.ok (w.row? itemId), Stmt.effect .select w) := rfl

theorem writeMark_ends (hwritten : ∀ step, w.env.fails step = false)
    (hrow : w.row? row.itemId = some row) (hblocked : row.isBlocked) (actor reason : String)
    (retryCount : Nat) : Ends (writeMark row actor reason retryCount) row true w := by
  obtain ⟨hready, ⟨phid, hphid, _⟩, hsafe⟩ := BacklogRow.isBlocked_iff.mp hblocked
  let u : UpdateStmt := .markRetrySafe row actor reason retryCount (w.env.clock w.step)
  have hguard : u.guard row := by
    change (decide (row.readinessState = .ready) &&
      decide (row.lastDispatchPhid = some (row.lastDispatchPhid.getD "")) && !row.retrySafe) = true
    rw [hready, hsafe, hphid]
    simp
  obtain ⟨w', hrun, hset, honly⟩ := execUpdate_run (u := u) (w := Stmt.effect .now w)
    (hwritten _) hrow hguard
  have hread : (issue .now).run w = (.ok (w.env.clock w.step), Stmt.effect .now w) := rfl
  apply Ends.after hread rfl ⟨rfl, rfl⟩
  have hends : Ends (execUpdate u) row true (Stmt.effect .now w) := by
    refine ⟨1, w', hrun, honly, u.set row, hset, .left ⟨rfl, fun _ => hready, ?_⟩⟩
    apply Bool.eq_false_iff.mpr
    intro h
    cases (BacklogRow.isBlocked_iff.mp h).2.2
  apply hends.bind
  intro rowCount v _
  rw [Program.run_bind_ok (getBacklogItem_run row.itemId v)]
  cases (v.row? row.itemId).filter (·.retrySafe) with
  | some updated => exact ⟨_, _, rfl, rfl, rfl, rfl⟩
  | none => exact ⟨_, _, rfl, rfl, rfl, rfl⟩

theorem trim_ne_of_mem {s : String} (hmem : c ∈ s.toList) (hc : isSpace c = false) :
    trim s ≠ "" := by
  intro htrim
  have hempty : trimChars s.toList = [] := by
    rw [← String.toList_ofList (l := trimChars s.toList)]
    exact congrArg String.toList htrim
  have hspaces : ∀ d ∈ s.toList.dropWhile isSpace, isSpace d := by
    intro d hd
    have hrev := dropWhile_eq_nil_iff.mp (reverse_eq_nil_iff.mp hempty)
    exact hrev d (mem_reverse.mpr hd)
  have hnil : s.toList.dropWhile isSpace = [] := by
    cases hrest : s.toList.dropWhile isSpace with
    | nil => rfl
    | cons d ds =>
      have hd := trimChars_head s.toList d (by rw [hrest]; rfl)
      rw [hspaces d (by rw [hrest]; exact mem_cons_self)] at hd
      cases hd
  rw [dropWhile_eq_nil_iff.mp hnil c hmem] at hc
  cases hc

theorem markRetrySafe_ends (hwritten : ∀ step, w.env.fails step = false)
    (hrow : w.row? row.itemId = some row) (hblocked : row.isBlocked) (hactor : trim actor ≠ "")
    (hreason : trim reason ≠ "")
    (hsteady : ∀ v, Follows w v → Stmt.dispatches v = Stmt.dispatches w) :
    Ends (markFailedDuplicateDispatchRetrySafe row.itemId actor reason) row
      (markRefusal row ((outcomesOf (Stmt.dispatches w) (given row.lastDispatchPhid).toList).get?
        (row.lastDispatchPhid.getD ""))).isOk w := by
  obtain ⟨hready, ⟨phid, hphid, hne⟩, hsafe⟩ := BacklogRow.isBlocked_iff.mp hblocked
  have hgiven : given row.lastDispatchPhid = some phid := by simp [hphid, given, hne]
  obtain ⟨v, hrun, hbacklog, hfollows⟩ :=
    getDispatchOutcomesByPhid_run [phid] (Stmt.effect .select w)
  have hrow' : v.row? row.itemId = some row := by
    unfold World.row?
    rw [hbacklog]
    exact hrow
  unfold markFailedDuplicateDispatchRetrySafe
  dsimp only
  rw [if_neg hactor, if_neg hreason]
  apply Ends.after (getBacklogItem_run row.itemId w) rfl ⟨rfl, rfl⟩
  rw [hrow]
  dsimp only
  rw [if_neg (not_not_intro hready), hgiven, hphid]
  apply Ends.after hrun hbacklog hfollows
  rw [hsteady (Stmt.effect .select w) ⟨rfl, rfl⟩]
  change Ends _ row (markRefusal row ((outcomesOf (Stmt.dispatches w) [phid]).get? phid)).isOk v
  cases markRefusal row ((outcomesOf (Stmt.dispatches w) [phid]).get? phid) with
  | error refusal => exact .ret hrow'
  | ok attempts =>
    have hwritten' : ∀ step, v.env.fails step = false := by
      rw [hfollows.env]
      exact hwritten
    exact writeMark_ends hwritten' hrow' hblocked _ _ _

theorem applyClassified_ends {opts : LifecycleOptions} (hlive : opts.dryRun = false)
    (hactor : trim opts.actor ≠ "") (hwritten : ∀ step, w.env.fails step = false)
    (hrow : w.row? row.itemId = some row) (hblocked : row.isBlocked)
    (htrim : trim row.itemId = row.itemId) (hid : row.itemId ≠ "")
    (hsteady : ∀ v, Follows w v → Stmt.dispatches v = Stmt.dispatches w) :
    Ends (applyClassified opts (classified (Stmt.dispatches w) row)) row
      (leaves opts (Stmt.dispatches w) row) w := by
  have hclose (action : LifecycleAction) (toState : ReadinessState) :
      Ends (closeClassified opts (classified (Stmt.dispatches w) row) action toState) row
        (staleDisposition {
          dryRun := false, actor := opts.actor, itemId := row.itemId, maxRows := 1 }
          (joinDispatch (Stmt.dispatches w) row)).isSome w := by
    rw [closeClassified]
    rw [hlive]
    apply (reconcileStale_ends hwritten hrow hblocked htrim hid opts.actor).bind
    intro closed v _
    exact ⟨_, v, rfl, rfl, .refl v⟩
  unfold leaves applyClassified
  split
  · next h =>
    have haction : (classified (Stmt.dispatches w) row).action = .autoClose := if_pos h
    rw [haction]
    exact hclose _ _
  next hnotClose =>
  split
  · next h =>
    have haction : (classified (Stmt.dispatches w) row).action = .supersede :=
      (if_neg hnotClose).trans (if_pos h)
    rw [haction]
    exact hclose _ _
  next hnotSupersede =>
  split
  · next h =>
    have haction : (classified (Stmt.dispatches w) row).action = .markRetrySafe :=
      (if_neg hnotClose).trans ((if_neg hnotSupersede).trans (if_pos h))
    rw [haction, hlive]
    have hreason : ∀ text : String, trim ("verified environmental failure: " ++ text) ≠ "" := by
      intro text
      apply trim_ne_of_mem (c := 'v')
      · rw [String.toList_append]
        exact mem_append_left _ (by decide)
      · decide
    apply (markRetrySafe_ends hwritten hrow hblocked hactor (hreason _) hsteady).bind
    intro result v _
    exact ⟨_, v, rfl, rfl, .refl v⟩
  · next hnotMark =>
    have haction : (classified (Stmt.dispatches w) row).action = .hold :=
      (if_neg hnotClose).trans ((if_neg hnotSupersede).trans (if_neg hnotMark))
    rw [haction]
    exact .ret hrow

end IdAgents.Orchestration
