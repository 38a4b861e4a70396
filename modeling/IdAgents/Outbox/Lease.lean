import IdAgents.Library.Wp
import IdAgents.Outbox.Worker

namespace IdAgents.Outbox
open JsText KeyedTable AtomicProgram List Program Table OutboxUpdate

def claims (p : String) (c : Stmt) (w : World) : Bool :=
  match c with
  | .update (.claim now workerId q) =>
    q = p && w.table.rowCount (OutboxUpdate.claim now workerId q).toUpdate ≠ 0
  | _ => false

/-- A batch alone in `w` claims the row of the operation `p`. -/
def Reclaims (worker : DispatchOperationOutboxWorker) (limit : Int) (w : World) (p : String) : Prop :=
  ∃ e ∈ (replayBatch worker limit).trace w, claims p e.stmt e.before

/-- Whether the row of the operation `p` has been claimed. -/
def claimMonitor (p : String) : Monitor sql World Bool where
  see g c w := g || claims p c w
  due _ _ _ := True

theorem claimMonitor_over (p : String) (g : Bool) (es : List (Event sql World)) :
    (claimMonitor p).over g es ↔ g ∨ ∃ e ∈ es, claims p e.stmt e.before := by
  induction es generalizing g with
  | nil => simp [Monitor.over]
  | cons e es ih =>
    have hstep := ih (g || claims p e.stmt e.before)
    simp only [Monitor.over, foldl_cons, claimMonitor] at hstep ⊢
    rw [hstep]
    simp [or_assoc]

variable {w : World}

theorem table_effect_ne (h : u.operationId ≠ p) :
    (Stmt.effect (.update u) w).table.get? p = w.table.get? p :=
  get?_update_ne h

def About (q : String) : Stmt → Prop
  | .update u => u.operationId = q
  | _ => True

theorem replayRow_about (worker : DispatchOperationOutboxWorker) (now : Instant)
    (report : ReplayReport) (row : OutboxRow) :
    (replayRow worker now report row).Meets (About row.operationId) fun _ => True := by
  refine ⟨rfl, fun (rowCount : Nat) => ?_⟩
  dsimp only [Program.bind]
  split
  · trivial
  · refine ⟨trivial, fun (result : Except String Unit) => ?_⟩
    cases result with
    | ok => exact ⟨trivial, fun _ => ⟨rfl, fun _ => trivial⟩⟩
    | error error =>
      refine ⟨trivial, fun _ => ?_⟩
      dsimp only [Program.bind]
      split
      · exact ⟨trivial, fun _ => ⟨rfl, fun _ => trivial⟩⟩
      · exact ⟨rfl, fun _ => trivial⟩

theorem replayRow_other (h : x.operationId ≠ p) :
    (replayRow worker now report x).wp (claimMonitor p)
      (fun r g' w' => ∃ v, r = .ok v ∧ g' = g ∧ w'.table.get? p = w.table.get? p) g w := by
  have hkept := wp_of_meets (m := claimMonitor p) (g := g) (s := w)
    (I := fun g' w' => g' = g ∧ w'.table.get? p = w.table.get? p)
    (replayRow_about worker now report x) ⟨rfl, rfl⟩ fun g' c w' hc hI => by
      obtain ⟨rfl, hrow⟩ := hI
      refine ⟨trivial, ?_⟩
      cases c with
      | update u =>
        have hne : u.operationId ≠ p := by
          rw [show u.operationId = x.operationId from hc]
          exact h
        refine ⟨?_, (table_effect_ne hne).trans hrow⟩
        cases u with
        | claim => simp_all [claimMonitor, claims, operationId]
        | _ => simp [claimMonitor, claims]
      | _ => exact ⟨by simp [claimMonitor, claims], hrow⟩
  apply wp_mono hkept
  rintro (e | v) g' w' ⟨hI, _⟩
  · cases e
  · exact ⟨v, rfl, hI⟩

theorem claimed_stays {c : Prog α} (h : c.Meets Q T) :
    c.wp (claimMonitor p) (fun r g _ => ∃ v, r = .ok v ∧ g = true) true w := by
  have hkept := wp_of_meets (m := claimMonitor p) (g := true) (s := w)
    (I := fun g _ => g = true) h rfl fun g c w' _ hI => by
      obtain rfl := hI
      exact ⟨trivial, by simp [claimMonitor]⟩
  apply wp_mono hkept
  rintro (e | v) g w' ⟨hI, _⟩
  · cases e
  · exact ⟨v, rfl, hI⟩

variable {row : OutboxRow}

theorem replayRow_claims (hrow : w.table.get? row.operationId = some row)
    (hg : row.isOpen && row.leaseExpired now) :
    (replayRow worker now report row).wp (claimMonitor row.operationId)
      (fun r g' _ => ∃ v, r = .ok v ∧ g' = true) g w := by
  obtain ⟨_, hrest⟩ := replayRow_about worker now report row
  refine ⟨trivial, ?_⟩
  have hcount : w.table.rowCount
      (claim now worker.workerId row.operationId).toUpdate ≠ 0 := by
    intro hzero
    have hmiss := rowCount_eq_zero.mp hzero row hrow
    rw [show (claim now worker.workerId row.operationId).toUpdate.guard row =
      (row.isOpen && row.leaseExpired now) from rfl, hg] at hmiss
    cases hmiss
  have hsee : (claimMonitor row.operationId).see g
      (.update (.claim now worker.workerId row.operationId)) w = true := by
    simp [claimMonitor, claims, hcount]
  rw [hsee]
  exact claimed_stays
    (hrest (w.table.rowCount (claim now worker.workerId row.operationId).toUpdate))

def Turn (row : OutboxRow) (rows xs : List OutboxRow) (g : Bool) (w : World) : Prop :=
  xs ⊆ rows ∧ ((g = true ∧ row ∈ rows) ∨
    (g = false ∧ w.table.get? row.operationId = some row ∧ (row ∈ rows → row ∈ xs)))

theorem reclaims_iff (hrow : w.table.get? row.operationId = some row) :
    Reclaims worker limit w row.operationId ↔
      row ∈ batchRows (w.env.clock w.step) limit w.table.rows := by
  have hsub : batchRows (w.env.clock w.step) limit w.table.rows ⊆ w.table.rows := by
    intro x hx
    have hsorted := (limitTo_sublist limit _).subset hx
    exact mem_of_mem_filter ((perm_insertionSort _ _).subset hsorted)
  have hstored : ∀ x ∈ batchRows (w.env.clock w.step) limit w.table.rows,
      x.operationId = row.operationId → x = row := by
    intro x hx hid
    exact eq_of_key (hsub hx) (get?_some hrow).1 hid
  have hgate : row ∈ batchRows (w.env.clock w.step) limit w.table.rows →
      (row.isOpen && row.leaseExpired (w.env.clock w.step)) := by
    intro hmem
    have hsorted := (limitTo_sublist limit _).subset hmem
    have heligible := of_mem_filter ((perm_insertionSort _ _).subset hsorted)
    simp only [eligible, Bool.and_eq_true] at heligible ⊢
    exact ⟨heligible.1.1, heligible.2⟩
  have hend : (replayBatch worker limit).wp (claimMonitor row.operationId)
      (fun _ g _ => g = true ↔ row ∈ batchRows (w.env.clock w.step) limit w.table.rows) false w := by
    refine ⟨trivial, trivial, ?_⟩
    change wp _ (fold (batchRows (w.env.clock w.step) limit w.table.rows) {}
      (replayRow worker (w.env.clock w.step))) _ _ _
    generalize batchRows (w.env.clock w.step) limit w.table.rows = rows at hstored hgate ⊢
    refine wp_fold (J := Turn row rows) _ ?_ ?_ ?_
    · exact ⟨List.Subset.refl _, .inr ⟨rfl, hrow, id⟩⟩
    · intro report x xs g w' hJ
      obtain ⟨hxs, hcase⟩ := hJ
      have hx : x ∈ rows := hxs mem_cons_self
      have htail : xs ⊆ rows := fun y hy => hxs (mem_cons_of_mem _ hy)
      by_cases hid : x.operationId = row.operationId
      · obtain rfl := hstored x hx hid
        obtain ⟨rfl, _⟩ | ⟨_, hrow', _⟩ := hcase
        · apply wp_mono (claimed_stays (replayRow_about worker _ report x))
          rintro r g' w'' ⟨v, rfl, rfl⟩
          exact ⟨v, rfl, htail, .inl ⟨rfl, hx⟩⟩
        · apply wp_mono (replayRow_claims hrow' (hgate hx))
          rintro r g' w'' ⟨v, rfl, rfl⟩
          exact ⟨v, rfl, htail, .inl ⟨rfl, hx⟩⟩
      · apply wp_mono (replayRow_other hid)
        rintro r g' w'' ⟨v, rfl, rfl, hkept⟩
        refine ⟨v, rfl, htail, ?_⟩
        obtain hdone | ⟨hg, hrow', hmem⟩ := hcase
        · exact .inl hdone
        · refine .inr ⟨hg, hkept.trans hrow', fun hin => ?_⟩
          obtain rfl | hin := mem_cons.mp (hmem hin)
          · exact absurd rfl hid
          · exact hin
    · intro report g w' hJ
      obtain ⟨_, ⟨hg, hin⟩ | ⟨hg, _, hmem⟩⟩ := hJ
      · simp [hg, hin]
      · simpa [hg] using hmem
  obtain ⟨hR, _⟩ := wp_sound hend
  rw [claimMonitor_over] at hR
  simpa [Reclaims] using hR

theorem leaseExpired_iff {t now : Int} (ht : FourDigitYear t)
    (hn : FourDigitYear now) (hclaimed : row.claimedAt = some (toISOString t)) :
    row.leaseExpired now ↔ t / 86400000 < (now - 300000) / 86400000 := by
  have hcutoff : (civilOfDays ((now - 300000) / 86400000)).1 ≤ 9999 := by
    obtain ⟨_, hmax⟩ := hn
    by_contra hgt
    have hle : (now - 300000) / 86400000 ≤ now / 86400000 := by omega
    obtain hlt | heq := Int.lt_or_eq_of_le hle
    · obtain h | ⟨h, _⟩ := civilOfDays_lt hlt <;> omega
    · rw [heq] at hgt
      omega
  simp only [OutboxRow.leaseExpired, hclaimed, leaseCutoff, if_pos hn, decide_eq_true_eq]
  exact toISOString_lt_sqliteDatetime ht hcutoff

theorem mem_take_iff_countP {r : α → α → Bool} {x : α} {l : List α} [DecidableEq α]
    (hsorted : l.Pairwise fun a b => r a b) (hnodup : l.Nodup)
    (hanti : ∀ y ∈ l, r x y → r y x → y = x) (hx : x ∈ l) (n : Nat) :
    x ∈ l.take n ↔ l.countP (fun y => y ≠ x && r y x) < n := by
  induction l generalizing n with
  | nil => cases hx
  | cons a l ih =>
    obtain ⟨hhead, htail⟩ := pairwise_cons.mp hsorted
    obtain ⟨hnotin, hnodup⟩ := nodup_cons.mp hnodup
    cases n with
    | zero => simp
    | succ n =>
      rw [take_succ_cons, mem_cons, countP_cons]
      by_cases hxa : x = a
      · subst hxa
        have hnone : l.countP (fun y => y ≠ x && r y x) = 0 := by
          rw [countP_eq_zero]
          intro y hy hbefore
          simp only [Bool.and_eq_true, decide_eq_true_eq] at hbefore
          exact hbefore.1 (hanti y (mem_cons_of_mem _ hy) (hhead y hy) hbefore.2)
        rw [hnone]
        simp
      · have hmem : x ∈ l := (mem_cons.mp hx).resolve_left hxa
        have hrest := ih htail hnodup (fun y hy => hanti y (mem_cons_of_mem _ hy)) hmem n
        have hfirst : (a ≠ x && r a x) = true := by
          simp [hhead x hmem, Ne.symm hxa]
        rw [hrest, if_pos hfirst]
        simp [hxa]

instance : Std.Total fun a b : OutboxRow => createdOrder a b = true where
  total a b := by
    simp only [createdOrder, Bool.or_eq_true, Bool.and_eq_true, decide_eq_true_eq]
    obtain h | h | h := lt_trichotomy a.createdAt b.createdAt
    · exact .inl (.inl h)
    · obtain hle | hle := le_total a.operationId b.operationId
      · exact .inl (.inr ⟨h, hle⟩)
      · exact .inr (.inr ⟨h.symm, hle⟩)
    · exact .inr (.inl h)

instance : IsTrans OutboxRow fun a b => createdOrder a b = true where
  trans a b c hab hbc := by
    simp only [createdOrder, Bool.or_eq_true, Bool.and_eq_true, decide_eq_true_eq] at *
    obtain hab | ⟨hab, hab'⟩ := hab <;> obtain hbc | ⟨hbc, hbc'⟩ := hbc
    · exact .inl (hab.trans hbc)
    · exact .inl (hbc ▸ hab)
    · exact .inl (hab ▸ hbc)
    · exact .inr ⟨hab.trans hbc, hab'.trans hbc'⟩

def ahead (now : Instant) (row : OutboxRow) (rows : List OutboxRow) : Nat :=
  (rows.filter (eligible now)).countP fun x => x ≠ row && createdOrder x row

theorem mem_batchRows_iff
    (hrow : w.table.get? row.operationId = some row) (heligible : eligible now row) :
    row ∈ batchRows now limit w.table.rows ↔
      limit < 0 ∨ (ahead now row w.table.rows : Int) < limit := by
  have hmem : row ∈ w.table.rows.filter (eligible now) :=
    mem_filter.mpr ⟨(get?_some hrow).1, heligible⟩
  have hnodup : (w.table.rows.filter (eligible now)).Nodup :=
    w.table.key_nodup.of_map.filter _
  have hstored : ∀ x ∈ w.table.rows.filter (eligible now), x ∈ w.table.rows := fun x hx =>
    mem_of_mem_filter hx
  unfold batchRows limitTo ahead
  generalize w.table.rows.filter (eligible now) = rows at *
  have hperm := perm_insertionSort (fun a b => createdOrder a b = true) rows
  have hanti : ∀ y ∈ rows.insertionSort (fun a b => createdOrder a b = true),
      createdOrder row y → createdOrder y row → y = row := by
    intro y hy hle hge
    apply eq_of_key (hstored y (hperm.subset hy)) (get?_some hrow).1
    simp only [createdOrder, Bool.or_eq_true, Bool.and_eq_true, decide_eq_true_eq] at hle hge
    obtain hle | ⟨heq, hle⟩ := hle <;> obtain hge | ⟨heq', hge⟩ := hge
    · exact absurd hle (lt_asymm hge)
    · exact absurd hle (by rw [heq']; exact lt_irrefl _)
    · exact absurd hge (by rw [heq]; exact lt_irrefl _)
    · exact le_antisymm hge hle
  split
  · next hneg => simp [hneg, hperm.mem_iff, hmem]
  · next hneg =>
    rw [mem_take_iff_countP (pairwise_insertionSort _ rows) (hperm.nodup_iff.mpr hnodup) hanti
      (hperm.mem_iff.mpr hmem), hperm.countP_eq]
    omega

/-- Of a row a crashed worker left claimed at `t`: a batch at `now` does as the five minutes of the
lease say if they are not over yet, or if the cutoff lies on a later day than the claim and the
limit leaves room behind the rows before it. -/
theorem lease_expires_iff (worker : DispatchOperationOutboxWorker) (limit : Int) (w : World)
    (row : OutboxRow) (t now : Int) (hnow : w.env.clock w.step = now)
    (hrow : w.table.get? row.operationId = some row) (hopen : row.isOpen)
    (havailable : row.availableAt ≤ toISOString now)
    (hclaimed : row.claimedAt = some (toISOString t)) (ht : FourDigitYear t)
    (hn : FourDigitYear now) : (Reclaims worker limit w row.operationId ↔ now - t > 300000) ↔
      now - t ≤ 300000 ∨ t / 86400000 < (now - 300000) / 86400000 ∧
        (limit < 0 ∨ (ahead now row w.table.rows : Int) < limit) := by
  have hexpired := leaseExpired_iff ht hn hclaimed
  have hbound : t / 86400000 < (now - 300000) / 86400000 → now - t > 300000 := by omega
  rw [reclaims_iff hrow, hnow]
  by_cases hday : t / 86400000 < (now - 300000) / 86400000
  · have heligible : eligible now row := by
      simp [eligible, hopen, havailable, hexpired.mpr hday]
    rw [mem_batchRows_iff hrow heligible]
    have hgt := hbound hday
    have hnot : ¬ now - t ≤ 300000 := by omega
    simp [hday, hgt, hnot]
  · have hnotin : row ∉ batchRows now limit w.table.rows := by
      intro hmem
      have hsorted := (limitTo_sublist limit _).subset hmem
      have heligible := of_mem_filter ((perm_insertionSort _ _).subset hsorted)
      simp only [eligible, Bool.and_eq_true] at heligible
      exact hday (hexpired.mp heligible.2)
    simp only [hnotin, hday, false_iff, false_and, or_false]
    omega

def crashedRow : OutboxRow where
  operationId := "dop_1"
  envelope := {
    operationType := "dispatch.requested"
    dispatchId := "d"
    idempotencyKey := "d:requested"
    actor := "manager"
    causationId := some "query-d"
    occurredAt := toISOString 0
    fromStatus := none
    toStatus := "queued" }
  createdAt := toISOString 0
  availableAt := toISOString 0
  claimedAt := some (toISOString 0)
  claimedBy := some "worker-1"

def crashedOutbox (now : Instant) : World where
  table := .ofRows [crashedRow]
  accepted := []
  step := 0
  env := ⟨fun _ => now, fun _ _ => .ok ()⟩

theorem crashed_not_reclaimed : ((replayBatch ⟨"worker-2", 10⟩ 50).trace (crashedOutbox 360000)).any
      (fun e => claims "dop_1" e.stmt e.before) = false := by
  decide +kernel

/-- Six minutes after the claim, on the same day, the row is still leased. -/
theorem lease_outlives :
    ¬ (Reclaims ⟨"worker-2", 10⟩ 50 (crashedOutbox 360000) crashedRow.operationId ↔
      (360000 : Int) - 0 > 300000) := by
  intro h
  obtain ⟨e, he, hclaims⟩ := h.mpr (by decide)
  have hnone := any_eq_false.mp crashed_not_reclaimed e he
  exact hnone hclaims

theorem lease_expires_overnight :
    (Reclaims ⟨"worker-2", 10⟩ 50 (crashedOutbox 86700000) crashedRow.operationId ↔
      (86700000 : Int) - 0 > 300000) :=
  (lease_expires_iff ⟨"worker-2", 10⟩ 50 (crashedOutbox 86700000) crashedRow 0 86700000 rfl
    (by decide +kernel) (by decide) (by decide +kernel) rfl (by decide +kernel)
    (by decide +kernel)).mpr (by decide +kernel)

end IdAgents.Outbox
