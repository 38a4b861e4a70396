import Mathlib.Data.Prod.Lex
import Mathlib.Data.String.Basic
import IdAgents.Library.Batches
import IdAgents.Library.Selection
import IdAgents.ReportPublishing.RoundTrip

namespace IdAgents.ReportPublishing
open JsText List Batches

inductive ExportStatus where
  | pending | recorded | alreadyRecorded | notConfigured | conflict | writeFailed | quarantined
deriving DecidableEq

/-- The columns of `dispatch_scheduler_queue` that the outbox uses. The request is null or a text,
with what `JSON.parse` reads in it. -/
structure OutboxRow where
  dispatchPhid : String
  request : Option (Option Json)
  exportStatus : Option ExportStatus
  attemptedAt : Option Instant
  exportError : Option String
  completedAt : Option Instant
  updatedAt : Instant

/-- How the filesystem answers `recordReportPromotionRequest`. -/
inductive DiskOutcome where
  | recorded | alreadyRecorded | conflict | writeFailed
deriving DecidableEq

structure AttemptWorld where
  selectThrows : Bool
  updateThrows : Bool
  disk : DiskOutcome
  now : Instant

structure ReportCandidateReceipt where
  status : ExportStatus
  error : Option String
deriving DecidableEq

/-- The part of `recordReportPromotionRequest` that the outbox stores. -/
def recordReportPromotionRequest (configuredDirectory : Option String) (disk : DiskOutcome) :
    ReportCandidateReceipt :=
  if trim (configuredDirectory.getD "") = "" then
    ⟨.notConfigured, some "REPORT_PROMOTION_REQUEST_DIR_NOT_CONFIGURED"⟩
  else match disk with
    | .recorded => ⟨.recorded, none⟩
    | .alreadyRecorded => ⟨.alreadyRecorded, none⟩
    | .conflict => ⟨.conflict, some "REPORT_CANDIDATE_CONFLICT"⟩
    | .writeFailed => ⟨.writeFailed, some "REPORT_CANDIDATE_WRITE_FAILED"⟩

def corruptedOutboxReceipt : ReportCandidateReceipt :=
  ⟨.writeFailed, some "REPORT_CANDIDATE_WRITE_FAILED"⟩

/-- `UPDATE … WHERE dispatch_phid = ? AND report_candidate_request_json IS NOT NULL` -/
def markRow (dispatchId : String) (status : ExportStatus) (error : Option String) (now : Instant)
    (row : OutboxRow) : OutboxRow :=
  if row.dispatchPhid = dispatchId ∧ row.request.isSome then
    { row with exportStatus := some status, attemptedAt := some now, exportError := error }
  else row

/-- `COALESCE(report_candidate_export_status, 'pending') IN (…)`, for a row with a request. -/
def isPending (row : OutboxRow) : Bool :=
  row.request.isSome &&
    [.pending, .notConfigured, .writeFailed].contains (row.exportStatus.getD .pending)

def orderKey (row : OutboxRow) : Lex (Int × String) :=
  toLex (row.completedAt.getD row.updatedAt, row.dispatchPhid)

/-- The pending rows, `ORDER BY COALESCE(completed_at, updated_at) ASC, dispatch_phid ASC`. -/
def pendingRows (rows : List OutboxRow) : List OutboxRow :=
  (rows.filter isPending).insertionSort fun a b => orderKey a ≤ orderKey b

/-- The limit of a flush; `none` stands for a number that is no safe integer. -/
def boundedLimit (limit : Option Int) : Nat :=
  match limit with
  | some limit => (max 1 (min limit 100)).toNat
  | none => 25

abbrev Attempt := Except Unit (Option ReportCandidateReceipt)

def exportReportCandidateOutboxEntry (unicode : Unicode) (configuredDirectory : Option String)
    (w : AttemptWorld) (dispatchId : String) (rows : List OutboxRow) : Attempt × List OutboxRow :=
  if w.selectThrows then (.error (), rows)
  else match (rows.find? (·.dispatchPhid = dispatchId)).bind (·.request) with
    | none => (.ok none, rows)
    | some json =>
      let admitted := json.any fun value => (parseReportPromotionRequest unicode value).toBool
      let receipt := if admitted then recordReportPromotionRequest configuredDirectory w.disk
        else corruptedOutboxReceipt
      let status := if admitted then receipt.status else .quarantined
      if w.updateThrows then (.error (), rows)
      else (.ok (some receipt), rows.map (markRow dispatchId status receipt.error w.now))

structure FlushResult where
  attempted : Nat
  exported : Nat
  failed : Nat

def isExported (attempt : Attempt) : Bool :=
  match attempt with
  | .ok (some receipt) => receipt.status = .recorded || receipt.status = .alreadyRecorded
  | _ => false

def attemptAll (unicode : Unicode) (configuredDirectory : Option String)
    (world : String → AttemptWorld) :
    List String → FlushResult → List OutboxRow → FlushResult × List OutboxRow
  | [], result, rows => (result, rows)
  | dispatchId :: rest, result, rows =>
    let (attempt, rows) := exportReportCandidateOutboxEntry unicode configuredDirectory
      (world dispatchId) dispatchId rows
    let result := if isExported attempt then { result with exported := result.exported + 1 }
      else { result with failed := result.failed + 1 }
    attemptAll unicode configuredDirectory world rest result rows

def selectedEntries (limit : Option Int) (rows : List OutboxRow) : List String :=
  ((pendingRows rows).take (boundedLimit limit)).map (·.dispatchPhid)

def flushPendingReportCandidateOutbox (unicode : Unicode) (configuredDirectory : Option String)
    (limit : Option Int) (world : String → AttemptWorld) (rows : List OutboxRow) :
    FlushResult × List OutboxRow :=
  let selected := selectedEntries limit rows
  attemptAll unicode configuredDirectory world selected ⟨selected.length, 0, 0⟩ rows

structure OutboxRun where
  unicode : Unicode
  configuredDirectory : Option String
  limit : Option Int
  world : Nat → String → AttemptWorld
  start : List OutboxRow
  nodup : (start.map (·.dispatchPhid)).Nodup

namespace OutboxRun

/-- The table before flush `n`. -/
def after (run : OutboxRun) : Nat → List OutboxRow
  | 0 => run.start
  | n + 1 => (flushPendingReportCandidateOutbox run.unicode run.configuredDirectory run.limit
      (run.world n) (run.after n)).2

section
variable (run : OutboxRun)

/-- The entries that flush `n` attempts. -/
def attempts (n : Nat) : List String := selectedEntries run.limit (run.after n)

def entries : List String := (pendingRows run.start).map (·.dispatchPhid)

/-- `ceil(n / limit)` -/
def rounds : Nat :=
  (run.entries.length + boundedLimit run.limit - 1) / boundedLimit run.limit

/-- After `ceil(n / limit)` flushes every entry has been attempted. -/
def NoStarvation : Prop :=
  ∀ entry ∈ run.entries, ∃ n < run.rounds, entry ∈ run.attempts n

def leavesPending (n : Nat) (entry : String) : Bool :=
  let w := run.world n entry
  let request := ((run.start.find? (·.dispatchPhid = entry)).bind (·.request)).join
  w.selectThrows || w.updateThrows ||
    (request.any (fun value => (parseReportPromotionRequest run.unicode value).toBool) &&
      [.notConfigured, .writeFailed].contains
        (recordReportPromotionRequest run.configuredDirectory w.disk).status)

/-- The entries can be cut into one stretch for each flush, so that no flush has more than `limit`
entries to attempt: those of its stretch and those of earlier ones that every attempt since has left
pending. -/
def HasRoom : Prop :=
  ∃ stretches : List (List String), stretches.length = run.rounds ∧
    stretches.flatten = run.entries ∧
    Batches.Fits (boundedLimit run.limit) run.leavesPending 0 [] stretches

end

end OutboxRun

def settle (unicode : Unicode) (configuredDirectory : Option String) (w : AttemptWorld)
    (row : OutboxRow) : OutboxRow :=
  match row.request with
  | none => row
  | some json =>
    let admitted := json.any fun value => (parseReportPromotionRequest unicode value).toBool
    let receipt := if admitted then recordReportPromotionRequest configuredDirectory w.disk
      else corruptedOutboxReceipt
    let status := if admitted then receipt.status else .quarantined
    if w.selectThrows || w.updateThrows then row
    else { row with exportStatus := some status, attemptedAt := some w.now,
                    exportError := receipt.error }

section
variable (unicode : Unicode) (configuredDirectory : Option String) {rows : List OutboxRow}

theorem settle_columns (w : AttemptWorld) (row : OutboxRow) :
    (settle unicode configuredDirectory w row).dispatchPhid = row.dispatchPhid ∧
      (settle unicode configuredDirectory w row).request = row.request ∧
      orderKey (settle unicode configuredDirectory w row) = orderKey row := by
  unfold settle
  split
  · exact ⟨rfl, rfl, rfl⟩
  · dsimp only
    split
    · exact ⟨rfl, rfl, rfl⟩
    · exact ⟨rfl, rfl, rfl⟩

theorem find?_phid (hnodup : (rows.map (·.dispatchPhid)).Nodup) (hrow : row ∈ rows) :
    rows.find? (·.dispatchPhid = row.dispatchPhid) = some row := by
  cases hfound : rows.find? (·.dispatchPhid = row.dispatchPhid) with
  | none =>
    have hnone := find?_eq_none.mp hfound row hrow
    simp at hnone
  | some found =>
    have hphid : found.dispatchPhid = row.dispatchPhid := by simpa using find?_some hfound
    rw [inj_on_of_nodup_map hnodup (mem_of_find?_eq_some hfound) hrow hphid]

theorem export_rows (w : AttemptWorld) (entry : String)
    (hnodup : (rows.map (·.dispatchPhid)).Nodup) :
    (exportReportCandidateOutboxEntry unicode configuredDirectory w entry rows).2 =
      rows.map fun row => if row.dispatchPhid = entry then settle unicode configuredDirectory w row
        else row := by
  have hsame : ∀ f : OutboxRow → OutboxRow, (∀ row ∈ rows, row.dispatchPhid = entry → f row = row) →
      rows = rows.map fun row => if row.dispatchPhid = entry then f row else row := by
    intro f hf
    conv_lhs => rw [← map_id rows]
    apply map_congr_left
    intro row hrow
    by_cases hentry : row.dispatchPhid = entry
    · rw [if_pos hentry, hf row hrow hentry, id]
    · rw [if_neg hentry, id]
  rw [exportReportCandidateOutboxEntry]
  by_cases hselect : w.selectThrows
  · rw [if_pos hselect]
    apply hsame
    intro row _ _
    unfold settle
    split
    · rfl
    · simp [hselect]
  · rw [if_neg hselect]
    cases hrequest : (rows.find? (·.dispatchPhid = entry)).bind (·.request) with
    | none =>
      apply hsame
      rintro row hrow rfl
      rw [find?_phid hnodup hrow, Option.bind_some] at hrequest
      simp only [settle, hrequest]
    | some json =>
      have hstored : ∀ row ∈ rows, row.dispatchPhid = entry → row.request = some json := by
        rintro row hrow rfl
        rwa [find?_phid hnodup hrow, Option.bind_some] at hrequest
      dsimp only
      by_cases hupdate : w.updateThrows
      · rw [if_pos hupdate]
        apply hsame
        intro row hrow hentry
        simp [settle, hstored row hrow hentry, hupdate]
      · rw [if_neg hupdate]
        apply map_congr_left
        intro row hrow
        by_cases hentry : row.dispatchPhid = entry
        · rw [if_pos hentry]
          simp [markRow, settle, hstored row hrow hentry, hentry, hselect, hupdate]
        · simp [markRow, hentry]

def settledBy (unicode : Unicode) (configuredDirectory : Option String)
    (world : String → AttemptWorld) (entries : List String) (row : OutboxRow) : OutboxRow :=
  if row.dispatchPhid ∈ entries then
    settle unicode configuredDirectory (world row.dispatchPhid) row
  else row

theorem settledBy_columns (world : String → AttemptWorld) (entries : List String)
    (row : OutboxRow) :
    (settledBy unicode configuredDirectory world entries row).dispatchPhid = row.dispatchPhid ∧
      (settledBy unicode configuredDirectory world entries row).request = row.request ∧
      orderKey (settledBy unicode configuredDirectory world entries row) = orderKey row := by
  rw [settledBy]
  split
  · exact settle_columns _ _ _ _
  · exact ⟨rfl, rfl, rfl⟩

theorem attemptAll_rows (world : String → AttemptWorld) {entries : List String}
    (hentries : entries.Nodup) (result : FlushResult) (hnodup : (rows.map (·.dispatchPhid)).Nodup) :
    (attemptAll unicode configuredDirectory world entries result rows).2 =
      rows.map (settledBy unicode configuredDirectory world entries) := by
  induction entries generalizing result rows with
  | nil =>
    have hid : settledBy unicode configuredDirectory world [] = id := by
      funext row
      rw [settledBy, if_neg not_mem_nil, id]
    rw [hid, map_id]
    rfl
  | cons entry entries ih =>
    obtain ⟨hout, hentries⟩ := nodup_cons.mp hentries
    have hstep := export_rows unicode configuredDirectory (world entry) entry hnodup
    rw [attemptAll]
    dsimp only
    have hphids : ((exportReportCandidateOutboxEntry unicode configuredDirectory (world entry) entry
        rows).2.map (·.dispatchPhid)) = rows.map (·.dispatchPhid) := by
      rw [hstep, map_map]
      apply map_congr_left
      intro row _
      rw [Function.comp_apply]
      split
      · exact (settle_columns _ _ _ _).1
      · rfl
    rw [ih hentries _ (by rw [hphids]; exact hnodup), hstep, map_map]
    apply map_congr_left
    intro row _
    by_cases hentry : row.dispatchPhid = entry
    · have hnot : row.dispatchPhid ∉ entries := hentry ▸ hout
      have hphid := (settle_columns unicode configuredDirectory (world entry) row).1
      simp [settledBy, hentry, hphid, hout]
    · simp [settledBy, hentry]

end

instance : Std.Total fun a b : OutboxRow => orderKey a ≤ orderKey b where
  total a b := le_total (orderKey a) (orderKey b)

instance : IsTrans OutboxRow fun a b => orderKey a ≤ orderKey b where
  trans _ _ _ := le_trans

namespace OutboxRun
variable (run : OutboxRun)

theorem pendingRows_perm (rows : List OutboxRow) :
    (pendingRows rows).Perm (rows.filter isPending) := perm_insertionSort _ _

variable {rows : List OutboxRow}

theorem pendingRows_nodup (hnodup : (rows.map (·.dispatchPhid)).Nodup) :
    ((pendingRows rows).map (·.dispatchPhid)).Nodup := by
  rw [((pendingRows_perm rows).map _).nodup_iff]
  exact hnodup.sublist (filter_sublist.map _)

theorem mem_pendingRows : row ∈ pendingRows rows ↔ row ∈ rows ∧ isPending row := by
  rw [(pendingRows_perm rows).mem_iff, mem_filter]

theorem pendingRows_map (hnodup : (rows.map (·.dispatchPhid)).Nodup)
    (f : OutboxRow → OutboxRow) (hkey : ∀ row, orderKey (f row) = orderKey row)
    (hpending : ∀ row ∈ rows, isPending (f row) → isPending row) :
    pendingRows (rows.map f) = ((pendingRows rows).filter fun row => isPending (f row)).map f := by
  have hfilter : (rows.map f).filter isPending =
      ((rows.filter isPending).filter fun row => isPending (f row)).map f := by
    rw [filter_map, filter_filter]
    congr 1
    apply filter_congr
    intro row hrow
    cases hf : isPending (f row) with
    | false => simp [Function.comp_apply, hf]
    | true => simp [Function.comp_apply, hf, hpending row hrow hf]
  have hanti : ∀ a ∈ rows.filter isPending, ∀ b ∈ rows.filter isPending, orderKey a ≤ orderKey b →
      orderKey b ≤ orderKey a → a = b := by
    intro a ha b hb hab hba
    have hphid := le_antisymm hab hba
    simp only [orderKey, toLex_inj, Prod.mk.injEq] at hphid
    exact inj_on_of_nodup_map hnodup (mem_of_mem_filter ha) (mem_of_mem_filter hb)
      hphid.2
  rw [pendingRows, hfilter, pendingRows, ← Selection.insertionSort_filter _ hanti]
  symm
  apply map_insertionSort
  intro a _ b _
  rw [hkey, hkey]

variable (n : Nat)

theorem after_map : ∃ f : OutboxRow → OutboxRow, run.after n = run.start.map f ∧
    ∀ row, (f row).dispatchPhid = row.dispatchPhid ∧ (f row).request = row.request ∧
      orderKey (f row) = orderKey row := by
  induction n with
  | zero => exact ⟨id, (map_id _).symm, fun _ => ⟨rfl, rfl, rfl⟩⟩
  | succ n ih =>
    obtain ⟨f, hafter, hf⟩ := ih
    have hnodup : ((run.after n).map (·.dispatchPhid)).Nodup := by
      rw [hafter, map_map]
      have hphid : (fun row : OutboxRow => row.dispatchPhid) ∘ f = (·.dispatchPhid) :=
        funext fun row => (hf row).1
      rw [hphid]
      exact run.nodup
    have hselected : (selectedEntries run.limit (run.after n)).Nodup :=
      (pendingRows_nodup hnodup).sublist ((take_sublist _ _).map _)
    refine ⟨settledBy run.unicode run.configuredDirectory (run.world n)
      (selectedEntries run.limit (run.after n)) ∘ f, ?_, fun row => ?_⟩
    · rw [after, flushPendingReportCandidateOutbox, attemptAll_rows _ _ _ hselected _ hnodup,
        hafter, map_map]
    · obtain ⟨hphid, hrequest, hkey⟩ := settledBy_columns run.unicode run.configuredDirectory
        (run.world n) (selectedEntries run.limit (run.after n)) (f row)
      exact ⟨hphid.trans (hf row).1, hrequest.trans (hf row).2.1, hkey.trans (hf row).2.2⟩

theorem after_nodup : ((run.after n).map (·.dispatchPhid)).Nodup := by
  obtain ⟨f, hafter, hf⟩ := run.after_map n
  have hphid : (fun row : OutboxRow => row.dispatchPhid) ∘ f = (·.dispatchPhid) :=
    funext fun row => (hf row).1
  rw [hafter, map_map, hphid]
  exact run.nodup

theorem record_status (configuredDirectory : Option String) (disk : DiskOutcome) :
    (recordReportPromotionRequest configuredDirectory disk).status ≠ .pending := by
  unfold recordReportPromotionRequest
  split
  · decide
  · cases disk <;> decide

theorem isPending_settle {n : Nat} (hrow : row ∈ run.after n) (hpending : isPending row) :
    isPending (settle run.unicode run.configuredDirectory (run.world n row.dispatchPhid) row) =
      run.leavesPending n row.dispatchPhid := by
  obtain ⟨f, hafter, hf⟩ := run.after_map n
  rw [hafter] at hrow
  obtain ⟨old, hold, rfl⟩ := mem_map.mp hrow
  obtain ⟨hphid, hrequest, _⟩ := hf old
  have hfound := find?_phid run.nodup hold
  cases hjson : old.request with
  | none => simp [isPending, hrequest, hjson] at hpending
  | some json =>
    rw [hjson] at hrequest
    simp only [settle, hrequest, leavesPending, hphid, hfound, Option.bind_some, hjson,
      Option.join_some]
    generalize run.world n old.dispatchPhid = w
    have hstatus := record_status run.configuredDirectory w.disk
    generalize recordReportPromotionRequest run.configuredDirectory w.disk = receipt at hstatus ⊢
    by_cases hthrows : w.selectThrows || w.updateThrows
    · simp only [hthrows, if_true, Bool.true_or, hpending]
    · rw [Bool.not_eq_true] at hthrows
      simp only [hthrows, Bool.false_eq_true, if_false, Bool.false_or]
      cases json.any fun value => (parseReportPromotionRequest run.unicode value).toBool <;>
        simp [isPending, hstatus]

theorem entries_succ : (pendingRows (run.after (n + 1))).map (·.dispatchPhid) =
      Batches.round (boundedLimit run.limit) (run.leavesPending n)
        ((pendingRows (run.after n)).map (·.dispatchPhid)) := by
  have hnodup := run.after_nodup n
  have hqueue := pendingRows_nodup hnodup
  have hselected : (selectedEntries run.limit (run.after n)).Nodup :=
    hqueue.sublist ((take_sublist _ _).map _)
  have hpendingRow : ∀ row ∈ pendingRows (run.after n), row ∈ run.after n ∧ isPending row :=
    fun row hrow => mem_pendingRows.mp hrow
  have hback : ∀ row ∈ run.after n, isPending (settledBy run.unicode run.configuredDirectory
      (run.world n) (selectedEntries run.limit (run.after n)) row) → isPending row := by
    intro row hrow hsettled
    rw [settledBy] at hsettled
    split at hsettled
    · next hmem =>
      obtain ⟨taken, htaken, hphid⟩ := mem_map.mp hmem
      obtain ⟨hin, hpending⟩ := hpendingRow taken (mem_of_mem_take htaken)
      rwa [inj_on_of_nodup_map hnodup hin hrow hphid] at hpending
    · exact hsettled
  rw [after, flushPendingReportCandidateOutbox, attemptAll_rows _ _ _ hselected _ hnodup,
    pendingRows_map hnodup _ (fun row => (settledBy_columns _ _ _ _ row).2.2) hback, map_map]
  have hphid : (fun row : OutboxRow => row.dispatchPhid) ∘ settledBy run.unicode
      run.configuredDirectory (run.world n) (selectedEntries run.limit (run.after n)) =
        (·.dispatchPhid) := funext fun row => (settledBy_columns _ _ _ _ row).1
  have hfront : ((pendingRows (run.after n)).take (boundedLimit run.limit)).filter (fun row =>
      isPending (settledBy run.unicode run.configuredDirectory (run.world n)
        (selectedEntries run.limit (run.after n)) row)) =
      ((pendingRows (run.after n)).take (boundedLimit run.limit)).filter fun row =>
        run.leavesPending n row.dispatchPhid := by
    apply filter_congr
    intro row hrow
    obtain ⟨hin, hpending⟩ := hpendingRow row (mem_of_mem_take hrow)
    have hmem : row.dispatchPhid ∈ selectedEntries run.limit (run.after n) :=
      mem_map_of_mem hrow
    rw [settledBy, if_pos hmem, run.isPending_settle hin hpending]
  have hback : ((pendingRows (run.after n)).drop (boundedLimit run.limit)).filter (fun row =>
      isPending (settledBy run.unicode run.configuredDirectory (run.world n)
        (selectedEntries run.limit (run.after n)) row)) =
      (pendingRows (run.after n)).drop (boundedLimit run.limit) := by
    rw [filter_eq_self]
    intro row hrow
    have hout : row.dispatchPhid ∉ selectedEntries run.limit (run.after n) := by
      intro hmem
      rw [← take_append_drop (boundedLimit run.limit) (pendingRows (run.after n)),
        map_append, nodup_append] at hqueue
      exact hqueue.2.2 row.dispatchPhid hmem row.dispatchPhid (mem_map_of_mem hrow) rfl
    rw [settledBy, if_neg hout]
    exact (hpendingRow row (mem_of_mem_drop hrow)).2
  have hsplit := filter_append (p := fun row => isPending (settledBy run.unicode
      run.configuredDirectory (run.world n) (selectedEntries run.limit (run.after n)) row))
    ((pendingRows (run.after n)).take (boundedLimit run.limit))
    ((pendingRows (run.after n)).drop (boundedLimit run.limit))
  rw [take_append_drop, hfront, hback] at hsplit
  rw [hphid, hsplit, map_append, Batches.round, ← map_take, ← map_drop,
    filter_map]
  rfl

theorem entries_after : (pendingRows (run.after n)).map (·.dispatchPhid) =
    Batches.after (boundedLimit run.limit) run.leavesPending run.entries n := by
  induction n with
  | zero => rfl
  | succ n ih => rw [entries_succ, ih, Batches.after]

theorem attempts_eq : run.attempts n =
    batch (boundedLimit run.limit) run.leavesPending run.entries n := by
  rw [attempts, selectedEntries, batch, ← entries_after, map_take]

/-- Within `ceil(n / limit)` flushes every entry is attempted exactly when the flushes have room for
all of them and for what is attempted again. -/
theorem noStarvation_iff (run : OutboxRun) : run.NoStarvation ↔ run.HasRoom := by
  have hnodup : run.entries.Nodup := pendingRows_nodup run.nodup
  rw [HasRoom, ← all_taken_iff hnodup, NoStarvation]
  simp only [attempts_eq]

def storedRow (dispatchPhid : String) (completedAt : Instant) : OutboxRow where
  dispatchPhid := dispatchPhid
  request := some (some (ligatureRequest "final report").toJson)
  exportStatus := none
  attemptedAt := none
  exportError := none
  completedAt := some completedAt
  updatedAt := completedAt

def stuckFront : OutboxRun where
  unicode := ligatures
  configuredDirectory := some "/srv/outbox"
  limit := some 1
  world _ entry := ⟨false, false, if entry = "stuck" then .writeFailed else .recorded, 0⟩
  start := [storedRow "stuck" 0, storedRow "behind" 1]
  nodup := by decide

/-- Two flushes of one entry each both attempt the one that stays in front. -/
theorem stuckFront_starves : ¬ stuckFront.NoStarvation := by
  intro h
  have hattempts : stuckFront.entries = ["stuck", "behind"] ∧ stuckFront.rounds = 2 ∧
      stuckFront.attempts 0 = ["stuck"] ∧ stuckFront.attempts 1 = ["stuck"] := by
    decide +kernel
  obtain ⟨hentries, hrounds, hfirst, hsecond⟩ := hattempts
  obtain ⟨n, hn, hmem⟩ := h "behind" (by rw [hentries]; simp)
  rw [hrounds] at hn
  obtain rfl | rfl : n = 0 ∨ n = 1 := by omega
  · rw [hfirst] at hmem
    simp at hmem
  · rw [hsecond] at hmem
    simp at hmem

end OutboxRun

end IdAgents.ReportPublishing
