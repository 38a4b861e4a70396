import Mathlib.Data.Rat.Floor
import Mathlib.Data.String.Basic
import IdAgents.Loops.Storage

namespace IdAgents.Loops
open List

/-- `TERMINAL_STATUSES.has(s)` -/
def LoopRunStatus.isTerminal : LoopRunStatus → Bool
  | succeeded | partialResult | failed | cancelled => true
  | _ => false

inductive CoarseRunStatus where
  | queued | running | succeeded | failed | cancelled
deriving DecidableEq

def toCoarseStatus : LoopRunStatus → CoarseRunStatus
  | .queued | .admitted => .queued
  | .collecting | .reasoning | .postprocessing => .running
  | .succeeded | .partialResult => .succeeded
  | .failed => .failed
  | .cancelled => .cancelled

/-- `nextRunAt` is `none` when it is omitted. -/
structure LoopRollupInput where
  enabled : Bool
  staleAfterMinutes : Option Rat
  nextRunAt : Option (Option String) := none
  failThreshold : Option Rat := none

inductive LoopHealthState where
  | disabled | unknown | healthy | degraded | failed
deriving DecidableEq

structure LoopHealth where
  state : LoopHealthState
  lastRunAt : Option String
  lastRunStatus : Option CoarseRunStatus
  lastRunPhid : Option String
  lastSuccessAt : Option String
  consecutiveFailures : Nat
  nextRunAt : Option String
  runsLast7d : Nat
  staleAfterMinutes : Option Rat

section
-- `Date.parse`, which answers a number for the texts that it can read
variable (dateParse : String → Option Int)

def isStale (lastSuccessAt : Option String) (staleAfterMinutes : Option Rat)
    (nowMs : Option Int) : Bool :=
  match staleAfterMinutes, lastSuccessAt.bind dateParse, nowMs with
  | some minutes, some t, some now => minutes * 60000 < (now - t : Int)
  | _, _, _ => false

def pendingAt (nowIso : String) (r : LoopRunRecord) : Option String :=
  match r.trigger with
  | .scheduled _ _ scheduledFor _ =>
    if r.status.isTerminal || scheduledFor = "" || scheduledFor ≤ nowIso then none
    else some scheduledFor
  | _ => none

def earlier (next : Option String) (sf : Option String) : Option String :=
  match sf, next with
  | none, next => next
  | some sf, none => some sf
  | some sf, some next => if sf < next then some sf else some next

def deriveNextRun (runs : List LoopRunRecord) (nowIso : String) : Option String :=
  runs.foldl (fun next r => earlier next (pendingAt nowIso r)) none

/-- `sort` with newest `fired_at` first; runs that tie keep their order. -/
def newestFirst (runs : List LoopRunRecord) : List LoopRunRecord :=
  runs.mergeSort fun a b => b.firedAt ≤ a.firedAt

def within7d (nowMs : Option Int) (r : LoopRunRecord) : Bool :=
  match dateParse r.firedAt, nowMs with
  | some t, some now => t ≤ now && now - t ≤ 7 * 24 * 60 * 60000
  | _, _ => false

def consecutiveFailures (terminal : List LoopRunRecord) : Nat :=
  (terminal.takeWhile fun r => r.status = .failed).length

def lastSuccessAt (terminal : List LoopRunRecord) : Option String :=
  (terminal.find? fun r => r.status = .succeeded).bind (·.finishedAt)
section
variable (input : LoopRollupInput)

def healthState (nowMs : Option Int) (terminal : List LoopRunRecord) : LoopHealthState :=
  if !input.enabled then .disabled
  else match terminal.head?.map LoopRunRecord.status with
    | none => .unknown
    | some .failed =>
      if max 1 (input.failThreshold.getD 2) ≤ consecutiveFailures terminal then .failed
      else .degraded
    | some .partialResult => .degraded
    | some .cancelled => .unknown
    | some _ =>
      if isStale dateParse (lastSuccessAt terminal) input.staleAfterMinutes nowMs then .degraded
      else .healthy

def rollupOrdered (ordered : List LoopRunRecord) (nowIso : String) : LoopHealth :=
  let nowMs := dateParse nowIso
  let terminal := ordered.filter (·.status.isTerminal)
  { state := healthState dateParse input nowMs terminal
    lastRunAt := ordered.head?.map (·.firedAt)
    lastRunStatus := ordered.head?.map fun r => toCoarseStatus r.status
    lastRunPhid := ordered.head?.map (·.loopRunPhid)
    lastSuccessAt := lastSuccessAt terminal
    consecutiveFailures := consecutiveFailures terminal
    nextRunAt := input.nextRunAt.getD (deriveNextRun ordered nowIso)
    runsLast7d := (ordered.filter (within7d dateParse nowMs)).length
    staleAfterMinutes := input.staleAfterMinutes }

def rollupLoopHealth (runs : List LoopRunRecord) (nowIso : String) : LoopHealth :=
  rollupOrdered dateParse input (newestFirst runs) nowIso

end

section
variable (rows : List LoopRunRecord)

/-- The rows of `loop_runs` of one loop. -/
def runsOf (loopPhid : String) : List LoopRunRecord :=
  rows.filter (·.loopPhid = loopPhid)

def listLoopRuns (loopPhid : String) (status : Option LoopRunStatus)
    (limit : Option Nat) : List LoopRunRecord :=
  (newestFirst ((runsOf rows loopPhid).filter fun r => status.all (r.status = ·))).take
    (min (max (limit.getD 50) 1) 200)

def loadLoopHealth (loopPhid : String) (input : LoopRollupInput) (nowIso : String) : LoopHealth :=
  rollupLoopHealth dateParse input (listLoopRuns rows loopPhid none (some 200)) nowIso

end

end

theorem newestFirst_pairwise (runs : List LoopRunRecord) :
    (newestFirst runs).Pairwise fun a b => b.firedAt ≤ a.firedAt := by
  have hsorted := @pairwise_mergeSort _ (fun a b : LoopRunRecord => b.firedAt ≤ a.firedAt)
    (fun a b c hab hbc => by
      rw [decide_eq_true_eq] at hab hbc ⊢
      exact hbc.trans hab)
    (fun a b => by
      rw [Bool.or_eq_true, decide_eq_true_eq, decide_eq_true_eq]
      exact le_total _ _) runs
  exact hsorted.imp fun h => of_decide_eq_true h

theorem newestFirst_perm (runs : List LoopRunRecord) : (newestFirst runs).Perm runs :=
  mergeSort_perm _ _

theorem newestFirst_of_pairwise
    (h : runs.Pairwise fun a b => b.firedAt ≤ a.firedAt) : newestFirst runs = runs :=
  mergeSort_of_pairwise (h.imp fun h => decide_eq_true h)

theorem listLoopRuns_eq (rows : List LoopRunRecord) (loopPhid : String) :
    listLoopRuns rows loopPhid none (some 200) = (newestFirst (runsOf rows loopPhid)).take 200 := by
  simp [listLoopRuns]

/-- What the loader leaves out does not tell: nothing is left out, or there is a success among the
newest 200 runs, and no run beyond them is of the last seven days or still to come. -/
def PageSuffices (dateParse : String → Option Int) (runs : List LoopRunRecord) (nowIso : String) :
    Prop :=
  runs.length ≤ 200 ∨
    (∃ r ∈ (newestFirst runs).take 200, r.status = .succeeded) ∧
    ∀ r ∈ (newestFirst runs).drop 200, within7d dateParse (dateParse nowIso) r = false ∧
      pendingAt nowIso r = none

section
variable {dateParse : String → Option Int} {input : LoopRollupInput} {nowIso : String}

theorem takeWhile_append_of_exists {p : α → Bool} {xs ys : List α} (h : ∃ x ∈ xs, p x = false) :
    (xs ++ ys).takeWhile p = xs.takeWhile p := by
  induction xs with
  | nil => simp at h
  | cons x xs ih =>
    cases hx : p x with
    | false => simp [hx]
    | true =>
      have hrest : ∃ x ∈ xs, p x = false := by simpa [hx] using h
      simp [hx, ih hrest]

theorem deriveNextRun_append (h : ∀ r ∈ ys, pendingAt nowIso r = none) :
    deriveNextRun (xs ++ ys) nowIso = deriveNextRun xs nowIso := by
  rw [deriveNextRun, deriveNextRun, foldl_append]
  generalize List.foldl _ none xs = next
  induction ys with
  | nil => rfl
  | cons r ys ih =>
    rw [foldl_cons, h r (by simp)]
    exact ih fun r hr => h r (by simp [hr])

theorem rollupOrdered_append {xs ys : List LoopRunRecord} (hsucceeded : ∃ r ∈ xs,
      r.status = .succeeded) (hquiet : ∀ r ∈ ys, within7d dateParse (dateParse nowIso) r = false ∧
      pendingAt nowIso r = none) :
    rollupOrdered dateParse input (xs ++ ys) nowIso = rollupOrdered dateParse input xs nowIso := by
  obtain ⟨s, hs, hstatus⟩ := hsucceeded
  have hterminal : s ∈ xs.filter (·.status.isTerminal) := by
    rw [mem_filter, hstatus]
    exact ⟨hs, rfl⟩
  have hstreak : consecutiveFailures ((xs ++ ys).filter (·.status.isTerminal)) =
      consecutiveFailures (xs.filter (·.status.isTerminal)) := by
    rw [consecutiveFailures, filter_append,
      takeWhile_append_of_exists ⟨s, hterminal, by simp [hstatus]⟩, consecutiveFailures]
  have hfind : ∃ r, (xs.filter (·.status.isTerminal)).find? (fun r => r.status = .succeeded) =
      some r := by
    rw [← Option.isSome_iff_exists, find?_isSome]
    exact ⟨s, hterminal, by simp [hstatus]⟩
  have hsuccess : lastSuccessAt ((xs ++ ys).filter (·.status.isTerminal)) =
      lastSuccessAt (xs.filter (·.status.isTerminal)) := by
    obtain ⟨r, hr⟩ := hfind
    rw [lastSuccessAt, filter_append, find?_append, hr, Option.some_or, lastSuccessAt, hr]
  have hheadTerminal : ((xs ++ ys).filter (·.status.isTerminal)).head? =
      (xs.filter (·.status.isTerminal)).head? := by
    rw [filter_append, head?_append_of_ne_nil _ (ne_nil_of_mem hterminal)]
  have hhead : (xs ++ ys).head? = xs.head? := head?_append_of_ne_nil _ (ne_nil_of_mem hs)
  have hcount : (xs ++ ys).filter (within7d dateParse (dateParse nowIso)) =
      xs.filter (within7d dateParse (dateParse nowIso)) := by
    have hnone : ys.filter (within7d dateParse (dateParse nowIso)) = [] :=
      filter_eq_nil_iff.mpr fun r hr => by simp [(hquiet r hr).1]
    rw [filter_append, hnone, append_nil]
  have hstate : healthState dateParse input (dateParse nowIso)
        ((xs ++ ys).filter (·.status.isTerminal)) =
      healthState dateParse input (dateParse nowIso) (xs.filter (·.status.isTerminal)) := by
    simp only [healthState, hheadTerminal, hstreak, hsuccess]
  simp only [rollupOrdered, hstate, hhead, hsuccess, hstreak, hcount,
    deriveNextRun_append fun r hr => (hquiet r hr).2]

theorem loadLoopHealth_eq (h : PageSuffices dateParse (runsOf rows loopPhid) nowIso) :
    loadLoopHealth dateParse rows loopPhid input nowIso =
      rollupLoopHealth dateParse input (runsOf rows loopPhid) nowIso := by
  rw [loadLoopHealth, rollupLoopHealth, listLoopRuns_eq,
    newestFirst_of_pairwise ((newestFirst_pairwise _).sublist (take_sublist ..)),
    rollupLoopHealth]
  obtain hshort | ⟨hsucceeded, hquiet⟩ := h
  · rw [take_of_length_le]
    rw [(newestFirst_perm _).length_eq]
    exact hshort
  · have hall : rollupOrdered dateParse input _ nowIso = rollupOrdered dateParse input _ nowIso :=
      rollupOrdered_append hsucceeded hquiet
    rw [take_append_drop] at hall
    exact hall.symm

end

def LoopRunRecord.outcome (r : LoopRunRecord) : String × LoopRunStatus × Option String :=
  (r.firedAt, r.status, r.finishedAt)

def TiesAgree (runs : List LoopRunRecord) : Prop :=
  ∀ a ∈ runs, ∀ b ∈ runs, a.status.isTerminal → b.status.isTerminal → a.firedAt = b.firedAt →
    a.status = b.status ∧ a.finishedAt = b.finishedAt

section
variable {dateParse : String → Option Int} {input : LoopRollupInput} {nowIso : String}
  {xs ys : List LoopRunRecord}

theorem terminal_outcomes (hperm : xs.Perm ys) (hties : TiesAgree xs) :
    ((newestFirst xs).filter (·.status.isTerminal)).map LoopRunRecord.outcome =
      ((newestFirst ys).filter (·.status.isTerminal)).map LoopRunRecord.outcome := by
  have hsorted (runs : List LoopRunRecord) :
      (((newestFirst runs).filter (·.status.isTerminal)).map LoopRunRecord.outcome).Pairwise
        fun a b => b.1 ≤ a.1 := by
    rw [pairwise_map]
    exact (newestFirst_pairwise runs).sublist filter_sublist
  have hmem : ∀ r ∈ (newestFirst xs).filter (·.status.isTerminal),
      r ∈ xs ∧ r.status.isTerminal := by
    intro r hr
    rw [mem_filter, (newestFirst_perm xs).mem_iff] at hr
    exact hr
  have hsame : ((newestFirst xs).filter (·.status.isTerminal)).Perm
      ((newestFirst ys).filter (·.status.isTerminal)) :=
    (((newestFirst_perm xs).trans hperm).trans (newestFirst_perm ys).symm).filter _
  refine List.Perm.eq_of_pairwise ?_ (hsorted xs) (hsorted ys) (hsame.map _)
  intro a b ha hb hab hba
  obtain ⟨r, hr, rfl⟩ := mem_map.mp ha
  obtain ⟨s, hs, rfl⟩ := mem_map.mp hb
  obtain ⟨hr, hrt⟩ := hmem r hr
  obtain ⟨hs, hst⟩ := hmem s (hsame.mem_iff.mpr hs)
  have hfired : r.firedAt = s.firedAt := le_antisymm hba hab
  obtain ⟨hstatus, hfinished⟩ := hties r hr s hs hrt hst hfired
  rw [LoopRunRecord.outcome, LoopRunRecord.outcome, hfired, hstatus, hfinished]

theorem terminal_congr (h : ts.map LoopRunRecord.outcome = us.map LoopRunRecord.outcome) :
    ts.head?.map LoopRunRecord.status = us.head?.map LoopRunRecord.status ∧
      lastSuccessAt ts = lastSuccessAt us ∧ consecutiveFailures ts = consecutiveFailures us := by
  induction ts generalizing us with
  | nil =>
    obtain rfl : us = [] := map_eq_nil_iff.mp h.symm
    exact ⟨rfl, rfl, rfl⟩
  | cons t ts ih =>
    cases us with
    | nil => cases h
    | cons u us =>
      obtain ⟨hhead, htail⟩ := List.cons.inj h
      obtain ⟨_, hrest⟩ := Prod.mk.inj hhead
      obtain ⟨hstatus, hfinished⟩ := Prod.mk.inj hrest
      obtain ⟨_, hsuccess, hfailures⟩ := ih htail
      refine ⟨congrArg some hstatus, ?_, ?_⟩
      · rw [lastSuccessAt, lastSuccessAt, find?_cons, find?_cons, hstatus]
        cases hfound : decide (u.status = .succeeded) with
        | true => exact hfinished
        | false => exact hsuccess
      · rw [consecutiveFailures, consecutiveFailures, takeWhile_cons, takeWhile_cons,
          hstatus]
        by_cases hfailed : u.status = .failed
        · rw [if_pos (decide_eq_true hfailed), if_pos (decide_eq_true hfailed), length_cons,
            length_cons]
          exact congrArg Nat.succ hfailures
        · rw [if_neg (by simpa using hfailed), if_neg (by simpa using hfailed)]

theorem earlier_some (next sf : String) : earlier (some next) (some sf) = some (min sf next) := by
  simp only [earlier]
  split
  · next h => rw [min_eq_left h.le]
  · next h => rw [min_eq_right (not_lt.mp h)]

theorem earlier_comm (next a b : Option String) :
    earlier (earlier next a) b = earlier (earlier next b) a := by
  cases a with
  | none => cases b <;> cases next <;> rfl
  | some a =>
    cases b with
    | none => cases next <;> rfl
    | some b =>
      cases next with
      | none =>
        change earlier (some a) (some b) = earlier (some b) (some a)
        rw [earlier_some, earlier_some, min_comm]
      | some n => rw [earlier_some, earlier_some, earlier_some, earlier_some, min_left_comm]

theorem deriveNextRun_perm (hperm : xs.Perm ys) :
    deriveNextRun xs nowIso = deriveNextRun ys nowIso :=
  hperm.foldl_eq' (fun _ _ _ _ next => earlier_comm next _ _) none

theorem rollupLoopHealth_perm (hperm : xs.Perm ys) (hties : TiesAgree xs) :
    let h := rollupLoopHealth dateParse input xs nowIso
    let h' := rollupLoopHealth dateParse input ys nowIso
    h.state = h'.state ∧ h.lastSuccessAt = h'.lastSuccessAt ∧
      h.consecutiveFailures = h'.consecutiveFailures ∧ h.runsLast7d = h'.runsLast7d ∧
      h.nextRunAt = h'.nextRunAt := by
  obtain ⟨hhead, hsuccess, hfailures⟩ := terminal_congr (terminal_outcomes hperm hties)
  have hsorted : (newestFirst xs).Perm (newestFirst ys) :=
    ((newestFirst_perm xs).trans hperm).trans (newestFirst_perm ys).symm
  have hnext : deriveNextRun _ nowIso = deriveNextRun _ nowIso := deriveNextRun_perm hsorted
  have hcount := (hsorted.filter (within7d dateParse (dateParse nowIso))).length_eq
  refine ⟨?_, hsuccess, hfailures, hcount, ?_⟩
  · simp only [rollupLoopHealth, rollupOrdered, healthState, hhead, hsuccess, hfailures]
  · simp only [rollupLoopHealth, rollupOrdered, hnext]

end

/-- What the health of a loop is a function of: the loader agrees with the whole history where its
page suffices, and the order of the runs is nothing where ties agree. -/
theorem loopHealth_history (dateParse : String → Option Int) (input : LoopRollupInput)
    (nowIso : String) : (∀ (rows : List LoopRunRecord) (loopPhid : String),
      PageSuffices dateParse (runsOf rows loopPhid) nowIso →
      loadLoopHealth dateParse rows loopPhid input nowIso =
        rollupLoopHealth dateParse input (runsOf rows loopPhid) nowIso) ∧
    ∀ xs ys : List LoopRunRecord, xs.Perm ys → TiesAgree xs →
      let h := rollupLoopHealth dateParse input xs nowIso
      let h' := rollupLoopHealth dateParse input ys nowIso
      h.state = h'.state ∧ h.lastSuccessAt = h'.lastSuccessAt ∧
        h.consecutiveFailures = h'.consecutiveFailures ∧ h.runsLast7d = h'.runsLast7d ∧
        h.nextRunAt = h'.nextRunAt :=
  ⟨fun _ _ h => loadLoopHealth_eq h, fun _ _ hperm hties => rollupLoopHealth_perm hperm hties⟩

/-- A run of the loop `l` that fired with the new year. -/
def newYearRun (n : Nat) (status : LoopRunStatus) : LoopRunRecord :=
  { loopRunPhid := "r" ++ toString n
    loopPhid := "l"
    trigger := .scheduled "rec" none "2026-01-01T00:00:00.000Z" "d"
    status := status
    failureReason := none
    failureDetail := none
    stepLog := []
    outputRefs := []
    spawnedDispatchPhids := []
    idempotencyKey := "k" ++ toString n
    retryOfPhid := none
    firedAt := "2026-01-01T00:00:00.000Z"
    queuedAt := "2026-01-01T00:00:00.000Z"
    admittedAt := none
    startedAt := none
    finishedAt := some "2026-01-01T00:05:00.000Z"
    createdBy := ⟨.system, "loops", none⟩
    updatedAt := "2026-01-01T00:05:00.000Z" }

def newYearParse (text : String) : Option Int :=
  if text = "2026-01-01T00:00:00.000Z" then some 1767225600000
  else if text = "2026-01-01T01:00:00.000Z" then some 1767229200000 else none

def watchedLoop : LoopRollupInput := ⟨true, none, none, none⟩

def oneOClock : String := "2026-01-01T01:00:00.000Z"

theorem newYearRun_within7d (n : Nat) (status : LoopRunStatus) :
    within7d newYearParse (newYearParse oneOClock) (newYearRun n status) = true := by
  change within7d newYearParse (newYearParse oneOClock) (newYearRun 0 .succeeded) = true
  decide +kernel

/-- Of 201 runs of one hour the loader counts 200, and of a failure and a success that fired
together the one supplied first decides. -/
theorem loopHealth_not_history :
    loadLoopHealth newYearParse ((List.range 201).map (newYearRun · .succeeded)) "l" watchedLoop
        oneOClock ≠ rollupLoopHealth newYearParse watchedLoop
        (runsOf ((List.range 201).map (newYearRun · .succeeded)) "l") oneOClock ∧
    (rollupLoopHealth newYearParse watchedLoop [newYearRun 0 .failed, newYearRun 1 .succeeded]
        oneOClock).state ≠
      (rollupLoopHealth newYearParse watchedLoop [newYearRun 1 .succeeded, newYearRun 0 .failed]
        oneOClock).state := by
  have hpair (m n : Nat) (s t : LoopRunStatus) :
      newestFirst [newYearRun m s, newYearRun n t] = [newYearRun m s, newYearRun n t] :=
    newestFirst_of_pairwise (by simp [newYearRun])
  refine ⟨fun heq => ?_, ?_⟩
  rotate_left
  · rw [rollupLoopHealth, rollupLoopHealth, hpair, hpair]
    decide +kernel
  have hruns : runsOf ((List.range 201).map (newYearRun · .succeeded)) "l" =
      (List.range 201).map (newYearRun · .succeeded) := by
    rw [runsOf, filter_eq_self]
    intro r hr
    obtain ⟨n, _, rfl⟩ := mem_map.mp hr
    rfl
  have hrecent : ∀ r ∈ newestFirst ((List.range 201).map (newYearRun · .succeeded)),
      within7d newYearParse (newYearParse oneOClock) r = true := by
    intro r hr
    rw [(newestFirst_perm _).mem_iff] at hr
    obtain ⟨n, _, rfl⟩ := mem_map.mp hr
    exact newYearRun_within7d n _
  have hcount := congrArg LoopHealth.runsLast7d heq
  rw [loadLoopHealth, listLoopRuns_eq, hruns] at hcount
  simp only [rollupLoopHealth, rollupOrdered] at hcount
  rw [filter_eq_self.mpr hrecent, newestFirst_of_pairwise
    ((newestFirst_pairwise _).sublist (take_sublist ..)), (newestFirst_perm _).length_eq,
    length_map, length_range] at hcount
  have hle := (length_filter_le (within7d newYearParse (newYearParse oneOClock))
    ((newestFirst ((List.range 201).map (newYearRun · .succeeded))).take 200)).trans
    (length_take_le ..)
  omega

theorem loopHealth_twoRuns :
    loadLoopHealth newYearParse [newYearRun 0 .failed, newYearRun 1 .failed] "l" watchedLoop
        oneOClock = rollupLoopHealth newYearParse watchedLoop
        (runsOf [newYearRun 0 .failed, newYearRun 1 .failed] "l") oneOClock ∧
    (rollupLoopHealth newYearParse watchedLoop [newYearRun 0 .failed, newYearRun 1 .failed]
        oneOClock).state =
      (rollupLoopHealth newYearParse watchedLoop [newYearRun 1 .failed, newYearRun 0 .failed]
        oneOClock).state := by
  obtain ⟨hload, horder⟩ := loopHealth_history newYearParse watchedLoop oneOClock
  have hties : TiesAgree [newYearRun 0 .failed, newYearRun 1 .failed] := by
    intro a ha b hb _ _ _
    simp only [mem_cons, not_mem_nil, or_false] at ha hb
    obtain rfl | rfl := ha <;> obtain rfl | rfl := hb <;> exact ⟨rfl, rfl⟩
  exact ⟨hload _ _ (.inl (by decide +kernel)), (horder _ _ (.swap _ _ _) hties).1⟩

end IdAgents.Loops
