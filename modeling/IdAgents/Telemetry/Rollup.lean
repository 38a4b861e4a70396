import Mathlib

namespace IdAgents.Telemetry

/-- An event, its time in milliseconds and its payload parsed: one that does not parse is empty. -/
structure TelemetryEvent where
  kind : String
  agentId : String
  ts : Int
  toState : Option String := none
  dailyWeightedTokens : Int := 0
deriving DecidableEq

structure EventQuery where
  agentId : Option String := none
  kind : Option String := none
  since : Option Int := none
  until_ : Option Int := none
  limit : Option Nat := none

def EventQuery.selects (q : EventQuery) (e : TelemetryEvent) : Bool :=
  q.agentId.all (e.agentId = ·) && q.kind.all (e.kind = ·) && q.since.all (· ≤ e.ts) &&
    q.until_.all (e.ts < ·)

/-- `ORDER BY ts ASC`; events of one time come in the order of the table. -/
def EventQuery.ordered (q : EventQuery) (events : List TelemetryEvent) : List TelemetryEvent :=
  (events.filter q.selects).mergeSort fun a b => a.ts ≤ b.ts

def queryEvents (events : List TelemetryEvent) (q : EventQuery) : List TelemetryEvent :=
  (q.ordered events).take (q.limit.getD 1000)

inductive WindowKind where
  | hour | day

/-- The offsets of the process's own zone and of `tz`, in seconds. -/
structure Zones where
  host : Int
  tz : Int

/-- `hourBoundary`, in the process's zone. -/
def hourBoundary (zones : Zones) (date : Int) : Int × Int :=
  let start := (date + zones.host * 1000) / 3600000 * 3600000 - zones.host * 1000
  (start, start + 3600000 - 1)

/-- `dayBoundary`: the printed local time has no milliseconds and is read in the process's zone. -/
def dayBoundary (zones : Zones) (date : Int) : Int × Int :=
  let local_ := date + zones.tz * 1000
  let midnight := local_ / 86400000 * 86400000
  let tzDate := local_ / 1000 * 1000 - zones.host * 1000
  let offsetMs := date - tzDate
  (midnight + offsetMs, midnight + 86399999 + offsetMs)
section
variable (kind : WindowKind)
section
variable (zones : Zones)
section
variable (date : Int)

def windowBoundary : Int × Int :=
  match kind with
  | .hour => hourBoundary zones date
  | .day => dayBoundary zones date

def windowQuery : EventQuery where
  since := some (windowBoundary kind zones date).1
  until_ := some (windowBoundary kind zones date).2

inductive Counter where
  | dispatchesStarted | dispatchesCompleted | dispatchesFailed | dispatchesStuck
  | needsClarificationCount | artifactsCreated
deriving DecidableEq

/-- The counter that an event adds one to. -/
def TelemetryEvent.counter (e : TelemetryEvent) : Option Counter :=
  if e.kind = "dispatch.state_changed" then
    if e.toState = some "queued" || e.toState = some "scheduled" then some .dispatchesStarted
    else if e.toState = some "completed" || e.toState = some "done" then some .dispatchesCompleted
    else if e.toState = some "failed" || e.toState = some "error" then some .dispatchesFailed
    else if e.toState = some "needs_clarification" then some .needsClarificationCount
    else none
  else if e.kind = "dispatch.stuck_detected" then some .dispatchesStuck
  else if e.kind = "artifact.created" then some .artifactsCreated
  else none

def TelemetryEvent.adds (agentId : String) (c : Counter) (e : TelemetryEvent) : Bool :=
  e.agentId = agentId && e.counter = some c

structure PerformanceSnapshot where
  agentId : String
  windowStart : Int
  counters : Counter → Nat
  weightedTokens : Int
  highBurnNoOutputEvents : Nat

def computeAgentSnapshot (agentId : String) (events : List TelemetryEvent) (windowStart : Int) :
    PerformanceSnapshot :=
  let counters (c : Counter) := events.countP (·.counter = some c)
  let weightedTokens := (events.map fun e =>
    if e.kind = "usage.window_observed" then e.dailyWeightedTokens else 0).sum
  { agentId, windowStart, counters, weightedTokens
    highBurnNoOutputEvents := if 200000 < weightedTokens ∧ counters .dispatchesCompleted = 0 ∧
      counters .artifactsCreated = 0 then 1 else 0 }

def isPseudo (agentId : String) : Bool := agentId = "_system" || agentId = "_unknown"

/-- The snapshots that `computeRollup` writes, for the agents of the events and then those of the
roster. -/
def computeRollup (events : List TelemetryEvent) (roster : List String) (kind : WindowKind)
    (zones : Zones) (date : Int) : List PerformanceSnapshot :=
  let found := queryEvents events (windowQuery kind zones date)
  (((found.map (·.agentId) ++ roster).eraseDups).filter (!isPseudo ·)).map fun agentId =>
    computeAgentSnapshot agentId (found.filter (·.agentId = agentId))
      (windowBoundary kind zones date).1

/-- An agent's counter in the snapshots of a window. -/
def reported (snapshots : List PerformanceSnapshot) (agentId : String) (c : Counter) : Nat :=
  ((snapshots.find? (·.agentId = agentId)).map (·.counters c)).getD 0

def WindowKind.length : WindowKind → Int
  | .hour => 3600000
  | .day => 86400000

/-- How far the windows of a kind are from the epoch. -/
def WindowKind.shift : WindowKind → Int
  | .hour => -zones.host * 1000
  | .day => (zones.host - zones.tz) * 1000

/-- The slot whose window a date is taken for. -/
def dateSlot : Int :=
  match kind with
  | .hour => (date + zones.host * 1000) / 3600000
  | .day => (date + zones.tz * 1000) / 86400000

/-- The milliseconds of a date, by which the window of its day is late. -/
def late : Int :=
  match kind with
  | .hour => 0
  | .day => date % 1000

theorem windowBoundary_eq : windowBoundary kind zones date =
      (dateSlot kind zones date * kind.length + kind.shift zones + late kind date,
        dateSlot kind zones date * kind.length + kind.shift zones + late kind date +
          kind.length - 1) := by
  cases kind with
  | hour =>
    simp only [windowBoundary, hourBoundary, dateSlot, WindowKind.length, WindowKind.shift, late,
      Prod.mk.injEq]
    omega
  | day =>
    simp only [windowBoundary, dayBoundary, dateSlot, WindowKind.length, WindowKind.shift, late,
      Prod.mk.injEq]
    omega

theorem late_bounds : 0 ≤ late kind date ∧ late kind date < 1000 := by
  cases kind <;> simp only [late] <;> omega

end

def eventSlot (ts : Int) : Int :=
  (ts - kind.shift zones) / kind.length

/-- The time of an event within its slot. -/
def into (ts : Int) : Int :=
  (ts - kind.shift zones) % kind.length

/-- The event lies in the window of its own slot; or in the late end of the window before. -/
def InOwn (ts : Int) (date : Int) : Prop :=
  dateSlot kind zones date = eventSlot kind zones ts ∧ late kind date ≤ into kind zones ts ∧
    into kind zones ts + 1 < kind.length + late kind date

def InLate (ts : Int) (date : Int) : Prop :=
  dateSlot kind zones date + 1 = eventSlot kind zones ts ∧ into kind zones ts + 1 < late kind date

end

end

instance : Decidable (InOwn kind zones ts date) := inferInstanceAs (Decidable (_ ∧ _))

instance : Decidable (InLate kind zones ts date) := inferInstanceAs (Decidable (_ ∧ _))

def inWindow (kind : WindowKind) (zones : Zones) (e : TelemetryEvent) (date : Int) : Bool :=
  (windowQuery kind zones date).selects e

theorem inWindow_iff :
    inWindow kind zones e date ↔ InOwn kind zones e.ts date ∨ InLate kind zones e.ts date := by
  have hlate := late_bounds kind date
  have hinto : e.ts = eventSlot kind zones e.ts * kind.length + kind.shift zones +
      into kind zones e.ts := by
    rw [eventSlot, into, mul_comm]
    have := Int.mul_ediv_add_emod (e.ts - kind.shift zones) kind.length
    omega
  have hpos : 0 ≤ into kind zones e.ts ∧ into kind zones e.ts < kind.length := by
    cases kind <;> simp only [into, WindowKind.length] <;> omega
  simp only [inWindow, EventQuery.selects, windowQuery, windowBoundary_eq, Option.all_none,
    Option.all_some, Bool.true_and, Bool.and_eq_true, decide_eq_true_eq, InOwn, InLate]
  generalize into kind zones e.ts = r at *
  generalize eventSlot kind zones e.ts = j at *
  generalize dateSlot kind zones date = k at *
  generalize late kind date = m at *
  rw [hinto]
  generalize kind.shift zones = b
  cases kind <;> simp only [WindowKind.length] at * <;> omega

structure RollupRun where
  kind : WindowKind
  zones : Zones
  events : List TelemetryEvent
  roster : List String := []
  dates : List Int
  consecutive : dates.IsChain fun d d' => dateSlot kind zones d + 1 = dateSlot kind zones d'
  covers : ∀ e ∈ events, ∃ d ∈ dates, dateSlot kind zones d = eventSlot kind zones e.ts

namespace RollupRun
variable (run : RollupRun)

def found (date : Int) : List TelemetryEvent :=
  queryEvents run.events (windowQuery run.kind run.zones date)

/-- The events of a window past the first thousand. -/
def cutOff (date : Int) : List TelemetryEvent :=
  ((windowQuery run.kind run.zones date).ordered run.events).drop 1000

/-- An agent's counter, summed over the windows. -/
def sums (agentId : String) (c : Counter) : Nat :=
  (run.dates.map fun d =>
    reported (computeRollup run.events run.roster run.kind run.zones d) agentId c).sum

structure CountsOnce : Prop where
  once : ∀ e ∈ run.events, run.dates.countP (inWindow run.kind run.zones e) = 1
  sums : ∀ agentId c, isPseudo agentId = false →
    run.sums agentId c = run.events.countP (·.adds agentId c)

/-- The event lies in the window of its own slot, or else in the late end of the one before. -/
def FallsOnce (e : TelemetryEvent) : Prop :=
  (∃ d ∈ run.dates, InOwn run.kind run.zones e.ts d) ↔
    ¬ ∃ d ∈ run.dates, InLate run.kind run.zones e.ts d

theorem slots_nodup : (run.dates.map (dateSlot run.kind run.zones)).Nodup := by
  have hchain : (run.dates.map (dateSlot run.kind run.zones)).IsChain (· < ·) := by
    rw [List.isChain_map]
    exact run.consecutive.imp fun d d' h => by omega
  exact (List.isChain_iff_pairwise.mp hchain).imp fun h => ne_of_lt h

/-- At most one date is of a slot. -/
theorem countP_slot (slot : Int) (p : Int → Bool)
    (hp : ∀ d, p d → dateSlot run.kind run.zones d = slot) :
    run.dates.countP p = if ∃ d ∈ run.dates, p d then 1 else 0 := by
  split
  · next h =>
    have hle : run.dates.countP p ≤
        (run.dates.map (dateSlot run.kind run.zones)).count slot := by
      rw [List.count, List.countP_map]
      exact List.countP_mono_left fun d _ hd => by simpa using hp d hd
    have hone := List.nodup_iff_count_le_one.mp run.slots_nodup slot
    have hpos := List.countP_pos_iff.mpr h
    omega
  · next h => exact List.countP_eq_zero.mpr fun d hd hpd => h ⟨d, hd, hpd⟩

theorem once_iff (e : TelemetryEvent) :
    run.dates.countP (inWindow run.kind run.zones e) = 1 ↔ run.FallsOnce e := by
  have hsplit : run.dates.countP (inWindow run.kind run.zones e) =
      run.dates.countP (InOwn run.kind run.zones e.ts) +
        run.dates.countP (InLate run.kind run.zones e.ts) := by
    induction run.dates with
    | nil => rfl
    | cons d dates ih =>
      have hd : inWindow run.kind run.zones e d ↔ InOwn run.kind run.zones e.ts d ∨
          InLate run.kind run.zones e.ts d := inWindow_iff
      have hnot : ¬ (InOwn run.kind run.zones e.ts d ∧ InLate run.kind run.zones e.ts d) := by
        rintro ⟨⟨hown, _⟩, hlate, _⟩
        omega
      simp only [List.countP_cons, ih, decide_eq_true_eq, hd]
      by_cases hown : InOwn run.kind run.zones e.ts d <;>
        by_cases hlate : InLate run.kind run.zones e.ts d <;> simp_all <;> omega
  have hown := run.countP_slot _ (InOwn run.kind run.zones e.ts ·)
    fun d hd => (of_decide_eq_true hd).1
  have hlate := run.countP_slot (eventSlot run.kind run.zones e.ts - 1)
    (InLate run.kind run.zones e.ts ·) fun d hd => by have := (of_decide_eq_true hd).1; omega
  simp only [decide_eq_true_eq] at hown hlate
  rw [hsplit, FallsOnce, hown, hlate]
  split <;> split <;> simp_all

/-- What is reported of an agent is counted among the events that were found. -/
theorem reported_eq (date : Int) (c : Counter) (h : isPseudo agentId = false) :
    reported (computeRollup run.events run.roster run.kind run.zones date) agentId c =
      (run.found date).countP (·.adds agentId c) := by
  have hcount : (run.found date).countP (·.adds agentId c) =
      ((run.found date).filter (·.agentId = agentId)).countP (·.counter = some c) := by
    rw [List.countP_filter]
    refine List.countP_congr fun e _ => ?_
    simp [TelemetryEvent.adds, and_comm]
  rw [hcount, reported, computeRollup, List.find?_map]
  change (Option.map _ (Option.map _ (List.find? (fun a => decide (a = agentId)) _))).getD 0 = _
  cases hfind : List.find? (fun a => decide (a = agentId))
      ((((run.found date).map (·.agentId) ++ run.roster).eraseDups).filter (!isPseudo ·)) with
  | some a =>
    obtain rfl : a = agentId := by simpa using List.find?_some hfind
    exact (congrArg (fun o => (Option.map _ (Option.map _ o)).getD 0) hfind).trans rfl
  | none =>
    have hnone : (run.found date).filter (·.agentId = agentId) = [] := by
      rw [List.filter_eq_nil_iff]
      intro e he heq
      have hmem : agentId ∈ (((run.found date).map (·.agentId) ++ run.roster).eraseDups).filter
          (!isPseudo ·) := by
        rw [List.mem_filter, List.mem_eraseDups, List.mem_append, List.mem_map]
        exact ⟨.inl ⟨e, he, of_decide_eq_true heq⟩, by simp [h]⟩
      simpa using List.find?_eq_none.mp hfind agentId hmem
    rw [hnone, List.countP_nil]
    exact congrArg (fun o => (Option.map _ (Option.map _ o)).getD 0) hfind

theorem found_cutOff (date : Int) (p : TelemetryEvent → Bool) :
    (run.found date).countP p + (run.cutOff date).countP p =
      run.events.countP fun e => inWindow run.kind run.zones e date && p e := by
  have hall : (run.found date).countP p + (run.cutOff date).countP p =
      ((windowQuery run.kind run.zones date).ordered run.events).countP p := by
    rw [← List.countP_append]
    exact congrArg (List.countP p) (List.take_append_drop 1000 _)
  rw [hall, EventQuery.ordered, (List.mergeSort_perm _ _).countP_eq, List.countP_filter]
  exact List.countP_congr fun e _ => by rw [Bool.and_comm]; rfl

theorem sum_windows (h : ∀ e ∈ run.events, run.dates.countP (inWindow run.kind run.zones e) = 1)
    (p : TelemetryEvent → Bool) : (run.dates.map fun d =>
      run.events.countP fun e => inWindow run.kind run.zones e d && p e).sum =
        run.events.countP p := by
  generalize run.events = events at h
  induction events with
  | nil => simp
  | cons e events ih =>
    rw [List.forall_mem_cons] at h
    simp only [List.countP_cons, List.sum_map_add, ih h.2]
    congr 1
    have hsum (dates : List Int) : (dates.map fun d =>
        if inWindow run.kind run.zones e d && p e then 1 else 0).sum =
          if p e then dates.countP (inWindow run.kind run.zones e) else 0 := by
      induction dates with
      | nil => simp
      | cons d dates ih =>
        rw [List.map_cons, List.sum_cons, ih, List.countP_cons]
        by_cases hp : p e <;> simp [hp, Nat.add_comm]
    rw [hsum, h.1]

/-- The rollup counts each event once exactly if each falls in one window and no window has a
counted event past its first thousand. -/
theorem rollup_countsOnce : run.CountsOnce ↔ (∀ e ∈ run.events, run.FallsOnce e) ∧
    ∀ d ∈ run.dates, ∀ e ∈ run.cutOff d, isPseudo e.agentId = false → e.counter = none := by
  have honce : (∀ e ∈ run.events, run.dates.countP (inWindow run.kind run.zones e) = 1) ↔
      ∀ e ∈ run.events, run.FallsOnce e := forall₂_congr fun e _ => run.once_iff e
  have hsums (h : ∀ e ∈ run.events, run.dates.countP (inWindow run.kind run.zones e) = 1)
      (agentId : String) (c : Counter) (hagent : isPseudo agentId = false) :
      run.sums agentId c + (run.dates.map fun d =>
        (run.cutOff d).countP (·.adds agentId c)).sum = run.events.countP (·.adds agentId c) := by
    rw [← run.sum_windows h, RollupRun.sums, ← List.sum_map_add]
    refine congrArg List.sum (List.map_congr_left fun d _ => ?_)
    rw [run.reported_eq d c hagent, run.found_cutOff]
  constructor
  · rintro ⟨h, hcounts⟩
    refine ⟨honce.mp h, fun d hd e he hagent => ?_⟩
    cases hcounter : e.counter with
    | none => rfl
    | some c =>
      have hzero : (run.dates.map fun d =>
          (run.cutOff d).countP (·.adds e.agentId c)).sum = 0 := by
        have := hsums h e.agentId c hagent
        rw [hcounts e.agentId c hagent] at this
        omega
      have hnone := List.sum_eq_zero_iff_forall_eq_nat.mp hzero _ (List.mem_map_of_mem hd)
      exact absurd (by simp [TelemetryEvent.adds, hcounter]) (List.countP_eq_zero.mp hnone e he)
  · rintro ⟨hfalls, hcut⟩
    have h := honce.mpr hfalls
    refine ⟨h, fun agentId c hagent => ?_⟩
    have hzero : (run.dates.map fun d => (run.cutOff d).countP (·.adds agentId c)).sum = 0 := by
      rw [List.sum_eq_zero_iff_forall_eq_nat]
      intro n hn
      obtain ⟨d, hd, rfl⟩ := List.mem_map.mp hn
      rw [List.countP_eq_zero]
      intro e he hadds
      obtain ⟨heq, hcounter⟩ := Bool.and_eq_true_iff.mp hadds
      obtain rfl := of_decide_eq_true heq
      rw [hcut d hd e he hagent] at hcounter
      simp at hcounter
    have := hsums h agentId c hagent
    omega

end RollupRun

/-- An artifact is created in the last millisecond of an hour. -/
def lastMillisecond : RollupRun where
  kind := .hour
  zones := ⟨0, 0⟩
  events := [{ kind := "artifact.created", agentId := "max", ts := 3599999 }]
  dates := [0, 3600000]
  consecutive := by decide
  covers := by decide

/-- The event is in no window. -/
theorem lastMillisecond_missed : ¬ ∀ run : RollupRun, run.CountsOnce := by
  intro h
  have hcount := (h lastMillisecond).once _ (List.mem_singleton_self _)
  revert hcount
  decide

end IdAgents.Telemetry
