import Mathlib.Data.List.Induction
import Mathlib.Data.Rat.Floor

namespace IdAgents.Orchestration

def clamp (v lo hi : Rat) : Rat := min (max v lo) hi

def computeNextDelay (baseMs lastTickMs slowTickMs : Int) (backoffMax prevMult : Rat) : Int × Rat :=
  let cap := max 1 backoffMax
  let prev := clamp prevMult 1 cap
  let mult := if slowTickMs ≤ lastTickMs then min (prev * 2) cap else max (prev / 2) 1
  (⌊clamp (baseMs * mult) baseMs (baseMs * cap) + 1 / 2⌋, mult)

structure LoopConfig where
  enabled : Bool
  tickIntervalMs : Int
  slowTickMs : Int
  backoffMax : Rat

structure ArmedTimer where
  id : Nat
  delayMs : Int

structure DaemonLoop where
  timer : Option Nat := none
  backoffMult : Rat := 1
  stopped : Bool := false
  armed : List ArmedTimer := []
  running : Nat := 0
  nextId : Nat := 0

namespace DaemonLoop
section
variable (s : DaemonLoop)

def scheduleNext (delayMs : Int) : DaemonLoop :=
  { s with
    timer := some s.nextId
    armed := s.armed ++ [⟨s.nextId, delayMs⟩]
    nextId := s.nextId + 1 }

def start (cfg : LoopConfig) (s : DaemonLoop) : DaemonLoop :=
  if !cfg.enabled then s
  else if s.timer.isSome then s
  else { s with stopped := false, backoffMult := 1 }.scheduleNext cfg.tickIntervalMs

def stop : DaemonLoop :=
  { s with
    stopped := true
    timer := none
    armed := s.armed.filter fun t => s.timer ≠ some t.id }

def isArmed (id : Nat) : Bool := s.armed.any (·.id = id)

def fire (id : Nat) : DaemonLoop :=
  if s.isArmed id then
    { s with armed := s.armed.filter (·.id ≠ id), running := s.running + 1 }
  else s

end

def complete (cfg : LoopConfig) (s : DaemonLoop) (lastTickMs : Int) : DaemonLoop :=
  if s.running = 0 then s
  else if s.stopped then { s with running := s.running - 1 }
  else
    let next := computeNextDelay cfg.tickIntervalMs lastTickMs cfg.slowTickMs cfg.backoffMax
      s.backoffMult
    { s with running := s.running - 1, backoffMult := next.2 }.scheduleNext next.1

end DaemonLoop

inductive LoopEvent where
  | start | stop
  | fire (id : Nat)
  | complete (lastTickMs : Int)
deriving DecidableEq

def DaemonLoop.step (cfg : LoopConfig) (s : DaemonLoop) : LoopEvent → DaemonLoop
  | .start => s.start cfg
  | .stop => s.stop
  | .fire id => s.fire id
  | .complete lastTickMs => s.complete cfg lastTickMs

def runLoop (cfg : LoopConfig) (events : List LoopEvent) : DaemonLoop :=
  events.foldl (DaemonLoop.step cfg) {}

structure SingleChain (cfg : LoopConfig) (events : List LoopEvent) : Prop where
  one : ∀ before after, events = before ++ after →
    (runLoop cfg before).armed.length + (runLoop cfg before).running ≤ 1
  quiet : ∀ before between id after,
    events = before ++ .stop :: between ++ .fire id :: after → .start ∉ between →
      (runLoop cfg (before ++ .stop :: between)).isArmed id = false

def DaemonLoop.arms (cfg : LoopConfig) (s : DaemonLoop) : Bool := cfg.enabled && s.timer.isNone

def StartsIdle (cfg : LoopConfig) (events : List LoopEvent) : Prop :=
  ∀ before after, events = before ++ .start :: after → (runLoop cfg before).arms cfg →
    (runLoop cfg before).running = 0

structure DaemonLoop.Single (s : DaemonLoop) : Prop where
  one : s.armed.length + s.running ≤ 1
  held : ∀ t ∈ s.armed, s.timer = some t.id

variable {s : DaemonLoop}

theorem DaemonLoop.Single.scheduleNext (h : s.armed = []) (hrun : s.running = 0)
    (delayMs : Int) : (s.scheduleNext delayMs).Single where
  one := by simp [DaemonLoop.scheduleNext, h, hrun]
  held := by simp [DaemonLoop.scheduleNext, h]

theorem DaemonLoop.Single.unheld (h : s.Single) (htimer : s.timer = none) : s.armed = [] := by
  rw [List.eq_nil_iff_forall_not_mem]
  intro t ht
  have hheld := h.held t ht
  rw [htimer] at hheld
  cases hheld

theorem DaemonLoop.Single.step (h : s.Single)
    (hidle : e = .start → s.arms cfg → s.running = 0) : (s.step cfg e).Single := by
  have hone := h.one
  cases e with
  | start =>
    change (s.start cfg).Single
    rw [DaemonLoop.start]
    split
    · exact h
    split
    · exact h
    next henabled htimer =>
    have hnone : s.timer = none := by simpa using htimer
    have harms : s.arms cfg := by
      rw [DaemonLoop.arms]
      rw [hnone]
      simpa using henabled
    have hnil := h.unheld hnone
    have hrun := hidle rfl harms
    apply DaemonLoop.Single.scheduleNext
    · exact hnil
    · exact hrun
  | stop =>
    refine ⟨?_, ?_⟩
    · have hle := List.length_filter_le (fun t : ArmedTimer => s.timer ≠ some t.id) s.armed
      exact (Nat.add_le_add_right hle _).trans hone
    · intro t ht
      obtain ⟨hmem, hnot⟩ := List.mem_filter.mp ht
      exact absurd (h.held t hmem) (of_decide_eq_true hnot)
  | fire id =>
    change (s.fire id).Single
    rw [DaemonLoop.fire]
    split
    · next harmed =>
      have hmem : ∃ t ∈ s.armed, t.id = id := by simpa [DaemonLoop.isArmed] using harmed
      obtain ⟨t, ht, hid⟩ := hmem
      have hless := List.length_filter_lt_length_iff_exists (l := s.armed)
        (p := fun t : ArmedTimer => t.id ≠ id) |>.mpr ⟨t, ht, by simp [hid]⟩
      refine ⟨?_, fun t ht => h.held t (List.mem_filter.mp ht).1⟩
      dsimp only
      omega
    · exact h
  | complete lastTickMs =>
    change (s.complete cfg lastTickMs).Single
    rw [DaemonLoop.complete]
    split
    · exact h
    next hrunning =>
    have hnil : s.armed = [] := List.eq_nil_of_length_eq_zero (by omega)
    split
    · refine ⟨?_, h.held⟩
      dsimp only
      omega
    · apply DaemonLoop.Single.scheduleNext
      · exact hnil
      · dsimp only
        omega

theorem runLoop_append (cfg : LoopConfig) (before after : List LoopEvent) :
    runLoop cfg (before ++ after) = after.foldl (DaemonLoop.step cfg) (runLoop cfg before) :=
  List.foldl_append

theorem StartsIdle.initial (h : StartsIdle cfg (before ++ after)) : StartsIdle cfg before := by
  intro earlier later hsplit
  exact h earlier (later ++ after) (by rw [hsplit, List.append_assoc, List.cons_append])

theorem runLoop_single (h : StartsIdle cfg events) : (runLoop cfg events).Single := by
  induction events using List.reverseRecOn with
  | nil => exact ⟨Nat.zero_le _, fun t ht => absurd ht List.not_mem_nil⟩
  | append_singleton events e ih =>
    rw [runLoop_append]
    apply (ih h.initial).step
    rintro rfl harms
    exact h events [] rfl harms

structure DaemonLoop.Halted (s : DaemonLoop) : Prop where
  stopped : s.stopped
  armed : s.armed = []

theorem DaemonLoop.Single.stop (h : s.Single) : s.stop.Halted where
  stopped := rfl
  armed := by
    rw [DaemonLoop.stop]
    rw [List.filter_eq_nil_iff]
    intro t ht hnot
    exact of_decide_eq_true hnot (h.held t ht)

theorem DaemonLoop.Halted.step (h : s.Halted) (he : e ≠ .start) : (s.step cfg e).Halted := by
  cases e with
  | start => exact absurd rfl he
  | stop =>
    refine ⟨rfl, ?_⟩
    change s.armed.filter _ = []
    rw [h.armed]
    rfl
  | fire id =>
    change (s.fire id).Halted
    unfold DaemonLoop.fire DaemonLoop.isArmed
    rw [h.armed]
    exact h
  | complete lastTickMs =>
    change (s.complete cfg lastTickMs).Halted
    rw [DaemonLoop.complete]
    rw [if_pos h.stopped]
    split
    · exact h
    · exact ⟨h.stopped, h.armed⟩

theorem DaemonLoop.Halted.run {events : List LoopEvent} (h : s.Halted)
    (hevents : .start ∉ events) : (events.foldl (DaemonLoop.step cfg) s).Halted := by
  induction events generalizing s with
  | nil => exact h
  | cons e events ih =>
    rw [List.mem_cons, not_or] at hevents
    exact ih (h.step (Ne.symm hevents.1)) hevents.2

/-- The loop stays single exactly when no start arms a timer under a tick that still runs. -/
theorem singleChain_iff (cfg : LoopConfig) (events : List LoopEvent) :
    SingleChain cfg events ↔ StartsIdle cfg events := by
  constructor
  · intro h before after hsplit harms
    have hone := h.one (before ++ [.start]) after (by rw [hsplit]; simp)
    rw [runLoop_append] at hone
    change ((runLoop cfg before).start cfg).armed.length +
      ((runLoop cfg before).start cfg).running ≤ 1 at hone
    rw [DaemonLoop.arms] at harms
    rw [Bool.and_eq_true, Option.isNone_iff_eq_none] at harms
    rw [DaemonLoop.start] at hone
    rw [harms.1, harms.2] at hone
    simp only [Bool.not_true, Bool.false_eq_true, if_false, Option.isSome_none,
      DaemonLoop.scheduleNext, List.length_append, List.length_singleton] at hone
    omega
  · intro h
    constructor
    case one =>
      intro before after hsplit
      rw [hsplit] at h
      exact (runLoop_single h.initial).one
    case quiet =>
      intro before between id after hsplit hbetween
      rw [hsplit, List.append_assoc] at h
      have hhalted : (runLoop cfg (before ++ .stop :: between)).Halted := by
        rw [runLoop_append]
        exact (runLoop_single h.initial).stop.run hbetween
      rw [DaemonLoop.isArmed]
      rw [hhalted.armed]
      rfl

def restartedUnderTick : List LoopEvent := [.start, .fire 0, .stop, .start, .complete 40]

/-- The first tick re-arms the loop that has been started anew. -/
theorem not_singleChain : ¬ SingleChain ⟨true, 60000, 1500, 8⟩ restartedUnderTick := by
  intro h
  have hone := h.one restartedUnderTick [] (List.append_nil _).symm
  revert hone
  decide +kernel

end IdAgents.Orchestration
