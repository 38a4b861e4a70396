import Mathlib.Data.List.Infix

namespace IdAgents.Agent.Watchdog
open List Option

def killGraceMs : Nat := 2000

/-- `setTimeout` turns a delay that is out of range into one millisecond. -/
def timerDelay (ms : Nat) : Nat := if 1 ≤ ms ∧ ms ≤ 2147483647 then ms else 1

inductive Signal where
  | sigterm | sigkill
deriving DecidableEq

/-- Where the generator stands: before its next poll, in the race after a timeout, or at its end.
Each timer has the time it is due at. -/
inductive LoopPhase where
  | polling (due : Nat)
  | racing (due : Nat)
  | ended
deriving DecidableEq

/-- A child, the timers of its watchdog and the generator. Beside them stand the times of the exit,
of the first failure or exit and of the second completion. -/
structure ChildRun where
  now : Nat
  timer : Option Nat
  killTimer : Option Nat
  timedOutAt : Option Nat
  running : Bool
  killed : Bool
  signals : List (Nat × Signal)
  stdoutEnded : Bool
  completionCount : Nat
  lines : Nat
  processedLines : Nat
  phase : LoopPhase
  exitedAt : Option Nat
  goneAt : Option Nat
  completedAt : Option Nat

/-- What happens to a run: the child fails to spawn, writes lines, ends its output or exits, and a
millisecond passes. -/
inductive ChildEvent where
  | spawnError
  | stdoutLines (count : Nat)
  | stdoutEnd
  | exit
  | tick
section
variable (s : ChildRun)

def clearWatchdog : ChildRun := { s with timer := none, killTimer := none }

/-- `proc.kill`: a signal goes to a process that runs, and sets `killed`. -/
def kill (signal : Signal) (s : ChildRun) : ChildRun :=
  if s.running then { s with killed := true, signals := s.signals ++ [(s.now, signal)] } else s

def fireTimeout : ChildRun :=
  if s.timer = some s.now then
    let s := kill .sigterm { s with timer := none, timedOutAt := some s.now }
    { s with killTimer := some (s.now + timerDelay killGraceMs) }
  else s

def fireKill : ChildRun :=
  if s.killTimer = some s.now then
    if s.killed then { s with killTimer := none } else kill .sigkill { s with killTimer := none }
  else s

/-- `checkDone`: the second completion resolves the promise, which ends the race. -/
def checkDone : ChildRun :=
  if s.completionCount + 1 < 2 then { s with completionCount := s.completionCount + 1 }
  else
    { s with
      completionCount := s.completionCount + 1
      completedAt := s.completedAt.or (some s.now)
      phase := match s.phase with
        | .racing _ => .ended
        | phase => phase }

/-- The end of the loop. Without a timeout it is left only when both completions are in. -/
def leaveLoop : ChildRun :=
  if s.completionCount < 2 then
    { s with phase := .racing (s.now + timerDelay (killGraceMs + 1000)) }
  else { s with phase := .ended }

def poll : ChildRun :=
  match s.phase with
  | .polling due =>
    if due = s.now then
      let s := { s with processedLines := s.lines }
      if s.timedOutAt.any fun t => killGraceMs + 1000 < s.now - t then leaveLoop s
      else if s.completionCount < 2 ∨ s.processedLines < s.lines then
        { s with phase := .polling (s.now + 100) }
      else leaveLoop s
    else s
  | .racing due => if due = s.now then { s with phase := .ended } else s
  | .ended => s

def fire : ChildRun := fireKill (fireTimeout { s with now := s.now + 1 })

def gone : ChildRun :=
  { clearWatchdog s with running := false, goneAt := s.goneAt.or (some s.now) }

def childStep : ChildEvent → ChildRun
  | .spawnError => gone s
  | .stdoutLines count => { s with lines := s.lines + count }
  | .stdoutEnd => if s.stdoutEnded then s else checkDone { s with stdoutEnded := true }
  | .exit =>
    if s.exitedAt.isSome then s else checkDone { gone s with exitedAt := some s.now }
  | .tick => poll (fire s)

end

section
variable (timeoutMs : Nat)

/-- A child with its watchdog armed, before the first poll. -/
def spawned : ChildRun where
  now := 0
  timer := if 0 < timeoutMs then some (timerDelay timeoutMs) else none
  killTimer := none
  timedOutAt := none
  running := true
  killed := false
  signals := []
  stdoutEnded := false
  completionCount := 0
  lines := 0
  processedLines := 0
  phase := .polling 100
  exitedAt := none
  goneAt := none
  completedAt := none

/-- The loops of `CodexHarness.run` and `CursorCliHarness.run`. -/
def childRun (events : List ChildEvent) : ChildRun :=
  events.foldl childStep (spawned timeoutMs)

/-- The generator has ended in time, a child that still runs after the grace period has been sent
`SIGKILL`, and none has been sent a signal after its exit. -/
structure Unwedged (n : Nat) (s : ChildRun) : Prop where
  afterTimeout : ∀ t, s.timedOutAt = some t → t + 2 * killGraceMs + 2100 ≤ s.now → s.phase = .ended
  afterGone : ∀ t, s.goneAt = some t → s.timedOutAt = none → t + n + 100 ≤ s.now → s.phase = .ended
  escalates : ∀ t, s.timedOutAt = some t → t + killGraceMs ≤ s.now → s.running = true →
    ∃ u, (u, .sigkill) ∈ s.signals
  spares : ∀ u signal t, (u, signal) ∈ s.signals → s.exitedAt = some t → u ≤ t

/-- A child that is gone in time has exited and ended its output within `n` milliseconds, and one
that is timed out does not outlive the grace period. -/
structure Orderly (n : Nat) (s : ChildRun) : Prop where
  completes : ∀ t, s.goneAt = some t → s.timedOutAt = none → t + n ≤ s.now → 2 ≤ s.completionCount
  obeys : ∀ t, s.timedOutAt = some t → t + killGraceMs ≤ s.now → s.running = false

/-- What the timers of a millisecond change. -/
theorem fire_spec (s : ChildRun) : (fire s).now = s.now + 1 ∧ (fire s).phase = s.phase ∧
    (fire s).completionCount = s.completionCount ∧ (fire s).completedAt = s.completedAt ∧
    (fire s).goneAt = s.goneAt ∧ (fire s).exitedAt = s.exitedAt ∧ (fire s).running = s.running ∧
    ((fire s).timedOutAt = s.timedOutAt ∨ (fire s).timedOutAt = some (s.now + 1)) ∧
    (∀ x ∈ (fire s).signals, x ∈ s.signals ∨ s.running = true ∧ x.1 = s.now + 1) := by
  have htimeout : ∀ r : ChildRun, (fireTimeout r).now = r.now ∧ (fireTimeout r).phase = r.phase ∧
      (fireTimeout r).completionCount = r.completionCount ∧
      (fireTimeout r).completedAt = r.completedAt ∧ (fireTimeout r).goneAt = r.goneAt ∧
      (fireTimeout r).exitedAt = r.exitedAt ∧ (fireTimeout r).running = r.running ∧
      ((fireTimeout r).timedOutAt = r.timedOutAt ∨ (fireTimeout r).timedOutAt = some r.now) ∧
      (∀ x ∈ (fireTimeout r).signals, x ∈ r.signals ∨ r.running = true ∧ x.1 = r.now) := by
    intro r
    rw [fireTimeout, kill]
    split
    · dsimp only
      split
      · rename_i hrunning
        refine ⟨rfl, rfl, rfl, rfl, rfl, rfl, rfl, .inr rfl, fun x hx => ?_⟩
        obtain hx | hx := mem_append.mp hx
        · exact .inl hx
        · rw [mem_singleton.mp hx]
          exact .inr ⟨hrunning, rfl⟩
      · exact ⟨rfl, rfl, rfl, rfl, rfl, rfl, rfl, .inr rfl, fun _ hx => .inl hx⟩
    · exact ⟨rfl, rfl, rfl, rfl, rfl, rfl, rfl, .inl rfl, fun _ hx => .inl hx⟩
  have hkill : ∀ r : ChildRun, (fireKill r).now = r.now ∧ (fireKill r).phase = r.phase ∧
      (fireKill r).completionCount = r.completionCount ∧
      (fireKill r).completedAt = r.completedAt ∧ (fireKill r).goneAt = r.goneAt ∧
      (fireKill r).exitedAt = r.exitedAt ∧ (fireKill r).running = r.running ∧
      (fireKill r).timedOutAt = r.timedOutAt ∧
      (∀ x ∈ (fireKill r).signals, x ∈ r.signals ∨ r.running = true ∧ x.1 = r.now) := by
    intro r
    rw [fireKill, kill]
    split
    · split
      · exact ⟨rfl, rfl, rfl, rfl, rfl, rfl, rfl, rfl, fun _ hx => .inl hx⟩
      · split
        · rename_i hrunning
          refine ⟨rfl, rfl, rfl, rfl, rfl, rfl, rfl, rfl, fun x hx => ?_⟩
          obtain hx | hx := mem_append.mp hx
          · exact .inl hx
          · rw [mem_singleton.mp hx]
            exact .inr ⟨hrunning, rfl⟩
        · exact ⟨rfl, rfl, rfl, rfl, rfl, rfl, rfl, rfl, fun _ hx => .inl hx⟩
    · exact ⟨rfl, rfl, rfl, rfl, rfl, rfl, rfl, rfl, fun _ hx => .inl hx⟩
  obtain ⟨a₁, a₂, a₃, a₄, a₅, a₆, a₇, a₈, a₉⟩ := htimeout { s with now := s.now + 1 }
  obtain ⟨b₁, b₂, b₃, b₄, b₅, b₆, b₇, b₈, b₉⟩ := hkill (fireTimeout { s with now := s.now + 1 })
  refine ⟨b₁.trans a₁, b₂.trans a₂, b₃.trans a₃, b₄.trans a₄, b₅.trans a₅, b₆.trans a₆,
    b₇.trans a₇, ?_, fun x hx => ?_⟩
  · rw [fire, b₈]
    exact a₈
  · obtain hx | ⟨hrunning, htime⟩ := b₉ x hx
    · exact a₉ x hx
    · exact .inr ⟨a₇.symm.trans hrunning, htime.trans a₁⟩

/-- What holds of a run, where `k` is one while the poll of a millisecond is still to come. -/
structure Timed (k : Nat) (s : ChildRun) : Prop where
  polling : ∀ d, s.phase = .polling d → s.now < d + k ∧ d ≤ s.now + 100 ∧
    (∀ t, s.timedOutAt = some t → d ≤ t + killGraceMs + 1100) ∧
    (∀ c, s.completedAt = some c → d ≤ c + 100)
  racing : ∀ d, s.phase = .racing d → s.now < d + k ∧
    ∃ t, s.timedOutAt = some t ∧ d ≤ t + 2 * killGraceMs + 2100
  completed : 2 ≤ s.completionCount ↔ s.completedAt.isSome
  timedOut : ∀ t, s.timedOutAt = some t → t ≤ s.now
  completedAt : ∀ c, s.completedAt = some c → c ≤ s.now
  exited : ∀ t, s.exitedAt = some t → s.running = false
  signals : ∀ u signal, (u, signal) ∈ s.signals → u ≤ s.now
  spares : ∀ u signal t, (u, signal) ∈ s.signals → s.exitedAt = some t → u ≤ t

theorem spawned_timed : Timed 0 (spawned timeoutMs) := by
  constructor <;> simp [spawned]

theorem Timed.gone (h : Timed 0 s) : Timed 0 (gone s) where
  polling := h.polling
  racing := h.racing
  completed := h.completed
  timedOut := h.timedOut
  completedAt := h.completedAt
  exited _ _ := rfl
  signals := h.signals
  spares := h.spares

theorem Timed.checkDone (h : Timed 0 s) : Timed 0 (checkDone s) := by
  rw [Watchdog.checkDone]
  split
  · rename_i hcount
    refine { h with completed := ?_ }
    have hnone : ¬ s.completedAt.isSome := by
      rw [← h.completed]
      omega
    exact iff_of_false (by dsimp only; omega) hnone
  · rename_i hcount
    refine { h with polling := ?_, racing := ?_, completed := ?_, completedAt := ?_ }
    · intro d hd
      have hphase : s.phase = .polling d := by
        cases hs : s.phase with
        | polling e => simpa [hs] using hd
        | racing e => simp [hs] at hd
        | ended => simp [hs] at hd
      obtain ⟨hnow, hnext, htimeout, hcompleted⟩ := h.polling d hphase
      refine ⟨hnow, hnext, htimeout, fun c hc => ?_⟩
      cases hs : s.completedAt with
      | none =>
        simp only [hs, none_or, Option.some.injEq] at hc
        omega
      | some c' =>
        simp only [hs, some_or, Option.some.injEq] at hc
        rw [← hc]
        exact hcompleted c' hs
    · intro d hd
      cases hs : s.phase with
      | polling e => simp [hs] at hd
      | racing e => simp [hs] at hd
      | ended => simp [hs] at hd
    · refine iff_of_true (by dsimp only; omega) ?_
      cases hs : s.completedAt <;> rfl
    · intro c hc
      cases hs : s.completedAt with
      | none =>
        simp only [hs, none_or, Option.some.injEq] at hc
        exact hc.ge
      | some c' =>
        simp only [hs, some_or, Option.some.injEq] at hc
        rw [← hc]
        exact h.completedAt c' hs

theorem Timed.fire (h : Timed 0 s) : Timed 1 (fire s) := by
  obtain ⟨hnow, hphase, hcount, hcompleted, -, hexited, hrunning, htimeout, hsignals⟩ := fire_spec s
  constructor
  · intro d hd
    rw [hphase] at hd
    obtain ⟨hlt, hnext, hafter, hdone⟩ := h.polling d hd
    refine ⟨by omega, by omega, fun t ht => ?_, fun c hc => hdone c (hcompleted.symm.trans hc)⟩
    obtain heq | heq := htimeout
    · exact hafter t (heq.symm.trans ht)
    · obtain rfl : s.now + 1 = t := Option.some.inj (heq.symm.trans ht)
      omega
  · intro d hd
    rw [hphase] at hd
    obtain ⟨hlt, t, ht, hle⟩ := h.racing d hd
    refine ⟨by omega, ?_⟩
    obtain heq | heq := htimeout
    · exact ⟨t, heq.trans ht, hle⟩
    · have := h.timedOut t ht
      exact ⟨_, heq, by omega⟩
  · rw [hcount, hcompleted]
    exact h.completed
  · intro t ht
    obtain heq | heq := htimeout
    · have := h.timedOut t (heq.symm.trans ht)
      omega
    · obtain rfl : s.now + 1 = t := Option.some.inj (heq.symm.trans ht)
      omega
  · intro c hc
    have := h.completedAt c (hcompleted.symm.trans hc)
    omega
  · intro t ht
    rw [hrunning]
    exact h.exited t (hexited.symm.trans ht)
  · intro u signal hu
    obtain hold | ⟨-, hu⟩ := hsignals _ hu
    · have := h.signals u signal hold
      omega
    · dsimp only at hu
      omega
  · intro u signal t hu ht
    have ht' := hexited.symm.trans ht
    obtain hold | ⟨hruns, -⟩ := hsignals _ hu
    · exact h.spares u signal t hold ht'
    · rw [h.exited t ht'] at hruns
      cases hruns

theorem timerDelay_race : timerDelay (killGraceMs + 1000) = killGraceMs + 1000 := rfl

/-- Leaving the loop: after a timeout the race ends in time, and otherwise both completions are
in. -/
theorem Timed.leaveLoop (h : Timed k s)
    (hrace : s.completionCount < 2 → ∃ t, s.timedOutAt = some t ∧ s.now ≤ t + killGraceMs + 1100) :
    Timed 0 (leaveLoop s) := by
  rw [Watchdog.leaveLoop]
  split
  · rename_i hcount
    obtain ⟨t, ht, hle⟩ := hrace hcount
    refine { h with polling := fun d hd => (by cases hd), racing := fun d hd => ?_ }
    cases hd
    rw [timerDelay_race]
    have hsoon : ∀ a g : Nat, a < a + (g + 1000) + 0 := by omega
    have hend : ∀ a b g : Nat, a ≤ b + g + 1100 → a + (g + 1000) ≤ b + 2 * g + 2100 := by omega
    exact ⟨hsoon _ _, t, ht, hend _ _ _ hle⟩
  · refine { h with polling := fun d hd => ?_, racing := fun d hd => ?_ } <;> cases hd

theorem Timed.poll (h : Timed 1 s) : Timed 0 (poll s) := by
  rw [Watchdog.poll.eq_def]
  cases hphase : s.phase with
  | ended =>
    refine { h with polling := fun d hd => ?_, racing := fun d hd => ?_ } <;>
    · rw [hphase] at hd
      cases hd
  | racing due =>
    obtain ⟨hlt, hrest⟩ := h.racing due hphase
    dsimp only
    split
    · refine { h with polling := fun d hd => ?_, racing := fun d hd => ?_ } <;> cases hd
    · rename_i hne
      refine { h with polling := fun d hd => ?_, racing := fun d hd => ?_ }
      · rw [hphase] at hd
        cases hd
      · rw [hphase] at hd
        cases hd
        exact ⟨by omega, hrest⟩
  | polling due =>
    obtain ⟨hlt, hnext, hafter, hdone⟩ := h.polling due hphase
    dsimp only
    split
    · rename_i hdue
      have hread : Timed 1 { s with processedLines := s.lines } := { h with }
      split
      · rename_i hwindow
        obtain ⟨t, ht, -⟩ := (Option.any_eq_true ..).mp hwindow
        have := hafter t ht
        exact hread.leaveLoop fun _ => ⟨t, ht, by dsimp only; omega⟩
      · rename_i hwindow
        split
        · rename_i hwait
          have hcount : s.completionCount < 2 := hwait.resolve_right (lt_irrefl _)
          refine { hread with polling := fun d hd => ?_, racing := fun d hd => by cases hd }
          cases hd
          refine ⟨by dsimp only; omega, le_rfl, fun t ht => ?_, fun c hc => ?_⟩
          · have hwithin : ¬ killGraceMs + 1000 < s.now - t := by
              intro hpassed
              exact hwindow ((Option.any_eq_true ..).mpr ⟨t, ht, decide_eq_true hpassed⟩)
            omega
          · have hboth := h.completed.mpr (isSome_iff_exists.mpr ⟨c, hc⟩)
            omega
        · rename_i hwait
          exact hread.leaveLoop fun hcount => absurd (.inl hcount) hwait
    · rename_i hdue
      refine { h with polling := fun d hd => ?_, racing := fun d hd => ?_ }
      · rw [hphase] at hd
        cases hd
        exact ⟨by omega, hnext, hafter, hdone⟩
      · rw [hphase] at hd
        cases hd

theorem Timed.step (h : Timed 0 s) (e : ChildEvent) : Timed 0 (childStep s e) := by
  cases e with
  | spawnError => exact h.gone
  | stdoutLines count => exact { h with }
  | stdoutEnd =>
    rw [childStep]
    split
    · exact h
    · exact Timed.checkDone { h with }
  | exit =>
    rw [childStep]
    split
    · exact h
    · refine Timed.checkDone { h.gone with exited := fun _ _ => rfl, spares := ?_ }
      intro u signal t hu ht
      cases ht
      exact h.signals u signal hu
  | tick => exact h.fire.poll

theorem childRun_timed (events : List ChildEvent) : Timed 0 (childRun timeoutMs events) := by
  induction events using reverseRecOn with
  | nil => exact spawned_timed timeoutMs
  | append_singleton events e ih =>
    rw [childRun, foldl_append]
    exact ih.step e

end

theorem poll_fields (s : ChildRun) : (poll s).now = s.now ∧ (poll s).completedAt = s.completedAt ∧
    (poll s).goneAt = s.goneAt ∧ (poll s).timedOutAt = s.timedOutAt := by
  have hleave : ∀ r : ChildRun, (leaveLoop r).now = r.now ∧
      (leaveLoop r).completedAt = r.completedAt ∧ (leaveLoop r).goneAt = r.goneAt ∧
      (leaveLoop r).timedOutAt = r.timedOutAt := by
    intro r
    rw [leaveLoop]
    split <;> exact ⟨rfl, rfl, rfl, rfl⟩
  rw [poll.eq_def]
  split
  · split
    · dsimp only
      split
      · exact hleave _
      · split
        · exact ⟨rfl, rfl, rfl, rfl⟩
        · exact hleave _
    · exact ⟨rfl, rfl, rfl, rfl⟩
  · split <;> exact ⟨rfl, rfl, rfl, rfl⟩
  · exact ⟨rfl, rfl, rfl, rfl⟩

/-- What one event can do to the times of a run. -/
structure Moves (s s' : ChildRun) : Prop where
  now : s'.now ≤ s.now + 1
  completedAt : ∀ c, s.completedAt = some c → s'.completedAt = some c
  goneAt : s'.goneAt = s.goneAt ∨ s.goneAt = none ∧ s'.goneAt = some s'.now
  timedOutAt : s'.timedOutAt = none → s.timedOutAt = none

theorem checkDone_moves (h : Moves s r) : Moves s (checkDone r) := by
  rw [checkDone]
  split
  · exact { h with }
  · refine { h with completedAt := fun c hc => ?_ }
    dsimp only
    rw [h.completedAt c hc, some_or]

theorem gone_moves (s : ChildRun) : Moves s (gone s) := by
  refine ⟨Nat.le_succ _, fun _ h => h, ?_, fun h => h⟩
  cases hs : s.goneAt with
  | none => exact .inr ⟨rfl, by simp [gone, clearWatchdog, hs]⟩
  | some t => exact .inl (by simp [gone, clearWatchdog, hs])

theorem childStep_moves (s : ChildRun) (e : ChildEvent) : Moves s (childStep s e) := by
  have hrefl : Moves s s := ⟨Nat.le_succ _, fun _ h => h, .inl rfl, fun h => h⟩
  cases e with
  | spawnError => exact gone_moves s
  | stdoutLines count => exact { hrefl with }
  | stdoutEnd =>
    rw [childStep]
    split
    · exact hrefl
    · exact checkDone_moves { hrefl with }
  | exit =>
    rw [childStep]
    split
    · exact hrefl
    · exact checkDone_moves { gone_moves s with }
  | tick =>
    obtain ⟨hnow, -, -, hcompleted, hgone, -, -, htimeout, -⟩ := fire_spec s
    obtain ⟨hnow', hcompleted', hgone', htimeout'⟩ := poll_fields (fire s)
    refine ⟨(hnow'.trans hnow).le, fun c hc => hcompleted'.trans (hcompleted.trans hc),
      .inl (hgone'.trans hgone), fun hnone => ?_⟩
    obtain heq | heq := htimeout
    · exact heq.symm.trans (htimeout'.symm.trans hnone)
    · cases heq.symm.trans (htimeout'.symm.trans hnone)

/-- A child that is gone in time has both completions in time, if every prefix of the run is
orderly. -/
theorem childRun_completes (h : ∀ es, es <+: events → Orderly n (childRun timeoutMs es)) (t : Nat)
    (hgone : (childRun timeoutMs events).goneAt = some t)
    (htimeout : (childRun timeoutMs events).timedOutAt = none) :
    (childRun timeoutMs events).now < t + n ∨
      ∃ c, (childRun timeoutMs events).completedAt = some c ∧ c ≤ t + n := by
  induction events using reverseRecOn with
  | nil => cases hgone
  | append_singleton events e ih =>
    have hbefore := ih fun es hes => h es (hes.trans (prefix_append _ _))
    have horderly := h _ prefix_rfl
    have htimed := childRun_timed timeoutMs (events ++ [e])
    have hstep : childRun timeoutMs (events ++ [e]) = childStep (childRun timeoutMs events) e := by
      rw [childRun, foldl_append]
      rfl
    have hmoves := childStep_moves (childRun timeoutMs events) e
    rw [← hstep] at hmoves
    by_cases hsoon : (childRun timeoutMs (events ++ [e])).now < t + n
    · exact .inl hsoon
    · obtain ⟨c, hc⟩ := isSome_iff_exists.mp
        (htimed.completed.mp (horderly.completes t hgone htimeout (le_of_not_gt hsoon)))
      have hpast := htimed.completedAt c hc
      refine .inr ⟨c, hc, ?_⟩
      obtain hsame | ⟨-, hnew⟩ := hmoves.goneAt
      · obtain hearly | ⟨c', hc', hle⟩ := hbefore (hsame.symm.trans hgone) (hmoves.timedOutAt htimeout)
        · have := hmoves.now
          omega
        · cases (hmoves.completedAt c' hc').symm.trans hc
          exact hle
      · cases hnew.symm.trans hgone
        omega

/-- In a run whose prefixes are all orderly the generator ends in time, and the signals are as they
should be. -/
theorem childRun_unwedged (timeoutMs n : Nat) (events : List ChildEvent)
    (h : ∀ es, es <+: events → Orderly n (childRun timeoutMs es)) :
    ∀ es, es <+: events → Unwedged n (childRun timeoutMs es) := by
  intro es hes
  have htimed := childRun_timed timeoutMs es
  have horderly := h es hes
  constructor
  · intro t ht hlate
    cases hphase : (childRun timeoutMs es).phase with
    | ended => rfl
    | polling d =>
      obtain ⟨hlt, -, hafter, -⟩ := htimed.polling d hphase
      have := hafter t ht
      omega
    | racing d =>
      obtain ⟨hlt, t', ht', hle⟩ := htimed.racing d hphase
      cases ht.symm.trans ht'
      omega
  · intro t hgone hnone hlate
    cases hphase : (childRun timeoutMs es).phase with
    | ended => rfl
    | racing d =>
      obtain ⟨-, t', ht', -⟩ := htimed.racing d hphase
      cases hnone.symm.trans ht'
    | polling d =>
      obtain ⟨hlt, -, -, hdone⟩ := htimed.polling d hphase
      obtain hsoon | ⟨c, hc, hle⟩ := childRun_completes (fun fs hfs => h fs (hfs.trans hes)) t hgone
        hnone
      · omega
      · have := hdone c hc
        omega
  · intro t ht hlate hrunning
    rw [horderly.obeys t ht hlate] at hrunning
    cases hrunning
  · exact htimed.spares

/-- The output has ended and the child has exited before the first poll. -/
theorem done_unwedged : Unwedged 0 (childRun 1800000 [.stdoutEnd, .exit]) := by
  refine childRun_unwedged 1800000 0 [.stdoutEnd, .exit] (fun es hes => ?_) _ prefix_rfl
  have hprefix : es ∈ [[], [.stdoutEnd], [.stdoutEnd, .exit]] := (mem_inits ..).mpr hes
  simp only [mem_cons, not_mem_nil, or_false] at hprefix
  obtain rfl | rfl | rfl := hprefix
  · exact ⟨fun _ hgone => (by cases hgone), fun _ ht => (by cases ht)⟩
  · exact ⟨fun _ hgone => (by cases hgone), fun _ ht => (by cases ht)⟩
  · exact ⟨fun _ _ _ _ => le_rfl, fun _ ht => (by cases ht)⟩

/-- The state of a run whose child could not be spawned and says nothing more. -/
structure Stuck (s : ChildRun) : Prop where
  timer : s.timer = none
  killTimer : s.killTimer = none
  timedOutAt : s.timedOutAt = none
  completionCount : s.completionCount = 0
  goneAt : s.goneAt = some 0
  polling : ∃ d, s.phase = .polling d

theorem Stuck.tick (h : Stuck s) :
    Stuck (childStep s .tick) ∧ (childStep s .tick).now = s.now + 1 := by
  obtain ⟨d, hphase⟩ := h.polling
  have hfire : fire s = { s with now := s.now + 1 } := by
    rw [fire, fireTimeout, if_neg (by simp [h.timer]), fireKill, if_neg (by simp [h.killTimer])]
  rw [childStep, hfire, poll.eq_def]
  simp only [hphase, h.timedOutAt, any_none, Bool.false_eq_true, if_false, h.completionCount,
    Nat.zero_lt_two, true_or, if_true]
  split
  · exact ⟨⟨h.timer, h.killTimer, rfl, rfl, h.goneAt, _, rfl⟩, rfl⟩
  · exact ⟨⟨h.timer, h.killTimer, rfl, rfl, h.goneAt, _, rfl⟩, rfl⟩

theorem stuck_childRun (k : Nat) : Stuck (childRun 1800000 (.spawnError :: replicate k .tick)) ∧
      (childRun 1800000 (.spawnError :: replicate k .tick)).now = k := by
  induction k with
  | zero => exact ⟨⟨rfl, rfl, rfl, rfl, rfl, _, rfl⟩, rfl⟩
  | succ k ih =>
    obtain ⟨hstuck, hnow⟩ := ih
    rw [replicate_succ', ← cons_append, childRun, foldl_append]
    obtain ⟨hstuck', hnow'⟩ := hstuck.tick
    exact ⟨hstuck', hnow'.trans (by rw [hnow])⟩

/-- No time suffices where the child failed to spawn. -/
theorem spawnError_wedges :
    ¬ ∃ n, ∀ timeoutMs events, 0 < timeoutMs → Unwedged n (childRun timeoutMs events) := by
  rintro ⟨n, h⟩
  obtain ⟨hstuck, hnow⟩ := stuck_childRun (n + 100)
  have hended := (h 1800000 _ (by decide)).afterGone 0 hstuck.goneAt hstuck.timedOutAt (by omega)
  obtain ⟨d, hphase⟩ := hstuck.polling
  rw [hphase] at hended
  cases hended

end IdAgents.Agent.Watchdog
