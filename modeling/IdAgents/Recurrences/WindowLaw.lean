import IdAgents.Recurrences.Rrule

namespace IdAgents.Recurrences
open JsText List

/-- The clocks that a cursor comes to in `n` steps. -/
def cursorFires (advance : WallClock → Option WallClock) :
    Nat → Option WallClock → List (Option WallClock)
  | 0, _ => []
  | n + 1, cursor => cursor :: cursorFires advance n (cursor.bind advance)

def weekFires (starts : WallClock) (weekAnchor : Option WallClock) (days : List Weekday) :
    List (Option WallClock) :=
  (days.map fun wd => weekAnchor.bind (addDays · (weekdayIndex wd))).filter
    fun fire => !fire.any (beforeWallClock · starts)

def weeksFires (starts : WallClock) (bydays : List Weekday) (interval : Nat) :
    Nat → Option WallClock → List (Option WallClock)
  | 0, _ => []
  | n + 1, weekAnchor =>
    weekFires starts weekAnchor
        (bydays.mergeSort fun a b => weekdayIndex a ≤ weekdayIndex b) ++
      weeksFires starts bydays interval n (weekAnchor.bind (addDays · (7 * interval)))

/-- The clocks of a rule in the first `n` steps from its start, an entry for each fire. -/
def fires (parsed : ParsedRrule) (starts : WallClock) (n : Nat) : List (Option WallClock) :=
  match parsed.freq with
  | .daily => cursorFires (addDays · parsed.interval) n (some starts)
  | .weekly => weeksFires starts (parsed.byday.getD (weekdayOf starts).toList) parsed.interval n
      (startOfWeekMonday starts)
  | .monthly => cursorFires (addMonths · parsed.interval) n (some starts)
  | .yearly => cursorFires (addYears · parsed.interval) n (some starts)

def loopSteps (parsed : ParsedRrule) : Nat :=
  match parsed.freq with
  | .daily | .weekly => maxExpansionInstances * parsed.interval + 1
  | .monthly | .yearly => maxExpansionInstances

section
variable (intl : Intl) (args : ExpandRruleArgs) (parsed : ParsedRrule)
  (untilUtcMillis : Option Instant)

def emitAll : List (Option WallClock) → Expansion → Except String (Expansion × Emit)
  | [], e => .ok (e, .continue_)
  | fire :: rest, e => do
    let (e, r) ← tryEmit intl args parsed untilUtcMillis e fire
    if r = .stop then
      return (e, .stop)
    emitAll rest e

variable {intl args parsed untilUtcMillis}

theorem emitAll_append (xs ys : List (Option WallClock)) (e : Expansion) :
    emitAll intl args parsed untilUtcMillis (xs ++ ys) e =
      (emitAll intl args parsed untilUtcMillis xs e).bind fun last =>
        if last.2 = .stop then .ok (last.1, .stop)
        else emitAll intl args parsed untilUtcMillis ys last.1 := by
  induction xs generalizing e with
  | nil => rfl
  | cons fire rest ih =>
    rw [cons_append, emitAll, emitAll]
    cases tryEmit intl args parsed untilUtcMillis e fire with
    | error err => rfl
    | ok step =>
      obtain ⟨e', r⟩ := step
      cases r with
      | stop => rfl
      | continue_ => exact ih e'

theorem expandCursor_eq (advance : WallClock → Option WallClock) (n : Nat)
    (cursor : Option WallClock) (e : Expansion) :
    expandCursor intl args parsed untilUtcMillis advance n cursor e =
      (emitAll intl args parsed untilUtcMillis (cursorFires advance n cursor) e).map Prod.fst := by
  induction n generalizing cursor e with
  | zero => rfl
  | succ n ih =>
    rw [expandCursor, cursorFires, emitAll]
    cases tryEmit intl args parsed untilUtcMillis e cursor with
    | error err => rfl
    | ok step =>
      obtain ⟨e', r⟩ := step
      cases r with
      | stop => rfl
      | continue_ => exact ih _ e'

variable (starts : WallClock)

theorem expandWeek_eq (weekAnchor : Option WallClock) (days : List Weekday) (e : Expansion) :
    expandWeek intl args parsed untilUtcMillis starts weekAnchor days e =
      emitAll intl args parsed untilUtcMillis (weekFires starts weekAnchor days) e := by
  induction days generalizing e with
  | nil => rfl
  | cons wd days ih =>
    rw [expandWeek, weekFires, map_cons, filter_cons]
    dsimp only
    by_cases hbefore : (weekAnchor.bind (addDays · (weekdayIndex wd))).any
        (beforeWallClock · starts) = true
    · rw [if_pos hbefore, hbefore, if_neg (by decide)]
      exact ih e
    · rw [if_neg hbefore, if_pos (by rw [Bool.not_eq_true] at hbefore; rw [hbefore]; rfl), emitAll]
      cases tryEmit intl args parsed untilUtcMillis e
          (weekAnchor.bind (addDays · (weekdayIndex wd))) with
      | error err => rfl
      | ok step =>
        obtain ⟨e', r⟩ := step
        cases r with
        | stop => rfl
        | continue_ => exact ih e'

theorem expandWeeks_eq (bydays : List Weekday) (n : Nat)
    (weekAnchor : Option WallClock) (e : Expansion) :
    expandWeeks intl args parsed untilUtcMillis starts bydays n weekAnchor e =
      (emitAll intl args parsed untilUtcMillis
        (weeksFires starts bydays parsed.interval n weekAnchor) e).map Prod.fst := by
  induction n generalizing weekAnchor e with
  | zero => rfl
  | succ n ih =>
    rw [expandWeeks, weeksFires, emitAll_append, expandWeek_eq]
    dsimp only
    cases emitAll intl args parsed untilUtcMillis (weekFires starts weekAnchor
        (bydays.mergeSort fun a b => weekdayIndex a ≤ weekdayIndex b)) e with
    | error err => rfl
    | ok step =>
      obtain ⟨e', r⟩ := step
      cases r with
      | stop => rfl
      | continue_ => exact ih _ e'

theorem expandFreq_eq : expandFreq intl args parsed untilUtcMillis starts =
      (emitAll intl args parsed untilUtcMillis (fires parsed starts (loopSteps parsed)) {}).map
        Prod.fst := by
  rw [expandFreq, fires, loopSteps]
  cases parsed.freq with
  | daily => exact expandCursor_eq ..
  | weekly => exact expandWeeks_eq ..
  | monthly => exact expandCursor_eq ..
  | yearly => exact expandCursor_eq ..

theorem expandRrule_fires {starts : WallClock} {startsUtc : Instant}
    (hrrule : parseRrule args.rrule = .ok parsed)
    (hstarts : parseStartsOn args.startsOn = .ok starts)
    (hstart : wallClockToUtcMillis intl starts args.timezone = .ok startsUtc)
    (huntil : parseUntil parsed = .ok untilUtcMillis) :
    expandRrule intl args = (emitAll intl args parsed untilUtcMillis
      (fires parsed starts (loopSteps parsed)) {}).map (·.1.out) := by
  unfold expandRrule
  rw [hrrule]
  change ((parseStartsOn args.startsOn).bind fun _ => _) = _
  rw [hstarts]
  change ((wallClockToUtcMillis intl starts args.timezone).bind fun _ => _) = _
  rw [hstart]
  change ((parseUntil parsed).bind fun _ => _) = _
  rw [huntil]
  change ((expandFreq intl args parsed untilUtcMillis starts).bind fun _ => _) = _
  rw [expandFreq_eq]
  cases emitAll intl args parsed untilUtcMillis (fires parsed starts (loopSteps parsed)) {} <;> rfl

end

section
variable (intl : Intl) (args : ExpandRruleArgs) (untilUtcMillis : Option Instant)

def instantOf (fire : Option WallClock) : Except String Instant := do
  let some when_ := fire | throw "RangeError"
  wallClockToUtcMillis intl when_ args.timezone

structure Walk where
  passed : List Instant := []
  refused : Option String := none

def walk (windowEndMs : Instant) : List (Option WallClock) → Walk
  | [] => {}
  | fire :: rest =>
    match instantOf intl args fire with
    | .error err => { refused := some err }
    | .ok ms =>
      if untilUtcMillis.any (· < ms) ∨ windowEndMs ≤ ms then {}
      else
        let next := walk windowEndMs rest
        { next with passed := ms :: next.passed }

def excepted (ms : Instant) : Bool :=
  (intl.date args.timezone ms).any (· ∈ args.exceptionDates)

/-- The passed fires that a window from `windowStartMs` on holds. -/
def held (windowStartMs : Instant) (passed : List Instant) : List Instant :=
  passed.filter fun ms => windowStartMs ≤ ms && !excepted intl args ms

end

/-- The fires that COUNT leaves, `n` being counted already. -/
def countLimit (parsed : ParsedRrule) (n : Nat) (xs : List α) : List α :=
  match parsed.count with
  | some count => xs.take (count - n)
  | none => xs

section
variable {intl : Intl} {args : ExpandRruleArgs} {parsed : ParsedRrule}
  {untilUtcMillis : Option Instant}

def Walk.outcome (intl : Intl) (args : ExpandRruleArgs) (w : Walk) (windowStartMs : Instant)
    (out : List String) : Except String (List String) :=
  match w.refused with
  | some err => .error err
  | none => .ok (out ++ (held intl args windowStartMs w.passed).map isoUtcString)

theorem countLimit_stop (h : parsed.count.any (· < n + 1) = true) (xs : List α) :
    countLimit parsed n xs = [] := by
  rw [countLimit]
  cases hcount : parsed.count with
  | none =>
    rw [hcount] at h
    cases h
  | some count =>
    rw [hcount, Option.any_some, decide_eq_true_eq] at h
    dsimp only
    rw [Nat.sub_eq_zero_of_le (Nat.le_of_lt_succ h), take_zero]

theorem countLimit_cons (h : ¬ parsed.count.any (· < n + 1) = true) (x : α) (xs : List α) :
    countLimit parsed n (x :: xs) = x :: countLimit parsed (n + 1) xs := by
  rw [countLimit, countLimit]
  cases hcount : parsed.count with
  | none => rfl
  | some count =>
    rw [hcount, Option.any_some, decide_eq_true_eq] at h
    dsimp only
    obtain ⟨k, hk⟩ : ∃ k, count - n = k + 1 := ⟨count - (n + 1), by omega⟩
    have hk' : count - (n + 1) = k := by omega
    rw [hk, hk', take_succ_cons]
section
variable (e : Expansion)

def Expansion.emit (ms : Instant) : Expansion :=
  { e with out := e.out ++ [isoUtcString ms], emitted := e.emitted + 1 }

def Expansion.counted : Expansion := { e with count := e.count + 1 }

theorem tryEmit_counted (fire : Option WallClock)
    (hcount : parsed.count.any (· < e.count + 1) = true) :
    tryEmit intl args parsed untilUtcMillis e fire = .ok (e.counted, .stop) := by
  unfold tryEmit
  dsimp only
  rw [if_pos hcount]
  rfl

theorem tryEmit_eq (fire : Option WallClock)
    (hdate : ∀ ms, instantOf intl args fire = .ok ms → (intl.date args.timezone ms).isSome)
    (hcount : ¬ parsed.count.any (· < e.count + 1) = true) :
    tryEmit intl args parsed untilUtcMillis e fire = (instantOf intl args fire).bind fun ms =>
      if untilUtcMillis.any (· < ms) ∨ args.windowEndMs ≤ ms then .ok (e.counted, .stop)
      else if ms < args.windowStartMs ∨ excepted intl args ms = true then
        .ok (e.counted, .continue_)
      else .ok (e.counted.emit ms,
        if maxExpansionInstances ≤ e.emitted + 1 then .stop else .continue_) := by
  unfold tryEmit
  dsimp only
  rw [if_neg hcount]
  cases fire with
  | none => rfl
  | some when_ =>
    have hinstant : instantOf intl args (some when_) =
        wallClockToUtcMillis intl when_ args.timezone := rfl
    rw [hinstant]
    dsimp only
    cases hms : wallClockToUtcMillis intl when_ args.timezone with
    | error err => rfl
    | ok ms =>
      obtain ⟨key, hkey⟩ := Option.isSome_iff_exists.mp (hdate ms hms)
      have hdateKey : isoDateKeyForUtcInTz intl ms args.timezone = .ok key := by
        rw [isoDateKeyForUtcInTz, hkey]
      have hexcepted : excepted intl args ms = true ↔ key ∈ args.exceptionDates := by
        rw [excepted, hkey, Option.any_some, decide_eq_true_eq]
      change (if _ then _ else _) = (if _ then _ else _)
      by_cases huntil : untilUtcMillis.any (· < ms) = true
      · rw [if_pos huntil, if_pos (Or.inl huntil)]
        rfl
      rw [if_neg huntil]
      by_cases hend : args.windowEndMs ≤ ms
      · rw [if_pos hend, if_pos (Or.inr hend)]
        rfl
      rw [if_neg hend, if_neg (not_or.mpr ⟨huntil, hend⟩)]
      by_cases hstart : ms < args.windowStartMs
      · rw [if_pos hstart, if_pos (Or.inl hstart)]
        rfl
      rw [if_neg hstart, hdateKey]
      change (if _ then _ else _) = _
      by_cases hexception : key ∈ args.exceptionDates
      · rw [if_pos hexception, if_pos (Or.inr (hexcepted.mpr hexception))]
        rfl
      rw [if_neg hexception, if_neg (not_or.mpr ⟨hstart, fun h => hexception (hexcepted.mp h)⟩)]
      by_cases hcap : maxExpansionInstances ≤ e.emitted + 1
      · rw [if_pos hcap, if_pos hcap]
        rfl
      · rw [if_neg hcap, if_neg hcap]
        rfl

end

variable (windowEndMs : Instant)

@[simp] theorem walk_nil : walk intl args untilUtcMillis windowEndMs [] = {} := rfl

theorem held_cons (windowStartMs ms : Instant) (passed : List Instant) :
    held intl args windowStartMs (ms :: passed) =
      if ms < windowStartMs ∨ excepted intl args ms = true then held intl args windowStartMs passed
      else ms :: held intl args windowStartMs passed := by
  rw [held, filter_cons]
  by_cases hskip : ms < windowStartMs ∨ excepted intl args ms = true
  · rw [if_pos hskip, if_neg (by simpa [imp_iff_not_or, or_comm] using hskip)]
    rfl
  · rw [if_neg hskip, if_pos (by simpa [not_or] using hskip)]
    rfl

theorem walk_error (h : instantOf intl args fire = .error err) (windowEndMs : Instant)
    (rest : List (Option WallClock)) :
    walk intl args untilUtcMillis windowEndMs (fire :: rest) = { refused := some err } := by
  rw [walk, h]

theorem walk_ok (h : instantOf intl args fire = .ok ms) (windowEndMs : Instant)
    (rest : List (Option WallClock)) : walk intl args untilUtcMillis windowEndMs (fire :: rest) =
      if untilUtcMillis.any (· < ms) ∨ windowEndMs ≤ ms then {}
      else { walk intl args untilUtcMillis windowEndMs rest with
        passed := ms :: (walk intl args untilUtcMillis windowEndMs rest).passed } := by
  rw [walk, h]

theorem emitAll_out (hdate : ∀ ms, (intl.date args.timezone ms).isSome)
    (fires : List (Option WallClock)) (e : Expansion)
    (hcap : e.emitted + (held intl args args.windowStartMs (walk intl args untilUtcMillis
      args.windowEndMs (countLimit parsed e.count fires)).passed).length < maxExpansionInstances) :
    (emitAll intl args parsed untilUtcMillis fires e).map (·.1.out) =
      (walk intl args untilUtcMillis args.windowEndMs (countLimit parsed e.count fires)).outcome
        intl args args.windowStartMs e.out := by
  induction fires generalizing e with
  | nil =>
    have hnil : countLimit parsed e.count ([] : List (Option WallClock)) = [] := by
      rw [countLimit]
      cases parsed.count with
      | none => rfl
      | some count => exact take_nil
    rw [hnil, walk_nil, Walk.outcome]
    exact congrArg Except.ok (append_nil _).symm
  | cons fire rest ih =>
    rw [emitAll]
    by_cases hcount : parsed.count.any (· < e.count + 1) = true
    · rw [tryEmit_counted e fire hcount, countLimit_stop hcount, walk_nil, Walk.outcome]
      exact congrArg Except.ok (append_nil _).symm
    rw [countLimit_cons hcount] at hcap ⊢
    rw [tryEmit_eq e fire (fun ms _ => hdate ms) hcount]
    cases hinstant : instantOf intl args fire with
    | error err =>
      rw [walk_error hinstant]
      rfl
    | ok ms =>
      rw [walk_ok hinstant] at hcap ⊢
      change Except.map _ (Except.bind (if _ then _ else _) _) = _
      by_cases hend : untilUtcMillis.any (· < ms) = true ∨ args.windowEndMs ≤ ms
      · rw [if_pos hend, if_pos hend, Walk.outcome]
        exact congrArg Except.ok (append_nil _).symm
      rw [if_neg hend] at hcap
      rw [if_neg hend, if_neg hend]
      dsimp only at hcap
      rw [held_cons] at hcap
      by_cases hskip : ms < args.windowStartMs ∨ excepted intl args ms = true
      · rw [if_pos hskip] at hcap ⊢
        have hrest := ih e.counted hcap
        change (emitAll intl args parsed untilUtcMillis rest e.counted).map (·.1.out) = _
        rw [hrest, Walk.outcome, Walk.outcome]
        dsimp only [Expansion.counted]
        rw [held_cons, if_pos hskip]
      · rw [if_neg hskip] at hcap ⊢
        rw [length_cons] at hcap
        have hbelow : ¬ maxExpansionInstances ≤ e.emitted + 1 := by omega
        rw [if_neg hbelow]
        have hrest := ih (e.counted.emit ms) (by
          change e.emitted + 1 + (held intl args args.windowStartMs (walk intl args untilUtcMillis
            args.windowEndMs (countLimit parsed (e.count + 1) rest)).passed).length < _
          omega)
        change (emitAll intl args parsed untilUtcMillis rest (e.counted.emit ms)).map (·.1.out) = _
        rw [hrest, Walk.outcome, Walk.outcome]
        dsimp only [Expansion.emit, Expansion.counted]
        rw [held_cons, if_neg hskip, map_cons, append_assoc, singleton_append]

theorem walk_length (fires : List (Option WallClock)) :
    (walk intl args untilUtcMillis windowEndMs fires).passed.length ≤ fires.length := by
  induction fires with
  | nil => exact Nat.le_refl _
  | cons fire rest ih =>
    cases hinstant : instantOf intl args fire with
    | error err =>
      rw [walk_error hinstant]
      exact Nat.zero_le _
    | ok ms =>
      rw [walk_ok hinstant]
      split
      · exact Nat.zero_le _
      · exact Nat.succ_le_succ ih

theorem walk_append (xs ys : List (Option WallClock)) :
    (walk intl args untilUtcMillis windowEndMs xs).passed <+:
        (walk intl args untilUtcMillis windowEndMs (xs ++ ys)).passed ∧
      ((walk intl args untilUtcMillis windowEndMs xs).refused.isSome →
        walk intl args untilUtcMillis windowEndMs (xs ++ ys) =
          walk intl args untilUtcMillis windowEndMs xs) := by
  induction xs with
  | nil => exact ⟨List.nil_prefix, fun h => by cases h⟩
  | cons fire rest ih =>
    rw [cons_append]
    cases hinstant : instantOf intl args fire with
    | error err =>
      rw [walk_error hinstant, walk_error hinstant]
      exact ⟨prefix_refl _, fun _ => rfl⟩
    | ok ms =>
      rw [walk_ok hinstant, walk_ok hinstant]
      split
      · exact ⟨prefix_refl _, fun _ => rfl⟩
      · refine ⟨cons_prefix_cons.mpr ⟨rfl, ih.1⟩, fun h => ?_⟩
        rw [ih.2 h]

theorem walk_later {b c : Instant} (hbc : b ≤ c) (fires : List (Option WallClock)) :
    (walk intl args untilUtcMillis b fires).passed <+:
        (walk intl args untilUtcMillis c fires).passed ∧
      (∀ ms ∈ (walk intl args untilUtcMillis b fires).passed, ms < b) ∧
      ((walk intl args untilUtcMillis b fires).refused.isSome →
        walk intl args untilUtcMillis c fires = walk intl args untilUtcMillis b fires) := by
  induction fires with
  | nil => exact ⟨prefix_refl _, fun ms hms => (by cases hms), fun _ => rfl⟩
  | cons fire rest ih =>
    cases hinstant : instantOf intl args fire with
    | error err =>
      rw [walk_error hinstant, walk_error hinstant]
      exact ⟨prefix_refl _, fun ms hms => (by cases hms), fun _ => rfl⟩
    | ok ms =>
      rw [walk_ok hinstant, walk_ok hinstant]
      by_cases hearly : untilUtcMillis.any (· < ms) = true ∨ b ≤ ms
      · rw [if_pos hearly]
        exact ⟨List.nil_prefix, fun ms hms => (by cases hms), fun h => by cases h⟩
      · have hlate : ¬ (untilUtcMillis.any (· < ms) = true ∨ c ≤ ms) := by
          intro hstop
          obtain huntil | hend := hstop
          · exact hearly (.inl huntil)
          · exact hearly (.inr (Int.le_trans hbc hend))
        rw [if_neg hearly, if_neg hlate]
        refine ⟨cons_prefix_cons.mpr ⟨rfl, ih.1⟩, fun ms' hms' => ?_, fun h => ?_⟩
        · obtain rfl | hrest := mem_cons.mp hms'
          · exact Int.not_le.mp fun hend => hearly (.inr hend)
          · exact ih.2.1 ms' hrest
        · rw [ih.2.2 h]

theorem cursorFires_extends (advance : WallClock → Option WallClock) {m n : Nat} (h : m ≤ n)
    (cursor : Option WallClock) :
    cursorFires advance m cursor <+: cursorFires advance n cursor := by
  induction m generalizing n cursor with
  | zero => exact List.nil_prefix
  | succ m ih =>
    obtain ⟨k, rfl⟩ : ∃ k, n = k + 1 := ⟨n - 1, by omega⟩
    exact cons_prefix_cons.mpr ⟨rfl, ih (Nat.le_of_succ_le_succ h) _⟩

theorem weeksFires_extends (starts : WallClock) (bydays : List Weekday) (interval : Nat) {m n : Nat}
    (h : m ≤ n) (weekAnchor : Option WallClock) : weeksFires starts bydays interval m weekAnchor <+:
      weeksFires starts bydays interval n weekAnchor := by
  induction m generalizing n weekAnchor with
  | zero => exact List.nil_prefix
  | succ m ih =>
    obtain ⟨k, rfl⟩ : ∃ k, n = k + 1 := ⟨n - 1, by omega⟩
    exact prefix_append_right_inj _ |>.mpr (ih (Nat.le_of_succ_le_succ h) _)

theorem fires_extends (starts : WallClock) {m n : Nat} (h : m ≤ n) :
    fires parsed starts m <+: fires parsed starts n := by
  rw [fires, fires]
  cases parsed.freq with
  | daily => exact cursorFires_extends _ h _
  | weekly => exact weeksFires_extends _ _ _ h _
  | monthly => exact cursorFires_extends _ h _
  | yearly => exact cursorFires_extends _ h _

theorem countLimit_extends {xs ys : List α} (h : xs <+: ys) :
    countLimit parsed n xs <+: countLimit parsed n ys := by
  rw [countLimit, countLimit]
  cases parsed.count with
  | none => exact h
  | some count =>
    obtain ⟨zs, rfl⟩ := h
    dsimp only
    rw [take_append]
    exact prefix_append _ _

end

def ExpandRruleArgs.over (args : ExpandRruleArgs) (a b : Instant) : ExpandRruleArgs :=
  { args with windowStartMs := a, windowEndMs := b }

structure Series (intl : Intl) (args : ExpandRruleArgs) where
  parsed : ParsedRrule
  starts : WallClock
  startsUtc : Instant
  untilUtcMillis : Option Instant
  rrule : parseRrule args.rrule = .ok parsed
  startsOn : parseStartsOn args.startsOn = .ok starts
  start : wallClockToUtcMillis intl starts args.timezone = .ok startsUtc
  until_ : parseUntil parsed = .ok untilUtcMillis
  dated : ∀ ms, (intl.date args.timezone ms).isSome

namespace Series
variable {intl : Intl} {args : ExpandRruleArgs} (series : Series intl args)

/-- The fires of the series in the first `n` steps, as far as COUNT lets them be. -/
def upTo (n : Nat) : List (Option WallClock) :=
  countLimit series.parsed 0 (fires series.parsed series.starts n)

/-- The walk over the fires of `n` steps to the end of a window. -/
def walkTo (n : Nat) (windowEndMs : Instant) : Walk :=
  walk intl args series.untilUtcMillis windowEndMs (series.upTo n)

/-- The expansion over a window if the loop had `n` steps. -/
def expandSteps (n : Nat) (a b : Instant) : Except String (List String) :=
  (emitAll intl (args.over a b) series.parsed series.untilUtcMillis
    (fires series.parsed series.starts n) {}).map (·.1.out)

def steps : Nat := loopSteps series.parsed

def Fewer (a b : Instant) : Prop :=
  ∀ n, ((series.walkTo n b).passed.filter (a ≤ ·)).length < maxExpansionInstances

/-- The expansion over two adjacent windows is that of the one and then that of the other, and the
number of steps that the loop may take plays no part in it. -/
def Decomposes (a b c : Instant) : Prop :=
  (expandRrule intl (args.over a c) = do
    let early ← expandRrule intl (args.over a b)
    let late ← expandRrule intl (args.over b c)
    return early ++ late) ∧
  ∀ n, series.steps ≤ n → series.expandSteps n a c = expandRrule intl (args.over a c)

/-- A fire that a window from `a` to `b` holds. -/
def Holds (intl : Intl) (args : ExpandRruleArgs) (a b ms : Instant) : Prop :=
  a ≤ ms ∧ ms < b ∧ excepted intl args ms = false

/-- Of the fires that the walk to `c` passes none that the window from `a` to `b` holds comes after
the walk to `b`: so where no fire is before an earlier one. -/
def InOrder (a b c : Instant) : Prop :=
  (series.walkTo series.steps c).refused.isSome ∨
    ∀ ms ∈ (series.walkTo series.steps c).passed.drop
      (series.walkTo series.steps b).passed.length, ¬ Holds intl args a b ms

/-- With more steps than the loop has, the walk comes to no refused date that it does not come to
anyway, and passes no more fires that the window holds. -/
def WithinSteps (a c : Instant) : Prop :=
  ∀ n, series.steps ≤ n →
    ((series.walkTo n c).refused.isSome → (series.walkTo series.steps c).refused.isSome) ∧
    ∀ ms ∈ (series.walkTo n c).passed.drop (series.walkTo series.steps c).passed.length,
      ¬ Holds intl args a c ms

variable {series}

theorem walk_over (a b windowEndMs : Instant) (xs : List (Option WallClock)) :
    walk intl (args.over a b) series.untilUtcMillis windowEndMs xs =
      walk intl args series.untilUtcMillis windowEndMs xs := by
  induction xs with
  | nil => rfl
  | cons fire rest ih =>
    cases hinstant : instantOf intl args fire with
    | error err =>
      have hover : instantOf intl (args.over a b) fire = .error err := hinstant
      rw [walk_error hinstant, walk_error hover]
    | ok ms =>
      have hover : instantOf intl (args.over a b) fire = .ok ms := hinstant
      rw [walk_ok hinstant, walk_ok hover, ih]

theorem expandRrule_steps (a b : Instant) :
    expandRrule intl (args.over a b) = series.expandSteps series.steps a b := by
  have hstart : wallClockToUtcMillis intl series.starts (args.over a b).timezone =
    .ok series.startsUtc := series.start
  exact expandRrule_fires series.rrule series.startsOn hstart series.until_

theorem expandSteps_outcome (h : series.Fewer a b) (n : Nat) :
    series.expandSteps n a b = (series.walkTo n b).outcome intl args a [] := by
  have hwalk : walk intl (args.over a b) series.untilUtcMillis b
      (countLimit series.parsed 0 (fires series.parsed series.starts n)) = series.walkTo n b :=
    walk_over ..
  have hheld : (held intl args a (series.walkTo n b).passed).length < maxExpansionInstances := by
    apply Nat.lt_of_le_of_lt _ (h n)
    exact (monotone_filter_right _ fun ms hms => (Bool.and_eq_true_iff.mp hms).1).length_le
  have hdated : ∀ ms, (intl.date (args.over a b).timezone ms).isSome := series.dated
  have hcap : ({} : Expansion).emitted + (held intl (args.over a b) a (walk intl (args.over a b)
      series.untilUtcMillis b (countLimit series.parsed 0
        (fires series.parsed series.starts n))).passed).length < maxExpansionInstances := by
    rw [hwalk, Nat.zero_add]
    exact hheld
  have hall : series.expandSteps n a b = (walk intl (args.over a b) series.untilUtcMillis b
      (countLimit series.parsed 0 (fires series.parsed series.starts n))).outcome intl
        (args.over a b) a [] :=
    emitAll_out hdated (fires series.parsed series.starts n) {} hcap
  rw [hall, hwalk]
  rfl

theorem walkTo_steps (series : Series intl args) {m n : Nat} (h : m ≤ n) (c : Instant) :
    (series.walkTo m c).passed <+: (series.walkTo n c).passed ∧
      ((series.walkTo m c).refused.isSome → series.walkTo n c = series.walkTo m c) := by
  have hmore : series.upTo m <+: series.upTo n :=
    countLimit_extends (fires_extends series.starts h)
  obtain ⟨more, hmore⟩ := hmore
  rw [walkTo, walkTo, ← hmore]
  exact walk_append c (series.upTo m) more

theorem walkTo_later (series : Series intl args) {b c : Instant} (hbc : b ≤ c) (n : Nat) :
    (series.walkTo n b).passed <+: (series.walkTo n c).passed ∧
      (∀ ms ∈ (series.walkTo n b).passed, ms < b) ∧
      ((series.walkTo n b).refused.isSome → series.walkTo n c = series.walkTo n b) :=
  walk_later hbc (series.upTo n)

theorem held_append (a : Instant) (xs ys : List Instant) :
    held intl args a (xs ++ ys) = held intl args a xs ++ held intl args a ys :=
  filter_append ..

theorem held_below {b : Instant} {passed : List Instant} (h : ∀ ms ∈ passed, ms < b) :
    held intl args b passed = [] := by
  rw [held, filter_eq_nil_iff]
  intro ms hms hheld
  exact Int.not_le.mpr (h ms hms) (of_decide_eq_true (Bool.and_eq_true_iff.mp hheld).1)

theorem held_later_iff {a b : Instant} (hab : a ≤ b) (later : List Instant) :
    (held intl args a later).map isoUtcString = (held intl args b later).map isoUtcString ↔
      ∀ ms ∈ later, ¬ Holds intl args a b ms := by
  have hsub : (held intl args b later).Sublist (held intl args a later) := by
    apply monotone_filter_right
    intro ms hms
    rw [Bool.and_eq_true, decide_eq_true_eq] at hms ⊢
    exact ⟨Int.le_trans hab hms.1, hms.2⟩
  constructor
  · intro hsame ms hms hholds
    have hlength : (held intl args b later).length = (held intl args a later).length := by
      have hlengths := congrArg List.length hsame
      rw [length_map, length_map] at hlengths
      exact hlengths.symm
    have hmem : ms ∈ held intl args b later := by
      rw [hsub.eq_of_length hlength, held, mem_filter]
      refine ⟨hms, ?_⟩
      rw [hholds.2.2, Bool.not_false, Bool.and_true]
      exact decide_eq_true hholds.1
    have hlate := (Bool.and_eq_true_iff.mp (mem_filter.mp hmem).2).1
    exact Int.not_le.mpr hholds.2.1 (of_decide_eq_true hlate)
  · intro hnone
    congr 1
    apply filter_congr
    intro ms hms
    cases hexcepted : excepted intl args ms with
    | true => rw [Bool.not_true, Bool.and_false, Bool.and_false]
    | false =>
      rw [Bool.not_false, Bool.and_true, Bool.and_true, decide_eq_decide]
      exact ⟨fun ha => Int.not_lt.mp fun hb => hnone ms hms ⟨ha, hb, hexcepted⟩,
        fun hb => Int.le_trans hab hb⟩

theorem Fewer.inside (h : series.Fewer a c) (hab : a ≤ b) (hbc : b ≤ c) :
    series.Fewer a b ∧ series.Fewer b c := by
  constructor
  · intro n
    have hgrown := (series.walkTo_later hbc n).1.sublist
    exact Nat.lt_of_le_of_lt (List.Sublist.length_le (List.Sublist.filter _ hgrown)) (h n)
  · intro n
    refine Nat.lt_of_le_of_lt (List.Sublist.length_le ?_) (h n)
    apply monotone_filter_right
    intro ms hms
    exact decide_eq_true (Int.le_trans hab (of_decide_eq_true hms))

theorem windows_iff (hfewer : series.Fewer a c) (hab : a ≤ b) (hbc : b ≤ c) :
    (expandRrule intl (args.over a c) = do
      let early ← expandRrule intl (args.over a b)
      let late ← expandRrule intl (args.over b c)
      return early ++ late) ↔ series.InOrder a b c := by
  obtain ⟨hfirst, hsecond⟩ := hfewer.inside hab hbc
  obtain ⟨⟨later, hlater⟩, hbelow, hsame⟩ := series.walkTo_later hbc series.steps
  rw [expandRrule_steps, expandRrule_steps, expandRrule_steps]
  rw [expandSteps_outcome hfewer, expandSteps_outcome hfirst, expandSteps_outcome hsecond]
  rw [InOrder]
  cases hrefused : (series.walkTo series.steps c).refused with
  | some err =>
    refine iff_of_true ?_ (.inl rfl)
    rw [Walk.outcome, Walk.outcome, Walk.outcome, hrefused]
    cases hearly : (series.walkTo series.steps b).refused with
    | none => rfl
    | some err' =>
      rw [hsame (by rw [hearly]; rfl), hearly] at hrefused
      rw [Option.some.inj hrefused]
      rfl
  | none =>
    have hearly : (series.walkTo series.steps b).refused = none := by
      cases hearly : (series.walkTo series.steps b).refused with
      | none => rfl
      | some err =>
        rw [hsame (by rw [hearly]; rfl), hearly] at hrefused
        cases hrefused
    have hdrop : (series.walkTo series.steps c).passed.drop
        (series.walkTo series.steps b).passed.length = later := by
      rw [← hlater, drop_left]
    rw [hdrop, ← held_later_iff hab, Walk.outcome, Walk.outcome, Walk.outcome, hrefused, hearly,
      ← hlater, held_append, held_append, held_below hbelow]
    change Except.ok _ = Except.ok _ ↔ _
    rw [Except.ok.injEq]
    simp only [nil_append, map_append, append_cancel_left_eq]
    simp

theorem steps_iff (hfewer : series.Fewer a c) :
    (∀ n, series.steps ≤ n → series.expandSteps n a c = expandRrule intl (args.over a c)) ↔
      series.WithinSteps a c := by
  rw [WithinSteps]
  apply forall_congr'
  intro n
  apply imp_congr_right
  intro hn
  rw [expandRrule_steps, expandSteps_outcome hfewer, expandSteps_outcome hfewer]
  obtain ⟨⟨later, hlater⟩, hsame⟩ := series.walkTo_steps hn c
  cases hrefused : (series.walkTo series.steps c).refused with
  | some err =>
    have hwalk := hsame (by rw [hrefused]; rfl)
    rw [hwalk]
    refine iff_of_true rfl ⟨fun _ => rfl, fun ms hms => ?_⟩
    rw [drop_length] at hms
    cases hms
  | none =>
    have hdrop : (series.walkTo n c).passed.drop (series.walkTo series.steps c).passed.length =
        later := by
      rw [← hlater, drop_left]
    have hbelow : ∀ ms ∈ later, ms < c := by
      intro ms hms
      apply (series.walkTo_later (Int.le_refl c) n).2.1 ms
      rw [← hlater]
      exact mem_append_right _ hms
    rw [hdrop, Walk.outcome, Walk.outcome, hrefused]
    cases hend : (series.walkTo n c).refused with
    | some err =>
      refine iff_of_false (fun h => by cases h) fun h => ?_
      cases h.1 rfl
    | none =>
      rw [← hlater, held_append]
      dsimp only
      rw [Except.ok.injEq, map_append, ← append_assoc, append_right_eq_self,
        map_eq_nil_iff, held, filter_eq_nil_iff]
      refine ⟨fun h => ⟨fun h' => (by cases h'), fun ms hms hholds => h ms hms ?_⟩,
        fun h ms hms hheld => h.2 ms hms ?_⟩
      · rw [hholds.2.2, Bool.not_false, Bool.and_true]
        exact decide_eq_true hholds.1
      · rw [Bool.and_eq_true, decide_eq_true_eq, Bool.not_eq_true'] at hheld
        exact ⟨hheld.1, hbelow ms hms, hheld.2⟩

end Series

/-- The expansions of adjacent windows add up, and how far they lie from the start plays no part,
just where the fires are in order and the walk to the end is within the steps of the loop. -/
theorem decomposes_iff (intl : Intl) (args : ExpandRruleArgs) (series : Series intl args)
    (a b c : Instant) (hab : a ≤ b) (hbc : b ≤ c) (hfewer : series.Fewer a c) :
    series.Decomposes a b c ↔ series.InOrder a b c ∧ series.WithinSteps a c :=
  and_congr (Series.windows_iff hfewer hab hbc) (Series.steps_iff hfewer)

def utcIntl : Intl where
  parts _ t := some (utcClock t)
  date _ t := some (sliceUnits 10 (toISOString t))

def everyDay : ExpandRruleArgs where
  rrule := "FREQ=DAILY;COUNT=1002"
  startsOn := "2023-01-01"
  timezone := "UTC"
  exceptionDates := []
  windowStartMs := 0
  windowEndMs := 0

def everyDaySeries : Series utcIntl everyDay where
  parsed := ⟨.daily, 1, none, none, some 1002⟩
  starts := ⟨2023, 1, 1, 0, 0, 0⟩
  startsUtc := 1672531200000
  untilUtcMillis := none
  rrule := by decide +kernel
  startsOn := by decide +kernel
  start := by decide +kernel
  until_ := by decide +kernel
  dated _ := rfl

theorem cursorFires_length (advance : WallClock → Option WallClock) (n : Nat)
    (cursor : Option WallClock) : (cursorFires advance n cursor).length = n := by
  induction n generalizing cursor with
  | zero => rfl
  | succ n ih => rw [cursorFires, length_cons, ih]

theorem everyDay_upTo (n : Nat) : everyDaySeries.upTo n <+: everyDaySeries.upTo 1002 := by
  obtain hn | hn := Nat.le_total n 1002
  · exact countLimit_extends (fires_extends _ hn)
  · have hmore : fires everyDaySeries.parsed everyDaySeries.starts 1002 <+:
        fires everyDaySeries.parsed everyDaySeries.starts n := fires_extends _ hn
    obtain ⟨more, hmore⟩ := hmore
    have hlength : (fires everyDaySeries.parsed everyDaySeries.starts 1002).length = 1002 :=
      cursorFires_length _ _ _
    have hsame : everyDaySeries.upTo n = everyDaySeries.upTo 1002 := by
      change (fires everyDaySeries.parsed everyDaySeries.starts n).take 1002 =
        (fires everyDaySeries.parsed everyDaySeries.starts 1002).take 1002
      rw [← hmore, take_append_of_le_length (Nat.le_of_eq hlength.symm)]
    exact ⟨[], by rw [hsame, append_nil]⟩

theorem everyDay_passed : (everyDaySeries.walkTo 1002 1759104000000).passed =
      (List.range 1002).map fun (i : Nat) => 1672531200000 + 86400000 * (i : Int) := by
  decide +kernel

theorem everyDay_fewer : everyDaySeries.Fewer 1759017600000 1759104000000 := by
  intro n
  obtain ⟨more, hmore⟩ := everyDay_upTo n
  have hgrown : (everyDaySeries.walkTo n 1759104000000).passed <+:
      (everyDaySeries.walkTo 1002 1759104000000).passed := by
    rw [Series.walkTo, Series.walkTo, ← hmore]
    exact (walk_append 1759104000000 (everyDaySeries.upTo n) more).1
  have hone : ((everyDaySeries.walkTo 1002 1759104000000).passed.filter
      ((1759017600000 : Instant) ≤ ·)).length < maxExpansionInstances := by
    rw [everyDay_passed]
    decide +kernel
  exact Nat.lt_of_le_of_lt (List.Sublist.length_le (List.Sublist.filter _ hgrown.sublist)) hone

/-- The loop ends the day before. -/
theorem everyDay_not_decomposes : everyDaySeries.Fewer 1759017600000 1759104000000 ∧
      ¬ everyDaySeries.Decomposes 1759017600000 1759017600000 1759104000000 := by
  refine ⟨everyDay_fewer, fun h => ?_⟩
  obtain ⟨_, hnone⟩ := (Series.steps_iff everyDay_fewer).mp h.2 1002 (by decide)
  have hlength : (everyDaySeries.walkTo everyDaySeries.steps 1759104000000).passed.length ≤ 1001 :=
    Nat.le_trans (walk_length _ _) (Nat.le_trans (length_take_le' _ _)
      (Nat.le_of_eq (cursorFires_length _ _ _)))
  have hlast : (1759017600000 : Instant) ∈
      (everyDaySeries.walkTo 1002 1759104000000).passed.drop 1001 := by
    rw [everyDay_passed]
    decide +kernel
  exact hnone _ (drop_subset_drop_left _ hlength hlast) ⟨by decide, by decide, rfl⟩

theorem everyDay_decomposes_iff :
    everyDaySeries.Decomposes 1759017600000 1759017600000 1759104000000 ↔
      everyDaySeries.InOrder 1759017600000 1759017600000 1759104000000 ∧
        everyDaySeries.WithinSteps 1759017600000 1759104000000 :=
  decomposes_iff utcIntl everyDay everyDaySeries 1759017600000 1759017600000 1759104000000
    (by decide) (by decide) everyDay_fewer

end IdAgents.Recurrences
