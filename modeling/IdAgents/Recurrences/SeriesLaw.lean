import IdAgents.Recurrences.Series

namespace IdAgents.Recurrences
open JsText Int Recurrences

theorem parsePositive_pos (h : parsePositive label text = .ok n) : 1 ≤ n := by
  rw [parsePositive] at h
  cases hparse : parseInt text with
  | none => simp [hparse] at h
  | some i =>
    simp only [hparse] at h
    split at h
    · cases h
    · cases h
      omega

theorem except_bind_ok {x : Except ε α} {f : α → Except ε β} {b : β} (h : x >>= f = .ok b) :
    ∃ a, x = .ok a ∧ f a = .ok b := by
  cases x with
  | error err => cases h
  | ok a => exact ⟨a, rfl, h⟩

theorem splitChars_ne_nil (sep : Char) (xs : List Char) : splitChars sep xs ≠ [] := by
  cases xs with
  | nil => simp [splitChars]
  | cons c cs =>
    rw [splitChars]
    by_cases hsep : c = sep
    · simp [hsep]
    · rw [if_neg hsep]
      cases splitChars sep cs <;> simp

theorem bydays_ne_nil {f : List Char → Except String Weekday} {text : List Char}
    {byday : Option (List Weekday)} (h : some <$> (splitChars ',' text).mapM f = .ok byday) :
    byday ≠ some [] := by
  obtain ⟨piece, pieces, hpieces⟩ := List.exists_cons_of_ne_nil (splitChars_ne_nil ',' text)
  rw [hpieces, List.mapM_cons] at h
  cases hhead : f piece with
  | error err =>
    rw [hhead] at h
    cases h
  | ok wd =>
    cases htail : pieces.mapM f with
    | error err =>
      rw [hhead, htail] at h
      cases h
    | ok days =>
      rw [hhead, htail] at h
      cases h
      simp

theorem parseRrule_accepts {input : String} (h : parseRrule input = .ok parsed) :
    1 ≤ parsed.interval ∧ parsed.byday ≠ some [] := by
  unfold parseRrule at h
  dsimp only at h
  generalize (if (toUpperCase (trim input)).startsWith "RRULE:" = true then
    (trim input).toList.drop 6 else (trim input).toList) = body at h
  by_cases hpairs : ¬ '=' ∈ body
  · rw [if_pos hpairs] at h
    obtain ⟨_, hthrow, _⟩ := except_bind_ok h
    cases hthrow
  rw [if_neg hpairs] at h
  obtain ⟨parts, _, h⟩ := except_bind_ok h
  cases hfreq : parts.given? "FREQ" with
  | none => simp [hfreq, throw, throwThe, MonadExceptOf.throw] at h
  | some freq =>
    simp only [hfreq] at h
    cases hfind : supportedFreq.find? fun f => decide (f.1 = freq) with
    | none => simp [hfind, throw, throwThe, MonadExceptOf.throw] at h
    | some f =>
      simp only [hfind] at h
      cases hinterval : parts.given? "INTERVAL" <;> cases hbyday : parts.given? "BYDAY" <;>
        cases hcount : parts.given? "COUNT"
      all_goals
        simp only [hinterval, hbyday, hcount] at h
        obtain ⟨interval, hpositive, h⟩ := except_bind_ok h
        obtain ⟨byday, hlisted, h⟩ := except_bind_ok h
        obtain ⟨count, _, h⟩ := except_bind_ok h
        cases h
        refine ⟨?_, ?_⟩
      all_goals
        first
        | exact parsePositive_pos hpositive
        | exact bydays_ne_nil hlisted
        | cases hpositive; exact Nat.le_refl 1
        | cases hlisted; simp

structure FixedOffset (intl : Intl) (timezone : String) (offset : Int) : Prop where
  minutes : (60000 : Int) ∣ offset
  utc : timezone = "UTC" → offset = 0
  parts : ∀ ms : Int, ms ≤ 8640000000000000 → Readable (ms + offset) →
    ∃ parts, intl.parts timezone ms = some parts ∧
      { parts with h := if parts.h = 24 then 0 else parts.h } = utcClock (ms + offset)
  date : ∀ ms : Int, ms ≤ 8640000000000000 → Readable (ms + offset) →
    (intl.date timezone ms).isSome

/-- `Date` has the local time and the instants that are looked at to find its own. -/
def Datable (offset x : Int) : Prop :=
  x ≤ 8640000000000000 ∧ x + offset ≤ 8640000000000000 ∧ x - offset ≤ 8640000000000000

theorem FixedOffset.tzOffsetMinutes
    (hzone : FixedOffset intl timezone offset) (hms : ms ≤ 8640000000000000)
    (hshown : Readable (ms + offset)) (hle : ms + offset ≤ 8640000000000000) :
    tzOffsetMinutes intl ms timezone = .ok (offset / 60000) := by
  obtain ⟨parts, hparts, hclock⟩ := hzone.parts ms hms hshown
  have hminutes := hzone.minutes
  have hread := dateUtc_readable hshown hle
  unfold Recurrences.tzOffsetMinutes
  simp only [hparts, hclock, hread]
  congr 1
  omega

theorem FixedOffset.instant (hzone : FixedOffset intl timezone offset) (hread : Readable x)
    (hlocal : Readable (x + offset)) (h : Datable offset x) :
    wallClockToUtcMillis intl (utcClock x) timezone = .ok (x - offset) := by
  have hguess := dateUtc_readable hread h.1
  have hminutes := hzone.minutes
  unfold wallClockToUtcMillis
  simp only [hguess]
  by_cases hutc : timezone = "UTC"
  · rw [if_pos hutc, hzone.utc hutc, Int.sub_zero]
    rfl
  · have hback : Readable (x - offset + offset) := by
      rw [sub_add_cancel]
      exact hread
    have hfirst := hzone.tzOffsetMinutes h.1 hlocal h.2.1
    have hsecond := hzone.tzOffsetMinutes h.2.2 hback (by
      rw [sub_add_cancel]
      exact h.1)
    have hadjusted : x - offset / 60000 * 60 * 1000 = x - offset := by omega
    rw [if_neg hutc, hfirst]
    change ((Recurrences.tzOffsetMinutes intl (x - offset / 60000 * 60 * 1000) timezone).bind
      fun _ => _) = _
    rw [hadjusted, hsecond]
    change (if offset / 60000 ≠ offset / 60000 then _ else _) = _
    rw [if_neg (not_not.mpr rfl)]
    rfl

/-- An accepted rule with a start that is a date, in a zone with a fixed offset, that is expanded
without exceptions over a window that begins no later than the series. -/
structure Rule (intl : Intl) (args : ExpandRruleArgs) where
  parsed : ParsedRrule
  start : Int
  offset : Int
  untilUtcMillis : Option Instant
  rrule : parseRrule args.rrule = .ok parsed
  startsOn : parseStartsOn args.startsOn = .ok (utcClock start)
  whole : (1000 : Int) ∣ start
  until_ : parseUntil parsed = .ok untilUtcMillis
  zone : FixedOffset intl args.timezone offset
  exceptions : args.exceptionDates = []
  window : args.windowStartMs ≤ start - offset

namespace Rule
variable {intl : Intl} {args : ExpandRruleArgs} (rule : Rule intl args)

def within (x : Int) : Bool :=
  !rule.untilUtcMillis.any (· < x - rule.offset) && decide (x - rule.offset < args.windowEndMs)

/-- The local times of the fires in the first `n` steps: the first COUNT of the series, or all of
it, up to UNTIL and the end of the window. -/
def firesTo (n : Nat) : List Int :=
  (countLimit rule.parsed 0 (series rule.parsed rule.start n)).takeWhile rule.within

def Expected (times : List Int) : Prop := ∃ m, ∀ n, m ≤ n → rule.firesTo n = times

/-- How much of the series is looked at: no more than the fires if there are COUNT of them or as
many as an expansion may have, else the one after them too. -/
def looked (times : List Int) : Nat :=
  if times.length = maxExpansionInstances ∨ rule.parsed.count = some times.length then times.length
  else times.length + 1

/-- The series is not cut off by the cap on instances, and as far as it is looked at it does not
drift, no weekday is listed twice and `Date` has its dates. -/
structure Undisturbed (times : List Int) : Prop
    extends Looked rule.parsed rule.start (rule.looked times) where
  capped : times.length ≤ maxExpansionInstances
  firstLocal : Readable (rule.start + rule.offset)
  datable : Datable rule.offset rule.start
  datables : ∀ n, ∀ x ∈ (series rule.parsed rule.start n).take (rule.looked times),
    Datable rule.offset x

structure Emittable (x : Int) : Prop where
  instant : instantOf intl args (clockOf x) = .ok (x - rule.offset)
  date : (intl.date args.timezone (x - rule.offset)).isSome
  later : rule.start ≤ x

variable {rule}

variable {x : Int}

theorem Undisturbed.emittable (h : rule.Undisturbed times)
    (hx : x ∈ (series rule.parsed rule.start n).take (rule.looked times)) : rule.Emittable x where
  instant := by
    have hmem := List.mem_of_mem_take hx
    obtain ⟨hlater, hday⟩ := mem_series hmem
    have hlocal : Readable (x + rule.offset) := by
      obtain ⟨hfirst, hwhole⟩ := h.firstLocal
      exact ⟨by omega, by omega⟩
    exact rule.zone.instant (h.first.of_mem hmem) hlocal (h.datables n x hx)
  date := by
    have hread := h.first.of_mem (List.mem_of_mem_take hx)
    apply rule.zone.date _ (h.datables n x hx).2.2
    rw [sub_add_cancel]
    exact hread
  later := (mem_series (List.mem_of_mem_take hx)).1

theorem Emittable.tryEmit (h : rule.Emittable x)
    (hcount : ¬ rule.parsed.count.any (· < e.count + 1) = true) :
    tryEmit intl args rule.parsed rule.untilUtcMillis e (clockOf x) =
      if rule.within x = true then .ok (e.counted.emit (x - rule.offset),
        if maxExpansionInstances ≤ e.emitted + 1 then .stop else .continue_)
      else .ok (e.counted, .stop) := by
  have hdate : ∀ ms, instantOf intl args (clockOf x) = .ok ms →
      (intl.date args.timezone ms).isSome := by
    intro ms hms
    rw [h.instant] at hms
    cases hms
    exact h.date
  have hnone : excepted intl args (x - rule.offset) = false := by
    rw [excepted, rule.exceptions]
    cases intl.date args.timezone (x - rule.offset) <;> rfl
  have hbegun : ¬ x - rule.offset < args.windowStartMs :=
    Int.not_lt.mpr (Int.le_trans rule.window (Int.sub_le_sub_right h.later _))
  rw [tryEmit_eq e (clockOf x) hdate hcount, h.instant, within]
  change (if _ then _ else if _ then _ else _) = _
  rw [hnone]
  cases huntil : rule.untilUtcMillis.any (· < x - rule.offset) with
  | true => rw [if_pos (Or.inl rfl), Bool.not_true, Bool.false_and, if_neg (by decide)]
  | false =>
    rw [Bool.not_false, Bool.true_and]
    by_cases hend : args.windowEndMs ≤ x - rule.offset
    · rw [if_pos (Or.inr hend), if_neg]
      rw [decide_eq_true_eq]
      exact Int.not_lt.mpr hend
    · rw [if_neg (by simp [hend]), if_neg (by simpa using hbegun),
        if_pos (decide_eq_true (Int.not_le.mp hend))]

def added (rule : Rule intl args) (e : Expansion) (times : List Int) : Expansion where
  out := e.out ++ times.map fun x => isoUtcString (x - rule.offset)
  emitted := e.emitted + times.length
  count := e.count + times.length

theorem added_nil (e : Expansion) : rule.added e [] = e := by
  rw [added, List.map_nil, List.append_nil]
  rfl

theorem emitAll_within (times : List Int) (e : Expansion)
    (h : ∀ x ∈ times, rule.Emittable x ∧ rule.within x = true)
    (hcount : ∀ count, rule.parsed.count = some count → e.count + times.length ≤ count)
    (hcap : e.emitted + times.length ≤ maxExpansionInstances)
    (hopen : e.emitted < maxExpansionInstances) :
    emitAll intl args rule.parsed rule.untilUtcMillis (times.map clockOf) e =
      .ok (rule.added e times,
        if e.emitted + times.length = maxExpansionInstances then .stop else .continue_) := by
  induction times generalizing e with
  | nil =>
    rw [List.length_nil, Nat.add_zero, if_neg (Nat.ne_of_lt hopen), added_nil]
    rfl
  | cons x times ih =>
    have hleft : ¬ rule.parsed.count.any (· < e.count + 1) = true := by
      intro hused
      rw [Option.any_eq_true] at hused
      obtain ⟨count, hsome, hlt⟩ := hused
      have hle := hcount count hsome
      rw [decide_eq_true_eq] at hlt
      rw [List.length_cons] at hle
      omega
    obtain ⟨hx, hwithin⟩ := h x List.mem_cons_self
    have hsame : rule.added (e.counted.emit (x - rule.offset)) times =
        rule.added e (x :: times) := by
      rw [added, added, Expansion.emit, Expansion.counted]
      simp only [List.append_assoc, List.map_cons, List.singleton_append, List.length_cons,
        Nat.add_assoc, Nat.add_comm 1]
    rw [List.length_cons] at hcap hcount
    rw [List.map_cons, emitAll, hx.tryEmit hleft, if_pos hwithin, List.length_cons]
    by_cases hlast : maxExpansionInstances ≤ e.emitted + 1
    · have hnil : times = [] := List.length_eq_zero_iff.mp (by omega)
      subst hnil
      rw [if_pos hlast, if_pos (by rw [List.length_nil]; omega), ← hsame, added_nil]
      rfl
    · rw [if_neg hlast]
      have hrest := ih (e.counted.emit (x - rule.offset))
        (fun y hy => h y (List.mem_cons_of_mem _ hy))
        (fun count hsome => by
          have hle := hcount count hsome
          change e.count + 1 + times.length ≤ count
          omega)
        (by
          change e.emitted + 1 + times.length ≤ _
          omega)
        (by
          change e.emitted + 1 < _
          omega)
      change emitAll intl args rule.parsed rule.untilUtcMillis (times.map clockOf)
        (e.counted.emit (x - rule.offset)) = _
      rw [hrest, hsame]
      change Except.ok (_, if e.emitted + 1 + times.length = _ then _ else _) = _
      rw [Nat.add_assoc, Nat.add_comm 1]

theorem emitAll_end (h : rest = [] ∨ rule.parsed.count.any (· < e.count + 1) = true ∨
      ∃ x later, rest = clockOf x :: later ∧ rule.Emittable x ∧ rule.within x = false) :
    (emitAll intl args rule.parsed rule.untilUtcMillis rest e).map (·.1.out) = .ok e.out := by
  cases rest with
  | nil => rfl
  | cons fire rest =>
    have hstop : tryEmit intl args rule.parsed rule.untilUtcMillis e fire =
        .ok (e.counted, .stop) := by
      by_cases hcount : rule.parsed.count.any (· < e.count + 1) = true
      · exact tryEmit_counted e fire hcount
      · obtain hnil | hused | ⟨x, later, hrest, hx, hpast⟩ := h
        · cases hnil
        · exact absurd hused hcount
        · cases hrest
          rw [hx.tryEmit hcount, hpast, if_neg (by decide)]
    rw [emitAll, hstop]
    rfl

theorem takeWhile_append_of_not (xs : List α)
    (h : ∀ x ∈ later, p x = false) : (xs ++ later).takeWhile p = xs.takeWhile p := by
  induction xs with
  | nil =>
    cases later with
    | nil => rfl
    | cons x later => simp [h x List.mem_cons_self]
  | cons x xs ih => rw [List.cons_append, List.takeWhile_cons, List.takeWhile_cons, ih]

theorem takeWhile_stop (h : (xs ++ x :: more).takeWhile p = xs) : p x = false := by
  induction xs with
  | nil =>
    rw [List.nil_append, List.takeWhile_cons] at h
    cases hx : p x with
    | false => rfl
    | true =>
      rw [hx] at h
      cases h
  | cons y ys ih =>
    rw [List.cons_append, List.takeWhile_cons] at h
    cases hy : p y with
    | false =>
      rw [hy] at h
      cases h
    | true =>
      rw [hy, if_pos rfl, List.cons.injEq] at h
      exact ih h.2

theorem countLimit_le (parsed : ParsedRrule) (n : Nat) (xs : List α) :
    countLimit parsed n xs <+: xs := by
  rw [countLimit]
  cases parsed.count with
  | none => exact List.prefix_refl _
  | some count => exact List.take_prefix _ _

theorem Expected.eq_take (h : rule.Expected times) (hcap : times.length ≤ maxExpansionInstances) :
    ∃ n, loopSteps rule.parsed ≤ n ∧ rule.firesTo n = times ∧
      series rule.parsed rule.start (loopSteps rule.parsed) <+: series rule.parsed rule.start n ∧
      times = (series rule.parsed rule.start (loopSteps rule.parsed)).take times.length := by
  obtain ⟨hinterval, hbyday⟩ := parseRrule_accepts rule.rrule
  obtain ⟨m, hm⟩ := h
  obtain ⟨later, hlater, _⟩ := series_after hinterval rule.start
    (Nat.le_max_right m (loopSteps rule.parsed))
  have hprefix : series rule.parsed rule.start (loopSteps rule.parsed) <+:
      series rule.parsed rule.start (max m (loopSteps rule.parsed)) := ⟨later, hlater.symm⟩
  have hfires := hm _ (Nat.le_max_left m (loopSteps rule.parsed))
  refine ⟨_, Nat.le_max_right _ _, hfires, hprefix, ?_⟩
  have htimes : times <+: series rule.parsed rule.start (max m (loopSteps rule.parsed)) := by
    rw [← hfires]
    exact (List.takeWhile_prefix _).trans (countLimit_le _ _ _)
  have hlength := series_length hinterval hbyday rule.start
  have hle : times.length ≤
      (series rule.parsed rule.start (loopSteps rule.parsed)).length := Nat.le_trans hcap hlength
  exact List.prefix_iff_eq_take.mp (List.prefix_of_prefix_length_le htimes hprefix hle)

theorem Expected.ascending (h : rule.Expected times) : times.Pairwise (· < ·) := by
  obtain ⟨m, hm⟩ := h
  rw [← hm m (Nat.le_refl m)]
  apply List.Pairwise.sublist _
    (series_pairwise (parseRrule_accepts rule.rrule).1 rule.start m)
  exact ((List.takeWhile_prefix _).trans (countLimit_le _ _ _)).sublist

theorem Expected.count_le (h : rule.Expected times) (hcount : rule.parsed.count = some count) :
    times.length ≤ count := by
  obtain ⟨m, hm⟩ := h
  rw [← hm m (Nat.le_refl m), firesTo, countLimit, hcount]
  exact Nat.le_trans (List.takeWhile_prefix _).length_le (List.length_take_le _ _)

theorem Expected.within (h : rule.Expected times) (hx : x ∈ times) : rule.within x = true := by
  obtain ⟨m, hm⟩ := h
  rw [← hm m (Nat.le_refl m)] at hx
  exact List.all_eq_true.mp List.all_takeWhile x hx

theorem Expected.unique (h : rule.Expected times) (h' : rule.Expected times') : times = times' := by
  obtain ⟨m, hm⟩ := h
  obtain ⟨m', hm'⟩ := h'
  rw [← hm _ (Nat.le_max_left m m'), ← hm' _ (Nat.le_max_right m m')]

theorem exists_expected (rule : Rule intl args) : ∃ times, rule.Expected times := by
  obtain ⟨hinterval, _⟩ := parseRrule_accepts rule.rrule
  obtain ⟨last, hlast⟩ : ∃ last : Int, args.windowEndMs = last := ⟨args.windowEndMs, rfl⟩
  obtain ⟨m, hm⟩ : ∃ m : Nat, last + rule.offset - rule.start ≤ ((m : Int) - 6) * 86400000 :=
    ⟨((last + rule.offset - rule.start) / 86400000 + 7).toNat, by omega⟩
  refine ⟨rule.firesTo m, m, fun n hn => ?_⟩
  obtain ⟨later, hlater, hpast⟩ := series_after hinterval rule.start hn
  have hnone : ∀ x ∈ later, rule.within x = false := by
    intro x hx
    have hx' := hpast x hx
    rw [within, hlast, decide_eq_false (by omega), Bool.and_false]
  rw [firesTo, firesTo, hlater, countLimit, countLimit]
  cases rule.parsed.count with
  | none => exact takeWhile_append_of_not _ hnone
  | some count =>
    dsimp only
    rw [List.take_append]
    exact takeWhile_append_of_not _ fun x hx => hnone x (List.mem_of_mem_take hx)

theorem Expected.stop (h : rule.Expected times) (hundisturbed : rule.Undisturbed times) :
    ∃ rest, fires rule.parsed (utcClock rule.start) (loopSteps rule.parsed) =
        times.map clockOf ++ rest ∧ (times.length < maxExpansionInstances →
        rest = [] ∨ rule.parsed.count.any (· < times.length + 1) = true ∨
        ∃ x later, rest = clockOf x :: later ∧ rule.Emittable x ∧ rule.within x = false) := by
  obtain ⟨n, hn, hfires, hprefix, htake⟩ := h.eq_take hundisturbed.capped
  have hlooked := hundisturbed.toLooked.fires_take (loopSteps rule.parsed)
  have hsplit := List.take_append_drop (rule.looked times)
    (fires rule.parsed (utcClock rule.start) (loopSteps rule.parsed))
  rw [hlooked] at hsplit
  by_cases hend : times.length = maxExpansionInstances ∨ rule.parsed.count = some times.length
  · have hcount : rule.looked times = times.length := if_pos hend
    rw [hcount, ← htake] at hsplit
    refine ⟨_, hsplit.symm, fun hopen => .inr (.inl ?_)⟩
    obtain hfull | hcount := hend
    · omega
    · rw [hcount, Option.any_some, decide_eq_true_eq]
      exact Nat.lt_succ_self _
  · have hcount : rule.looked times = times.length + 1 := if_neg hend
    have hcap := hundisturbed.capped
    obtain ⟨hinterval, hbyday⟩ := parseRrule_accepts rule.rrule
    have hlength := series_length hinterval hbyday rule.start
    have hlt : times.length < (series rule.parsed rule.start (loopSteps rule.parsed)).length := by
      omega
    obtain ⟨x, hx⟩ : ∃ x, (series rule.parsed rule.start (loopSteps rule.parsed)).take
        (times.length + 1) = times ++ [x] := by
      have hnext := List.take_succ_eq_append_getElem hlt
      rw [← htake] at hnext
      exact ⟨_, hnext⟩
    have hmem : x ∈ (series rule.parsed rule.start (loopSteps rule.parsed)).take
        (rule.looked times) := by
      rw [hcount, hx]
      exact List.mem_append_right _ (List.mem_singleton.mpr rfl)
    rw [hcount, hx, List.map_append, List.append_assoc] at hsplit
    refine ⟨_, hsplit.symm, fun _ => .inr (.inr ⟨x, _, rfl, hundisturbed.emittable hmem, ?_⟩)⟩
    have hlimit : times ++ [x] <+:
        countLimit rule.parsed 0 (series rule.parsed rule.start n) := by
      have hgrown : times ++ [x] <+: series rule.parsed rule.start n := by
        rw [← hx]
        exact (List.take_prefix _ _).trans hprefix
      rw [countLimit]
      cases hcount' : rule.parsed.count with
      | none => exact hgrown
      | some count =>
        have hle := h.count_le hcount'
        have hne : count ≠ times.length := by
          intro heq
          exact hend (.inr (by rw [hcount', heq]))
        rw [List.prefix_take_iff]
        refine ⟨hgrown, ?_⟩
        rw [List.length_append, List.length_singleton]
        omega
    obtain ⟨more, hmore⟩ := hlimit
    rw [firesTo, ← hmore, List.append_assoc] at hfires
    exact takeWhile_stop hfires

end Rule

/-- The expansion of an undisturbed series: its fires, each later than the one before. -/
theorem expandRrule_series (intl : Intl) (args : ExpandRruleArgs) (rule : Rule intl args) :
    ∃ times, rule.Expected times ∧ times.Pairwise (· < ·) ∧
      (rule.Undisturbed times → expandRrule intl args =
        .ok (times.map fun x => isoUtcString (x - rule.offset))) := by
  obtain ⟨times, htimes⟩ := rule.exists_expected
  refine ⟨times, htimes, htimes.ascending, fun h => ?_⟩
  have hcap := h.capped
  have hopen : 0 < maxExpansionInstances := by decide
  obtain ⟨rest, hfires, hrest⟩ := htimes.stop h
  obtain ⟨n, _, _, _, htake⟩ := htimes.eq_take hcap
  have hemit : ∀ x ∈ times, rule.Emittable x ∧ rule.within x = true := by
    intro x hx
    refine ⟨h.emittable (n := loopSteps rule.parsed) ?_, htimes.within hx⟩
    rw [htake] at hx
    refine List.mem_of_mem_take (i := times.length) ?_
    rw [List.take_take, Nat.min_eq_left]
    · exact hx
    · rw [Rule.looked]
      split <;> omega
  have hstart := rule.zone.instant h.first h.firstLocal h.datable
  rw [expandRrule_fires rule.rrule rule.startsOn hstart rule.until_, hfires, emitAll_append,
    Rule.emitAll_within times {} hemit]
  · have hempty : (rule.added {} times).out = times.map fun x => isoUtcString (x - rule.offset) :=
      List.nil_append _
    by_cases hfull : 0 + times.length = maxExpansionInstances
    · rw [if_pos hfull, ← hempty]
      rfl
    · rw [if_neg hfull, ← hempty]
      apply Rule.emitAll_end
      change rest = [] ∨ rule.parsed.count.any (· < 0 + times.length + 1) = true ∨ _
      rw [Nat.zero_add]
      exact hrest (by omega)
  · intro count hcount
    have hle := htimes.count_le hcount
    change 0 + times.length ≤ count
    omega
  · change 0 + times.length ≤ _
    omega
  · exact hopen

theorem utcIntl_fixedOffset (timezone : String) : FixedOffset utcIntl timezone 0 where
  minutes := Int.dvd_zero _
  utc _ := rfl
  parts ms _ _ := by
    refine ⟨utcClock ms, rfl, ?_⟩
    have hhour : (utcClock ms).h ≠ 24 := by
      rw [utcClock]
      dsimp only
      omega
    rw [if_neg hhour, add_zero]
  date _ _ _ := rfl

def threeMonths (startsOn : String) : ExpandRruleArgs where
  rrule := "FREQ=MONTHLY;COUNT=3"
  startsOn
  timezone := "UTC"
  exceptionDates := []
  windowStartMs := 0
  windowEndMs := 1800000000000

def fromMiddle : Rule utcIntl (threeMonths "2026-01-15") where
  parsed := ⟨.monthly, 1, none, none, some 3⟩
  start := 1768435200000
  offset := 0
  untilUtcMillis := none
  rrule := by decide +kernel
  startsOn := by decide +kernel
  whole := by decide
  until_ := by decide +kernel
  zone := utcIntl_fixedOffset _
  exceptions := rfl
  window := by decide

def fromEnd : Rule utcIntl (threeMonths "2026-01-31") where
  parsed := ⟨.monthly, 1, none, none, some 3⟩
  start := 1769817600000
  offset := 0
  untilUtcMillis := none
  rrule := by decide +kernel
  startsOn := by decide +kernel
  whole := by decide
  until_ := by decide +kernel
  zone := utcIntl_fixedOffset _
  exceptions := rfl
  window := by decide

theorem fromMiddle_expected :
    fromMiddle.Expected [1768435200000, 1771113600000, 1773532800000] := by
  refine ⟨3, fun n hn => ?_⟩
  have htake : ((List.range n).map (monthSeries 1768435200000 1)).take 3 =
      (List.range 3).map (monthSeries 1768435200000 1) := by
    rw [← List.map_take, List.take_range, Nat.min_eq_left hn]
  change (((List.range n).map (monthSeries 1768435200000 1)).take 3).takeWhile
    fromMiddle.within = _
  rw [htake]
  decide +kernel

theorem fromEnd_expected : fromEnd.Expected [1769817600000, 1772236800000, 1774915200000] := by
  refine ⟨3, fun n hn => ?_⟩
  have htake : ((List.range n).map (monthSeries 1769817600000 1)).take 3 =
      (List.range 3).map (monthSeries 1769817600000 1) := by
    rw [← List.map_take, List.take_range, Nat.min_eq_left hn]
  change (((List.range n).map (monthSeries 1769817600000 1)).take 3).takeWhile fromEnd.within = _
  rw [htake]
  decide +kernel

/-- The day of February stays for March. -/
theorem fromEnd_drifts : fromEnd.Expected [1769817600000, 1772236800000, 1774915200000] ∧
      [(1769817600000 : Int), 1772236800000, 1774915200000].map isoUtcString =
        ["2026-01-31T00:00:00Z", "2026-02-28T00:00:00Z", "2026-03-31T00:00:00Z"] ∧
      expandRrule utcIntl (threeMonths "2026-01-31") =
        .ok ["2026-01-31T00:00:00Z", "2026-02-28T00:00:00Z", "2026-03-28T00:00:00Z"] :=
  ⟨fromEnd_expected, by decide +kernel, by decide +kernel⟩

theorem fromMiddle_undisturbed :
    fromMiddle.Undisturbed [1768435200000, 1771113600000, 1773532800000] := by
  have hlooked : fromMiddle.looked [1768435200000, 1771113600000, 1773532800000] = 3 := rfl
  have hseries : ∀ n, ∀ x ∈ (series fromMiddle.parsed fromMiddle.start n).take 3,
      x ≤ 8640000000000000 := by
    intro n x hx
    change x ∈ ((List.range n).map (monthSeries 1768435200000 1)).take 3 at hx
    rw [← List.map_take, List.take_range, List.mem_map] at hx
    obtain ⟨k, hk, rfl⟩ := hx
    rw [List.mem_range] at hk
    obtain rfl | rfl | rfl : k = 0 ∨ k = 1 ∨ k = 2 := by omega
    all_goals decide +kernel
  have hread : Readable 1768435200000 := ⟨by decide, by decide⟩
  constructor
  · rw [hlooked]
    refine ⟨hread, by decide, hseries, ?_, ?_, ?_, ?_⟩
    · intro hfreq
      cases hfreq
    · intro hfreq
      cases hfreq
    · intro _ k hk
      obtain rfl | rfl : k = 0 ∨ k = 1 := by omega
      all_goals decide +kernel
    · intro hfreq
      cases hfreq
  · decide
  · exact hread
  · exact ⟨by decide, by decide, by decide⟩
  · rw [hlooked]
    intro n x hx
    have hle := hseries n x hx
    have hoffset : fromMiddle.offset = 0 := rfl
    rw [hoffset]
    exact ⟨hle, by omega, by omega⟩

theorem fromMiddle_expands : expandRrule utcIntl (threeMonths "2026-01-15") =
      .ok ["2026-01-15T00:00:00Z", "2026-02-15T00:00:00Z", "2026-03-15T00:00:00Z"] := by
  obtain ⟨times, htimes, _, hexpand⟩ :=
    expandRrule_series utcIntl (threeMonths "2026-01-15") fromMiddle
  rw [htimes.unique fromMiddle_expected] at hexpand
  rw [hexpand fromMiddle_undisturbed]
  decide +kernel

end IdAgents.Recurrences
