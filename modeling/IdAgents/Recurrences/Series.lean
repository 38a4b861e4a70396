import IdAgents.Library.Months
import IdAgents.Recurrences.WindowLaw

namespace IdAgents.Recurrences
open JsText List

theorem year_of_read (h : -683003 ≤ day) : 100 ≤ (civilOfDays day).1 := by
  have hfirst : civilOfDays (-683003) = (100, 1, 1) := by decide +kernel
  obtain heq | hlt := Int.le_iff_eq_or_lt.mp h
  · simp [← heq, hfirst]
  · have hdate := civilOfDays_lt hlt
    rw [hfirst, DateLt] at hdate
    omega

variable {ms : Int}

theorem dateUtc_utcClock (hday : -683003 * 86400000 ≤ ms) (hwhole : (1000 : Int) ∣ ms) :
    dateUtc (utcClock ms) = timeClip ms := by
  have hyear := year_of_read (by omega : -683003 ≤ ms / 86400000)
  obtain ⟨hm, _⟩ := civilOfDays_bounds (ms / 86400000)
  have hsame := daysOfCivil_civilOfDays (ms / 86400000)
  rw [dateUtc, utcClock]
  dsimp only
  generalize civilOfDays (ms / 86400000) = civil at *
  obtain ⟨y, m, d⟩ := civil
  dsimp only at *
  have hmonth : (m - 1) / 12 = 0 ∧ (m - 1) % 12 + 1 = m := by omega
  have hfirst : daysOfCivil y m 1 + (d - 1) = ms / 86400000 := by
    rw [← daysOfCivil_add, ← hsame]
    congr 1
    omega
  rw [if_neg (by omega), hmonth.1, hmonth.2, Int.add_zero, hfirst]
  congr 1
  omega

def shown (ms : Int) : Option WallClock := (timeClip ms).map utcClock

def Readable (ms : Int) : Prop := -683003 * 86400000 ≤ ms ∧ (1000 : Int) ∣ ms

theorem timeClip_of_le (h : Readable ms) (hle : ms ≤ 8640000000000000) : timeClip ms = some ms := by
  have hfirst := h.1
  rw [timeClip, if_pos (by omega)]

theorem shown_addDays (h : Readable ms) (hn : 0 ≤ n) :
    (shown ms).bind (addDays · n) = shown (ms + n * 86400000) := by
  by_cases hle : ms ≤ 8640000000000000
  · rw [shown, timeClip_of_le h hle, Option.map_some, Option.bind_some, addDays,
      dateUtc_utcClock h.1 h.2, timeClip_of_le h hle, shown]
    change (timeClip (ms + n * 86400000)).bind (fun t => some (utcClock t)) = _
    cases timeClip (ms + n * 86400000) <;> rfl
  · have hnone : ∀ t : Int, ms ≤ t → timeClip t = none := by
      intro t ht
      rw [timeClip, if_neg (by omega)]
    rw [shown, shown, hnone ms (Int.le_refl _), hnone _ (by omega)]
    rfl

theorem Readable.add (h : Readable ms) (hn : 0 ≤ n) : Readable (ms + n * 86400000) := by
  obtain ⟨hfirst, hwhole⟩ := h
  exact ⟨by omega, by omega⟩

theorem cursorFires_addDays (h : Readable ms) (interval n : Nat) :
    cursorFires (addDays · interval) n (shown ms) =
      (List.range n).map fun k => shown (ms + (k * interval : Nat) * 86400000) := by
  induction n generalizing ms with
  | zero => rfl
  | succ n ih =>
    rw [cursorFires, shown_addDays h (Int.natCast_nonneg _), ih (h.add (Int.natCast_nonneg _)),
      List.range_succ_eq_map, List.map_cons, List.map_map]
    congr 1
    · congr 1
      omega
    · apply map_congr_left
      intro k _
      have hmul : (k + 1) * interval = k * interval + interval := Nat.succ_mul k interval
      dsimp only [Function.comp]
      congr 1
      rw [hmul, Int.natCast_add]
      omega

def weekdays : List Weekday := [.mo, .tu, .we, .th, .fr, .sa, .su]

def monday (ms : Int) : Int := ms - (ms / 86400000 + 3) % 7 * 86400000

theorem weekdayIndex_bounds (wd : Weekday) : 0 ≤ weekdayIndex wd ∧ weekdayIndex wd ≤ 6 := by
  cases wd <;> decide

theorem weekdayOf_utcClock (h : Readable ms) (hle : ms ≤ 8640000000000000) :
    ∃ wd, weekdayOf (utcClock ms) = some wd ∧ weekdayIndex wd = (ms / 86400000 + 3) % 7 := by
  have hmidnight : Readable (ms / 86400000 * 86400000) := by
    obtain ⟨hfirst, hwhole⟩ := h
    exact ⟨by omega, by omega⟩
  have hclock : { utcClock ms with h := 0, mi := 0, s := 0 } =
      utcClock (ms / 86400000 * 86400000) := by
    have hday : ms / 86400000 * 86400000 / 86400000 = ms / 86400000 := by omega
    have htime : ms / 86400000 * 86400000 % 86400000 = 0 := by omega
    rw [utcClock, utcClock, hday, htime]
    rfl
  rw [weekdayOf, hclock, dateUtc_utcClock hmidnight.1 hmidnight.2,
    timeClip_of_le hmidnight (by omega)]
  have hday : ms / 86400000 * 86400000 / 86400000 = ms / 86400000 := by omega
  simp only [Option.bind_eq_bind, Option.bind_some, hday]
  obtain hwd | hwd | hwd | hwd | hwd | hwd | hwd : (ms / 86400000 + 3) % 7 = 0 ∨
      (ms / 86400000 + 3) % 7 = 1 ∨ (ms / 86400000 + 3) % 7 = 2 ∨ (ms / 86400000 + 3) % 7 = 3 ∨
      (ms / 86400000 + 3) % 7 = 4 ∨ (ms / 86400000 + 3) % 7 = 5 ∨
      (ms / 86400000 + 3) % 7 = 6 := by omega
  all_goals
    rw [hwd]
    exact ⟨_, rfl, rfl⟩

theorem startOfWeekMonday_utcClock (h : Readable (monday ms)) (hle : ms ≤ 8640000000000000) :
    startOfWeekMonday (utcClock ms) = shown (monday ms) := by
  have hread : Readable ms := by
    rw [monday] at h
    obtain ⟨hfirst, hwhole⟩ := h
    exact ⟨by omega, by omega⟩
  obtain ⟨wd, hwd, hindex⟩ := weekdayOf_utcClock hread hle
  have hback : ms + -weekdayIndex wd * 86400000 = monday ms := by
    rw [monday, hindex]
    omega
  rw [startOfWeekMonday, hwd]
  change addDays (utcClock ms) (-weekdayIndex wd) = _
  rw [addDays, dateUtc_utcClock hread.1 hread.2, timeClip_of_le hread hle]
  change (timeClip (ms + -weekdayIndex wd * 86400000)).bind (fun t => some (utcClock t)) = _
  rw [hback, shown]
  cases timeClip (monday ms) <;> rfl

def weekSeries (start : Int) (bydays : List Weekday) (weekStart : Int) : List Int :=
  ((weekdays.filter (· ∈ bydays)).map fun wd => weekStart + weekdayIndex wd * 86400000).filter
    (start ≤ ·)

theorem weekdays_pairwise : weekdays.Pairwise fun a b => weekdayIndex a ≤ weekdayIndex b := by
  decide

theorem weekdayIndex_inj (h : weekdayIndex a = weekdayIndex b) : a = b := by
  cases a <;> cases b <;> first | rfl | cases h

variable {bydays : List Weekday}

theorem mergeSort_bydays (h : bydays.Nodup) :
    (bydays.mergeSort fun a b => weekdayIndex a ≤ weekdayIndex b) =
      weekdays.filter (· ∈ bydays) := by
  have hperm : (bydays.mergeSort fun a b => weekdayIndex a ≤ weekdayIndex b).Perm
      (weekdays.filter (· ∈ bydays)) := by
    apply (mergeSort_perm _ _).trans
    rw [perm_ext_iff_of_nodup h (List.Nodup.filter _ (by decide))]
    intro wd
    rw [mem_filter, decide_eq_true_eq]
    refine ⟨fun hwd => ⟨?_, hwd⟩, fun hwd => hwd.2⟩
    cases wd <;> decide
  have hsorted : (bydays.mergeSort fun a b => weekdayIndex a ≤ weekdayIndex b).Pairwise
      fun a b => decide (weekdayIndex a ≤ weekdayIndex b) = true := by
    apply pairwise_mergeSort
    · intro a b c
      simp only [decide_eq_true_eq]
      exact Int.le_trans
    · intro a b
      simp only [Bool.or_eq_true, decide_eq_true_eq]
      exact Int.le_total _ _
  apply hperm.eq_of_pairwise
  · intro a b _ _ hab hba
    exact weekdayIndex_inj (Int.le_antisymm hab hba)
  · exact hsorted.imp fun hab => of_decide_eq_true hab
  · exact weekdays_pairwise.filter _

theorem beforeWallClock_eq (ha : dateUtc a = some am) (hb : dateUtc b = some bm) :
    beforeWallClock a b = decide (am < bm) := by
  dsimp only [beforeWallClock]
  simp only [ha, hb]

theorem dateUtc_readable (h : Readable ms) (hle : ms ≤ 8640000000000000) :
    dateUtc (utcClock ms) = some ms :=
  (dateUtc_utcClock h.1 h.2).trans (timeClip_of_le h hle)

variable {start : Int}

theorem shown_before (h : Readable ms) (hstart : Readable start) (hle : start ≤ 8640000000000000) :
    (!(shown ms).any (beforeWallClock · (utcClock start))) = decide (start ≤ ms) := by
  by_cases hms : ms ≤ 8640000000000000
  · have hclock : (shown ms).any (beforeWallClock · (utcClock start)) = decide (ms < start) := by
      rw [shown, timeClip_of_le h hms, Option.map_some, Option.any_some]
      exact beforeWallClock_eq (dateUtc_readable h hms) (dateUtc_readable hstart hle)
    rw [hclock, ← decide_not, decide_eq_decide]
    exact Int.not_lt
  · have hnone : timeClip ms = none := by rw [timeClip, if_neg (by omega)]
    rw [shown, hnone]
    simp only [Option.map_none, Option.any_none, Bool.not_false]
    rw [decide_eq_true (by omega : start ≤ ms)]

theorem weekFires_eq (hnodup : bydays.Nodup)
    (hstart : Readable start) (hle : start ≤ 8640000000000000) (hweek : Readable weekStart) :
    weekFires (utcClock start) (shown weekStart)
        (bydays.mergeSort fun a b => weekdayIndex a ≤ weekdayIndex b) =
      (weekSeries start bydays weekStart).map shown := by
  rw [weekFires, weekSeries, mergeSort_bydays hnodup]
  generalize weekdays.filter (· ∈ bydays) = days
  induction days with
  | nil => rfl
  | cons wd days ih =>
    have hindex := weekdayIndex_bounds wd
    rw [map_cons, map_cons, shown_addDays hweek hindex.1, filter_cons,
      filter_cons, shown_before (hweek.add hindex.1) hstart hle, ih]
    by_cases hlater : start ≤ weekStart + weekdayIndex wd * 86400000
    · rw [if_pos (decide_eq_true hlater), if_pos (decide_eq_true hlater), map_cons]
    · rw [if_neg (by simpa using hlater), if_neg (by simpa using hlater)]

theorem weeksFires_eq (hnodup : bydays.Nodup)
    (hstart : Readable start) (hle : start ≤ 8640000000000000) (hweek : Readable weekStart)
    (interval n : Nat) : weeksFires (utcClock start) bydays interval n (shown weekStart) =
      ((List.range n).flatMap fun w =>
        weekSeries start bydays (weekStart + (w * (7 * interval) : Nat) * 86400000)).map shown := by
  induction n generalizing weekStart with
  | zero => rfl
  | succ n ih =>
    have hstep : (0 : Int) ≤ 7 * (interval : Int) := by omega
    rw [weeksFires, weekFires_eq hnodup hstart hle hweek, shown_addDays hweek hstep,
      ih (hweek.add hstep), range_succ_eq_map, flatMap_cons, map_append,
      flatMap_map]
    congr 1
    · congr 2
      omega
    · congr 1
      apply flatMap_congr
      intro w _
      have hmul : (w + 1) * (7 * interval) = w * (7 * interval) + 7 * interval := Nat.succ_mul ..
      congr 1
      rw [Nat.succ_eq_add_one, hmul, Int.natCast_add]
      push_cast
      omega

/-- The clock of the start, on the day `d` of the month `j`. -/
def monthClock (start j d : Int) : WallClock :=
  { utcClock start with y := j / 12, m := j % 12 + 1, d }

/-- The time of the start, on the day `d` of the month `j`. -/
def monthTime (start j d : Int) : Int := (monthStart j + d - 1) * 86400000 + start % 86400000

theorem utcClock_monthTime (start : Int) (h : 1 ≤ d ∧ d ≤ monthLength j) :
    utcClock (monthTime start j d) = monthClock start j d := by
  have hday : monthTime start j d / 86400000 = monthStart j + d - 1 := by
    rw [monthTime]
    omega
  have htime : monthTime start j d % 86400000 = start % 86400000 := by
    rw [monthTime]
    omega
  rw [utcClock, hday, htime, civilOfDays_of_month h, monthClock, utcClock]

theorem addMonths_monthClock (n : Int) (hyear : 1200 ≤ j + n)
    (hlast : (monthStart (j + n + 1) - 1) * 86400000 ≤ 8640000000000000) :
    addMonths (monthClock start j d) n =
      some (monthClock start (j + n) (min d (monthLength (j + n)))) := by
  have hy : (monthClock start j d).y + ((monthClock start j d).m + n - 1) / 12 = (j + n) / 12 := by
    rw [monthClock]
    dsimp only
    omega
  have hm : ((monthClock start j d).m + n - 1) % 12 + 1 = (j + n) % 12 + 1 := by
    rw [monthClock]
    dsimp only
    omega
  have hlength := monthLength_bounds (j + n)
  have hend := civilOfDays_of_month (j := j + n) (d := monthLength (j + n)) (by omega)
  have hstart : monthStart (j + n) + monthLength (j + n) - 1 = monthStart (j + n + 1) - 1 := by
    rw [monthLength]
    omega
  rw [hstart] at hend
  have hlow : monthStart 1200 ≤ monthStart (j + n + 1) := monthStart_mono (by omega)
  have hfirst : monthStart 1200 = -683003 := by decide +kernel
  have hread : dateUtc ⟨(j + n) / 12, (j + n) % 12 + 1 + 1, 0, 0, 0, 0⟩ =
      some ((monthStart (j + n + 1) - 1) * 86400000) := by
    have hy' : (j + n) / 12 + ((j + n) % 12 + 1 + 1 - 1) / 12 = (j + n + 1) / 12 := by omega
    have hm' : ((j + n) % 12 + 1 + 1 - 1) % 12 + 1 = (j + n + 1) % 12 + 1 := by omega
    rw [dateUtc]
    dsimp only
    rw [if_neg (by omega), hy', hm', ← monthStart, timeClip, if_pos (by omega)]
    congr 1
    show (_ : Int) = _
    omega
  rw [addMonths, hy, hm, hread]
  change some _ = some _
  congr 1
  rw [utcClock]
  have hday : (monthStart (j + n + 1) - 1) * 86400000 / 86400000 = monthStart (j + n + 1) - 1 := by
    omega
  rw [hday, hend]
  rfl

section
variable (start : Int)

/-- The month that lies `k` times `months` after that of the start. -/
def monthOf (months k : Nat) : Int :=
  monthIndex (civilOfDays (start / 86400000)).1 (civilOfDays (start / 86400000)).2.1 +
    (k * months : Nat)

def dayOf : Int := (civilOfDays (start / 86400000)).2.2

def monthSeries (months k : Nat) : Int :=
  monthTime start (monthOf start months k)
    (min (dayOf start) (monthLength (monthOf start months k)))

theorem monthSeries_zero (months : Nat) : monthSeries start months 0 = start := by
  obtain ⟨hday, hfirst, hlast⟩ := civilOfDays_month (start / 86400000)
  have hmonth : monthOf start months 0 =
      monthIndex (civilOfDays (start / 86400000)).1 (civilOfDays (start / 86400000)).2.1 := by
    rw [monthOf, Nat.zero_mul]
    simp
  rw [monthSeries, hmonth, dayOf, Int.min_eq_left hlast, monthTime, hday]
  omega

theorem utcClock_monthSeries (months k : Nat) :
    utcClock (monthSeries start months k) = monthClock start (monthOf start months k)
      (min (dayOf start) (monthLength (monthOf start months k))) := by
  obtain ⟨_, hfirst, _⟩ := civilOfDays_month (start / 86400000)
  have hlength := monthLength_bounds (monthOf start months k)
  apply utcClock_monthTime
  rw [dayOf]
  omega

/-- Up to the day of the start, no month is longer than the one that the cursor comes from, and
`Date` has its last day. -/
def Undrifted (months looked : Nat) : Prop :=
  ∀ k, k + 1 < looked →
    min (dayOf start) (monthLength (monthOf start months (k + 1))) ≤
      monthLength (monthOf start months k) ∧
    (monthStart (monthOf start months (k + 1) + 1) - 1) * 86400000 ≤ 8640000000000000

end

theorem cursorFires_addMonths (hstart : Readable start) (h : Undrifted start months looked) :
    ∀ n k, k + n ≤ looked → cursorFires (addMonths · months) n
        (some (utcClock (monthSeries start months k))) =
      (List.range n).map fun i => some (utcClock (monthSeries start months (k + i))) := by
  intro n
  induction n with
  | zero =>
    intro k _
    rfl
  | succ n ih =>
    intro k hk
    rw [cursorFires, List.range_succ_eq_map, List.map_cons, List.map_map]
    congr 1
    cases n with
    | zero => rfl
    | succ n =>
      have hnext : (some (utcClock (monthSeries start months k))).bind (addMonths · months) =
          some (utcClock (monthSeries start months (k + 1))) := by
        have hmonth : monthOf start months (k + 1) = monthOf start months k + months := by
          rw [monthOf, monthOf, Nat.succ_mul, Int.natCast_add]
          omega
        obtain ⟨hundrifted, hlast⟩ := h k (by omega)
        have hyear := year_of_read (by
          have hfirst := hstart.1
          omega : -683003 ≤ start / 86400000)
        obtain ⟨⟨hm, _⟩, _⟩ := civilOfDays_bounds (start / 86400000)
        rw [Option.bind_some, utcClock_monthSeries, utcClock_monthSeries, addMonths_monthClock]
        · rw [← hmonth]
          congr 2
          omega
        · rw [monthOf, monthIndex]
          omega
        · rw [← hmonth]
          exact hlast
      rw [hnext, ih (k + 1) (by omega)]
      apply map_congr_left
      intro i _
      dsimp only [Function.comp]
      congr 3
      omega

theorem cursorFires_take (advance : WallClock → Option WallClock) (looked n : Nat)
    (cursor : Option WallClock) :
    (cursorFires advance n cursor).take looked = cursorFires advance (min looked n) cursor := by
  induction n generalizing looked cursor with
  | zero => rw [Nat.min_zero, cursorFires, List.take_nil]
  | succ n ih =>
    cases looked with
    | zero => rw [Nat.zero_min, cursorFires, List.take_zero]
    | succ looked => rw [Nat.succ_min_succ, cursorFires, List.take_succ_cons, ih, cursorFires]

/-- The local times of a series in its first `n` steps. -/
def series (parsed : ParsedRrule) (start : Int) (n : Nat) : List Int :=
  match parsed.freq with
  | .daily => (List.range n).map fun k => start + (k * parsed.interval : Nat) * 86400000
  | .weekly =>
    match parsed.byday with
    | none => (List.range n).map fun k => start + (k * (7 * parsed.interval) : Nat) * 86400000
    | some bydays => (List.range n).flatMap fun w =>
        weekSeries start bydays (monday start + (w * (7 * parsed.interval) : Nat) * 86400000)
  | .monthly => (List.range n).map (monthSeries start parsed.interval)
  | .yearly => (List.range n).map (monthSeries start (parsed.interval * 12))

theorem weekSeries_singleton
    (hwd : weekdayIndex wd = (start / 86400000 + 3) % 7) (hdays : 0 ≤ days) :
    weekSeries start [wd] (monday start + days * 86400000) = [start + days * 86400000] := by
  have hlisted : weekdays.filter (· ∈ [wd]) = [wd] := by cases wd <;> decide
  have htime : monday start + days * 86400000 + weekdayIndex wd * 86400000 =
      start + days * 86400000 := by
    rw [monday, hwd]
    omega
  rw [weekSeries, hlisted, map_singleton, htime, filter_cons_of_pos]
  · rfl
  · exact decide_eq_true (by omega)

structure Looked (parsed : ParsedRrule) (start : Int) (looked : Nat) : Prop where
  first : Readable start
  last : start ≤ 8640000000000000
  dates : ∀ n, ∀ x ∈ (series parsed start n).take looked, x ≤ 8640000000000000
  week : parsed.freq = .weekly → Readable (monday start)
  once : parsed.freq = .weekly → ∀ bydays, parsed.byday = some bydays → bydays.Nodup
  months : parsed.freq = .monthly → Undrifted start parsed.interval looked
  years : parsed.freq = .yearly → Undrifted start (parsed.interval * 12) looked

def clockOf (x : Int) : Option WallClock := some (utcClock x)

theorem shown_eq_clockOf (h : Readable x) (hle : x ≤ 8640000000000000) : shown x = clockOf x := by
  rw [shown, timeClip_of_le h hle]
  rfl

theorem dayStep_lt (hdays : 1 ≤ days) (start : Int) (h : i < k) :
    start + (i * days : Nat) * 86400000 < start + (k * days : Nat) * 86400000 := by
  have hmul : i * days < k * days := Nat.mul_lt_mul_of_pos_right h hdays
  omega

theorem monthSeries_lt (hmonths : 1 ≤ months) (start : Int)
    (h : i < k) : monthSeries start months i < monthSeries start months k := by
  have hmul : i * months < k * months := Nat.mul_lt_mul_of_pos_right h hmonths
  have hmonth : monthOf start months i + 1 ≤ monthOf start months k := by
    rw [monthOf, monthOf]
    omega
  have hnext := monthStart_mono hmonth
  have hlength := monthLength_bounds (monthOf start months k)
  have hday : 1 ≤ dayOf start := (civilOfDays_month (start / 86400000)).2.1
  have hlast : monthStart (monthOf start months i + 1) =
      monthStart (monthOf start months i) + monthLength (monthOf start months i) := by
    rw [monthLength]
    omega
  rw [monthSeries, monthSeries, monthTime, monthTime]
  omega

theorem mem_weekSeries (h : x ∈ weekSeries start bydays weekStart) :
    start ≤ x ∧ ∃ wd ∈ bydays, x = weekStart + weekdayIndex wd * 86400000 := by
  rw [weekSeries, mem_filter, mem_map] at h
  obtain ⟨⟨wd, hwd, rfl⟩, hstart⟩ := h
  rw [mem_filter] at hwd
  exact ⟨of_decide_eq_true hstart, wd, of_decide_eq_true hwd.2, rfl⟩

theorem weekdays_ascending : weekdays.Pairwise fun a b => weekdayIndex a < weekdayIndex b := by
  decide

theorem weekSeries_pairwise (start weekStart : Int) (bydays : List Weekday) :
    (weekSeries start bydays weekStart).Pairwise (· < ·) := by
  rw [weekSeries]
  apply List.Pairwise.filter
  rw [pairwise_map]
  apply (weekdays_ascending.filter _).imp
  intro a b hab
  omega

variable {parsed : ParsedRrule}

theorem series_pairwise (hinterval : 1 ≤ parsed.interval) (start : Int)
    (n : Nat) : (series parsed start n).Pairwise (· < ·) := by
  rw [series]
  cases parsed.freq with
  | daily =>
    dsimp only
    rw [pairwise_map]
    exact pairwise_lt_range.imp fun h => dayStep_lt hinterval start h
  | weekly =>
    cases parsed.byday with
    | none =>
      dsimp only
      rw [pairwise_map]
      exact pairwise_lt_range.imp fun h => dayStep_lt (by omega) start h
    | some bydays =>
      dsimp only
      rw [pairwise_flatMap]
      refine ⟨fun w _ => weekSeries_pairwise _ _ _, pairwise_lt_range.imp ?_⟩
      intro v w h x hx y hy
      obtain ⟨_, a, _, rfl⟩ := mem_weekSeries hx
      obtain ⟨_, b, _, rfl⟩ := mem_weekSeries hy
      have ha := weekdayIndex_bounds a
      have hb := weekdayIndex_bounds b
      have hmul : v * (7 * parsed.interval) + 7 * parsed.interval ≤ w * (7 * parsed.interval) := by
        rw [← Nat.succ_mul]
        exact Nat.mul_le_mul_right _ h
      omega
  | monthly =>
    dsimp only
    rw [pairwise_map]
    exact pairwise_lt_range.imp fun h => monthSeries_lt hinterval start h
  | yearly =>
    dsimp only
    rw [pairwise_map]
    exact pairwise_lt_range.imp fun h => monthSeries_lt (by omega) start h

theorem monthSeries_start (start : Int) (months k : Nat) : start ≤ monthSeries start months k ∧
      (86400000 : Int) ∣ monthSeries start months k - start := by
  have htime : (86400000 : Int) ∣ monthSeries start months k - start := by
    rw [monthSeries, monthTime]
    omega
  refine ⟨?_, htime⟩
  obtain hzero | hsucc := Nat.eq_zero_or_pos (k * months)
  · have hsame : monthSeries start months k = monthSeries start months 0 := by
      rw [monthSeries, monthSeries, monthOf, monthOf, hzero, Nat.zero_mul]
    exact Int.le_of_eq (hsame.trans (monthSeries_zero start months)).symm
  · have hmonths : 1 ≤ months := Nat.pos_of_mul_pos_left hsucc
    have hlater := monthSeries_lt hmonths start (Nat.pos_of_mul_pos_right hsucc : 0 < k)
    rw [monthSeries_zero] at hlater
    omega

theorem mem_series (h : x ∈ series parsed start n) : start ≤ x ∧ (86400000 : Int) ∣ x - start := by
  rw [series] at h
  cases hfreq : parsed.freq with
  | daily =>
    simp only [hfreq, mem_map] at h
    obtain ⟨k, _, rfl⟩ := h
    omega
  | weekly =>
    cases hbyday : parsed.byday with
    | none =>
      simp only [hfreq, hbyday, mem_map] at h
      obtain ⟨k, _, rfl⟩ := h
      omega
    | some bydays =>
      simp only [hfreq, hbyday, mem_flatMap] at h
      obtain ⟨w, _, hx⟩ := h
      obtain ⟨hstart, wd, _, rfl⟩ := mem_weekSeries hx
      refine ⟨hstart, ?_⟩
      rw [monday]
      omega
  | monthly =>
    simp only [hfreq, mem_map] at h
    obtain ⟨k, _, rfl⟩ := h
    exact monthSeries_start _ _ _
  | yearly =>
    simp only [hfreq, mem_map] at h
    obtain ⟨k, _, rfl⟩ := h
    exact monthSeries_start _ _ _

theorem cursorFires_congr (h : ∀ c, advance c = advance' c) (n : Nat) (cursor : Option WallClock) :
    cursorFires advance n cursor = cursorFires advance' n cursor := by
  rw [funext h]

theorem addYears_eq (c : WallClock) (interval : Nat) :
    addYears c interval = addMonths c (interval * 12 : Nat) := by
  rw [addYears]
  push_cast
  rfl

theorem Readable.of_mem (h : Readable start) (hx : x ∈ series parsed start n) : Readable x := by
  obtain ⟨hstart, htime⟩ := mem_series hx
  obtain ⟨hfirst, hwhole⟩ := h
  exact ⟨by omega, by omega⟩

section
variable {parsed : ParsedRrule} {start : Int} {looked : Nat}

theorem Looked.clocks (h : Looked parsed start looked) (n : Nat) :
    ((series parsed start n).map shown).take looked =
      ((series parsed start n).take looked).map clockOf := by
  rw [← map_take]
  apply map_congr_left
  intro x hx
  exact shown_eq_clockOf (h.first.of_mem (mem_of_mem_take hx)) (h.dates n x hx)

theorem Looked.months_take {months : Nat} (h : Looked parsed start looked)
    (hundrifted : Undrifted start months looked) (n : Nat) :
    (cursorFires (addMonths · months) n (some (utcClock start))).take looked =
      (((List.range n).map (monthSeries start months)).take looked).map clockOf := by
  have hsteps := cursorFires_addMonths h.first hundrifted (min looked n) 0 (by omega)
  rw [monthSeries_zero] at hsteps
  rw [cursorFires_take, hsteps, ← List.map_take, List.take_range, List.map_map]
  apply List.map_congr_left
  intro k _
  rw [Nat.zero_add]
  rfl

theorem Looked.fires_take (h : Looked parsed start looked) (n : Nat) :
    (fires parsed (utcClock start) n).take looked =
      ((series parsed start n).take looked).map clockOf := by
  have hstart : some (utcClock start) = shown start := (shown_eq_clockOf h.first h.last).symm
  cases hfreq : parsed.freq with
  | daily =>
    have hfires : fires parsed (utcClock start) n = (series parsed start n).map shown := by
      simp only [fires, series, hfreq, hstart, cursorFires_addDays h.first, List.map_map]
      rfl
    rw [hfires, h.clocks]
  | weekly =>
    have hfires : fires parsed (utcClock start) n = (series parsed start n).map shown := by
      have hweek := h.week hfreq
      cases hbyday : parsed.byday with
      | none =>
        obtain ⟨wd, hwd, hindex⟩ := weekdayOf_utcClock h.first h.last
        simp only [fires, series, hfreq, hbyday, Option.getD_none, hwd, Option.toList_some,
          startOfWeekMonday_utcClock hweek h.last]
        rw [weeksFires_eq (by simp) h.first h.last hweek]
        congr 1
        rw [map_eq_flatMap]
        apply flatMap_congr
        intro w _
        exact weekSeries_singleton hindex (Int.natCast_nonneg _)
      | some bydays =>
        simp only [fires, series, hfreq, hbyday, Option.getD_some,
          startOfWeekMonday_utcClock hweek h.last]
        rw [weeksFires_eq (h.once hfreq bydays hbyday) h.first h.last hweek]
    rw [hfires, h.clocks]
  | monthly =>
    simp only [fires, series, hfreq]
    exact h.months_take (h.months hfreq) n
  | yearly =>
    simp only [fires, series, hfreq]
    rw [cursorFires_congr (fun c => addYears_eq c parsed.interval)]
    exact h.months_take (h.years hfreq) n

theorem flatMap_length_ge {α β : Type} {f : α → List β} {xs : List α}
    (h : ∀ x ∈ xs, 1 ≤ (f x).length) : xs.length ≤ (xs.flatMap f).length := by
  induction xs with
  | nil => exact Nat.zero_le _
  | cons x xs ih =>
    have hhead := h x mem_cons_self
    have htail := ih fun y hy => h y (mem_cons_of_mem _ hy)
    rw [flatMap_cons, length_append, length_cons]
    omega

theorem weekSeries_length (h : bydays ≠ []) (hdays : 7 ≤ days) :
    1 ≤ (weekSeries start bydays (monday start + days * 86400000)).length := by
  obtain ⟨wd, hwd⟩ := exists_mem_of_ne_nil _ h
  apply length_pos_of_mem (a := monday start + days * 86400000 +
    weekdayIndex wd * 86400000)
  have hindex := weekdayIndex_bounds wd
  rw [weekSeries, mem_filter, mem_map]
  refine ⟨⟨wd, ?_, rfl⟩, ?_⟩
  · rw [mem_filter]
    refine ⟨?_, decide_eq_true hwd⟩
    cases wd <;> decide
  · rw [decide_eq_true_eq, monday]
    omega

theorem series_length (hinterval : 1 ≤ parsed.interval) (hbyday : parsed.byday ≠ some [])
    (start : Int) : maxExpansionInstances ≤ (series parsed start (loopSteps parsed)).length := by
  have hcap : maxExpansionInstances ≤ maxExpansionInstances * parsed.interval :=
    Nat.le_mul_of_pos_right _ hinterval
  rw [series, loopSteps]
  cases parsed.freq with
  | daily =>
    dsimp only
    rw [length_map, length_range]
    omega
  | weekly =>
    cases hbydays : parsed.byday with
    | none =>
      dsimp only
      rw [length_map, length_range]
      omega
    | some bydays =>
      have hlater : ∀ w ∈ List.range (maxExpansionInstances * parsed.interval),
          1 ≤ (weekSeries start bydays
            (monday start + (w.succ * (7 * parsed.interval) : Nat) * 86400000)).length := by
        intro w _
        have hmul : 1 ≤ w.succ * parsed.interval := Nat.mul_pos (Nat.succ_pos w) hinterval
        rw [Nat.mul_left_comm]
        refine weekSeries_length ?_ (by omega)
        intro hnil
        exact hbyday (by rw [hbydays, hnil])
      have hweeks := flatMap_length_ge hlater
      dsimp only
      rw [range_succ_eq_map, flatMap_cons, length_append, flatMap_map]
      rw [length_range] at hweeks
      omega
  | monthly =>
    dsimp only
    rw [length_map, length_range]
  | yearly =>
    dsimp only
    rw [length_map, length_range]

theorem monthSeries_ge (hmonths : 1 ≤ months) (start : Int) (k : Nat) :
    start + k * 86400000 ≤ monthSeries start months k := by
  induction k with
  | zero =>
    rw [monthSeries_zero]
    omega
  | succ k ih =>
    have hlater : monthSeries start months k < monthSeries start months (k + 1) :=
      monthSeries_lt hmonths start (Nat.lt_succ_self k)
    have hnow := (monthSeries_start start months k).2
    have hnext := (monthSeries_start start months (k + 1)).2
    omega

theorem dayStep_ge (hdays : 1 ≤ days) (start : Int) (k : Nat) :
    start + k * 86400000 ≤ start + (k * days : Nat) * 86400000 := by
  have hmul : k ≤ k * days := Nat.le_mul_of_pos_right _ hdays
  omega

theorem map_range_after (h : ∀ k : Nat, start + k * 86400000 ≤ f k) (hmn : m ≤ n) :
    ∃ later, (List.range n).map f = (List.range m).map f ++ later ∧
      ∀ x ∈ later, start + ((m : Int) - 6) * 86400000 ≤ x := by
  obtain ⟨b, rfl⟩ := Nat.exists_eq_add_of_le hmn
  refine ⟨((List.range b).map (m + ·)).map f, ?_, ?_⟩
  · rw [range_add, map_append]
  · intro x hx
    rw [List.map_map, List.mem_map] at hx
    obtain ⟨i, _, rfl⟩ := hx
    have hstep := h (m + i)
    dsimp only [Function.comp]
    omega

theorem series_after (hinterval : 1 ≤ parsed.interval) (start : Int) (h : m ≤ n) :
    ∃ later, series parsed start n = series parsed start m ++ later ∧
      ∀ x ∈ later, start + ((m : Int) - 6) * 86400000 ≤ x := by
  rw [series, series]
  cases parsed.freq with
  | daily => exact map_range_after (dayStep_ge hinterval start) h
  | weekly =>
    cases parsed.byday with
    | none => exact map_range_after (dayStep_ge (by omega) start) h
    | some bydays =>
      obtain ⟨b, rfl⟩ := Nat.exists_eq_add_of_le h
      refine ⟨((List.range b).map (m + ·)).flatMap fun w => weekSeries start bydays
        (monday start + (w * (7 * parsed.interval) : Nat) * 86400000), ?_, ?_⟩
      · dsimp only
        rw [range_add, flatMap_append]
      · intro x hx
        rw [flatMap_map, mem_flatMap] at hx
        obtain ⟨i, _, hx⟩ := hx
        obtain ⟨_, wd, _, rfl⟩ := mem_weekSeries hx
        have hindex := weekdayIndex_bounds wd
        have hmul : m + i ≤ (m + i) * (7 * parsed.interval) :=
          Nat.le_mul_of_pos_right _ (by omega)
        rw [monday]
        omega
  | monthly => exact map_range_after (monthSeries_ge hinterval start) h
  | yearly => exact map_range_after (monthSeries_ge (by omega) start) h

end

end IdAgents.Recurrences
