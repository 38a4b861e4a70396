import Mathlib.Data.List.Perm.Basic
import IdAgents.Library.Timestamp
import IdAgents.Scheduling.Evaluator

namespace IdAgents.Scheduling
open JsText KeyedTable List

structure IntervalDue (d : ScheduleDefinitionRow) (interval anchor n : Int) (run : DueRun) :
    Prop where
  started : 0 ≤ n
  lasting : d.expiresAt.all (anchor + n * interval < ·)
  allowed : d.maxRuns.all (n < ·)
  eq : run = ⟨d.id, "heartbeat:" ++ toString (anchor + n * interval), anchor + n * interval,
    .heartbeat⟩

structure CalendarDue (d : ScheduleDefinitionRow) (zone : Zone) (timeSeconds unixSec : Int)
    (run : DueRun) : Prop where
  date : matchesDate d (localDateInfo zone (unixSec * 1000))
  time : let info := localDateInfo zone (unixSec * 1000)
    localToUnix zone info.year info.month info.day timeSeconds = .ok (some unixSec)
  lasting : d.expiresAt.all (unixSec < ·)
  eq : run = ⟨d.id, "calendar:" ++ (localDateInfo zone (unixSec * 1000)).dateStr ++ "@" ++
    toString timeSeconds, unixSec, .calendar⟩

def IsDue (intl : Intl) (d : ScheduleDefinitionRow) (run : DueRun) : Prop :=
  match d.kind with
  | .heartbeat => ∃ interval anchor n, d.intervalSeconds = some interval ∧
      d.anchorAt = some anchor ∧ IntervalDue d interval anchor n run
  | .calendar => ∃ timeSeconds tz zone unixSec, d.localTimeSeconds = some timeSeconds ∧
      d.timezone.filter (· ≠ "") = some tz ∧ intl.zone tz = some zone ∧
      CalendarDue d zone timeSeconds unixSec run

structure DuePoint (intl : Intl) (d : ScheduleDefinitionRow) (windowStart windowEnd : Int)
    (run : DueRun) : Prop where
  due : IsDue intl d run
  later : windowStart < run.scheduledAt
  inside : run.scheduledAt ≤ windowEnd

structure AllDue (intl : Intl) (d : ScheduleDefinitionRow) (windowStart windowEnd : Int)
    (runs : List DueRun) : Prop where
  mem_iff : ∀ run, run ∈ runs ↔ DuePoint intl d windowStart windowEnd run
  keys : (runs.map (·.scheduledKey)).Nodup

def LatestDue (intl : Intl) (d : ScheduleDefinitionRow) (windowStart windowEnd : Int)
    (runs : List DueRun) : Prop :=
  (runs = [] ∧ ∀ run, ¬ DuePoint intl d windowStart windowEnd run) ∨
    ∃ run, runs = [run] ∧ DuePoint intl d windowStart windowEnd run ∧
      ∀ other, DuePoint intl d windowStart windowEnd other → other.scheduledAt ≤ run.scheduledAt

def localDay (offset : Int) (t : Instant) : Int := (t + offset) / 86400000

/-- At the instants that are looked at the zone has a fixed offset: those of a local day are shown
with one date, and with that of no other day, and every time of a day that is shown is a `Date`. -/
structure FixedOffset (zone : Zone) (offset : Int) (shown : Set Instant) : Prop where
  parts : ∀ s ∈ shown, ∀ t ∈ shown, localDay offset s = localDay offset t →
    zone.parts s = zone.parts t
  dateStr : ∀ s ∈ shown, ∀ t ∈ shown,
    (localDateInfo zone s).dateStr = (localDateInfo zone t).dateStr →
      localDay offset s = localDay offset t
  clock : ∀ s ∈ shown, ∀ t ∈ shown, ∀ c, zone.clock s = some c →
    c.y = (localDateInfo zone t).year → c.m = (localDateInfo zone t).month →
      c.d = (localDateInfo zone t).day → localDay offset s = localDay offset t
  time : ∀ t ∈ shown, ∀ h mi s, (0 ≤ h ∧ h ≤ 23) → (0 ≤ mi ∧ mi ≤ 59) → (0 ≤ s ∧ s ≤ 59) →
    let info := localDateInfo zone t
    ∃ guess, Recurrences.dateUtc ⟨info.year, info.month, info.day, h, mi, s⟩ = some guess ∧
      ∀ c, zone.clock guess = some c → (Recurrences.dateUtc c).isSome

theorem FixedOffset.mono (h : FixedOffset zone offset shown) (hsub : shown' ⊆ shown) :
    FixedOffset zone offset shown' where
  parts s hs t ht := h.parts s (hsub hs) t (hsub ht)
  dateStr s hs t ht := h.dateStr s (hsub hs) t (hsub ht)
  clock s hs t ht := h.clock s (hsub hs) t (hsub ht)
  time t ht := h.time t (hsub ht)

/-- A zone with a fixed offset, in milliseconds, in the years of four digits, which are those that
the clock is read of. Under `hour12: false` a host shows the hour of midnight as 0 or as 24. -/
def fixedZone (offset : Int) (midnight24 : Bool) : Zone where
  clock t :=
    let civil := civilOfDays (localDay offset t)
    let ms := (t + offset) % 86400000
    let hour := ms / 3600000
    if 1000 ≤ civil.1 ∧ civil.1 ≤ 9999 then some {
      y := civil.1, m := civil.2.1, d := civil.2.2
      h := if midnight24 ∧ hour = 0 then 24 else hour
      mi := ms / 60000 % 60, s := ms / 1000 % 60 }
    else none
  parts t :=
    let civil := civilOfDays (localDay offset t)
    { year := padLeft 4 (toString civil.1.toNat)
      month := padLeft 2 (toString civil.2.1.toNat)
      day := padLeft 2 (toString civil.2.2.toNat)
      weekday := match (localDay offset t + 3) % 7 with
        | 0 => "Mon" | 1 => "Tue" | 2 => "Wed" | 3 => "Thu" | 4 => "Fri" | 5 => "Sat"
        | _ => "Sun" }

def FourDigits (day : Int) : Prop := -354285 ≤ day ∧ day ≤ 2932896

theorem FourDigits.year (h : FourDigits day) :
    1000 ≤ (civilOfDays day).1 ∧ (civilOfDays day).1 ≤ 9999 := by
  have hfirst : civilOfDays (-354285) = (1000, 1, 1) := by decide +kernel
  have hlast : civilOfDays 2932896 = (9999, 12, 31) := by decide +kernel
  constructor
  · obtain heq | hlt := Int.le_iff_eq_or_lt.mp h.1
    · rw [← heq, hfirst]
    · have hdate := civilOfDays_lt hlt
      rw [hfirst, DateLt] at hdate
      omega
  · obtain heq | hlt := Int.le_iff_eq_or_lt.mp h.2
    · rw [heq, hlast]
    · have hdate := civilOfDays_lt hlt
      rw [hlast, DateLt] at hdate
      omega

theorem fourDigits_of_year (h : 1000 ≤ (civilOfDays day).1 ∧ (civilOfDays day).1 ≤ 9999) :
    FourDigits day := by
  have hfirst : civilOfDays (-354285) = (1000, 1, 1) := by decide +kernel
  have hlast : civilOfDays 2932896 = (9999, 12, 31) := by decide +kernel
  obtain ⟨⟨hm, hm'⟩, hd, hd'⟩ := civilOfDays_bounds day
  constructor
  · by_contra hearly
    have hdate := civilOfDays_lt (Int.not_le.mp hearly)
    rw [hfirst, DateLt] at hdate
    dsimp only at hdate
    omega
  · by_contra hlate
    have hdate := civilOfDays_lt (Int.not_le.mp hlate)
    rw [hlast, DateLt] at hdate
    dsimp only at hdate
    omega

theorem numberOf_padLeft {w n : Nat} (hw : 0 < w) (h : n < 10 ^ w) :
    numberOf (padLeft w (toString n)) = n := by
  have hdecimal : ∀ w n, n < 10 ^ w → ofDigits (JsText.decimal w n) = n := by
    intro w
    induction w with
    | zero =>
      intro n hn
      rw [JsText.decimal, ofDigits, foldl_nil]
      omega
    | succ w ih =>
      intro n hn
      have hhead := ih (n / 10) (by omega)
      have hlast : ((n % 10).digitChar).toNat - 48 = n % 10 := by
        have hall : ∀ k < 10, (Nat.digitChar k).toNat - 48 = k := by decide
        exact hall _ (Nat.mod_lt _ (by decide))
      rw [ofDigits] at hhead
      rw [JsText.decimal, ofDigits, foldl_append, hhead, foldl_cons, foldl_nil,
        hlast]
      omega
  rw [numberOf, padLeft_toString hw h, hdecimal w n h]

variable {offset : Int}

theorem fixedZone_date (midnight24 : Bool) (h : FourDigits (localDay offset t)) :
    (localDateInfo (fixedZone offset midnight24) t).year = (civilOfDays (localDay offset t)).1 ∧
      (localDateInfo (fixedZone offset midnight24) t).month =
        (civilOfDays (localDay offset t)).2.1 ∧
      (localDateInfo (fixedZone offset midnight24) t).day =
        (civilOfDays (localDay offset t)).2.2 := by
  obtain ⟨hy, hy'⟩ := h.year
  obtain ⟨⟨hm, hm'⟩, hd, hd'⟩ := civilOfDays_bounds (localDay offset t)
  dsimp only [localDateInfo, fixedZone]
  rw [numberOf_padLeft (by decide) (by omega), numberOf_padLeft (by decide) (by omega),
    numberOf_padLeft (by decide) (by omega)]
  omega

theorem fixedZone_dateStr (h : FourDigits (localDay offset t)) :
    (localDateInfo (fixedZone offset midnight24) t).dateStr.toList =
      dateText (localDay offset t) := by
  obtain ⟨hy, hy'⟩ := h.year
  obtain ⟨⟨hm, hm'⟩, hd, hd'⟩ := civilOfDays_bounds (localDay offset t)
  dsimp only [localDateInfo, fixedZone]
  rw [String.toList_append, String.toList_append, String.toList_append, String.toList_append,
    padLeft_toString (by decide) (by omega), padLeft_toString (by decide) (by omega),
    padLeft_toString (by decide) (by omega), dateText]
  simp

theorem dateUtc_isSome (hday : FourDigits day) (hh : 0 ≤ h ∧ h ≤ 24)
    (hmi : 0 ≤ mi ∧ mi ≤ 59) (hs : 0 ≤ s ∧ s ≤ 59) :
    (Recurrences.dateUtc ⟨(civilOfDays day).1, (civilOfDays day).2.1, (civilOfDays day).2.2,
      h, mi, s⟩).isSome := by
  obtain ⟨hy, hy'⟩ := hday.year
  obtain ⟨⟨hm, hm'⟩, hd, hd'⟩ := civilOfDays_bounds day
  have hsame := daysOfCivil_civilOfDays day
  generalize (civilOfDays day).1 = year at *
  generalize (civilOfDays day).2.1 = month at *
  generalize (civilOfDays day).2.2 = date at *
  have hfirst : daysOfCivil year month 1 + (date - 1) = day := by
    rw [← daysOfCivil_add, ← hsame]
    congr 1
    omega
  have hmonths : (month - 1) / 12 = 0 ∧ (month - 1) % 12 + 1 = month := by omega
  have hcentury : ¬ (0 ≤ year ∧ year ≤ 99) := by omega
  rw [Recurrences.dateUtc, if_neg hcentury, hmonths.1, hmonths.2, Int.add_zero, hfirst, timeClip,
    if_pos]
  · rfl
  · rw [FourDigits] at hday
    dsimp only
    omega

theorem fixedZone_fixedOffset (h : ∀ t ∈ shown, FourDigits (localDay offset t)) :
    FixedOffset (fixedZone offset midnight24) offset shown where
  parts s _ t _ hday := by
    dsimp only [fixedZone]
    rw [hday]
  dateStr s hs t ht hdate := by
    have htext := congrArg String.toList hdate
    rw [fixedZone_dateStr (h s hs), fixedZone_dateStr (h t ht)] at htext
    have hyear := (h s hs).year
    have hyear' := (h t ht).year
    exact (dateText_inj (by omega) (by omega)).mp htext
  clock s hs t ht c hc hy hm hd := by
    obtain ⟨hyear, hmonth, hday⟩ := fixedZone_date midnight24 (h t ht)
    dsimp only [fixedZone] at hc
    rw [if_pos (h s hs).year] at hc
    obtain rfl := Option.some.inj hc
    dsimp only at hy hm hd
    rw [← daysOfCivil_civilOfDays (localDay offset s), hy, hm, hd, hyear, hmonth, hday,
      daysOfCivil_civilOfDays]
  time t ht hour mi s hhour hmi hs := by
    dsimp only
    obtain ⟨hyear, hmonth, hday⟩ := fixedZone_date midnight24 (h t ht)
    rw [hyear, hmonth, hday]
    obtain ⟨guess, hguess⟩ := Option.isSome_iff_exists.mp
      (dateUtc_isSome (h t ht) (by omega : 0 ≤ hour ∧ hour ≤ 24) hmi hs)
    refine ⟨guess, hguess, fun c hc => ?_⟩
    dsimp only [fixedZone] at hc
    split at hc
    · next hyears =>
      obtain rfl := Option.some.inj hc
      apply dateUtc_isSome (fourDigits_of_year hyears)
      · split <;> omega
      · omega
      · omega
    · cases hc

theorem any_le_eq_false {bound : Option Int} : bound.any (· ≤ x) = false ↔ bound.all (x < ·) := by
  cases bound <;> simp

theorem intervalRun_eq_some : intervalRun d interval anchor a n = some run ↔
    a < anchor + n * interval ∧ d.expiresAt.all (anchor + n * interval < ·) ∧
      d.maxRuns.all (n < ·) ∧ run = ⟨d.id, "heartbeat:" ++ toString (anchor + n * interval),
        anchor + n * interval, .heartbeat⟩ := by
  rw [intervalRun, ← any_le_eq_false, ← any_le_eq_false]
  split
  · next hdropped =>
    simp only [Bool.or_eq_true, decide_eq_true_eq] at hdropped
    constructor
    · rintro ⟨⟩
    · rintro ⟨hlater, hlasting, hallowed, _⟩
      obtain (hdropped | hdropped) | hdropped := hdropped
      · omega
      · rw [hlasting] at hdropped
        cases hdropped
      · rw [hallowed] at hdropped
        cases hdropped
  · next hkept =>
    simp only [Bool.or_eq_true, decide_eq_true_eq, not_or, Bool.not_eq_true, Int.not_le] at hkept
    rw [Option.some.injEq, eq_comm]
    simp only [hkept, true_and]

def intervalRuns (d : ScheduleDefinitionRow) (interval anchor windowStart windowEnd : Int) :
    List DueRun :=
  (descending (max ((windowStart - anchor) / interval + 1) 0)
    ((windowEnd - anchor) / interval)).filterMap (intervalRun d interval anchor windowStart)

theorem mem_intervalRuns (hpos : 0 < interval) : run ∈ intervalRuns d interval anchor a b ↔
    (∃ n, IntervalDue d interval anchor n run) ∧ a < run.scheduledAt ∧ run.scheduledAt ≤ b := by
  rw [intervalRuns, mem_filterMap]
  constructor
  · rintro ⟨n, hn, hrun⟩
    obtain ⟨hlater, hlasting, hallowed, rfl⟩ := intervalRun_eq_some.mp hrun
    rw [mem_descending] at hn
    have hlast := (Int.le_ediv_iff_mul_le hpos).mp hn.2
    have hinside : anchor + n * interval ≤ b := by omega
    exact ⟨⟨n, by omega, hlasting, hallowed, rfl⟩, hlater, hinside⟩
  · rintro ⟨⟨n, hstarted, hlasting, hallowed, rfl⟩, hlater, hinside⟩
    dsimp only at hlater hinside
    refine ⟨n, mem_descending.mpr ⟨?_, ?_⟩,
      intervalRun_eq_some.mpr ⟨hlater, hlasting, hallowed, rfl⟩⟩
    · have hfirst : (a - anchor) / interval < n := (Int.ediv_lt_iff_lt_mul hpos).mpr (by omega)
      omega
    · exact (Int.le_ediv_iff_mul_le hpos).mpr (by omega)

theorem descending_pairwise (nStart nEnd : Int) : (descending nStart nEnd).Pairwise (· > ·) := by
  rw [descending, pairwise_map]
  apply pairwise_lt_range.imp
  intro i j hij
  omega

theorem intervalRuns_pairwise (hpos : 0 < interval) : (intervalRuns d interval anchor a b).Pairwise
    fun run run' => run'.scheduledAt < run.scheduledAt := by
  rw [intervalRuns, pairwise_filterMap]
  apply (descending_pairwise _ _).imp
  intro n m hlt run hrun run' hrun'
  obtain ⟨_, _, _, rfl⟩ := intervalRun_eq_some.mp hrun
  obtain ⟨_, _, _, rfl⟩ := intervalRun_eq_some.mp hrun'
  have hmul : m * interval < n * interval := Int.mul_lt_mul_of_pos_right hlt hpos
  dsimp only
  omega

theorem minus_not_mem_toString (n : Nat) : '-' ∉ (toString n).toList := by
  rw [Nat.toString_eq_ofList_toDigits, String.toList_ofList]
  intro h
  have hdigit := Nat.isDigit_of_mem_toDigits (by decide) (by decide) h
  exact absurd hdigit (by decide)

theorem toString_int_inj {x y : Int} (h : toString x = toString y) : x = y := by
  have hsign (m n : Nat) : toString (Int.ofNat m) ≠ toString (Int.negSucc n) := by
    intro heq
    apply minus_not_mem_toString m
    have htext : toString m = "-" ++ toString (n + 1) := heq
    rw [htext, String.toList_append]
    exact mem_append_left _ (by decide)
  cases x with
  | ofNat m =>
    cases y with
    | ofNat n =>
      have htext : toString m = toString n := h
      rw [toString_inj htext]
    | negSucc n => exact absurd h (hsign m n)
  | negSucc m =>
    cases y with
    | ofNat n => exact absurd h.symm (hsign n m)
    | negSucc n =>
      have htext : "-" ++ toString (m + 1) = "-" ++ toString (n + 1) := h
      have hsucc := toString_inj ((String.append_right_inj _).mp htext)
      rw [Nat.succ.inj hsucc]

theorem heartbeat_key_inj {x y : Int}
    (h : "heartbeat:" ++ toString x = "heartbeat:" ++ toString y) : x = y :=
  toString_int_inj ((String.append_right_inj _).mp h)

theorem intervalRuns_keys (hpos : 0 < interval) :
    ((intervalRuns d interval anchor a b).map (·.scheduledKey)).Nodup := by
  rw [List.Nodup, pairwise_map]
  apply (intervalRuns_pairwise hpos).imp_of_mem
  intro run run' hrun hrun' hlt hkey
  obtain ⟨⟨n, hn⟩, _⟩ := (mem_intervalRuns hpos).mp hrun
  obtain ⟨⟨m, hm⟩, _⟩ := (mem_intervalRuns hpos).mp hrun'
  rw [hn.eq, hm.eq] at hkey hlt
  have hat := heartbeat_key_inj hkey
  dsimp only at hlt
  omega

variable {runs : List DueRun}

theorem latestDue_head (hmem : ∀ run, run ∈ runs ↔ DuePoint intl d a b run)
    (hsorted : runs.Pairwise fun run run' => run'.scheduledAt ≤ run.scheduledAt) :
    LatestDue intl d a b (runs.take 1) := by
  cases runs with
  | nil => exact .inl ⟨rfl, fun run hrun => not_mem_nil ((hmem run).mpr hrun)⟩
  | cons run runs =>
    refine .inr ⟨run, rfl, (hmem run).mp mem_cons_self, ?_⟩
    intro other hother
    obtain rfl | hlater := mem_cons.mp ((hmem other).mpr hother)
    · exact Int.le_refl _
    · exact (pairwise_cons.mp hsorted).1 other hlater

structure Settled (intl : Intl) (d : ScheduleDefinitionRow) (windowStart windowEnd : Int)
    (runs : List DueRun) : Prop where
  all : d.catchUpPolicy ≠ .fireOnce → d.catchUpPolicy ≠ .skip →
    AllDue intl d windowStart windowEnd runs
  latest : d.catchUpPolicy = .fireOnce → LatestDue intl d windowStart windowEnd runs

theorem Settled.of_none (h : ∀ run, ¬ IsDue intl d run) : Settled intl d a b [] where
  all _ _ := by
    refine ⟨fun run => ⟨?_, fun hrun => absurd hrun.due (h run)⟩, nodup_nil⟩
    rintro ⟨⟩
  latest _ := .inl ⟨rfl, fun run hrun => h run hrun.due⟩

theorem Settled.of_policy {latest : List DueRun} (hall : AllDue intl d a b runs)
    (hlatest : LatestDue intl d a b latest) : Settled intl d a b
      (withinDedupe d b (if d.catchUpPolicy = .fireOnce then latest else runs)) where
  all hfire hskip := by
    rw [withinDedupe, if_neg hskip, if_neg hfire]
    exact hall
  latest hfire := by
    have hskip : d.catchUpPolicy ≠ .skip := by
      rw [hfire]
      decide
    rw [withinDedupe, if_neg hskip, if_pos hfire]
    exact hlatest

theorem evaluateInterval_settled (hkind : d.kind = .heartbeat) :
    Settled intl d a b (evaluateIntervalSchedule d a b) := by
  have hdue (run : DueRun) : IsDue intl d run ↔ ∃ interval anchor n,
      d.intervalSeconds = some interval ∧ d.anchorAt = some anchor ∧
        IntervalDue d interval anchor n run := by
    rw [IsDue, hkind]
  cases hinterval : d.intervalSeconds with
  | none =>
    have hruns : evaluateIntervalSchedule d a b = [] := by rw [evaluateIntervalSchedule, hinterval]
    rw [hruns]
    apply Settled.of_none
    intro run hrun
    obtain ⟨_, _, _, hinterval', _⟩ := (hdue run).mp hrun
    rw [hinterval] at hinterval'
    cases hinterval'
  | some interval =>
    obtain ⟨interval, hpos⟩ := interval
    cases hanchor : d.anchorAt with
    | none =>
      have hruns : evaluateIntervalSchedule d a b = [] := by
        rw [evaluateIntervalSchedule, hinterval, hanchor]
      rw [hruns]
      apply Settled.of_none
      intro run hrun
      obtain ⟨_, _, _, _, hanchor', _⟩ := (hdue run).mp hrun
      rw [hanchor] at hanchor'
      cases hanchor'
    | some anchor =>
      have hmem (run : DueRun) : run ∈ intervalRuns d interval anchor a b ↔
          DuePoint intl d a b run := by
        rw [mem_intervalRuns hpos]
        constructor
        · rintro ⟨⟨n, hn⟩, hlater, hinside⟩
          exact ⟨(hdue run).mpr ⟨⟨interval, hpos⟩, anchor, n, hinterval, hanchor, hn⟩, hlater,
            hinside⟩
        · rintro ⟨hrun, hlater, hinside⟩
          obtain ⟨_, _, n, hinterval', hanchor', hn⟩ := (hdue run).mp hrun
          rw [hinterval, Option.some.injEq] at hinterval'
          rw [hanchor, Option.some.injEq] at hanchor'
          subst hinterval' hanchor'
          exact ⟨⟨n, hn⟩, hlater, hinside⟩
      have hruns : evaluateIntervalSchedule d a b = withinDedupe d b (if d.catchUpPolicy = .fireOnce
          then (intervalRuns d interval anchor a b).take 1
          else intervalRuns d interval anchor a b) := by
        rw [evaluateIntervalSchedule, hinterval, hanchor]
        rfl
      rw [hruns]
      apply Settled.of_policy ⟨hmem, intervalRuns_keys hpos⟩
      apply latestDue_head hmem
      exact (intervalRuns_pairwise hpos).imp Int.le_of_lt

theorem eq_of_timeClip (h : timeClip x = some ms) : ms = x := by
  rw [timeClip] at h
  split at h
  · exact (Option.some.inj h).symm
  · cases h

theorem dateUtc_dvd (h : Recurrences.dateUtc c = some ms) : (1000 : Int) ∣ ms := by
  rw [Recurrences.dateUtc] at h
  have hms := eq_of_timeClip h
  rw [hms]
  generalize daysOfCivil _ _ _ = day
  omega

theorem utcOf_eq_ok : utcOf c = .ok ms ↔ Recurrences.dateUtc c = some ms := by
  dsimp only [utcOf]
  generalize Recurrences.dateUtc c = utc
  cases utc with
  | none => exact ⟨nofun, nofun⟩
  | some t => rw [Except.ok.injEq, Option.some.injEq]

def guessClock (year month day timeSeconds : Int) : Recurrences.WallClock where
  y := year
  m := month
  d := day
  h := timeSeconds / 3600
  mi := timeSeconds % 3600 / 60
  s := timeSeconds % 60

theorem localToUnix_clock (h : localToUnix zone year month day timeSeconds = .ok (some unixSec)) :
    ∃ c, zone.clock (unixSec * 1000) = some c ∧ c.y = year ∧ c.m = month ∧ c.d = day := by
  rw [localToUnix] at h
  dsimp only at h
  cases hguess : utcOf (guessClock year month day timeSeconds) with
  | error e =>
    rw [guessClock] at hguess
    rw [hguess] at h
    cases h
  | ok guess =>
    have hdvd := dateUtc_dvd (utcOf_eq_ok.mp hguess)
    rw [guessClock] at hguess
    rw [hguess] at h
    cases hclock : zone.clock guess with
    | none =>
      simp only [bind, Except.bind, hclock] at h
      cases h
    | some localParts =>
      simp only [bind, Except.bind, hclock] at h
      cases hlocal : utcOf localParts with
      | error e =>
        simp only [hlocal] at h
        cases h
      | ok localOfGuess =>
        have hdvd' := dateUtc_dvd (utcOf_eq_ok.mp hlocal)
        simp only [hlocal] at h
        cases hverify : zone.clock (guess - (localOfGuess - guess)) with
        | none =>
          simp only [hverify] at h
          cases h
        | some verifyParts =>
          simp only [hverify] at h
          split at h
          · cases h
          · next hverified =>
            simp only [Bool.or_eq_true, decide_eq_true_eq, not_or, not_not] at hverified
            have hsec : (guess - (localOfGuess - guess)) / 1000 = unixSec :=
              Option.some.inj (Except.ok.inj h)
            have hwhole : (1000 : Int) ∣ guess - (localOfGuess - guess) :=
              Int.dvd_sub hdvd (Int.dvd_sub hdvd' hdvd)
            have hms := Int.ediv_mul_cancel hwhole
            rw [hsec] at hms
            rw [← hms] at hverify
            exact ⟨verifyParts, hverify, hverified.1.1.1.1, hverified.1.1.1.2, hverified.1.1.2⟩

theorem localToUnix_ok (hzone : FixedOffset zone offset shown) (ht : t ∈ shown)
    (htime : 0 ≤ timeSeconds ∧ timeSeconds < 86400) :
    ∃ unix, localToUnix zone (localDateInfo zone t).year (localDateInfo zone t).month
      (localDateInfo zone t).day timeSeconds = .ok unix := by
  obtain ⟨guess, hguess, hdate⟩ := hzone.time t ht (timeSeconds / 3600) (timeSeconds % 3600 / 60)
    (timeSeconds % 60) (by omega) (by omega) (by omega)
  rw [← utcOf_eq_ok] at hguess
  rw [localToUnix]
  dsimp only
  rw [hguess]
  cases hclock : zone.clock guess with
  | none => exact ⟨none, by simp only [bind, Except.bind, hclock]; rfl⟩
  | some localParts =>
    obtain ⟨localOfGuess, hlocal⟩ := Option.isSome_iff_exists.mp (hdate localParts hclock)
    rw [← utcOf_eq_ok] at hlocal
    simp only [bind, Except.bind, hclock, hlocal]
    cases hverify : zone.clock (guess - (localOfGuess - guess)) with
    | none => exact ⟨none, rfl⟩
    | some verifyParts =>
      dsimp only
      split
      · exact ⟨none, rfl⟩
      · exact ⟨_, rfl⟩

theorem calendarRun_ok (hzone : FixedOffset zone offset shown) (ht : t ∈ shown)
    (htime : 0 ≤ timeSeconds ∧ timeSeconds < 86400) :
    ∃ run, calendarRun d zone timeSeconds a b (localDateInfo zone t) = .ok run := by
  rw [calendarRun]
  split
  · obtain ⟨unix, hunix⟩ := localToUnix_ok hzone ht htime
    rw [hunix]
    cases unix with
    | none => exact ⟨none, rfl⟩
    | some unixSec =>
      simp only [bind, Except.bind]
      split
      · exact ⟨_, rfl⟩
      · exact ⟨_, rfl⟩
  · exact ⟨none, rfl⟩

theorem calendarRun_eq_some : calendarRun d zone timeSeconds a b info = .ok (some run) ↔
    matchesDate d info ∧ ∃ unixSec,
      localToUnix zone info.year info.month info.day timeSeconds = .ok (some unixSec) ∧
      a < unixSec ∧ unixSec ≤ b ∧ d.expiresAt.all (unixSec < ·) ∧
      run = ⟨d.id, "calendar:" ++ info.dateStr ++ "@" ++ toString timeSeconds, unixSec,
        .calendar⟩ := by
  rw [calendarRun]
  by_cases hdate : matchesDate d info
  · rw [if_pos hdate]
    cases hunix : localToUnix zone info.year info.month info.day timeSeconds with
    | error e =>
      constructor
      · rintro ⟨⟩
      · rintro ⟨_, _, ⟨⟩, _⟩
    | ok unix =>
      cases unix with
      | none =>
        constructor
        · rintro ⟨⟩
        · rintro ⟨_, _, ⟨⟩, _⟩
      | some unixSec =>
        simp only [bind, Except.bind]
        split
        · next hinside =>
          simp only [Bool.and_eq_true, decide_eq_true_eq] at hinside
          constructor
          · intro hrun
            exact ⟨hdate, unixSec, rfl, hinside.1.1, hinside.1.2, hinside.2,
              (Option.some.inj (Except.ok.inj hrun)).symm⟩
          · rintro ⟨_, _, ⟨⟩, _, _, _, rfl⟩
            rfl
        · next houtside =>
          constructor
          · rintro ⟨⟩
          · rintro ⟨_, _, ⟨⟩, hlater, hearlier, hlasting, _⟩
            simp only [hlater, hearlier, hlasting, decide_true, Bool.and_true,
              not_true] at houtside
  · rw [if_neg hdate]
    constructor
    · rintro ⟨⟩
    · rintro ⟨hdate', _⟩
      exact absurd hdate' hdate

theorem calendar_key_inj (h : "calendar:" ++ x ++ "@" ++ time =
    "calendar:" ++ y ++ "@" ++ time) : x = y := by
  have hdate := (String.append_left_inj _).mp ((String.append_left_inj _).mp h)
  exact (String.append_right_inj _).mp hdate

theorem localDateInfo_congr (h : zone.parts s = zone.parts t) :
    localDateInfo zone s = localDateInfo zone t := by
  rw [localDateInfo, localDateInfo, h]

theorem exists_mem_concat {P : Instant → Prop} {days : List Instant} :
    (∃ t ∈ days ++ [day], P t) ↔ (∃ t ∈ days, P t) ∨ P day := by
  constructor
  · rintro ⟨t, ht, hP⟩
    obtain ht | ht := mem_append.mp ht
    · exact .inl ⟨t, ht, hP⟩
    · obtain rfl := mem_singleton.mp ht
      exact .inr hP
  · rintro (⟨t, ht, hP⟩ | hP)
    · exact ⟨t, mem_append_left _ ht, hP⟩
    · exact ⟨day, mem_append_right _ (mem_singleton_self day), hP⟩

structure Walked (d : ScheduleDefinitionRow) (zone : Zone) (timeSeconds windowStart windowEnd : Int)
    (days : List Instant) (walk : CalendarWalk) : Prop where
  seen : ∀ date, date ∈ walk.seenLocalDates ↔ ∃ day ∈ days, (localDateInfo zone day).dateStr = date
  runs : ∀ run, run ∈ walk.runs ↔ ∃ day ∈ days,
    calendarRun d zone timeSeconds windowStart windowEnd (localDateInfo zone day) = .ok (some run)
  keys : (walk.runs.map (·.scheduledKey)).Nodup

theorem Walked.again (h : Walked d zone timeSeconds a b days walk)
    (hsame : ∀ s ∈ days, (localDateInfo zone s).dateStr = (localDateInfo zone day).dateStr →
      localDateInfo zone s = localDateInfo zone day)
    (hseen : (localDateInfo zone day).dateStr ∈ walk.seenLocalDates) :
    Walked d zone timeSeconds a b (days ++ [day]) walk := by
  obtain ⟨earlier, hearlier, hdate⟩ := (h.seen _).mp hseen
  have hinfo := hsame earlier hearlier hdate
  refine ⟨fun date => ?_, fun run => ?_, h.keys⟩
  · rw [h.seen, exists_mem_concat]
    constructor
    · exact .inl
    · rintro (hold | rfl)
      · exact hold
      · exact ⟨earlier, hearlier, hdate⟩
  · rw [h.runs, exists_mem_concat]
    constructor
    · exact .inl
    · rintro (hold | hrun)
      · exact hold
      · rw [← hinfo] at hrun
        exact ⟨earlier, hearlier, hrun⟩

theorem Walked.first (h : Walked d zone timeSeconds a b days walk)
    (hnew : (localDateInfo zone day).dateStr ∉ walk.seenLocalDates)
    (hrun : calendarRun d zone timeSeconds a b (localDateInfo zone day) = .ok run) :
    Walked d zone timeSeconds a b (days ++ [day])
      ⟨(localDateInfo zone day).dateStr :: walk.seenLocalDates, walk.runs ++ run.toList⟩ where
  seen date := by
    rw [mem_cons, h.seen, exists_mem_concat, or_comm, eq_comm]
  runs found := by
    rw [mem_append, h.runs, exists_mem_concat, Option.mem_toList, hrun, Except.ok.injEq]
  keys := by
    cases run with
    | none => simpa using h.keys
    | some run =>
      obtain ⟨_, _, _, _, _, _, rfl⟩ := calendarRun_eq_some.mp hrun
      rw [Option.toList_some, map_append, nodup_append]
      refine ⟨h.keys, nodup_singleton _, ?_⟩
      intro key hkey key' hkey' heq
      obtain ⟨old, hold, rfl⟩ := mem_map.mp hkey
      obtain ⟨earlier, hearlier, hrun'⟩ := (h.runs old).mp hold
      obtain ⟨_, _, _, _, _, _, rfl⟩ := calendarRun_eq_some.mp hrun'
      rw [map_singleton, mem_singleton] at hkey'
      rw [hkey'] at heq
      exact hnew ((h.seen _).mpr ⟨earlier, hearlier, calendar_key_inj heq⟩)

theorem Walked.foldlM (hzone : FixedOffset zone offset shown)
    (htime : 0 ≤ timeSeconds ∧ timeSeconds < 86400)
    (hdays : ∀ day ∈ days ++ rest, day ∈ shown) (h : Walked d zone timeSeconds a b days walk) :
    ∃ walk', rest.foldlM (calendarDay d zone timeSeconds a b) walk = .ok walk' ∧
      Walked d zone timeSeconds a b (days ++ rest) walk' := by
  induction rest generalizing days walk with
  | nil => exact ⟨walk, rfl, by rwa [append_nil]⟩
  | cons day rest ih =>
    have hday : day ∈ shown := hdays day (by simp)
    have hstep : ∃ next, calendarDay d zone timeSeconds a b walk day = .ok next ∧
        Walked d zone timeSeconds a b (days ++ [day]) next := by
      rw [calendarDay]
      split
      · next hseen =>
        refine ⟨walk, rfl, h.again ?_ hseen⟩
        intro s hs hdate
        have hs' : s ∈ shown := hdays s (mem_append_left _ hs)
        exact localDateInfo_congr
          (hzone.parts s hs' day hday (hzone.dateStr s hs' day hday hdate))
      · next hnew =>
        obtain ⟨run, hrun⟩ := calendarRun_ok (d := d) (a := a) (b := b) hzone hday htime
        rw [hrun]
        exact ⟨_, rfl, h.first hnew hrun⟩
    obtain ⟨next, hnext, hwalked⟩ := hstep
    rw [foldlM_cons, hnext]
    rw [append_cons] at hdays ⊢
    exact ih hdays hwalked

def around (windowStart windowEnd : Int) : Set Instant :=
  {t | (windowStart - 86400) * 1000 ≤ t ∧ t ≤ (windowEnd + 86400) * 1000}

variable {t : Int}

theorem mem_around : t ∈ around a b ↔ (a - 86400) * 1000 ≤ t ∧ t ≤ (b + 86400) * 1000 :=
  Iff.rfl

theorem walkDays_around (hday : day ∈ walkDays a b) : day ∈ around a b := by
  obtain ⟨i, hi, rfl⟩ := mem_map.mp hday
  rw [mem_range] at hi
  rw [mem_around]
  omega

theorem exists_walkDay (offset : Int) (hlater : a < unixSec) (hinside : unixSec ≤ b) :
    ∃ day ∈ walkDays a b, localDay offset day = localDay offset (unixSec * 1000) := by
  obtain ⟨steps, hsteps⟩ : ∃ steps : Int, steps =
      (unixSec * 1000 + offset) / 86400000 - ((a - 86400) * 1000 + offset) / 86400000 := ⟨_, rfl⟩
  refine ⟨(a - 86400) * 1000 + steps * 86400000, ?_, ?_⟩
  · refine mem_map.mpr ⟨steps.toNat, mem_range.mpr (by omega), ?_⟩
    show ((a - 86400) * 1000 + (steps.toNat : Int) * 86400000 : Int) = _
    omega
  · rw [localDay, localDay]
    show (((a - 86400) * 1000 + steps * 86400000 + offset) / 86400000 : Int) = _
    omega

theorem mem_around_of_window (hlater : a < unixSec) (hinside : unixSec ≤ b) :
    unixSec * 1000 ∈ around a b := by
  rw [mem_around]
  omega

theorem calendarDue_iff (hzone : FixedOffset zone offset (around a b)) :
    (∃ day ∈ walkDays a b, calendarRun d zone timeSeconds a b (localDateInfo zone day) =
      .ok (some run)) ↔ (∃ unixSec, CalendarDue d zone timeSeconds unixSec run) ∧
      a < run.scheduledAt ∧ run.scheduledAt ≤ b := by
  constructor
  · rintro ⟨day, hday, hrun⟩
    obtain ⟨hdate, unixSec, hunix, hlater, hinside, hlasting, rfl⟩ := calendarRun_eq_some.mp hrun
    have hshown := mem_around_of_window hlater hinside
    obtain ⟨c, hc, hy, hm, hd⟩ := localToUnix_clock hunix
    have hinfo : localDateInfo zone day = localDateInfo zone (unixSec * 1000) := by
      apply localDateInfo_congr
      apply hzone.parts day (walkDays_around hday) _ hshown
      exact (hzone.clock _ hshown day (walkDays_around hday) c hc hy hm hd).symm
    rw [hinfo] at hdate hunix
    refine ⟨⟨unixSec, hdate, hunix, hlasting, ?_⟩, hlater, hinside⟩
    rw [hinfo]
  · rintro ⟨⟨unixSec, hdate, hunix, hlasting, rfl⟩, hlater, hinside⟩
    dsimp only at hlater hinside hunix
    have hshown := mem_around_of_window hlater hinside
    obtain ⟨day, hday, hsame⟩ := exists_walkDay offset hlater hinside
    have hinfo : localDateInfo zone day = localDateInfo zone (unixSec * 1000) :=
      localDateInfo_congr (hzone.parts day (walkDays_around hday) _ hshown hsame)
    refine ⟨day, hday, calendarRun_eq_some.mpr ?_⟩
    rw [hinfo]
    exact ⟨hdate, unixSec, hunix, hlater, hinside, hlasting, rfl⟩

theorem latestDue_last (hmem : ∀ run, run ∈ runs ↔ DuePoint intl d a b run)
    (hsorted : runs.Pairwise fun run run' => run.scheduledAt ≤ run'.scheduledAt) :
    LatestDue intl d a b runs.getLast?.toList := by
  have hreverse : LatestDue intl d a b (runs.reverse.take 1) :=
    latestDue_head (fun run => by rw [mem_reverse, hmem]) (pairwise_reverse.mpr hsorted)
  cases hlast : runs.getLast? with
  | none =>
    obtain rfl := getLast?_eq_none_iff.mp hlast
    exact hreverse
  | some run =>
    obtain ⟨before, rfl⟩ := getLast?_eq_some_iff.mp hlast
    rw [reverse_append] at hreverse
    exact hreverse

def Evaluable (intl : Intl) (d : ScheduleDefinitionRow) (windowStart windowEnd : Int) : Prop :=
  d.kind = .calendar → ∀ timeSeconds, d.localTimeSeconds = some timeSeconds → ∀ tz,
    d.timezone.filter (· ≠ "") = some tz → (0 ≤ timeSeconds ∧ timeSeconds < 86400) ∧
      ∃ zone offset, intl.zone tz = some zone ∧
        FixedOffset zone offset (around windowStart windowEnd)

theorem evaluateCalendar_settled (hkind : d.kind = .calendar) (h : Evaluable intl d a b) :
    ∃ runs, evaluateCalendarSchedule intl d a b = .ok runs ∧ Settled intl d a b runs := by
  have hdue (run : DueRun) : IsDue intl d run ↔ ∃ timeSeconds tz zone unixSec,
      d.localTimeSeconds = some timeSeconds ∧ d.timezone.filter (· ≠ "") = some tz ∧
        intl.zone tz = some zone ∧ CalendarDue d zone timeSeconds unixSec run := by
    rw [IsDue, hkind]
  rw [evaluateCalendarSchedule]
  cases htime : d.localTimeSeconds with
  | none =>
    refine ⟨[], rfl, Settled.of_none fun run hrun => ?_⟩
    obtain ⟨_, _, _, _, htime', _⟩ := (hdue run).mp hrun
    rw [htime] at htime'
    cases htime'
  | some timeSeconds =>
    cases htz : d.timezone.filter (· ≠ "") with
    | none =>
      refine ⟨[], rfl, Settled.of_none fun run hrun => ?_⟩
      obtain ⟨_, _, _, _, _, htz', _⟩ := (hdue run).mp hrun
      rw [htz] at htz'
      cases htz'
    | some tz =>
      obtain ⟨hday, zone, offset, hzone, hfixed⟩ := h hkind timeSeconds htime tz htz
      have hstart : Walked d zone timeSeconds a b [] {} := ⟨by simp, by simp, nodup_nil⟩
      have hdays : ∀ day ∈ [] ++ walkDays a b, day ∈ around a b :=
        fun day hmem => walkDays_around hmem
      obtain ⟨walk, hwalk, hwalked⟩ := hstart.foldlM hfixed hday hdays
      have hmem (run : DueRun) :
          run ∈ walk.runs.insertionSort (fun r r' => r.scheduledAt ≤ r'.scheduledAt) ↔
            DuePoint intl d a b run := by
        rw [mem_insertionSort, hwalked.runs, nil_append, calendarDue_iff hfixed]
        constructor
        · rintro ⟨⟨unixSec, hunix⟩, hlater, hinside⟩
          exact ⟨(hdue run).mpr ⟨timeSeconds, tz, zone, unixSec, htime, htz, hzone, hunix⟩, hlater,
            hinside⟩
        · rintro ⟨hrun, hlater, hinside⟩
          obtain ⟨_, _, _, unixSec, htime', htz', hzone', hunix⟩ := (hdue run).mp hrun
          rw [htime, Option.some.injEq] at htime'
          rw [htz, Option.some.injEq] at htz'
          subst htime' htz'
          rw [hzone, Option.some.injEq] at hzone'
          subst hzone'
          exact ⟨⟨unixSec, hunix⟩, hlater, hinside⟩
      have hkeys : ((walk.runs.insertionSort fun r r' => r.scheduledAt ≤ r'.scheduledAt).map
          (·.scheduledKey)).Nodup :=
        ((perm_insertionSort _ _).map _).nodup_iff.mpr hwalked.keys
      simp only [bind, Except.bind, hzone, hwalk]
      refine ⟨_, rfl, Settled.of_policy ⟨hmem, hkeys⟩ (latestDue_last hmem ?_)⟩
      have htrans : IsTrans DueRun fun r r' => r.scheduledAt ≤ r'.scheduledAt :=
        ⟨fun _ _ _ => Int.le_trans⟩
      have htotal : Std.Total fun r r' : DueRun => r.scheduledAt ≤ r'.scheduledAt :=
        ⟨fun r r' => Int.le_total r.scheduledAt r'.scheduledAt⟩
      exact pairwise_insertionSort _ _

theorem evaluate_settled (h : Evaluable intl d a b) :
    ∃ runs, evaluate intl d a b = .ok runs ∧ Settled intl d a b runs := by
  rw [evaluate]
  cases hkind : d.kind with
  | heartbeat => exact ⟨_, rfl, evaluateInterval_settled hkind⟩
  | calendar => exact evaluateCalendar_settled hkind h

def windowsOf : Int → List Int → List (Int × Int)
  | _, [] => []
  | t, next :: ts => (t, next) :: windowsOf next ts

def evaluateTicks (intl : Intl) (d : ScheduleDefinitionRow) (t : Int) (ts : List Int) :
    Except String (List (List DueRun)) :=
  (windowsOf t ts).mapM fun window => evaluate intl d window.1 window.2

theorem Evaluable.mono (h : Evaluable intl d a b) (ha : a ≤ a') (hb : b' ≤ b) :
    Evaluable intl d a' b' := by
  intro hkind timeSeconds htime tz htz
  obtain ⟨hday, zone, offset, hzone, hfixed⟩ := h hkind timeSeconds htime tz htz
  refine ⟨hday, zone, offset, hzone, hfixed.mono ?_⟩
  intro t ht
  rw [mem_around] at ht ⊢
  omega

variable {ts : List Int}

theorem le_getLastD (h : (t :: ts).Pairwise (· < ·)) : t ≤ ts.getLastD t := by
  induction ts generalizing t with
  | nil => exact Int.le_refl t
  | cons next ts ih =>
    obtain ⟨hnext, hrest⟩ := pairwise_cons.mp h
    have hlast := ih hrest
    have hstep := hnext next mem_cons_self
    rw [getLastD_cons]
    omega

theorem evaluateTicks_settled (hticks : (t :: ts).Pairwise (· < ·))
    (h : Evaluable intl d t (ts.getLastD t)) : ∃ runss, evaluateTicks intl d t ts = .ok runss ∧
      List.Forall₂ (fun window runs => Settled intl d window.1 window.2 runs) (windowsOf t ts)
        runss := by
  induction ts generalizing t with
  | nil => exact ⟨[], rfl, .nil⟩
  | cons next ts ih =>
    obtain ⟨hnext, hrest⟩ := pairwise_cons.mp hticks
    have hstep := hnext next mem_cons_self
    rw [getLastD_cons] at h
    obtain ⟨runs, hruns, hsettled⟩ := evaluate_settled (h.mono (Int.le_refl t) (le_getLastD hrest))
    obtain ⟨runss, hrunss, hall⟩ := ih hrest (h.mono (Int.le_of_lt hstep) (Int.le_refl _))
    refine ⟨runs :: runss, ?_, .cons hsettled hall⟩
    rw [evaluateTicks] at hrunss
    rw [evaluateTicks, windowsOf, mapM_cons, hruns, hrunss]
    rfl

theorem AllDue.append (h : AllDue intl d a b runs) (hab : a ≤ b) (hbc : b ≤ c) (hnodup : rest.Nodup)
    (hmem : ∀ run, run ∈ rest ↔ DuePoint intl d b c run) :
    (runs ++ rest).Nodup ∧ ∀ run, run ∈ runs ++ rest ↔ DuePoint intl d a c run := by
  constructor
  · rw [nodup_append]
    refine ⟨h.keys.of_map _, hnodup, ?_⟩
    rintro run hrun _ hrest rfl
    have hinside := ((h.mem_iff run).mp hrun).inside
    have hlater := ((hmem run).mp hrest).later
    omega
  · intro run
    rw [mem_append, h.mem_iff, hmem]
    constructor
    · rintro (⟨hdue, hlater, hinside⟩ | ⟨hdue, hlater, hinside⟩)
      · exact ⟨hdue, hlater, by omega⟩
      · exact ⟨hdue, by omega, hinside⟩
    · rintro ⟨hdue, hlater, hinside⟩
      by_cases hfirst : run.scheduledAt ≤ b
      · exact .inl ⟨hdue, hlater, hfirst⟩
      · exact .inr ⟨hdue, by omega, hinside⟩

theorem flatten_allDue (hticks : (t :: ts).Pairwise (· < ·))
    (hfire : d.catchUpPolicy ≠ .fireOnce) (hskip : d.catchUpPolicy ≠ .skip)
    (h : List.Forall₂ (fun window runs => Settled intl d window.1 window.2 runs) (windowsOf t ts)
      runss) :
    runss.flatten.Nodup ∧ ∀ run, run ∈ runss.flatten ↔ DuePoint intl d t (ts.getLastD t) run := by
  induction ts generalizing t runss with
  | nil =>
    obtain rfl := forall₂_nil_left_iff.mp h
    refine ⟨nodup_nil, fun run => ⟨?_, ?_⟩⟩
    · rintro ⟨⟩
    · rintro ⟨_, hlater, hinside⟩
      rw [getLastD_nil] at hinside
      omega
  | cons next ts ih =>
    obtain ⟨hnext, hrest⟩ := pairwise_cons.mp hticks
    rw [windowsOf] at h
    obtain ⟨runs, rest, hsettled, hall, rfl⟩ := forall₂_cons_left_iff.mp h
    obtain ⟨hnodup, hmem⟩ := ih hrest hall
    rw [flatten_cons, getLastD_cons]
    exact (hsettled.all hfire hskip).append (Int.le_of_lt (hnext next mem_cons_self))
      (le_getLastD hrest) hnodup hmem

def mondays : ScheduleDefinitionRow where
  id := "cal_1"
  kind := .calendar
  title := "Standup"
  active := true
  message := ""
  sender := "schedule"
  deliveryMode := .talk
  timezone := some "Etc/GMT-1"
  catchUpPolicy := .other "all"
  dedupeWindowSeconds := 90
  intervalSeconds := none
  anchorAt := none
  maxRuns := none
  expiresAt := none
  localTimeSeconds := some 32400
  localDate := none
  daysOfWeek := some "mon"

def hourAhead : Intl where
  zone tz := if tz = "Etc/GMT-1" then some (fixedZone 3600000 false) else none

theorem mondays_evaluable (ha : -30610137600 ≤ a) (hb : b ≤ 253402041600) :
    Evaluable hourAhead mondays a b := by
  intro _ timeSeconds htime tz htz
  obtain rfl := Option.some.inj htime
  obtain rfl : "Etc/GMT-1" = tz := Option.some.inj htz
  refine ⟨by decide, fixedZone 3600000 false, 3600000, rfl, fixedZone_fixedOffset ?_⟩
  intro t ht
  rw [mem_around] at ht
  rw [FourDigits, localDay]
  omega

example : evaluateTicks hourAhead mondays 1767599970 [1767600000, 1767600030] =
    .ok [[⟨"cal_1", "calendar:2026-01-05@32400", 1767600000, .calendar⟩], []] := by
  decide +kernel

end IdAgents.Scheduling
