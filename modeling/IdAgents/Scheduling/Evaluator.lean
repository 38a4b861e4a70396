import Mathlib.Data.List.Sort
import IdAgents.Library.Table
import IdAgents.Recurrences.Rrule

namespace IdAgents.Scheduling
open JsText KeyedTable List Except

inductive ScheduleKind where
  | heartbeat | calendar
deriving DecidableEq, Repr

inductive DeliveryMode where
  | talk | internal
deriving DecidableEq, Repr

/-- `catch_up_policy`; the two that are named, and any other text. -/
inductive CatchUpPolicy where
  | skip | fireOnce | other (text : String)
deriving DecidableEq, Repr

/-- A row of `schedule_definitions`; times are in seconds, and an interval is positive wherever one
is stored. -/
structure ScheduleDefinitionRow where
  id : String
  kind : ScheduleKind
  title : String
  active : Bool
  message : String
  sender : String
  deliveryMode : DeliveryMode
  timezone : Option String
  catchUpPolicy : CatchUpPolicy
  dedupeWindowSeconds : Int
  intervalSeconds : Option { n : Int // 0 < n }
  anchorAt : Option Int
  maxRuns : Option Int
  expiresAt : Option Int
  localTimeSeconds : Option Int
  localDate : Option String
  daysOfWeek : Option String

instance : Schema ScheduleDefinitionRow String Empty where
  key d := d.id
  entry _ := none

structure DueRun where
  scheduleId : String
  scheduledKey : String
  scheduledAt : Int
  kind : ScheduleKind
deriving DecidableEq, Repr

/-- The parts that `Intl.DateTimeFormat('en-CA')` shows of an instant, as texts. -/
structure DateParts where
  year : String
  month : String
  day : String
  weekday : String

/-- What the formatters of one time zone show of an instant: the clock that
`parseEnCaDateTime` reads from the text, and the parts of the date. -/
structure Zone where
  clock : Instant → Option Recurrences.WallClock
  parts : Instant → DateParts

/-- The zones that `Intl` knows; for any other name its constructor throws. -/
structure Intl where
  zone : String → Option Zone

structure LocalDateInfo where
  year : Int
  month : Int
  day : Int
  dateStr : String
  dayOfWeek : String

/-- `Number(text)` of the digits that a formatter shows. -/
def numberOf (text : String) : Int := ofDigits text.toList

def localDateInfo (zone : Zone) (date : Instant) : LocalDateInfo :=
  let parts := zone.parts date
  { year := numberOf parts.year
    month := numberOf parts.month
    day := numberOf parts.day
    dateStr := parts.year ++ "-" ++ parts.month ++ "-" ++ parts.day
    dayOfWeek := String.ofList ((toLowerCase parts.weekday).toList.take 3) }

/-- `Date.UTC` of a clock; a clock that is no date is refused by the formatter. -/
def utcOf (c : Recurrences.WallClock) : Except String Instant :=
  match Recurrences.dateUtc c with
  | some ms => .ok ms
  | none => .error "RangeError: Invalid time value"

def localToUnix (zone : Zone) (year month day timeSeconds : Int) : Except String (Option Int) := do
  let h := timeSeconds / 3600
  let m := timeSeconds % 3600 / 60
  let utcGuessMs ← utcOf { y := year, m := month, d := day, h, mi := m, s := timeSeconds % 60 }
  let some localParts := zone.clock utcGuessMs | return none
  let localOfGuessMs ← utcOf localParts
  let actualUtcMs := utcGuessMs - (localOfGuessMs - utcGuessMs)
  let some verifyParts := zone.clock actualUtcMs | return none
  if verifyParts.y ≠ year || verifyParts.m ≠ month || verifyParts.d ≠ day ||
      verifyParts.h ≠ h || verifyParts.mi ≠ m then
    return none
  return some (actualUtcMs / 1000)

section
variable (d : ScheduleDefinitionRow)

/-- The due point `n` intervals after the anchor, where the definition allows it. -/
def intervalRun (interval anchor windowStart n : Int) : Option DueRun :=
  let scheduledAt := anchor + n * interval
  if scheduledAt ≤ windowStart || d.expiresAt.any (· ≤ scheduledAt) || d.maxRuns.any (· ≤ n) then
    none
  else some {
    scheduleId := d.id
    scheduledKey := "heartbeat:" ++ toString scheduledAt
    scheduledAt
    kind := .heartbeat }

/-- The numbers from `nEnd` down to `nStart`. -/
def descending (nStart nEnd : Int) : List Int :=
  (List.range (nEnd - nStart + 1).toNat).map fun (i : Nat) => nEnd - (i : Int)

def withinDedupe (windowEnd : Int) (runs : List DueRun) : List DueRun :=
  if d.catchUpPolicy = .skip then
    runs.filter fun r => windowEnd - d.dedupeWindowSeconds ≤ r.scheduledAt
  else runs

def evaluateIntervalSchedule (windowStart windowEnd : Int) : List DueRun :=
  match d.intervalSeconds, d.anchorAt with
  | some ⟨interval, _⟩, some anchor =>
    let nStart := (windowStart - anchor) / interval + 1
    let nEnd := (windowEnd - anchor) / interval
    let runs := (descending (max nStart 0) nEnd).filterMap
      (intervalRun d interval anchor windowStart)
    -- newest first: `fire_once` leaves the loop after the first
    withinDedupe d windowEnd (if d.catchUpPolicy = .fireOnce then runs.take 1 else runs)
  | _, _ => []

/-- The days named in `days_of_week`. -/
def daysSet : Option (List String) :=
  (d.daysOfWeek.filter (· ≠ "")).map fun days =>
    (splitChars ',' days.toList).map fun day => toLowerCase (trim (String.ofList day))

def matchesDate (info : LocalDateInfo) : Bool :=
  match d.localDate.filter (· ≠ "") with
  | some date => info.dateStr = date
  | none => (daysSet d).any (·.contains info.dayOfWeek)

def calendarRun (zone : Zone) (timeSeconds windowStart windowEnd : Int)
    (info : LocalDateInfo) : Except String (Option DueRun) :=
  if matchesDate d info then do
    let some unixSec ← localToUnix zone info.year info.month info.day timeSeconds | return none
    if windowStart < unixSec && unixSec ≤ windowEnd && d.expiresAt.all (unixSec < ·) then
      return some {
        scheduleId := d.id
        scheduledKey := "calendar:" ++ info.dateStr ++ "@" ++ toString timeSeconds
        scheduledAt := unixSec
        kind := .calendar }
    else return none
  else return none

structure CalendarWalk where
  seenLocalDates : List String := []
  runs : List DueRun := []

def calendarDay (zone : Zone) (timeSeconds windowStart windowEnd : Int)
    (walk : CalendarWalk) (current : Instant) : Except String CalendarWalk := do
  let info := localDateInfo zone current
  if info.dateStr ∈ walk.seenLocalDates then
    return walk
  let run ← calendarRun d zone timeSeconds windowStart windowEnd info
  return ⟨info.dateStr :: walk.seenLocalDates, walk.runs ++ run.toList⟩

def walkDays (windowStart windowEnd : Int) : List Instant :=
  (List.range ((windowEnd - windowStart + 172800) / 86400 + 1).toNat).map fun (i : Nat) =>
    (windowStart - 86400) * 1000 + (i : Int) * 86400000

def evaluateCalendarSchedule (intl : Intl) (d : ScheduleDefinitionRow)
    (windowStart windowEnd : Int) : Except String (List DueRun) :=
  match d.localTimeSeconds, d.timezone.filter (· ≠ "") with
  | some timeSeconds, some tz => do
    let days := walkDays windowStart windowEnd
    let some zone := intl.zone tz
      | if days.isEmpty then return [] else throw ("RangeError: Invalid time zone specified: " ++ tz)
    let walk ← days.foldlM (calendarDay d zone timeSeconds windowStart windowEnd) {}
    let runs := walk.runs.insertionSort fun a b => a.scheduledAt ≤ b.scheduledAt
    return withinDedupe d windowEnd
      (if d.catchUpPolicy = .fireOnce then runs.getLast?.toList else runs)
  | _, _ => return []

def evaluate (intl : Intl) (d : ScheduleDefinitionRow) (windowStart windowEnd : Int) :
    Except String (List DueRun) :=
  match d.kind with
  | .heartbeat => .ok (evaluateIntervalSchedule d windowStart windowEnd)
  | .calendar => evaluateCalendarSchedule intl d windowStart windowEnd

theorem withinDedupe_sub (windowEnd : Int) (runs : List DueRun) :
    withinDedupe d windowEnd runs ⊆ runs := by
  rw [withinDedupe]
  split
  · exact filter_sublist.subset
  · exact List.Subset.refl _

end

theorem intervalRun_some (h : intervalRun d interval anchor windowStart n = some run) :
    run.scheduleId = d.id ∧ windowStart < run.scheduledAt ∧
      run.scheduledAt = anchor + n * interval := by
  unfold intervalRun at h
  dsimp only at h
  split at h
  · cases h
  · next hkept =>
    simp only [Bool.or_eq_true, decide_eq_true_eq, not_or, not_le] at hkept
    cases h
    exact ⟨rfl, hkept.1.1, rfl⟩

theorem mem_descending : n ∈ descending nStart nEnd ↔ nStart ≤ n ∧ n ≤ nEnd := by
  rw [descending]
  rw [mem_map]
  constructor
  · rintro ⟨i, hi, rfl⟩
    rw [mem_range] at hi
    omega
  · rintro ⟨hstart, hend⟩
    refine ⟨(nEnd - n).toNat, ?_, ?_⟩
    · rw [mem_range]
      omega
    · omega

structure DueIn (d : ScheduleDefinitionRow) (windowStart windowEnd : Int) (run : DueRun) : Prop where
  schedule : run.scheduleId = d.id
  later : windowStart < run.scheduledAt
  inside : run.scheduledAt ≤ windowEnd

theorem evaluateInterval_dueIn (h : run ∈ evaluateIntervalSchedule d windowStart windowEnd) :
    DueIn d windowStart windowEnd run := by
  rw [evaluateIntervalSchedule] at h
  split at h
  · next interval hpos anchor _ _ =>
    have hall : run ∈ (descending (max ((windowStart - anchor) / interval + 1) 0)
        ((windowEnd - anchor) / interval)).filterMap
          (intervalRun d interval anchor windowStart) := by
      have hkept := withinDedupe_sub _ _ _ h
      split at hkept
      · exact mem_of_mem_take hkept
      · exact hkept
    obtain ⟨n, hn, hrun⟩ := mem_filterMap.mp hall
    obtain ⟨hid, hlater, hat⟩ := intervalRun_some hrun
    refine ⟨hid, hlater, ?_⟩
    have hlast := (Int.le_ediv_iff_mul_le hpos).mp (mem_descending.mp hn).2
    omega
  · cases h

theorem calendarRun_dueIn (h : calendarRun d zone timeSeconds windowStart windowEnd info =
    .ok (some run)) : DueIn d windowStart windowEnd run := by
  rw [calendarRun] at h
  split at h
  · cases hunix : localToUnix zone info.year info.month info.day timeSeconds with
    | error e =>
      rw [hunix] at h
      cases h
    | ok unix =>
      rw [hunix] at h
      cases unix with
      | none => cases h
      | some unixSec =>
        change (if _ then _ else _) = _ at h
        split at h
        · next hwindow =>
          simp only [Bool.and_eq_true, decide_eq_true_eq] at hwindow
          obtain rfl : _ = run := Option.some.inj (Except.ok.inj h)
          exact ⟨rfl, hwindow.1.1, hwindow.1.2⟩
        · cases h
  · cases h

theorem calendarWalk_dueIn {days : List Instant} {walk walk' : CalendarWalk}
    (hwalk : ∀ run ∈ walk.runs, DueIn d windowStart windowEnd run)
    (h : days.foldlM (calendarDay d zone timeSeconds windowStart windowEnd) walk = .ok walk') :
    ∀ run ∈ walk'.runs, DueIn d windowStart windowEnd run := by
  induction days generalizing walk with
  | nil =>
    obtain rfl : walk = walk' := Except.ok.inj h
    exact hwalk
  | cons day days ih =>
    rw [foldlM_cons] at h
    cases hday : calendarDay d zone timeSeconds windowStart windowEnd walk day with
    | error e =>
      rw [hday] at h
      cases h
    | ok next =>
      rw [hday] at h
      apply ih _ h
      unfold calendarDay at hday
      dsimp only at hday
      split at hday
      · obtain rfl : walk = next := Except.ok.inj hday
        exact hwalk
      · cases hrun : calendarRun d zone timeSeconds windowStart windowEnd
            (localDateInfo zone day) with
        | error e =>
          rw [hrun] at hday
          cases hday
        | ok found =>
          rw [hrun] at hday
          obtain rfl : _ = next := Except.ok.inj hday
          intro run hmem
          rcases mem_append.mp hmem with hold | hnew
          · exact hwalk run hold
          · rw [Option.mem_toList] at hnew
            rw [Option.mem_def.mp hnew] at hrun
            exact calendarRun_dueIn hrun

theorem evaluateCalendar_dueIn (h : evaluateCalendarSchedule intl d windowStart windowEnd = .ok runs)
    (hrun : run ∈ runs) : DueIn d windowStart windowEnd run := by
  rw [evaluateCalendarSchedule] at h
  split at h
  · next timeSeconds tz _ _ =>
    cases hzone : intl.zone tz with
    | none =>
      rw [hzone] at h
      dsimp only at h
      split at h
      · obtain rfl : [] = runs := Except.ok.inj h
        cases hrun
      · cases h
    | some zone =>
      rw [hzone] at h
      dsimp only at h
      cases hwalk : (walkDays windowStart windowEnd).foldlM
          (calendarDay d zone timeSeconds windowStart windowEnd) {} with
      | error e =>
        rw [hwalk] at h
        cases h
      | ok walk =>
        rw [hwalk] at h
        have hall := calendarWalk_dueIn (by simp) hwalk
        obtain rfl : _ = runs := Except.ok.inj h
        have hkept := withinDedupe_sub _ _ _ hrun
        apply hall
        split at hkept
        · have hlast := mem_of_getLast? (Option.mem_toList.mp hkept)
          exact (mem_insertionSort _).mp hlast
        · exact (mem_insertionSort _).mp hkept
  · obtain rfl : [] = runs := Except.ok.inj h
    cases hrun

theorem evaluate_dueIn (h : evaluate intl d windowStart windowEnd = .ok runs) (hrun : run ∈ runs) :
    DueIn d windowStart windowEnd run := by
  rw [evaluate] at h
  split at h
  · obtain rfl := Except.ok.inj h
    exact evaluateInterval_dueIn hrun
  · exact evaluateCalendar_dueIn h hrun

example : evaluateIntervalSchedule ⟨"hb", .heartbeat, "", true, "", "", .talk, none, .other "all", 90,
    some ⟨60, by decide⟩, some 0, none, some 200, none, none, none⟩ 60 240 =
      [⟨"hb", "heartbeat:180", 180, .heartbeat⟩, ⟨"hb", "heartbeat:120", 120, .heartbeat⟩] := by
  decide +kernel

end IdAgents.Scheduling
