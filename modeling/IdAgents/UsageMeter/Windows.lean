import IdAgents.Library.Text

namespace IdAgents.UsageMeter
open JsText

abbrev Timezone := Int → Int

def dayMs : Int := 86400000

namespace Timezone
variable (tz : Timezone)

def localMs (t : Int) : Int := t + 1000 * tz t

def localDate (t : Int) : Int := tz.localMs t / dayMs

def secondOfDay (t : Int) : Int := tz.localMs t % dayMs / 1000

end Timezone

structure LocalParts where
  year : Int
  month : Int
  day : Int
  hour : Int
  minute : Int
  second : Int
  /-- Counted from Monday. -/
  weekday : Int
section
variable (t : Int)
section
variable (tz : Timezone)

def getLocalParts : LocalParts :=
  let date := tz.localDate t
  let civil := civilOfDays date
  let second := tz.secondOfDay t
  { year := if 0 < civil.1 then civil.1 else 1 - civil.1
    month := civil.2.1
    day := civil.2.2
    hour := second / 3600
    minute := second / 60 % 60
    second := second % 60
    weekday := (date + 3) % 7 }

def getOffsetMinutes : Int := (tz t).sign * ((tz t).natAbs / 60 : Nat)

def startOfDayInTz : Int :=
  let p := getLocalParts t tz
  t - (p.hour * 3600 + p.minute * 60 + p.second) * 1000

def startOfWeekInTz : Int :=
  let dayStart := startOfDayInTz t tz
  dayStart - (getLocalParts dayStart tz).weekday * 86400000

def twoDigits (n : Int) : String := padLeft 2 (toString n.toNat)

def isoWithOffsetInTz : String :=
  let p := getLocalParts t tz
  let offsetMin := getOffsetMinutes t tz
  let abs := offsetMin.natAbs
  toString p.year ++ "-" ++ twoDigits p.month ++ "-" ++ twoDigits p.day ++ "T" ++
    twoDigits p.hour ++ ":" ++ twoDigits p.minute ++ ":" ++ twoDigits p.second ++ ".000" ++
    (if 0 ≤ offsetMin then "+" else "-") ++ twoDigits (abs / 60 : Nat) ++ ":" ++
    twoDigits (abs % 60 : Nat)

structure UsageWindow where
  start : String
  end_ : String
  startMs : Int
  endMs : Int
deriving DecidableEq

def windowBetween (start end_ : Int) (tz : Timezone) : UsageWindow :=
  ⟨isoWithOffsetInTz start tz, isoWithOffsetInTz end_ tz, start, end_⟩

def computeDayWindow : UsageWindow :=
  let start := startOfDayInTz t tz
  windowBetween start (startOfDayInTz (start + 36 * 3600000) tz) tz

def computeWeekWindow : UsageWindow :=
  let start := startOfWeekInTz t tz
  windowBetween start (startOfWeekInTz (start + 8 * 86400000) tz) tz

end

end

namespace Timezone
variable (tz : Timezone)

def localWeek (t : Int) : Int := (tz.localDate t + 3) / 7

def IsMidnight (date t : Int) : Prop := tz.localMs t = date * dayMs

def IsMonday (week t : Int) : Prop := tz.IsMidnight (7 * week - 3) t

end Timezone

structure Partitions (window : Int → UsageWindow) (period : Int → Int)
    (begins : Int → Int → Prop) (t u : Int) : Prop where
  same : window t = window u
  holds : (window t).startMs ≤ t ∧ t < (window t).endMs
  holds' : (window t).startMs ≤ u ∧ u < (window t).endMs
  starts : begins (period t) (window t).startMs
  ends : begins (period t + 1) (window t).endMs
  abuts : (window (window t).endMs).startMs = (window t).endMs

def WindowsPartition (tz : Timezone) (t u : Int) : Prop :=
  (tz.localDate t = tz.localDate u →
    Partitions (computeDayWindow · tz) tz.localDate tz.IsMidnight t u) ∧
  (tz.localWeek t = tz.localWeek u →
    Partitions (computeWeekWindow · tz) tz.localWeek tz.IsMonday t u)

namespace Timezone
variable (tz : Timezone)

def ShowsSince (origin t : Int) : Prop := 1000 * tz.secondOfDay t = t - origin

/-- The offset that is in force at the two instants, whole seconds both, is that of the midnight
before them, and 36 hours after it the clocks go by the next midnight. -/
def SteadyDay (t u : Int) : Prop :=
  ∃ midnight next, tz.IsMidnight (tz.localDate t) midnight ∧
    tz.IsMidnight (tz.localDate t + 1) next ∧
    (t % 1000 = 0 ∧ tz t = tz midnight ∧ t < next) ∧
    (u % 1000 = 0 ∧ tz u = tz midnight ∧ u < next) ∧
    tz.ShowsSince next (midnight + 36 * 3600000)

def CountsFrom (monday t : Int) : Prop :=
  ∃ days, (tz.localDate (monday + days * dayMs) + 3) % 7 = days ∧
    tz.ShowsSince (monday + days * dayMs) t

def SteadyWeek (t u : Int) : Prop :=
  ∃ monday next, tz.IsMonday (tz.localWeek t) monday ∧ tz.IsMonday (tz.localWeek t + 1) next ∧
    (tz.CountsFrom monday t ∧ t < next) ∧ (tz.CountsFrom monday u ∧ u < next) ∧
    tz.CountsFrom next (monday + 8 * dayMs)

end Timezone

section Days
variable {tz : Timezone}

theorem secondOfDay_nonneg (t : Int) : 0 ≤ tz.secondOfDay t := by
  unfold Timezone.secondOfDay dayMs
  omega

theorem startOfDayInTz_eq (t : Int) : startOfDayInTz t tz = t - 1000 * tz.secondOfDay t := by
  unfold startOfDayInTz getLocalParts
  dsimp only
  omega

theorem startOfDayInTz_iff : startOfDayInTz t tz = origin ↔ tz.ShowsSince origin t := by
  rw [startOfDayInTz_eq]
  rw [Timezone.ShowsSince]
  omega

theorem showsSince_midnight (h : tz.IsMidnight (tz.localDate t) midnight) :
    tz.ShowsSince midnight t ↔ t % 1000 = 0 ∧ tz t = tz midnight := by
  unfold Timezone.IsMidnight Timezone.localDate Timezone.localMs dayMs at h
  unfold Timezone.ShowsSince Timezone.secondOfDay Timezone.localMs dayMs
  omega

theorem startOfDayInTz_midnight (h : tz.IsMidnight date t) : startOfDayInTz t tz = t := by
  rw [startOfDayInTz_eq]
  unfold Timezone.IsMidnight dayMs at h
  unfold Timezone.secondOfDay dayMs
  omega

theorem startOfWeekInTz_iff : startOfWeekInTz t tz = monday ↔ tz.CountsFrom monday t := by
  unfold startOfWeekInTz Timezone.CountsFrom
  dsimp only [getLocalParts]
  constructor
  · intro h
    have hday : monday + (tz.localDate (startOfDayInTz t tz) + 3) % 7 * dayMs =
        startOfDayInTz t tz := by
      rw [dayMs]
      omega
    refine ⟨(tz.localDate (startOfDayInTz t tz) + 3) % 7, ?_, ?_⟩
    · rw [hday]
    · rw [hday]
      exact startOfDayInTz_iff.mp rfl
  · rintro ⟨days, hdays, hshows⟩
    rw [startOfDayInTz_iff.mpr hshows, hdays]
    rw [dayMs]
    omega

theorem startOfWeekInTz_monday (h : tz.IsMonday week t) : startOfWeekInTz t tz = t := by
  have hday := startOfDayInTz_midnight h
  rw [startOfWeekInTz]
  dsimp only [getLocalParts]
  rw [hday]
  unfold Timezone.IsMonday Timezone.IsMidnight dayMs at h
  unfold Timezone.localDate dayMs
  omega

theorem startOfWeekInTz_le (t : Int) : startOfWeekInTz t tz ≤ t := by
  have hsecond : 0 ≤ tz.secondOfDay t := secondOfDay_nonneg t
  rw [startOfWeekInTz]
  rw [startOfDayInTz_eq]
  dsimp only [getLocalParts]
  omega

theorem dayPartitions_iff (hdate : tz.localDate t = tz.localDate u) :
    Partitions (computeDayWindow · tz) tz.localDate tz.IsMidnight t u ↔ tz.SteadyDay t u := by
  constructor
  · intro h
    have hstart : startOfDayInTz u tz = startOfDayInTz t tz :=
      (congrArg UsageWindow.startMs h.same).symm
    have hmidnight : tz.IsMidnight (tz.localDate t) (startOfDayInTz t tz) := h.starts
    refine ⟨startOfDayInTz t tz, startOfDayInTz (startOfDayInTz t tz + 36 * 3600000) tz, hmidnight,
      h.ends, ?_, ?_, startOfDayInTz_iff.mp rfl⟩
    · obtain ⟨hwhole, hoffset⟩ := (showsSince_midnight hmidnight).mp (startOfDayInTz_iff.mp rfl)
      exact ⟨hwhole, hoffset, h.holds.2⟩
    · rw [hdate] at hmidnight
      obtain ⟨hwhole, hoffset⟩ := (showsSince_midnight hmidnight).mp (startOfDayInTz_iff.mp hstart)
      exact ⟨hwhole, hoffset, h.holds'.2⟩
  · rintro ⟨midnight, next, hmidnight, hnext, ⟨hwhole, hoffset, ht⟩, ⟨hwhole', hoffset', hu⟩, hlate⟩
    have hstart : startOfDayInTz t tz = midnight :=
      startOfDayInTz_iff.mpr ((showsSince_midnight hmidnight).mpr ⟨hwhole, hoffset⟩)
    have hstart' : startOfDayInTz u tz = midnight := by
      rw [hdate] at hmidnight
      exact startOfDayInTz_iff.mpr ((showsSince_midnight hmidnight).mpr ⟨hwhole', hoffset'⟩)
    have hend : startOfDayInTz (midnight + 36 * 3600000) tz = next := startOfDayInTz_iff.mpr hlate
    have hle : midnight ≤ t := by
      rw [← hstart, startOfDayInTz_eq]
      exact Int.sub_le_self _ (Int.mul_nonneg (by decide) (secondOfDay_nonneg t))
    have hle' : midnight ≤ u := by
      rw [← hstart', startOfDayInTz_eq]
      exact Int.sub_le_self _ (Int.mul_nonneg (by decide) (secondOfDay_nonneg u))
    have hwindow : computeDayWindow t tz = windowBetween midnight next tz := by
      unfold computeDayWindow
      dsimp only
      rw [hstart, hend]
    have hwindow' : computeDayWindow u tz = windowBetween midnight next tz := by
      unfold computeDayWindow
      dsimp only
      rw [hstart', hend]
    constructor
    case same => exact hwindow.trans hwindow'.symm
    all_goals rw [hwindow]
    case holds => exact ⟨hle, ht⟩
    case holds' => exact ⟨hle', hu⟩
    case starts => exact hmidnight
    case ends => exact hnext
    case abuts => exact startOfDayInTz_midnight hnext

theorem weekPartitions_iff :
    Partitions (computeWeekWindow · tz) tz.localWeek tz.IsMonday t u ↔ tz.SteadyWeek t u := by
  constructor
  · intro h
    have hstart : startOfWeekInTz u tz = startOfWeekInTz t tz :=
      (congrArg UsageWindow.startMs h.same).symm
    exact ⟨startOfWeekInTz t tz, startOfWeekInTz (startOfWeekInTz t tz + 8 * 86400000) tz,
      h.starts, h.ends, ⟨startOfWeekInTz_iff.mp rfl, h.holds.2⟩,
      ⟨startOfWeekInTz_iff.mp hstart, h.holds'.2⟩, startOfWeekInTz_iff.mp rfl⟩
  · rintro ⟨monday, next, hmonday, hnext, ⟨hcounts, ht⟩, ⟨hcounts', hu⟩, hlate⟩
    have hstart : startOfWeekInTz t tz = monday := startOfWeekInTz_iff.mpr hcounts
    have hstart' : startOfWeekInTz u tz = monday := startOfWeekInTz_iff.mpr hcounts'
    have hend : startOfWeekInTz (monday + 8 * 86400000) tz = next := startOfWeekInTz_iff.mpr hlate
    have hwindow : computeWeekWindow t tz = windowBetween monday next tz := by
      unfold computeWeekWindow
      dsimp only
      rw [hstart, hend]
    have hwindow' : computeWeekWindow u tz = windowBetween monday next tz := by
      unfold computeWeekWindow
      dsimp only
      rw [hstart', hend]
    constructor
    case same => exact hwindow.trans hwindow'.symm
    all_goals rw [hwindow]
    case holds => exact ⟨hstart ▸ startOfWeekInTz_le t, ht⟩
    case holds' => exact ⟨hstart' ▸ startOfWeekInTz_le u, hu⟩
    case starts => exact hmonday
    case ends => exact hnext
    case abuts => exact startOfWeekInTz_monday hnext

end Days

/-- The windows partition time exactly at whole seconds of days and weeks in which the clocks run
steadily. -/
theorem windowsPartition_iff (tz : Timezone) (t u : Int) : WindowsPartition tz t u ↔
    (tz.localDate t = tz.localDate u → tz.SteadyDay t u) ∧
      (tz.localWeek t = tz.localWeek u → tz.SteadyWeek t u) := by
  constructor
  · rintro ⟨hday, hweek⟩
    exact ⟨fun hdate => (dayPartitions_iff hdate).mp (hday hdate),
      fun hsame => weekPartitions_iff.mp (hweek hsame)⟩
  · rintro ⟨hday, hweek⟩
    exact ⟨fun hdate => (dayPartitions_iff hdate).mpr (hday hdate),
      fun hsame => weekPartitions_iff.mpr (hweek hsame)⟩

def newYork : Timezone := fun t => if t < 1772953200000 then -18000 else -14400

/-- An hour before and an hour after, the day has begun at different instants. -/
theorem not_windowsPartition : ¬ WindowsPartition newYork 1772949600000 1772956800000 := by
  intro h
  have hsame := (h.1 (by decide)).same
  revert hsame
  decide +kernel

end IdAgents.UsageMeter
