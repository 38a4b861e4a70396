import IdAgents.Library.Text

namespace JsText

/-- The year of an era of four hundred years in which its day `doe` lies. -/
def yearOfEra (doe : Int) : Int := (doe - doe / 1460 + doe / 36524 - doe / 146096) / 365

/-- The day of an era on which its year `yoe` begins. -/
def yearStart (yoe : Int) : Int := 365 * yoe + yoe / 4 - yoe / 100

/-- The month and the day of the month of the day `doy` of a year that begins in March. -/
def monthOfYear (doy : Int) : Int := (5 * doy + 2) / 153

def dayOfMonth (doy : Int) : Int := doy - (153 * monthOfYear doy + 2) / 5 + 1

theorem civilOfDays_eq (days : Int) : civilOfDays days =
      let era := (days + 719468) / 146097
      let doe := (days + 719468) % 146097
      let mp := monthOfYear (doe - yearStart (yearOfEra doe))
      let m := if mp < 10 then mp + 3 else mp - 9
      (yearOfEra doe + era * 400 + if m ≤ 2 then 1 else 0, m,
        dayOfMonth (doe - yearStart (yearOfEra doe))) := rfl

/-- The day `s` of the year `y` of the four-year cycle `q` of the century `f` of an era. -/
theorem yearOfEra_cycle (hf : 0 ≤ f ∧ f ≤ 3) (hq : 0 ≤ q ∧ q ≤ 24)
    (hs : 0 ≤ s ∧ s < 1461) (hc : q = 24 → f < 3 → s < 1460) (hy : 0 ≤ y ∧ y ≤ 3)
    (hlow : 365 * y ≤ s) (hhigh : y = 3 ∨ s < 365 * (y + 1)) :
    yearOfEra (36524 * f + 1461 * q + s) = 100 * f + 4 * q + y := by
  have he : (36524 * f + 1461 * q + s) / 1460 = 25 * f + q + (24 * f + q + s) / 1460 := by omega
  have hd : (24 * f + q + s) / 1460 = if 1460 ≤ 24 * f + q + s then 1 else 0 := by
    split <;> omega
  by_cases hlast : f = 3 ∧ q = 24 ∧ s = 1460
  · obtain ⟨rfl, rfl, rfl⟩ := hlast
    obtain rfl : y = 3 := by omega
    decide
  · have hcentury : (36524 * f + 1461 * q + s) / 36524 = f := by omega
    have hera : (36524 * f + 1461 * q + s) / 146096 = 0 := by omega
    rw [yearOfEra]
    rw [hcentury, hera, he, hd]
    split <;> omega

theorem yearStart_cycle (hq : 0 ≤ q ∧ q ≤ 24) (hy : 0 ≤ y ∧ y ≤ 3) :
    yearStart (100 * f + 4 * q + y) = 36524 * f + 1461 * q + 365 * y := by
  have hquarter : (100 * f + 4 * q + y) / 4 = 25 * f + q := by omega
  have hcentury : (100 * f + 4 * q + y) / 100 = f := by omega
  rw [yearStart]
  rw [hquarter, hcentury]
  omega

/-- Every day of an era lies in its year. -/
theorem yearOfEra_bounds (doe : Int) (h : 0 ≤ doe ∧ doe < 146097) :
    yearStart (yearOfEra doe) ≤ doe ∧ doe < yearStart (yearOfEra doe) + 366 ∧
      (doe < yearStart (yearOfEra doe + 1) ∨ yearOfEra doe = 399) ∧
      0 ≤ yearOfEra doe ∧ yearOfEra doe ≤ 399 := by
  obtain ⟨f, hf, hfr⟩ : ∃ f, (0 ≤ f ∧ f ≤ 3) ∧ 0 ≤ doe - 36524 * f ∧
      (doe - 36524 * f < 36524 ∨ f = 3 ∧ doe - 36524 * f < 36525) :=
    ⟨min 3 (doe / 36524), by omega, by omega, by omega⟩
  obtain ⟨r, hr⟩ : ∃ r, r = doe - 36524 * f := ⟨_, rfl⟩
  rw [← hr] at hfr
  obtain ⟨y, hy, hlow, hhigh⟩ : ∃ y, (0 ≤ y ∧ y ≤ 3) ∧ 365 * y ≤ r % 1461 ∧
      (y = 3 ∨ r % 1461 < 365 * (y + 1)) :=
    ⟨min 3 (r % 1461 / 365), by omega, by omega, by omega⟩
  have hsplit : doe = 36524 * f + 1461 * (r / 1461) + r % 1461 := by omega
  have hyear : yearOfEra doe = 100 * f + 4 * (r / 1461) + y := by
    rw [hsplit]
    exact yearOfEra_cycle hf (by omega) (by omega) (by omega) hy hlow hhigh
  rw [hyear, yearStart_cycle (by omega) hy]
  refine ⟨by omega, by omega, ?_, by omega, by omega⟩
  -- the next year is the next of the cycle, the first of the next cycle or of the next century
  by_cases hcycle : y < 3
  · left
    have hnext := yearStart_cycle (f := f) (q := r / 1461) (y := y + 1) (by omega) (by omega)
    rw [← Int.add_assoc] at hnext
    omega
  by_cases hcentury : r / 1461 < 24
  · left
    have hnext := yearStart_cycle (f := f) (q := r / 1461 + 1) (y := 0) (by omega) (by omega)
    rw [show 100 * f + 4 * (r / 1461 + 1) + 0 = 100 * f + 4 * (r / 1461) + y + 1 by omega] at hnext
    omega
  by_cases hera : f < 3
  · left
    have hnext := yearStart_cycle (f := f + 1) (q := 0) (y := 0) (by omega) (by omega)
    rw [show 100 * (f + 1) + 4 * 0 + 0 = 100 * f + 4 * (r / 1461) + y + 1 by omega] at hnext
    omega
  · right
    omega

theorem yearStart_mono (h : a ≤ b) : yearStart a ≤ yearStart b := by
  unfold yearStart
  omega

/-- The month of a year's day, and the day in it. -/
theorem monthOfYear_bounds (doy : Int) (h : 0 ≤ doy ∧ doy < 366) :
    (0 ≤ monthOfYear doy ∧ monthOfYear doy ≤ 11) ∧ 1 ≤ dayOfMonth doy ∧ dayOfMonth doy ≤ 31 := by
  unfold dayOfMonth monthOfYear
  omega

theorem monthOfYear_lt (h : a < b) :
    monthOfYear a < monthOfYear b ∨ monthOfYear a = monthOfYear b ∧ dayOfMonth a < dayOfMonth b := by
  unfold dayOfMonth monthOfYear
  omega

/-- Of two days of an era the later has the later year, or the same year and a later day. -/
theorem yearOfEra_lt (ha : 0 ≤ a) (hb : b < 146097) (h : a < b) :
    yearOfEra a < yearOfEra b ∨ yearOfEra a = yearOfEra b ∧
      a - yearStart (yearOfEra a) < b - yearStart (yearOfEra b) := by
  obtain ⟨hlowA, _, hnextA, _, _⟩ := yearOfEra_bounds a ⟨ha, by omega⟩
  obtain ⟨_, _, hnextB, _, _⟩ := yearOfEra_bounds b ⟨by omega, hb⟩
  obtain hlt | heq | hgt := Int.lt_trichotomy (yearOfEra a) (yearOfEra b)
  · exact .inl hlt
  · refine .inr ⟨heq, ?_⟩
    rw [heq]
    omega
  · have hstart : yearStart (yearOfEra b + 1) ≤ yearStart (yearOfEra a) := yearStart_mono (by omega)
    obtain hnext | hnext := hnextB
    · omega
    · obtain ⟨_, _, _, _, htop⟩ := yearOfEra_bounds a ⟨ha, by omega⟩
      omega

/-- The order of dates. -/
def DateLt (a b : Int × Int × Int) : Prop :=
  a.1 < b.1 ∨ a.1 = b.1 ∧ (a.2.1 < b.2.1 ∨ a.2.1 = b.2.1 ∧ a.2.2 < b.2.2)

/-- A later day has a later date. -/
theorem civilOfDays_lt (h : a < b) : DateLt (civilOfDays a) (civilOfDays b) := by
  rw [civilOfDays_eq, civilOfDays_eq]
  rw [DateLt]
  dsimp only
  generalize hza : a + 719468 = za
  generalize hzb : b + 719468 = zb
  obtain ⟨hlowA, hlenA, _, hminA, hmaxA⟩ := yearOfEra_bounds (za % 146097) (by omega)
  obtain ⟨hlowB, hlenB, _, hminB, hmaxB⟩ := yearOfEra_bounds (zb % 146097) (by omega)
  have hera : za / 146097 < zb / 146097 ∨
      za / 146097 = zb / 146097 ∧ za % 146097 < zb % 146097 := by omega
  generalize hya : yearOfEra (za % 146097) = ya at *
  generalize hyb : yearOfEra (zb % 146097) = yb at *
  have hmA := monthOfYear_bounds (za % 146097 - yearStart ya) (by omega)
  have hmB := monthOfYear_bounds (zb % 146097 - yearStart yb) (by omega)
  have hyear : za / 146097 < zb / 146097 ∨ za / 146097 = zb / 146097 ∧ (ya < yb ∨ ya = yb ∧
      za % 146097 - yearStart ya < zb % 146097 - yearStart yb) := by
    obtain hlt | ⟨heq, hlt⟩ := hera
    · exact .inl hlt
    · have hin := yearOfEra_lt (by omega) (by omega) hlt
      rw [hya, hyb] at hin
      exact .inr ⟨heq, hin⟩
  generalize za % 146097 - yearStart ya = doyA at *
  generalize zb % 146097 - yearStart yb = doyB at *
  have hmonth : doyA < doyB → _ := monthOfYear_lt
  generalize monthOfYear doyA = mA at *
  generalize monthOfYear doyB = mB at *
  generalize dayOfMonth doyA = dA at *
  generalize dayOfMonth doyB = dB at *
  split <;> split <;> split <;> split <;> omega

theorem civilOfDays_bounds (days : Int) :
    (1 ≤ (civilOfDays days).2.1 ∧ (civilOfDays days).2.1 ≤ 12) ∧
      1 ≤ (civilOfDays days).2.2 ∧ (civilOfDays days).2.2 ≤ 31 := by
  rw [civilOfDays_eq]
  obtain ⟨hlow, hlen, _⟩ := yearOfEra_bounds ((days + 719468) % 146097) (by omega)
  have hm := monthOfYear_bounds
    ((days + 719468) % 146097 - yearStart (yearOfEra ((days + 719468) % 146097))) (by omega)
  dsimp only
  generalize monthOfYear _ = mp at *
  refine ⟨?_, hm.2⟩
  split <;> omega

/-- The day of a date of the year that begins in March of year `yoe` of an era. -/
theorem daysOfCivil_march {era yoe mp d : Int} (hyoe : 0 ≤ yoe ∧ yoe ≤ 399) (hmp : 0 ≤ mp ∧ mp ≤ 11) :
    daysOfCivil (yoe + era * 400 + if (if mp < 10 then mp + 3 else mp - 9) ≤ 2 then 1 else 0)
        (if mp < 10 then mp + 3 else mp - 9) d =
      era * 146097 + yearStart yoe + (153 * mp + 2) / 5 + d - 1 - 719468 := by
  have hera : (yoe + era * 400) / 400 = era := by omega
  have hyear : (yoe + era * 400) % 400 = yoe := by omega
  rw [daysOfCivil, yearStart]
  by_cases hlate : mp < 10
  · rw [if_pos hlate, if_neg (by omega : ¬ mp + 3 ≤ 2), if_pos (by omega : mp + 3 > 2)]
    rw [if_neg (by omega : ¬ mp + 3 ≤ 2), Int.add_zero, hera, hyear, Int.add_sub_cancel]
    omega
  · rw [if_neg hlate, if_pos (by omega : mp - 9 ≤ 2), if_neg (by omega : ¬ mp - 9 > 2)]
    rw [if_pos (by omega : mp - 9 ≤ 2), Int.add_sub_cancel, hera, hyear, Int.sub_add_cancel]
    omega

/-- A day is the day of its date. -/
theorem daysOfCivil_civilOfDays (days : Int) :
    daysOfCivil (civilOfDays days).1 (civilOfDays days).2.1 (civilOfDays days).2.2 = days := by
  obtain ⟨hlow, hlen, _, hyoe⟩ := yearOfEra_bounds ((days + 719468) % 146097) (by omega)
  have hm := monthOfYear_bounds
    ((days + 719468) % 146097 - yearStart (yearOfEra ((days + 719468) % 146097))) (by omega)
  rw [civilOfDays_eq]
  dsimp only
  rw [daysOfCivil_march hyoe hm.1, dayOfMonth]
  omega

theorem daysOfCivil_add (y m d n : Int) : daysOfCivil y m (d + n) = daysOfCivil y m d + n := by
  rw [daysOfCivil, daysOfCivil]
  omega

end JsText
