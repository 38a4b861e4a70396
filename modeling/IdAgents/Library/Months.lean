import IdAgents.Library.Calendar

namespace JsText

/-- The number of a month of a year, from 0 for the January of the year 0 on. -/
def monthIndex (y m : Int) : Int := 12 * y + (m - 1)

/-- The first day of a month. -/
def monthStart (j : Int) : Int := daysOfCivil (j / 12) (j % 12 + 1) 1

def monthLength (j : Int) : Int := monthStart (j + 1) - monthStart j

theorem monthStart_monthIndex (y m : Int) (h : 1 ≤ m ∧ m ≤ 12) :
    monthStart (monthIndex y m) = daysOfCivil y m 1 := by
  have hyear : monthIndex y m / 12 = y := by
    rw [monthIndex]
    omega
  have hmonth : monthIndex y m % 12 + 1 = m := by
    rw [monthIndex]
    omega
  rw [monthStart, hyear, hmonth]

/-- A month has 28 to 31 days. -/
theorem monthLength_bounds (j : Int) : 28 ≤ monthLength j ∧ monthLength j ≤ 31 := by
  obtain ⟨y, m, hm, rfl⟩ : ∃ y m : Int, (0 ≤ m ∧ m ≤ 11) ∧ j = 12 * y + m :=
    ⟨j / 12, j % 12, by omega, by omega⟩
  have hyear : (12 * y + m) / 12 = y := by omega
  have hmonth : (12 * y + m) % 12 = m := by omega
  rw [monthLength, monthStart, monthStart, hyear, hmonth, daysOfCivil, daysOfCivil]
  obtain hlast | hinner : m = 11 ∨ m < 11 := by omega
  · subst hlast
    have hyear' : (12 * y + 11 + 1) / 12 = y + 1 := by omega
    have hmonth' : (12 * y + 11 + 1) % 12 = 0 := by omega
    rw [hyear', hmonth']
    omega
  · have hyear' : (12 * y + m + 1) / 12 = y := by omega
    have hmonth' : (12 * y + m + 1) % 12 = m + 1 := by omega
    rw [hyear', hmonth']
    obtain hjan | hfeb | hlater : m = 0 ∨ m = 1 ∨ 2 ≤ m := by omega
    · subst hjan
      omega
    · subst hfeb
      omega
    · rw [if_neg (by omega : ¬ m + 1 + 1 ≤ 2), if_pos (by omega : m + 1 + 1 > 2),
        if_neg (by omega : ¬ m + 1 ≤ 2), if_pos (by omega : m + 1 > 2)]
      omega

/-- The first day of the month `mp` of the year that begins in March of year `yoe` of an era. -/
theorem monthStart_march {era yoe mp j : Int} (hyoe : 0 ≤ yoe ∧ yoe ≤ 399)
    (hmp : 0 ≤ mp ∧ mp ≤ 11) (hj : j = 12 * (yoe + era * 400) + mp + 2) :
    monthStart j = era * 146097 + yearStart yoe + (153 * mp + 2) / 5 - 719468 := by
  have hmarch := @daysOfCivil_march era yoe mp 1 hyoe hmp
  have hindex : j = monthIndex (yoe + era * 400 + if (if mp < 10 then mp + 3 else mp - 9) ≤ 2
      then 1 else 0) (if mp < 10 then mp + 3 else mp - 9) := by
    rw [hj, monthIndex]
    omega
  rw [hindex, monthStart_monthIndex _ _ (by omega), hmarch]
  omega

/-- A date is a day of its month. -/
theorem civilOfDays_month (days : Int) :
    monthStart (monthIndex (civilOfDays days).1 (civilOfDays days).2.1) +
        (civilOfDays days).2.2 - 1 = days ∧ 1 ≤ (civilOfDays days).2.2 ∧ (civilOfDays days).2.2 ≤
        monthLength (monthIndex (civilOfDays days).1 (civilOfDays days).2.1) := by
  obtain ⟨hlow, hlen, hnext, hyoe⟩ := yearOfEra_bounds ((days + 719468) % 146097) (by omega)
  have hm := monthOfYear_bounds
    ((days + 719468) % 146097 - yearStart (yearOfEra ((days + 719468) % 146097))) (by omega)
  rw [monthLength, civilOfDays_eq]
  dsimp only
  generalize hera : (days + 719468) / 146097 = era
  generalize hdoe : (days + 719468) % 146097 = doe at *
  generalize yearOfEra doe = yoe at *
  have hmp : monthOfYear (doe - yearStart yoe) = (5 * (doe - yearStart yoe) + 2) / 153 := rfl
  have hday : dayOfMonth (doe - yearStart yoe) = doe - yearStart yoe -
    (153 * monthOfYear (doe - yearStart yoe) + 2) / 5 + 1 := rfl
  rw [hday]
  generalize monthOfYear (doe - yearStart yoe) = mp at *
  generalize hindex : monthIndex (yoe + era * 400 + if (if mp < 10 then mp + 3 else mp - 9) ≤ 2
    then 1 else 0) (if mp < 10 then mp + 3 else mp - 9) = j
  have hj : j = 12 * (yoe + era * 400) + mp + 2 := by
    rw [← hindex, monthIndex]
    omega
  have hstart := monthStart_march hyoe hm.1 hj
  have hend : days < monthStart (j + 1) := by
    obtain hinner | hlast : mp < 11 ∨ mp = 11 := by omega
    · have hnext' : j + 1 = 12 * (yoe + era * 400) + (mp + 1) + 2 := by omega
      rw [monthStart_march hyoe (by omega) hnext']
      omega
    · obtain hyear | hyear : yoe < 399 ∨ yoe = 399 := by omega
      · have hnext' : j + 1 = 12 * (yoe + 1 + era * 400) + 0 + 2 := by omega
        rw [monthStart_march (by omega) (by omega) hnext']
        omega
      · have hnext' : j + 1 = 12 * (0 + (era + 1) * 400) + 0 + 2 := by omega
        have hfirst : yearStart 0 = 0 := rfl
        rw [monthStart_march (by omega) (by omega) hnext', hfirst]
        omega
  omega

theorem monthStart_mono {i j : Int} (h : i ≤ j) : monthStart i ≤ monthStart j := by
  obtain ⟨n, rfl⟩ : ∃ n : Nat, j = i + n := ⟨(j - i).toNat, by omega⟩
  clear h
  induction n with
  | zero => simp
  | succ n ih =>
    have hlength := (monthLength_bounds (i + n)).1
    rw [monthLength, Int.add_assoc] at hlength
    rw [Int.natCast_succ]
    omega

/-- The date of a day of a month. -/
theorem civilOfDays_of_month {j d : Int} (h : 1 ≤ d ∧ d ≤ monthLength j) :
    civilOfDays (monthStart j + d - 1) = (j / 12, j % 12 + 1, d) := by
  obtain ⟨hday, hfirst, hlast⟩ := civilOfDays_month (monthStart j + d - 1)
  obtain ⟨hm, _⟩ := civilOfDays_bounds (monthStart j + d - 1)
  generalize civilOfDays (monthStart j + d - 1) = civil at *
  obtain ⟨y, m, d'⟩ := civil
  dsimp only at *
  generalize hindex : monthIndex y m = i at *
  have hij : i = j := by
    rw [monthLength] at h hlast
    obtain hlt | heq | hgt := Int.lt_trichotomy i j
    · have hstart := monthStart_mono (by omega : i + 1 ≤ j)
      omega
    · exact heq
    · have hstart := monthStart_mono (by omega : j + 1 ≤ i)
      omega
  subst hij
  rw [monthIndex] at hindex
  have hd : d' = d := by omega
  have hy : y = i / 12 := by omega
  have hm' : m = i % 12 + 1 := by omega
  rw [hd, hy, hm']

end JsText
