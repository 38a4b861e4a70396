import Mathlib.Data.String.Basic
import IdAgents.Library.Calendar

namespace JsText
open List String

/-- The last `w` decimal digits of a number. -/
def decimal : Nat → Nat → List Char
  | 0, _ => []
  | w + 1, n => decimal w (n / 10) ++ [(n % 10).digitChar]

@[simp] theorem decimal_length (w n : Nat) : (decimal w n).length = w := by
  induction w generalizing n with
  | zero => rfl
  | succ w ih => simp [decimal, ih]

theorem decimal_zero (w : Nat) : decimal w 0 = List.replicate w '0' := by
  induction w with
  | zero => rfl
  | succ w ih => simp [decimal, ih, List.replicate_succ']

/-- A number padded with zeros shows its last digits. -/
theorem padLeft_toString (hw : 0 < w) (h : n < 10 ^ w) :
    (padLeft w (toString n)).toList = decimal w n := by
  have hdigits : ∀ w n, 0 < w → n < 10 ^ w →
      List.replicate (w - (Nat.toDigits 10 n).length) '0' ++ Nat.toDigits 10 n = decimal w n := by
    intro w
    induction w with
    | zero => intro n hw; cases hw
    | succ w ih =>
      intro n _ hn
      rw [Nat.toDigits_eq_if (by decide), decimal]
      split
      · next hlt =>
        rw [Nat.div_eq_of_lt hlt, Nat.mod_eq_of_lt hlt, decimal_zero]
        simp
      · next hge =>
        have hw : 0 < w := by
          by_contra hzero
          obtain rfl : w = 0 := by omega
          omega
        rw [← ih (n / 10) hw (by omega), List.length_append, List.length_singleton,
          Nat.add_sub_add_right, List.append_assoc]
  rw [padLeft, toList_append, toList_ofList, Nat.toString_eq_ofList_toDigits,
    toList_ofList, length_ofList]
  exact hdigits w n hw h

/-- Texts that begin alike in length are ordered by their beginnings first. -/
theorem append_lt_append {as bs cs ds : List Char} (h : as.length = bs.length) :
    as ++ cs < bs ++ ds ↔ as < bs ∨ as = bs ∧ cs < ds := by
  induction as generalizing bs with
  | nil =>
    cases bs with
    | nil => simp
    | cons b bs => cases h
  | cons a as ih =>
    cases bs with
    | nil => cases h
    | cons b bs =>
      simp only [length_cons, Nat.add_right_cancel_iff] at h
      simp only [cons_append, cons_lt_cons_iff, ih h, List.cons.injEq]
      tauto

theorem digitChar_lt (hm : m < 10) (hn : n < 10) : m.digitChar < n.digitChar ↔ m < n := by
  have hall : ∀ m < 10, ∀ n < 10, m.digitChar < n.digitChar ↔ m < n := by decide
  exact hall m hm n hn

/-- Digits of one width are ordered as their numbers are. -/
theorem decimal_lt {w m n : Nat} (hm : m < 10 ^ w) (hn : n < 10 ^ w) :
    decimal w m < decimal w n ↔ m < n := by
  induction w generalizing m n with
  | zero => simp_all [decimal]
  | succ w ih =>
    have hchar := digitChar_lt (m := m % 10) (n := n % 10) (by omega) (by omega)
    have hhead := ih (m := m / 10) (n := n / 10) (by omega) (by omega)
    have hback := ih (m := n / 10) (n := m / 10) (by omega) (by omega)
    rw [decimal, decimal, append_lt_append (by simp), hhead, cons_lt_cons_iff, hchar]
    have heq : decimal w (m / 10) = decimal w (n / 10) ↔ m / 10 = n / 10 := by
      constructor
      · intro h
        rw [h] at hhead hback
        have hmn : ¬ m / 10 < n / 10 := fun hlt => lt_irrefl _ (hhead.mpr hlt)
        have hnm : ¬ n / 10 < m / 10 := fun hlt => lt_irrefl _ (hback.mpr hlt)
        omega
      · intro h
        rw [h]
    rw [heq]
    simp only [not_lt_nil, and_false, or_false]
    omega

theorem decimal_inj (hm : m < 10 ^ w) (hn : n < 10 ^ w) : decimal w m = decimal w n ↔ m = n := by
  constructor
  · intro h
    have hlt := decimal_lt hm hn
    have hgt := decimal_lt hn hm
    rw [h] at hlt hgt
    have hmn : ¬ m < n := fun h => lt_irrefl _ (hlt.mpr h)
    have hnm : ¬ n < m := fun h => lt_irrefl _ (hgt.mpr h)
    omega
  · intro h
    rw [h]

/-- The instants that `toISOString` writes with a year of four digits. -/
def FourDigitYear (t : Instant) : Prop :=
  0 ≤ (civilOfDays (t / 86400000)).1 ∧ (civilOfDays (t / 86400000)).1 ≤ 9999

instance : Decidable (FourDigitYear t) := inferInstanceAs (Decidable (_ ∧ _))

/-- The date of a day, as ten characters. -/
def dateText (days : Int) : List Char :=
  decimal 4 (civilOfDays days).1.toNat ++ ('-' :: (decimal 2 (civilOfDays days).2.1.toNat ++
    ('-' :: decimal 2 (civilOfDays days).2.2.toNat)))

/-- The time of day, to the second. -/
def clockText (ms : Nat) : List Char :=
  decimal 2 (ms / 3600000) ++ (':' :: (decimal 2 (ms / 60000 % 60) ++
    (':' :: decimal 2 (ms / 1000 % 60))))

@[simp] theorem dateText_length (days : Int) : (dateText days).length = 10 := by
  simp [dateText]

@[simp] theorem clockText_length (ms : Nat) : (clockText ms).length = 8 := by
  simp [clockText]

variable {t : Instant}

theorem toISOString_toList (h : FourDigitYear t) :
    (toISOString t).toList = dateText (t / 86400000) ++ ('T' :: (clockText (t % 86400000).toNat ++
      ('.' :: (decimal 3 ((t % 86400000).toNat % 1000) ++ ['Z'])))) := by
  have hbounds := civilOfDays_bounds (t / 86400000)
  have hms : (t % 86400000).toNat < 86400000 := by omega
  rw [FourDigitYear] at h
  unfold toISOString dateText clockText
  generalize civilOfDays (t / 86400000) = date at h hbounds ⊢
  generalize (t % 86400000).toNat = ms at hms ⊢
  obtain ⟨y, m, d⟩ := date
  dsimp only at h hbounds ⊢
  obtain ⟨⟨_, hm⟩, _, hd⟩ := hbounds
  have hyear : (isoYear y).toList = decimal 4 y.toNat := by
    rw [isoYear, if_pos h]
    exact padLeft_toString (by decide) (by omega)
  have htwo : ∀ n < 100, (padLeft 2 (toString n)).toList = decimal 2 n := fun n hn =>
    padLeft_toString (by decide) hn
  have hthree : (padLeft 3 (toString (ms % 1000))).toList = decimal 3 (ms % 1000) :=
    padLeft_toString (by decide) (by omega)
  simp only [toList_append, hyear, hthree, htwo m.toNat (by omega), htwo d.toNat (by omega),
    htwo (ms / 3600000) (by omega), htwo (ms / 60000 % 60) (by omega),
    htwo (ms / 1000 % 60) (by omega)]
  simp

/-- Dates are ordered as texts the way their days are. -/
theorem dateText_lt_of_lt {a b : Int} (ha : 0 ≤ (civilOfDays a).1) (hb : (civilOfDays b).1 ≤ 9999)
    (h : a < b) : dateText a < dateText b := by
  have hlt := civilOfDays_lt h
  have hboundsA := civilOfDays_bounds a
  have hboundsB := civilOfDays_bounds b
  unfold dateText
  generalize civilOfDays a = dateA at *
  generalize civilOfDays b = dateB at *
  obtain ⟨y, m, d⟩ := dateA
  obtain ⟨y', m', d'⟩ := dateB
  unfold DateLt at hlt
  dsimp only at *
  have hyear : y ≤ y' := by omega
  rw [append_lt_append (by simp), decimal_lt (by omega) (by omega), decimal_inj (by omega) (by omega),
    cons_lt_cons_iff, append_lt_append (by simp), decimal_lt (by omega) (by omega),
    decimal_inj (by omega) (by omega), cons_lt_cons_iff, decimal_lt (by omega) (by omega)]
  simp only [lt_irrefl, false_or, true_and]
  omega

theorem dateText_lt (ha : 0 ≤ (civilOfDays a).1 ∧ (civilOfDays a).1 ≤ 9999)
    (hb : 0 ≤ (civilOfDays b).1 ∧ (civilOfDays b).1 ≤ 9999) : dateText a < dateText b ↔ a < b := by
  constructor
  · intro h
    by_contra hge
    obtain rfl | hgt : a = b ∨ b < a := by omega
    · exact lt_irrefl _ h
    · exact lt_asymm h (dateText_lt_of_lt hb.1 ha.2 hgt)
  · exact dateText_lt_of_lt ha.1 hb.2

theorem dateText_inj (ha : 0 ≤ (civilOfDays a).1 ∧ (civilOfDays a).1 ≤ 9999)
    (hb : 0 ≤ (civilOfDays b).1 ∧ (civilOfDays b).1 ≤ 9999) : dateText a = dateText b ↔ a = b := by
  constructor
  · intro h
    have hlt := dateText_lt ha hb
    have hgt := dateText_lt hb ha
    rw [h] at hlt hgt
    have hab : ¬ a < b := fun h => lt_irrefl _ (hlt.mpr h)
    have hba : ¬ b < a := fun h => lt_irrefl _ (hgt.mpr h)
    omega
  · intro h
    rw [h]

/-- SQLite writes a year with four digits, after a sign when it is negative. -/
def sqliteYear (y : Int) : String :=
  if y < 0 then "-" ++ padLeft 4 (toString y.natAbs) else padLeft 4 (toString y.toNat)

/-- The text of SQLite's `datetime` for an instant: to the second, without a `T`. -/
def sqliteDatetime (t : Instant) : String :=
  let (y, m, d) := civilOfDays (t / 86400000)
  let ms := (t % 86400000).toNat
  sqliteYear y ++ "-" ++ padLeft 2 (toString m.toNat) ++ "-" ++ padLeft 2 (toString d.toNat) ++ " " ++
    padLeft 2 (toString (ms / 3600000)) ++ ":" ++ padLeft 2 (toString (ms / 60000 % 60)) ++ ":" ++
    padLeft 2 (toString (ms / 1000 % 60))

example : sqliteDatetime 1767225599123 = "2025-12-31 23:59:59" := by decide +kernel

theorem sqliteDatetime_toList (h : FourDigitYear t) : (sqliteDatetime t).toList =
      dateText (t / 86400000) ++ (' ' :: clockText (t % 86400000).toNat) := by
  have hbounds := civilOfDays_bounds (t / 86400000)
  have hms : (t % 86400000).toNat < 86400000 := by omega
  rw [FourDigitYear] at h
  unfold sqliteDatetime dateText clockText
  generalize civilOfDays (t / 86400000) = date at h hbounds ⊢
  generalize (t % 86400000).toNat = ms at hms ⊢
  obtain ⟨y, m, d⟩ := date
  dsimp only at h hbounds ⊢
  obtain ⟨⟨_, hm⟩, _, hd⟩ := hbounds
  have hyear : (sqliteYear y).toList = decimal 4 y.toNat := by
    rw [sqliteYear, if_neg (by omega)]
    exact padLeft_toString (by decide) (by omega)
  have htwo : ∀ n < 100, (padLeft 2 (toString n)).toList = decimal 2 n := fun n hn =>
    padLeft_toString (by decide) hn
  simp only [toList_append, hyear, htwo m.toNat (by omega), htwo d.toNat (by omega),
    htwo (ms / 3600000) (by omega), htwo (ms / 60000 % 60) (by omega),
    htwo (ms / 1000 % 60) (by omega)]
  simp

/-- An instant compared as text with SQLite's `datetime` of another: only the days count, since a
`T` comes after a blank. -/
theorem toISOString_lt_sqliteDatetime {u : Instant} (ht : FourDigitYear t)
    (hu : (civilOfDays (u / 86400000)).1 ≤ 9999) :
    toISOString t < sqliteDatetime u ↔ t / 86400000 < u / 86400000 := by
  by_cases hneg : (civilOfDays (u / 86400000)).1 < 0
  · have hdays : ¬ t / 86400000 < u / 86400000 := by
      intro hlt
      obtain h | ⟨h, _⟩ := civilOfDays_lt hlt
      · exact absurd ht.1 (by omega)
      · exact absurd ht.1 (by omega)
    have htext : ¬ toISOString t < sqliteDatetime u := by
      rw [lt_iff_toList_lt, toISOString_toList ht]
      rw [sqliteDatetime]
      generalize civilOfDays (u / 86400000) = date at hneg ⊢
      obtain ⟨y, m, d⟩ := date
      have hsign : (sqliteYear y).toList = '-' :: (padLeft 4 (toString y.natAbs)).toList := by
        rw [sqliteYear, if_pos hneg, toList_append]
        rfl
      simp only [String.toList_append, hsign, dateText, decimal, List.nil_append, List.cons_append,
        List.append_assoc]
      rw [List.cons_lt_cons_iff]
      have hdigit : ∀ n < 10, ¬ n.digitChar < '-' ∧ n.digitChar ≠ '-' := by decide
      have hfirst := hdigit ((civilOfDays (t / 86400000)).1.toNat / 10 / 10 / 10 % 10) (by omega)
      tauto
    simp only [hdays, htext]
  · have hu' : FourDigitYear u := ⟨by omega, hu⟩
    rw [lt_iff_toList_lt, toISOString_toList ht, sqliteDatetime_toList hu',
      append_lt_append (by simp), dateText_lt ht hu', cons_lt_cons_iff]
    have hT : ¬ 'T' < ' ' ∧ 'T' ≠ ' ' := by decide
    tauto

end JsText
