import IdAgents.Library.Calendar
import IdAgents.Scheduler.StrictMode

namespace IdAgents
open JsText JsRegex

structure UtcOffset where
  seconds : Int
  bound : -86400 < seconds ∧ seconds < 86400

namespace UtcOffset

def localMs (o : UtcOffset) (t : Instant) : Int := t + o.seconds * 1000

/-- What the formatter shows of an instant. Under `hour12: false` a host shows the hour of midnight
as 0 or as 24. -/
def parts (o : UtcOffset) (midnight24 : Bool) (t : Instant) : ZonedParts :=
  let ms := o.localMs t
  let civil := civilOfDays (ms / 86400000)
  let hour := ms % 86400000 / 3600000
  { year := civil.1
    month := civil.2.1
    day := civil.2.2
    hour := if midnight24 ∧ hour = 0 then 24 else hour
    minute := ms % 3600000 / 60000
    second := ms % 60000 / 1000 }

end UtcOffset

def fixedIntl (offsetOf : String → Option UtcOffset) (midnight24 : Bool) : Intl where
  zonedParts t timeZone := (offsetOf timeZone).map (·.parts midnight24 t)

structure ResetPhrase where
  hour24 : Int
  minute : Int
  timeZone : String
deriving DecidableEq

def resetPhrase (text : String) : Option ResetPhrase :=
  let lower := toLowerCase text
  if !includes lower "session limit" then none
  else if !includes lower "hit your session limit" && !includes lower "session limit · resets" then
    none
  else match RESET_PATTERN.firstMatch [] text.toList with
    | none => none
    | some (_, groups) =>
      let number (n : Nat) : Int := decimal ((groups.lookup n).getD [])
      let hour := number 1
      let minute := number 2
      let meridiem := toLowerCase (String.ofList ((groups.lookup 3).getD []))
      let named := ((groups.lookup 4).map fun cs => trim (String.ofList cs)).filter (· ≠ "")
      if hour < 1 ∨ 12 < hour ∨ 59 < minute then none
      else some ⟨hour % 12 + if meridiem = "pm" then 12 else 0, minute,
        named.getD "America/Chicago"⟩

namespace ResetPhrase

def msOfDay (phrase : ResetPhrase) : Int := (phrase.hour24 * 3600 + phrase.minute * 60) * 1000

/-- The next time after the instant `t` at which the clocks of the zone show the announced time. -/
structure Next (phrase : ResetPhrase) (o : UtcOffset) (t resetAt : Instant) : Prop where
  after : t < resetAt
  within : resetAt ≤ t + 86400000
  wallTime : o.localMs resetAt % 86400000 = phrase.msOfDay

def LaterToday (phrase : ResetPhrase) (o : UtcOffset) (t : Instant) : Prop :=
  o.localMs t % 86400000 < phrase.msOfDay

instance (phrase : ResetPhrase) (o : UtcOffset) (t : Instant) : Decidable (phrase.LaterToday o t) :=
  inferInstanceAs (Decidable (o.localMs t % 86400000 < phrase.msOfDay))

/-- The zone is not behind UTC, or the announced time is still to come today; where midnight is
shown as 24 and the announced hour is that of midnight, both. -/
def Foreseen (phrase : ResetPhrase) (o : UtcOffset) (midnight24 : Bool) (t : Instant) : Prop :=
  if midnight24 = true ∧ phrase.hour24 = 0 then phrase.LaterToday o t ∧ 0 ≤ o.seconds
  else phrase.LaterToday o t ∨ 0 ≤ o.seconds

end ResetPhrase

theorem resetPhrase_cases (h : resetPhrase text = some phrase) (intl : Intl) (t : Instant) :
    (0 ≤ phrase.hour24 ∧ phrase.hour24 ≤ 23 ∧ 0 ≤ phrase.minute ∧ phrase.minute ≤ 59) ∧
      ∃ label, parseClaudeSessionLimit intl text t =
        some ⟨nextResetAt intl t phrase.timeZone phrase.hour24 phrase.minute, some label⟩ := by
  unfold resetPhrase at h
  unfold parseClaudeSessionLimit
  dsimp only at h ⊢
  split at h
  · cases h
  · next hlimit =>
    rw [if_neg hlimit]
    split at h
    · cases h
    · next hhit =>
      rw [if_neg hhit]
      cases hmatch : RESET_PATTERN.firstMatch [] text.toList with
      | none =>
        rw [hmatch] at h
        cases h
      | some found =>
        rw [hmatch] at h
        dsimp only at h ⊢
        split at h
        · cases h
        · next hvalid =>
          rw [← Option.some.inj h]
          dsimp only
          rw [if_neg hvalid]
          refine ⟨?_, _, rfl⟩
          have hminute : (0 : Int) ≤ decimal ((found.2.lookup 2).getD []) := Int.natCast_nonneg _
          refine ⟨?_, ?_, hminute, by omega⟩ <;> split <;> omega

section
variable (midnight24 : Bool)

def extraMs (ms : Int) : Int :=
  if midnight24 = true ∧ ms % 86400000 < 3600000 then 86400000 else 0

def shownMs (ms : Int) : Int := ms - ms % 1000 + extraMs midnight24 ms

theorem extraMs_cases (ms : Int) :
    extraMs midnight24 ms = 0 ∨ extraMs midnight24 ms = 86400000 := by
  rw [extraMs]
  split
  · exact .inr rfl
  · exact .inl rfl

theorem extraMs_sub (ms other : Int) :
    extraMs midnight24 (ms - extraMs midnight24 other) = extraMs midnight24 ms := by
  obtain hnone | hday := extraMs_cases midnight24 other
  · rw [hnone, Int.sub_zero]
  · have hmod : (ms - 86400000) % 86400000 = ms % 86400000 := by omega
    rw [hday, extraMs, extraMs, hmod]

end

theorem wallTime_parts (o : UtcOffset) (midnight24 : Bool) (t : Instant) :
    wallTime (o.parts midnight24 t) = shownMs midnight24 (o.localMs t) := by
  rw [wallTime, UtcOffset.parts, shownMs, extraMs]
  dsimp only
  rw [daysOfCivil_civilOfDays]
  generalize o.localMs t = ms
  change (_ : Int) = _
  by_cases hmidnight : midnight24 = true ∧ ms % 86400000 < 3600000
  · have hfirst := hmidnight.2
    rw [if_pos hmidnight, if_pos ⟨hmidnight.1, by omega⟩]
    omega
  · have hhour : ¬ (midnight24 = true ∧ ms % 86400000 / 3600000 = 0) :=
      fun hshown => hmidnight ⟨hshown.1, by omega⟩
    rw [if_neg hmidnight, if_neg hhour]
    omega

theorem wallTime_day (o : UtcOffset) (midnight24 : Bool) (t : Instant) (hour minute : Int) :
    wallTime { o.parts midnight24 t with hour := hour, minute := minute, second := 0 } =
      o.localMs t / 86400000 * 86400000 + (hour * 3600 + minute * 60) * 1000 := by
  rw [wallTime, UtcOffset.parts]
  dsimp only
  rw [daysOfCivil_civilOfDays, Int.add_zero]

section Guess
variable {offsetOf : String → Option UtcOffset} {timeZone : String} {o : UtcOffset}
  {midnight24 : Bool} {wanted : Int}

theorem correctGuess_succ (ho : offsetOf timeZone = some o) (n : Nat) (guess : Int) :
    correctGuess (fixedIntl offsetOf midnight24) timeZone wanted (n + 1) guess =
      if wanted - shownMs midnight24 (o.localMs guess) = 0 then some guess
      else correctGuess (fixedIntl offsetOf midnight24) timeZone wanted n
        (guess + (wanted - shownMs midnight24 (o.localMs guess))) := by
  have hparts : (fixedIntl offsetOf midnight24).zonedParts guess timeZone =
      some (o.parts midnight24 guess) := by
    change (offsetOf timeZone).map _ = _
    rw [ho]
    rfl
  rw [correctGuess, hparts]
  dsimp only
  rw [wallTime_parts]

theorem shown_guess (o : UtcOffset) (midnight24 : Bool) (hwhole : wanted % 1000 = 0) (ms : Int) :
    shownMs midnight24 (o.localMs (wanted - o.seconds * 1000 - extraMs midnight24 ms)) =
      wanted - extraMs midnight24 ms + extraMs midnight24 wanted := by
  have hlocal : o.localMs (wanted - o.seconds * 1000 - extraMs midnight24 ms) =
      wanted - extraMs midnight24 ms := by
    rw [UtcOffset.localMs]
    omega
  have hextra := extraMs_cases midnight24 ms
  rw [hlocal, shownMs, extraMs_sub]
  omega

theorem correctGuess_settles (ho : offsetOf timeZone = some o) (hwhole : wanted % 1000 = 0) :
    correctGuess (fixedIntl offsetOf midnight24) timeZone wanted 3 wanted =
      some (wanted - o.seconds * 1000 - extraMs midnight24 wanted) := by
  have hbound := o.bound
  obtain ⟨first, hfirst⟩ : ∃ first, first = extraMs midnight24 (wanted + o.seconds * 1000) :=
    ⟨_, rfl⟩
  have hcases := extraMs_cases midnight24 (wanted + o.seconds * 1000)
  rw [← hfirst] at hcases
  -- the first round meets the offset, and the extra day where the guess itself shows the hour 24
  have hshown : shownMs midnight24 (o.localMs wanted) = wanted + o.seconds * 1000 + first := by
    rw [shownMs, UtcOffset.localMs, hfirst]
    omega
  have hguess : wanted + (wanted - (wanted + o.seconds * 1000 + first)) =
      wanted - o.seconds * 1000 - first := by omega
  rw [correctGuess_succ ho, hshown]
  split
  · next hsame =>
    have hzero : o.seconds = 0 ∧ first = 0 := by
      replace hsame : wanted - (wanted + o.seconds * 1000 + first) = (0 : Int) := hsame
      omega
    have hwanted : extraMs midnight24 wanted = 0 := by
      rw [hzero.1, hzero.2, Int.zero_mul, Int.add_zero] at hfirst
      exact hfirst.symm
    rw [hwanted, hzero.1, Int.zero_mul, Int.sub_zero, Int.sub_zero]
  · rw [hguess, correctGuess_succ ho, hfirst, shown_guess o midnight24 hwhole, ← hfirst]
    split
    · next hsame =>
      have heq : first = extraMs midnight24 wanted := by
        replace hsame : wanted - (wanted - first + extraMs midnight24 wanted) = (0 : Int) := hsame
        omega
      rw [heq]
    · have hnext : wanted - o.seconds * 1000 - first +
          (wanted - (wanted - first + extraMs midnight24 wanted)) =
            wanted - o.seconds * 1000 - extraMs midnight24 wanted := by omega
      rw [hnext, correctGuess_succ ho, shown_guess o midnight24 hwhole, if_pos (by omega)]

end Guess

namespace ResetPhrase
variable {phrase : ResetPhrase} {offsetOf : String → Option UtcOffset} {o : UtcOffset}
  {midnight24 : Bool}

def instantOn (phrase : ResetPhrase) (o : UtcOffset) (midnight24 : Bool) (day : Int) : Int :=
  day * 86400000 + phrase.msOfDay - o.seconds * 1000 - extraMs midnight24 phrase.msOfDay

/-- The instant found for an instant: the announced time of its day, or else that of the day that
the zone shows of the next midnight of UTC, which in a zone behind UTC is the same day. -/
def found (phrase : ResetPhrase) (o : UtcOffset) (midnight24 : Bool) (t : Int) : Int :=
  let today := o.localMs t / 86400000
  let tomorrow := if 0 ≤ o.seconds then today + 1 else today
  if t < phrase.instantOn o midnight24 today then phrase.instantOn o midnight24 today
  else phrase.instantOn o midnight24 tomorrow

theorem zonedWallTimeToUtc_eq (ho : offsetOf phrase.timeZone = some o) (t : Instant) :
    zonedWallTimeToUtc (fixedIntl offsetOf midnight24) phrase.timeZone
        { o.parts midnight24 t with hour := phrase.hour24, minute := phrase.minute, second := 0 } =
      some (phrase.instantOn o midnight24 (o.localMs t / 86400000)) := by
  have hwhole : (o.localMs t / 86400000 * 86400000 + phrase.msOfDay) % 1000 = 0 := by
    rw [msOfDay]
    omega
  have hmod : (o.localMs t / 86400000 * 86400000 + phrase.msOfDay) % 86400000 =
      phrase.msOfDay % 86400000 := by omega
  have hextra : extraMs midnight24 (o.localMs t / 86400000 * 86400000 + phrase.msOfDay) =
      extraMs midnight24 phrase.msOfDay := by
    rw [extraMs, extraMs, hmod]
  rw [zonedWallTimeToUtc, wallTime_day]
  change correctGuess _ _ (o.localMs t / 86400000 * 86400000 + phrase.msOfDay) 3
    (o.localMs t / 86400000 * 86400000 + phrase.msOfDay) = _
  rw [correctGuess_settles ho hwhole, hextra]
  rfl

theorem localMs_tomorrow (o : UtcOffset) (day : Int) :
    o.localMs ((day + 1) * 86400000) / 86400000 = if 0 ≤ o.seconds then day + 1 else day := by
  have hbound := o.bound
  rw [UtcOffset.localMs]
  split <;> omega

theorem nextResetAt_eq (ho : offsetOf phrase.timeZone = some o) (t : Instant) :
    nextResetAt (fixedIntl offsetOf midnight24) t phrase.timeZone phrase.hour24 phrase.minute =
      some (phrase.found o midnight24 t) := by
  have hparts (u : Instant) : (fixedIntl offsetOf midnight24).zonedParts u phrase.timeZone =
      some (o.parts midnight24 u) := by
    change (offsetOf phrase.timeZone).map _ = _
    rw [ho]
    rfl
  have htomorrow : daysOfCivil (o.parts midnight24 t).year (o.parts midnight24 t).month
      ((o.parts midnight24 t).day + 1) = o.localMs t / 86400000 + 1 := by
    rw [daysOfCivil_add]
    exact congrArg (· + 1) (daysOfCivil_civilOfDays _)
  rw [nextResetAt, hparts, Option.bind_eq_bind, Option.bind_some]
  dsimp only
  rw [zonedWallTimeToUtc_eq ho]
  rw [found]
  dsimp only
  split
  · rfl
  · rw [htomorrow, hparts]
    dsimp only
    rw [zonedWallTimeToUtc_eq ho, localMs_tomorrow]

theorem extraMs_msOfDay (hhour : 0 ≤ phrase.hour24 ∧ phrase.hour24 ≤ 23)
    (hminute : 0 ≤ phrase.minute ∧ phrase.minute ≤ 59) : extraMs midnight24 phrase.msOfDay =
      if midnight24 = true ∧ phrase.hour24 = 0 then 86400000 else 0 := by
  have hfirst : phrase.msOfDay % 86400000 < 3600000 ↔ phrase.hour24 = 0 := by
    rw [msOfDay]
    omega
  rw [extraMs]
  simp only [hfirst]

theorem next_iff (hhour : 0 ≤ phrase.hour24 ∧ phrase.hour24 ≤ 23)
    (hminute : 0 ≤ phrase.minute ∧ phrase.minute ≤ 59) (t : Int) :
    phrase.Next o t (phrase.found o midnight24 t) ↔ phrase.Foreseen o midnight24 t := by
  have hextra : extraMs midnight24 phrase.msOfDay =
      if midnight24 = true ∧ phrase.hour24 = 0 then 86400000 else 0 :=
    extraMs_msOfDay hhour hminute
  have hms : 0 ≤ phrase.msOfDay ∧ phrase.msOfDay < 86400000 := by
    rw [msOfDay]
    omega
  have hbound := o.bound
  have hnext (resetAt : Int) : phrase.Next o t resetAt ↔ t < resetAt ∧
      resetAt ≤ t + 86400000 ∧ o.localMs resetAt % 86400000 = phrase.msOfDay :=
    ⟨fun h => ⟨h.after, h.within, h.wallTime⟩, fun h => ⟨h.1, h.2.1, h.2.2⟩⟩
  rw [hnext, found, Foreseen]
  by_cases hmidnight : midnight24 = true ∧ phrase.hour24 = 0
  · have hfirst : phrase.msOfDay < 3600000 := by
      rw [msOfDay, hmidnight.2]
      omega
    rw [if_pos hmidnight] at hextra
    rw [if_pos hmidnight]
    simp only [instantOn, hextra, LaterToday, UtcOffset.localMs]
    generalize phrase.msOfDay = ms at *
    generalize o.seconds = seconds at *
    clear hextra hmidnight hnext
    by_cases hahead : 0 ≤ seconds
    · simp only [hahead, if_true, and_true]
      split <;> omega
    · simp only [hahead, if_false, and_false, iff_false]
      split <;> omega
  · rw [if_neg hmidnight] at hextra
    rw [if_neg hmidnight]
    simp only [instantOn, hextra, LaterToday, UtcOffset.localMs]
    generalize phrase.msOfDay = ms at *
    generalize o.seconds = seconds at *
    clear hextra hmidnight hnext
    by_cases hahead : 0 ≤ seconds
    · simp only [hahead, if_true, or_true, iff_true]
      split <;> omega
    · simp only [hahead, if_false, or_false]
      split <;> omega

end ResetPhrase

/-- The reset time of a valid phrase is the next time the clocks of its zone show what it announces
if and only if that is foreseen. -/
theorem resetAt_next_iff (offsetOf : String → Option UtcOffset) (midnight24 : Bool) (text : String)
    (classifiedAt : Instant) (phrase : ResetPhrase) (o : UtcOffset)
    (h : resetPhrase text = some phrase) (ho : offsetOf phrase.timeZone = some o) :
    (∃ limit resetAt, parseClaudeSessionLimit (fixedIntl offsetOf midnight24) text classifiedAt =
        some limit ∧ limit.resetAt = some resetAt ∧ phrase.Next o classifiedAt resetAt) ↔
      phrase.Foreseen o midnight24 classifiedAt := by
  obtain ⟨⟨hlow, hhigh, hfirst, hlast⟩, label, hparse⟩ :=
    resetPhrase_cases h (fixedIntl offsetOf midnight24) classifiedAt
  rw [← ResetPhrase.next_iff ⟨hlow, hhigh⟩ ⟨hfirst, hlast⟩]
  rw [hparse, ResetPhrase.nextResetAt_eq ho]
  constructor
  · rintro ⟨limit, resetAt, hlimit, hreset, hnext⟩
    rw [← Option.some.inj hlimit] at hreset
    rw [← Option.some.inj hreset] at hnext
    exact hnext
  · intro hnext
    exact ⟨_, _, rfl, rfl, hnext⟩

def chicagoLimit : String := "You've hit your session limit · resets 7:30pm (America/Chicago)"

def winterTime : UtcOffset := ⟨-21600, by decide⟩

def chicagoPhrase : ResetPhrase := ⟨19, 30, "America/Chicago"⟩

/-- At one in the afternoon the phrase is about the same day. -/
theorem afternoon_next :
    ∃ limit resetAt, parseClaudeSessionLimit (fixedIntl (fun _ => some winterTime) false)
      chicagoLimit 1767207600000 = some limit ∧ limit.resetAt = some resetAt ∧
        chicagoPhrase.Next winterTime 1767207600000 resetAt :=
  (resetAt_next_iff (fun _ => some winterTime) false chicagoLimit 1767207600000 chicagoPhrase
    winterTime (by decide +kernel) rfl).mpr (.inl (by decide))

/-- At eight in the evening the reset is half an hour ago. -/
theorem evening_not_next :
    ¬ ∃ limit resetAt, parseClaudeSessionLimit (fixedIntl (fun _ => some winterTime) false)
      chicagoLimit 1767232800000 = some limit ∧ limit.resetAt = some resetAt ∧
        chicagoPhrase.Next winterTime 1767232800000 resetAt := by
  rintro ⟨limit, resetAt, hparse, hreset, hnext⟩
  have hpast : (parseClaudeSessionLimit (fixedIntl (fun _ => some winterTime) false)
      chicagoLimit 1767232800000).bind (·.resetAt) = some 1767231000000 := by decide +kernel
  rw [hparse, Option.bind_some, hreset] at hpast
  have hafter := hnext.after
  rw [Option.some.inj hpast] at hafter
  revert hafter
  decide

end IdAgents
