import IdAgents.Recurrences.Types

namespace IdAgents.Recurrences
open JsText

inductive Freq where
  | daily | weekly | monthly | yearly
deriving DecidableEq, Repr

inductive Weekday where
  | mo | tu | we | th | fr | sa | su
deriving DecidableEq, Repr

structure ParsedRrule where
  freq : Freq
  interval : Nat
  byday : Option (List Weekday)
  until_ : Option String
  count : Option Nat
deriving DecidableEq, Repr

def supportedFreq : List (String × Freq) :=
  [("DAILY", .daily), ("WEEKLY", .weekly), ("MONTHLY", .monthly), ("YEARLY", .yearly)]

def weekdayValues : List (String × Weekday) :=
  [("MO", .mo), ("TU", .tu), ("WE", .we), ("TH", .th), ("FR", .fr), ("SA", .sa), ("SU", .su)]

def maxExpansionInstances : Nat := 1000

/-- `parts[key]`: the last segment that gives it. -/
abbrev Parts := List (String × String)

def Parts.get? (parts : Parts) (key : String) : Option String :=
  (parts.reverse.find? (·.1 = key)).map Prod.snd

/-- `parts[key]` where it is given and not empty. -/
def Parts.given? (parts : Parts) (key : String) : Option String :=
  (parts.get? key).filter (· ≠ "")

def parseSegment (piece : List Char) : Except String (String × String) :=
  match splitChars '=' piece with
  | k :: v :: _ =>
    if k = [] then .error ("malformed RRULE segment: " ++ String.ofList piece)
    else .ok (toUpperCase (trim (String.ofList k)), trim (String.ofList v))
  | _ => .error ("malformed RRULE segment: " ++ String.ofList piece)

def parsePositive (label : String) (text : String) : Except String Nat :=
  match parseInt text with
  | some n =>
    if n < 1 then .error ("invalid " ++ label ++ " in RRULE: " ++ text) else .ok n.toNat
  | none => .error ("invalid " ++ label ++ " in RRULE: " ++ text)

def parseWeekday (d : String) : Except String Weekday :=
  match weekdayValues.find? (·.1 = d) with
  | some wd => .ok wd.2
  | none => .error ("invalid BYDAY value: " ++ d)

def parseRrule (input : String) : Except String ParsedRrule := do
  let raw := trim input
  let body :=
    if (toUpperCase raw).startsWith "RRULE:" then raw.toList.drop 6 else raw.toList
  if ¬ '=' ∈ body then
    throw ("RRULE missing key=value pairs: " ++ input)
  let parts : Parts ← (splitChars ';' body).mapM parseSegment
  let some freq := parts.given? "FREQ" | throw ("RRULE missing FREQ: " ++ input)
  let some f := supportedFreq.find? (·.1 = freq) | throw ("unsupported FREQ in RRULE: " ++ freq)
  let interval ← match parts.given? "INTERVAL" with
    | some text => parsePositive "INTERVAL" text
    | none => pure 1
  let byday ← match parts.given? "BYDAY" with
    | some text => some <$> (splitChars ',' text.toList).mapM fun d =>
        parseWeekday (toUpperCase (trim (String.ofList d)))
    | none => pure none
  let count ← match parts.given? "COUNT" with
    | some text => some <$> parsePositive "COUNT" text
    | none => pure none
  return { freq := f.2, interval, byday, until_ := parts.get? "UNTIL", count }

def defaultHorizonForRrule (rrule : String) : Except String Rat := do
  let parsed ← parseRrule rrule
  match parsed.freq with
  | .daily => return 2
  | .weekly => return if parsed.interval = 2 then 14 else 7
  | .monthly => return 30
  | .yearly => return 45

structure WallClock where
  y : Int
  m : Int
  d : Int
  h : Int
  mi : Int
  s : Int
deriving DecidableEq, Repr

/-- What `Intl.DateTimeFormat` shows of an instant in a time zone, where the zone and the instant
are ones it knows: the parts in en-US and the date in en-CA. -/
structure Intl where
  parts : String → Instant → Option WallClock
  date : String → Instant → Option String

variable (c : WallClock)

/-- `Date.UTC(y, m - 1, d, h, mi, s)`, where it is a valid date. -/
def dateUtc : Option Instant :=
  let year := (if 0 ≤ c.y ∧ c.y ≤ 99 then 1900 + c.y else c.y) + (c.m - 1) / 12
  let day := daysOfCivil year ((c.m - 1) % 12 + 1) 1 + (c.d - 1)
  timeClip (day * 86400000 + c.h * 3600000 + c.mi * 60000 + c.s * 1000)

def utcClock (ms : Instant) : WallClock :=
  let (y, m, d) := civilOfDays (ms / 86400000)
  let t := ms % 86400000
  { y, m, d, h := t / 3600000, mi := t / 60000 % 60, s := t / 1000 % 60 }

def parseStartsOn (input : String) : Except String WallClock :=
  let unparseable := Except.error ("unparseable starts_on: " ++ input)
  match takeDigits 4 input.toList with
  | some (y, '-' :: rest) =>
    match takeDigits 2 rest with
    | some (m, '-' :: rest) =>
      match takeDigits 2 rest with
      | some (d, 'T' :: rest) =>
        match takeDigits 2 rest with
        | some (h, ':' :: rest) =>
          match takeDigits 2 rest with
          | some (mi, ':' :: rest) =>
            match takeDigits 2 rest with
            | some (s, _) => .ok { y, m, d, h, mi, s }
            | none => .ok { y, m, d, h, mi, s := 0 }
          | some (mi, _) => .ok { y, m, d, h, mi, s := 0 }
          | none => .ok { y, m, d, h := 0, mi := 0, s := 0 }
        | _ => .ok { y, m, d, h := 0, mi := 0, s := 0 }
      | some (d, _) => .ok { y, m, d, h := 0, mi := 0, s := 0 }
      | none => unparseable
    | _ => unparseable
  | _ => unparseable

/-- The clock `n` days later; like the next two it is none where `Date` has no such date. -/
def addDays (n : Int) : Option WallClock := do
  let ms ← dateUtc c
  let ms ← timeClip (ms + n * 86400000)
  return utcClock ms

def addMonths (n : Int) : Option WallClock := do
  -- the two loops carry whole years out of the month
  let year := c.y + (c.m + n - 1) / 12
  let month := (c.m + n - 1) % 12 + 1
  let last ← dateUtc { y := year, m := month + 1, d := 0, h := 0, mi := 0, s := 0 }
  return { c with y := year, m := month, d := min c.d (utcClock last).d }

def addYears (n : Int) : Option WallClock := addMonths c (n * 12)

def weekdayIndex : Weekday → Int
  | .mo => 0 | .tu => 1 | .we => 2 | .th => 3 | .fr => 4 | .sa => 5 | .su => 6

def weekdayOf : Option Weekday := do
  let ms ← dateUtc { c with h := 0, mi := 0, s := 0 }
  -- the epoch was a Thursday
  match (ms / 86400000 + 3) % 7 with
  | 0 => some .mo | 1 => some .tu | 2 => some .we | 3 => some .th | 4 => some .fr | 5 => some .sa
  | _ => some .su

def startOfWeekMonday : Option WallClock := do
  let wd ← weekdayOf c
  addDays c (-weekdayIndex wd)

/-- `compareWallClock(a, b) < 0`; no date is before another where one is none. -/
def beforeWallClock (a b : WallClock) : Bool :=
  match dateUtc a, dateUtc b with
  | some am, some bm => am < bm
  | _, _ => false

variable (intl : Intl)

def tzOffsetMinutes (utcMillis : Instant) (timezone : String) : Except String Int :=
  match intl.parts timezone utcMillis with
  | none => .error "RangeError"
  | some parts =>
    match dateUtc { parts with h := if parts.h = 24 then 0 else parts.h } with
    | none => .error "RangeError"
    | some localMs => .ok ((2 * (localMs - utcMillis) + 60000) / 120000)

def wallClockToUtcMillis (c : WallClock) (timezone : String) : Except String Instant := do
  let some guess := dateUtc c | throw "RangeError"
  if timezone = "UTC" then
    return guess
  let offsetMin ← tzOffsetMinutes intl guess timezone
  let adjusted := guess - offsetMin * 60 * 1000
  let offsetMin2 ← tzOffsetMinutes intl adjusted timezone
  if offsetMin2 ≠ offsetMin then
    return guess - offsetMin2 * 60 * 1000
  return adjusted

def isoDateKeyForUtcInTz (utcMillis : Instant) (timezone : String) : Except String String :=
  match intl.date timezone utcMillis with
  | none => .error "RangeError"
  | some date => .ok date

def parseUntilToUtcMillis (text : String) : Except String Instant :=
  let unparseable := Except.error ("unparseable UNTIL: " ++ text)
  let clock : Option WallClock := do
    let (y, rest) ← takeDigits 4 text.toList
    let (m, rest) ← takeDigits 2 rest
    let (d, rest) ← takeDigits 2 rest
    match rest with
    | [] => return { y, m, d, h := 23, mi := 59, s := 59 }
    | 'T' :: rest =>
      let (h, rest) ← takeDigits 2 rest
      let (mi, rest) ← takeDigits 2 rest
      let (s, rest) ← takeDigits 2 rest
      if rest = ['Z'] then some { y, m, d, h, mi, s } else none
    | _ => none
  match clock.bind dateUtc with
  | some ms => .ok ms
  | none => unparseable

/-- `toISOString` without the milliseconds. -/
def isoUtcString (ms : Instant) : String :=
  String.ofList ((toISOString ms).toList.dropLast.dropLast.dropLast.dropLast.dropLast ++ ['Z'])

structure ExpandRruleArgs where
  rrule : String
  startsOn : String
  timezone : String
  exceptionDates : List String
  windowStartMs : Instant
  windowEndMs : Instant

inductive Emit where
  | stop | continue_
deriving DecidableEq

/-- The variables `tryEmit` works on. -/
structure Expansion where
  out : List String := []
  emitted : Nat := 0
  count : Nat := 0

section
variable (intl : Intl) (args : ExpandRruleArgs) (parsed : ParsedRrule)
  (untilUtcMillis : Option Instant)

def tryEmit (e : Expansion) (when_ : Option WallClock) : Except String (Expansion × Emit) := do
  let e := { e with count := e.count + 1 }
  if parsed.count.any (· < e.count) then
    return (e, .stop)
  -- a clock that is no date passes every comparison and is refused by the formatter
  let some when_ := when_ | throw "RangeError"
  let ms ← wallClockToUtcMillis intl when_ args.timezone
  if untilUtcMillis.any (· < ms) then
    return (e, .stop)
  if args.windowEndMs ≤ ms then
    return (e, .stop)
  if ms < args.windowStartMs then
    return (e, .continue_)
  let dateKey ← isoDateKeyForUtcInTz intl ms args.timezone
  if dateKey ∈ args.exceptionDates then
    return (e, .continue_)
  let e := { e with out := e.out ++ [isoUtcString ms], emitted := e.emitted + 1 }
  if maxExpansionInstances ≤ e.emitted then
    return (e, .stop)
  return (e, .continue_)

/-- The DAILY, MONTHLY and YEARLY loops, `advance` being what moves the cursor. -/
def expandCursor (advance : WallClock → Option WallClock) :
    Nat → Option WallClock → Expansion → Except String Expansion
  | 0, _, e => .ok e
  | n + 1, cursor, e => do
    let (e, r) ← tryEmit intl args parsed untilUtcMillis e cursor
    if r = .stop then
      return e
    expandCursor advance n (cursor.bind advance) e

def expandWeek (starts : WallClock) (weekAnchor : Option WallClock) :
    List Weekday → Expansion → Except String (Expansion × Emit)
  | [], e => .ok (e, .continue_)
  | wd :: days, e => do
    let fire := weekAnchor.bind (addDays · (weekdayIndex wd))
    if fire.any (beforeWallClock · starts) then
      expandWeek starts weekAnchor days e
    else
      let (e, r) ← tryEmit intl args parsed untilUtcMillis e fire
      if r = .stop then
        return (e, .stop)
      expandWeek starts weekAnchor days e

def expandWeeks (starts : WallClock) (bydays : List Weekday) :
    Nat → Option WallClock → Expansion → Except String Expansion
  | 0, _, e => .ok e
  | n + 1, weekAnchor, e => do
    let sortedDays := bydays.mergeSort fun a b => weekdayIndex a ≤ weekdayIndex b
    let (e, r) ← expandWeek intl args parsed untilUtcMillis starts weekAnchor sortedDays e
    if r = .stop then
      return e
    expandWeeks starts bydays n (weekAnchor.bind (addDays · (7 * parsed.interval))) e

end

def parseUntil (parsed : ParsedRrule) : Except String (Option Instant) :=
  match parsed.until_.filter (· ≠ "") with
  | some text => some <$> parseUntilToUtcMillis text
  | none => pure none

def expandFreq (args : ExpandRruleArgs) (parsed : ParsedRrule)
    (untilUtcMillis : Option Instant) (starts : WallClock) : Except String Expansion :=
  let cap := maxExpansionInstances
  match parsed.freq with
  | .daily =>
    expandCursor intl args parsed untilUtcMillis (addDays · parsed.interval)
      (cap * parsed.interval + 1) (some starts) {}
  | .weekly =>
    let bydays := parsed.byday.getD (weekdayOf starts).toList
    expandWeeks intl args parsed untilUtcMillis starts bydays (cap * parsed.interval + 1)
      (startOfWeekMonday starts) {}
  | .monthly =>
    expandCursor intl args parsed untilUtcMillis (addMonths · parsed.interval) cap (some starts) {}
  | .yearly =>
    expandCursor intl args parsed untilUtcMillis (addYears · parsed.interval) cap (some starts) {}

def expandRrule (args : ExpandRruleArgs) : Except String (List String) := do
  let parsed ← parseRrule args.rrule
  let starts ← parseStartsOn args.startsOn
  let _startsUtc ← wallClockToUtcMillis intl starts args.timezone
  let untilUtcMillis ← parseUntil parsed
  let e ← expandFreq intl args parsed untilUtcMillis starts
  return e.out

end IdAgents.Recurrences
