import Mathlib.Algebra.Group.Int.Defs
import Mathlib.Algebra.Group.Nat.Defs
import Mathlib.Data.List.Basic

namespace JsText
open List

/-- The characters `String.prototype.trim` removes: white space and line terminators. -/
def isSpace (c : Char) : Bool :=
  c = '\t' || c = '\n' || c = '\x0b' || c = '\x0c' || c = '\r' || c = ' ' || c = '\u00a0' ||
  c = '\u1680' || ('\u2000' ≤ c && c ≤ '\u200a') || c = '\u2028' || c = '\u2029' ||
  c = '\u202f' || c = '\u205f' || c = '\u3000' || c = '\ufeff'
section
variable (cs : List Char)

def trimChars : List Char :=
  ((cs.dropWhile isSpace).reverse.dropWhile isSpace).reverse

/-- `s.trim()` -/
def trim (s : String) : String := String.ofList (trimChars s.toList)

/-- Whether `needle` stands somewhere in the text, as `text.includes(needle)`. -/
def containsChars (needle : List Char) : List Char → Bool
  | [] => needle.isPrefixOf []
  | c :: cs => needle.isPrefixOf (c :: cs) || containsChars needle cs

def includes (text needle : String) : Bool := containsChars needle.toList text.toList

/-- The lower case of a character as far as ASCII text can tell: beside the ASCII capitals only the
Kelvin sign and the dotted capital I have an ASCII character in theirs. -/
def lowerChar (c : Char) : List Char :=
  if c = '\u212a' then ['k'] else if c = '\u0130' then ['i', '\u0307'] else [c.toLower]

/-- `s.toLowerCase()` -/
def toLowerCase (s : String) : String := String.ofList (s.toList.flatMap lowerChar)

/-- The upper case of a character, as far as ASCII text can tell: beside the ASCII letters these are
the characters with an ASCII letter in theirs. -/
def upperChar (c : Char) : List Char :=
  match c with
  | 'ß' => ['S', 'S'] | 'ı' => ['I'] | 'ŉ' => ['ʼ', 'N'] | 'ſ' => ['S'] | 'ǰ' => ['J', '\u030c']
  | 'ẖ' => ['H', '\u0331'] | 'ẗ' => ['T', '\u0308'] | 'ẘ' => ['W', '\u030a']
  | 'ẙ' => ['Y', '\u030a'] | 'ẚ' => ['A', 'ʾ'] | 'ﬀ' => ['F', 'F'] | 'ﬁ' => ['F', 'I']
  | 'ﬂ' => ['F', 'L'] | 'ﬃ' => ['F', 'F', 'I'] | 'ﬄ' => ['F', 'F', 'L'] | 'ﬅ' => ['S', 'T']
  | 'ﬆ' => ['S', 'T'] | c => [c.toUpper]

/-- `s.toUpperCase()` -/
def toUpperCase (s : String) : String := String.ofList (s.toList.flatMap upperChar)

/-- The split of a text at every occurrence of one character. -/
def splitChars (sep : Char) : List Char → List (List Char)
  | [] => [[]]
  | c :: cs =>
    if c = sep then [] :: splitChars sep cs
    else match splitChars sep cs with
      | [] => [[c]]
      | w :: ws => (c :: w) :: ws

/-- `s.split(sep)` -/
def split (sep : Char) (s : String) : List String := (splitChars sep s.toList).map String.ofList

/-- What stands before the first separator of a text, and what follows it, can be read back. -/
theorem segment_inj (hs : sep ∉ s) (hs' : sep ∉ s')
    (h : s ++ sep :: t = s' ++ sep :: t') : s = s' ∧ t = t' := by
  induction s generalizing s' with
  | nil =>
    cases s' with
    | nil => exact ⟨rfl, (List.cons.inj h).2⟩
    | cons c s' =>
      obtain ⟨rfl, _⟩ := List.cons.inj h
      exact absurd mem_cons_self hs'
  | cons c s ih =>
    cases s' with
    | nil =>
      obtain ⟨rfl, _⟩ := List.cons.inj h
      exact absurd mem_cons_self hs
    | cons c' s' =>
      obtain ⟨rfl, htail⟩ := List.cons.inj h
      obtain ⟨rfl, rfl⟩ := ih (not_mem_of_not_mem_cons hs) (not_mem_of_not_mem_cons hs')
        htail
      exact ⟨rfl, rfl⟩

theorem colon_not_mem_toString (n : Nat) : ':' ∉ (toString n).toList := by
  rw [Nat.toString_eq_ofList_toDigits, String.toList_ofList]
  intro h
  have hdigit := Nat.isDigit_of_mem_toDigits (by decide) (by decide) h
  exact absurd hdigit (by decide)

theorem toString_inj {m n : Nat} (h : toString m = toString n) : m = n := by
  rw [Nat.toString_eq_ofList_toDigits, Nat.toString_eq_ofList_toDigits] at h
  have hdigits := String.ofList_injective h
  rw [← Nat.ofDigitChars_ten_toDigits (n := m), hdigits, Nat.ofDigitChars_ten_toDigits]

/-- The first `n` UTF-16 units; half of a character that takes two cannot be stored. -/
def sliceChars : Nat → List Char → List Char
  | 0, _ | _, [] => []
  | 1, c :: _ => [if c.toNat < 0x10000 then c else '\ufffd']
  | n + 2, c :: cs => c :: sliceChars (if c.toNat < 0x10000 then n + 1 else n) cs

/-- `s.slice(0, n)` -/
def sliceUnits (n : Nat) (s : String) : String := String.ofList (sliceChars n s.toList)

/-- An instant as its milliseconds since the epoch. Instants written by `toISOString` are
compared as text by SQL and by `<`, and that order is the order of the milliseconds. -/
abbrev Instant := Int

def padLeft (n : Nat) (s : String) : String :=
  String.ofList (List.replicate (n - s.length) '0') ++ s

/-- The proleptic Gregorian date of a day counted from the epoch, as year, month and day. -/
def civilOfDays (days : Int) : Int × Int × Int :=
  let z := days + 719468
  let era := z / 146097
  let doe := z % 146097
  let yoe := (doe - doe / 1460 + doe / 36524 - doe / 146096) / 365
  let doy := doe - (365 * yoe + yoe / 4 - yoe / 100)
  let mp := (5 * doy + 2) / 153
  let d := doy - (153 * mp + 2) / 5 + 1
  let m := if mp < 10 then mp + 3 else mp - 9
  (yoe + era * 400 + if m ≤ 2 then 1 else 0, m, d)

/-- The day of a proleptic Gregorian date, counted from the epoch. -/
def daysOfCivil (y m d : Int) : Int :=
  let y := if m ≤ 2 then y - 1 else y
  let doy := (153 * (if m > 2 then m - 3 else m + 9) + 2) / 5 + d - 1
  let yoe := y % 400
  y / 400 * 146097 + (yoe * 365 + yoe / 4 - yoe / 100 + doy) - 719468

example : daysOfCivil 2025 12 31 = 20453 ∧ civilOfDays 20453 = (2025, 12, 31) := by decide +kernel

def isoYear (y : Int) : String :=
  if 0 ≤ y ∧ y ≤ 9999 then padLeft 4 (toString y.toNat)
  else (if y < 0 then "-" else "+") ++ padLeft 6 (toString y.natAbs)

/-- `new Date(t).toISOString()` -/
def toISOString (t : Instant) : String :=
  let (y, m, d) := civilOfDays (t / 86400000)
  let ms := (t % 86400000).toNat
  isoYear y ++ "-" ++ padLeft 2 (toString m.toNat) ++ "-" ++ padLeft 2 (toString d.toNat) ++ "T" ++
    padLeft 2 (toString (ms / 3600000)) ++ ":" ++ padLeft 2 (toString (ms / 60000 % 60)) ++ ":" ++
    padLeft 2 (toString (ms / 1000 % 60)) ++ "." ++ padLeft 3 (toString (ms % 1000)) ++ "Z"

example : toISOString 1767225599123 = "2025-12-31T23:59:59.123Z" := by decide +kernel

theorem trimChars_head : ∀ c ∈ (cs.dropWhile isSpace).head?, isSpace c = false := by
  intro c hc
  by_contra h
  have := head?_dropWhile_not isSpace cs
  simp_all

theorem trimChars_infix : trimChars cs <:+: cs := by
  have hfront : cs.dropWhile isSpace <:+ cs := dropWhile_suffix isSpace
  have hback : trimChars cs <+: cs.dropWhile isSpace := by
    have hrev := dropWhile_suffix isSpace (l := (cs.dropWhile isSpace).reverse)
    rw [← reverse_prefix, reverse_reverse] at hrev
    exact hrev
  exact hback.isInfix.trans hfront.isInfix

theorem dropWhile_eq_self {p : Char → Bool} {cs : List Char} (h : ∀ c ∈ cs.head?, p c = false) :
    cs.dropWhile p = cs := by
  cases cs with
  | nil => rfl
  | cons c cs => rw [dropWhile_cons_of_neg (by simp [h c rfl])]

theorem trimChars_trimChars : trimChars (trimChars cs) = trimChars cs := by
  have hlast : ∀ c ∈ (trimChars cs).reverse.head?, isSpace c = false := by
    rw [trimChars, reverse_reverse]
    exact trimChars_head _
  have hfirst : ∀ c ∈ (trimChars cs).head?, isSpace c = false := by
    have hprefix : trimChars cs <+: cs.dropWhile isSpace := by
      have hrev := dropWhile_suffix isSpace (l := (cs.dropWhile isSpace).reverse)
      rw [← reverse_prefix, reverse_reverse] at hrev
      exact hrev
    intro c hc
    cases htrim : trimChars cs with
    | nil =>
      rw [htrim] at hc
      cases hc
    | cons d ds =>
      obtain ⟨rest, hrest⟩ := hprefix
      rw [htrim] at hc hrest
      apply trimChars_head cs c
      rw [← hrest]
      exact hc
  rw [trimChars, dropWhile_eq_self hfirst, dropWhile_eq_self hlast, reverse_reverse]

theorem trim_trim (s : String) : trim (trim s) = trim s := by
  simp only [trim, String.toList_ofList, trimChars_trimChars]

/-- `text.replace(/\s+/g, " ")` -/
def collapseSpaces : List Char → List Char
  | [] => []
  | c :: cs =>
    if isSpace c then
      if cs.head?.any isSpace then collapseSpaces cs else ' ' :: collapseSpaces cs
    else c :: collapseSpaces cs

/-- The double nearest to a whole number, ties to even. -/
def roundDouble (n : Int) : Int :=
  let size := Nat.log2 n.natAbs
  if size < 53 then n
  else
    let unit := 2 ^ (size - 52)
    let low := n.natAbs / unit
    let rest := n.natAbs % unit
    let up := if unit < 2 * rest ∨ unit = 2 * rest ∧ low % 2 = 1 then 1 else 0
    n.sign * ((low + up) * unit)

/-- `n >>> 0` -/
def toUint32 (n : Int) : Nat := (n % 4294967296).toNat

/-- `n | 0` of an unsigned number, which is what the bitwise operators answer. -/
def toInt32 (n : Nat) : Int := if n < 2147483648 then n else n - 4294967296

/-- The UTF-16 units of a character. -/
def codeUnits (c : Char) : List Nat :=
  if c.toNat < 0x10000 then [c.toNat]
  else [0xd800 + (c.toNat - 0x10000) / 0x400, 0xdc00 + (c.toNat - 0x10000) % 0x400]

/-- `n.toString(16)` -/
def toHex (n : Nat) : String := String.ofList (Nat.toDigits 16 n)

def digitsPrefix : List Char := cs.takeWhile Char.isDigit

def ofDigits : Nat := cs.foldl (fun n c => 10 * n + (c.toNat - 48)) 0

end

/-- `parseInt(s, 10)`, where it is a finite number. -/
def parseInt (s : String) : Option Int :=
  let cs := s.toList.dropWhile isSpace
  let (sign, body) : Int × List Char :=
    match cs with
    | '-' :: rest => (-1, rest)
    | '+' :: rest => (1, rest)
    | rest => (1, rest)
  let n := roundDouble (ofDigits (digitsPrefix body))
  if digitsPrefix body = [] ∨ 2 ^ 1024 ≤ n then none else some (sign * n)

example : parseInt " +14 days" = some 14 ∧ parseInt "x" = none ∧
    roundDouble (2 ^ 53 + 3) = 2 ^ 53 + 4 := by decide +kernel

/-- `n` decimal digits, and what follows them. -/
def takeDigits (n : Nat) (cs : List Char) : Option (Int × List Char) :=
  let digits := digitsPrefix (cs.take n)
  if digits.length = n then some (ofDigits digits, cs.drop n) else none

/-- `new Date(ms)`, where it is a valid date. -/
def timeClip (ms : Int) : Option Instant := if ms.natAbs ≤ 8640000000000000 then some ms else none

end JsText
