import Mathlib.Data.List.Basic

namespace JsRegex

/-- The constructs of the regular expressions in use; `many` is the greedy `*`. -/
inductive Regex where
  | empty
  | one (p : Char → Bool)
  | seq (r s : Regex)
  | alt (r s : Regex)
  | many (r : Regex)
  | wordBoundary
  | group (n : Nat) (r : Regex)

/-- A place in a text, with the groups captured on the way to it. -/
structure Place where
  before : List Char
  after : List Char
  groups : List (Nat × List Char) := []

def isWord (c : Char) : Bool := c.isAlphanum || c = '_'

def Place.atWordBoundary (p : Place) : Bool := p.before.head?.any isWord != p.after.head?.any isWord

/-- The ends of a repetition, longest first: a round that consumes nothing ends it. -/
def repeatEnds (step : Place → List Place) : Nat → Place → List Place
  | 0, p => [p]
  | n + 1, p =>
    ((step p).filter fun q => q.after.length < p.after.length).flatMap (repeatEnds step n) ++ [p]

/-- The places where a match that starts at a place can end, in the order a backtracking matcher
tries them. -/
def Regex.ends : Regex → Place → List Place
  | empty, p => [p]
  | one f, p =>
    match p.after with
    | c :: cs => if f c then [{ p with before := c :: p.before, after := cs }] else []
    | [] => []
  | seq r s, p => (r.ends p).flatMap s.ends
  | alt r s, p => r.ends p ++ s.ends p
  | many r, p => repeatEnds r.ends p.after.length p
  | wordBoundary, p => if p.atWordBoundary then [p] else []
  | group n r, p => (r.ends p).map fun q =>
    { q with groups := (n, p.after.take (p.after.length - q.after.length)) :: q.groups }

variable (r : Regex)

def plus : Regex := .seq r (.many r)

def opt : Regex := .alt r .empty

def exactly (n : Nat) (r : Regex) : Regex := (List.replicate n r).foldr .seq .empty

/-- `r{n,}` -/
def atLeast (n : Nat) (r : Regex) : Regex := .seq (exactly n r) (.many r)

/-- `r{0,n}` -/
def atMost : Nat → Regex → Regex
  | 0, _ => .empty
  | n + 1, r => opt (.seq r (atMost n r))

def seqs (rs : List Regex) : Regex := rs.foldr .seq .empty

/-- The alternatives of a list that is not empty. -/
def alts : List Regex → Regex
  | [] => .empty
  | [r] => r
  | r :: s :: rs => .alt r (alts (s :: rs))

def lit (s : String) : Regex := s.toList.foldr (fun c => .seq (.one (· = c))) .empty

/-- The literal under the flag `i`; the literals in use are ASCII. -/
def litI (s : String) : Regex :=
  s.toList.foldr (fun c => .seq (.one fun d => d.toLower = c.toLower)) .empty

def oneOf (s : String) : Regex := .one fun c => s.toList.contains c

/-- The match that starts at a place, if there is one. -/
def Regex.matchAt (p : Place) : Option Place := (r.ends p).head?

/-- The leftmost match: the text of the match and its groups. -/
def Regex.firstMatch (r : Regex) : List Char → List Char → Option (List Char × List (Nat × List Char))
  | before, [] => (r.matchAt ⟨before, [], []⟩).map fun q => ([], q.groups)
  | before, c :: cs =>
    match r.matchAt ⟨before, c :: cs, []⟩ with
    | some q => some ((c :: cs).take ((c :: cs).length - q.after.length), q.groups)
    | none => r.firstMatch (c :: before) cs

variable (text : String)

/-- `r.test(text)` -/
def Regex.test : Bool := (r.firstMatch [] text.toList).isSome

/-- `text.replace(r, by)` under the flag `g`, for an `r` whose matches are not empty: `skip` counts
the characters of the match just replaced that are still to be dropped. -/
def Regex.replaceChars (r : Regex) (by_ : List Char) : Nat → List Char → List Char → List Char
  | _, _, [] => []
  | skip + 1, before, c :: cs => r.replaceChars by_ skip (c :: before) cs
  | 0, before, c :: cs =>
    match r.matchAt ⟨before, c :: cs, []⟩ with
    | some q => by_ ++ r.replaceChars by_ (cs.length - q.after.length) (c :: before) cs
    | none => c :: r.replaceChars by_ 0 (c :: before) cs

def Regex.replaceAll (text by_ : String) : String :=
  String.ofList (r.replaceChars by_.toList 0 [] text.toList)

/-- `text.match(r)` under the flag `g`, for an `r` whose matches are not empty. -/
def Regex.matchChars (r : Regex) : Nat → List Char → List Char → List (List Char)
  | _, _, [] => []
  | skip + 1, before, c :: cs => r.matchChars skip (c :: before) cs
  | 0, before, c :: cs =>
    match r.matchAt ⟨before, c :: cs, []⟩ with
    | some q => (c :: cs).take ((c :: cs).length - q.after.length) ::
        r.matchChars (cs.length - q.after.length) (c :: before) cs
    | none => r.matchChars 0 (c :: before) cs

def Regex.matches_ : List String :=
  (r.matchChars 0 [] text.toList).map String.ofList

/-- The test of `^r`: a match from the start of the text. -/
def Regex.startsText : Bool := !(r.ends ⟨[], text.toList, []⟩).isEmpty

/-- The test of `^r$`: a match of the whole text. -/
def Regex.isWhole : Bool :=
  (r.ends ⟨[], text.toList, []⟩).any (·.after.isEmpty)

example : (Regex.seq (litI "rate") (.seq (opt (oneOf "_ -")) (litI "limit"))).test "a Rate-Limit" := by
  decide +kernel

example : (Regex.seq (lit "sk-") (atLeast 3 (.one isWord))).replaceAll "key sk-abcd end" "[redacted]" =
    "key [redacted] end" := by
  decide +kernel

end JsRegex
