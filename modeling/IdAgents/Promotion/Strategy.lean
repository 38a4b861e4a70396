import IdAgents.Library.Regex
import IdAgents.Library.Text

namespace IdAgents.Promotion
open JsText JsRegex

/-- `/\bword\b/` -/
def wholeWord (word : String) : Regex := .seq .wordBoundary (.seq (lit word) .wordBoundary)

/-- `/([\w./@+-]+\.(?:test|spec)\.[cm]?[jt]sx?)/` -/
def FILE_RE : Regex :=
  .seq (plus (.one fun c => isWord c || "./@+-".toList.contains c)) (.seq (lit ".")
    (.seq (.alt (lit "test") (lit "spec")) (.seq (lit ".") (.seq (opt (oneOf "cm"))
      (.seq (oneOf "jt") (.seq (lit "s") (opt (lit "x"))))))))

def slashes (p : String) : String := String.ofList (p.toList.map fun c => if c = '\\' then '/' else c)

def normalizePath (p : String) : String :=
  match (slashes p).toList with
  | '.' :: '/' :: rest => String.ofList rest
  | rest => String.ofList rest

def isFail (line : String) : Bool :=
  (wholeWord "FAIL").test line || (includes line "❯" && (wholeWord "failed").test line) ||
  (Regex.seq .wordBoundary (.seq (plus (.one Char.isDigit)) (.seq (plus (.one isSpace))
    (.seq (lit "failed") .wordBoundary)))).test line

/-- The failing test files; a `\r` before the end of a line goes when the line is trimmed. -/
def parseFailingTestFiles (output : String) : List String :=
  ((split '\n' output).flatMap fun rawLine =>
    let line := trim (slashes rawLine)
    if isFail line then (FILE_RE.matches_ line).map normalizePath else []).eraseDups

def globChars : List Char → Regex
  | [] => .empty
  | '*' :: '*' :: '/' :: cs | '*' :: '*' :: cs =>
    .seq (.many (.one fun c => !(c = '\n' || c = '\r' || c = '\u2028' || c = '\u2029')))
      (globChars cs)
  | '*' :: cs => .seq (.many (.one (· ≠ '/'))) (globChars cs)
  | '?' :: cs => .seq (.one (· ≠ '/')) (globChars cs)
  | c :: cs => .seq (.one (· = c)) (globChars cs)

def globToRegExp (glob : String) : Regex := globChars glob.toList

def matchesAnyGlob (file : String) (globs : List String) : Bool :=
  let norm := normalizePath file
  let base := ((split '/' norm).getLast?).getD norm
  globs.any fun g =>
    let gn := normalizePath (trim g)
    if gn = "" then false
    else (globToRegExp gn).isWhole norm || (!includes gn "/" && (globToRegExp gn).isWhole base)

structure SmokeExemptClassification where
  failingFiles : List String
  exempt : List String
  nonExempt : List String
  allExempt : Bool
deriving DecidableEq

def classifySmokeFailures (smokeOutput : String) (exemptGlobs : List String) :
    SmokeExemptClassification :=
  let failingFiles := parseFailingTestFiles smokeOutput
  if exemptGlobs = [] then ⟨failingFiles, [], failingFiles, false⟩
  else
    let exempt := failingFiles.filter (matchesAnyGlob · exemptGlobs)
    let nonExempt := failingFiles.filter (!matchesAnyGlob · exemptGlobs)
    ⟨failingFiles, exempt, nonExempt, failingFiles ≠ [] && nonExempt = []⟩

example : classifySmokeFailures " FAIL  ./tests/unit/checkin-x.test.ts > opens\n" ["checkin*.test.ts"] =
    ⟨["tests/unit/checkin-x.test.ts"], ["tests/unit/checkin-x.test.ts"], [], true⟩ := by
  decide +kernel

/-- White space of a regular expression, `\s`. -/
def space : Regex := .one isSpace

def sanitizeAgentName : Option String → String
  | none => ""
  | some agent => trim ((plus space).replaceAll ((plus (oneOf "\r\n")).replaceAll agent " ") " ")

def agentTrailerLine (agent : Option String) : Option String :=
  let a := sanitizeAgentName agent
  if a = "" then none else some ("Agent: " ++ a)

/-- The line terminators at which `^` matches under the flag `m`. -/
def isLineEnd (c : Char) : Bool := c = '\n' || c = '\r' || c = '\u2028' || c = '\u2029'

/-- The lines that `^` starts at under the flag `m`. -/
def linesOf : List Char → List (List Char)
  | [] => [[]]
  | c :: cs =>
    if isLineEnd c then [] :: linesOf cs
    else match linesOf cs with
      | [] => [[c]]
      | l :: ls => (c :: l) :: ls

variable (message : String)

/-- `/^Agent:[ \t]*\S/im` -/
def hasAgentTrailer : Bool :=
  (linesOf message.toList).any fun l =>
    (Regex.seq (litI "Agent:") (.seq (.many (oneOf " \t")) (.one fun c => !isSpace c))).startsText
      (String.ofList l)

/-- `/^[A-Za-z][A-Za-z-]*:\s/` -/
def isTrailerShaped (line : String) : Bool :=
  (Regex.seq (.one Char.isAlpha) (.seq (.many (.one fun c => c.isAlpha || c = '-'))
    (.seq (lit ":") space))).startsText line

def trimEnd (s : String) : String := String.ofList (s.toList.reverse.dropWhile isSpace).reverse

def appendAgentTrailer (agent : Option String) : String :=
  match agentTrailerLine agent with
  | none => message
  | some line =>
    if hasAgentTrailer message then message
    else
      let trimmed := trimEnd message
      if trimmed = "" then line
      else
        let lastLine := ((split '\n' trimmed).getLast?).getD ""
        trimmed ++ (if isTrailerShaped lastLine then "\n" else "\n\n") ++ line

structure SourceBranchAttribution where
  sourceAgent : Option String
  hasMissingAgentTrailers : Bool
deriving DecidableEq

def sourceBranchAttribution (trailerValues : List String) : SourceBranchAttribution :=
  trailerValues.foldl (fun attribution raw =>
    let agent := sanitizeAgentName (split ',' raw).head?
    { sourceAgent :=
        if agent ≠ "" ∧ attribution.sourceAgent.isNone then some agent
        else attribution.sourceAgent
      hasMissingAgentTrailers := attribution.hasMissingAgentTrailers || agent = "" })
    ⟨none, false⟩

/-- The records of a log whose commits end with `\x1e`; one may start with `\x1f`. -/
def parseSourceBranchAttributionLog (stdout : String) : List String :=
  let values := (split '\x1e' stdout).map fun rec_ =>
    trim (match rec_.toList with
      | '\x1f' :: rest => String.ofList rest
      | rest => String.ofList rest)
  values.dropLast ++ (values.getLast?.toList.filter (· ≠ ""))

inductive Strategy where
  | auto | fastForward | mergeCommit | squash | followUpDispatch
deriving DecidableEq, Repr

inductive ResolvedStrategy where
  | fastForward | mergeCommit | squash | followUpDispatch
deriving DecidableEq, Repr

structure BranchStatus where
  ahead : Nat
  behind : Nat
  branchTip : String
  baseTip : String
  hasAutocommitNoise : Bool
  hasMissingAgentTrailers : Bool
  sourceAgent : Option String

def pickAutoStrategy (status : BranchStatus) : ResolvedStrategy :=
  if status.behind = 0 ∧ 1 ≤ status.ahead then
    if status.hasAutocommitNoise then .squash
    else if status.hasMissingAgentTrailers ∧ (status.sourceAgent.any (· ≠ "")) then .squash
    else .fastForward
  else .mergeCommit

/-- `/\b(data\.json refresh|workspace artifacts refresh|autocommit|auto-?save)\b/i` -/
def isAutocommitMessage : Bool :=
  (Regex.seq .wordBoundary (.seq (.alt (litI "data.json refresh")
    (.alt (litI "workspace artifacts refresh") (.alt (litI "autocommit")
      (.seq (litI "auto") (.seq (opt (lit "-")) (litI "save")))))) .wordBoundary)).test message

def countAutocommitNoise (messages : List String) : Nat := messages.countP isAutocommitMessage

def hasAutocommitNoise (messages : List String) : Bool :=
  messages ≠ [] && messages.length ≤ 2 * countAutocommitNoise messages

def buildSquashCommitBody (featureName branch sourceTip : String)
    (verification dispatchId agent : Option String) : String :=
  appendAgentTrailer ("\n".intercalate (["Promote " ++ featureName, "", "Source branch: " ++ branch,
    "Source tip: " ++ sourceTip] ++
    ((verification.filter (· ≠ "")).map ("Verification: " ++ ·)).toList ++
    ((dispatchId.filter (· ≠ "")).map ("Dispatch: " ++ ·)).toList)) agent

example : appendAgentTrailer "Merge topic into main\n" (some " Rita\n ") =
    "Merge topic into main\n\nAgent: Rita" := by decide +kernel

end IdAgents.Promotion
