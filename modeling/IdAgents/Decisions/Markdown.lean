import IdAgents.Library.Regex
import IdAgents.Decisions.Storage

namespace IdAgents.Decisions.Producer
open JsText JsRegex

/-- `md.split(/\r?\n/)` -/
def mdLines (md : String) : List (List Char) :=
  let pieces := splitChars '\n' md.toList
  let dropReturn (piece : List Char) := if piece.getLast? = some '\r' then piece.dropLast else piece
  pieces.dropLast.map dropReturn ++ pieces.getLast?.toList

def isLineTerminator (c : Char) : Bool :=
  c = '\n' || c = '\r' || c = '\u2028' || c = '\u2029'

/-- The group of `/^##\s+(.+)$/`: of white space alone its last character is left for the group. -/
def sectionTitle : List Char → Option (List Char)
  | '#' :: '#' :: rest =>
    match rest.takeWhile isSpace, rest.dropWhile isSpace with
    | [], _ => none
    | [_], [] => none
    | spaces, [] => (spaces.getLast?.filter fun c => !isLineTerminator c).map ([·])
    | _, title => if title.any isLineTerminator then none else some title
  | _ => none

def splitBold (title : List Char) : List Char → Option (List Char × List Char)
  | [] => none
  | c :: rest =>
    if c = '*' && rest.head? = some '*' then
      let trailing := rest.tail.dropWhile isSpace
      if trailing.any isLineTerminator then splitBold (c :: title) rest
      else some (title.reverse, trailing)
    else splitBold (c :: title) rest

structure Item where
  digits : String
  title : String
  body : String

/-- `/^(\d+)\.\s+\*\*([^]*?)\*\*\s*(.*)$/` -/
def itemHeader (line : List Char) : Option Item :=
  let digits := line.takeWhile Char.isDigit
  match line.dropWhile Char.isDigit with
  | '.' :: rest =>
    match rest.dropWhile isSpace with
    | '*' :: '*' :: rest' =>
      if digits = [] || !rest.head?.any isSpace then none
      else (splitBold [] rest').map fun split =>
        ⟨String.ofList digits, trim (String.ofList split.1), String.ofList split.2⟩
    | _ => none
  | _ => none

structure ItemState where
  buffered : List Item := []
  active : Option Item := none

def ItemState.flush (s : ItemState) : ItemState := ⟨s.buffered ++ s.active.toList, none⟩

def ItemState.step (s : ItemState) (line : List Char) : ItemState :=
  if (sectionTitle line).isSome then s.flush
  else match itemHeader line with
    | some item => { s.flush with active := some item }
    | none =>
      if (trimChars line).isEmpty then s
      else { s with active := s.active.map fun item =>
        { item with body := item.body ++ "\n" ++ String.ofList line } }

def itemsOf (md : String) : List Item := ((mdLines md).foldl ItemState.step {}).flush.buffered

def spaces : Regex := .many (.one isSpace)

def digit : Regex := .one Char.isDigit

def day : Regex :=
  seqs [exactly 4 digit, lit "-", exactly 2 digit, lit "-", exactly 2 digit]

/-- `/→\s*\*\*\s*WORD\s+(\d{4}-\d{2}-\d{2})/i` -/
def markerRe (word : String) : Regex :=
  seqs [lit "→", spaces, lit "**", spaces, litI word, plus (.one isSpace), .group 1 day]

/-- `/\*\*\s*DUPLICATE\s+OF\s+#(\d+)/i` -/
def duplicateRe : Regex :=
  seqs [lit "**", spaces, litI "DUPLICATE", plus (.one isSpace), litI "OF", plus (.one isSpace),
    lit "#", .group 1 (plus digit)]

def groupOf (r : Regex) (text : String) : Option String :=
  ((r.firstMatch [] text.toList).bind fun m => m.2.lookup 1).map String.ofList

structure Classification where
  status : DecisionStatus
  resolvedAt : Option String
  note : Option String

def toIso (day : String) : String := day ++ "T00:00:00.000Z"

def classify (body : String) : Option Classification :=
  match groupOf duplicateRe body with
  | some original => some ⟨.superseded, (groupOf (markerRe "RESOLVED") body).map toIso,
      some ("DUPLICATE OF #" ++ original)⟩
  | none =>
    ((groupOf (markerRe "RESOLVED") body).map fun d => ⟨.resolved, some (toIso d), none⟩).or
    (((groupOf (markerRe "SUPERSEDED") body).map fun d => ⟨.superseded, some (toIso d), none⟩).or
    ((groupOf (markerRe "DECLINED") body).map fun d => ⟨.declined, some (toIso d), none⟩))

def condense (s : String) (max : Nat) : String :=
  let oneLine := trim (String.ofList (collapseSpaces s.toList))
  if sliceUnits max oneLine = oneLine then oneLine else sliceUnits (max - 1) oneLine ++ "…"

/-- The group of `/^(.*?[?.!])\s/` -/
def firstSentence (read : List Char) : List Char → Option (List Char)
  | [] => none
  | c :: rest =>
    if (c = '?' || c = '.' || c = '!') && rest.head?.any isSpace then some (c :: read).reverse
    else if isLineTerminator c then none
    else firstSentence (c :: read) rest

def extractQuestion (title : String) : String :=
  match firstSentence [] title.toList with
  | some sentence => trim (String.ofList sentence)
  | none => condense title 280

/-- What the parsers take from outside the text: the hex digest, and how `Number(digits)` prints. -/
structure Reader where
  sha256Hex : String → String
  number : String → String

structure BootstrapSkipped where
  displayId : String
  title : String
  reason : String

variable (r : Reader)

def Reader.digest16 (text : String) : String := sliceUnits 16 (r.sha256Hex text)

def Reader.displayId (item : Item) : String := "#" ++ r.number item.digits

def bootstrapRow (sourcePath now : String) (item : Item) (c : Classification) : DecisionRow where
  decisionId := "dec_" ++ r.digest16 (sourcePath ++ ":" ++ r.displayId item ++ ":" ++ item.title)
  displayId := some (r.displayId item)
  title := condense item.title 200
  question := extractQuestion item.title
  contextExcerpt := some (condense (sliceUnits 280 item.body) 200)
  recommendationJson := none
  optionsJson := none
  status := c.status
  estimatedSeconds := some 60
  priority := .normal
  owner := "chris"
  requestedBy := some "maestra"
  createdAt := c.resolvedAt.getD now
  updatedAt := c.resolvedAt.getD now
  resolvedAt := c.resolvedAt
  resolvedBy := c.resolvedAt.map fun _ => "human:chris"
  resolutionNote := c.note
  selectedOptionId := none
  sourceRefs := [⟨.decisionDoc, sourcePath, some (r.displayId item), some (condense item.title 200),
    none⟩]
  provenance := ⟨sourcePath, r.displayId item,
    some (r.digest16 (item.title ++ "\n" ++ item.body)), "decisions.bootstrap.v1", none, none, none⟩

def classifyItem (item : Item) : Option Classification := classify (item.title ++ "\n" ++ item.body)

def parseDecisionsMarkdown (sourcePath now md : String) :
    List DecisionRow × List BootstrapSkipped :=
  ((itemsOf md).filterMap fun item => (classifyItem item).map (bootstrapRow r sourcePath now item),
    ((itemsOf md).filter fun item => (classifyItem item).isNone).map fun item =>
      ⟨r.displayId item, condense item.title 200, "no_explicit_status_marker"⟩)

structure SummaryOpenItem where
  displayId : String
  oneLine : String
  summaryStatus : String
deriving DecidableEq

/-- `open\s+[≤<=]?\s*60s\s+items` or `^open[: ]` or the words of the heading. -/
def looksLikeSummary (title : String) : Bool :=
  includes title "maestra summary" ||
  (seqs [lit "open", plus (.one isSpace), opt (oneOf "≤<="), spaces, lit "60s",
    plus (.one isSpace), lit "items"]).test title ||
  (seqs [litI "open", oneOf ": "]).startsText title

def splitCells (row : List Char) : List String :=
  let row := if row.head? = some '|' then row.tail else row
  let row := if row.getLast? = some '|' then row.dropLast else row
  (splitChars '|' row).map fun cell => trim (String.ofList cell)

structure Columns where
  num : Nat
  oneLine : Nat
  status : Nat

def findIdx (cells : List String) (test : String → Bool) (default : Nat) : Nat :=
  (cells.findIdx? test).getD default

def Columns.ofHeader (cells : List String) : Columns :=
  let lower := cells.map toLowerCase
  { num := findIdx lower (fun c => c = "#" || includes c "number" || includes c "item" || c = "id") 0
    oneLine := findIdx lower (fun c => (seqs [lit "one", opt (.one fun d => !isLineTerminator d),
      lit "line"]).test c || includes c "question" || includes c "title" || includes c "summary") 1
    status := findIdx lower (fun c => includes c "status") (cells.length - 1) }

/-- `/^:?-{3,}:?$/` -/
def isSeparatorCell (cell : String) : Bool :=
  (seqs [opt (lit ":"), atLeast 3 (lit "-"), opt (lit ":")]).isWhole cell

/-- The digits of `/^#?(\d+)$/` -/
def numberCell (cell : String) : Option String :=
  let digits := if cell.toList.head? = some '#' then cell.toList.tail else cell.toList
  if digits ≠ [] ∧ digits.all Char.isDigit then some (String.ofList digits) else none

def isOpenStatus (status : String) : Bool :=
  !(seqs [.many (lit "*"), spaces, alts [lit "resolved", lit "superseded", lit "declined"]]).startsText
    status &&
  (seqs [.wordBoundary, lit "open", .wordBoundary]).test status

def openRow (columns : Columns) (cells : List String) : Option SummaryOpenItem :=
  if cells.length ≤ columns.status then none
  else
    let status := toLowerCase (cells.getD columns.status "")
    (numberCell (cells.getD columns.num "")).bind fun digits =>
      if isOpenStatus status then some ⟨"#" ++ digits, cells.getD columns.oneLine "", status⟩ else none

inductive Section where
  | before
  | inside (columns : Option Columns) (separatorSeen : Bool)
  | over

structure SummaryState where
  part : Section := .before
  out : List SummaryOpenItem := []

def SummaryState.step (s : SummaryState) (line : List Char) : SummaryState :=
  match s.part, sectionTitle line with
  | .over, _ => s
  | part, some title =>
    if looksLikeSummary (toLowerCase (String.ofList title)) then { s with part := .inside none false }
    else match part with
      | .inside .. => { s with part := .over }
      | _ => s
  | .before, none => s
  | .inside columns separatorSeen, none =>
    let trimmed := trimChars line
    if trimmed.head? ≠ some '|' then s
    else
      let cells := splitCells trimmed
      match columns with
      | none => { s with part := .inside (some (.ofHeader cells)) separatorSeen }
      | some columns =>
        if !separatorSeen && cells.all isSeparatorCell then
          { s with part := .inside (some columns) true }
        else { s with out := s.out ++ (openRow columns cells).toList }

def parseMaestraSummaryTable (md : String) : List SummaryOpenItem :=
  ((mdLines md).foldl SummaryState.step {}).out

end IdAgents.Decisions.Producer
