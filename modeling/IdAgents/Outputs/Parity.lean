import IdAgents.Library.Dict
import IdAgents.Library.Regex
import IdAgents.Library.Text

namespace IdAgents.Outputs.Deliveries
open JsText JsMap JsRegex List

structure TrackRegistry where
  canonical : List String
  deferred : List String
  legacyAliases : List (String × String)

def DEFAULT_REGISTRY : TrackRegistry where
  canonical := ["T-DIST", "T-LOOP-CLOSE", "T-RELIABILITY", "T-ORCH", "T-CKPT", "T-MODEL", "T-OSS",
    "T-DEPLOY", "T-QA", "T14", "I-1", "T-PACK", "T-COS", "T-FIN", "T-CTOBOX", "T-DECHRIS",
    "T-DAILY", "T-RELY", "T-REFACTOR", "T-POWERHOUSE", "T-REMOTE", "T-LOCALREAD", "T-OPRESET"]
  deferred := ["I-2", "I-15"]
  legacyAliases := [("T1", "T-RELIABILITY"), ("T10", "T-ORCH"), ("T11", "T-LOOP-CLOSE"),
    ("T13", "T-CKPT"), ("T15", "T-CKPT"), ("T16", "T-RELIABILITY")]

def TrackRegistry.knows (registry : TrackRegistry) (track : String) : Bool :=
  registry.canonical.contains track || registry.deferred.contains track ||
    registry.legacyAliases.any (·.1 = track)

/-- `resolveTrack(track).conforms`: the track, or what stands before its first dot, is known. -/
def conforms (track : String) : Bool :=
  let t := trim track
  let prefix_ := t.toList.takeWhile (· ≠ '.')
  t ≠ "" && (DEFAULT_REGISTRY.knows t ||
    (prefix_.length < t.toList.length && prefix_ ≠ [] &&
      DEFAULT_REGISTRY.knows (String.ofList prefix_)))
section
variable (value : Option String)

def text : Option String :=
  value.bind fun s => if trim s = "" then none else some (trim s)

def conformantTrack : Option String :=
  (text value).filter conforms

def spaces : Regex := .many (.one isSpace)

/-- `/\[\s*track\s*:\s*([^\]]+?)\s*\]/i`; what it captures is trimmed. -/
def explicitTrackPattern : Regex :=
  seqs [lit "[", spaces, litI "track", spaces, lit ":", spaces,
    .group 1 (plus (.one (· ≠ ']'))), lit "]"]

def isTrackChar (c : Char) : Bool := c.isUpper || c.isDigit || c = '-'

def isSubTrackChar (c : Char) : Bool := c.isAlphanum || c = '_' || c = '.' || c = '-'

/-- `/\[\s*((?:T-[A-Z0-9-]+|T\d+|I-\d+)(?:\.[A-Za-z0-9_.-]+)?)\s*\]/` -/
def bracketTrackPattern : Regex :=
  seqs [lit "[", spaces,
    .group 1 (.seq (alts [seqs [lit "T-", plus (.one isTrackChar)],
        seqs [lit "T", plus (.one Char.isDigit)], seqs [lit "I-", plus (.one Char.isDigit)]])
      (opt (seqs [lit ".", plus (.one isSubTrackChar)]))),
    spaces, lit "]"]

def captured (pattern : Regex) (s : String) : Option String :=
  (pattern.firstMatch [] s.toList).bind fun found => (found.2.lookup 1).map String.ofList

def parseTrackTag : Option String :=
  let s := value.getD ""
  (captured explicitTrackPattern s <|> captured bracketTrackPattern s).map trim

end

/-- `/\/Dropbox\/Code\/([^/]+)\//` -/
def codePattern : Regex := seqs [lit "/Dropbox/Code/", .group 1 (plus (.one (· ≠ '/'))), lit "/"]

def projectFromPath (absPath : String) : Option String :=
  captured codePattern absPath <|>
    if includes absPath "/Dropbox/Obsidian/" then some "obsidian" else none

structure GuardedArtifact where
  tag : Option String
  title : String
  projectRef : String

structure RegisterArtifactRequest where
  basename : String
  agent : String
  tag : Option String := none
  absPath : String
  title : Option String := none
  producedAt : String
  source : String
  projectRef : Option String := none

def guardArtifactCreate (req : RegisterArtifactRequest) : Except (List String) GuardedArtifact :=
  let projectRef := text req.projectRef <|> projectFromPath req.absPath
  let rejected := (if (text req.agent).isNone then ["owner"] else []) ++
    (if projectRef.isNone then ["project"] else [])
  let tag := text req.tag
  let track := parseTrackTag tag <|> parseTrackTag req.title <|> parseTrackTag req.basename
  let repaired := match tag with
    | some tag => tag ++ " [T-ORCH]"
    | none => "[T-ORCH]"
  if rejected ≠ [] then .error rejected
  else .ok {
    tag := if (conformantTrack track).isSome then tag else some repaired
    title := (text req.title).getD ("Next action: review " ++ req.basename)
    projectRef := projectRef.getD "" }

structure ArtifactCatalogRow where
  artifactId : String
  basename : String
  agent : String
  tag : Option String
  absPath : String
  title : Option String
  producedAt : String
  source : String
  projectRef : Option String
deriving DecidableEq

abbrev Catalog := Dict String ArtifactCatalogRow

def newRow (artifactId : String) (req : RegisterArtifactRequest) (guarded : GuardedArtifact) :
    ArtifactCatalogRow where
  artifactId := artifactId
  basename := req.basename
  agent := req.agent
  tag := guarded.tag
  absPath := req.absPath
  title := some guarded.title
  producedAt := req.producedAt
  source := req.source
  projectRef := some guarded.projectRef

def mergedRow (existing : ArtifactCatalogRow) (req : RegisterArtifactRequest)
    (guarded : GuardedArtifact) : ArtifactCatalogRow :=
  { existing with
    basename := req.basename
    agent := req.agent
    tag := guarded.tag <|> existing.tag
    absPath := req.absPath
    title := some guarded.title
    source := if req.source = "filesystem" && existing.source ≠ "filesystem" then existing.source
      else req.source
    projectRef := some guarded.projectRef }

section
variable (artifactIdFromPath : String → String)

section
variable (catalog : Catalog)

/-- `artifactId` is the hash of the path. -/
def registerArtifact (req : RegisterArtifactRequest) : Except String Catalog :=
  match guardArtifactCreate req with
  | .error rejected =>
    .error ("conformance_write_guard_rejected: " ++ String.intercalate ", " rejected)
  | .ok guarded =>
    let artifactId := artifactIdFromPath req.absPath
    .ok (catalog.set artifactId (match catalog.get? artifactId with
      | none => newRow artifactId req guarded
      | some existing => mergedRow existing req guarded))

def registerAll (artifactIdFromPath : String → String) (catalog : Catalog) :
    List RegisterArtifactRequest → Except String Catalog
  | [] => .ok catalog
  | req :: reqs => (registerArtifact artifactIdFromPath catalog req).bind fun next =>
    registerAll artifactIdFromPath next reqs

/-- The fields of a line: a `|` between double quotes does not split. `current` holds the characters
of the field so far, last first, and `prev` the character before. -/
def splitFields (inQuote : Bool) (prev : Option Char) (current : List Char) :
    List Char → List (List Char)
  | [] => [current.reverse]
  | c :: cs =>
    let inQuote := if c = '"' && prev ≠ some '\\' then !inQuote else inQuote
    if c = '|' && !inQuote then current.reverse :: splitFields inQuote (some c) [] cs
    else splitFields inQuote (some c) (c :: current) cs

def splitPipeLine (line : String) : List String :=
  (splitFields false none [] line.toList).map fun field => String.ofList (trimChars field)

structure DeliveryLogRow where
  producedAt : String
  agent : String
  tag : Option String
  basename : String
  absPath : String
  title : Option String
deriving DecidableEq

def unquoted (title : String) : String :=
  let cs := title.toList
  if cs.head? = some '"' && cs.getLast? = some '"' then String.ofList (cs.drop 1).dropLast
  else title

def parseLine (rawLine : String) : Option DeliveryLogRow :=
  let line := trim rawLine
  if line = "" || line.toList.head? = some '#' then none
  else match splitPipeLine line with
  | ts :: agent :: tag :: basename :: absPath :: rest =>
    if ts = "" || agent = "" || basename = "" || absPath = "" then none
    else
      let title := trim (String.intercalate "|" rest)
      some {
        producedAt := ts
        agent
        tag := if tag = "-" then none else some tag
        basename
        absPath
        title := if title = "" then none else some (unquoted title) }
  | _ => none
section
variable (text : String)

def parseDeliveryLogRows : List DeliveryLogRow :=
  (split '\n' text).filterMap parseLine

def DeliveryLogRow.request (row : DeliveryLogRow) : RegisterArtifactRequest where
  basename := row.basename
  agent := row.agent
  tag := row.tag
  absPath := row.absPath
  title := row.title.filter (· ≠ "")
  producedAt := row.producedAt
  source := "delivery-log"

def backfillCatalogFromDeliveryLog : Except String Catalog :=
  registerAll artifactIdFromPath catalog ((parseDeliveryLogRows text).map (·.request))

/-- `basename(path)` -/
def pathBasename (path : String) : String :=
  let cs := path.toList.reverse.dropWhile (· = '/')
  String.ofList (cs.takeWhile (· ≠ '/')).reverse

/-- The part after the last `Code`, or else the one before the last `output`. -/
def inferProjectRefFromPath (absPath : String) : Option String :=
  let parts := (split '/' absPath).filter (· ≠ "")
  let back := parts.reverse
  let afterCode := (back.takeWhile (· ≠ "Code")).getLast?
  if parts.contains "Code" && afterCode.isSome then afterCode
  else if parts.contains "output" then ((back.dropWhile (· ≠ "output")).drop 1).head? else none

/-- `registerArtifactPathDelivery` for a file on disk, as far as the catalog goes. -/
structure FilesystemRegistration where
  absPath : String
  agent : String
  tag : Option String := none
  title : Option String := none
  producedAt : String
  projectRef : Option String := none

def FilesystemRegistration.request (input : FilesystemRegistration) : RegisterArtifactRequest where
  basename := pathBasename input.absPath
  agent := input.agent
  tag := input.tag
  absPath := input.absPath
  title := input.title
  producedAt := input.producedAt
  source := "filesystem"
  projectRef := input.projectRef <|> inferProjectRefFromPath input.absPath

structure ComparableRow where
  absPath : String
  agent : Option String
  tag : Option String
  title : Option String
  producedAt : String
deriving DecidableEq

structure ParityMetric where
  name : String
  substrate : Nat
  deliveryLog : Nat
  ok : Bool

structure ParityReport where
  substrateCount : Nat
  deliveryLogCount : Nat
  metrics : List ParityMetric
  drift : List String

/-- `status === "ok"` -/
def ParityReport.isOk (report : ParityReport) : Bool := report.drift.isEmpty

/-- The UTF-16 code units of a text, by which `<` compares. -/
def codeUnits (s : String) : List Nat :=
  s.toList.flatMap fun c =>
    if c.toNat < 65536 then [c.toNat]
    else [55296 + (c.toNat - 65536) / 1024, 56320 + (c.toNat - 65536) % 1024]

/-- The distinct keys that `countBy` counts. -/
def countBy (rows : List ComparableRow) (key : ComparableRow → Option String) : Nat :=
  (rows.map fun row => (key row).getD "(none)").eraseDups.length

def newestPaths (rows : List ComparableRow) (n : Nat) : List String :=
  ((rows.mergeSort fun a b => !decide (codeUnits a.producedAt < codeUnits b.producedAt)).take n).map
    (·.absPath)

def substrateByPath (substrate : List ComparableRow) (path : String) : Option ComparableRow :=
  substrate.reverse.find? (·.absPath = path)

def rowDrift (substrate : List ComparableRow) (d : ComparableRow) : Option String :=
  match substrateByPath substrate d.absPath with
  | none => some ("missing in substrate: " ++ d.absPath)
  | some s =>
    let held := s.title.getD ""
    let logged := d.title.getD ""
    if held ≠ logged then
      some ("title drift for " ++ d.absPath ++ ": substrate=\"" ++ held ++ "\" vs log=\"" ++
        logged ++ "\"")
    else none

def computeArtifactParity (substrate deliveryLog : List ComparableRow) (newestN : Nat := 20) :
    ParityReport :=
  let missing := deliveryLog.countP fun d => (substrateByPath substrate d.absPath).isNone
  let drifting := deliveryLog.filterMap (rowDrift substrate)
  let sharedSub := substrate.filter fun r => deliveryLog.any (·.absPath = r.absPath)
  let sharedLog := deliveryLog.filter fun d => (substrateByPath substrate d.absPath).isSome
  let subOrder := newestPaths sharedSub newestN
  let logOrder := newestPaths sharedLog newestN
  { substrateCount := substrate.length
    deliveryLogCount := deliveryLog.length
    metrics := [
      ⟨"delivery_rows_present", deliveryLog.length - missing, deliveryLog.length, missing = 0⟩,
      ⟨"title_fidelity", deliveryLog.length - (drifting.length - missing), deliveryLog.length,
        drifting.length - missing = 0⟩,
      ⟨s!"newest_{newestN}_ordering", subOrder.length, logOrder.length, subOrder = logOrder⟩,
      ⟨"distinct_agents", countBy substrate (·.agent), countBy deliveryLog (·.agent), true⟩,
      ⟨"distinct_tags", countBy substrate (·.tag), countBy deliveryLog (·.tag), true⟩]
    drift := drifting.take 30 ++ (if subOrder = logOrder then []
      else [s!"newest-{newestN} ordering differs for shared rows"]) }

/-- `ORDER BY produced_at DESC LIMIT ?` -/
def listArtifactCatalog (limit : Nat) : List ArtifactCatalogRow :=
  (catalog.values.mergeSort fun a b => !decide (a.producedAt < b.producedAt)).take limit

def ArtifactCatalogRow.comparable (row : ArtifactCatalogRow) : ComparableRow :=
  ⟨row.absPath, some row.agent, row.tag, row.title, row.producedAt⟩

def DeliveryLogRow.comparable (row : DeliveryLogRow) : ComparableRow :=
  ⟨row.absPath, some row.agent, row.tag, row.title, row.producedAt⟩

def checkArtifactParity : ParityReport :=
  computeArtifactParity ((listArtifactCatalog catalog 10000).map (·.comparable))
    ((parseDeliveryLogRows text).map (·.comparable))

def PassesParity : Prop :=
  ∃ first second, backfillCatalogFromDeliveryLog artifactIdFromPath .empty text = .ok first ∧
    (checkArtifactParity first text).isOk ∧
    backfillCatalogFromDeliveryLog artifactIdFromPath first text = .ok second ∧
    (checkArtifactParity second text).isOk ∧
    ∀ (seen : List FilesystemRegistration) after,
      (∀ input ∈ seen, input.absPath ∈ (parseDeliveryLogRows text).map (·.absPath)) →
      registerAll artifactIdFromPath second (seen.map (·.request)) = .ok after →
      (checkArtifactParity after text).isOk

end

def Keyed : Prop :=
  ∀ artifactId row, catalog.get? artifactId = some row →
    artifactId = artifactIdFromPath row.absPath

end

end

section
variable {artifactIdFromPath : String → String} {catalog next : Catalog}

theorem registerArtifact_ok (h : registerArtifact artifactIdFromPath catalog req = .ok next) :
    ∃ guarded row, guardArtifactCreate req = .ok guarded ∧
      next = catalog.set (artifactIdFromPath req.absPath) row ∧ row.absPath = req.absPath ∧
      row.title = some guarded.title := by
  rw [registerArtifact] at h
  cases hguard : guardArtifactCreate req with
  | error rejected =>
    rw [hguard] at h
    cases h
  | ok guarded =>
    rw [hguard] at h
    refine ⟨guarded, _, rfl, (Except.ok.inj h).symm, ?_, ?_⟩
    · cases catalog.get? (artifactIdFromPath req.absPath) <;> rfl
    · cases catalog.get? (artifactIdFromPath req.absPath) <;> rfl

theorem Keyed.register (h : Keyed artifactIdFromPath catalog)
    (hreg : registerArtifact artifactIdFromPath catalog req = .ok next) :
    Keyed artifactIdFromPath next := by
  obtain ⟨guarded, row, _, rfl, hpath, _⟩ := registerArtifact_ok hreg
  intro artifactId other hget
  rw [Dict.get?_set] at hget
  split at hget
  · next hid =>
    obtain rfl := Option.some.inj hget
    rw [hid, hpath]
  · exact h artifactId other hget

theorem Keyed.registerAll (h : Keyed artifactIdFromPath catalog)
    (hreg : registerAll artifactIdFromPath catalog reqs = .ok next) :
    Keyed artifactIdFromPath next := by
  induction reqs generalizing catalog with
  | nil =>
    cases hreg
    exact h
  | cons req reqs ih =>
    rw [Deliveries.registerAll] at hreg
    cases hone : registerArtifact artifactIdFromPath catalog req with
    | error why =>
      rw [hone] at hreg
      cases hreg
    | ok middle =>
      rw [hone] at hreg
      exact ih (h.register hone) hreg

theorem Keyed.shown (h : Keyed artifactIdFromPath catalog)
    (hshown : substrateByPath ((listArtifactCatalog catalog limit).map (·.comparable)) path =
      some s) : ∃ row, catalog.get? (artifactIdFromPath path) = some row ∧ s.title = row.title := by
  have hmem := mem_reverse.mp (mem_of_find?_eq_some hshown)
  have hpath := find?_some hshown
  obtain ⟨row, hrow, rfl⟩ := mem_map.mp hmem
  have hpath : row.absPath = path := of_decide_eq_true hpath
  have hvalue : row ∈ catalog.values :=
    (mergeSort_perm _ _).mem_iff.mp (mem_of_mem_take hrow)
  obtain ⟨artifactId, hget⟩ := Dict.mem_values.mp hvalue
  have hid := h artifactId row hget
  rw [hpath] at hid
  rw [hid] at hget
  exact ⟨row, hget, rfl⟩

end

theorem guardArtifactCreate_ok
    (hagent : text req.agent = some agent) (hproject : text req.projectRef = some project)
    (htitle : text req.title = some title) :
    ∃ guarded, guardArtifactCreate req = .ok guarded ∧ guarded.title = title := by
  rw [guardArtifactCreate]
  rw [hagent, hproject, htitle]
  exact ⟨_, rfl, rfl⟩

theorem not_isOk_of_drift (hd : d ∈ deliveryLog) (hdrift : rowDrift substrate d = some message) :
    (computeArtifactParity substrate deliveryLog n).isOk = false := by
  have hmem : message ∈ deliveryLog.filterMap (rowDrift substrate) :=
    mem_filterMap.mpr ⟨d, hd, hdrift⟩
  obtain ⟨first, rest, hcons⟩ := exists_cons_of_ne_nil (ne_nil_of_mem hmem)
  unfold computeArtifactParity ParityReport.isOk
  simp only [hcons]
  rfl

def retitled (row : DeliveryLogRow) : FilesystemRegistration where
  absPath := row.absPath
  agent := "filesystem-reconciler"
  title := some (if row.title = some "x" then "y" else "x")
  producedAt := row.producedAt
  projectRef := some "p"

theorem retitled_title (row : DeliveryLogRow) :
    ∃ title, (retitled row).title = some title ∧ text (some title) = some title ∧
      title ≠ row.title.getD "" := by
  by_cases h : row.title = some "x"
  · refine ⟨"y", ?_, by decide, ?_⟩
    · rw [retitled]
      rw [if_pos h]
    · rw [h]
      decide
  · refine ⟨"x", ?_, by decide, ?_⟩
    · rw [retitled]
      rw [if_neg h]
    · intro heq
      apply h
      cases htitle : row.title with
      | none =>
        rw [htitle] at heq
        exact absurd heq (by decide)
      | some t =>
        rw [htitle] at heq
        exact congrArg some heq.symm

theorem retitled_drifts (h : Keyed artifactIdFromPath catalog)
    (hrow : row ∈ parseDeliveryLogRows log) :
    ∃ after, registerAll artifactIdFromPath catalog [(retitled row).request] = .ok after ∧
      (checkArtifactParity after log).isOk = false := by
  obtain ⟨title, htitle, htext, hne⟩ := retitled_title row
  have hagent : text (retitled row).request.agent = some "filesystem-reconciler" :=
    show text (some "filesystem-reconciler") = some "filesystem-reconciler" by decide
  have hproject : text (retitled row).request.projectRef = some "p" :=
    show text (some "p") = some "p" by decide
  obtain ⟨guarded, hguard, hguarded⟩ :=
    guardArtifactCreate_ok hagent hproject ((congrArg text htitle).trans htext)
  obtain ⟨after, hreg⟩ : ∃ after,
      registerArtifact artifactIdFromPath catalog (retitled row).request = .ok after := by
    rw [registerArtifact]
    rw [hguard]
    exact ⟨_, rfl⟩
  have hall : registerAll artifactIdFromPath catalog [(retitled row).request] = .ok after := by
    rw [registerAll, hreg]
    rfl
  refine ⟨after, hall, ?_⟩
  obtain ⟨guarded', written, hguard', hset, _, hwritten⟩ := registerArtifact_ok hreg
  obtain rfl : guarded = guarded' := Except.ok.inj (hguard.symm.trans hguard')
  have hmem : row.comparable ∈ (parseDeliveryLogRows log).map (·.comparable) :=
    mem_map_of_mem hrow
  obtain ⟨message, hmessage⟩ : ∃ message, rowDrift
      ((listArtifactCatalog after 10000).map (·.comparable)) row.comparable = some message := by
    rw [rowDrift]
    cases hshown : substrateByPath ((listArtifactCatalog after 10000).map (·.comparable))
        row.comparable.absPath with
    | none => exact ⟨_, rfl⟩
    | some s =>
      obtain ⟨held, hheld, hsame⟩ := (h.register hreg).shown hshown
      have hself : after.get? (artifactIdFromPath row.absPath) = some written := by
        rw [hset]
        exact Dict.get?_set_self _ _ _
      obtain rfl : written = held := Option.some.inj (hself.symm.trans hheld)
      have hdiffers : s.title.getD "" ≠ row.comparable.title.getD "" := by
        rw [hsame, hwritten, hguarded]
        exact hne
      exact ⟨_, if_pos hdiffers⟩
  exact not_isOk_of_drift hmem hmessage

theorem PassesParity.delivers_nothing (h : PassesParity artifactIdFromPath log) :
    parseDeliveryLogRows log = [] := by
  obtain ⟨first, second, hfirst, _, hsecond, _, hseen⟩ := h
  cases hrows : parseDeliveryLogRows log with
  | nil => rfl
  | cons row rows =>
    have hrow : row ∈ parseDeliveryLogRows log := by
      rw [hrows]
      exact mem_cons_self
    have hempty : Keyed artifactIdFromPath .empty := by
      intro artifactId row hget
      cases hget
    have hkeyed := (hempty.registerAll hfirst).registerAll hsecond
    obtain ⟨after, hafter, hdrift⟩ := retitled_drifts hkeyed hrow
    have hpath : ∀ input ∈ [retitled row],
        input.absPath ∈ (parseDeliveryLogRows log).map (·.absPath) := by
      intro input hinput
      rw [mem_singleton.mp hinput]
      exact mem_map_of_mem (f := fun r : DeliveryLogRow => r.absPath) hrow
    have hok := hseen [retitled row] after hpath hafter
    rw [hdrift] at hok
    cases hok

def deliveredOnce : String :=
  "2026-06-10T00:00:00Z | roger | report | a.md | /u/Dropbox/Code/p/output/a.md | \"Plan\""

def seenOnDisk : FilesystemRegistration where
  absPath := "/u/Dropbox/Code/p/output/a.md"
  agent := "filesystem-reconciler"
  producedAt := "2026-06-10T01:00:00.000Z"

def checksOnDisk (log : String) (input : FilesystemRegistration) : Except String (List Bool) :=
  (backfillCatalogFromDeliveryLog (fun path => path) .empty log).bind fun first =>
  (backfillCatalogFromDeliveryLog (fun path => path) first log).bind fun second =>
  (registerAll (fun path => path) second [input.request]).map fun after =>
    [first, second, after].map fun catalog => (checkArtifactParity catalog log).isOk

end IdAgents.Outputs.Deliveries
