import Mathlib.Data.List.Sort
import IdAgents.Library.Dict
import IdAgents.Library.Text

namespace IdAgents.WorkspaceSync
open JsText JsMap

abbrev Bytes := List UInt8

structure SyncReceiptEntry where
  sha256 : String
  source : String
deriving DecidableEq

structure SyncReceipt where
  version : Nat
  lastDeployedAt : String
  files : Dict String SyncReceiptEntry

/-- What is at `.id-agents/receipt.json`. -/
inductive ReceiptFile where
  | absent
  | unreadable
  | written (receipt : SyncReceipt)

/-- The files of a workspace by their portable relative paths, beside the receipt; `temps` are the
temporary receipts left over in `.id-agents`. -/
structure Workspace where
  files : String → Option Bytes
  receipt : ReceiptFile
  temps : Nat

inductive RuntimeClass where
  | claude | codex | cursor
deriving DecidableEq

inductive AgentLibraryShape where
  | claudeNative | agentsMdNative
deriving DecidableEq

structure SourceFile where
  relativePath : String
  bytes : Bytes
deriving DecidableEq

def basename (path : String) : String := (split '/' path).getLast?.getD ""

def skippedSourceBasenames : List String := ["README.md", "LICENSE"]

/-- A library entry: the regular files of its directory, and its persona file. In the claude-native
shape that is the `CLAUDE.md` of the directory; in the other it stands beside the directory, which
has none. -/
structure LibraryAgentEntry where
  name : String
  shape : AgentLibraryShape
  directory : List SourceFile
  memory : Bytes
  persona : ∀ file ∈ directory, file.relativePath = "CLAUDE.md" →
    shape = .claudeNative ∧ file.bytes = memory

structure SyncCall where
  runtime : RuntimeClass
  entry : LibraryAgentEntry
  collate : String → String → Bool
  obstructed : String → Bool
  now : String

def loadReceipt : ReceiptFile → Except String SyncReceipt
  | .absent => .ok ⟨1, "", .empty⟩
  | .unreadable => .error "Unexpected token in JSON"
  | .written receipt => .ok receipt

def walkDirectory (directory : List SourceFile) : List SourceFile :=
  directory.filter fun file => basename file.relativePath ∉ skippedSourceBasenames

def listSourceFilesForEntry (collate : String → String → Bool) (entry : LibraryAgentEntry) :
    List SourceFile :=
  let files := walkDirectory entry.directory ++
    (match entry.shape with
      | .agentsMdNative => [⟨"CLAUDE.md", entry.memory⟩]
      | .claudeNative => [])
  files.insertionSort fun a b => collate a.relativePath b.relativePath

/-- The target of a source file; `none` where the runtime has no place for it. -/
def remapTarget (source : String) (runtime : RuntimeClass) : Option String :=
  let parts := split '/' source
  let first := parts.headD ""
  if source = "CLAUDE.md" then
    some (if runtime = .claude then ".claude/CLAUDE.md" else "AGENTS.md")
  else if first = "skills" then
    match runtime with
    | .claude => some (".claude/" ++ source)
    | .codex => some (".agents/" ++ source)
    | .cursor => none
  else if first = "rules" then
    match runtime with
    | .claude => some (".claude/" ++ source)
    | .cursor =>
      if ".md".toList.isSuffixOf (basename source).toList then
        some (".cursor/" ++ String.ofList (source.toList.dropLast.dropLast.dropLast) ++ ".mdc")
      else none
    | .codex => none
  else if first = "agents" ∨ first = "commands" ∨ first = "hooks" then
    if runtime = .claude then some (".claude/" ++ source) else none
  else if source = "settings.json" then
    if runtime = .claude then some ".claude/settings.json" else none
  else if runtime = .claude then some (".claude/" ++ source) else none

variable (sha256Hex : Bytes → String)

inductive SyncCase where
  | wroteMissing | matchedSource | overwroteManaged | drifted
deriving DecidableEq

structure SyncFileResult where
  path : String
  case : SyncCase
deriving DecidableEq

def claudePrimaryKey : String := ".claude/CLAUDE.md"

namespace SyncCall

variable (call : SyncCall)

def claudeSidecarKey : String :=
  ".claude/rules/agent-" ++ call.entry.name ++ ".md"

variable (files : String → Option Bytes)
section
variable (previous : Dict String SyncReceiptEntry)

def refuses : Bool :=
  (call.runtime = .codex || call.runtime = .cursor) && (files "AGENTS.md").isSome &&
    !previous.has "AGENTS.md"

def useClaudeSidecar : Bool :=
  call.runtime = .claude && !previous.has claudePrimaryKey &&
    (files claudePrimaryKey).any fun bytes => sha256Hex bytes ≠ sha256Hex call.entry.memory

def route (sidecar : Bool) (file : SourceFile) : Option SourceFile :=
  (remapTarget file.relativePath call.runtime).map fun primary =>
    ⟨if call.runtime = .claude && file.relativePath = "CLAUDE.md" && sidecar then
      call.claudeSidecarKey else primary, file.bytes⟩

def routed : List SourceFile :=
  (listSourceFilesForEntry call.collate call.entry).filterMap
    (call.route (call.useClaudeSidecar sha256Hex files previous))

end

def fourCase (receiptEntry : Option SyncReceiptEntry) (target : Option Bytes)
    (source : Bytes) : SyncCase :=
  match target with
  | none => .wroteMissing
  | some bytes =>
    if sha256Hex bytes = sha256Hex source then .matchedSource
    else if receiptEntry.any (·.sha256 = sha256Hex bytes) then .overwroteManaged
    else .drifted

def own (source : Bytes) : SyncReceiptEntry :=
  ⟨sha256Hex source, "agent:" ++ call.entry.name⟩

end SyncCall

structure Placing where
  files : String → Option Bytes
  receipt : Dict String SyncReceiptEntry
  results : List SyncFileResult

namespace SyncCall

variable (call : SyncCall)

def placeFile (previous : Dict String SyncReceiptEntry) (s : Placing)
    (source : SourceFile) : Placing :=
  let target := source.relativePath
  let case := fourCase sha256Hex (previous.get? target) (s.files target) source.bytes
  { files := match case with
      | .wroteMissing | .overwroteManaged => Function.update s.files target (some source.bytes)
      | .matchedSource | .drifted => s.files
    receipt := match case with
      | .drifted => (previous.get? target).elim s.receipt (s.receipt.set target)
      | _ => s.receipt.set target (call.own sha256Hex source.bytes)
    results := s.results ++ [⟨target, case⟩] }

def place (previous : Dict String SyncReceiptEntry)
    (files : String → Option Bytes) (sources : List SourceFile) : Placing :=
  sources.foldl (call.placeFile sha256Hex previous) ⟨files, previous, []⟩

def reached (sources : List SourceFile) : List SourceFile :=
  sources.takeWhile fun source => !call.obstructed source.relativePath

end SyncCall

def driftWarnings (results : List SyncFileResult) : List String :=
  (results.filter (·.case = .drifted)).map fun result => "Skipped drifted file: " ++ result.path

structure SyncWorkspaceResult where
  files : List SyncFileResult
  warnings : List String

def refusal : String :=
  "Refusing to sync: workspace already has an AGENTS.md that is not tracked in the id-agents " ++
    "receipt."

variable (call : SyncCall)

def syncWorkspaceFromConfig (w : Workspace) : Except String SyncWorkspaceResult × Workspace :=
  match loadReceipt w.receipt with
  | .error message => (.error message, w)
  | .ok previous =>
    if call.refuses w.files previous.files then (.error refusal, w)
    else
      let sources := call.routed sha256Hex w.files previous.files
      let placed := call.place sha256Hex previous.files w.files (call.reached sources)
      if call.reached sources = sources then
        (.ok ⟨placed.results, driftWarnings placed.results⟩,
          { w with files := placed.files, receipt := .written ⟨1, call.now, placed.receipt⟩ })
      else (.error "EISDIR: illegal operation on a directory", { w with files := placed.files })

inductive Cut where
  | files (n : Nat)
  | beforeRename

def interruptedSync (w : Workspace) (cut : Cut) : Workspace :=
  match loadReceipt w.receipt with
  | .error _ => w
  | .ok previous =>
    if call.refuses w.files previous.files then w
    else
      let sources := call.routed sha256Hex w.files previous.files
      let reached := call.reached sources
      match cut with
      | .files n =>
        { w with files := (call.place sha256Hex previous.files w.files (reached.take n)).files }
      | .beforeRename =>
        { w with
          files := (call.place sha256Hex previous.files w.files reached).files
          temps := if reached = sources then w.temps + 1 else w.temps }

inductive UnsyncOutcome where
  | deleted | preserved | missing
deriving DecidableEq

structure UnsyncFileResult where
  path : String
  outcome : UnsyncOutcome
deriving DecidableEq

def unsyncOutcome (target : Option Bytes) (entry : SyncReceiptEntry) : UnsyncOutcome :=
  match target with
  | none => .missing
  | some bytes => if sha256Hex bytes = entry.sha256 then .deleted else .preserved

def unsyncEntries (receipt : SyncReceipt) : List (String × SyncReceiptEntry) :=
  receipt.files.entries.insertionSort fun a b => call.collate a.1 b.1

def releaseFile (acc : (String → Option Bytes) × List UnsyncFileResult)
    (entry : String × SyncReceiptEntry) : (String → Option Bytes) × List UnsyncFileResult :=
  let outcome := unsyncOutcome sha256Hex (acc.1 entry.1) entry.2
  (match outcome with
    | .deleted => Function.update acc.1 entry.1 none
    | _ => acc.1,
    acc.2 ++ [⟨entry.1, outcome⟩])

def unsyncWorkspaceFromConfig (w : Workspace) : Except String (List UnsyncFileResult) × Workspace :=
  match w.receipt with
  | .absent => (.ok [], w)
  | .unreadable => (.error "Unexpected token in JSON", w)
  | .written receipt =>
    let entries := unsyncEntries call receipt
    let reached := entries.takeWhile fun entry => !call.obstructed entry.1
    let (files, results) := reached.foldl (releaseFile sha256Hex) (w.files, [])
    if reached = entries then (.ok results, { w with files := files, receipt := .absent })
    else (.error "EISDIR: illegal operation on a directory", { w with files := files })

end IdAgents.WorkspaceSync
