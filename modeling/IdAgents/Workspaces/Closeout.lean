import Mathlib.Data.List.Lex
import IdAgents.Workspaces.Reaper

namespace IdAgents.Workspaces
open JsText

structure LeasedRoots where
  leaseId : String
  worktreePath : String
  protectedRoot : String

inductive CleanupAction where
  | keptForReview | removed | leftDirty
deriving DecidableEq, Repr

structure WorkspaceCloseout where
  leaseId : String
  worktreePath : String
  protectedRoot : String
  protectedRootStatusBefore : String
  protectedRootStatusAfter : String
  worktreeStatusAfter : String
  cleanupAction : Option CleanupAction := none

inductive CloseoutCode where
  | leaseMismatch | worktreeMismatch | protectedRootDirtyAfter | dirtyWorktreeOnSuccess
deriving DecidableEq, Repr

structure CloseoutValidation where
  ok : Bool
  code : Option CloseoutCode := none
  errors : List String
  protectedRootDiff : Option (List String) := none
deriving DecidableEq, Repr

/-- `/\.worktrees\//` or `/\.worktrees$/` -/
def namesWorktrees (line : String) : Bool :=
  includes line ".worktrees/" || ".worktrees".toList.isSuffixOf line.toList

def normLines (s : String) : List String :=
  ((((split '\n' s).map trimEnd).filter (· ≠ "")).filter fun l => !namesWorktrees l).insertionSort
    fun a b => a.toList.flatMap codeUnits ≤ b.toList.flatMap codeUnits

def diffNew (before after : String) : List String :=
  (normLines after).filter fun l => !(normLines before).contains l

/-- `p.replace(/\/+$/, "")` -/
def normPath (p : String) : String :=
  String.ofList (p.toList.reverse.dropWhile (· = '/')).reverse

variable (lease : LeasedRoots)

variable (evidence : WorkspaceCloseout)
section
variable (dispatchSucceeded : Bool)

def validateWorkspaceCloseout : CloseoutValidation :=
  let newlyDirty := diffNew evidence.protectedRootStatusBefore evidence.protectedRootStatusAfter
  if evidence.leaseId ≠ lease.leaseId then
    { ok := false, code := some .leaseMismatch
      errors := ["workspace.lease_id '" ++ evidence.leaseId ++
        "' does not match dispatch lease '" ++ lease.leaseId ++ "'"] }
  else if normPath evidence.worktreePath ≠ normPath lease.worktreePath then
    { ok := false, code := some .worktreeMismatch
      errors := ["workspace.worktree_path '" ++ evidence.worktreePath ++
        "' does not match leased '" ++ lease.worktreePath ++ "'"] }
  else if newlyDirty ≠ [] then
    { ok := false, code := some .protectedRootDirtyAfter
      errors := ["protected root " ++ lease.protectedRoot ++
        " was mutated during a leased build (" ++ toString newlyDirty.length ++ " path(s))"]
      protectedRootDiff := some newlyDirty }
  else if dispatchSucceeded && trim evidence.worktreeStatusAfter ≠ "" then
    { ok := false, code := some .dirtyWorktreeOnSuccess
      errors := ["worktree is dirty at successful closeout (uncommitted changes left behind)"] }
  else { ok := true, errors := [] }

/-- The manager's own directory, in a line `XY path` of a status. -/
def isCustodyEntry (line : String) : Bool :=
  let path := line.toList.drop 3
  path = ".worktrees".toList || ".worktrees/".toList.isPrefixOf path

def statusEntries (status : String) : List String :=
  (split '\n' status).filter fun line => line ≠ "" && !isCustodyEntry line

def KeepsRoot : Prop :=
  (validateWorkspaceCloseout lease evidence dispatchSucceeded).ok → ∀ line,
    line ∈ statusEntries evidence.protectedRootStatusAfter ↔
      line ∈ statusEntries evidence.protectedRootStatusBefore

/-- The comparison does not look at a line that is blank or names a directory like the manager's,
and takes a line for an old one that differs from it at the end only. -/
def isOverlooked (before line : String) : Bool :=
  trimEnd line = "" || namesWorktrees (trimEnd line) || (normLines before).contains (trimEnd line)

def Unsuspected : Prop :=
  evidence.leaseId = lease.leaseId ∧ normPath evidence.worktreePath = normPath lease.worktreePath ∧
    diffNew evidence.protectedRootStatusBefore evidence.protectedRootStatusAfter = [] ∧
    (dispatchSucceeded → trim evidence.worktreeStatusAfter = "")

def NothingHidden : Prop :=
  (∀ line ∈ statusEntries evidence.protectedRootStatusBefore,
    line ∈ statusEntries evidence.protectedRootStatusAfter) ∧
  ∀ line ∈ statusEntries evidence.protectedRootStatusAfter,
    isOverlooked evidence.protectedRootStatusBefore line →
      line ∈ statusEntries evidence.protectedRootStatusBefore

theorem validateWorkspaceCloseout_ok :
    (validateWorkspaceCloseout lease evidence dispatchSucceeded).ok ↔
      Unsuspected lease evidence dispatchSucceeded := by
  unfold validateWorkspaceCloseout Unsuspected
  dsimp only
  split
  · next h => simp [h]
  next hlease =>
  split
  · next h => simp [h]
  next hworktree =>
  split
  · next h => simp [h]
  next hdiff =>
  split
  · next h =>
    simp only [Bool.and_eq_true, decide_eq_true_eq] at h
    simp [h.1, h.2]
  · next h =>
    simp only [Bool.and_eq_true, decide_eq_true_eq, not_and, not_not] at h
    exact iff_of_true rfl ⟨not_not.mp hlease, not_not.mp hworktree, not_not.mp hdiff, h⟩

end

theorem mem_normLines : l ∈ normLines s ↔ (∃ line ∈ split '\n' s, trimEnd line = l) ∧ l ≠ "" ∧
      namesWorktrees l = false := by
  rw [normLines]
  rw [List.mem_insertionSort, List.mem_filter, List.mem_filter, List.mem_map]
  simp only [decide_eq_true_eq, Bool.not_eq_true', and_assoc]

theorem diffNew_eq_nil :
    diffNew before after = [] ↔ ∀ l ∈ normLines after, l ∈ normLines before := by
  rw [diffNew]
  simp [List.filter_eq_nil_iff]

theorem isOverlooked_of_diffNew (h : diffNew before after = [])
    (hline : line ∈ statusEntries after) : isOverlooked before line := by
  rw [diffNew_eq_nil] at h
  have hsplit : line ∈ split '\n' after := (List.mem_filter.mp hline).1
  rw [isOverlooked]
  by_cases hblank : trimEnd line = ""
  · simp [hblank]
  by_cases hnames : namesWorktrees (trimEnd line)
  · simp [hnames]
  · have hnorm : trimEnd line ∈ normLines after :=
      mem_normLines.mpr ⟨⟨line, hsplit, rfl⟩, hblank, Bool.eq_false_iff.mpr hnames⟩
    simp [h _ hnorm]

def someLease : LeasedRoots := ⟨"lease-1", "/repo/.worktrees/a", "/repo"⟩

def revertedRoot : WorkspaceCloseout where
  leaseId := "lease-1"
  worktreePath := "/repo/.worktrees/a"
  protectedRoot := "/repo"
  protectedRootStatusBefore := " M notes.md\n"
  protectedRootStatusAfter := ""
  worktreeStatusAfter := ""

end IdAgents.Workspaces
