import IdAgents.WorkspaceSync.Placement

namespace IdAgents.WorkspaceSync
open JsMap List

inductive Action where
  | sync (call : SyncCall) (cut : Option Cut)
  | unsync (call : SyncCall)
  | edit (path : String) (bytes : Option Bytes)

def Action.act (sha256Hex : Bytes → String) (w : Workspace) : Action → Workspace
  | sync call none => (syncWorkspaceFromConfig sha256Hex call w).2
  | sync call (some cut) => interruptedSync sha256Hex call w cut
  | unsync call => (unsyncWorkspaceFromConfig sha256Hex call w).2
  | edit path bytes => { w with files := Function.update w.files path bytes }

structure Run where
  sha256Hex : Bytes → String
  start : Workspace
  actions : List Action

def Workspace.entry (w : Workspace) (path : String) : Option SyncReceiptEntry :=
  match loadReceipt w.receipt with
  | .ok receipt => receipt.files.get? path
  | .error _ => none

def SyncCall.Offers (sha256Hex : Bytes → String) (call : SyncCall) (w : Workspace) (path : String)
    (bytes : Bytes) : Prop :=
  ∃ previous, loadReceipt w.receipt = .ok previous ∧
    ⟨path, bytes⟩ ∈ call.routed sha256Hex w.files previous.files

namespace Run

def state (run : Run) (n : Nat) : Workspace :=
  (run.actions.take n).foldl (Action.act run.sha256Hex) run.start

def Inherited (run : Run) (path : String) (bytes : Bytes) : Prop :=
  IsManaged run.sha256Hex (run.start.entry path) bytes

def Wrote (run : Run) (n : Nat) (path : String) (bytes : Bytes) : Prop :=
  ∃ j < n, ∃ call cut, run.actions[j]? = some (.sync call cut) ∧
    (run.state j).files path ≠ some bytes ∧ (run.state (j + 1)).files path = some bytes

def Claimed (run : Run) (n : Nat) (path : String) (bytes : Bytes) : Prop :=
  ∃ j < n, ∃ call cut, run.actions[j]? = some (.sync call cut) ∧
    (run.state j).files path = some bytes ∧
    (∃ source, call.Offers run.sha256Hex (run.state j) path source ∧
      run.sha256Hex source = run.sha256Hex bytes) ∧
    IsManaged run.sha256Hex ((run.state (j + 1)).entry path) bytes

structure Preserves (run : Run) (Owned : Nat → String → Bytes → Prop) : Prop where
  takes : ∀ n path bytes, (∀ bytes', run.actions[n]? ≠ some (.edit path bytes')) →
    (run.state n).files path = some bytes → (run.state (n + 1)).files path ≠ some bytes →
    Owned n path bytes
  survives : ∀ n m path bytes, n ≤ m →
    (∀ k bytes', n ≤ k → k < m → run.actions[k]? ≠ some (.edit path bytes')) →
    (run.state n).files path = some bytes → ¬ Owned m path bytes →
    (run.state m).files path = some bytes

def Meets (run : Run) (bytes : Bytes) : Prop :=
  (∃ path, run.start.files path = some bytes) ∨
  (∃ path, .edit path (some bytes) ∈ run.actions) ∨
  ∃ call cut, .sync call cut ∈ run.actions ∧
    (bytes = call.entry.memory ∨ ∃ file ∈ call.entry.directory, file.bytes = bytes)

def CollisionFree (run : Run) : Prop :=
  ∀ bytes bytes', run.Meets bytes → run.Meets bytes' →
    run.sha256Hex bytes = run.sha256Hex bytes' → bytes = bytes'

end Run

theorem entry_of_loaded {w : Workspace} (h : loadReceipt w.receipt = .ok previous)
    (path : String) : w.entry path = previous.files.get? path := by
  rw [Workspace.entry, h]

theorem mem_sourcesAt (h : bytes ∈ sourcesAt path sources) : ⟨path, bytes⟩ ∈ sources := by
  obtain ⟨file, hfile, rfl⟩ := mem_map.mp h
  obtain ⟨hmem, hpath⟩ := mem_filter.mp hfile
  have hpath' : file.relativePath = path := by simpa using hpath
  subst hpath'
  exact hmem

variable (sha256Hex : Bytes → String)

theorem Action.sync_at (w : Workspace) (call : SyncCall) (cut : Option Cut) (path : String) :
    ∃ sources : List Bytes, (∀ bytes ∈ sources, call.Offers sha256Hex w path bytes) ∧
      ((Action.sync call cut).act sha256Hex w).files path =
        (sources.foldl (call.placeAt sha256Hex (w.entry path)) (w.files path, w.entry path)).1 ∧
      (((Action.sync call cut).act sha256Hex w).entry path = w.entry path ∨
        ((Action.sync call cut).act sha256Hex w).entry path =
          (sources.foldl (call.placeAt sha256Hex (w.entry path)) (w.files path, w.entry path)).2) := by
  cases hload : loadReceipt w.receipt with
  | error message =>
    refine ⟨[], by simp, ?_⟩
    have hsame : (Action.sync call cut).act sha256Hex w = w := by
      cases cut with
      | none => simp only [act, syncWorkspaceFromConfig, hload]
      | some cut => simp only [act, interruptedSync, hload]
    rw [hsame]
    exact ⟨rfl, .inl rfl⟩
  | ok previous =>
    by_cases hrefuses : call.refuses w.files previous.files
    · refine ⟨[], by simp, ?_⟩
      have hsame : (Action.sync call cut).act sha256Hex w = w := by
        cases cut with
        | none => simp only [act, syncWorkspaceFromConfig, hload, hrefuses, if_true]
        | some cut => simp only [act, interruptedSync, hload, hrefuses, if_true]
      rw [hsame]
      exact ⟨rfl, .inl rfl⟩
    · have hreached : ∀ source ∈ call.reached (call.routed sha256Hex w.files previous.files),
          source ∈ call.routed sha256Hex w.files previous.files :=
        fun source hsource => (takeWhile_sublist _).subset hsource
      have hoffers {sources : List SourceFile}
          (hsub : ∀ source ∈ sources, source ∈ call.routed sha256Hex w.files previous.files) :
          ∀ bytes ∈ sourcesAt path sources, call.Offers sha256Hex w path bytes :=
        fun bytes hbytes => ⟨previous, hload, hsub _ (mem_sourcesAt hbytes)⟩
      rw [entry_of_loaded hload]
      cases cut with
      | none =>
        refine ⟨_, hoffers hreached, ?_⟩
        simp only [act, syncWorkspaceFromConfig, hload, hrefuses, if_false, Bool.false_eq_true]
        rw [← place_files_at, ← place_receipt_at]
        split
        · exact ⟨rfl, .inr rfl⟩
        · exact ⟨rfl, .inl (entry_of_loaded hload path)⟩
      | some cut =>
        cases cut with
        | files n =>
          have htaken : ∀ source ∈ (call.reached (call.routed sha256Hex w.files previous.files)).take n,
              source ∈ call.routed sha256Hex w.files previous.files :=
            fun source hsource => hreached source (mem_of_mem_take hsource)
          refine ⟨_, hoffers htaken, ?_⟩
          simp only [act, interruptedSync, hload, hrefuses, if_false, Bool.false_eq_true]
          rw [← place_files_at]
          exact ⟨rfl, .inl (entry_of_loaded hload path)⟩
        | beforeRename =>
          refine ⟨_, hoffers hreached, ?_⟩
          simp only [act, interruptedSync, hload, hrefuses, if_false, Bool.false_eq_true]
          rw [← place_files_at]
          exact ⟨rfl, .inl (entry_of_loaded hload path)⟩

theorem foldl_releaseFile_at (acc : (String → Option Bytes) × List UnsyncFileResult)
    (entries : List (String × SyncReceiptEntry)) (path : String) :
    (entries.foldl (releaseFile sha256Hex) acc).1 path = acc.1 path ∨
      (entries.foldl (releaseFile sha256Hex) acc).1 path = none ∧
      ∃ bytes entry, acc.1 path = some bytes ∧ (path, entry) ∈ entries ∧
        entry.sha256 = sha256Hex bytes := by
  induction entries generalizing acc with
  | nil => exact .inl rfl
  | cons item entries ih =>
    obtain ⟨target, entry⟩ := item
    rw [foldl_cons]
    have hstep : (releaseFile sha256Hex acc (target, entry)).1 path = acc.1 path ∨
        (releaseFile sha256Hex acc (target, entry)).1 path = none ∧
        ∃ bytes, acc.1 path = some bytes ∧ target = path ∧ entry.sha256 = sha256Hex bytes := by
      unfold releaseFile unsyncOutcome
      dsimp only
      cases hfile : acc.1 target with
      | none => exact .inl rfl
      | some bytes =>
        dsimp only
        by_cases hmatch : sha256Hex bytes = entry.sha256
        · rw [if_pos hmatch]
          by_cases hpath : path = target
          · subst hpath
            exact .inr ⟨Function.update_self .., bytes, hfile, rfl, hmatch.symm⟩
          · exact .inl (Function.update_of_ne hpath ..)
        · rw [if_neg hmatch]
          exact .inl rfl
    rcases hstep with hsame | ⟨hgone, bytes, hbytes, rfl, hmatch⟩
    · rcases ih (releaseFile sha256Hex acc (target, entry)) with hrest | ⟨hrest, bytes, e, hb, he, hm⟩
      · exact .inl (hrest.trans hsame)
      · exact .inr ⟨hrest, bytes, e, hsame ▸ hb, mem_cons_of_mem _ he, hm⟩
    · right
      refine ⟨?_, bytes, entry, hbytes, mem_cons_self, hmatch⟩
      rcases ih (releaseFile sha256Hex acc (target, entry)) with hrest | ⟨hrest, _⟩
      · exact hrest.trans hgone
      · exact hrest

theorem Action.unsync_at (w : Workspace) (call : SyncCall) (path : String) :
    (((Action.unsync call).act sha256Hex w).files path = w.files path ∨
      ((Action.unsync call).act sha256Hex w).files path = none ∧
      ∃ bytes, w.files path = some bytes ∧ IsManaged sha256Hex (w.entry path) bytes) ∧
    (((Action.unsync call).act sha256Hex w).entry path = w.entry path ∨
      ((Action.unsync call).act sha256Hex w).entry path = none) := by
  cases hreceipt : w.receipt with
  | absent => simp only [act, unsyncWorkspaceFromConfig, hreceipt, true_or, and_self]
  | unreadable => simp only [act, unsyncWorkspaceFromConfig, hreceipt, true_or, and_self]
  | written receipt =>
    have hload : loadReceipt w.receipt = .ok receipt := by rw [hreceipt]; rfl
    have hfiles := foldl_releaseFile_at sha256Hex (w.files, [])
      ((unsyncEntries call receipt).takeWhile fun entry => !call.obstructed entry.1) path
    have hmanaged : ∀ bytes entry, (path, entry) ∈ (unsyncEntries call receipt).takeWhile
        (fun entry => !call.obstructed entry.1) → entry.sha256 = sha256Hex bytes →
        IsManaged sha256Hex (w.entry path) bytes := by
      intro bytes entry hmem hmatch
      have hentries := (mem_insertionSort _).mp ((takeWhile_sublist _).subset hmem)
      exact ⟨entry, by rw [entry_of_loaded hload, Dict.get?_of_mem hentries], hmatch⟩
    have hcase : ((Action.unsync call).act sha256Hex w).files =
        (((unsyncEntries call receipt).takeWhile fun entry => !call.obstructed entry.1).foldl
          (releaseFile sha256Hex) (w.files, [])).1 := by
      simp only [act, unsyncWorkspaceFromConfig, hreceipt]
      split <;> rfl
    rw [hcase]
    constructor
    · rcases hfiles with hsame | ⟨hgone, bytes, entry, hbytes, hmem, hmatch⟩
      · exact .inl hsame
      · exact .inr ⟨hgone, bytes, hbytes, hmanaged bytes entry hmem hmatch⟩
    · simp only [act, unsyncWorkspaceFromConfig, hreceipt]
      split
      · exact .inr rfl
      · left
        simp only [Workspace.entry, hreceipt]

theorem SyncCall.Offers.mem {sha256Hex : Bytes → String} {call : SyncCall}
    (h : call.Offers sha256Hex w path bytes) :
    bytes = call.entry.memory ∨ ∃ file ∈ call.entry.directory, file.bytes = bytes := by
  obtain ⟨previous, _, hmem⟩ := h
  obtain ⟨file, hfile, hroute⟩ := mem_filterMap.mp hmem
  rw [route, Option.map_eq_some_iff] at hroute
  obtain ⟨_, _, hsource⟩ := hroute
  obtain ⟨_, rfl⟩ := SourceFile.mk.inj hsource
  have hlisted := (mem_insertionSort _).mp hfile
  rcases mem_append.mp hlisted with hwalked | hpersona
  · exact .inr ⟨file, (mem_filter.mp hwalked).1, rfl⟩
  · left
    cases hshape : call.entry.shape with
    | claudeNative =>
      rw [hshape] at hpersona
      cases hpersona
    | agentsMdNative =>
      rw [hshape, mem_singleton] at hpersona
      rw [hpersona]

namespace Run

variable {run : Run}

theorem state_succ (h : run.actions[n]? = some action) :
    run.state (n + 1) = action.act run.sha256Hex (run.state n) := by
  rw [state, take_add_one, h, foldl_append]
  rfl

theorem state_succ_end (h : run.actions[n]? = none) : run.state (n + 1) = run.state n := by
  rw [state, state, take_add_one, h, Option.toList_none, append_nil]

def Owns (run : Run) (n : Nat) (path : String) (bytes : Bytes) : Prop :=
  run.Inherited path bytes ∨ run.Wrote n path bytes ∨ run.Claimed n path bytes

theorem Owns.mono (h : run.Owns n path bytes) (hle : n ≤ m) : run.Owns m path bytes := by
  rcases h with hinherited | ⟨j, hj, hwrote⟩ | ⟨j, hj, hclaimed⟩
  · exact .inl hinherited
  · exact .inr (.inl ⟨j, Nat.lt_of_lt_of_le hj hle, hwrote⟩)
  · exact .inr (.inr ⟨j, Nat.lt_of_lt_of_le hj hle, hclaimed⟩)

structure Sound (run : Run) (n : Nat) : Prop where
  met : ∀ path bytes, (run.state n).files path = some bytes → run.Meets bytes
  owned : ∀ path bytes, run.Meets bytes →
    IsManaged run.sha256Hex ((run.state n).entry path) bytes → run.Owns n path bytes

theorem sound_start (run : Run) : run.Sound 0 where
  met path _ hfile := .inl ⟨path, hfile⟩
  owned _ _ _ hmanaged := .inl hmanaged

theorem Sound.owned_of_entry (h : run.Sound n)
    (hentry : (run.state (n + 1)).entry path = (run.state n).entry path ∨
      (run.state (n + 1)).entry path = none) (hmet : run.Meets bytes)
    (hmanaged : IsManaged run.sha256Hex ((run.state (n + 1)).entry path) bytes) :
    run.Owns (n + 1) path bytes := by
  rcases hentry with hsame | hnone
  · rw [hsame] at hmanaged
    exact (h.owned path bytes hmet hmanaged).mono (Nat.le_succ n)
  · obtain ⟨entry, hentry, _⟩ := hmanaged
    rw [hnone] at hentry
    cases hentry

theorem Sound.sync (h : run.Sound n) (hfree : run.CollisionFree)
    (haction : run.actions[n]? = some (.sync call cut)) : run.Sound (n + 1) := by
  have hmem : Action.sync call cut ∈ run.actions := mem_of_getElem? haction
  have hat (path : String) := Action.sync_at run.sha256Hex (run.state n) call cut path
  rw [← state_succ haction] at hat
  have hmet (path : String) (bytes : Bytes) (hfile : (run.state (n + 1)).files path = some bytes) :
      run.Meets bytes := by
    obtain ⟨sources, hoffers, hfiles, _⟩ := hat path
    rw [hfiles] at hfile
    rcases mem_of_placed hfile with hold | hnew
    · exact h.met path bytes hold
    · exact .inr (.inr ⟨call, cut, hmem, (hoffers bytes hnew).mem⟩)
  refine ⟨hmet, fun path bytes hbytes hmanaged => ?_⟩
  obtain ⟨sources, hoffers, hfiles, hentry⟩ := hat path
  rcases hentry with hsame | hplaced
  · exact h.owned_of_entry (.inl hsame) hbytes hmanaged
  · rcases entry_of_placed run.sha256Hex call ((run.state n).entry path)
      ((run.state n).files path) sources with
      hsame | ⟨bytes', hfile, hmanaged', source, hsource, hmatch⟩
    · exact h.owned_of_entry (.inl (hplaced.trans hsame)) hbytes hmanaged
    · rw [← hfiles] at hfile
      rw [← hplaced] at hmanaged'
      -- the entry has the hash of the file, and that is the only one that has it
      have hsame : bytes = bytes' := by
        obtain ⟨entry, hentry, hhash⟩ := hmanaged
        obtain ⟨entry', hentry', hhash'⟩ := hmanaged'
        obtain rfl := Option.some.inj (hentry.symm.trans hentry')
        exact hfree bytes bytes' hbytes (hmet path bytes' hfile) (hhash.symm.trans hhash')
      subst hsame
      by_cases hold : (run.state n).files path = some bytes
      · exact .inr (.inr ⟨n, Nat.lt_succ_self n, call, cut, haction, hold,
          ⟨source, hoffers source hsource, hmatch⟩, hmanaged⟩)
      · exact .inr (.inl ⟨n, Nat.lt_succ_self n, call, cut, haction, hold, hfile⟩)

theorem Sound.unsync (h : run.Sound n)
    (haction : run.actions[n]? = some (.unsync call)) : run.Sound (n + 1) := by
  have hat (path : String) := Action.unsync_at run.sha256Hex (run.state n) call path
  rw [← state_succ haction] at hat
  constructor
  · intro path bytes hfile
    rcases (hat path).1 with hsame | ⟨hgone, _⟩
    · exact h.met path bytes (hsame.symm.trans hfile)
    · rw [hgone] at hfile
      cases hfile
  · intro path bytes hbytes hmanaged
    exact h.owned_of_entry (hat path).2 hbytes hmanaged

theorem Sound.edit (h : run.Sound n)
    (haction : run.actions[n]? = some (.edit target content)) : run.Sound (n + 1) := by
  have hentry (path : String) : (run.state (n + 1)).entry path = (run.state n).entry path := by
    rw [state_succ haction]
    rfl
  constructor
  · intro path bytes hfile
    rw [state_succ haction] at hfile
    change Function.update (run.state n).files target content path = some bytes at hfile
    by_cases hpath : path = target
    · subst hpath
      rw [Function.update_self] at hfile
      subst hfile
      exact .inr (.inl ⟨path, mem_of_getElem? haction⟩)
    · rw [Function.update_of_ne hpath] at hfile
      exact h.met path bytes hfile
  · intro path bytes hbytes hmanaged
    exact h.owned_of_entry (.inl (hentry path)) hbytes hmanaged

theorem sound (run : Run) (hfree : run.CollisionFree) (n : Nat) : run.Sound n := by
  induction n with
  | zero => exact run.sound_start
  | succ n ih =>
    cases haction : run.actions[n]? with
    | none =>
      constructor
      · intro path bytes hfile
        rw [state_succ_end haction] at hfile
        exact ih.met path bytes hfile
      · intro path bytes hbytes hmanaged
        rw [state_succ_end haction] at hmanaged
        exact (ih.owned path bytes hbytes hmanaged).mono (Nat.le_succ n)
    | some action =>
      cases action with
      | sync call cut => exact ih.sync hfree haction
      | unsync call => exact ih.unsync haction
      | edit path bytes => exact ih.edit haction

theorem managed_of_taken (hedit : ∀ bytes', run.actions[n]? ≠ some (.edit path bytes'))
    (hfile : (run.state n).files path = some bytes)
    (hgone : (run.state (n + 1)).files path ≠ some bytes) :
    IsManaged run.sha256Hex ((run.state n).entry path) bytes := by
  cases haction : run.actions[n]? with
  | none =>
    rw [state_succ_end haction] at hgone
    exact absurd hfile hgone
  | some action =>
    rw [state_succ haction] at hgone
    cases action with
    | sync call cut =>
      obtain ⟨sources, _, hfiles, _⟩ := Action.sync_at run.sha256Hex (run.state n) call cut path
      rw [hfiles, hfile] at hgone
      exact managed_of_placed hgone
    | unsync call =>
      rcases (Action.unsync_at run.sha256Hex (run.state n) call path).1 with
        hsame | ⟨_, bytes', hbytes', hmanaged⟩
      · exact absurd (hsame.trans hfile) hgone
      · obtain rfl := Option.some.inj (hbytes'.symm.trans hfile)
        exact hmanaged
    | edit target content =>
      have hne : path ≠ target := by
        rintro rfl
        exact hedit content haction
      change Function.update (run.state n).files target content path ≠ some bytes at hgone
      rw [Function.update_of_ne hne] at hgone
      exact absurd hfile hgone

theorem takes_owned (hfree : run.CollisionFree)
    (hedit : ∀ bytes', run.actions[n]? ≠ some (.edit path bytes'))
    (hfile : (run.state n).files path = some bytes)
    (hgone : (run.state (n + 1)).files path ≠ some bytes) : run.Owns n path bytes :=
  (run.sound hfree n).owned path bytes ((run.sound hfree n).met path bytes hfile)
    (managed_of_taken hedit hfile hgone)

/-- A workspace loses only bytes that a sync wrote there, or found there and claimed. -/
theorem preserves (run : Run) (hfree : run.CollisionFree) : run.Preserves fun n path bytes =>
      run.Inherited path bytes ∨ run.Wrote n path bytes ∨ run.Claimed n path bytes where
  takes _ _ _ := takes_owned hfree
  survives n m path bytes hle hedit hfile hfrees := by
    induction m, hle using Nat.le_induction with
    | base => exact hfile
    | succ m hle ih =>
      have hkept : (run.state m).files path = some bytes := by
        apply ih
        · intro k bytes' hk hlt
          exact hedit k bytes' hk (Nat.lt_succ_of_lt hlt)
        · intro howns
          exact hfrees (Owns.mono howns (Nat.le_succ m))
      by_contra hgone
      apply hfrees
      apply Owns.mono _ (Nat.le_succ m)
      exact takes_owned hfree (fun bytes' => hedit m bytes' hle (Nat.lt_succ_self m)) hkept hgone

end Run

def personaEntry (memory : Bytes) : LibraryAgentEntry where
  name := "dev"
  shape := .claudeNative
  directory := [⟨"CLAUDE.md", memory⟩]
  memory := memory
  persona := by simp

def claudeSync (memory : Bytes) : SyncCall where
  runtime := .claude
  entry := personaEntry memory
  collate a b := a ≤ b
  obstructed _ := false
  now := "2026-01-01T00:00:00.000Z"

def bytesText (bytes : Bytes) : String :=
  String.ofList (bytes.map fun byte => Char.ofNat byte.toNat)

def sameBytes : Run where
  sha256Hex := bytesText
  start := ⟨fun path => if path = claudePrimaryKey then some [72] else none, .absent, 0⟩
  actions := [.sync (claudeSync [72]) none, .unsync (claudeSync [72])]

theorem not_preserves : ¬ sameBytes.Preserves fun n path bytes =>
    sameBytes.Inherited path bytes ∨ sameBytes.Wrote n path bytes := by
  intro h
  have hfile : (sameBytes.state 1).files claudePrimaryKey = some [72] := by decide +kernel
  have hgone : (sameBytes.state 2).files claudePrimaryKey ≠ some [72] := by decide +kernel
  have hedit : ∀ bytes', sameBytes.actions[1]? ≠ some (.edit claudePrimaryKey bytes') := by
    intro bytes' hsame
    cases hsame
  rcases h.takes 1 claudePrimaryKey [72] hedit hfile hgone with ⟨entry, hentry, _⟩ | hwrote
  · cases hentry
  · obtain ⟨j, hj, call, cut, _, hbefore, _⟩ := hwrote
    obtain rfl : j = 0 := by omega
    exact hbefore rfl

def editedPersona : Run where
  sha256Hex := bytesText
  start := ⟨fun _ => none, .absent, 0⟩
  actions := [.sync (claudeSync [72]) none, .edit claudePrimaryKey (some [73]),
    .sync (claudeSync [74]) none, .unsync (claudeSync [74])]

theorem preserves_editedPersona : editedPersona.Preserves fun n path bytes =>
    editedPersona.Inherited path bytes ∨ editedPersona.Wrote n path bytes ∨
      editedPersona.Claimed n path bytes := by
  apply Run.preserves
  have hmeets : ∀ bytes, editedPersona.Meets bytes → bytes ∈ [[72], [73], [(74 : UInt8)]] := by
    rintro bytes (⟨_, hstart⟩ | ⟨_, hedit⟩ | ⟨call, cut, hsync, hbytes⟩)
    · cases hstart
    · simp only [editedPersona, mem_cons, reduceCtorEq, Action.edit.injEq, Option.some.injEq,
        false_or, or_false, not_mem_nil] at hedit
      simp [hedit.2]
    · simp only [editedPersona, mem_cons, reduceCtorEq, Action.sync.injEq, false_or, or_false,
        not_mem_nil] at hsync
      rcases hsync with ⟨rfl, _⟩ | ⟨rfl, _⟩
      · rcases hbytes with rfl | ⟨file, hfile, rfl⟩
        · decide
        · obtain rfl := mem_singleton.mp hfile
          decide
      · rcases hbytes with rfl | ⟨file, hfile, rfl⟩
        · decide
        · obtain rfl := mem_singleton.mp hfile
          decide
  intro bytes bytes' hbytes hbytes' hsame
  have hdistinct : ∀ b ∈ [[72], [73], [(74 : UInt8)]], ∀ b' ∈ [[72], [73], [(74 : UInt8)]],
      bytesText b = bytesText b' → b = b' := by decide +kernel
  exact hdistinct bytes (hmeets bytes hbytes) bytes' (hmeets bytes' hbytes') hsame

end IdAgents.WorkspaceSync
