import Mathlib.Data.List.TakeWhile
import IdAgents.WorkspaceSync.Ownership

namespace IdAgents.WorkspaceSync
open JsText JsMap List

variable {sha256Hex : Bytes → String} {call : SyncCall}

variable {e : Option SyncReceiptEntry}

theorem isManaged_iff :
    IsManaged sha256Hex e bytes ↔ e.map (·.sha256) = some (sha256Hex bytes) := by
  rw [Option.map_eq_some_iff]
  rfl

theorem placeAt_ne_none (e : Option SyncReceiptEntry) (t : Option Bytes)
    (r : Option SyncReceiptEntry) (source : Bytes) :
    (call.placeAt sha256Hex e (t, r) source).1 ≠ none := by
  rcases placeAt_cases sha256Hex call e t r source with
    ⟨_, hplace⟩ | ⟨_, rfl, _, hplace⟩ | ⟨_, rfl, _, _, hplace⟩ <;> rw [hplace] <;> simp

variable {t : Option Bytes} {r : Option SyncReceiptEntry}

theorem placed_ne_none_of_ne (h : t ≠ none) (sources : List Bytes) :
    (sources.foldl (call.placeAt sha256Hex e) (t, r)).1 ≠ none := by
  induction sources generalizing t r with
  | nil => exact h
  | cons source sources ih =>
    rw [foldl_cons, ← Prod.mk.eta (p := call.placeAt sha256Hex e (t, r) source)]
    exact ih (placeAt_ne_none e t r source)

theorem placed_ne_none (source : Bytes) (sources : List Bytes) :
    ((source :: sources).foldl (call.placeAt sha256Hex e) (t, r)).1 ≠ none := by
  rw [foldl_cons, ← Prod.mk.eta (p := call.placeAt sha256Hex e (t, r) source)]
  exact placed_ne_none_of_ne (placeAt_ne_none e t r source) sources

theorem placed_again (e : Option SyncReceiptEntry) (t : Option Bytes) (sources : List Bytes) :
    sources.foldl (call.placeAt sha256Hex e)
      ((sources.foldl (call.placeAt sha256Hex e) (t, e)).1, e) =
    sources.foldl (call.placeAt sha256Hex e) (t, e) := by
  induction sources using reverseRecOn with
  | nil => rfl
  | append_singleton sources source ih =>
    simp only [foldl_append, foldl_cons, foldl_nil]
    have hlast := placeAt_cases sha256Hex call e
      (sources.foldl (call.placeAt sha256Hex e) (t, e)).1
      (sources.foldl (call.placeAt sha256Hex e) (t, e)).2 source
    rcases hlast with ⟨hmanaged, hplace⟩ | ⟨bytes, hbytes, hmatch, hplace⟩ |
      ⟨bytes, hbytes, hdrifted, hmanaged, hplace⟩
    · rw [hplace]
      -- the source was written: unless it is the first, the receipt does not have it
      by_cases hown : IsManaged sha256Hex e source
      · have hfirst : sources = [] := by
          cases hfile : (sources.foldl (call.placeAt sha256Hex e) (t, e)).1 with
          | none =>
            rcases sources with _ | ⟨s, rest⟩
            · rfl
            · exact absurd hfile (placed_ne_none s rest)
          | some bytes =>
            obtain ⟨hbytes, hne⟩ := hmanaged bytes hfile
            rw [isManaged_iff] at hbytes hown
            exact absurd (Option.some.inj (hbytes.symm.trans hown)) hne
        subst hfirst
        rw [foldl_nil]
        simp only [SyncCall.placeAt, SyncCall.fourCase, if_true]
      · have hstays : (sources.foldl (call.placeAt sha256Hex e) (some source, e)).1 = some source :=
          placed_of_not_managed hown sources
        have hmatched := placeAt_cases sha256Hex call e (some source)
          (sources.foldl (call.placeAt sha256Hex e) (some source, e)).2 source
        rw [← Prod.mk.eta (p := sources.foldl _ (some source, e)), hstays]
        rcases hmatched with ⟨hwritten, _⟩ | ⟨_, _, _, hplace'⟩ | ⟨_, hsame, hne, _⟩
        · exact absurd rfl (hwritten source rfl).2
        · exact hplace'
        · exact absurd (by rw [Option.some.inj hsame]) hne
    · rw [hplace]
      dsimp only
      rw [ih]
      exact hplace
    · rw [hplace]
      dsimp only
      rw [ih]
      exact hplace

/-- By the hashes of the file, of the receipt's entry and of the sources routed there: a file that
the receipt does not have stays, else the first source with another hash than the entry's stays. -/
def lastingHash (t e : Option String) (sources : List String) : Option String :=
  if t.isSome ∧ t ≠ e then t else (sources.find? (some · ≠ e)).or e

theorem lastingHash_managed (e : Option String) (source : String) (sources : List String)
    {t : Option String} (ht : t = none ∨ t = e) (h : some source = e) :
    lastingHash t e (source :: sources) = lastingHash (some source) e sources := by
  have hleft : ¬ (t.isSome ∧ t ≠ e) := by
    rcases ht with rfl | rfl <;> simp
  have hright : ¬ ((some source).isSome ∧ some source ≠ e) := by simp [h]
  rw [lastingHash, lastingHash, if_neg hleft, if_neg hright, find?_cons_of_neg (by simp [h])]

theorem lastingHash_first (e : Option String) (source : String) (sources : List String)
    {t : Option String} (ht : t = none ∨ t = e) (h : some source ≠ e) :
    lastingHash t e (source :: sources) = some source := by
  have hleft : ¬ (t.isSome ∧ t ≠ e) := by
    rcases ht with rfl | rfl <;> simp
  rw [lastingHash, if_neg hleft, find?_cons_of_pos (by simp [h]), Option.some_or]

variable (sha256Hex call) in
theorem hash_placed (h : t ≠ none ∨ sources ≠ []) :
    (sources.foldl (call.placeAt sha256Hex e) (t, r)).1.map sha256Hex =
      lastingHash (t.map sha256Hex) (e.map (·.sha256)) (sources.map sha256Hex) := by
  have hunmanaged {bytes : Bytes} (hne : some (sha256Hex bytes) ≠ e.map (·.sha256)) :
      ¬ IsManaged sha256Hex e bytes := fun hmanaged => hne (isManaged_iff.mp hmanaged).symm
  have hstays {bytes : Bytes} {r : Option SyncReceiptEntry} (rest : List Bytes)
      (hne : some (sha256Hex bytes) ≠ e.map (·.sha256)) :
      (rest.foldl (call.placeAt sha256Hex e) (some bytes, r)).1.map sha256Hex =
        some (sha256Hex bytes) := by
    rw [placed_of_not_managed (hunmanaged hne)]
    rfl
  induction sources generalizing t r with
  | nil =>
    obtain ⟨bytes, rfl⟩ := Option.ne_none_iff_exists'.mp (h.resolve_right fun hne => hne rfl)
    by_cases hmanaged : some (sha256Hex bytes) = e.map (·.sha256)
    · simp [lastingHash, hmanaged]
    · simp [lastingHash, hmanaged]
  | cons source sources ih =>
    rw [foldl_cons, map_cons]
    by_cases hkept : ∃ bytes, t = some bytes ∧ some (sha256Hex bytes) ≠ e.map (·.sha256)
    · obtain ⟨bytes, rfl, hne⟩ := hkept
      have hleft : ((some bytes).map sha256Hex).isSome ∧
          (some bytes).map sha256Hex ≠ e.map (·.sha256) := ⟨rfl, hne⟩
      rw [← foldl_cons, hstays _ hne, lastingHash, if_pos hleft]
      rfl
    · have ht : t.map sha256Hex = none ∨ t.map sha256Hex = e.map (·.sha256) := by
        cases t with
        | none => exact .inl rfl
        | some bytes =>
          right
          by_contra hne
          exact hkept ⟨bytes, rfl, hne⟩
      rcases placeAt_cases sha256Hex call e t r source with
        ⟨_, hplace⟩ | ⟨bytes, rfl, hmatch, hplace⟩ | ⟨bytes, rfl, _, hnot, _⟩
      · rw [hplace]
        by_cases hsource : some (sha256Hex source) = e.map (·.sha256)
        · rw [ih (.inl (Option.some_ne_none _)), lastingHash_managed _ _ _ ht hsource]
          rfl
        · rw [hstays _ hsource, lastingHash_first _ _ _ ht hsource]
      · rw [hplace]
        have hsource : some (sha256Hex source) = e.map (·.sha256) := by
          rcases ht with hnone | hsame
          · cases hnone
          · rw [← hmatch]
            exact hsame
        rw [ih (.inl (Option.some_ne_none _)), lastingHash_managed _ _ _ ht hsource]
        change lastingHash (some (sha256Hex bytes)) _ _ = _
        rw [hmatch]
      · rcases ht with hnone | hsame
        · cases hnone
        · exact absurd (isManaged_iff.mpr hsame.symm) hnot

theorem managed_placed (hsources : sources ≠ [])
    (h : (sources.foldl (call.placeAt sha256Hex e) (t, e)).1 = some bytes) :
    IsManaged sha256Hex (sources.foldl (call.placeAt sha256Hex e) (t, e)).2 bytes ↔
      if e.isSome then (sources.map sha256Hex).getLast? = some (sha256Hex bytes)
      else sha256Hex bytes ∈ sources.map sha256Hex := by
  induction sources using reverseRecOn with
  | nil => exact absurd rfl hsources
  | append_singleton sources source ih =>
    have hrecorded (hmatch : sha256Hex bytes = sha256Hex source) :
        IsManaged sha256Hex (some (call.own sha256Hex source)) bytes ↔
          if e.isSome then ((sources ++ [source]).map sha256Hex).getLast? = some (sha256Hex bytes)
          else sha256Hex bytes ∈ (sources ++ [source]).map sha256Hex := by
      have hown : IsManaged sha256Hex (some (call.own sha256Hex source)) bytes :=
        ⟨_, rfl, hmatch.symm⟩
      refine iff_of_true hown ?_
      cases e <;> simp [hmatch]
    rw [foldl_append, foldl_cons, foldl_nil] at h ⊢
    rcases placeAt_cases sha256Hex call e
      (sources.foldl (call.placeAt sha256Hex e) (t, e)).1
      (sources.foldl (call.placeAt sha256Hex e) (t, e)).2 source with
      ⟨_, hplace⟩ | ⟨bytes', hbytes, hmatch, hplace⟩ | ⟨bytes', hbytes, hdrifted, hnot, hplace⟩
    · rw [hplace] at h ⊢
      obtain rfl := Option.some.inj h
      exact hrecorded rfl
    · rw [hplace] at h ⊢
      obtain rfl := Option.some.inj (hbytes.symm.trans h)
      exact hrecorded hmatch
    · rw [hplace] at h ⊢
      obtain rfl := Option.some.inj (hbytes.symm.trans h)
      cases e with
      | some entry =>
        refine iff_of_false hnot ?_
        have hlast : sha256Hex source ≠ sha256Hex bytes' := fun hsame => hdrifted hsame.symm
        simpa using hlast
      | none =>
        change IsManaged sha256Hex (sources.foldl (call.placeAt sha256Hex none) (t, none)).2 _ ↔ _
        rcases eq_nil_or_concat' sources with rfl | ⟨_, _, rfl⟩
        · refine iff_of_false hnot ?_
          simpa using hdrifted
        · rw [ih (by simp) h]
          simp [hdrifted]

def SyncCase.isQuiet : SyncCase → Bool
  | .matchedSource | .drifted => true
  | .wroteMissing | .overwroteManaged => false

theorem fourCase_quiet : (SyncCall.fourCase sha256Hex e t source).isQuiet ↔
      ∃ bytes, t = some bytes ∧
        (sha256Hex bytes = sha256Hex source ∨ ¬ IsManaged sha256Hex e bytes) := by
  cases t with
  | none => simp [SyncCall.fourCase, SyncCase.isQuiet]
  | some bytes =>
    have hany : e.any (·.sha256 = sha256Hex bytes) = true ↔ IsManaged sha256Hex e bytes := by
      cases e <;> simp [IsManaged]
    rw [SyncCall.fourCase]
    by_cases hmatch : sha256Hex bytes = sha256Hex source
    · simp [hmatch, SyncCase.isQuiet]
    · by_cases hmanaged : IsManaged sha256Hex e bytes
      · simp [hmatch, hany.mpr hmanaged, hmanaged, SyncCase.isQuiet]
      · have hnot : e.any (·.sha256 = sha256Hex bytes) = false := by
          rw [Bool.eq_false_iff]
          exact fun h => hmanaged (hany.mp h)
        simp [hmatch, hnot, hmanaged, SyncCase.isQuiet]

theorem results_subset (previous : Dict String SyncReceiptEntry) (sources : List SourceFile)
    (s : Placing) : s.results ⊆ (sources.foldl (call.placeFile sha256Hex previous) s).results := by
  induction sources generalizing s with
  | nil => exact fun _ h => h
  | cons source sources ih =>
    intro result hresult
    exact ih _ (mem_append_left _ hresult)

variable (sha256Hex call) in
theorem foldl_placeFile_quiet (previous : Dict String SyncReceiptEntry) (s : Placing)
    (sources : List SourceFile) (hs : ∀ result ∈ s.results, result.case.isQuiet) :
    ((∀ result ∈ (sources.foldl (call.placeFile sha256Hex previous) s).results,
        result.case.isQuiet) ↔
      ∀ source ∈ sources, (SyncCall.fourCase sha256Hex (previous.get? source.relativePath)
        (s.files source.relativePath) source.bytes).isQuiet) ∧
    ((∀ source ∈ sources, (SyncCall.fourCase sha256Hex (previous.get? source.relativePath)
        (s.files source.relativePath) source.bytes).isQuiet) →
      (sources.foldl (call.placeFile sha256Hex previous) s).files = s.files) := by
  induction sources generalizing s with
  | nil => simpa using hs
  | cons source sources ih =>
    rw [foldl_cons]
    by_cases hquiet : (SyncCall.fourCase sha256Hex (previous.get? source.relativePath)
        (s.files source.relativePath) source.bytes).isQuiet
    · have hfiles : (call.placeFile sha256Hex previous s source).files = s.files := by
        rw [SyncCall.placeFile]
        dsimp only
        revert hquiet
        cases SyncCall.fourCase sha256Hex (previous.get? source.relativePath)
          (s.files source.relativePath) source.bytes <;> simp [SyncCase.isQuiet]
      have hresults : ∀ result ∈ (call.placeFile sha256Hex previous s source).results,
          result.case.isQuiet := by
        intro result hresult
        rcases mem_append.mp hresult with hold | hnew
        · exact hs result hold
        · rw [mem_singleton.mp hnew]
          exact hquiet
      obtain ⟨hiff, hsame⟩ := ih (call.placeFile sha256Hex previous s source) hresults
      rw [hfiles] at hiff hsame
      constructor
      · rw [hiff, forall_mem_cons]
        exact (and_iff_right hquiet).symm
      · intro hall
        exact hsame (forall_mem_cons.mp hall).2
    · constructor
      · refine iff_of_false ?_ fun hall => hquiet (hall source mem_cons_self)
        intro hall
        apply hquiet
        exact hall _ (results_subset previous sources _ (mem_append_right _
          (mem_singleton_self _)))
      · intro hall
        exact absurd (hall source mem_cons_self) hquiet

def Workspace.fileHash (sha256Hex : Bytes → String) (w : Workspace) (path : String) :
    Option String := (w.files path).map sha256Hex

def Workspace.entryHash (w : Workspace) (path : String) : Option String :=
  (w.entry path).map (·.sha256)

namespace SyncCall

def later (call : SyncCall) (now : String) : SyncCall := { call with now }
section
variable (sha256Hex : Bytes → String)
section
variable (call : SyncCall)
section
variable (w : Workspace)

def Recovers (cut : Cut) : Prop :=
  ∀ result, (syncWorkspaceFromConfig sha256Hex call w).1 = .ok result → ∀ now,
    let again := syncWorkspaceFromConfig sha256Hex (call.later now)
      (interruptedSync sha256Hex call w cut)
    (∃ result', again.1 = .ok result') ∧
      again.2.files = (syncWorkspaceFromConfig sha256Hex call w).2.files ∧
      again.2.temps = (syncWorkspaceFromConfig sha256Hex call w).2.temps ∧
      ∀ path, again.2.entry path = (syncWorkspaceFromConfig sha256Hex call w).2.entry path

def Settles : Prop :=
  ∀ result, (syncWorkspaceFromConfig sha256Hex call w).1 = .ok result → ∀ now,
    let synced := (syncWorkspaceFromConfig sha256Hex call w).2
    let again := syncWorkspaceFromConfig sha256Hex (call.later now) synced
    (∃ result', again.1 = .ok result' ∧ ∀ file ∈ result'.files, file.case.isQuiet) ∧
      again.2.files = synced.files ∧ ∀ path, again.2.entry path = synced.entry path

def Accepts (previous : SyncReceipt) : Prop :=
  loadReceipt w.receipt = .ok previous ∧ call.refuses w.files previous.files = false ∧
    ∀ source ∈ call.routed sha256Hex w.files previous.files, call.obstructed source.relativePath =
      false

/-- The interruption comes before the temporary receipt and, for a runtime with an AGENTS.md that the
receipt does not have yet, before that is written. -/
def SafeCut (previous : SyncReceipt) : Cut → Prop
  | .beforeRename => False
  | .files n => call.runtime ≠ .claude → previous.files.has "AGENTS.md" = false →
      ∀ source ∈ (call.routed sha256Hex w.files previous.files).take n,
        source.relativePath ≠ "AGENTS.md"

end

end

end

/-- The sources of a target agree on what it is left with, or the receipt will not have that: they
are not it, or the last is not where there was an entry before. -/
def SettledAt (t e : Option String) (sources : List String) : Prop :=
  (∀ source ∈ sources, some source = lastingHash t e sources) ∨
    if e.isSome then sources.getLast? ≠ lastingHash t e sources
    else ∀ source ∈ sources, some source ≠ lastingHash t e sources

end SyncCall

variable {previous : SyncReceipt} {w : Workspace}

theorem SyncCall.reached_of_clear (call : SyncCall) {sources : List SourceFile}
    (h : ∀ source ∈ sources, call.obstructed source.relativePath = false) :
    call.reached sources = sources := by
  rw [reached, takeWhile_eq_self_iff]
  intro source hsource
  rw [h source hsource]
  rfl

theorem syncWorkspaceFromConfig_of_accepts (h : call.Accepts sha256Hex w previous) :
    syncWorkspaceFromConfig sha256Hex call w =
      let placed := call.place sha256Hex previous.files w.files
        (call.routed sha256Hex w.files previous.files)
      (.ok ⟨placed.results, driftWarnings placed.results⟩,
        { w with files := placed.files, receipt := .written ⟨1, call.now, placed.receipt⟩ }) := by
  obtain ⟨hload, hrefuses, hclear⟩ := h
  simp only [syncWorkspaceFromConfig, hload, hrefuses, call.reached_of_clear hclear, if_true, if_false,
    Bool.false_eq_true]

theorem accepts_of_ok (h : (syncWorkspaceFromConfig sha256Hex call w).1 = .ok result) :
    ∃ previous, call.Accepts sha256Hex w previous := by
  rw [syncWorkspaceFromConfig] at h
  cases hload : loadReceipt w.receipt with
  | error message =>
    rw [hload] at h
    cases h
  | ok previous =>
    rw [hload] at h
    dsimp only at h
    cases hrefuses : call.refuses w.files previous.files with
    | true =>
      rw [hrefuses, if_pos rfl] at h
      cases h
    | false =>
      rw [hrefuses, if_neg Bool.false_ne_true] at h
      split at h
      · next hreached =>
        refine ⟨previous, hload, hrefuses, fun source hsource => ?_⟩
        have hclear := takeWhile_eq_self_iff.mp hreached source hsource
        simpa using hclear
      · cases h

theorem remapTarget_claude (source : String) :
    remapTarget source .claude = some (".claude/" ++ source) := by
  rw [remapTarget]
  simp only [if_true]
  split
  · next h => rw [h]; rfl
  · split
    · rfl
    · split
      · rfl
      · split
        · rfl
        · split
          · next h => rw [h]; rfl
          · rfl

theorem listed_persona (h : file ∈ listSourceFilesForEntry collate entry)
    (hpath : file.relativePath = "CLAUDE.md") : file.bytes = entry.memory := by
  rcases mem_append.mp ((mem_insertionSort _).mp h) with hwalked | hpersona
  · exact (entry.persona file (mem_filter.mp hwalked).1 hpath).2
  · cases hshape : entry.shape with
    | claudeNative =>
      rw [hshape] at hpersona
      cases hpersona
    | agentsMdNative =>
      rw [hshape, mem_singleton] at hpersona
      rw [hpersona]

theorem sidecar_letter (name : String) :
    (".claude/rules/agent-" ++ name ++ ".md").toList[8]? = some 'r' := by
  simp

theorem claudeSidecarKey_ne (call : SyncCall) : call.claudeSidecarKey ≠ claudePrimaryKey := by
  intro h
  have hside : call.claudeSidecarKey.toList[8]? = some 'r' := sidecar_letter call.entry.name
  have hprimary : claudePrimaryKey.toList[8]? = some 'C' := by decide +kernel
  rw [h, hprimary] at hside
  cases hside

variable {files : String → Option Bytes}

theorem routed_primary {previous : Dict String SyncReceiptEntry} (hruntime : call.runtime = .claude)
    (h : ⟨claudePrimaryKey, bytes⟩ ∈ call.routed sha256Hex files previous) :
    call.useClaudeSidecar sha256Hex files previous = false ∧ bytes = call.entry.memory := by
  obtain ⟨file, hfile, hroute⟩ := mem_filterMap.mp h
  rw [SyncCall.route, hruntime, remapTarget_claude, Option.map_some] at hroute
  obtain ⟨htarget, rfl⟩ := SourceFile.mk.inj (Option.some.inj hroute)
  by_cases hroot : file.relativePath = "CLAUDE.md"
  · cases hsidecar : call.useClaudeSidecar sha256Hex files previous with
    | true =>
      simp only [hroot, hsidecar, decide_true, Bool.and_self, if_true] at htarget
      exact absurd htarget (claudeSidecarKey_ne call)
    | false => exact ⟨rfl, listed_persona hfile hroot⟩
  · simp only [hroot, decide_false, Bool.and_false, Bool.false_and, Bool.false_eq_true,
      if_false] at htarget
    have hsame : ".claude/" ++ file.relativePath = ".claude/" ++ "CLAUDE.md" := htarget
    exact absurd (String.append_right_inj _ |>.mp hsame) hroot

theorem placed_entry_ne_none (h : r ≠ none)
    (sources : List Bytes) : (sources.foldl (call.placeAt sha256Hex e) (t, r)).2 ≠ none := by
  induction sources generalizing t r with
  | nil => exact h
  | cons source sources ih =>
    rw [foldl_cons]
    rcases placeAt_cases sha256Hex call e t r source with
      ⟨_, hplace⟩ | ⟨_, _, _, hplace⟩ | ⟨_, _, _, _, hplace⟩
    · rw [hplace]
      exact ih (Option.some_ne_none _)
    · rw [hplace]
      exact ih (Option.some_ne_none _)
    · rw [hplace]
      apply ih
      rw [ne_eq, Option.or_eq_none_iff]
      exact fun hboth => h hboth.2

theorem useClaudeSidecar_iff {previous : Dict String SyncReceiptEntry} :
    call.useClaudeSidecar sha256Hex files previous ↔
      call.runtime = .claude ∧ previous.get? claudePrimaryKey = none ∧
        ∃ bytes, files claudePrimaryKey = some bytes ∧
          sha256Hex bytes ≠ sha256Hex call.entry.memory := by
  rw [SyncCall.useClaudeSidecar, Dict.has_eq, Bool.and_eq_true, Bool.and_eq_true, Bool.not_eq_true',
    decide_eq_true_eq, Option.isSome_eq_false_iff, Option.isNone_iff_eq_none, Option.any_eq_true]
  simp only [decide_eq_true_eq, and_assoc]

theorem useClaudeSidecar_placed {files' : String → Option Bytes}
    {previous previous' : Dict String SyncReceiptEntry} (sources : List Bytes)
    (hsources : ∀ bytes ∈ sources, ⟨claudePrimaryKey, bytes⟩ ∈ call.routed sha256Hex files previous)
    (hfile : files' claudePrimaryKey = (sources.foldl (call.placeAt sha256Hex
      (previous.get? claudePrimaryKey)) (files claudePrimaryKey, previous.get? claudePrimaryKey)).1)
    (hentry : previous'.get? claudePrimaryKey = previous.get? claudePrimaryKey ∨
      previous'.get? claudePrimaryKey = (sources.foldl (call.placeAt sha256Hex
        (previous.get? claudePrimaryKey))
        (files claudePrimaryKey, previous.get? claudePrimaryKey)).2) :
    call.useClaudeSidecar sha256Hex files' previous' =
      call.useClaudeSidecar sha256Hex files previous := by
  rw [Bool.eq_iff_iff, useClaudeSidecar_iff, useClaudeSidecar_iff]
  constructor
  · rintro ⟨hruntime, hnone', bytes, hbytes, hne⟩
    have hnone : previous.get? claudePrimaryKey = none := by
      rcases hentry with hsame | hplaced
      · rw [← hsame, hnone']
      · by_contra hsome
        exact placed_entry_ne_none hsome sources (hplaced.symm.trans hnone')
    rw [hfile] at hbytes
    rcases mem_of_placed hbytes with hold | hnew
    · exact ⟨hruntime, hnone, bytes, hold, hne⟩
    · exact absurd (congrArg sha256Hex (routed_primary hruntime (hsources bytes hnew)).2) hne
  · rintro ⟨hruntime, hnone, bytes, hbytes, hne⟩
    have hsidecar : call.useClaudeSidecar sha256Hex files previous = true :=
      useClaudeSidecar_iff.mpr ⟨hruntime, hnone, bytes, hbytes, hne⟩
    have hempty : sources = [] := by
      rw [eq_nil_iff_forall_not_mem]
      intro source hsource
      have hfalse := (routed_primary hruntime (hsources source hsource)).1
      rw [hsidecar] at hfalse
      cases hfalse
    rw [hempty] at hfile hentry
    refine ⟨hruntime, ?_, bytes, hfile.trans hbytes, hne⟩
    rcases hentry with hsame | hplaced
    · exact hsame.trans hnone
    · exact hplaced.trans hnone

def SyncCall.cutSources (sha256Hex : Bytes → String) (call : SyncCall) (w : Workspace)
    (previous : SyncReceipt) : Cut → List SourceFile
  | .files n => (call.routed sha256Hex w.files previous.files).take n
  | .beforeRename => call.routed sha256Hex w.files previous.files

variable (sha256Hex call) in
theorem cutSources_prefix (w : Workspace) (previous : SyncReceipt) (cut : Cut) :
    call.cutSources sha256Hex w previous cut <+: call.routed sha256Hex w.files previous.files := by
  cases cut with
  | files n => exact take_prefix _ _
  | beforeRename => exact prefix_refl _

theorem interruptedSync_of_accepts (h : call.Accepts sha256Hex w previous) (cut : Cut) :
    interruptedSync sha256Hex call w cut =
      { files := (call.place sha256Hex previous.files w.files
          (call.cutSources sha256Hex w previous cut)).files
        receipt := w.receipt
        temps := match cut with
          | .files _ => w.temps
          | .beforeRename => w.temps + 1 } := by
  obtain ⟨hload, hrefuses, hclear⟩ := h
  cases cut <;> simp only [interruptedSync, hload, hrefuses, call.reached_of_clear hclear, SyncCall.cutSources, if_true,
    if_false, Bool.false_eq_true]

theorem sourcesAt_append (path : String) (a b : List SourceFile) :
    sourcesAt path (a ++ b) = sourcesAt path a ++ sourcesAt path b := by
  rw [sourcesAt, filter_append, map_append]
  rfl

variable (sha256Hex call) in
theorem place_again (previous : Dict String SyncReceiptEntry) (files : String → Option Bytes)
    (h : placed <+: sources) (path : String) :
    (call.place sha256Hex previous (call.place sha256Hex previous files placed).files
        sources).files path = (call.place sha256Hex previous files sources).files path ∧
    (call.place sha256Hex previous (call.place sha256Hex previous files placed).files
        sources).receipt.get? path =
      (call.place sha256Hex previous files sources).receipt.get? path := by
  obtain ⟨rest, rfl⟩ := h
  rw [← Prod.mk.injEq, place_at, place_at, place_files_at, sourcesAt_append, foldl_append,
    foldl_append, placed_again]

theorem missing_of_allowed
    {previous : Dict String SyncReceiptEntry} (h : call.refuses files previous = false)
    (hclaude : call.runtime ≠ .claude) (hnone : previous.has "AGENTS.md" = false) :
    files "AGENTS.md" = none := by
  have hruntime : (decide (call.runtime = .codex) || decide (call.runtime = .cursor)) = true := by
    revert hclaude
    cases call.runtime <;> simp
  rw [SyncCall.refuses, hruntime, hnone, Bool.true_and, Bool.not_false, Bool.and_true] at h
  exact Option.isNone_iff_eq_none.mp (Option.isSome_eq_false_iff.mp h)

theorem refuses_interrupted (h : call.Accepts sha256Hex w previous) (placed : List SourceFile) :
    call.refuses (call.place sha256Hex previous.files w.files placed).files previous.files ↔
      call.runtime ≠ .claude ∧ previous.files.has "AGENTS.md" = false ∧
        ∃ source ∈ placed, source.relativePath = "AGENTS.md" := by
  have hruntime : (call.runtime = .codex ∨ call.runtime = .cursor) ↔ call.runtime ≠ .claude := by
    cases call.runtime <;> simp
  have hfirst := h.2.1
  simp only [SyncCall.refuses, Bool.and_eq_true, Bool.or_eq_true, decide_eq_true_eq, hruntime,
    Bool.not_eq_true', and_assoc]
  refine and_congr_right fun hclaude => ?_
  rw [and_comm]
  refine and_congr_right fun hnone => ?_
  have hmissing := missing_of_allowed hfirst hclaude hnone
  rw [place_files_at, hmissing]
  constructor
  · intro hsome
    obtain ⟨bytes, hbytes⟩ := Option.isSome_iff_exists.mp hsome
    rcases mem_of_placed hbytes with hold | hnew
    · cases hold
    · exact ⟨_, mem_sourcesAt hnew, rfl⟩
  · rintro ⟨source, hsource, hpath⟩
    have hmem : source.bytes ∈ sourcesAt "AGENTS.md" placed :=
      mem_map.mpr ⟨source, mem_filter.mpr ⟨hsource, by simpa using hpath⟩, rfl⟩
    rw [Option.isSome_iff_ne_none]
    rcases hlist : sourcesAt "AGENTS.md" placed with _ | ⟨first, rest⟩
    · rw [hlist] at hmem
      cases hmem
    · exact placed_ne_none first rest

theorem routed_interrupted (hplaced : placed <+: call.routed sha256Hex w.files previous.files) :
    call.routed sha256Hex (call.place sha256Hex previous.files w.files placed).files
      previous.files = call.routed sha256Hex w.files previous.files := by
  have hsidecar : call.useClaudeSidecar sha256Hex
      (call.place sha256Hex previous.files w.files placed).files previous.files =
        call.useClaudeSidecar sha256Hex w.files previous.files :=
    useClaudeSidecar_placed (sourcesAt claudePrimaryKey placed)
      (fun bytes hbytes => hplaced.subset (mem_sourcesAt hbytes)) (place_files_at _ _ _ _)
      (.inl rfl)
  rw [SyncCall.routed, hsidecar]
  rfl

theorem place_later (now : String) (previous : Dict String SyncReceiptEntry)
    (files : String → Option Bytes) (sources : List SourceFile) :
    (call.later now).place sha256Hex previous files sources =
      call.place sha256Hex previous files sources := rfl

theorem routed_later (now : String) (files : String → Option Bytes)
    (previous : Dict String SyncReceiptEntry) :
    (call.later now).routed sha256Hex files previous = call.routed sha256Hex files previous := rfl

theorem recovers_iff_safeCut (h : call.Accepts sha256Hex w previous) (cut : Cut) :
    call.Recovers sha256Hex w cut ↔ call.SafeCut sha256Hex w previous cut := by
  have hfirst := syncWorkspaceFromConfig_of_accepts h
  have hcut := interruptedSync_of_accepts h cut
  have hprefix := cutSources_prefix sha256Hex call w previous cut
  have hrefuses := refuses_interrupted h (call.cutSources sha256Hex w previous cut)
  constructor
  · intro hrecovers
    have hagain := hrecovers _ (by rw [hfirst]) ""
    cases cut with
    | beforeRename =>
      have htemps := hagain.2.2.1
      rw [hfirst, hcut] at htemps
      have hkept (w : Workspace) (call : SyncCall) :
          (syncWorkspaceFromConfig sha256Hex call w).2.temps = w.temps := by
        rw [syncWorkspaceFromConfig]
        split
        · rfl
        · split
          · rfl
          · dsimp only
            split <;> rfl
      rw [hkept] at htemps
      exact absurd htemps (Nat.succ_ne_self _)
    | files n =>
      intro hclaude hnone source hsource hpath
      obtain ⟨result', hok⟩ := hagain.1
      rw [hcut] at hok
      obtain ⟨previous', hload, hallowed, _⟩ := accepts_of_ok hok
      obtain rfl : previous = previous' := Except.ok.inj (h.1.symm.trans hload)
      have hstopped := hrefuses.mpr ⟨hclaude, hnone, source, hsource, hpath⟩
      exact Bool.false_ne_true (hallowed.symm.trans hstopped)
  · intro hsafe result _ now
    cases cut with
    | beforeRename => exact hsafe.elim
    | files n =>
      have hallowed : call.refuses (call.place sha256Hex previous.files w.files
          (call.cutSources sha256Hex w previous (.files n))).files previous.files = false := by
        rw [← Bool.not_eq_true, hrefuses]
        rintro ⟨hclaude, hnone, source, hsource, hpath⟩
        exact hsafe hclaude hnone source hsource hpath
      have hrouted := routed_interrupted hprefix
      have haccepts : (call.later now).Accepts sha256Hex
          (interruptedSync sha256Hex call w (.files n)) previous := by
        rw [hcut]
        refine ⟨h.1, hallowed, fun source hsource => h.2.2 source ?_⟩
        rw [← hrouted]
        exact hsource
      have hplace := place_again sha256Hex call previous.files w.files
        hprefix
      have hagain := syncWorkspaceFromConfig_of_accepts haccepts
      rw [place_later, routed_later] at hagain
      rw [hcut, hrouted] at hagain
      dsimp only
      rw [hcut, hagain, hfirst]
      refine ⟨⟨_, rfl⟩, ?_, rfl, fun path => (hplace path).2⟩
      funext path
      exact (hplace path).1

theorem quiet_iff_settledAt {sources : List Bytes} :
    (∀ source ∈ sources, (SyncCall.fourCase sha256Hex
      (sources.foldl (call.placeAt sha256Hex e) (t, e)).2
      (sources.foldl (call.placeAt sha256Hex e) (t, e)).1 source).isQuiet) ↔
    SyncCall.SettledAt (t.map sha256Hex) (e.map (·.sha256)) (sources.map sha256Hex) := by
  rcases hsources : sources with _ | ⟨first, rest⟩
  · simp [SyncCall.SettledAt]
  have hne : sources ≠ [] := by
    rw [hsources]
    exact cons_ne_nil _ _
  have hsome : (sources.foldl (call.placeAt sha256Hex e) (t, e)).1 ≠ none := by
    rw [hsources]
    exact placed_ne_none first rest
  obtain ⟨bytes, hbytes⟩ := Option.ne_none_iff_exists'.mp hsome
  have hhash := hash_placed sha256Hex call (e := e) (r := e) (t := t)
    (.inr hne)
  have hmanaged := managed_placed hne hbytes
  rw [← hsources, SyncCall.SettledAt, ← hhash, hbytes, Option.map_some]
  have hquiet (source : Bytes) : (SyncCall.fourCase sha256Hex
      (sources.foldl (call.placeAt sha256Hex e) (t, e)).2 (some bytes) source).isQuiet ↔
      sha256Hex bytes = sha256Hex source ∨
        ¬ IsManaged sha256Hex (sources.foldl (call.placeAt sha256Hex e) (t, e)).2 bytes := by
    rw [fourCase_quiet]
    simp
  simp only [hquiet, hmanaged]
  by_cases hkept : if e.isSome then (sources.map sha256Hex).getLast? = some (sha256Hex bytes)
      else sha256Hex bytes ∈ sources.map sha256Hex
  · have hright : ¬ if (e.map (·.sha256)).isSome then
        (sources.map sha256Hex).getLast? ≠ some (sha256Hex bytes)
        else ∀ source ∈ sources.map sha256Hex, some source ≠ some (sha256Hex bytes) := by
      cases e with
      | some entry => exact not_not_intro hkept
      | none => exact fun hall => hall _ hkept rfl
    rw [or_iff_left hright, forall_mem_map]
    refine forall₂_congr fun source _ => ?_
    rw [or_iff_left (not_not_intro hkept), Option.some.injEq]
    exact eq_comm
  · have hright : if (e.map (·.sha256)).isSome then
        (sources.map sha256Hex).getLast? ≠ some (sha256Hex bytes)
        else ∀ source ∈ sources.map sha256Hex, some source ≠ some (sha256Hex bytes) := by
      cases e with
      | some entry => exact hkept
      | none =>
        intro source hsource hsame
        rw [Option.some.inj hsame] at hsource
        exact hkept hsource
    exact iff_of_true (fun source _ => .inr hkept) (.inr hright)

variable (sha256Hex call) in
theorem placed_last
    (h : ((sources ++ [source]).foldl (call.placeAt sha256Hex e) (t, e)).1 = some bytes)
    (hmatch : sha256Hex bytes = sha256Hex source) :
    ((sources ++ [source]).foldl (call.placeAt sha256Hex e) (t, e)).2 =
      some (call.own sha256Hex source) := by
  rw [foldl_append, foldl_cons, foldl_nil] at h ⊢
  rcases placeAt_cases sha256Hex call e
    (sources.foldl (call.placeAt sha256Hex e) (t, e)).1
    (sources.foldl (call.placeAt sha256Hex e) (t, e)).2 source with
    ⟨_, hplace⟩ | ⟨_, _, _, hplace⟩ | ⟨bytes', hbytes, hdrifted, _, hplace⟩
  · rw [hplace]
  · rw [hplace]
  · rw [hplace] at h
    obtain rfl := Option.some.inj (hbytes.symm.trans h)
    exact absurd hmatch hdrifted

theorem placed_drifted {sources : List Bytes}
    (h : ∀ source ∈ sources, sha256Hex source ≠ sha256Hex bytes) :
    sources.foldl (call.placeAt sha256Hex none) (some bytes, none) = (some bytes, none) := by
  induction sources with
  | nil => rfl
  | cons source sources ih =>
    rw [forall_mem_cons] at h
    rw [foldl_cons]
    rcases placeAt_cases sha256Hex call none (some bytes) none source with
      ⟨hmanaged, _⟩ | ⟨bytes', hbytes, hmatch, _⟩ | ⟨_, _, _, _, hplace⟩
    · obtain ⟨⟨_, hnone, _⟩, _⟩ := hmanaged bytes rfl
      cases hnone
    · obtain rfl := Option.some.inj hbytes
      exact absurd hmatch.symm h.1
    · rw [hplace]
      exact ih h.2

theorem placed_quiet {sources : List Bytes}
    (h : ∀ source ∈ sources, (SyncCall.fourCase sha256Hex e (some bytes) source).isQuiet) :
    (sources.foldl (call.placeAt sha256Hex e) (some bytes, r)).1 = some bytes := by
  induction sources generalizing r with
  | nil => rfl
  | cons source sources ih =>
    rw [forall_mem_cons] at h
    rw [foldl_cons]
    rcases placeAt_cases sha256Hex call e (some bytes) r source with
      ⟨hwritten, _⟩ | ⟨_, _, _, hplace⟩ | ⟨_, _, _, _, hplace⟩
    · obtain ⟨hmine, hother⟩ := hwritten bytes rfl
      obtain ⟨bytes', hbytes', hmatch | hnot⟩ := fourCase_quiet.mp h.1
      · obtain rfl := Option.some.inj hbytes'
        exact absurd hmatch hother
      · obtain rfl := Option.some.inj hbytes'
        exact absurd hmine hnot
    · rw [hplace]
      exact ih h.2
    · rw [hplace]
      exact ih h.2

theorem entry_settled {sources : List Bytes} (h : ∀ source ∈ sources, (SyncCall.fourCase sha256Hex
      (sources.foldl (call.placeAt sha256Hex e) (t, e)).2
      (sources.foldl (call.placeAt sha256Hex e) (t, e)).1 source).isQuiet) :
    (sources.foldl (call.placeAt sha256Hex (sources.foldl (call.placeAt sha256Hex e) (t, e)).2)
      (sources.foldl (call.placeAt sha256Hex e) (t, e))).2 =
        (sources.foldl (call.placeAt sha256Hex e) (t, e)).2 := by
  rcases eq_nil_or_concat' sources with rfl | ⟨init, last, rfl⟩
  · rfl
  have hne : init ++ [last] ≠ [] := by simp
  obtain ⟨bytes, hbytes, _⟩ := fourCase_quiet.mp (h last (by simp))
  have hmanaged := managed_placed hne hbytes
  have hlast := placed_last sha256Hex call hbytes
  have hempty (hnone : ((init ++ [last]).foldl (call.placeAt sha256Hex e) (t, e)).2 = none) :
      ∀ source ∈ init ++ [last], sha256Hex source ≠ sha256Hex bytes := by
    have he : e = none := by
      by_contra hsome
      exact placed_entry_ne_none hsome _ hnone
    rw [hnone, he] at hmanaged
    intro source hsource hmatch
    obtain ⟨_, hentry, _⟩ := hmanaged.mpr (mem_map.mpr ⟨source, hsource, hmatch⟩)
    cases hentry
  generalize (init ++ [last]).foldl (call.placeAt sha256Hex e) (t, e) = x
    at h hbytes hlast hempty ⊢
  obtain ⟨t', e'⟩ := x
  obtain rfl : t' = some bytes := hbytes
  cases e' with
  | none =>
    rw [placed_drifted (hempty rfl)]
  | some entry =>
    rw [foldl_append, foldl_cons, foldl_nil]
    have hkept : (init.foldl (call.placeAt sha256Hex (some entry)) (some bytes, some entry)).1 =
        some bytes := placed_quiet fun source hsource => h source (mem_append_left _ hsource)
    have hquiet := h last (by simp)
    rcases placeAt_cases sha256Hex call (some entry)
      (init.foldl (call.placeAt sha256Hex (some entry)) (some bytes, some entry)).1
      (init.foldl (call.placeAt sha256Hex (some entry)) (some bytes, some entry)).2 last with
      ⟨hwritten, _⟩ | ⟨bytes', hbytes', hmatch, hplace⟩ | ⟨_, _, _, _, hplace⟩
    · obtain ⟨hmine, hother⟩ := hwritten bytes hkept
      obtain ⟨bytes', hbytes', hmatch | hnot⟩ := fourCase_quiet.mp hquiet
      · obtain rfl := Option.some.inj hbytes'
        exact absurd hmatch hother
      · obtain rfl := Option.some.inj hbytes'
        exact absurd hmine hnot
    · obtain rfl := Option.some.inj (hkept.symm.trans hbytes')
      rw [hplace]
      exact (hlast hmatch).symm
    · rw [hplace]
      rfl

def SyncCall.SettledFor (sha256Hex : Bytes → String) (call : SyncCall) (w : Workspace)
    (previous : SyncReceipt) : Prop :=
  ∀ path, SyncCall.SettledAt (w.fileHash sha256Hex path) (w.entryHash path)
    ((sourcesAt path (call.routed sha256Hex w.files previous.files)).map sha256Hex)

theorem settles_iff_settledFor (h : call.Accepts sha256Hex w previous) :
    call.Settles sha256Hex w ↔ call.SettledFor sha256Hex w previous := by
  have hfirst := syncWorkspaceFromConfig_of_accepts h
  generalize hsources : call.routed sha256Hex w.files previous.files = sources at hfirst
  generalize hplaced : call.place sha256Hex previous.files w.files sources = placed at hfirst
  have hat (path : String) := place_at sha256Hex call previous.files
    w.files sources path
  rw [hplaced] at hat
  have hfiles (path : String) := congrArg Prod.fst (hat path)
  have hreceipt (path : String) := congrArg Prod.snd (hat path)
  dsimp only at hfiles hreceipt
  -- the second sync routes as the first and is not refused
  have hrouted : call.routed sha256Hex placed.files placed.receipt = sources := by
    have hsidecar := useClaudeSidecar_placed (sourcesAt claudePrimaryKey sources)
      (fun bytes hbytes => by rw [hsources]; exact mem_sourcesAt hbytes) (hfiles _)
      (.inr (hreceipt _))
    rw [← hsources, SyncCall.routed, SyncCall.routed, hsidecar]
  have hallowed : call.refuses placed.files placed.receipt = false := by
    rw [← Bool.not_eq_true, SyncCall.refuses, Bool.and_eq_true, Bool.and_eq_true,
      Bool.not_eq_true']
    rintro ⟨⟨hruntime, hsome⟩, hnone⟩
    have hclaude : call.runtime ≠ .claude := by
      intro hclaude
      rw [hclaude] at hruntime
      cases hruntime
    rw [Dict.has_eq, Option.isSome_eq_false_iff, Option.isNone_iff_eq_none, hreceipt] at hnone
    have hbefore : previous.files.get? "AGENTS.md" = none := by
      by_contra hentry
      exact placed_entry_ne_none hentry _ hnone
    have hmissing := missing_of_allowed h.2.1 hclaude (by rw [Dict.has_eq, hbefore]; rfl)
    rw [hfiles, hmissing, hbefore] at hsome
    rw [hmissing, hbefore] at hnone
    obtain ⟨bytes, hbytes⟩ := Option.isSome_iff_exists.mp hsome
    rcases mem_of_placed hbytes with hold | hnew
    · cases hold
    · have hmanaged := (managed_placed (ne_nil_of_mem hnew) hbytes).mpr
        (mem_map_of_mem hnew)
      obtain ⟨_, hentry, _⟩ := hmanaged
      rw [hnone] at hentry
      cases hentry
  have hagain (now : String) : syncWorkspaceFromConfig sha256Hex (call.later now)
      { w with files := placed.files, receipt := .written ⟨1, call.now, placed.receipt⟩ } =
        let placed' := call.place sha256Hex placed.receipt placed.files sources
        (.ok ⟨placed'.results, driftWarnings placed'.results⟩,
          { w with files := placed'.files, receipt := .written ⟨1, now, placed'.receipt⟩ }) := by
    have haccepts : (call.later now).Accepts sha256Hex
        { w with files := placed.files, receipt := .written ⟨1, call.now, placed.receipt⟩ }
        ⟨1, call.now, placed.receipt⟩ := by
      refine ⟨rfl, hallowed, fun source hsource => h.2.2 source ?_⟩
      rw [hsources, ← hrouted]
      exact hsource
    rw [syncWorkspaceFromConfig_of_accepts haccepts, place_later, routed_later]
    dsimp only
    rw [hrouted]
    rfl
  obtain ⟨hresults, hkept⟩ := foldl_placeFile_quiet sha256Hex call
    placed.receipt ⟨placed.files, placed.receipt, []⟩ sources (by simp)
  have hquiet (path : String) : (∀ bytes ∈ sourcesAt path sources, (SyncCall.fourCase sha256Hex
      (placed.receipt.get? path) (placed.files path) bytes).isQuiet) ↔
      SyncCall.SettledAt (w.fileHash sha256Hex path) (w.entryHash path)
        ((sourcesAt path sources).map sha256Hex) := by
    rw [Workspace.fileHash, Workspace.entryHash, entry_of_loaded h.1, hfiles, hreceipt]
    exact quiet_iff_settledAt
  have hall : (∀ source ∈ sources, (SyncCall.fourCase sha256Hex
      (placed.receipt.get? source.relativePath) (placed.files source.relativePath)
      source.bytes).isQuiet) ↔ call.SettledFor sha256Hex w previous := by
    rw [SyncCall.SettledFor, hsources]
    simp only [← hquiet]
    constructor
    · intro hsettled path bytes hbytes
      exact hsettled ⟨path, bytes⟩ (mem_sourcesAt hbytes)
    · intro hsettled source hsource
      apply hsettled source.relativePath
      exact mem_map.mpr ⟨source, mem_filter.mpr ⟨hsource, by simp⟩, rfl⟩
  rw [← hall]
  constructor
  · intro hsettles
    have hsecond := (hsettles _ (by rw [hfirst]) "").1
    rw [hfirst] at hsecond
    dsimp only at hsecond
    rw [hagain] at hsecond
    obtain ⟨result', hok, hfilesQuiet⟩ := hsecond
    obtain rfl := Except.ok.inj hok
    exact hresults.mp hfilesQuiet
  · intro hsettled result _ now
    rw [hfirst]
    dsimp only
    rw [hagain]
    refine ⟨⟨_, rfl, hresults.mpr hsettled⟩, hkept hsettled, fun path => ?_⟩
    change (call.place sha256Hex placed.receipt placed.files sources).receipt.get? path =
      placed.receipt.get? path
    rw [place_receipt_at, hreceipt, hfiles]
    apply entry_settled
    rw [← hreceipt, ← hfiles]
    intro bytes hbytes
    exact hsettled ⟨path, bytes⟩ (mem_sourcesAt hbytes)

theorem recovers_settles_of_not_ok (h : ¬ ∃ previous, call.Accepts sha256Hex w previous) :
    call.Recovers sha256Hex w cut ∧ call.Settles sha256Hex w := by
  constructor
  · intro result hok
    exact absurd (accepts_of_ok hok) h
  · intro result hok
    exact absurd (accepts_of_ok hok) h

/-- A sync recovers and settles exactly when, if it can succeed, the interruption is a safe one and
every target is settled for the next sync. -/
theorem recovers_settles_iff (sha256Hex : Bytes → String) (call : SyncCall) (w : Workspace)
    (cut : Cut) : call.Recovers sha256Hex w cut ∧ call.Settles sha256Hex w ↔
      ∀ previous, call.Accepts sha256Hex w previous →
        call.SafeCut sha256Hex w previous cut ∧ call.SettledFor sha256Hex w previous := by
  constructor
  · rintro ⟨hrecovers, hsettles⟩ previous haccepts
    exact ⟨(recovers_iff_safeCut haccepts cut).mp hrecovers,
      (settles_iff_settledFor haccepts).mp hsettles⟩
  · intro h
    by_cases hok : ∃ previous, call.Accepts sha256Hex w previous
    · obtain ⟨previous, haccepts⟩ := hok
      obtain ⟨hsafe, hsettled⟩ := h previous haccepts
      exact ⟨(recovers_iff_safeCut haccepts cut).mpr hsafe,
        (settles_iff_settledFor haccepts).mpr hsettled⟩
    · exact recovers_settles_of_not_ok hok

def codexSync : SyncCall := { claudeSync [72] with runtime := .codex }

def emptyWorkspace : Workspace := ⟨fun _ => none, .absent, 0⟩

theorem not_recovers_settles : ¬ (codexSync.Recovers bytesText emptyWorkspace (.files 1) ∧
    codexSync.Settles bytesText emptyWorkspace) := by
  rintro ⟨hrecovers, _⟩
  have hfirst : ∃ result, (syncWorkspaceFromConfig bytesText codexSync emptyWorkspace).1 =
      .ok result := ⟨_, rfl⟩
  obtain ⟨result, hok⟩ := hfirst
  obtain ⟨⟨result', hagain⟩, _⟩ := hrecovers result hok ""
  cases hagain

end IdAgents.WorkspaceSync
