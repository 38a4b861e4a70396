import Mathlib.Data.List.Induction
import IdAgents.WorkspaceSync.Sync

namespace IdAgents.WorkspaceSync
open JsMap List SyncCall

variable {sha256Hex : Bytes → String} {call : SyncCall}

def SyncCall.placeAt (sha256Hex : Bytes → String) (call : SyncCall) (e : Option SyncReceiptEntry)
    (x : Option Bytes × Option SyncReceiptEntry) (source : Bytes) :
    Option Bytes × Option SyncReceiptEntry :=
  match fourCase sha256Hex e x.1 source with
  | .wroteMissing | .overwroteManaged => (some source, some (call.own sha256Hex source))
  | .matchedSource => (x.1, some (call.own sha256Hex source))
  | .drifted => (x.1, e.or x.2)

def sourcesAt (path : String) (sources : List SourceFile) : List Bytes :=
  (sources.filter (·.relativePath = path)).map (·.bytes)

variable (previous : Dict String SyncReceiptEntry)

theorem placeFile_at (s : Placing) (source : SourceFile) (path : String) :
    ((call.placeFile sha256Hex previous s source).files path,
      (call.placeFile sha256Hex previous s source).receipt.get? path) =
    if source.relativePath = path then
      call.placeAt sha256Hex (previous.get? path) (s.files path, s.receipt.get? path) source.bytes
    else (s.files path, s.receipt.get? path) := by
  by_cases h : source.relativePath = path
  · subst h
    rw [if_pos rfl]
    unfold placeFile placeAt
    dsimp only
    cases fourCase sha256Hex (previous.get? source.relativePath)
      (s.files source.relativePath) source.bytes with
    | wroteMissing | overwroteManaged =>
      dsimp only
      rw [Function.update_self, Dict.get?_set_self]
    | matchedSource =>
      dsimp only
      rw [Dict.get?_set_self]
    | drifted =>
      dsimp only
      cases previous.get? source.relativePath with
      | none => rfl
      | some e => 
        change (_, (s.receipt.set _ e).get? _) = _
        rw [Dict.get?_set_self]
        rfl
  · have hne : path ≠ source.relativePath := fun heq => h heq.symm
    rw [if_neg h]
    rw [placeFile]
    dsimp only
    cases fourCase sha256Hex (previous.get? source.relativePath)
      (s.files source.relativePath) source.bytes with
    | wroteMissing | overwroteManaged =>
      dsimp only
      rw [Function.update_of_ne hne, Dict.get?_set_ne hne]
    | matchedSource =>
      dsimp only
      rw [Dict.get?_set_ne hne]
    | drifted =>
      dsimp only
      cases previous.get? source.relativePath with
      | none => rfl
      | some e =>
        change (_, (s.receipt.set _ e).get? _) = _
        rw [Dict.get?_set_ne hne]

theorem foldl_placeFile_at (s : Placing) (sources : List SourceFile) (path : String) :
    ((sources.foldl (call.placeFile sha256Hex previous) s).files path,
      (sources.foldl (call.placeFile sha256Hex previous) s).receipt.get? path) =
    (sourcesAt path sources).foldl (call.placeAt sha256Hex (previous.get? path))
      (s.files path, s.receipt.get? path) := by
  induction sources generalizing s with
  | nil => rfl
  | cons source sources ih =>
    rw [foldl_cons, ih, placeFile_at]
    by_cases h : source.relativePath = path
    · rw [if_pos h, sourcesAt, sourcesAt, filter_cons_of_pos (by simpa using h), map_cons,
        foldl_cons]
    · rw [if_neg h, sourcesAt, sourcesAt, filter_cons_of_neg (by simpa using h)]

variable (sha256Hex call) in
theorem place_at (files : String → Option Bytes) (sources : List SourceFile) (path : String) :
    ((call.place sha256Hex previous files sources).files path,
      (call.place sha256Hex previous files sources).receipt.get? path) =
    (sourcesAt path sources).foldl (call.placeAt sha256Hex (previous.get? path))
      (files path, previous.get? path) :=
  foldl_placeFile_at previous _ sources path

theorem place_files_at (files : String → Option Bytes) (sources : List SourceFile) (path : String) :
    (call.place sha256Hex previous files sources).files path =
    ((sourcesAt path sources).foldl (call.placeAt sha256Hex (previous.get? path))
      (files path, previous.get? path)).1 :=
  congrArg Prod.fst (place_at sha256Hex call previous files sources path)

theorem place_receipt_at (files : String → Option Bytes)
    (sources : List SourceFile) (path : String) :
    (call.place sha256Hex previous files sources).receipt.get? path =
    ((sourcesAt path sources).foldl (call.placeAt sha256Hex (previous.get? path))
      (files path, previous.get? path)).2 :=
  congrArg Prod.snd (place_at sha256Hex call previous files sources path)

def IsManaged (sha256Hex : Bytes → String) (e : Option SyncReceiptEntry) (bytes : Bytes) : Prop :=
  ∃ entry, e = some entry ∧ entry.sha256 = sha256Hex bytes

variable (sha256Hex call) in
theorem placeAt_cases (e : Option SyncReceiptEntry) (t : Option Bytes)
    (r : Option SyncReceiptEntry) (source : Bytes) :
    ((∀ bytes, t = some bytes → IsManaged sha256Hex e bytes ∧ sha256Hex bytes ≠ sha256Hex source) ∧
      call.placeAt sha256Hex e (t, r) source = (some source, some (call.own sha256Hex source))) ∨
    (∃ bytes, t = some bytes ∧ sha256Hex bytes = sha256Hex source ∧
      call.placeAt sha256Hex e (t, r) source = (t, some (call.own sha256Hex source))) ∨
    ∃ bytes, t = some bytes ∧ sha256Hex bytes ≠ sha256Hex source ∧
      ¬ IsManaged sha256Hex e bytes ∧ call.placeAt sha256Hex e (t, r) source = (t, e.or r) := by
  cases t with
  | none =>
    left
    constructor
    · intro bytes h
      cases h
    · rfl
  | some bytes =>
    by_cases hmatch : sha256Hex bytes = sha256Hex source
    · right; left
      refine ⟨bytes, rfl, hmatch, ?_⟩
      simp only [placeAt, fourCase, hmatch, if_true]
    · by_cases hmanaged : IsManaged sha256Hex e bytes
      · left
        have hany : e.any (·.sha256 = sha256Hex bytes) = true := by
          obtain ⟨entry, rfl, hentry⟩ := hmanaged
          simp [hentry]
        constructor
        · intro bytes' h
          obtain rfl := Option.some.inj h
          exact ⟨hmanaged, hmatch⟩
        · simp only [placeAt, fourCase, hmatch, hany, if_true, if_false]
      · right; right
        have hany : e.any (·.sha256 = sha256Hex bytes) = false := by
          cases e with
          | none => rfl
          | some entry =>
            rw [Option.any_some, decide_eq_false_iff_not]
            exact fun hentry => hmanaged ⟨entry, rfl, hentry⟩
        refine ⟨bytes, rfl, hmatch, hmanaged, ?_⟩
        simp only [placeAt, fourCase, hmatch, hany, if_false, Bool.false_eq_true]

theorem managed_of_placed {e r : Option SyncReceiptEntry} {bytes : Bytes} {sources : List Bytes}
    (h : (sources.foldl (call.placeAt sha256Hex e) (some bytes, r)).1 ≠ some bytes) :
    IsManaged sha256Hex e bytes := by
  induction sources generalizing r with
  | nil => exact absurd rfl h
  | cons source sources ih =>
    rw [foldl_cons] at h
    rcases placeAt_cases sha256Hex call e (some bytes) r source with
      ⟨hmanaged, _⟩ | ⟨_, _, _, hplace⟩ | ⟨_, _, _, _, hplace⟩
    · exact (hmanaged bytes rfl).1
    · rw [hplace] at h
      exact ih h
    · rw [hplace] at h
      exact ih h

theorem placed_of_not_managed (h : ¬ IsManaged sha256Hex e bytes) (sources : List Bytes) :
    (sources.foldl (call.placeAt sha256Hex e) (some bytes, r)).1 = some bytes := by
  by_contra hne
  exact h (managed_of_placed hne)

theorem mem_of_placed {e r : Option SyncReceiptEntry} {t : Option Bytes} {sources : List Bytes}
    (h : (sources.foldl (call.placeAt sha256Hex e) (t, r)).1 = some bytes) :
    t = some bytes ∨ bytes ∈ sources := by
  induction sources generalizing t r with
  | nil => exact .inl h
  | cons source sources ih =>
    rw [foldl_cons] at h
    rcases placeAt_cases sha256Hex call e t r source with
      ⟨_, hplace⟩ | ⟨_, _, _, hplace⟩ | ⟨_, _, _, _, hplace⟩
    · rw [hplace] at h
      rcases ih h with hsource | hmem
      · right
        rw [Option.some.inj hsource]
        exact mem_cons_self
      · exact .inr (mem_cons_of_mem _ hmem)
    · rw [hplace] at h
      exact (ih h).imp_right (mem_cons_of_mem _)
    · rw [hplace] at h
      exact (ih h).imp_right (mem_cons_of_mem _)

variable (sha256Hex call) in
theorem entry_of_placed (e : Option SyncReceiptEntry) (t : Option Bytes) (sources : List Bytes) :
    (sources.foldl (call.placeAt sha256Hex e) (t, e)).2 = e ∨
      ∃ bytes, (sources.foldl (call.placeAt sha256Hex e) (t, e)).1 = some bytes ∧
        IsManaged sha256Hex (sources.foldl (call.placeAt sha256Hex e) (t, e)).2 bytes ∧
        ∃ source ∈ sources, sha256Hex source = sha256Hex bytes := by
  induction sources using reverseRecOn with
  | nil => exact .inl rfl
  | append_singleton sources source ih =>
    rw [foldl_append, foldl_cons, foldl_nil]
    generalize sources.foldl (call.placeAt sha256Hex e) (t, e) = x at ih ⊢
    obtain ⟨t', r⟩ := x
    rcases placeAt_cases sha256Hex call e t' r source with
      ⟨_, hplace⟩ | ⟨bytes, hbytes, hmatch, hplace⟩ | ⟨bytes, hbytes, hdrifted, _, hplace⟩
    · rw [hplace]
      exact .inr ⟨source, rfl, ⟨_, rfl, rfl⟩, source, by simp, rfl⟩
    · rw [hplace]
      exact .inr ⟨bytes, hbytes, ⟨_, rfl, hmatch.symm⟩, source, by simp, hmatch.symm⟩
    · rw [hplace]
      cases e with
      | some entry => exact .inl rfl
      | none =>
        rcases ih with hsame | ⟨bytes', hbytes', hmanaged, source', hmem, hsource⟩
        · exact .inl hsame
        · exact .inr ⟨bytes', hbytes', hmanaged, source', mem_append_left _ hmem, hsource⟩

end IdAgents.WorkspaceSync
