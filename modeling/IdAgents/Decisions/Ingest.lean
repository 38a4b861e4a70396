import Mathlib.Data.List.Dedup
import Mathlib.Data.List.Induction
import IdAgents.Decisions.Markdown

namespace IdAgents.Decisions.Producer
open KeyedTable JsText List Table DecisionStatus

def decisionStableId (r : Reader) (sourcePath displayId : String) : String :=
  "dec_" ++ r.digest16 (sourcePath ++ ":" ++ displayId)

def stabilizeRow (r : Reader) (sourcePath now : String) (row : DecisionRow) : DecisionRow :=
  { row with
    decisionId := decisionStableId r sourcePath (row.displayId.getD "#0")
    updatedAt := now }

def buildOpenRow (r : Reader) (sourcePath now : String) (resolved : List DecisionRow)
    (item : SummaryOpenItem) : DecisionRow :=
  let sourceRow := resolved.find? fun row => row.displayId = some item.displayId
  let title := (sourceRow.map (·.title)).getD item.oneLine
  { decisionId := decisionStableId r sourcePath item.displayId
    displayId := some item.displayId
    title := title
    question := (sourceRow.map (·.question)).getD item.oneLine
    contextExcerpt := sourceRow.bind (·.contextExcerpt)
    recommendationJson := none
    optionsJson := none
    status := .open_
    estimatedSeconds := some 60
    priority := .normal
    owner := "chris"
    requestedBy := some "maestra"
    createdAt := now
    updatedAt := now
    resolvedAt := none
    resolvedBy := none
    resolutionNote := none
    selectedOptionId := none
    sourceRefs := [⟨.decisionDoc, sourcePath, some item.displayId, some title, none⟩]
    provenance := ⟨sourcePath, item.displayId, none, "decisions.producer.v1", none, none, none⟩ }

abbrev Decided := Table DecisionRow
section
variable (t : Decided)

def upsertDecision (row : DecisionRow) : Decided :=
  match t.get? row.decisionId with
  | none => t.insert row
  | some _ => t.update row.overwrite

def ingestedRows (r : Reader) (sourcePath now md : String) : List DecisionRow :=
  let resolved := (parseDecisionsMarkdown r sourcePath now md).1
  resolved.map (stabilizeRow r sourcePath now) ++
    (parseMaestraSummaryTable md).map (buildOpenRow r sourcePath now resolved)

structure IngestResult where
  inserted : Nat
  updated : Nat
  openCount : Nat
  resolvedCount : Nat
  supersededCount : Nat
  declinedCount : Nat
  skipped : List BootstrapSkipped
section
variable (rows : List DecisionRow)

def upsertAll : Decided × Nat :=
  rows.foldl (fun (t, inserted) row => (upsertDecision t row,
    if (t.get? row.decisionId).isNone then inserted + 1 else inserted)) (t, 0)

def ingestDecisionsFromMarkdown (r : Reader) (sourcePath now : String) (t : Decided) (md : String) :
    IngestResult × Decided :=
  let parsed := parseDecisionsMarkdown r sourcePath now md
  let summary := parseMaestraSummaryTable md
  let rows := ingestedRows r sourcePath now md
  let upserted := upsertAll t rows
  let count (status : DecisionStatus) := (parsed.1.filter fun row => row.status = status).length
  (⟨upserted.2, rows.length - upserted.2, summary.length, count .resolved, count .superseded,
    count .declined, parsed.2.filter fun s => s.displayId ∉ summary.map (·.displayId)⟩, upserted.1)

theorem upsertAll_fst : (upsertAll t rows).1 = rows.foldl upsertDecision t := by
  rw [upsertAll]
  generalize 0 = n
  induction rows generalizing t n with
  | nil => rfl
  | cons row rows ih => exact ih _ _
section
variable (decisionId : String)

def standing : Option (DecisionStatus × Option String) :=
  (t.get? decisionId).map fun row => (row.status, row.displayId)

theorem standing_upsert (row : DecisionRow) (decisionId : String) :
    standing (upsertDecision t row) decisionId =
      if row.decisionId = decisionId then some (row.status, row.displayId)
      else standing t decisionId := by
  rw [upsertDecision]
  cases hold : t.get? row.decisionId with
  | none =>
    have hfree : t.insertRefused row = false := by
      by_contra hrefused
      rw [Bool.not_eq_false] at hrefused
      have hsome := isSome_of_refused (fun _ => rfl) hrefused
      change (t.get? row.decisionId).isSome at hsome
      rw [hold] at hsome
      cases hsome
    by_cases hid : row.decisionId = decisionId
    · subst hid
      rw [if_pos rfl, standing]
      change ((t.insert row).get? (Schema.key row)).map _ = _
      rw [(get?_insert_self hfree).2]
      rfl
    · rw [if_neg hid, standing]
      dsimp only
      rw [get?_insert_ne hid, standing]
  | some old =>
    dsimp only
    by_cases hid : row.decisionId = decisionId
    · subst hid
      have hget := get?_update_self (u := row.overwrite) hold rfl
        (not_refused_of_entry fun _ _ => rfl)
      change (t.update row.overwrite).get? row.decisionId = _ at hget
      rw [if_pos rfl, standing, hget]
      rfl
    · rw [if_neg hid, standing, get?_update_ne hid, standing]

def lastUnder : Option DecisionRow :=
  rows.reverse.find? fun row => row.decisionId = decisionId

theorem standing_upserts : standing (rows.foldl upsertDecision t) decisionId =
      ((lastUnder rows decisionId).map fun row => (row.status, row.displayId)).or
        (standing t decisionId) := by
  induction rows generalizing t with
  | nil => rfl
  | cons row rows ih =>
    rw [foldl_cons, ih, standing_upsert, lastUnder, lastUnder, reverse_cons,
      find?_append]
    cases rows.reverse.find? fun row => row.decisionId = decisionId with
    | some last => rfl
    | none =>
      by_cases hid : row.decisionId = decisionId
      · simp [hid]
      · simp [hid]

end

end

end

section
variable {r : Reader} {sourcePath now md : String} {t : Decided}

def openIds (md : String) : List String := (parseMaestraSummaryTable md).map (·.displayId)

def resolvedIds (r : Reader) (md : String) : List String :=
  ((itemsOf md).filter fun item => (classifyItem item).isSome).map r.displayId

theorem classify_not_open (h : classify body = some c) : c.status ≠ .open_ := by
  rw [classify] at h
  split at h
  · cases h
    exact DecisionStatus.noConfusion
  · cases hr : groupOf (markerRe "RESOLVED") body with
    | some d =>
      rw [hr] at h
      cases h
      exact DecisionStatus.noConfusion
    | none =>
    cases hs : groupOf (markerRe "SUPERSEDED") body with
    | some d =>
      rw [hr, hs] at h
      cases h
      exact DecisionStatus.noConfusion
    | none =>
    cases hd : groupOf (markerRe "DECLINED") body with
    | some d =>
      rw [hr, hs, hd] at h
      cases h
      exact DecisionStatus.noConfusion
    | none =>
      rw [hr, hs, hd] at h
      cases h

theorem mem_resolved (h : row ∈ (parseDecisionsMarkdown r sourcePath now md).1) :
    row.status ≠ .open_ ∧ ∃ x ∈ resolvedIds r md, row.displayId = some x := by
  obtain ⟨item, hitem, hrow⟩ := mem_filterMap.mp h
  obtain ⟨c, hc, rfl⟩ := Option.map_eq_some_iff.mp hrow
  exact ⟨classify_not_open hc, r.displayId item,
    mem_map_of_mem (mem_filter.mpr ⟨hitem, by rw [hc]; rfl⟩), rfl⟩

theorem resolved_of_mem (h : x ∈ resolvedIds r md) :
    ∃ row ∈ (parseDecisionsMarkdown r sourcePath now md).1, row.displayId = some x := by
  obtain ⟨item, hitem, rfl⟩ := mem_map.mp h
  obtain ⟨hmem, hsome⟩ := mem_filter.mp hitem
  obtain ⟨c, hc⟩ := Option.isSome_iff_exists.mp hsome
  exact ⟨_, mem_filterMap.mpr ⟨item, hmem, by rw [hc]; rfl⟩, rfl⟩

theorem standing_ingest (r : Reader) (sourcePath now md : String) (t : Decided)
    (decisionId : String) :
    let t' := (ingestDecisionsFromMarkdown r sourcePath now t md).2
    (∃ x ∈ openIds md, decisionStableId r sourcePath x = decisionId ∧
      standing t' decisionId = some (.open_, some x)) ∨
    (∀ x ∈ openIds md, decisionStableId r sourcePath x ≠ decisionId) ∧
      ((∃ x ∈ resolvedIds r md, decisionStableId r sourcePath x = decisionId ∧
        ∃ status, status ≠ .open_ ∧ standing t' decisionId = some (status, some x)) ∨
      (∀ x ∈ resolvedIds r md, decisionStableId r sourcePath x ≠ decisionId) ∧
        standing t' decisionId = standing t decisionId) := by
  have hstanding : standing (ingestDecisionsFromMarkdown r sourcePath now t md).2 decisionId =
      ((lastUnder (ingestedRows r sourcePath now md) decisionId).map fun row =>
        (row.status, row.displayId)).or (standing t decisionId) := by
    rw [← standing_upserts, ← upsertAll_fst]
    rfl
  dsimp only
  rw [hstanding, lastUnder, ingestedRows, reverse_append, find?_append]
  generalize hresolved : (parseDecisionsMarkdown r sourcePath now md).1 = resolved
  cases hopen : ((parseMaestraSummaryTable md).map
      (buildOpenRow r sourcePath now resolved)).reverse.find? fun row =>
        row.decisionId = decisionId with
  | some row =>
    have hrow := mem_of_find?_eq_some hopen
    have hid := find?_some hopen
    rw [decide_eq_true_eq] at hid
    rw [mem_reverse] at hrow
    obtain ⟨item, hitem, rfl⟩ := mem_map.mp hrow
    exact .inl ⟨item.displayId, mem_map_of_mem hitem, hid, rfl⟩
  | none =>
    refine .inr ⟨?_, ?_⟩
    · intro x hx
      obtain ⟨item, hitem, rfl⟩ := mem_map.mp hx
      rw [find?_eq_none] at hopen
      have hne := hopen _ (mem_reverse.mpr (mem_map_of_mem hitem))
      rw [decide_eq_true_eq] at hne
      exact hne
    · cases hmarked : (resolved.map (stabilizeRow r sourcePath now)).reverse.find? fun row =>
          row.decisionId = decisionId with
      | some row =>
        have hrow := mem_of_find?_eq_some hmarked
        have hid := find?_some hmarked
        rw [decide_eq_true_eq] at hid
        rw [mem_reverse] at hrow
        obtain ⟨old, hold, rfl⟩ := mem_map.mp hrow
        rw [← hresolved] at hold
        obtain ⟨hstatus, x, hx, hdisplay⟩ := mem_resolved hold
        refine .inl ⟨x, hx, ?_, old.status, hstatus, ?_⟩
        · rw [← hid, stabilizeRow, hdisplay]
          rfl
        · rw [← hdisplay]
          rfl
      | none =>
        refine .inr ⟨?_, rfl⟩
        intro x hx heq
        obtain ⟨old, hold, hdisplay⟩ : ∃ row ∈ (parseDecisionsMarkdown r sourcePath now md).1,
            row.displayId = some x := resolved_of_mem hx
        rw [hresolved] at hold
        rw [find?_eq_none] at hmarked
        have hne := hmarked _ (mem_reverse.mpr (mem_map_of_mem hold))
        rw [decide_eq_true_eq, stabilizeRow, hdisplay] at hne
        exact hne heq

end

structure Version where
  now : String
  md : String
section
variable (r : Reader)
section
variable (sourcePath : String)

def ingest (t : Decided) (v : Version) : IngestResult × Decided :=
  ingestDecisionsFromMarkdown r sourcePath v.now t v.md
section
variable (versions : List Version)

def tableAfter : Decided :=
  versions.foldl (fun t v => (ingest r sourcePath t v).2) (.ofRows [])

def openOf (t : Decided) : List (Option String) :=
  (t.rows.filter fun row => row.status = .open_).map (·.displayId)

def MirrorsOpen : Prop :=
  ∀ xs v ys, versions = xs ++ v :: ys →
    let ingested := ingest r sourcePath (tableAfter r sourcePath xs) v
    (∀ x, some x ∈ openOf ingested.2 ↔ x ∈ openIds v.md) ∧
      ingested.1.openCount = (openOf ingested.2).length

def OpenAccounted : Prop :=
  (∀ v ∈ versions, (openIds v.md).Nodup) ∧
  ∀ xs v w ys, versions = xs ++ v :: w :: ys → ∀ x ∈ openIds v.md,
    x ∈ openIds w.md ∨ x ∈ resolvedIds r w.md

def Occurs (x : String) : Prop :=
  ∃ v ∈ versions, x ∈ openIds v.md ∨ x ∈ resolvedIds r v.md

def DistinctStableIds : Prop :=
  ∀ x y, Occurs r versions x → Occurs r versions y →
    decisionStableId r sourcePath x = decisionStableId r sourcePath y → x = y

end

end

end

section
variable {r : Reader} {sourcePath : String} {versions : List Version}

theorem tableAfter_concat (xs : List Version) (v : Version) :
    tableAfter r sourcePath (xs ++ [v]) = (ingest r sourcePath (tableAfter r sourcePath xs) v).2 := by
  rw [tableAfter, foldl_append]
  rfl

theorem mem_openOf : d ∈ openOf t ↔ ∃ decisionId, standing t decisionId = some (.open_, d) := by
  constructor
  · intro h
    obtain ⟨row, hrow, rfl⟩ := mem_map.mp h
    obtain ⟨hmem, hopen⟩ := mem_filter.mp hrow
    refine ⟨row.decisionId, ?_⟩
    have hget := get?_of_mem hmem
    change t.get? row.decisionId = some row at hget
    rw [standing, hget, Option.map_some, of_decide_eq_true hopen]
  · rintro ⟨decisionId, h⟩
    obtain ⟨row, hrow, heq⟩ := Option.map_eq_some_iff.mp h
    obtain ⟨hopen, rfl⟩ := Prod.mk.inj heq
    exact mem_map_of_mem (mem_filter.mpr
      ⟨(get?_some hrow).1, decide_eq_true hopen⟩)

theorem standing_occurs (h : standing (tableAfter r sourcePath xs) decisionId =
    some (status, d)) : ∃ x, Occurs r xs x ∧ d = some x ∧
      decisionStableId r sourcePath x = decisionId := by
  induction xs using reverseRecOn with
  | nil => cases h
  | append_singleton xs v ih =>
    rw [tableAfter_concat] at h
    have hlast {x : String} (hx : x ∈ openIds v.md ∨ x ∈ resolvedIds r v.md) :
        Occurs r (xs ++ [v]) x := ⟨v, by simp, hx⟩
    obtain ⟨x, hx, hid, hopen⟩ | ⟨_, ⟨x, hx, hid, s, _, hmarked⟩ | ⟨_, hbefore⟩⟩ :=
      standing_ingest r sourcePath v.now v.md (tableAfter r sourcePath xs) decisionId
    · have heq := h.symm.trans hopen
      cases heq
      exact ⟨x, hlast (.inl hx), rfl, hid⟩
    · have heq := h.symm.trans hmarked
      cases heq
      exact ⟨x, hlast (.inr hx), rfl, hid⟩
    · obtain ⟨x, ⟨w, hw, hx⟩, hd, hid⟩ := ih (hbefore.symm.trans h)
      exact ⟨x, ⟨w, mem_append_left _ hw, hx⟩, hd, hid⟩

theorem occurs_of_start (hv : versions = xs ++ ys) (h : Occurs r xs x) : Occurs r versions x := by
  obtain ⟨v, hmem, hx⟩ := h
  exact ⟨v, hv ▸ mem_append_left _ hmem, hx⟩

theorem open_step (hids : DistinctStableIds r sourcePath versions) (hv : versions = xs ++ v :: ys)
    (x : String) :
    some x ∈ openOf (tableAfter r sourcePath (xs ++ [v])) ↔ x ∈ openIds v.md ∨
        (some x ∈ openOf (tableAfter r sourcePath xs) ∧ x ∉ resolvedIds r v.md) := by
  have hoccurs {y : String} (hy : y ∈ openIds v.md ∨ y ∈ resolvedIds r v.md) :
      Occurs r versions y := ⟨v, by simp [hv], hy⟩
  rw [tableAfter_concat, mem_openOf, mem_openOf]
  constructor
  · rintro ⟨decisionId, h⟩
    obtain ⟨y, hy, _, hopen⟩ | ⟨_, ⟨y, _, _, s, hs, hmarked⟩ | ⟨hunmarked, hbefore⟩⟩ :=
      standing_ingest r sourcePath v.now v.md (tableAfter r sourcePath xs) decisionId
    · have heq := h.symm.trans hopen
      cases heq
      exact .inl hy
    · have heq := h.symm.trans hmarked
      cases heq
      exact absurd rfl hs
    · have hstood := hbefore.symm.trans h
      obtain ⟨z, _, hz, hid⟩ := standing_occurs hstood
      cases hz
      exact .inr ⟨⟨decisionId, hstood⟩, fun hx => hunmarked x hx hid⟩
  · intro h
    obtain ⟨y, hy, hid, hopen⟩ | ⟨hclosed, ⟨y, hy, hid, _⟩ | ⟨_, hbefore⟩⟩ :=
      standing_ingest r sourcePath v.now v.md (tableAfter r sourcePath xs)
        (decisionStableId r sourcePath x)
    · obtain hx | ⟨⟨decisionId, hstood⟩, _⟩ := h
      · cases hids y x (hoccurs (.inl hy)) (hoccurs (.inl hx)) hid
        exact ⟨_, hopen⟩
      · obtain ⟨z, hz, hzx, _⟩ := standing_occurs hstood
        cases hzx
        cases hids y x (hoccurs (.inl hy)) (occurs_of_start hv hz) hid
        exact ⟨_, hopen⟩
    · obtain hx | ⟨⟨decisionId, hstood⟩, hnot⟩ := h
      · exact absurd rfl (hclosed x hx)
      · obtain ⟨z, hz, hzx, _⟩ := standing_occurs hstood
        cases hzx
        cases hids y x (hoccurs (.inr hy)) (occurs_of_start hv hz) hid
        exact absurd hy hnot
    · obtain hx | ⟨⟨decisionId, hstood⟩, _⟩ := h
      · exact absurd rfl (hclosed x hx)
      · obtain ⟨z, _, hzx, hzid⟩ := standing_occurs hstood
        cases hzx
        rw [hzid] at hbefore
        exact ⟨_, hbefore.trans hstood⟩

theorem openOf_nodup (xs : List Version) : (openOf (tableAfter r sourcePath xs)).Nodup := by
  apply List.Nodup.map_on
  · intro row hrow row' hrow' hdisplay
    have hstands {row : DecisionRow} (h : row ∈ (tableAfter r sourcePath xs).rows) :
        ∃ x, Occurs r xs x ∧ row.displayId = some x ∧
          decisionStableId r sourcePath x = row.decisionId := by
      have hget := get?_of_mem h
      change (tableAfter r sourcePath xs).get? row.decisionId = some row at hget
      exact standing_occurs (by rw [standing, hget]; rfl)
    have hmem := (mem_filter.mp hrow).1
    have hmem' := (mem_filter.mp hrow').1
    obtain ⟨x, _, hx, hid⟩ := hstands hmem
    obtain ⟨x', _, hx', hid'⟩ := hstands hmem'
    rw [hx, hx'] at hdisplay
    cases hdisplay
    exact eq_of_key hmem hmem' (hid.symm.trans hid')
  · exact (List.Nodup.of_map _ (tableAfter r sourcePath xs).key_nodup).filter _

/-- An ingest mirrors the open table after every version exactly when open entries are listed once
and leave the table by a marker. -/
theorem ingest_mirrorsOpen (r : Reader) (sourcePath : String) (versions : List Version)
    (hids : DistinctStableIds r sourcePath versions) :
    MirrorsOpen r sourcePath versions ↔ OpenAccounted r versions := by
  have hlists {xs ys : List Version} {v : Version} (hv : versions = xs ++ v :: ys)
      (hmem : ∀ x, some x ∈ openOf (tableAfter r sourcePath (xs ++ [v])) ↔ x ∈ openIds v.md) :
      (openOf (tableAfter r sourcePath (xs ++ [v]))).Perm ((openIds v.md).dedup.map some) := by
    rw [perm_ext_iff_of_nodup (openOf_nodup _)
      ((nodup_dedup _).map (Option.some_injective _))]
    intro d
    constructor
    · intro hd
      obtain ⟨decisionId, hstood⟩ := mem_openOf.mp hd
      obtain ⟨x, _, rfl, _⟩ := standing_occurs hstood
      exact mem_map_of_mem (mem_dedup.mpr ((hmem x).mp hd))
    · intro hd
      obtain ⟨x, hx, rfl⟩ := mem_map.mp hd
      exact (hmem x).mpr (mem_dedup.mp hx)
  constructor
  · intro h
    have hmirror {xs ys : List Version} {v : Version} (hv : versions = xs ++ v :: ys) :=
      h xs v ys hv
    refine ⟨fun v hv => ?_, fun xs v w ys hv x hx => ?_⟩
    · obtain ⟨xs, ys, hsplit⟩ := append_of_mem hv
      obtain ⟨hmem, hcount⟩ := hmirror hsplit
      rw [← tableAfter_concat] at hmem hcount
      have hlength := (hlists hsplit hmem).length_eq
      rw [length_map, ← hcount] at hlength
      have hdedup : (openIds v.md).dedup = openIds v.md := by
        apply (dedup_sublist _).eq_of_length
        rw [← hlength, openIds, length_map]
        rfl
      exact dedup_eq_self.mp hdedup
    · obtain ⟨hmem, _⟩ := hmirror hv
      have hv' : versions = (xs ++ [v]) ++ w :: ys := by simp [hv]
      obtain ⟨hmem', _⟩ := hmirror hv'
      rw [← tableAfter_concat] at hmem hmem'
      by_contra hnot
      rw [not_or] at hnot
      exact hnot.1 ((hmem' x).mp ((open_step hids hv' x).mpr (.inr ⟨(hmem x).mpr hx, hnot.2⟩)))
  · rintro ⟨hnodup, hclosed⟩
    have hmem {xs ys : List Version} {v : Version} (hv : versions = xs ++ v :: ys) (x : String) :
        some x ∈ openOf (tableAfter r sourcePath (xs ++ [v])) ↔ x ∈ openIds v.md := by
      induction xs using reverseRecOn generalizing v ys with
      | nil =>
        rw [open_step hids hv]
        exact or_iff_left fun hbefore => by cases hbefore.1
      | append_singleton xs u ih =>
        have hu : versions = xs ++ u :: v :: ys := by simp [hv]
        rw [open_step hids hv, ih hu]
        exact or_iff_left_of_imp fun hbefore => (hclosed xs u v ys hu x hbefore.1).resolve_right
          hbefore.2
    intro xs v ys hv
    have hopen := hmem hv
    dsimp only
    rw [← tableAfter_concat]
    refine ⟨hopen, ?_⟩
    have hlength := (hlists hv hopen).length_eq
    rw [(hnodup v (by simp [hv])).dedup, length_map, openIds, length_map] at hlength
    exact hlength.symm

end

def reversedReader : Reader := ⟨fun text => String.ofList text.toList.reverse, fun digits => digits⟩

def askedVersion : Version :=
  ⟨"2026-01-01T00:00:00.000Z", "## OPEN: one\n| # | One-line | Status |\n|---|---|---|\n| 1 | Go? | open |"⟩

def answeredVersion : Version :=
  ⟨"2026-01-02T00:00:00.000Z",
    "## OPEN: none\n| # | One-line | Status |\n|---|---|---|\n| 1 | Go? | RESOLVED |"⟩

def markedVersion : Version :=
  ⟨"2026-01-02T00:00:00.000Z", "## Done\n1. **Go?** → **RESOLVED 2026-01-02** yes"⟩

/-- An entry whose summary status is no longer open keeps its open row. -/
theorem answered_staysOpen :
    ¬ MirrorsOpen reversedReader "q.md" [askedVersion, answeredVersion] := by
  intro h
  have hopen := ((h [askedVersion] answeredVersion [] rfl).1 "#1").mp (by decide +kernel)
  exact absurd hopen (by decide +kernel)

theorem marked_mirrorsOpen : DistinctStableIds reversedReader "q.md" [askedVersion, markedVersion] ∧
      MirrorsOpen reversedReader "q.md" [askedVersion, markedVersion] := by
  have hone : ∀ v ∈ [askedVersion, markedVersion],
      (∀ x ∈ openIds v.md, x = "#1") ∧ (∀ x ∈ resolvedIds reversedReader v.md, x = "#1") ∧
        (openIds v.md).Nodup := by decide +kernel
  have hmarked : "#1" ∈ resolvedIds reversedReader markedVersion.md := by decide +kernel
  have hids : DistinctStableIds reversedReader "q.md" [askedVersion, markedVersion] := by
    rintro x y ⟨v, hv, hx⟩ ⟨w, hw, hy⟩ _
    rw [hx.elim ((hone v hv).1 x) ((hone v hv).2.1 x),
      hy.elim ((hone w hw).1 y) ((hone w hw).2.1 y)]
  refine ⟨hids, (ingest_mirrorsOpen _ _ _ hids).mpr ⟨fun v hv => (hone v hv).2.2, ?_⟩⟩
  intro xs v w ys hsplit x hx
  have hv : v ∈ [askedVersion, markedVersion] := by simp [hsplit]
  have hw : w = markedVersion := by
    cases xs with
    | nil =>
      cases hsplit
      rfl
    | cons u xs =>
      have hlength := congrArg List.length hsplit
      simp at hlength
      omega
  rw [(hone v hv).1 x hx, hw]
  exact .inr hmarked

end IdAgents.Decisions.Producer
