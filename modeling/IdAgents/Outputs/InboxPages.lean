import Mathlib.Data.String.Basic
import IdAgents.Library.Selection
import IdAgents.Outputs.Types

namespace IdAgents.Outputs.InboxPages
open List

inductive ArtifactAvailability where
  | present | missing | unknown
deriving DecidableEq

structure ArtifactCatalogRow where
  artifactId : String
  basename : String
  agent : String
  tag : Option String
  absPath : String
  title : Option String
  producedAt : String
  availability : ArtifactAvailability

structure ArtifactDraftRow where
  artifactId : String
  draftId : String

structure InboxTables where
  artifacts : List ArtifactCatalogRow
  reviewStates : List ReviewState
  drafts : List ArtifactDraftRow
  operations : OperationTable
  artifacts_nodup : (artifacts.map (·.artifactId)).Nodup
  reviewStates_nodup : (reviewStates.map (·.artifactId)).Nodup

inductive InboxStatus where
  | neverViewed | viewed | approved | shipped | shipBlocked
deriving DecidableEq

inductive InboxKind where
  | caneDraft
deriving DecidableEq

structure InboxFilters where
  status : Option InboxStatus := none
  agent : Option String := none
  kind : Option InboxKind := none
  includeNeverViewed : Option Bool := none

structure JoinRow where
  artifactId : String
  review : Option ReviewState
  catalog : Option ArtifactCatalogRow
  caneDraftId : Option String

namespace InboxTables
section
variable (t : InboxTables)

def caneDraftId (artifactId : String) : Option String :=
  (t.drafts.find? (·.artifactId = artifactId)).map (·.draftId)

def ofArtifact (a : ArtifactCatalogRow) : JoinRow where
  artifactId := a.artifactId
  review := t.reviewStates.find? (·.artifactId = a.artifactId)
  catalog := some a
  caneDraftId := t.caneDraftId a.artifactId

def ofReview (rs : ReviewState) : JoinRow where
  artifactId := rs.artifactId
  review := some rs
  catalog := none
  caneDraftId := t.caneDraftId rs.artifactId

def orphans : List ReviewState :=
  t.reviewStates.filter fun rs => !(t.artifacts.map (·.artifactId)).contains rs.artifactId

/-- `artifacts FULL OUTER JOIN artifact_review_state LEFT JOIN artifact_drafts` -/
def join : List JoinRow :=
  t.artifacts.map t.ofArtifact ++ t.orphans.map t.ofReview

end

end InboxTables

/-- `COALESCE(rs.updated_at, a.produced_at)`: every row has one of the two. -/
def JoinRow.orderKey (r : JoinRow) : String :=
  (r.review.map (·.updatedAt) <|> r.catalog.map (·.producedAt)).getD ""

def truthy (text : Option String) : Bool := text.any (· ≠ "")

def deriveStatus (r : JoinRow) : InboxStatus :=
  if truthy (r.review.bind (·.shippedAt)) then .shipped
  else if (r.review.bind (·.shipBlockers)).isSome then .shipBlocked
  else if truthy (r.review.bind (·.approvedAt)) then .approved
  else if truthy (r.review.bind (·.firstViewedAt)) then .viewed
  else .neverViewed

namespace InboxFilters

def where_ (filters : InboxFilters) (r : JoinRow) : Bool :=
  (!truthy filters.agent || r.catalog.map (·.agent) = filters.agent) &&
    (filters.kind ≠ some .caneDraft ||
      (r.caneDraftId.isSome && (r.review.bind (·.shippedAt)).isNone))

def keeps (filters : InboxFilters) (r : JoinRow) : Bool :=
  filters.status.all (deriveStatus r = ·) &&
    (filters.includeNeverViewed ≠ some false || deriveStatus r ≠ .neverViewed)

end InboxFilters

/-- `localHealthVisualState`, by the state that its table is looked up under. -/
inductive VisualState where
  | mutationFailed | error | stale | current

structure LocalHealthVisual where
  state : VisualState
  scope : String

def artifactListVisualState (availability : ArtifactAvailability) (status : InboxStatus)
    (catalogPresent : Bool) : LocalHealthVisual :=
  if status = .shipBlocked then ⟨.mutationFailed, "artifact action"⟩
  else if availability = .missing then ⟨.error, "artifact file"⟩
  else if !catalogPresent || availability = .unknown then ⟨.stale, "artifact catalog"⟩
  else ⟨.current, "artifact"⟩

structure OutputsInboxRow where
  artifactId : String
  sourceLink : Option String
  title : Option String
  basename : Option String
  agent : Option String
  producedAt : Option String
  absPath : Option String
  tag : Option String
  availability : ArtifactAvailability
  status : InboxStatus
  firstViewedAt : Option String
  approvedAt : Option String
  shippedAt : Option String
  shipBlockers : Option (List String)
  opCount : Nat
  lastOpAt : Option String
  localVisualState : LocalHealthVisual

/-- `MAX(ts)` -/
def lastTs (ops : List ArtifactOp) : Option String := (ops.map (·.ts)).max?
section
variable (t : InboxTables)

def inboxRow (r : JoinRow) : OutputsInboxRow :=
  let status := deriveStatus r
  let ops := t.operations.operations r.artifactId
  let availability := (r.catalog.map (·.availability)).getD .unknown
  let catalogPresent := r.catalog.any fun a =>
    a.basename ≠ "" || a.absPath ≠ "" || a.producedAt ≠ ""
  { artifactId := r.artifactId
    sourceLink := r.review.bind (·.sourceLink)
    title := r.catalog.bind (·.title)
    basename := r.catalog.map (·.basename)
    agent := r.catalog.map (·.agent)
    producedAt := r.catalog.map (·.producedAt)
    absPath := r.catalog.map (·.absPath)
    tag := r.catalog.bind (·.tag)
    availability := availability
    status := status
    firstViewedAt := r.review.bind (·.firstViewedAt)
    approvedAt := r.review.bind (·.approvedAt)
    shippedAt := r.review.bind (·.shippedAt)
    shipBlockers := r.review.bind (·.shipBlockers)
    opCount := ops.length
    lastOpAt := lastTs ops
    localVisualState := artifactListVisualState availability status catalogPresent }

section
variable (filters : InboxFilters)

/-- The rows the query selects before `LIMIT` and `OFFSET`, the latest first. -/
def selectedRows : List JoinRow :=
  (t.join.filter filters.where_).insertionSort fun a b => b.orderKey ≤ a.orderKey

def listInboxItems (limit offset : Nat) : List OutputsInboxRow :=
  let joined := ((selectedRows t filters).drop offset).take (min limit 500)
  joined.filterMap fun r => if filters.keeps r then some (inboxRow t r) else none

def Matches (artifactId : String) : Prop :=
  ∃ r ∈ t.join, r.artifactId = artifactId ∧ filters.where_ r ∧ filters.keeps r

/-- The page that starts at `n * size`. -/
def page (size n : Nat) : List OutputsInboxRow :=
  listInboxItems t filters size (n * size)

/-- The `n`-th page is the first that is shorter than the page size. -/
def EndsAt (size n : Nat) : Prop :=
  (∀ k < n, (page t filters size k).length = size) ∧ (page t filters size n).length < size

/-- The artifacts of the first `n + 1` pages. -/
def collected (size n : Nat) : List String :=
  ((List.range (n + 1)).flatMap (page t filters size)).map (·.artifactId)

def PagesExactly (size : Nat) : Prop :=
  ∃ n, EndsAt t filters size n ∧ (collected t filters size n).Nodup ∧
    ∀ artifactId, artifactId ∈ collected t filters size n ↔ Matches t filters artifactId

/-- No kept row stands on a later page than a dropped one; above the cap of 500, where the first
page is already short, no kept row stands behind the cap. -/
def Separated (size : Nat) : Prop :=
  let rows := selectedRows t filters
  0 < size ∧ (size ≤ 500 → ∀ x y (_ : x < rows.length) (_ : y < rows.length),
      filters.keeps rows[x] = false → filters.keeps rows[y] → y / size ≤ x / size) ∧
    (500 < size → ∀ r ∈ rows.drop 500, filters.keeps r = false)

theorem orphans_subset : t.orphans.Sublist t.reviewStates := filter_sublist

theorem join_nodup : (t.join.map (·.artifactId)).Nodup := by
  rw [InboxTables.join, map_append, map_map, map_map, nodup_append]
  refine ⟨t.artifacts_nodup, t.reviewStates_nodup.sublist ((orphans_subset t).map _), ?_⟩
  rintro a ha b hb rfl
  obtain ⟨rs, hrs, rfl⟩ := mem_map.mp hb
  have hout := (mem_filter.mp hrs).2
  rw [Bool.not_eq_true', ← Bool.not_eq_true, contains_iff_mem] at hout
  exact hout ha

theorem selectedRows_perm : (selectedRows t filters).Perm (t.join.filter filters.where_) :=
  perm_insertionSort _ _

end

end

variable {t : InboxTables}

theorem mem_selectedRows : r ∈ selectedRows t filters ↔ r ∈ t.join ∧ filters.where_ r := by
  rw [(selectedRows_perm t filters).mem_iff, mem_filter]

theorem selectedRows_nodup (t : InboxTables) (filters : InboxFilters) :
    ((selectedRows t filters).map (·.artifactId)).Nodup := by
  rw [((selectedRows_perm t filters).map _).nodup_iff]
  exact (join_nodup t).sublist (filter_sublist.map _)

theorem matches_iff : Matches t filters artifactId ↔
    ∃ r ∈ selectedRows t filters, r.artifactId = artifactId ∧ filters.keeps r := by
  simp only [Matches, mem_selectedRows]
  constructor
  · rintro ⟨r, hr, hid, hwhere, hkeeps⟩
    exact ⟨r, ⟨hr, hwhere⟩, hid, hkeeps⟩
  · rintro ⟨r, ⟨hr, hwhere⟩, hid, hkeeps⟩
    exact ⟨r, hr, hid, hwhere, hkeeps⟩

theorem map_artifactId_listInboxItems (t : InboxTables) (filters : InboxFilters)
    (limit offset : Nat) : (listInboxItems t filters limit offset).map (·.artifactId) =
      ((((selectedRows t filters).drop offset).take (min limit 500)).filter filters.keeps).map
        (·.artifactId) := by
  rw [listInboxItems]
  induction ((selectedRows t filters).drop offset).take (min limit 500) with
  | nil => rfl
  | cons r rows ih =>
    rw [filterMap_cons, filter_cons]
    cases filters.keeps r with
    | false => exact ih
    | true => exact congrArg (r.artifactId :: ·) ih

theorem page_length (t : InboxTables) (filters : InboxFilters) (size n : Nat) :
    (page t filters size n).length =
      ((((selectedRows t filters).drop (n * size)).take (min size 500)).filter
        filters.keeps).length := by
  have hmap := congrArg List.length (map_artifactId_listInboxItems t filters size (n * size))
  rwa [length_map, length_map] at hmap

theorem EndsAt.within (h : EndsAt t filters size n) : n = 0 ∨ size ≤ 500 := by
  by_contra hout
  push Not at hout
  have hfull := h.1 0 (by omega)
  rw [page_length] at hfull
  have hfilter := length_filter_le filters.keeps
    (((selectedRows t filters).drop (0 * size)).take (min size 500))
  have htake := length_take_le (min size 500) ((selectedRows t filters).drop (0 * size))
  omega

theorem collected_eq (h : EndsAt t filters size n) :
    collected t filters size n = (((selectedRows t filters).take
      (n * size + min size 500)).filter filters.keeps).map (·.artifactId) := by
  have hpages : collected t filters size n = (((List.range (n + 1)).flatMap fun k =>
      ((selectedRows t filters).drop (k * size)).take (min size 500)).filter filters.keeps).map
        (·.artifactId) := by
    rw [collected, map_flatMap, filter_flatMap, map_flatMap]
    congr 1
    funext k
    exact map_artifactId_listInboxItems t filters size (k * size)
  rw [hpages]
  rcases h.within with rfl | hcap
  · simp
  · rw [Nat.min_eq_left hcap, Selection.flatMap_pages, Nat.succ_mul]

theorem collected_nodup (h : EndsAt t filters size n) : (collected t filters size n).Nodup := by
  rw [collected_eq h]
  exact (selectedRows_nodup t filters).sublist
    ((filter_sublist.trans (take_sublist _ _)).map _)

theorem collects_iff (h : EndsAt t filters size n) :
    (∀ artifactId, artifactId ∈ collected t filters size n ↔ Matches t filters artifactId) ↔
      ∀ r ∈ (selectedRows t filters).drop (n * size + min size 500), filters.keeps r = false := by
  have hnodup := selectedRows_nodup t filters
  simp only [matches_iff, collected_eq h, mem_map, mem_filter]
  constructor
  · intro hall r hr
    by_contra hkept
    rw [Bool.not_eq_false] at hkept
    obtain ⟨r', ⟨hr', _⟩, hid⟩ := (hall r.artifactId).mpr ⟨r, mem_of_mem_drop hr, rfl, hkept⟩
    rw [← take_append_drop (n * size + min size 500) (selectedRows t filters),
      map_append, nodup_append] at hnodup
    exact hnodup.2.2 r'.artifactId (mem_map_of_mem hr') r.artifactId
      (mem_map_of_mem hr) hid
  · intro hnone artifactId
    constructor
    · rintro ⟨r, ⟨hr, hkept⟩, rfl⟩
      exact ⟨r, mem_of_mem_take hr, rfl, hkept⟩
    · rintro ⟨r, hr, rfl, hkept⟩
      rw [← take_append_drop (n * size + min size 500) (selectedRows t filters),
        mem_append] at hr
      rcases hr with hr | hr
      · exact ⟨r, ⟨hr, hkept⟩, rfl⟩
      · rw [hnone r hr] at hkept
        cases hkept

theorem exists_end (t : InboxTables) (filters : InboxFilters) (hsize : 0 < size) :
    ∃ n, EndsAt t filters size n := by
  have hshort : ∃ n, (page t filters size n).length < size := by
    refine ⟨(selectedRows t filters).length, ?_⟩
    rw [page_length, List.drop_of_length_le (Nat.le_mul_of_pos_right _ hsize), List.take_nil]
    exact hsize
  refine ⟨Nat.find hshort, fun k hk => ?_, Nat.find_spec hshort⟩
  have hlong := Nat.find_min hshort hk
  have hfilter := List.length_filter_le filters.keeps
    (((selectedRows t filters).drop (k * size)).take (min size 500))
  have htake := length_take_le (min size 500) ((selectedRows t filters).drop (k * size))
  rw [page_length] at hlong ⊢
  omega

theorem window_cases (hcap : size ≤ 500) (h : EndsAt t filters size n) :
    (∀ x (hx : x < (selectedRows t filters).length),
      filters.keeps (selectedRows t filters)[x] = false → n * size ≤ x) ∧
    ((selectedRows t filters).length < n * size + size ∨
      ∃ x, ∃ hx : x < (selectedRows t filters).length, x < n * size + size ∧ n * size ≤ x ∧
        filters.keeps (selectedRows t filters)[x] = false) := by
  have hpos : 0 < size := by
    have hlast := h.2
    omega
  constructor
  · intro x hx hdropped
    by_contra hlt
    have hk : x / size < n := by
      rw [Nat.div_lt_iff_lt_mul hpos]
      omega
    have hfull := h.1 (x / size) hk
    rw [page_length, Nat.min_eq_left hcap] at hfull
    have hmod := Nat.div_add_mod' x size
    have hrem := Nat.mod_lt x hpos
    have hkept := Selection.all_of_full_page hfull _
      (Selection.getElem_mem_page hx (by omega) (by omega))
    rw [hdropped] at hkept
    cases hkept
  · by_contra hnone
    push Not at hnone
    obtain ⟨hlong, hall⟩ := hnone
    have hlast := h.2
    rw [page_length, Nat.min_eq_left hcap, filter_eq_self.mpr, length_take,
      length_drop] at hlast
    · omega
    · intro r hr
      obtain ⟨i, hi, rfl⟩ := mem_take_iff_getElem.mp hr
      rw [length_drop] at hi
      rw [getElem_drop]
      have hkept := hall (n * size + i) (by omega) (by omega) (by omega)
      simpa using hkept

theorem separated_iff (hcap : size ≤ 500) (h : EndsAt t filters size n) :
    (∀ r ∈ (selectedRows t filters).drop (n * size + min size 500), filters.keeps r = false) ↔
      ∀ x y (_ : x < (selectedRows t filters).length) (_ : y < (selectedRows t filters).length),
        filters.keeps (selectedRows t filters)[x] = false →
          filters.keeps (selectedRows t filters)[y] → y / size ≤ x / size := by
  obtain ⟨hbefore, hlast⟩ := window_cases hcap h
  have hpos : 0 < size := by
    have hshort := h.2
    omega
  rw [Nat.min_eq_left hcap]
  constructor
  · intro hnone x y hx hy hdropped hkept
    have hin : y < n * size + size := by
      by_contra hout
      have hmem : (selectedRows t filters)[y] ∈
          (selectedRows t filters).drop (n * size + size) := by
        rw [mem_drop_iff_getElem]
        exact ⟨y - (n * size + size), by omega, by congr 1; omega⟩
      rw [hnone _ hmem] at hkept
      cases hkept
    have hy' : y / size ≤ n := by
      rw [← Nat.lt_succ_iff, Nat.div_lt_iff_lt_mul hpos, Nat.succ_mul]
      exact hin
    exact hy'.trans ((Nat.le_div_iff_mul_le hpos).mpr (hbefore x hx hdropped))
  · intro hsep r hr
    by_contra hkept
    rw [Bool.not_eq_false] at hkept
    obtain ⟨i, hi, rfl⟩ := mem_drop_iff_getElem.mp hr
    rcases hlast with hend | ⟨x, hx, hin, _, hdropped⟩
    · omega
    · have hle := hsep x (n * size + size + i) hx (by omega) hdropped (by simpa using hkept)
      have hx' : x / size < n + 1 := by
        rw [Nat.div_lt_iff_lt_mul hpos, Nat.succ_mul]
        exact hin
      have hy' : n + 1 ≤ (n * size + size + i) / size := by
        rw [Nat.le_div_iff_mul_le hpos, Nat.succ_mul]
        omega
      omega

/-- Paging is exact just where the rows that the checks drop and those they keep are apart. -/
theorem pagesExactly_iff (t : InboxTables) (filters : InboxFilters) (size : Nat) :
    PagesExactly t filters size ↔ Separated t filters size := by
  constructor
  · rintro ⟨n, hend, _, hall⟩
    have hrest := (collects_iff hend).mp hall
    have hpos : 0 < size := by
      have hshort := hend.2
      omega
    refine ⟨hpos, fun hcap => (separated_iff hcap hend).mp hrest, fun hover => ?_⟩
    obtain rfl : n = 0 := by
      have hwithin := hend.within
      omega
    rwa [Nat.zero_mul, Nat.zero_add, Nat.min_eq_right hover.le] at hrest
  · rintro ⟨hpos, hcap, hover⟩
    obtain ⟨n, hend⟩ := exists_end t filters hpos
    refine ⟨n, hend, collected_nodup hend, (collects_iff hend).mpr ?_⟩
    by_cases hsize : size ≤ 500
    · exact (separated_iff hsize hend).mpr (hcap hsize)
    · obtain rfl : n = 0 := by
        have hwithin := hend.within
        omega
      rw [Nat.zero_mul, Nat.zero_add, Nat.min_eq_right (by omega)]
      exact hover (by omega)

def entry (artifactId producedAt : String) : ArtifactCatalogRow where
  artifactId := artifactId
  basename := artifactId
  agent := "coder"
  tag := none
  absPath := artifactId
  title := none
  producedAt := producedAt
  availability := .present

def viewedBehind : InboxTables where
  artifacts := [entry "fresh" "2026-06-02", entry "viewed" "2026-05-01"]
  reviewStates := [{ ReviewPatch.create { firstViewedAt := some (some "2026-06-01") }
    "viewed" "2026-06-01" with viewedCount := 1 }]
  drafts := []
  operations := .empty
  artifacts_nodup := by decide
  reviewStates_nodup := by decide

/-- The first page of viewed artifacts is empty: the reading stops before the second. -/
theorem not_pagesExactly : ¬ PagesExactly viewedBehind { status := some .viewed } 1 := by
  rintro ⟨n, hend, _, hall⟩
  have hempty : page viewedBehind { status := some .viewed } 1 0 = [] := by
    rw [← length_eq_zero_iff]
    decide +kernel
  obtain rfl : n = 0 := by
    by_contra hn
    have hfull := hend.1 0 (Nat.pos_of_ne_zero hn)
    rw [hempty] at hfull
    cases hfull
  have hmatches : Matches viewedBehind { status := some .viewed } "viewed" :=
    ⟨viewedBehind.ofArtifact (entry "viewed" "2026-05-01"),
      mem_append_left _ (mem_map_of_mem (by simp [viewedBehind])), rfl,
      by decide +kernel, by decide +kernel⟩
  have hmem := (hall "viewed").mpr hmatches
  rw [collected, range_one, flatMap_singleton, hempty] at hmem
  cases hmem

end IdAgents.Outputs.InboxPages
