import Mathlib.Data.List.Nodup
import Mathlib.Data.List.Pairwise

namespace KeyedTable

/-- The key of a row, and its entry in a partial unique index when it has one. -/
class Schema (ρ : Type) (κ ι : outParam Type) where
  key : ρ → κ
  entry : ρ → Option ι

open Schema List

/-- Rows in insertion order with distinct keys and distinct index entries. -/
structure Table (ρ : Type) [Schema ρ κ ι] where
  rows : List ρ
  key_nodup : (rows.map key).Nodup
  entry_nodup : (rows.filterMap entry).Nodup

/-- `UPDATE … SET set WHERE key = at_ AND guard`, which never writes the key. -/
structure Update (ρ : Type) [Schema ρ κ ι] where
  at_ : κ
  guard : ρ → Bool
  set : ρ → ρ
  key_set : ∀ r, key (set r) = key r

section
variable {ρ κ ι : Type} [Schema ρ κ ι] [DecidableEq κ]

def Update.hits (u : Update ρ) (r : ρ) : Bool := key r = u.at_ && u.guard r

def Update.rewrite (u : Update ρ) (r : ρ) : ρ := if u.hits r then u.set r else r

@[simp] theorem Update.key_rewrite (u : Update ρ) (r : ρ) : key (u.rewrite r) = key r := by
  rw [rewrite]
  split
  · exact u.key_set r
  · rfl

theorem Update.rewrite_of_hits {u : Update ρ} (h : u.hits r) : u.rewrite r = u.set r := by
  simp [rewrite, h]

theorem Update.rewrite_of_not_hits {u : Update ρ} (h : u.hits r = false) : u.rewrite r = r := by
  simp [rewrite, h]

namespace Table
variable {t : Table ρ}

def get? (t : Table ρ) (k : κ) : Option ρ := t.rows.find? (key · = k)

/-- The rows an update would rewrite. -/
def rowCount (t : Table ρ) (u : Update ρ) : Nat := t.rows.countP u.hits

theorem get?_some (h : t.get? k = some r) : r ∈ t.rows ∧ key r = k := by
  have hk := find?_some h
  exact ⟨mem_of_find?_eq_some h, by simpa using hk⟩

omit [DecidableEq κ] in
theorem eq_of_key (hr : r ∈ t.rows) (hs : s ∈ t.rows) (h : key r = key s) : r = s :=
  inj_on_of_nodup_map t.key_nodup hr hs h

theorem get?_of_mem (hr : r ∈ t.rows) : t.get? (key r) = some r := by
  have hsome : (t.rows.find? fun s => decide (key s = key r)).isSome := by
    rw [find?_isSome]
    exact ⟨r, hr, by simp⟩
  obtain ⟨s, hs⟩ := Option.isSome_iff_exists.mp hsome
  have hget : t.get? (key r) = some s := hs
  obtain ⟨hmem, hkey⟩ := get?_some hget
  rw [hget, eq_of_key hmem hr hkey]

theorem get?_eq_some : t.get? k = some r ↔ r ∈ t.rows ∧ key r = k := by
  constructor
  · exact get?_some
  · rintro ⟨hr, rfl⟩
    exact get?_of_mem hr

variable {u : Update ρ}

theorem rowCount_eq_zero : t.rowCount u = 0 ↔ ∀ r, t.get? u.at_ = some r → u.guard r = false := by
  simp only [rowCount, countP_eq_zero, Update.hits, Bool.and_eq_true, decide_eq_true_eq,
    not_and, Bool.not_eq_true, get?_eq_some]
  exact ⟨fun h r hr => h r hr.1 hr.2, fun h r hr hk => h r ⟨hr, hk⟩⟩

variable [DecidableEq ι]

section
variable (t : Table ρ)

/-- An insert is refused when the new row repeats a key or an index entry. -/
def insertRefused (r : ρ) : Bool :=
  !decide (((t.rows ++ [r]).map key).Nodup ∧ ((t.rows ++ [r]).filterMap entry).Nodup)

def insert (r : ρ) : Table ρ :=
  if h : ((t.rows ++ [r]).map key).Nodup ∧ ((t.rows ++ [r]).filterMap entry).Nodup then
    ⟨t.rows ++ [r], h.1, h.2⟩
  else t

/-- An update is refused when the rewritten rows would repeat an index entry. -/
def updateRefused (u : Update ρ) : Bool :=
  !decide ((t.rows.map u.rewrite).filterMap entry).Nodup

def update (u : Update ρ) : Table ρ :=
  if h : ((t.rows.map u.rewrite).filterMap entry).Nodup then
    ⟨t.rows.map u.rewrite, by
      have hkey : (key ∘ u.rewrite : ρ → κ) = key := funext u.key_rewrite
      rw [List.map_map, hkey]
      exact t.key_nodup, h⟩
  else t

/-- The table that inserting `rows` one by one leaves. -/
def ofRows (rows : List ρ) : Table ρ := rows.foldl insert ⟨[], by simp, by simp⟩

theorem rows_update (u : Update ρ) :
    (t.update u).rows = if t.updateRefused u then t.rows else t.rows.map u.rewrite := by
  unfold update updateRefused
  split
  · next h => simp only [h, decide_true, Bool.not_true, Bool.false_eq_true, if_false]
  · next h => simp only [h, decide_false, Bool.not_false, if_true]

end

theorem update_of_refused (h : t.updateRefused u) : t.update u = t := by
  rw [update]
  split
  · next hn => exact absurd h (by simp only [updateRefused, hn]; decide)
  · rfl

/-- An update that leaves the index entries of the rows it hits is not refused. -/
theorem not_refused_of_entry (h : ∀ r, u.hits r → entry (u.set r) = entry r) :
    t.updateRefused u = false := by
  have hentry : (entry ∘ u.rewrite : ρ → Option ι) = entry := by
    funext r
    cases hr : u.hits r with
    | false => simp [Update.rewrite_of_not_hits hr]
    | true => simp [Update.rewrite_of_hits hr, h r hr]
  simp only [updateRefused, filterMap_map, hentry, t.entry_nodup, decide_true, Bool.not_true]

/-- What an update can do to a row: nothing, or write it when it is the row aimed at. -/
theorem mem_update (h : r ∈ (t.update u).rows) :
    r ∈ t.rows ∨ ∃ s ∈ t.rows, u.hits s ∧ r = u.set s := by
  rw [rows_update] at h
  split at h
  · exact .inl h
  · obtain ⟨s, hs, rfl⟩ := mem_map.mp h
    cases hu : u.hits s with
    | false => exact .inl (by rwa [Update.rewrite_of_not_hits hu])
    | true => exact .inr ⟨s, hs, hu, Update.rewrite_of_hits hu⟩

theorem get?_update (t : Table ρ) (u : Update ρ) (k : κ) :
    (t.update u).get? k = if t.updateRefused u then t.get? k else (t.get? k).map u.rewrite := by
  cases hr : t.updateRefused u with
  | true => simp [get?, rows_update, hr]
  | false =>
    simp only [get?, rows_update, hr, Bool.false_eq_true, if_false, find?_map]
    congr 2
    funext r
    simp

/-- A row found before an update is found after it, unchanged or written by it. -/
theorem get?_update_cases (u : Update ρ) (h : t.get? k = some r) : (t.update u).get? k = some r ∨
      (u.at_ = k ∧ u.guard r ∧ (t.update u).get? k = some (u.set r)) := by
  rw [get?_update, h]
  split
  · exact .inl rfl
  · cases hu : u.hits r with
    | false => exact .inl (by simp [Update.rewrite_of_not_hits hu])
    | true =>
      have hk := (get?_some h).2
      simp only [Update.hits, hk, Bool.and_eq_true, decide_eq_true_eq] at hu
      have hits : u.hits r := by simp [Update.hits, hk, hu]
      exact .inr ⟨hu.1.symm, hu.2, by simp [Update.rewrite_of_hits hits]⟩

theorem get?_update_ne (h : u.at_ ≠ k) : (t.update u).get? k = t.get? k := by
  rw [get?_update]
  split
  · rfl
  · cases hg : t.get? k with
    | none => rfl
    | some r =>
      have hk := (get?_some hg).2
      have hu : u.hits r = false := by simp [Update.hits, hk, Ne.symm h]
      simp [Update.rewrite_of_not_hits hu]

/-- An update that finds its row and is not refused writes it. -/
theorem get?_update_self (h : t.get? u.at_ = some r)
    (hg : u.guard r) (hn : t.updateRefused u = false) :
    (t.update u).get? u.at_ = some (u.set r) := by
  have hits : u.hits r := by simp [Update.hits, (get?_some h).2, hg]
  rw [get?_update, hn, h]
  simp [Update.rewrite_of_hits hits]

omit [DecidableEq ι] in
/-- Rewriting rows with distinct keys changes at most one of them. -/
theorem countP_rewrite_le (p : ρ → Bool) {l : List ρ} (h : (l.map key).Nodup) :
    (l.map u.rewrite).countP p ≤ l.countP p + 1 := by
  induction l with
  | nil => simp
  | cons r l ih =>
    rw [map_cons, nodup_cons] at h
    cases hr : u.hits r with
    | false =>
      have := ih h.2
      rw [map_cons, Update.rewrite_of_not_hits hr, countP_cons, countP_cons]
      omega
    | true =>
      have hkey : key r = u.at_ := by
        simp only [Update.hits, Bool.and_eq_true, decide_eq_true_eq] at hr
        exact hr.1
      have hrest : l.map u.rewrite = l := by
        conv_rhs => rw [← map_id l]
        apply map_congr_left
        intro s hs
        apply Update.rewrite_of_not_hits
        have hne : key s ≠ u.at_ := fun he =>
          h.1 (mem_map.mpr ⟨s, hs, he.trans hkey.symm⟩)
        simp [Update.hits, hne]
      rw [map_cons, hrest, countP_cons, countP_cons]
      split <;> split <;> omega

theorem countP_update_le (t : Table ρ) (u : Update ρ) (p : ρ → Bool) :
    (t.update u).rows.countP p ≤ t.rows.countP p + 1 := by
  rw [rows_update]
  split
  · omega
  · exact countP_rewrite_le p t.key_nodup

theorem get?_isSome_update (t : Table ρ) (u : Update ρ) (k : κ) :
    ((t.update u).get? k).isSome = (t.get? k).isSome := by
  rw [get?_update]
  split <;> simp

theorem mem_insert (h : r ∈ (t.insert s).rows) : r ∈ t.rows ∨ r = s := by
  rw [insert] at h
  split at h
  · simpa using h
  · exact .inl h

/-- An insert that is not refused finds its key free, and its row is found afterwards. -/
theorem get?_insert_self (h : t.insertRefused r = false) :
    t.get? (key r) = none ∧ (t.insert r).get? (key r) = some r := by
  have hfree : ((t.rows ++ [r]).map key).Nodup ∧ ((t.rows ++ [r]).filterMap entry).Nodup := by
    simpa [insertRefused] using h
  have hinsert : (t.insert r).rows = t.rows ++ [r] := by rw [insert, dif_pos hfree]
  constructor
  · rw [Option.eq_none_iff_forall_not_mem]
    intro s hs
    obtain ⟨hmem, hkey⟩ := get?_some hs
    rw [map_append, nodup_append] at hfree
    exact hfree.1.2.2 (key s) (mem_map_of_mem hmem) (key r) (by simp) hkey
  · exact get?_eq_some.mpr ⟨by simp [hinsert], rfl⟩

theorem insert_of_refused (h : t.insertRefused r) : t.insert r = t := by
  have htaken : ¬ (((t.rows ++ [r]).map key).Nodup ∧ ((t.rows ++ [r]).filterMap entry).Nodup) := by
    rw [insertRefused, Bool.not_eq_true'] at h
    exact of_decide_eq_false h
  rw [insert, dif_neg htaken]

omit [DecidableEq κ] [DecidableEq ι] in
/-- Rows with one index entry are one row. -/
theorem eq_of_entry (hr : r ∈ t.rows) (hs : s ∈ t.rows) (he : entry r = some i)
    (he' : entry s = some i) : r = s := by
  by_contra hne
  have hpairs := pairwise_filterMap.1 t.entry_nodup
  have : Std.Symm fun a b : ρ => ∀ i, entry a = some i → ∀ j, entry b = some j → i ≠ j :=
    ⟨fun _ _ h i hi j hj => (h j hj i hi).symm⟩
  exact hpairs.forall hr hs hne i he i he' rfl

/-- An insert that is not refused finds its index entry free. -/
theorem entry_ne_of_insert (h : t.insertRefused r = false) (hs : s ∈ t.rows)
    (he : entry r = some i) : entry s ≠ some i := by
  have hfree : ((t.rows ++ [r]).map key).Nodup ∧ ((t.rows ++ [r]).filterMap entry).Nodup := by
    simpa [insertRefused] using h
  intro he'
  rw [filterMap_append, nodup_append] at hfree
  exact hfree.2.2.2 i (mem_filterMap.2 ⟨s, hs, he'⟩) i
    (mem_filterMap.2 ⟨r, by simp, he⟩) rfl

theorem get?_insert_ne (h : key s ≠ k) : (t.insert s).get? k = t.get? k := by
  rw [insert]
  split
  · simp [get?, find?_append, h]
  · rfl

/-- Without an index an insert is refused only where its key is taken. -/
theorem isSome_of_refused (hentry : ∀ r : ρ, entry r = none) (h : t.insertRefused r) :
    (t.get? (key r)).isSome := by
  have hnone : ∀ rows : List ρ, rows.filterMap entry = [] := by
    intro rows
    simp [hentry]
  rw [insertRefused, hnone, Bool.not_eq_true', decide_eq_false_iff_not] at h
  by_contra hfree
  apply h
  refine ⟨?_, nodup_nil⟩
  rw [map_append, nodup_append]
  refine ⟨t.key_nodup, by simp, ?_⟩
  rintro k hk _ hr rfl
  obtain ⟨old, hold, rfl⟩ := mem_map.mp hk
  rw [map_singleton, mem_singleton] at hr
  apply hfree
  have hget := get?_of_mem hold
  rw [hr] at hget
  exact Option.isSome_iff_exists.mpr ⟨old, hget⟩

/-- Without an index a key is found after an insert, whether the row is new or not. -/
theorem isSome_get?_insert (hentry : ∀ r : ρ, entry r = none) (t : Table ρ) (r : ρ) :
    ((t.insert r).get? (key r)).isSome := by
  cases hr : t.insertRefused r with
  | true =>
    rw [insert_of_refused hr]
    exact isSome_of_refused hentry hr
  | false =>
    rw [(get?_insert_self hr).2]
    rfl

/-- A row found before an insert is found after it. -/
theorem get?_insert (s : ρ) (h : t.get? k = some r) : (t.insert s).get? k = some r := by
  obtain ⟨hr, hk⟩ := get?_some h
  refine get?_eq_some.mpr ⟨?_, hk⟩
  rw [insert]
  split
  · simp [hr]
  · exact hr

end Table

end

/-- `UPDATE … SET set WHERE guard` of any number of rows, which writes neither key nor index
entry. -/
structure Sweep (ρ : Type) [Schema ρ κ ι] where
  guard : ρ → Bool
  set : ρ → ρ
  key_set : ∀ r, key (set r) = key r
  entry_set : ∀ r, entry (set r) = entry r

namespace Sweep
variable {ρ κ ι : Type} [Schema ρ κ ι]

def rewrite (u : Sweep ρ) (r : ρ) : ρ := if u.guard r then u.set r else r

/-- The update that finds no row. -/
def none : Sweep ρ := ⟨fun _ => false, id, fun _ => rfl, fun _ => rfl⟩

@[simp] theorem rewrite_none (r : ρ) : (none : Sweep ρ).rewrite r = r := rfl

@[simp] theorem key_rewrite (u : Sweep ρ) (r : ρ) : key (u.rewrite r) = key r := by
  rw [rewrite]
  split
  · exact u.key_set r
  · rfl

@[simp] theorem entry_rewrite (u : Sweep ρ) (r : ρ) : entry (u.rewrite r) = entry r := by
  rw [rewrite]
  split
  · exact u.entry_set r
  · rfl

end Sweep

namespace Table
variable {ρ κ ι : Type} [Schema ρ κ ι] {t : Table ρ}

def updateAll (t : Table ρ) (u : Sweep ρ) : Table ρ where
  rows := t.rows.map u.rewrite
  key_nodup := by
    have hkey : (key ∘ u.rewrite : ρ → κ) = key := funext u.key_rewrite
    rw [List.map_map, hkey]
    exact t.key_nodup
  entry_nodup := by
    have hentry : (entry ∘ u.rewrite : ρ → Option ι) = entry := funext u.entry_rewrite
    rw [List.filterMap_map, hentry]
    exact t.entry_nodup

/-- The rows such an update finds. -/
def found (t : Table ρ) (u : Sweep ρ) : List ρ := t.rows.filter u.guard

theorem mem_updateAll : r ∈ (t.updateAll u).rows ↔ ∃ s ∈ t.rows, u.rewrite s = r :=
  mem_map

end Table

end KeyedTable
