import Mathlib.Data.List.Nodup

namespace JsMap
open List

/-- A `Map`: its entries in insertion order, no key twice. -/
structure Dict (κ ν : Type) where
  entries : List (κ × ν)
  nodup : (entries.map Prod.fst).Nodup

namespace Dict
variable {κ ν : Type}

variable {d : Dict κ ν}

theorem ext_entries (h : d.entries = e.entries) : d = e := by
  cases d
  cases e
  cases h
  rfl

theorem eq_of_mem (h : (k, v) ∈ d.entries) (h' : (k, w) ∈ d.entries) : v = w := by
  have hinj := inj_on_of_nodup_map d.nodup h h' rfl
  exact (Prod.mk.inj hinj).2

variable [DecidableEq κ]

/-- `new Map()` -/
def empty : Dict κ ν := ⟨[], List.nodup_nil⟩

section
variable (d : Dict κ ν)

section
variable (k : κ)

/-- `map.get(k)` -/
def get? : Option ν := (d.entries.find? (·.1 = k)).map Prod.snd

/-- `map.has(k)` -/
def has : Bool := d.entries.any (·.1 = k)

/-- `map.values()` -/
def values : List ν := d.entries.map Prod.snd

def replace (v : ν) (e : κ × ν) : κ × ν := if e.1 = k then (k, v) else e

@[simp] theorem replace_fst (v : ν) (e : κ × ν) : (replace k v e).1 = e.1 := by
  rw [replace]
  split
  · next h => exact h.symm
  · rfl

/-- `map.set(k, v)`: a key that is there keeps its place, a new one goes last. -/
def set (v : ν) : Dict κ ν :=
  if h : d.has k then
    ⟨d.entries.map (replace k v), by
      have hkeys : (d.entries.map (replace k v)).map Prod.fst = d.entries.map Prod.fst := by
        simp [List.map_map, Function.comp_def]
      rw [hkeys]
      exact d.nodup⟩
  else
    ⟨d.entries ++ [(k, v)], by
      rw [List.map_append, List.nodup_append]
      refine ⟨d.nodup, by simp, ?_⟩
      intro a ha b hb heq
      obtain ⟨e, he, rfl⟩ := List.mem_map.1 ha
      obtain rfl : b = k := by simpa using hb
      exact h (List.any_eq_true.2 ⟨e, he, by simpa using heq⟩)⟩

theorem has_eq : d.has k = (d.get? k).isSome := by
  rw [has, get?, Option.isSome_map, Bool.eq_iff_iff, find?_isSome, any_eq_true]

end

end

@[simp] theorem get?_empty (k : κ) : (empty : Dict κ ν).get? k = none := rfl

theorem mem_of_get? (h : d.get? k = some v) : (k, v) ∈ d.entries := by
  obtain ⟨⟨k', v'⟩, hfind, rfl⟩ := Option.map_eq_some_iff.1 h
  have hk : k' = k := by simpa using find?_some hfind
  cases hk
  exact mem_of_find?_eq_some hfind

theorem get?_of_mem (h : (k, v) ∈ d.entries) : d.get? k = some v := by
  cases hget : d.get? k with
  | none =>
    have hall : ∀ e ∈ d.entries, ¬ e.1 = k := by simpa [get?] using hget
    exact absurd rfl (hall _ h)
  | some w => rw [eq_of_mem h (mem_of_get? hget)]

theorem get?_eq_some : d.get? k = some v ↔ (k, v) ∈ d.entries :=
  ⟨mem_of_get?, get?_of_mem⟩

theorem mem_values : v ∈ d.values ↔ ∃ k, d.get? k = some v := by
  simp [values, get?_eq_some]

theorem entries_set_of_has (h : d.has k) : (d.set k v).entries = d.entries.map (replace k v) := by
  rw [set, dif_pos h]

theorem entries_set_of_not_has (h : d.has k = false) :
    (d.set k v).entries = d.entries ++ [(k, v)] := by
  rw [set, dif_neg (by simp [h])]

theorem mem_set : e ∈ (d.set k v).entries ↔ e = (k, v) ∨ e.1 ≠ k ∧ e ∈ d.entries := by
  cases h : d.has k with
  | true =>
    rw [entries_set_of_has h, mem_map]
    obtain ⟨e₀, he₀, hk⟩ := any_eq_true.1 h
    constructor
    · rintro ⟨a, ha, rfl⟩
      rw [replace]
      split
      · exact .inl rfl
      · next hne => exact .inr ⟨hne, ha⟩
    · rintro (rfl | ⟨hne, he⟩)
      · exact ⟨e₀, he₀, if_pos (by simpa using hk)⟩
      · exact ⟨e, he, if_neg hne⟩
  | false =>
    have hnone : ∀ a ∈ d.entries, a.1 ≠ k := by simpa [has] using h
    rw [entries_set_of_not_has h, mem_append, mem_singleton]
    constructor
    · rintro (he | rfl)
      · exact .inr ⟨hnone e he, he⟩
      · exact .inl rfl
    · rintro (rfl | ⟨_, he⟩)
      · exact .inr rfl
      · exact .inl he

@[simp] theorem get?_set_self (d : Dict κ ν) (k : κ) (v : ν) : (d.set k v).get? k = some v :=
  get?_of_mem (mem_set.2 (.inl rfl))

theorem get?_set_ne (h : j ≠ k) : (d.set k v).get? j = d.get? j := by
  ext w
  rw [get?_eq_some, get?_eq_some, mem_set]
  constructor
  · rintro (heq | ⟨_, hmem⟩)
    · exact absurd (Prod.mk.inj heq).1 h
    · exact hmem
  · intro hmem
    exact .inr ⟨h, hmem⟩

theorem get?_set (d : Dict κ ν) (k j : κ) (v : ν) :
    (d.set k v).get? j = if j = k then some v else d.get? j := by
  split
  · next h =>
    subst h
    exact get?_set_self d j v
  · next h => exact get?_set_ne h

/-- What the entries show through `f` stays when the new value shows what the old one showed. -/
theorem map_entries_set (f : ν → β) (h : d.get? k = some u) (hf : f v = f u) :
    (d.set k v).entries.map (fun e => (e.1, f e.2)) = d.entries.map (fun e => (e.1, f e.2)) := by
  have hhas : d.has k := by simp [has_eq, h]
  rw [entries_set_of_has hhas, map_map]
  refine map_congr_left ?_
  intro e he
  rw [Function.comp_apply, replace]
  split
  · next hk =>
    obtain ⟨k', w⟩ := e
    cases hk
    rw [eq_of_mem he (mem_of_get? h), hf]
  · rfl

/-- A key set to the value it has. -/
theorem set_self (h : d.get? k = some v) : d.set k v = d := by
  refine ext_entries ?_
  simpa using map_entries_set (d := d) (fun w : ν => w) h rfl

/-- `map.delete(k)` -/
def delete (d : Dict κ ν) (k : κ) : Dict κ ν :=
  ⟨d.entries.filter (·.1 ≠ k), d.nodup.sublist (List.filter_sublist.map Prod.fst)⟩

theorem get?_delete : (d.delete k).get? j = some v ↔ j ≠ k ∧ d.get? j = some v := by
  rw [get?_eq_some, get?_eq_some, delete, mem_filter, decide_eq_true_iff, and_comm]

/-- The newest entries: the oldest goes until at most `n` are left, or one that must stay is the
oldest. -/
def dropOldest (stays : κ → Bool) (n : Nat) : List (κ × ν) → List (κ × ν)
  | [] => []
  | e :: es => if es.length < n ∨ stays e.1 then e :: es else dropOldest stays n es

omit [DecidableEq κ] in
theorem dropOldest_sublist (stays : κ → Bool) (n : Nat) (es : List (κ × ν)) :
    (dropOldest stays n es).Sublist es := by
  induction es with
  | nil => exact List.Sublist.refl []
  | cons e es ih =>
    rw [dropOldest]
    split
    · exact List.Sublist.refl _
    · exact ih.cons e

/-- `while (map.size > n) map.delete(oldest)` -/
def keepNewest (stays : κ → Bool) (n : Nat) (d : Dict κ ν) : Dict κ ν :=
  ⟨dropOldest stays n d.entries, d.nodup.sublist ((dropOldest_sublist stays n d.entries).map Prod.fst)⟩

theorem get?_keepNewest (h : (d.keepNewest stays n).get? k = some v) : d.get? k = some v :=
  get?_of_mem ((dropOldest_sublist stays n d.entries).subset (mem_of_get? h))

end Dict
end JsMap
