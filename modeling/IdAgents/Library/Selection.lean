import Mathlib.Data.List.Sort

namespace Selection
open List

variable {α : Type}

variable {l : List α}

/-- Sorting commutes with filtering when the order tells the elements apart. -/
theorem insertionSort_filter [DecidableRel r] [Std.Total r] [IsTrans α r] (p : α → Bool)
    (hanti : ∀ a ∈ l, ∀ b ∈ l, r a b → r b a → a = b) :
    (l.filter p).insertionSort r = (l.insertionSort r).filter p := by
  apply List.Perm.eq_of_pairwise
  · intro a b ha hb
    have hal : a ∈ l := mem_of_mem_filter ((mem_insertionSort r).mp ha)
    have hbl : b ∈ l := (mem_insertionSort r).mp (mem_of_mem_filter hb)
    exact hanti a hal b hbl
  · exact pairwise_insertionSort r _
  · exact (pairwise_insertionSort r l).filter p
  · have hsorted := (perm_insertionSort r l).filter p
    exact (perm_insertionSort r _).trans hsorted.symm

theorem take_append_left : l = (l ++ m).take k ↔ m = [] ∧ l.length ≤ k ∨ l.length = k := by
  constructor
  · intro h
    have hlen := congrArg List.length h
    rw [length_take, length_append] at hlen
    rw [← length_eq_zero_iff]
    omega
  · rintro (⟨rfl, hk⟩ | rfl)
    · rw [append_nil, take_of_length_le hk]
    · exact take_left.symm

/-- Cutting before filtering takes what filtering before cutting takes exactly when nothing is
filtered out of the first `k`, or nothing that passes is cut off. -/
theorem filter_take_eq_iff (p : α → Bool) (k : Nat) (l : List α) :
    (l.take k).filter p = (l.filter p).take k ↔
      (∀ a ∈ l.take k, p a) ∨ ∀ a ∈ l.drop k, p a = false := by
  have hsplit : l.filter p = (l.take k).filter p ++ (l.drop k).filter p := by
    rw [← filter_append, take_append_drop]
  have hle : ((l.take k).filter p).length ≤ k :=
    (length_filter_le _ _).trans (length_take_le _ _)
  have hnone : (l.drop k).filter p = [] ↔ ∀ a ∈ l.drop k, p a = false := by
    simp only [filter_eq_nil_iff, Bool.not_eq_true]
  rw [hsplit, take_append_left, ← hnone]
  constructor
  · rintro (⟨h, _⟩ | h)
    · exact .inr h
    · left
      rw [← length_filter_eq_length_iff]
      exact Nat.le_antisymm (length_filter_le _ _)
        ((length_take_le k l).trans_eq h.symm)
  · rintro (h | h)
    · by_cases hk : k ≤ l.length
      · right
        rw [filter_eq_self.mpr h, length_take, Nat.min_eq_left hk]
      · left
        rw [drop_of_length_le (by omega)]
        exact ⟨rfl, hle⟩
    · exact .inl ⟨h, hle⟩

/-- Consecutive pages of one size are a prefix. -/
theorem flatMap_pages (l : List α) (size n : Nat) :
    (List.range n).flatMap (fun k => (l.drop (k * size)).take size) = l.take (n * size) := by
  induction n with
  | zero => simp
  | succ n ih =>
    rw [range_succ, flatMap_append, ih, flatMap_singleton, Nat.succ_mul,
      take_add]

/-- A page that loses nothing to a filter has lost no element. -/
theorem all_of_full_page (h : (((l.drop start).take size).filter p).length = size) :
    ∀ a ∈ (l.drop start).take size, p a := by
  rw [← length_filter_eq_length_iff, h]
  have hfilter := length_filter_le p ((l.drop start).take size)
  have htake := length_take_le size (l.drop start)
  omega

theorem getElem_mem_page (hx : x < l.length) (hle : start ≤ x)
    (hlt : x < start + size) : l[x] ∈ (l.drop start).take size := by
  rw [mem_take_iff_getElem]
  refine ⟨x - start, by rw [length_drop]; omega, ?_⟩
  rw [getElem_drop]
  congr 1
  omega

end Selection
