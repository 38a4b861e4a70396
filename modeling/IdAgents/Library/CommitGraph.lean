import Mathlib.Data.List.Dedup
import Mathlib.Logic.Relation
import Mathlib.Order.Defs.PartialOrder

/-- A commit is addressed by its content: the commits it was made on are part of it. -/
inductive Commit (α : Type) where
  | mk (body : α) (parents : List (Commit α))

namespace Commit

def parents : Commit α → List (Commit α)
  | .mk _ ps => ps

mutual
def decEq [DecidableEq α] : (c d : Commit α) → Decidable (c = d)
  | .mk a ps, .mk b qs =>
    have := decEqList ps qs
    decidable_of_iff (a = b ∧ ps = qs) (by simp)

def decEqList [DecidableEq α] : (cs ds : List (Commit α)) → Decidable (cs = ds)
  | [], [] => isTrue rfl
  | [], _ :: _ => isFalse (by simp)
  | _ :: _, [] => isFalse (by simp)
  | c :: cs, d :: ds =>
    have := decEq c d
    have := decEqList cs ds
    decidable_of_iff (c = d ∧ cs = ds) (by simp)
end

instance [DecidableEq α] : DecidableEq (Commit α) := decEq

mutual
/-- The commits that can be reached from a commit, itself among them. -/
def history : Commit α → List (Commit α)
  | .mk b ps => .mk b ps :: histories ps

def histories : List (Commit α) → List (Commit α)
  | [] => []
  | c :: cs => c.history ++ histories cs
end

theorem mem_histories : d ∈ histories cs ↔ ∃ c ∈ cs, d ∈ c.history := by
  induction cs with
  | nil => simp [histories]
  | cons c cs ih => simp [histories, ih]

/-- What a commit reaches: itself, and what its parents reach. -/
theorem mem_history {c d : Commit α} : d ∈ c.history ↔ d = c ∨ ∃ p ∈ c.parents, d ∈ p.history := by
  cases c with
  | mk b ps => rw [history, List.mem_cons, mem_histories, parents]

theorem self_mem_history (c : Commit α) : c ∈ c.history := mem_history.mpr (.inl rfl)

theorem sizeOf_parent {c p : Commit α} (h : p ∈ c.parents) : sizeOf p < sizeOf c := by
  cases c with
  | mk b ps =>
    have hlt : sizeOf p < sizeOf ps := List.sizeOf_lt_of_mem h
    simp only [mk.sizeOf_spec]
    omega

/-- Induction over the commits that a commit was made on. -/
theorem parents_induction {P : Commit α → Prop}
    (step : ∀ c, (∀ p ∈ c.parents, P p) → P c) (c : Commit α) : P c :=
  step c fun p h => have := sizeOf_parent h; parents_induction step p
termination_by sizeOf c

theorem history_trans {c d e : Commit α} (hd : d ∈ c.history) (he : e ∈ d.history) :
    e ∈ c.history := by
  induction c using parents_induction with
  | step c ih =>
    rcases mem_history.mp hd with rfl | ⟨p, hp, hd⟩
    · exact he
    · exact mem_history.mpr (.inr ⟨p, hp, ih p hp hd⟩)

theorem sizeOf_history {c d : Commit α} (h : d ∈ c.history) : d = c ∨ sizeOf d < sizeOf c := by
  induction c using parents_induction with
  | step c ih =>
    rcases mem_history.mp h with rfl | ⟨p, hp, hd⟩
    · exact .inl rfl
    · right
      have hlt := sizeOf_parent hp
      rcases ih p hp hd with rfl | hsize
      · exact hlt
      · exact Nat.lt_trans hsize hlt

/-- `d ≤ c` when `d` is an ancestor of `c`, or `c` itself. -/
instance : PartialOrder (Commit α) where
  le d c := d ∈ c.history
  le_refl := self_mem_history
  le_trans _ _ _ hd hc := history_trans hc hd
  le_antisymm d c hd hc := by
    rcases sizeOf_history hd with rfl | hlt
    · rfl
    · rcases sizeOf_history hc with rfl | hlt'
      · rfl
      · omega

instance [DecidableEq α] : DecidableLE (Commit α) :=
  fun d c => inferInstanceAs (Decidable (d ∈ c.history))

theorem le_iff {c d : Commit α} : d ≤ c ↔ d = c ∨ ∃ p ∈ c.parents, d ≤ p := mem_history

/-- What a new commit reaches beside itself, its parents reach. -/
theorem le_mk {b : α} {ps : List (Commit α)} {d : Commit α} :
    d ≤ .mk b ps ↔ d = .mk b ps ∨ ∃ p ∈ ps, d ≤ p := le_iff

theorem parent_le_mk {b : α} {ps : List (Commit α)} {p : Commit α} (h : p ∈ ps) : p ≤ .mk b ps :=
  le_mk.mpr (.inr ⟨p, h, le_rfl⟩)

/-- `git rev-list --count base..tip` -/
def countBetween [DecidableEq α] (base tip : Commit α) : Nat :=
  (tip.history.dedup.filter fun c => ¬ c ≤ base).length

end Commit
