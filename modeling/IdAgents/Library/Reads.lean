import Mathlib.Data.Fin.Tuple.Basic

/-- A computation that reads a store while others change it. A round of reads is under way at once and
goes on when all are answered, each at a moment of its own; `ask` is told who the caller is. -/
inductive Reads (δ τ ρ : Type) where
  | done (r : ρ)
  | round (n : Nat) (k : (Fin n → δ) → Reads δ τ ρ)
  | ask (k : τ → Reads δ τ ρ)

namespace Reads

/-- The `i`-th read of a round that is still open gets its answer. -/
def answer (i : Nat) (x : δ) : Reads δ τ ρ → Option (Reads δ τ ρ)
  | .round (n + 1) k =>
    if h : i < n + 1 then some (.round n fun s => k (Fin.insertNth ⟨i, h⟩ x s)) else none
  | _ => none

/-- A round with all its answers goes on. -/
def settle : Reads δ τ ρ → Option (Reads δ τ ρ)
  | .round 0 k => some (k Fin.elim0)
  | _ => none

def tell (u : τ) : Reads δ τ ρ → Option (Reads δ τ ρ)
  | .ask k => some (k u)
  | _ => none

/-- The result of a computation for one caller on a store that nobody changes. -/
def eval (x : δ) (u : τ) : Reads δ τ ρ → ρ
  | .done r => r
  | .round _ k => (k fun _ => x).eval x u
  | .ask k => (k u).eval x u

/-- One step with a store from `P`; without a caller nobody is asked for. -/
inductive Step (P : δ → Prop) (u : Option τ) : Reads δ τ ρ → Reads δ τ ρ → Prop where
  | answer (h : p.answer i x = some q) (hx : P x) : Step P u p q
  | settle (h : p.settle = some q) : Step P u p q
  | tell (hu : u = some v) (h : p.tell v = some q) : Step P u p q

/-- A computation gets from `p` to `q` with every read answered by a store from `P`. -/
abbrev Reaches (P : δ → Prop) (u : Option τ) : Reads δ τ ρ → Reads δ τ ρ → Prop :=
  Relation.ReflTransGen (Step P u)

theorem answer_cases {p q : Reads δ τ ρ} (h : p.answer i x = some q) :
    ∃ n k, ∃ hi : i < n + 1, p = .round (n + 1) k ∧
      q = .round n fun s => k (Fin.insertNth ⟨i, hi⟩ x s) := by
  rw [answer.eq_def] at h
  split at h
  · next n k =>
    split at h
    · next hi =>
      cases h
      exact ⟨n, k, hi, rfl, rfl⟩
    · cases h
  · cases h

theorem settle_cases {p q : Reads δ τ ρ} (h : p.settle = some q) :
    ∃ k, p = .round 0 k ∧ q = k Fin.elim0 := by
  rw [settle.eq_def] at h
  split at h
  · next k =>
    cases h
    exact ⟨k, rfl, rfl⟩
  · cases h

theorem tell_cases {p q : Reads δ τ ρ} (h : p.tell u = some q) : ∃ k, p = .ask k ∧ q = k u := by
  rw [tell.eq_def] at h
  split at h
  · next k =>
    cases h
    exact ⟨k, rfl, rfl⟩
  · cases h

theorem Step.mono (h : Step P u p q)
    (hP : ∀ x, P x → Q x) (hu : ∀ a, u = some a → v = some a) : Step Q v p q := by
  cases h with
  | answer h hx => exact .answer h (hP _ hx)
  | settle h => exact .settle h
  | tell ha h => exact .tell (hu _ ha) h

theorem Reaches.mono (h : Reaches P u p q)
    (hP : ∀ x, P x → Q x) (hu : ∀ a, u = some a → v = some a) : Reaches Q v p q := by
  induction h with
  | refl => exact .refl
  | tail _ hstep ih => exact ih.tail (hstep.mono hP hu)

/-- Whatever is read, a result has a property. -/
def Ends (Q : ρ → Prop) : Reads δ τ ρ → Prop
  | .done r => Q r
  | .round _ k => ∀ s, (k s).Ends Q
  | .ask k => ∀ u, (k u).Ends Q

theorem Step.ends {P : δ → Prop} {u : Option τ} {Q : ρ → Prop} {p q : Reads δ τ ρ}
    (h : Step P u p q) (hp : p.Ends Q) : q.Ends Q := by
  cases h with
  | answer h _ =>
    obtain ⟨n, k, hi, rfl, rfl⟩ := answer_cases h
    exact fun s => hp _
  | settle h =>
    obtain ⟨k, rfl, rfl⟩ := settle_cases h
    exact hp _
  | tell _ h =>
    obtain ⟨k, rfl, rfl⟩ := tell_cases h
    exact hp _

theorem Reaches.ends (h : Reaches P u p q) (hp : p.Ends Q) : q.Ends Q := by
  induction h with
  | refl => exact hp
  | tail _ hstep ih => exact hstep.ends ih

/-- A computation of one caller does not tell apart stores related by `R`. -/
def Blind (R : δ → δ → Prop) (u : τ) : Reads δ τ ρ → Prop
  | .done _ => True
  | .round n k => ∀ s : Fin n → δ, (∀ s', (∀ i, R (s i) (s' i)) → k s = k s') ∧ (k s).Blind R u
  | .ask k => (k u).Blind R u

/-- No computation tells a store from itself. -/
theorem blind_eq (u : τ) (p : Reads δ τ ρ) : p.Blind Eq u := by
  induction p with
  | done r => trivial
  | round n k ih =>
    intro s
    constructor
    · intro s' h
      rw [funext h]
    · exact ih s
  | ask k ih => exact ih u

theorem insertNth_related {R : δ → δ → Prop} {n : Nat} {i : Fin (n + 1)} {x y : δ} {s s' : Fin n → δ}
    (hx : R x y) (hs : ∀ j, R (s j) (s' j)) (j : Fin (n + 1)) :
    R (i.insertNth (α := fun _ => δ) x s j) (i.insertNth (α := fun _ => δ) y s' j) := by
  induction j using Fin.succAboveCases i with
  | x => simpa using hx
  | p j => simpa using hs j

theorem insertNth_const (i : Fin (n + 1)) (x : δ) :
    i.insertNth (α := fun _ => δ) x (fun _ => x) = fun _ => x := by
  funext j
  induction j using Fin.succAboveCases i with
  | x => simp
  | p j => simp

/-- A step leaves the result on `x` when the stores it reads cannot be told from `x`. -/
theorem Step.eval {P : δ → Prop} {R : δ → δ → Prop} {p q : Reads δ τ ρ} (h : Step P (some u) p q)
    (hrefl : ∀ y, R y y) (hR : ∀ y, P y → R y x) (hblind : p.Blind R u) :
    p.eval x u = q.eval x u ∧ q.Blind R u := by
  cases h with
  | answer h hy =>
    obtain ⟨n, k, hi, rfl, rfl⟩ := answer_cases h
    constructor
    · have hrelated := insertNth_related (i := ⟨_, hi⟩) (hR _ hy) fun _ : Fin n => hrefl x
      have hsame := (hblind _).1 _ hrelated
      rw [insertNth_const] at hsame
      exact congrArg (·.eval x u) hsame.symm
    · intro s
      constructor
      · intro s' hs
        exact (hblind _).1 _ (insertNth_related (hrefl _) hs)
      · exact (hblind _).2
  | settle h =>
    obtain ⟨k, rfl, rfl⟩ := settle_cases h
    have hnone : (fun _ => x) = (Fin.elim0 : Fin 0 → δ) := funext fun i => i.elim0
    exact ⟨congrArg (fun s => (k s).eval x u) hnone, (hblind _).2⟩
  | tell hu h =>
    cases hu
    obtain ⟨k, rfl, rfl⟩ := tell_cases h
    exact ⟨rfl, hblind⟩

/-- A computation that reads stores it cannot tell from `x` has the result it has on `x`. -/
theorem Reaches.eval
    (h : Reaches P (some u) p (.done r)) (hrefl : ∀ y, R y y) (hR : ∀ y, P y → R y x)
    (hblind : p.Blind R u) : p.eval x u = r := by
  induction h using Relation.ReflTransGen.head_induction_on with
  | refl => rfl
  | head hstep _ ih =>
    obtain ⟨heval, hblind⟩ := hstep.eval hrefl hR hblind
    rw [heval]
    exact ih hblind

end Reads
