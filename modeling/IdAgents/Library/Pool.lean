import IdAgents.Library.Interleaving

namespace AtomicProgram
open List Store

namespace Program

/-- The program issues at most `n` statements, whatever the answers are. -/
def Within : Nat → Program S ε α → Prop
  | _, .ret _ | _, .throw _ => True
  | 0, .issue _ _ => False
  | n + 1, .issue _ k => ∀ a, (k a).Within n

theorem within_ret (n : Nat) (a : α) : (ret a : Program S ε α).Within n := by
  cases n <;> trivial

theorem within_throw (n : Nat) (e : ε) : (Program.throw e : Program S ε α).Within n := by
  cases n <;> trivial

variable {p : Program S ε α}

theorem Within.mono (h : p.Within m) (hmn : m ≤ n) : p.Within n := by
  induction p generalizing m n with
  | ret a => exact within_ret n a
  | throw e => exact within_throw n e
  | issue c k ih =>
    cases m with
    | zero => exact h.elim
    | succ m =>
      obtain ⟨n, rfl⟩ := Nat.exists_eq_succ_of_ne_zero (Nat.pos_iff_ne_zero.mp
        (Nat.lt_of_lt_of_le m.succ_pos hmn))
      exact fun a => ih a (h a) (Nat.le_of_succ_le_succ hmn)

theorem Within.bind {f : α → Program S ε β} (h : p.Within m)
    (hf : ∀ a, (f a).Within n) : (p.bind f).Within (m + n) := by
  induction p generalizing m with
  | ret a => exact (hf a).mono (Nat.le_add_left n m)
  | throw e => exact within_throw _ e
  | issue c k ih =>
    cases m with
    | zero => exact h.elim
    | succ m =>
      rw [Nat.succ_add]
      exact fun a => ih a (h a)

theorem Within.ended (h : p.Within 0) : p.ended := by
  cases p with
  | ret a => rfl
  | throw e => rfl
  | issue c k => exact h.elim

end Program

section Pools
variable {S : Signature} {σ : Type} [Store S σ] {ε α : Type} {i j n : Nat}

variable {ps : List (Program S ε α)}

theorem interleave_issue (h : ps[j]? = some (.issue c k)) (is : List Nat) (s : σ) :
    interleave (j :: is) ps s = interleave is (ps.set j (k (answer c s))) (effect c s) := by
  rw [interleave, h]

/-- The rule of pools: what every step of a thread keeps, of the threads and of the store, holds
at the end. It may rest on what the executed statements are known to meet. -/
theorem interleave_pool_of {I : List (Program S ε α) → σ → Prop} {C : S.Stmt → σ → Prop}
    (is : List Nat) {s : σ} (hs : I ps s)
    (hC : ∀ e ∈ interleaveEvents is ps s, C e.2.stmt e.2.before)
    (hstep : ∀ (ps : List (Program S ε α)) (s : σ) (j : Nat) (c : S.Stmt)
      (k : S.Ans c → Program S ε α), I ps s → C c s → ps[j]? = some (.issue c k) →
      I (ps.set j (k (answer c s))) (effect c s)) :
    I (interleave is ps s).1 (interleave is ps s).2 := by
  induction is generalizing ps s with
  | nil => exact hs
  | cons j is ih =>
    rw [interleaveEvents] at hC
    rw [interleave]
    split
    · next c k hj =>
      simp only [hj, mem_cons, forall_eq_or_imp] at hC
      exact ih (hstep ps s j c k hs hC.1 hj) hC.2
    · next hj =>
      apply ih hs
      intro e he
      apply hC
      split
      · next c k hk => exact absurd hk (hj c k)
      · exact he

theorem interleave_pool {I : List (Program S ε α) → σ → Prop} (is : List Nat) {s : σ} (hs : I ps s)
    (hstep : ∀ (ps : List (Program S ε α)) (s : σ) (j : Nat) (c : S.Stmt)
      (k : S.Ans c → Program S ε α), I ps s → ps[j]? = some (.issue c k) →
      I (ps.set j (k (answer c s))) (effect c s)) :
    I (interleave is ps s).1 (interleave is ps s).2 :=
  interleave_pool_of (C := fun _ _ => True) is hs (fun _ _ => trivial)
    fun ps s j c k hI _ hj => hstep ps s j c k hI hj

variable {p : Program S ε α}

/-- What the others do is nothing to a thread. -/
theorem getElem?_step (h : ps[j]? = some (.issue c k)) (hi : (ps.set j (k a))[i]? = some p) :
    i = j ∧ p = k a ∨ i ≠ j ∧ ps[i]? = some p := by
  by_cases hij : j = i
  · subst hij
    rw [List.getElem?_set_self (List.getElem?_eq_some_iff.mp h).1] at hi
    exact .inl ⟨rfl, (Option.some.inj hi).symm⟩
  · rw [getElem?_set_ne hij] at hi
    exact .inr ⟨Ne.symm hij, hi⟩

/-- A thread that has ended stays as it is. -/
theorem interleave_stays (is : List Nat) (s : σ)
    (hp : ps[i]? = some p) (hend : p.ended) : (interleave is ps s).1[i]? = some p := by
  apply interleave_pool (I := fun ps _ => ps[i]? = some p) is hp
  intro ps s j c k hi hj
  have hne : j ≠ i := by
    intro heq
    subst heq
    obtain rfl : p = .issue c k := Option.some.inj (hi.symm.trans hj)
    cases hend
  rw [getElem?_set_ne hne, hi]

/-- A thread that gets as many turns as it may issue statements has ended. -/
theorem interleave_within (is : List Nat) (s : σ)
    (hp : ps[i]? = some p) (h : p.Within n) (hn : n ≤ is.count i) :
    ∃ q, (interleave is ps s).1[i]? = some q ∧ q.ended := by
  induction is generalizing ps s p n with
  | nil =>
    obtain rfl : n = 0 := Nat.le_zero.mp hn
    exact ⟨p, hp, h.ended⟩
  | cons j is ih =>
    by_cases hij : j = i
    · subst hij
      cases p with
      | ret a => exact ⟨_, interleave_stays _ s hp rfl, rfl⟩
      | throw e => exact ⟨_, interleave_stays _ s hp rfl, rfl⟩
      | issue c k =>
        rw [interleave_issue hp]
        cases n with
        | zero => exact h.elim
        | succ n =>
          rw [List.count_cons_self] at hn
          exact ih _ (List.getElem?_set_self (List.getElem?_eq_some_iff.mp hp).1) (h _)
            (Nat.le_of_succ_le_succ hn)
    · rw [count_cons_of_ne hij] at hn
      rw [interleave]
      split
      · exact ih _ (by rw [getElem?_set_ne hij, hp]) h hn
      · exact ih s hp h hn

end Pools

namespace Program
variable {S : Signature} {σ : Type} [Store S σ] {ε α : Type} {R : σ → σ → Prop}
  {C : S.Stmt → σ → Prop}

/-- The program ends in `Q`, whatever others do along `R` before each of its statements and after
its end, provided that `C` holds at each of its statements. -/
def stably (R : σ → σ → Prop) (C : S.Stmt → σ → Prop) :
    Program S ε α → (Except ε α → σ → Prop) → σ → Prop
  | .ret a, Q => fun s => ∀ t, R s t → Q (.ok a) t
  | .throw e, Q => fun s => ∀ t, R s t → Q (.error e) t
  | .issue c k, Q => fun s => ∀ t, R s t → C c t →
      (k (Store.answer c t)).stably R C Q (Store.effect c t)

theorem stably_along (htrans : ∀ s t u, R s t → R t u → R s u)
    {Q : Except ε α → σ → Prop} {p : Program S ε α} (h : p.stably R C Q s) (hst : R s t) :
    p.stably R C Q t := by
  cases p with
  | ret a => exact fun u hu => h u (htrans s t u hst hu)
  | throw e => exact fun u hu => h u (htrans s t u hst hu)
  | issue c k => exact fun u hu => h u (htrans s t u hst hu)

theorem stably_mono {Q Q' : Except ε α → σ → Prop} {p : Program S ε α} (h : p.stably R C Q s)
    (hQ : ∀ r s, Q r s → Q' r s) : p.stably R C Q' s := by
  induction p generalizing s with
  | ret a => exact fun t ht => hQ _ t (h t ht)
  | throw e => exact fun t ht => hQ _ t (h t ht)
  | issue c k ih => exact fun t ht hc => ih _ (h t ht hc)

end Program

section Pools
variable {S : Signature} {σ : Type} [Store S σ] {ε α : Type} {C : S.Stmt → σ → Prop}

/-- The rule of calls that rely on one another: a statement of another call moves the store along
what each call relies on. -/
theorem interleave_stably {R : Nat → σ → σ → Prop} {G : Nat → S.Stmt → Prop} {T : σ → Prop}
    {Q : Nat → Except ε α → σ → Prop} {ps : List (Program S ε α)} (is : List Nat) {s : σ}
    (hrefl : ∀ i s, R i s s) (htrans : ∀ i s t u, R i s t → R i t u → R i s u)
    (hT : ∀ c s, T s → C c s → T (Store.effect c s))
    (hR : ∀ i j c s, i ≠ j → G j c → T s → C c s → R i s (Store.effect c s)) (hs : T s)
    (hps : ∀ (i : Nat) (p : Program S ε α), ps[i]? = some p →
      p.Meets (G i) (fun _ => True) ∧ p.stably (R i) C (Q i) s)
    (hC : ∀ e ∈ interleaveEvents is ps s, C e.2.stmt e.2.before) :
    T (interleave is ps s).2 ∧ ∀ (i : Nat) (p : Program S ε α),
      (interleave is ps s).1[i]? = some p → p.stably (R i) C (Q i) (interleave is ps s).2 := by
  have hpool := interleave_pool_of (C := C) (I := fun ps s => T s ∧
    ∀ (i : Nat) (p : Program S ε α), ps[i]? = some p →
      p.Meets (G i) (fun _ => True) ∧ p.stably (R i) C (Q i) s) is ⟨hs, hps⟩ hC ?_
  · exact ⟨hpool.1, fun i p hp => (hpool.2 i p hp).2⟩
  · intro ps s j c k ⟨hs, hps⟩ hc hj
    obtain ⟨hmeets, hstably⟩ := hps j _ hj
    refine ⟨hT c s hs hc, fun i p hp => ?_⟩
    obtain ⟨rfl, rfl⟩ | ⟨hne, hi⟩ := getElem?_step hj hp
    · exact ⟨hmeets.2 _, hstably s (hrefl i s) hc⟩
    · exact ⟨(hps i p hi).1, Program.stably_along (htrans i) (hps i p hi).2
        (hR i j c s hne hmeets.1 hs hc)⟩

end Pools

end AtomicProgram
