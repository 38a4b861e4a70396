import IdAgents.Library.Program

namespace AtomicProgram

namespace Program
variable {S : Signature} {ε α β : Type} {E : (c : S.Stmt) → S.Ans c → Prop}

/-- No exception is thrown before an answer that is `E`. -/
def ThrowsAfter (E : (c : S.Stmt) → S.Ans c → Prop) : Program S ε α → Prop
  | .ret _ => True
  | .throw _ => False
  | .issue c k => ∀ a, E c a ∨ (k a).ThrowsAfter E

/-- An answer that is `E` ends the program at once. -/
def StopsAt (E : (c : S.Stmt) → S.Ans c → Prop) : Program S ε α → Prop
  | .ret _ => True
  | .throw _ => True
  | .issue c k => ∀ a, (E c a → ∃ e, k a = .throw e) ∧ (k a).StopsAt E

theorem ThrowsAfter.bind {Q : S.Stmt → Prop} {R : α → Prop} {p : Program S ε α}
    {f : α → Program S ε β} (h : p.ThrowsAfter E) (hp : p.Meets Q R)
    (hf : ∀ a, R a → (f a).ThrowsAfter E) : (p.bind f).ThrowsAfter E := by
  induction p with
  | ret a => exact hf a hp
  | throw e => exact h.elim
  | issue c k ih => exact fun a => (h a).imp id fun ha => ih a ha (hp.2 a)

/-- Where the handler throws nothing of its own, it does not matter what is handled. -/
theorem ThrowsAfter.tryCatch (p : Program S ε α) {h : ε → Program S ε α}
    (hh : ∀ e, (h e).ThrowsAfter E) : (p.tryCatch h).ThrowsAfter E := by
  induction p with
  | ret a => trivial
  | throw e => exact hh e
  | issue c k ih => exact fun a => .inr (ih a)

theorem ThrowsAfter.fold {body : α → β → Program S ε α} {xs : List β} (acc : α)
    (h : ∀ acc, ∀ x ∈ xs, (body acc x).ThrowsAfter E) : (fold xs acc body).ThrowsAfter E := by
  induction xs generalizing acc with
  | nil => trivial
  | cons x xs ih =>
    apply (h acc x (by simp)).bind (.of_forall (R := fun _ => True) _ (fun _ => trivial)
      fun _ => trivial)
    exact fun acc _ => ih acc fun acc y hy => h acc y (by simp [hy])

theorem StopsAt.bind {Q : S.Stmt → Prop} {R : α → Prop} {p : Program S ε α}
    {f : α → Program S ε β} (h : p.StopsAt E) (hp : p.Meets Q R)
    (hf : ∀ a, R a → (f a).StopsAt E) : (p.bind f).StopsAt E := by
  induction p with
  | ret a => exact hf a hp
  | throw e => trivial
  | issue c k ih =>
    intro a
    constructor
    · intro hE
      obtain ⟨e, he⟩ := (h a).1 hE
      exact ⟨e, congrArg (·.bind f) he⟩
    · exact ih a (h a).2 (hp.2 a)

section Runs
variable {σ : Type} [Store S σ]

variable {p : Program S ε α}

theorem ThrowsAfter.returns (h : p.ThrowsAfter E) {s : σ}
    (hnone : ∀ e ∈ p.trace s, ¬ E e.stmt (Store.answer e.stmt e.before)) :
    ∃ a t, p.run s = (.ok a, t) := by
  induction p generalizing s with
  | ret a => exact ⟨a, s, rfl⟩
  | throw e => exact h.elim
  | issue c k ih =>
    rw [trace_issue, List.forall_mem_cons] at hnone
    exact ih _ ((h _).resolve_left hnone.1) hnone.2

/-- Nothing happens after an answer that ends the program. -/
theorem StopsAt.run (h : p.StopsAt E) {s : σ} {e : Event S σ}
    (he : e ∈ p.trace s) (hE : E e.stmt (Store.answer e.stmt e.before)) :
    (p.run s).2 = e.after := by
  induction p generalizing s with
  | ret a => exact absurd he List.not_mem_nil
  | throw e => exact absurd he List.not_mem_nil
  | issue c k ih =>
    rw [trace_issue, List.mem_cons] at he
    rw [run_issue]
    obtain rfl | he := he
    · obtain ⟨error, hthrow⟩ := (h _).1 hE
      have hk : k (Store.answer c s) = .throw error := hthrow
      rw [hk]
      rfl
    · exact ih _ (h _).2 he

theorem run_bind_returns {f : α → Program S ε β} {s u : σ} {b : β}
    (h : (p.bind f).run s = (.ok b, u)) : ∃ a t, p.run s = (.ok a, t) ∧ (f a).run t = (.ok b, u) ∧
      (p.bind f).trace s = p.trace s ++ (f a).trace t := by
  cases hp : p.run s with
  | mk result t =>
    cases result with
    | error e =>
      rw [run_bind_error hp] at h
      simp at h
    | ok a =>
      refine ⟨a, t, rfl, (run_bind_ok hp f).symm.trans h, ?_⟩
      rw [trace_bind, hp]

theorem trace_tryCatch (p : Program S ε α) (h : ε → Program S ε α) (s : σ) :
    (p.tryCatch h).trace s = p.trace s ++ match p.run s with
      | (.ok _, _) => []
      | (.error e, t) => (h e).trace t := by
  induction p generalizing s with
  | ret a => rfl
  | throw e => rfl
  | issue c k ih => simp only [tryCatch_issue, trace_issue, run_issue, ih, List.cons_append]

end Runs

end Program

end AtomicProgram
