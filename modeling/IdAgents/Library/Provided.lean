import IdAgents.Library.Program

namespace AtomicProgram.Program
variable {S : Signature} {σ : Type} [Store S σ] {ε α β : Type} {A : S.Stmt → σ → Prop}

/-- A lone run ends in `R`, provided that `A` holds at each of its statements. -/
def provided (A : S.Stmt → σ → Prop) : Program S ε α → (Except ε α → σ → Prop) → σ → Prop
  | .ret a, R => R (.ok a)
  | .throw e, R => R (.error e)
  | .issue c k, R => fun s => A c s → (k (Store.answer c s)).provided A R (Store.effect c s)

variable {p : Program S ε α} {R : Except ε α → σ → Prop}

theorem provided_mono {R' : Except ε α → σ → Prop} (h : p.provided A R s)
    (hR : ∀ r s, R r s → R' r s) : p.provided A R' s := by
  induction p generalizing s with
  | ret a => exact hR _ _ h
  | throw e => exact hR _ _ h
  | issue c k ih =>
    intro hA
    exact ih _ (h hA)

/-- The rule of sequence. -/
theorem provided_seq {f : α → Program S ε β} {R : Except ε β → σ → Prop}
    {T : Except ε α → σ → Prop} (h : p.provided A T s)
    (hok : ∀ a s, T (.ok a) s → (f a).provided A R s)
    (herror : ∀ e s, T (.error e) s → R (.error e) s) : (p.bind f).provided A R s := by
  induction p generalizing s with
  | ret a => exact hok a s h
  | throw e => exact herror e s h
  | issue c k ih =>
    intro hA
    exact ih _ (h hA)

/-- Sequence after a first part that does not throw. -/
theorem provided_then {f : α → Program S ε β} {R : Except ε β → σ → Prop}
    {N : α → σ → Prop} (h : p.provided A (fun r s => ∃ a, r = .ok a ∧ N a s) s)
    (hf : ∀ a s, N a s → (f a).provided A R s) : (p.bind f).provided A R s := by
  apply provided_seq h
  · rintro a s ⟨b, hb, hN⟩
    obtain rfl : a = b := Except.ok.inj hb
    exact hf a s hN
  · rintro e s ⟨b, hb, _⟩
    cases hb

theorem provided_tryCatch {h : ε → Program S ε α}
    {T : Except ε α → σ → Prop} (hp : p.provided A T s) (hok : ∀ a s, T (.ok a) s → R (.ok a) s)
    (herror : ∀ e s, T (.error e) s → (h e).provided A R s) : (p.tryCatch h).provided A R s := by
  induction p generalizing s with
  | ret a => exact hok a s hp
  | throw e => exact herror e s hp
  | issue c k ih =>
    intro hA
    exact ih _ (hp hA)

/-- The rule of loops that do something for each element: `P` is what is done, and lasts along
`R`. -/
theorem provided_each {R : σ → σ → Prop} {P : β → σ → Prop} {body : Unit → β → Program S ε Unit}
    {xs : List β} (hrefl : ∀ s, R s s) (htrans : ∀ s t u, R s t → R t u → R s u)
    (hlasts : ∀ x s t, P x s → R s t → P x t)
    (hbody : ∀ x ∈ xs, ∀ s, (body () x).provided A (fun r t => r = .ok () ∧ R s t ∧ P x t) s) :
    (fold xs () body).provided A (fun r t => r = .ok () ∧ R s t ∧ ∀ x ∈ xs, P x t) s := by
  induction xs generalizing s with
  | nil => exact ⟨rfl, hrefl s, by simp⟩
  | cons x xs ih =>
    apply provided_seq (hbody x (by simp) s)
    · rintro _ t ⟨_, hR, hP⟩
      apply provided_mono (ih fun y hy => hbody y (by simp [hy]))
      rintro r u ⟨rfl, hR', hall⟩
      refine ⟨rfl, htrans s t u hR hR', ?_⟩
      intro y hy
      rcases List.mem_cons.mp hy with rfl | hy
      · exact hlasts y t u hP hR'
      · exact hall y hy
    · rintro e t ⟨hr, _⟩
      cases hr

/-- Statements that each keep an invariant keep it throughout. -/
theorem provided_of_meets {Q : S.Stmt → Prop} {T : α → Prop} {I : σ → Prop}
    (hp : p.Meets Q T) (h : I s) (hstep : ∀ c s, Q c → I s → I (Store.effect c s)) :
    p.provided A (fun _ s => I s) s := by
  induction p generalizing s with
  | ret a => exact h
  | throw e => exact h
  | issue c k ih =>
    intro _
    exact ih _ (hp.2 _) (hstep c s hp.1 h)

/-- Where the proviso held at each statement, the run has reached the postcondition. -/
theorem provided_sound (h : p.provided A R s)
    (hA : ∀ e ∈ p.trace s, A e.stmt e.before) : R (p.run s).1 (p.run s).2 := by
  induction p generalizing s with
  | ret a => exact h
  | throw e => exact h
  | issue c k ih =>
    rw [trace_issue, List.forall_mem_cons] at hA
    exact ih _ (h hA.1) hA.2

end AtomicProgram.Program
