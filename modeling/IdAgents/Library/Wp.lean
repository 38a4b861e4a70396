import IdAgents.Library.Program

namespace AtomicProgram

/-- What a proof about lone runs watches: a ghost value that follows the executed statements, and
what is due at each of them. -/
structure Monitor (S : Signature) (σ γ : Type) where
  see : γ → S.Stmt → σ → γ
  due : γ → S.Stmt → σ → Prop

namespace Monitor

/-- The monitor of the statements labelled `t`. -/
def labelled (m : Monitor (S.tagged τ) σ γ) (t : τ) : Monitor S σ γ where
  see g c s := m.see g (t, c) s
  due g c s := m.due g (t, c) s

end Monitor

/-- The ghost value after a list of events. -/
def Monitor.over (m : Monitor S σ γ) (g : γ) (es : List (Event S σ)) : γ :=
  es.foldl (fun g e => m.see g e.stmt e.before) g

namespace Program
variable {S : Signature} {σ γ τ : Type} [Store S σ] {ε α β : Type} {m : Monitor S σ γ}

/-- The weakest precondition of a program alone: what is due holds at each of its statements, and
`R` at its end. -/
def wp (m : Monitor S σ γ) : Program S ε α → (Except ε α → γ → σ → Prop) → γ → σ → Prop
  | .ret a, R => R (.ok a)
  | .throw e, R => R (.error e)
  | .issue c k, R => fun g s =>
    m.due g c s ∧ (k (Store.answer c s)).wp m R (m.see g c s) (Store.effect c s)

@[simp] theorem wp_ret (a : α) (R : Except ε α → γ → σ → Prop) :
    (ret a : Program S ε α).wp m R = R (.ok a) := rfl

@[simp] theorem wp_throw (e : ε) (R : Except ε α → γ → σ → Prop) :
    (Program.throw e : Program S ε α).wp m R = R (.error e) := rfl

variable {R : Except ε α → γ → σ → Prop}

theorem wp_issue : (issue c k).wp m R g s ↔
      m.due g c s ∧ (k (Store.answer c s)).wp m R (m.see g c s) (Store.effect c s) := Iff.rfl

variable {p : Program S ε α}

theorem wp_mono (h : p.wp m R g s) (hR : ∀ r g s, R r g s → R' r g s) : p.wp m R' g s := by
  induction p generalizing g s with
  | ret a => exact hR _ _ _ h
  | throw e => exact hR _ _ _ h
  | issue c k ih =>
    obtain ⟨hd, hk⟩ := h
    exact ⟨hd, ih _ hk⟩

/-- A monitor that sees the same and asks for less. -/
theorem wp_of_due (h : p.wp m R g s) (hsee : ∀ g c s, m'.see g c s = m.see g c s)
    (hdue : ∀ g c s, m.due g c s → m'.due g c s) : p.wp m' R g s := by
  induction p generalizing g s with
  | ret a => exact h
  | throw e => exact h
  | issue c k ih =>
    obtain ⟨hd, hk⟩ := h
    have hk' := ih _ hk
    rw [← hsee] at hk'
    exact ⟨hdue g c s hd, hk'⟩

/-- The postcondition a first part must reach for the second part to go on from it. -/
def thenWp (m : Monitor S σ γ) (f : α → Program S ε β) (R : Except ε β → γ → σ → Prop) :
    Except ε α → γ → σ → Prop
  | .ok a => (f a).wp m R
  | .error e => R (.error e)

variable {f : α → Program S ε β}

theorem wp_bind {R : Except ε β → γ → σ → Prop} :
    (p.bind f).wp m R g s ↔ p.wp m (thenWp m f R) g s := by
  induction p generalizing g s with
  | ret a => rfl
  | throw e => rfl
  | issue c k ih => simp only [issue_bind, wp_issue, ih]

/-- The rule of sequence. -/
theorem wp_seq {R : Except ε β → γ → σ → Prop} {M : Except ε α → γ → σ → Prop} (h : p.wp m M g s)
    (hok : ∀ a g s, M (.ok a) g s → (f a).wp m R g s)
    (herror : ∀ e g s, M (.error e) g s → R (.error e) g s) : (p.bind f).wp m R g s := by
  rw [wp_bind]
  apply wp_mono h
  intro r g s hr
  cases r with
  | ok a => exact hok a g s hr
  | error e => exact herror e g s hr

/-- Sequence after a first part that does not throw. -/
theorem wp_then {R : Except ε β → γ → σ → Prop}
    {N : α → γ → σ → Prop} (h : p.wp m (fun r g s => ∃ a, r = .ok a ∧ N a g s) g s)
    (hf : ∀ a g s, N a g s → (f a).wp m R g s) : (p.bind f).wp m R g s := by
  apply wp_seq h
  · rintro a g s ⟨b, hb, hN⟩
    obtain rfl : a = b := Except.ok.inj hb
    exact hf a g s hN
  · rintro e g s ⟨b, hb, _⟩
    cases hb

theorem wp_tryCatch (hp : p.wp m M g s) (hok : ∀ a g s, M (.ok a) g s → R (.ok a) g s)
    (herror : ∀ e g s, M (.error e) g s → (h e).wp m R g s) : (p.tryCatch h).wp m R g s := by
  induction p generalizing g s with
  | ret a => exact hok _ _ _ hp
  | throw e => exact herror _ _ _ hp
  | issue c k ih =>
    obtain ⟨hd, hk⟩ := hp
    exact ⟨hd, ih _ hk⟩

theorem wp_tag {m : Monitor (S.tagged τ) σ γ} :
    (p.tag t).wp m R g s ↔ p.wp (m.labelled t) R g s := by
  induction p generalizing g s with
  | ret a => rfl
  | throw e => rfl
  | issue c k ih => exact and_congr Iff.rfl (ih _)

/-- The rule of loops: `J` is about the elements still to come. -/
theorem wp_fold {body : α → β → Program S ε α}
    {J : List β → γ → σ → Prop} {xs : List β} (acc : α) (h : J xs g s)
    (hbody : ∀ acc x xs g s, J (x :: xs) g s →
      (body acc x).wp m (fun r g s => ∃ b, r = .ok b ∧ J xs g s) g s)
    (hdone : ∀ acc g s, J [] g s → R (.ok acc) g s) : (fold xs acc body).wp m R g s := by
  induction xs generalizing acc g s with
  | nil => exact hdone acc g s h
  | cons x xs ih =>
    apply wp_then (hbody acc x xs g s h)
    intro acc g s hJ
    exact ih acc hJ

/-- Statements that each keep an invariant, and find it enough for what is due, keep it
throughout; what the program is known to return is known at the end. -/
theorem wp_of_meets {Q : S.Stmt → Prop} {T : α → Prop} {I : γ → σ → Prop}
    (hp : p.Meets Q T) (h : I g s)
    (hstep : ∀ g c s, Q c → I g s → m.due g c s ∧ I (m.see g c s) (Store.effect c s)) :
    p.wp m (fun r g s => I g s ∧ ∀ a, r = .ok a → T a) g s := by
  induction p generalizing g s with
  | ret a => exact ⟨h, fun b hb => by cases hb; exact hp⟩
  | throw e => exact ⟨h, fun b hb => nomatch hb⟩
  | issue c k ih =>
    obtain ⟨hd, hI⟩ := hstep g c s hp.1 h
    exact ⟨hd, ih _ (hp.2 _) hI⟩

/-- A lone run reaches the postcondition, and what is due held at each of its statements. -/
theorem wp_sound (h : p.wp m R g s) : R (p.run s).1 (m.over g (p.trace s)) (p.run s).2 ∧
      ∀ es e fs, p.trace s = es ++ e :: fs → m.due (m.over g es) e.stmt e.before := by
  induction p generalizing g s with
  | ret a => exact ⟨h, by simp⟩
  | throw e => exact ⟨h, by simp⟩
  | issue c k ih =>
    obtain ⟨hd, hk⟩ := h
    obtain ⟨hR, hdue⟩ := ih _ hk
    refine ⟨hR, fun es e fs hsplit => ?_⟩
    cases es with
    | nil =>
      obtain ⟨rfl, _⟩ := List.cons.inj hsplit
      exact hd
    | cons f es =>
      obtain ⟨rfl, htail⟩ := List.cons.inj hsplit
      exact hdue es e fs htail

end Program

end AtomicProgram
