import IdAgents.Library.Rely

namespace AtomicProgram

/-- The statements of two signatures side by side. -/
def Signature.sum (S T : Signature) : Signature where
  Stmt := S.Stmt ⊕ T.Stmt
  Ans := fun
    | .inl c => S.Ans c
    | .inr c => T.Ans c

instance {S T : Signature} [Store S σ] [Store T σ] : Store (S.sum T) σ where
  answer := fun
    | .inl c => Store.answer (S := S) c
    | .inr c => Store.answer (S := T) c
  effect := fun
    | .inl c => Store.effect (S := S) c
    | .inr c => Store.effect (S := T) c

namespace Program
variable {S T : Signature} {ε α β : Type}

/-- A program over the first signature, as one over both. -/
def inl : Program S ε α → Program (S.sum T) ε α
  | .ret a => .ret a
  | .throw e => .throw e
  | .issue c k => .issue (S := S.sum T) (.inl c) fun a => (k a).inl

/-- A statement of the second signature. -/
def other (c : T.Stmt) : Program (S.sum T) ε (T.Ans c) := .issue (S := S.sum T) (.inr c) .ret

end Program

namespace Script
variable {S T : Signature} {γ τ : Type}

/-- What a script says of the statements of the first signature. -/
def left (m : Script (S.sum T) γ) : Script S γ where
  see g c a := m.see g (.inl c) a
  due g c := m.due g (.inl c)

/-- What a script says of the statements that carry a label. -/
def labelled (m : Script (S.tagged τ) γ) (t : τ) : Script S γ where
  see g c a := m.see g (t, c) a
  due g c := m.due g (t, c)

theorem keeps_inl (h : p.keeps m.left R g) : (Program.inl (T := T) p).keeps m R g := by
  induction p generalizing g with
  | ret a => exact h
  | throw e => exact h
  | issue c k ih => exact ⟨h.1, fun a => ih a (h.2 a)⟩

theorem keeps_tag {m : Script (S.tagged τ) γ} {t : τ} {p : Program S ε α}
    {R : Except ε α → γ → Prop} (h : p.keeps (m.labelled t) R g) : (p.tag t).keeps m R g := by
  induction p generalizing g with
  | ret a => exact h
  | throw e => exact h
  | issue c k ih => exact ⟨h.1, fun a => ih a (h.2 a)⟩

end Script

namespace Program
variable {S : Signature} {γ ε α : Type} {m : Script S γ}

/-- A program whose statements all leave the ghost value among those of `G` keeps to the script. -/
theorem keeps_of_meets {Q : S.Stmt → Prop} {G : γ → Prop} {T : α → Prop} {p : Program S ε α}
    (hp : p.Meets Q T) (hstep : ∀ g c, Q c → G g → m.due g c ∧ ∀ a, G (m.see g c a)) (hg : G g) :
    p.keeps m (fun r g => G g ∧ ∀ a, r = .ok a → T a) g := by
  induction p generalizing g with
  | ret a =>
    refine ⟨hg, ?_⟩
    rintro _ ⟨⟩
    exact hp
  | throw e => exact ⟨hg, fun _ h => nomatch h⟩
  | issue c k ih =>
    obtain ⟨hdue, hsee⟩ := hstep g c hp.1 hg
    exact ⟨hdue, fun a => ih a (hp.2 a) (hsee a)⟩

end Program

end AtomicProgram
