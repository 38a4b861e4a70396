import Mathlib.Data.List.Basic

namespace AtomicProgram

/-- The statements a program can issue to a shared store, each with the type of its answer. -/
structure Signature where
  Stmt : Type
  Ans : Stmt → Type

/-- A store executes one statement at a time: it answers from the state before the effect. -/
class Store (S : Signature) (σ : outParam Type) where
  answer : (c : S.Stmt) → σ → S.Ans c
  effect : S.Stmt → σ → σ

/-- The tagged signature: every statement carries a label the store ignores. -/
def Signature.tagged (τ : Type) (S : Signature) : Signature :=
  ⟨τ × S.Stmt, fun c => S.Ans c.2⟩

instance [Store S σ] : Store (S.tagged τ) σ where
  answer c s := Store.answer c.2 s
  effect c s := Store.effect c.2 s

/-- A program issues statements one by one and ends with a value or an exception. -/
inductive Program (S : Signature) (ε α : Type) where
  | ret (a : α)
  | throw (e : ε)
  | issue (c : S.Stmt) (k : S.Ans c → Program S ε α)

namespace Program

def bind : Program S ε α → (α → Program S ε β) → Program S ε β
  | .ret a, f => f a
  | .throw e, _ => .throw e
  | .issue c k, f => .issue c fun a => (k a).bind f

def tryCatch : Program S ε α → (ε → Program S ε α) → Program S ε α
  | .ret a, _ => .ret a
  | .throw e, h => h e
  | .issue c k, h => .issue c fun a => (k a).tryCatch h

/-- The single statement `c`, returning its answer. -/
def stmt (c : S.Stmt) : Program S ε (S.Ans c) := .issue c .ret

instance : Monad (Program S ε) where
  pure := .ret
  bind := .bind

instance : MonadExceptOf ε (Program S ε) where
  throw := .throw
  tryCatch := .tryCatch

/-- The loop `for x of xs { acc = body(acc, x) }`. -/
def fold : List β → α → (α → β → Program S ε α) → Program S ε α
  | [], acc, _ => .ret acc
  | x :: xs, acc, body => (body acc x).bind fun acc => fold xs acc body

/-- The same program over a signature whose statements carry the label `t`. -/
def tag (t : τ) : Program S ε α → Program (S.tagged τ) ε α
  | .ret a => .ret a
  | .throw e => .throw e
  | .issue c k => .issue (t, c) fun a => (k a).tag t

@[simp] theorem pure_eq (a : α) : (pure a : Program S ε α) = .ret a := rfl

@[simp] theorem bind_eq (p : Program S ε α) (f : α → Program S ε β) : p >>= f = p.bind f := rfl

variable (e : ε)

@[simp] theorem throw_eq : (throw e : Program S ε α) = .throw e := rfl

@[simp] theorem throwThe_eq : (throwThe ε e : Program S ε α) = .throw e := rfl

@[simp] theorem map_eq (f : α → β) (p : Program S ε α) : f <$> p = p.bind fun a => .ret (f a) := rfl

@[simp] theorem ret_bind (a : α) (f : α → Program S ε β) : (ret a).bind f = f a := rfl

@[simp] theorem throw_bind (f : α → Program S ε β) : (Program.throw e).bind f = .throw e := rfl

@[simp] theorem stmt_bind (c : S.Stmt) (f : S.Ans c → Program S ε β) :
    (stmt c).bind f = .issue c f := rfl

@[simp] theorem issue_bind (c : S.Stmt) (k : S.Ans c → Program S ε α)
    (f : α → Program S ε β) : (issue c k).bind f = .issue c fun a => (k a).bind f := rfl

@[simp] theorem fold_nil (acc : α) (body : α → β → Program S ε α) :
    fold [] acc body = .ret acc := rfl

@[simp] theorem fold_cons (x : β) (xs : List β) (acc : α) (body : α → β → Program S ε α) :
    fold (x :: xs) acc body = (body acc x).bind fun acc => fold xs acc body := rfl

@[simp] theorem tryCatch_ret (a : α) (h : ε → Program S ε α) : (ret a).tryCatch h = .ret a := rfl

@[simp] theorem tryCatch_throw (h : ε → Program S ε α) : (Program.throw e).tryCatch h = h e := rfl

@[simp] theorem tryCatch_issue (c : S.Stmt) (k : S.Ans c → Program S ε α) (h : ε → Program S ε α) :
    (issue c k).tryCatch h = .issue c fun a => (k a).tryCatch h := rfl

theorem bind_assoc (p : Program S ε α) (f : α → Program S ε β) (g : β → Program S ε γ) :
    (p.bind f).bind g = p.bind fun a => (f a).bind g := by
  induction p with
  | ret a => rfl
  | throw e => rfl
  | issue c k ih => simp only [bind, ih]

theorem fold_append (xs ys : List β) (acc : α) (body : α → β → Program S ε α) :
    fold (xs ++ ys) acc body = (fold xs acc body).bind fun acc => fold ys acc body := by
  induction xs generalizing acc with
  | nil => rfl
  | cons x xs ih =>
    rw [List.cons_append, fold_cons, fold_cons, bind_assoc]
    congr 1
    funext acc
    exact ih acc

/-- Every statement the program can issue meets `Q`, every value it can return meets `R`,
whatever the answers are. -/
def Meets (Q : S.Stmt → Prop) (R : α → Prop) : Program S ε α → Prop
  | .ret a => R a
  | .throw _ => True
  | .issue c k => Q c ∧ ∀ a, (k a).Meets Q R

@[simp] theorem meets_ret (a : α) : (ret a : Program S ε α).Meets Q R ↔ R a := Iff.rfl

@[simp] theorem meets_throw : (Program.throw e : Program S ε α).Meets Q R ↔ True := Iff.rfl

@[simp] theorem meets_issue (c : S.Stmt) (k : S.Ans c → Program S ε α) :
    (issue c k).Meets Q R ↔ Q c ∧ ∀ a, (k a).Meets Q R := Iff.rfl

/-- A program meets what all statements and all values meet. -/
theorem Meets.of_forall (p : Program S ε α) (hQ : ∀ c, Q c) (hR : ∀ a, R a) : p.Meets Q R := by
  induction p with
  | ret a => exact hR a
  | throw e => trivial
  | issue c k ih => exact ⟨hQ c, ih⟩

theorem Meets.mono {Q Q' : S.Stmt → Prop} {R R' : α → Prop} {p : Program S ε α}
    (h : p.Meets Q R) (hQ : ∀ c, Q c → Q' c) (hR : ∀ a, R a → R' a) : p.Meets Q' R' := by
  induction p with
  | ret a => exact hR a h
  | throw e => trivial
  | issue c k ih => exact ⟨hQ c h.1, fun a => ih a (h.2 a)⟩

theorem Meets.bind {Q : S.Stmt → Prop} {R : α → Prop} {T : β → Prop} {p : Program S ε α}
    {f : α → Program S ε β} (h : p.Meets Q R) (hf : ∀ a, R a → (f a).Meets Q T) :
    (p.bind f).Meets Q T := by
  induction p with
  | ret a => exact hf a h
  | throw e => trivial
  | issue c k ih => exact ⟨h.1, fun a => ih a (h.2 a)⟩

theorem Meets.tryCatch {Q : S.Stmt → Prop} {R : α → Prop} {p : Program S ε α}
    {h : ε → Program S ε α} (hp : p.Meets Q R) (hh : ∀ e, (h e).Meets Q R) :
    (p.tryCatch h).Meets Q R := by
  induction p with
  | ret a => exact hp
  | throw e => exact hh e
  | issue c k ih => exact ⟨hp.1, fun a => ih a (hp.2 a)⟩

/-- The rule of loops: `R` is kept of what the loop gathers. -/
theorem Meets.fold_inv {Q : S.Stmt → Prop} {R : α → Prop} {body : α → β → Program S ε α}
    {xs : List β} {acc : α} (hacc : R acc)
    (h : ∀ acc, R acc → ∀ x ∈ xs, (body acc x).Meets Q R) : (fold xs acc body).Meets Q R := by
  induction xs generalizing acc with
  | nil => exact hacc
  | cons x xs ih =>
    apply (h acc hacc x (by simp)).bind
    intro acc hacc
    exact ih hacc fun acc hacc y hy => h acc hacc y (by simp [hy])

theorem Meets.fold {Q : S.Stmt → Prop} {body : α → β → Program S ε α} {xs : List β}
    (acc : α) (h : ∀ acc, ∀ x ∈ xs, (body acc x).Meets Q fun _ => True) :
    (fold xs acc body).Meets Q fun _ => True :=
  .fold_inv trivial fun acc _ => h acc

/-- The program never returns a value. -/
def Fails : Program S ε α → Prop
  | .ret _ => False
  | .throw _ => True
  | .issue _ k => ∀ a, (k a).Fails

/-- On every run that returns, the statements and their answers meet `P`. -/
def OnReturn (P : (c : S.Stmt) → S.Ans c → Prop) : Program S ε α → Prop
  | .ret _ => True
  | .throw _ => True
  | .issue c k => ∀ a, (k a).Fails ∨ (P c a ∧ (k a).OnReturn P)

theorem Fails.bind {p : Program S ε α} (h : p.Fails) (f : α → Program S ε β) :
    (p.bind f).Fails := by
  induction p with
  | ret a => exact h.elim
  | throw e => trivial
  | issue c k ih => exact fun a => ih a (h a)

theorem OnReturn.bind {P : (c : S.Stmt) → S.Ans c → Prop} {p : Program S ε α}
    {f : α → Program S ε β} (h : p.OnReturn P) (hf : ∀ a, (f a).OnReturn P) :
    (p.bind f).OnReturn P := by
  induction p with
  | ret a => exact hf a
  | throw e => trivial
  | issue c k ih =>
    intro a
    obtain hfail | ⟨hP, hk⟩ := h a
    · exact .inl (hfail.bind f)
    · exact .inr ⟨hP, ih a hk⟩

theorem Meets.tag {S : Signature} {Q : S.Stmt → Prop} {R : α → Prop} {p : Program S ε α}
    (h : p.Meets Q R) (t : τ) : (p.tag t).Meets (fun c : τ × S.Stmt => c.1 = t ∧ Q c.2) R := by
  induction p with
  | ret a => exact h
  | throw e => trivial
  | issue c k ih => exact ⟨⟨rfl, h.1⟩, fun a => ih a (h.2 a)⟩

end Program

/-- A statement together with the state it was executed in. -/
structure Event (S : Signature) (σ : Type) where
  stmt : S.Stmt
  before : σ

section Runs
variable {S : Signature} {σ : Type} [Store S σ] {ε α β : Type}

def Event.after (e : Event S σ) : σ := Store.effect e.stmt e.before

@[simp] theorem Event.after_mk (c : S.Stmt) (s : σ) :
    (⟨c, s⟩ : Event S σ).after = Store.effect c s := rfl

namespace Program

/-- The run of a program alone. -/
def run : Program S ε α → σ → Except ε α × σ
  | .ret a, s => (.ok a, s)
  | .throw e, s => (.error e, s)
  | .issue c k, s => (k (Store.answer c s)).run (Store.effect c s)

/-- The statements a lone run executes, in order, each with the state before it. -/
def trace : Program S ε α → σ → List (Event S σ)
  | .ret _, _ => []
  | .throw _, _ => []
  | .issue c k, s => ⟨c, s⟩ :: (k (Store.answer c s)).trace (Store.effect c s)

@[simp] theorem run_ret (a : α) (s : σ) : (ret a : Program S ε α).run s = (.ok a, s) := rfl

@[simp] theorem run_throw (e : ε) (s : σ) :
    (Program.throw e : Program S ε α).run s = (.error e, s) := rfl

@[simp] theorem run_issue (c : S.Stmt) (k : S.Ans c → Program S ε α) (s : σ) :
    (issue c k).run s = (k (Store.answer c s)).run (Store.effect c s) := rfl

@[simp] theorem trace_ret (a : α) (s : σ) : (ret a : Program S ε α).trace s = [] := rfl

@[simp] theorem trace_throw (e : ε) (s : σ) : (Program.throw e : Program S ε α).trace s = [] := rfl

@[simp] theorem trace_issue (c : S.Stmt) (k : S.Ans c → Program S ε α) (s : σ) :
    (issue c k).trace s = ⟨c, s⟩ :: (k (Store.answer c s)).trace (Store.effect c s) := rfl

variable (p : Program S ε α)

theorem run_bind (f : α → Program S ε β) (s : σ) :
    (p.bind f).run s = match p.run s with
      | (.ok a, t) => (f a).run t
      | (.error e, t) => (.error e, t) := by
  induction p generalizing s with
  | ret a => rfl
  | throw e => rfl
  | issue c k ih => exact ih _ _

theorem run_bind_ok {p : Program S ε α} (h : p.run s = (.ok a, t)) (f : α → Program S ε β) :
    (p.bind f).run s = (f a).run t := by
  rw [run_bind, h]

theorem run_bind_error {p : Program S ε α} (h : p.run s = (.error e, t))
    (f : α → Program S ε β) : (p.bind f).run s = (.error e, t) := by
  rw [run_bind, h]

theorem run_tryCatch (h : ε → Program S ε α) (s : σ) :
    (p.tryCatch h).run s = match p.run s with
      | (.ok a, t) => (.ok a, t)
      | (.error e, t) => (h e).run t := by
  induction p generalizing s with
  | ret a => rfl
  | throw e => rfl
  | issue c k ih => exact ih _ _

/-- Labels are nothing to the store. -/
theorem run_tag (t : τ) (s : σ) : (p.tag t).run s = p.run s := by
  induction p generalizing s with
  | ret a => rfl
  | throw e => rfl
  | issue c k ih => exact ih _ _

theorem trace_bind (f : α → Program S ε β) (s : σ) :
    (p.bind f).trace s = p.trace s ++ match p.run s with
      | (.ok a, t) => (f a).trace t
      | (.error _, _) => [] := by
  induction p generalizing s with
  | ret a => rfl
  | throw e => rfl
  | issue c k ih => simp only [issue_bind, trace_issue, run_issue, ih, List.cons_append]

theorem Meets.trace {p : Program S ε α} (h : p.Meets Q R) (s : σ) : ∀ e ∈ p.trace s, Q e.stmt := by
  induction p generalizing s with
  | ret a => simp
  | throw e => simp
  | issue c k ih =>
    simp only [trace_issue, List.mem_cons, forall_eq_or_imp]
    exact ⟨h.1, ih _ (h.2 _) _⟩

theorem Meets.run {p : Program S ε α} (h : p.Meets Q R) (hr : p.run s = (.ok a, t)) : R a := by
  induction p generalizing s with
  | ret b =>
    simp only [run_ret, Prod.mk.injEq, Except.ok.injEq] at hr
    exact hr.1 ▸ h
  | throw e => simp at hr
  | issue c k ih => exact ih _ (h.2 _) hr

end Program

/-- `Chain s es t`: executing the events `es` one after another leads from `s` to `t`. -/
def Chain : σ → List (Event S σ) → σ → Prop
  | s, [], t => s = t
  | s, e :: es, t => e.before = s ∧ Chain e.after es t

theorem Chain.append {es fs : List (Event S σ)} (h : Chain s es t) (g : Chain t fs u) :
    Chain s (es ++ fs) u := by
  induction es generalizing s with
  | nil => exact h ▸ g
  | cons e es ih => exact ⟨h.1, ih h.2⟩

theorem Program.run_chain (p : Program S ε α) (s : σ) : Chain s (p.trace s) (p.run s).2 := by
  induction p generalizing s with
  | ret a => rfl
  | throw e => rfl
  | issue c k ih => exact ⟨rfl, ih _ _⟩

/-- An invariant that every executed statement keeps holds before each of them and at the end. -/
theorem Chain.invariant {I : σ → Prop} {es : List (Event S σ)} (h : Chain s es t) (hs : I s)
    (hstep : ∀ e ∈ es, I e.before → I e.after) : I t ∧ ∀ e ∈ es, I e.before := by
  induction es generalizing s with
  | nil => exact ⟨h ▸ hs, by simp⟩
  | cons e es ih =>
    have he : I e.before := h.1 ▸ hs
    obtain ⟨ht, hes⟩ := ih h.2 (hstep e (by simp) he) fun f hf => hstep f (by simp [hf])
    exact ⟨ht, by simpa [he] using hes⟩

/-- A preorder that every executed statement respects relates the two ends of a chain. -/
theorem Chain.related {R : σ → σ → Prop} {es : List (Event S σ)} (hrefl : ∀ s, R s s)
    (htrans : ∀ s t u, R s t → R t u → R s u) (h : Chain s es t)
    (hstep : ∀ e ∈ es, R e.before e.after) : R s t := by
  induction es generalizing s with
  | nil => exact h ▸ hrefl s
  | cons e es ih =>
    have he := hstep e (by simp)
    exact htrans _ _ _ (h.1 ▸ he) (ih h.2 fun f hf => hstep f (by simp [hf]))

/-- A chain cut at one of its events is a chain up to it and a chain from it. -/
theorem Chain.split {es fs : List (Event S σ)} (h : Chain s (es ++ e :: fs) t) :
    Chain s es e.before ∧ Chain e.after fs t := by
  induction es generalizing s with
  | nil => exact ⟨h.1.symm, h.2⟩
  | cons f es ih => exact ⟨⟨h.1, (ih h.2).1⟩, (ih h.2).2⟩

/-- An invariant about a state and the events that led to it. -/
theorem Chain.invariant_along {I : List (Event S σ) → σ → Prop} {es : List (Event S σ)}
    (h : Chain s es t) (hs : I [] s)
    (hstep : ∀ fs e gs, es = fs ++ e :: gs → I fs e.before → I (fs ++ [e]) e.after) : I es t := by
  induction es generalizing s I with
  | nil => exact h ▸ hs
  | cons e es ih =>
    obtain ⟨rfl, hes⟩ := h
    apply ih (I := fun fs => I (e :: fs)) hes
    · exact hstep [] e es rfl hs
    · intro fs f gs hsplit
      exact hstep (e :: fs) f gs (by rw [hsplit, List.cons_append])

end Runs

end AtomicProgram
