import IdAgents.Library.Interleaving

namespace AtomicProgram
open List

/-- What a thread may do by what it has seen itself: a ghost value that follows its statements and
their answers, and what is due at each of them. -/
structure Script (S : Signature) (γ : Type) where
  see : γ → (c : S.Stmt) → S.Ans c → γ
  due : γ → S.Stmt → Prop

namespace Program
variable {S : Signature} {γ ε α β : Type} {m : Script S γ}

/-- The program keeps to the script, whatever the answers are, and ends in `R`. -/
def keeps (m : Script S γ) : Program S ε α → (Except ε α → γ → Prop) → γ → Prop
  | .ret a, R => R (.ok a)
  | .throw e, R => R (.error e)
  | .issue c k, R => fun g => m.due g c ∧ ∀ a, (k a).keeps m R (m.see g c a)

@[simp] theorem keeps_ret (a : α) (R : Except ε α → γ → Prop) :
    (ret a : Program S ε α).keeps m R = R (.ok a) := rfl

@[simp] theorem keeps_throw (e : ε) (R : Except ε α → γ → Prop) :
    (Program.throw e : Program S ε α).keeps m R = R (.error e) := rfl

variable {p : Program S ε α} {R : Except ε α → γ → Prop}

theorem keeps_mono {R' : Except ε α → γ → Prop} (h : p.keeps m R g)
    (hR : ∀ r g, R r g → R' r g) : p.keeps m R' g := by
  induction p generalizing g with
  | ret a => exact hR _ _ h
  | throw e => exact hR _ _ h
  | issue c k ih =>
    obtain ⟨hd, hk⟩ := h
    exact ⟨hd, fun a => ih a (hk a)⟩

/-- The rule of sequence. -/
theorem keeps_seq {f : α → Program S ε β} {R : Except ε β → γ → Prop}
    {T : Except ε α → γ → Prop} (h : p.keeps m T g) (hok : ∀ a g, T (.ok a) g → (f a).keeps m R g)
    (herror : ∀ e g, T (.error e) g → R (.error e) g) : (p.bind f).keeps m R g := by
  induction p generalizing g with
  | ret a => exact hok a g h
  | throw e => exact herror e g h
  | issue c k ih =>
    obtain ⟨hd, hk⟩ := h
    exact ⟨hd, fun a => ih a (hk a)⟩

/-- A sequence keeps to a script that both of its parts keep to from anywhere. -/
theorem keeps_then {f : α → Program S ε β}
    (h : p.keeps m (fun _ _ => True) g) (hf : ∀ a g, (f a).keeps m (fun _ _ => True) g) :
    (p.bind f).keeps m (fun _ _ => True) g :=
  keeps_seq h (fun a g _ => hf a g) fun _ _ _ => trivial

theorem keeps_tryCatch {h : ε → Program S ε α}
    {T : Except ε α → γ → Prop} (hp : p.keeps m T g) (hok : ∀ a g, T (.ok a) g → R (.ok a) g)
    (herror : ∀ e g, T (.error e) g → (h e).keeps m R g) : (p.tryCatch h).keeps m R g := by
  induction p generalizing g with
  | ret a => exact hok a g hp
  | throw e => exact herror e g hp
  | issue c k ih =>
    obtain ⟨hd, hk⟩ := hp
    exact ⟨hd, fun a => ih a (hk a)⟩

/-- The rule of loops: `J` is about the elements still to come. -/
theorem keeps_fold {body : α → β → Program S ε α}
    {J : List β → γ → Prop} {xs : List β} (acc : α) (h : J xs g)
    (hbody : ∀ acc x xs g, J (x :: xs) g →
      (body acc x).keeps m (fun r g => match r with
        | .ok _ => J xs g
        | .error e => R (.error e) g) g)
    (hdone : ∀ acc g, J [] g → R (.ok acc) g) : (fold xs acc body).keeps m R g := by
  induction xs generalizing acc g with
  | nil => exact hdone acc g h
  | cons x xs ih =>
    apply keeps_seq (hbody acc x xs g h)
    · intro acc g hJ
      exact ih acc hJ
    · intro e g hR
      exact hR

/-- What the statements of a program keep of the ghost value is kept by the program. -/
theorem Meets.keeps {Q : S.Stmt → Prop} {R : α → Prop} {J : γ → Prop} (h : p.Meets Q R) (hg : J g)
    (hstep : ∀ g c, J g → Q c → m.due g c ∧ ∀ a, J (m.see g c a)) :
    p.keeps m (fun r g => J g ∧ ∀ a, r = .ok a → R a) g := by
  induction p generalizing g with
  | ret a =>
    refine ⟨hg, ?_⟩
    rintro _ ⟨⟩
    exact h
  | throw e => exact ⟨hg, nofun⟩
  | issue c k ih =>
    obtain ⟨hd, hk⟩ := hstep g c hg h.1
    exact ⟨hd, fun a => ih a (h.2 a) (hk a)⟩

end Program

section Pools
variable {S : Signature} {σ γ : Type} [Store S σ] {ε α : Type} {m : Script S γ}

/-- The ghost value of a thread after its events. -/
def Script.over (m : Script S γ) (g : γ) (es : List (Event S σ)) : γ :=
  es.foldl (fun g e => m.see g e.stmt (Store.answer e.stmt e.before)) g

@[simp] theorem Script.over_nil (g : γ) : m.over g ([] : List (Event S σ)) = g := rfl

theorem Script.over_cons (g : γ) (e : Event S σ) (es : List (Event S σ)) :
    m.over g (e :: es) = m.over (m.see g e.stmt (Store.answer e.stmt e.before)) es := rfl

theorem Script.over_concat (g : γ) (e : Event S σ) (es : List (Event S σ)) :
    m.over g (es ++ [e]) = m.see (m.over g es) e.stmt (Store.answer e.stmt e.before) := by
  simp [Script.over]

/-- The ghost value of thread `i` after the events of a pool. -/
def Script.ghost (m : Script S γ) (g : Nat → γ) (es : List (Nat × Event S σ)) (i : Nat) : γ :=
  m.over (g i) (eventsOf i es)

@[simp] theorem Script.ghost_nil (g : Nat → γ) (i : Nat) :
    m.ghost g ([] : List (Nat × Event S σ)) i = g i := rfl

/-- A step of a pool moves the ghost value of the thread that makes it, and no other. -/
theorem Script.ghost_concat (g : Nat → γ) (es : List (Nat × Event S σ)) (i j : Nat)
    (e : Event S σ) : m.ghost g (es ++ [(i, e)]) j =
      if i = j then m.see (m.ghost g es i) e.stmt (Store.answer e.stmt e.before)
      else m.ghost g es j := by
  have hsplit : eventsOf j (es ++ [(i, e)]) = eventsOf j es ++ eventsOf j [(i, e)] := by
    simp [eventsOf]
  unfold ghost
  rw [hsplit]
  by_cases hij : i = j
  · subst hij
    rw [if_pos rfl, eventsOf_cons_self, eventsOf_nil, over_concat]
  · rw [if_neg hij, eventsOf_cons_ne hij, eventsOf_nil, append_nil]

variable {ps : List (Program S ε α)} {R : Nat → Except ε α → γ → Prop} {g : Nat → γ}

/-- After a step of one thread each thread still keeps to the script. -/
theorem keeps_after {c : S.Stmt} {k : S.Ans c → Program S ε α}
    (hp : ∀ i (p : Program S ε α), ps[i]? = some p → p.keeps m (R i) (g i))
    (hj : ps[j]? = some (.issue c k)) (a : S.Ans c) :
    ∀ i (p : Program S ε α), (ps.set j (k a))[i]? = some p →
      p.keeps m (R i) (Function.update g j (m.see (g j) c a) i) := by
  intro i p hi
  by_cases hij : j = i
  · subst hij
    rw [List.getElem?_set_self (List.getElem?_eq_some_iff.mp hj).1] at hi
    rw [← Option.some.inj hi, Function.update_self]
    exact (hp j _ hj).2 a
  · rw [getElem?_set_ne hij] at hi
    rw [Function.update_of_ne (Ne.symm hij)]
    exact hp i p hi

/-- In company every thread keeps to the script its program keeps to. -/
theorem interleave_keeps (is : List Nat) (s : σ)
    (hp : ∀ i (p : Program S ε α), ps[i]? = some p → p.keeps m (R i) (g i)) :
    ∀ es i e fs, interleaveEvents is ps s = es ++ (i, e) :: fs → m.due (m.ghost g es i) e.stmt := by
  induction is generalizing ps s g with
  | nil =>
    intro es i e fs hsplit
    cases es <;> cases hsplit
  | cons j is ih =>
    simp only [interleaveEvents]
    split
    · next c k hj =>
      have hd := (hp j _ hj).1
      have hrest := ih (Store.effect c s) (keeps_after hp hj (Store.answer c s))
      intro es i e fs hsplit
      cases es with
      | nil =>
        obtain ⟨hhead, _⟩ := List.cons.inj hsplit
        obtain ⟨rfl, rfl⟩ := Prod.mk.inj hhead
        exact hd
      | cons f es =>
        obtain ⟨rfl, htail⟩ := List.cons.inj hsplit
        have hdue := hrest es i e fs htail
        by_cases hij : j = i
        · subst hij
          rw [Script.ghost, Function.update_self] at hdue
          rw [Script.ghost, eventsOf_cons_self, Script.over_cons]
          exact hdue
        · rw [Script.ghost, Function.update_of_ne (Ne.symm hij)] at hdue
          rw [Script.ghost, eventsOf_cons_ne hij]
          exact hdue
    · exact ih s hp

/-- What a thread has become in company keeps to its script from where its own events led it; so a
thread that has ended has reached its postcondition. -/
theorem interleave_ends (is : List Nat) (s : σ)
    (hp : ∀ i (p : Program S ε α), ps[i]? = some p → p.keeps m (R i) (g i)) :
    ∀ (i : Nat) (q : Program S ε α), (interleave is ps s).1[i]? = some q →
      q.keeps m (R i) (m.ghost g (interleaveEvents is ps s) i) := by
  induction is generalizing ps s g with
  | nil => exact hp
  | cons j is ih =>
    simp only [interleaveEvents, interleave]
    split
    · next c k hj =>
      intro i q hq
      have hends := ih (Store.effect c s) (keeps_after hp hj (Store.answer c s)) i q hq
      by_cases hij : j = i
      · subst hij
        rw [Script.ghost, Function.update_self] at hends
        rw [Script.ghost, eventsOf_cons_self, Script.over_cons]
        exact hends
      · rw [Script.ghost, Function.update_of_ne (Ne.symm hij)] at hends
        rw [Script.ghost, eventsOf_cons_ne hij]
        exact hends
    · exact ih s hp

/-- An invariant about a shared state and the steps of the pool that led to it. -/
theorem interleave_invariant {I : List (Nat × Event S σ) → σ → Prop}
    (is : List Nat) (s : σ) (hs : I [] s)
    (hstep : ∀ es i e fs, interleaveEvents is ps s = es ++ (i, e) :: fs → I es e.before →
      I (es ++ [(i, e)]) e.after) : I (interleaveEvents is ps s) (interleave is ps s).2 ∧
      ∀ es i e fs, interleaveEvents is ps s = es ++ (i, e) :: fs → I es e.before := by
  induction is generalizing ps s I with
  | nil =>
    refine ⟨hs, fun es i e fs hsplit => ?_⟩
    cases es <;> cases hsplit
  | cons j is ih =>
    simp only [interleaveEvents, interleave] at hstep ⊢
    split
    · next c k hj =>
      rw [hj] at hstep
      have hfirst : I [(j, ⟨c, s⟩)] (Store.effect c s) := hstep [] j ⟨c, s⟩ _ rfl hs
      obtain ⟨hend, hall⟩ := ih (I := fun es => I ((j, ⟨c, s⟩) :: es)) (Store.effect c s) hfirst
        fun es i e fs hsplit hI => by
          have hsplit' : (j, (⟨c, s⟩ : Event S σ)) :: interleaveEvents is
              (ps.set j (k (Store.answer c s))) (Store.effect c s) =
              ((j, ⟨c, s⟩) :: es) ++ (i, e) :: fs := by
            rw [hsplit, cons_append]
          exact hstep _ i e fs hsplit' hI
      refine ⟨hend, fun es i e fs hsplit => ?_⟩
      cases es with
      | nil =>
        obtain ⟨hhead, _⟩ := List.cons.inj hsplit
        obtain ⟨rfl, rfl⟩ := Prod.mk.inj hhead
        exact hs
      | cons f es =>
        obtain ⟨rfl, htail⟩ := List.cons.inj hsplit
        exact hall es i e fs htail
    · next hj =>
      apply ih s hs
      intro es i e fs hsplit hI
      apply hstep es i e fs _ hI
      rw [← hsplit]
      split
      · next c k hk => exact absurd hk (hj c k)
      · rfl

/-- Such an invariant holds at every moment of the pool. -/
theorem interleave_invariant_take
    {I : List (Nat × Event S σ) → σ → Prop} (is : List Nat) (s : σ) (hs : I [] s)
    (hstep : ∀ es i e fs, interleaveEvents is ps s = es ++ (i, e) :: fs → I es e.before →
      I (es ++ [(i, e)]) e.after) (n : Nat) :
    I (interleaveEvents (is.take n) ps s) (interleave (is.take n) ps s).2 := by
  apply (interleave_invariant (is.take n) s hs _).1
  intro es i e fs hsplit hI
  have hall := interleaveEvents_append (is.take n) (is.drop n) ps s
  rw [take_append_drop, hsplit, append_assoc, cons_append] at hall
  exact hstep es i e _ hall hI

end Pools

end AtomicProgram
