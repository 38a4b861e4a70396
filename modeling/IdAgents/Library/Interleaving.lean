import IdAgents.Library.Program

namespace AtomicProgram
open List

/-- What a thread saw of one of its statements: the statement and the answer it got. -/
abbrev Observation (S : Signature) := Σ c : S.Stmt, S.Ans c

/-- `Leads p os q`: on the answers recorded in `os` the program `p` has become `q`. -/
inductive Leads : Program S ε α → List (Observation S) → Program S ε α → Prop
  | refl : Leads p [] p
  | issue {c : S.Stmt} {k : S.Ans c → Program S ε α} {a : S.Ans c} :
      Leads (k a) os q → Leads (.issue c k) (⟨c, a⟩ :: os) q

theorem Leads.of_ret (h : Leads (.ret a : Program S ε α) os q) : os = [] ∧ q = .ret a := by
  cases h
  exact ⟨rfl, rfl⟩

theorem Leads.of_throw (h : Leads (.throw e : Program S ε α) os q) : os = [] ∧ q = .throw e := by
  cases h
  exact ⟨rfl, rfl⟩

/-- A program that starts with a statement and has returned went through that statement. -/
theorem Leads.of_issue {k : S.Ans c → Program S ε α} (h : Leads (.issue c k) os (.ret b)) :
    ∃ a os', os = ⟨c, a⟩ :: os' ∧ Leads (k a) os' (.ret b) := by
  cases h with
  | issue h => exact ⟨_, _, rfl, h⟩

/-- A sequence that has returned ran its first part to a value and then its second part. -/
theorem Leads.of_bind {p : Program S ε α} {f : α → Program S ε β}
    (h : Leads (p.bind f) os (.ret b)) :
    ∃ a os₁ os₂, os = os₁ ++ os₂ ∧ Leads p os₁ (.ret a) ∧ Leads (f a) os₂ (.ret b) := by
  induction p generalizing os with
  | ret a => exact ⟨a, [], os, rfl, .refl, h⟩
  | throw e => nomatch h.of_throw.2
  | issue c k ih =>
    obtain ⟨a, os', rfl, h'⟩ := h.of_issue
    obtain ⟨b', os₁, os₂, rfl, h₁, h₂⟩ := ih a h'
    exact ⟨b', ⟨c, a⟩ :: os₁, os₂, rfl, .issue h₁, h₂⟩

theorem Leads.meets {Q : S.Stmt → Prop} {R : α → Prop} {p : Program S ε α} (h : Leads p os q)
    (hp : p.Meets Q R) : q.Meets Q R ∧ ∀ o ∈ os, Q o.1 := by
  induction h with
  | refl => exact ⟨hp, by simp⟩
  | issue _ ih =>
    obtain ⟨hq, hos⟩ := ih (hp.2 _)
    exact ⟨hq, by simpa using ⟨hp.1, hos⟩⟩

theorem Leads.not_fails {p : Program S ε α} (h : Leads p os q) (hq : q = .ret b) : ¬ p.Fails := by
  induction h with
  | refl => exact hq ▸ id
  | issue _ ih => exact fun hf => ih hq (hf _)

/-- What a program guarantees of its statements on return holds of what it has seen. -/
theorem Leads.onReturn {P : (c : S.Stmt) → S.Ans c → Prop} {p : Program S ε α}
    (h : Leads p os q) (hq : q = .ret b) (hp : p.OnReturn P) : ∀ o ∈ os, P o.1 o.2 := by
  induction h with
  | refl => simp
  | issue h ih =>
    obtain hfail | ⟨hP, hk⟩ := hp _
    · exact absurd hfail (h.not_fails hq)
    · simpa using ⟨hP, ih hq hk⟩

/-- The program has returned or thrown. -/
def Program.ended : Program S ε α → Bool
  | .issue _ _ => false
  | _ => true

/-- A sequence that has ended ran its first part to a value and then its second part, or ended with
the exception of its first part. -/
theorem Leads.bind_cases {p : Program S ε α} {f : α → Program S ε β} (h : Leads (p.bind f) os q)
    (hq : q.ended) : (∃ a os₁ os₂, os = os₁ ++ os₂ ∧ Leads p os₁ (.ret a) ∧ Leads (f a) os₂ q) ∨
      ∃ e, q = .throw e ∧ Leads p os (.throw e) := by
  induction p generalizing os with
  | ret a => exact .inl ⟨a, [], os, rfl, .refl, h⟩
  | throw e =>
    obtain ⟨rfl, rfl⟩ := h.of_throw
    exact .inr ⟨e, rfl, .refl⟩
  | issue c k ih =>
    cases h with
    | refl => cases hq
    | issue h =>
      rcases ih _ h with ⟨a, os₁, os₂, rfl, h₁, h₂⟩ | ⟨e, hthrow, h₁⟩
      · exact .inl ⟨a, _ :: os₁, os₂, rfl, .issue h₁, h₂⟩
      · exact .inr ⟨e, hthrow, .issue h₁⟩

/-- The events of one thread, in order. -/
def eventsOf (i : Nat) (es : List (Nat × Event S σ)) : List (Event S σ) :=
  (es.filter (·.1 = i)).map Prod.snd

@[simp] theorem eventsOf_nil (i : Nat) : eventsOf i ([] : List (Nat × Event S σ)) = [] := rfl

@[simp] theorem eventsOf_cons_self (i : Nat) (e : Event S σ) (es : List (Nat × Event S σ)) :
    eventsOf i ((i, e) :: es) = e :: eventsOf i es := by
  simp [eventsOf]

theorem eventsOf_cons_ne (h : j ≠ i) (e : Event S σ) (es : List (Nat × Event S σ)) :
    eventsOf i ((j, e) :: es) = eventsOf i es := by
  simp [eventsOf, h]

theorem mem_eventsOf {es : List (Nat × Event S σ)} : e ∈ eventsOf i es ↔ (i, e) ∈ es := by
  simp [eventsOf]

/-- An event of a thread splits the events of the pool as it splits those of the thread. -/
theorem eventsOf_split {es : List (Nat × Event S σ)} (h : eventsOf i es = as ++ e :: bs) :
    ∃ xs ys, es = xs ++ (i, e) :: ys ∧ eventsOf i xs = as ∧ eventsOf i ys = bs := by
  induction es generalizing as with
  | nil => cases as <;> cases h
  | cons f es ih =>
    obtain ⟨j, f⟩ := f
    by_cases hij : j = i
    · subst hij
      rw [eventsOf_cons_self] at h
      cases as with
      | nil =>
        obtain ⟨rfl, hbs⟩ := List.cons.inj h
        exact ⟨[], es, rfl, rfl, hbs⟩
      | cons a as =>
        obtain ⟨rfl, htail⟩ := List.cons.inj h
        obtain ⟨xs, ys, rfl, hxs, hys⟩ := ih htail
        exact ⟨(j, f) :: xs, ys, rfl, by rw [eventsOf_cons_self, hxs], hys⟩
    · rw [eventsOf_cons_ne hij] at h
      obtain ⟨xs, ys, rfl, hxs, hys⟩ := ih h
      exact ⟨(j, f) :: xs, ys, rfl, by rw [eventsOf_cons_ne hij, hxs], hys⟩

section Pools
variable {S : Signature} {σ : Type} [Store S σ] {ε α : Type}

/-- The observation a thread makes of an event. -/
def Event.observed (e : Event S σ) : Observation S := ⟨e.stmt, Store.answer e.stmt e.before⟩

/-- The first event of a program that starts with a statement is that statement. -/
theorem Leads.issue_head {e : Event S σ} {es : List (Event S σ)} {k : S.Ans c → Program S ε α}
    (h : Leads (.issue c k) ((e :: es).map Event.observed) q) :
    ∃ s, e = ⟨c, s⟩ ∧ Leads (k (Store.answer c s)) (es.map Event.observed) q := by
  obtain ⟨d, s⟩ := e
  cases h with
  | issue h => exact ⟨s, rfl, h⟩

/-- A program that starts with a statement and has ended executed that statement first. -/
theorem Leads.issue_events {es : List (Event S σ)} {k : S.Ans c → Program S ε α}
    (h : Leads (.issue c k) (es.map Event.observed) q) (hq : q.ended) :
    ∃ s fs, es = ⟨c, s⟩ :: fs ∧ Leads (k (Store.answer c s)) (fs.map Event.observed) q := by
  cases es with
  | nil =>
    cases h with
    | refl => cases hq
  | cons e fs =>
    obtain ⟨s, rfl, hrest⟩ := h.issue_head
    exact ⟨s, fs, rfl, hrest⟩

/-- The threads `ps` share a store; the schedule names, step by step, the thread whose next
statement is executed. A thread that has ended makes no step. -/
def interleave : List Nat → List (Program S ε α) → σ → List (Program S ε α) × σ
  | [], ps, s => (ps, s)
  | i :: is, ps, s =>
    match ps[i]? with
    | some (.issue c k) => interleave is (ps.set i (k (Store.answer c s))) (Store.effect c s)
    | _ => interleave is ps s

/-- The statements an interleaved run executes, each with its thread. -/
def interleaveEvents : List Nat → List (Program S ε α) → σ → List (Nat × Event S σ)
  | [], _, _ => []
  | i :: is, ps, s =>
    match ps[i]? with
    | some (.issue c k) =>
      (i, ⟨c, s⟩) :: interleaveEvents is (ps.set i (k (Store.answer c s))) (Store.effect c s)
    | _ => interleaveEvents is ps s

theorem interleave_append (is js : List Nat) (ps : List (Program S ε α)) (s : σ) :
    interleave (is ++ js) ps s = interleave js (interleave is ps s).1 (interleave is ps s).2 := by
  induction is generalizing ps s with
  | nil => rfl
  | cons i is ih =>
    simp only [cons_append, interleave]
    split <;> exact ih _ _

theorem interleaveEvents_append (is js : List Nat) (ps : List (Program S ε α)) (s : σ) :
    interleaveEvents (is ++ js) ps s = interleaveEvents is ps s ++
      interleaveEvents js (interleave is ps s).1 (interleave is ps s).2 := by
  induction is generalizing ps s with
  | nil => rfl
  | cons i is ih =>
    simp only [cons_append, interleaveEvents, interleave]
    split
    · simp only [ih, cons_append]
    · exact ih _ _

variable (is : List Nat)
section
variable (ps : List (Program S ε α))

theorem interleave_chain (s : σ) :
    Chain s ((interleaveEvents is ps s).map Prod.snd) (interleave is ps s).2 := by
  induction is generalizing ps s with
  | nil => rfl
  | cons i is ih =>
    simp only [interleaveEvents, interleave]
    split
    · exact ⟨rfl, ih _ _⟩
    · exact ih _ _

/-- Between two moments of an interleaved run lies a chain of its own events. -/
theorem interleave_between (s : σ) (h : m ≤ n) :
    ∃ es, Chain (interleave (is.take m) ps s).2 es (interleave (is.take n) ps s).2 ∧
      ∀ e ∈ es, ∃ i, (i, e) ∈ interleaveEvents is ps s := by
  obtain ⟨js, hjs⟩ : ∃ js, is.take n = is.take m ++ js := by
    obtain ⟨js, hjs⟩ := take_prefix_take_left (l := is) h
    exact ⟨js, hjs.symm⟩
  have hevents : interleaveEvents is ps s = interleaveEvents (is.take n ++ is.drop n) ps s := by
    rw [take_append_drop]
  refine ⟨(interleaveEvents js (interleave (is.take m) ps s).1
    (interleave (is.take m) ps s).2).map Prod.snd, ?_, ?_⟩
  · rw [hjs, interleave_append]
    exact interleave_chain _ _ _
  · intro e he
    obtain ⟨⟨i, f⟩, hf, rfl⟩ := mem_map.mp he
    refine ⟨i, ?_⟩
    rw [hevents, interleaveEvents_append, hjs, interleaveEvents_append]
    exact mem_append_left _ (mem_append_right _ hf)

/-- From an event of an interleaved run a chain of its events leads to every later moment. -/
theorem interleave_from (s : σ) (h : m ≤ n) (he : (i, e) ∈ interleaveEvents (is.take m) ps s) :
    ∃ es, Chain e.after es (interleave (is.take n) ps s).2 ∧
      ∀ f ∈ es, ∃ j, (j, f) ∈ interleaveEvents is ps s := by
  obtain ⟨es, fs, hsplit⟩ := append_of_mem he
  obtain ⟨gs, hgs, hmem⟩ := interleave_between is ps s h
  have hchain := interleave_chain (is.take m) ps s
  rw [hsplit, map_append, map_cons] at hchain
  refine ⟨fs.map Prod.snd ++ gs, hchain.split.2.append hgs, fun f hf => ?_⟩
  obtain hf | hf := mem_append.mp hf
  · obtain ⟨⟨j, f⟩, hjf, rfl⟩ := mem_map.mp hf
    refine ⟨j, ?_⟩
    rw [← take_append_drop m is, interleaveEvents_append, hsplit]
    simp [hjf]
  · exact hmem f hf

end

variable {ps : List (Program S ε α)}

/-- Between two events of one thread lies a chain of events of the pool. -/
theorem interleave_order {is : List Nat} {s : σ}
    (h : eventsOf i (interleaveEvents is ps s) = as ++ e :: (bs ++ f :: cs)) :
    ∃ es, Chain e.after es f.before ∧ ∀ g ∈ es, ∃ j, (j, g) ∈ interleaveEvents is ps s := by
  obtain ⟨xs, ys, hxs, _, hys⟩ := eventsOf_split h
  obtain ⟨zs, ws, rfl, _, _⟩ := eventsOf_split hys
  have hchain := interleave_chain is ps s
  rw [hxs, map_append, map_cons, map_append, map_cons] at hchain
  refine ⟨zs.map Prod.snd, hchain.split.2.split.1, fun g hg => ?_⟩
  obtain ⟨⟨j, g⟩, hmem, rfl⟩ := mem_map.mp hg
  exact ⟨j, by rw [hxs]; simp [hmem]⟩

theorem interleave_length (ps : List (Program S ε α)) (s : σ) :
    (interleave is ps s).1.length = ps.length := by
  induction is generalizing ps s with
  | nil => rfl
  | cons i is ih =>
    simp only [interleave]
    split <;> simp only [ih, length_set]

/-- What a thread has become is what its own observations lead it to. -/
theorem interleave_leads (s : σ) (hp : ps[i]? = some p) : ∃ q, (interleave is ps s).1[i]? = some q ∧
      Leads p ((eventsOf i (interleaveEvents is ps s)).map Event.observed) q := by
  induction is generalizing ps s p with
  | nil => exact ⟨p, hp, .refl⟩
  | cons j is ih =>
    simp only [interleaveEvents, interleave]
    split
    · next c k hj =>
      by_cases hij : j = i
      · subst hij
        obtain rfl : p = .issue c k := Option.some.inj (hp.symm.trans hj)
        have hset : (ps.set j (k (Store.answer c s)))[j]? = some (k (Store.answer c s)) :=
          List.getElem?_set_self (List.getElem?_eq_some_iff.mp hj).1
        obtain ⟨q, hq, hl⟩ := ih (Store.effect c s) hset
        refine ⟨q, hq, ?_⟩
        rw [eventsOf_cons_self, map_cons]
        exact .issue hl
      · rw [eventsOf_cons_ne hij]
        exact ih _ (by rw [getElem?_set_ne hij, hp])
    · exact ih _ hp

/-- Every statement executed in the pool meets what its thread's program is known to issue. -/
theorem interleaveEvents_meet {Q : Nat → S.Stmt → Prop} {R : α → Prop} (is : List Nat) (s : σ)
    (hp : ∀ i (p : Program S ε α), ps[i]? = some p → p.Meets (Q i) R) :
    ∀ e ∈ interleaveEvents is ps s, Q e.1 e.2.stmt := by
  induction is generalizing ps s with
  | nil => simp [interleaveEvents]
  | cons j is ih =>
    simp only [interleaveEvents]
    split
    · next c k hj =>
      have hissue := hp j _ hj
      simp only [mem_cons, forall_eq_or_imp]
      refine ⟨hissue.1, ih _ fun i p hi => ?_⟩
      by_cases hij : j = i
      · subst hij
        rw [List.getElem?_set_self (List.getElem?_eq_some_iff.mp hj).1] at hi
        exact Option.some.inj hi ▸ hissue.2 _
      · rw [getElem?_set_ne hij] at hi
        exact hp i p hi
    · exact ih _ hp

end Pools

end AtomicProgram
