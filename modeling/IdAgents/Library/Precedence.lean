import IdAgents.Library.Interleaving

namespace AtomicProgram
open List
variable {S : Signature} {σ ε α : Type} [Store S σ]

variable {ps : List (Program S ε α)} {is : List Nat} {s : σ}

/-- The events of the first steps are events of the whole run. -/
theorem mem_interleaveEvents_of_take (n : Nat) (h : x ∈ interleaveEvents (is.take n) ps s) :
    x ∈ interleaveEvents is ps s := by
  rw [← take_append_drop n is, interleaveEvents_append]
  exact mem_append_left _ h

/-- Of two events of a pool one comes first. -/
theorem interleave_precedes (hx : x ∈ interleaveEvents is ps s)
    (hy : y ∈ interleaveEvents is ps s) (hne : x ≠ y) :
    (∃ es : List (Event S σ), Chain x.2.after es y.2.before) ∨
      ∃ es : List (Event S σ), Chain y.2.after es x.2.before := by
  obtain ⟨xs, ys, hsplit⟩ := append_of_mem hx
  have hchain := interleave_chain is ps s
  rw [hsplit, mem_append, mem_cons] at hy
  rcases hy with hy | hy | hy
  · obtain ⟨zs, ws, rfl⟩ := append_of_mem hy
    right
    rw [hsplit, append_assoc, cons_append, map_append, map_cons,
      map_append, map_cons] at hchain
    exact ⟨_, hchain.split.2.split.1⟩
  · exact absurd hy.symm hne
  · obtain ⟨zs, ws, rfl⟩ := append_of_mem hy
    left
    rw [hsplit, map_append, map_cons, map_append, map_cons] at hchain
    exact ⟨_, hchain.split.2.split.1⟩

/-- A turn of a call that has ended changes nothing. -/
theorem interleave_skip (h : ∀ c k, ps[j]? ≠ some (.issue c k)) (is : List Nat) :
    interleave (j :: is) ps s = interleave is ps s ∧
      interleaveEvents (j :: is) ps s = interleaveEvents is ps s := by
  cases hj : ps[j]? with
  | none => simp only [interleave, interleaveEvents, hj, and_self]
  | some p =>
    cases p with
    | ret a => simp only [interleave, interleaveEvents, hj, and_self]
    | throw x => simp only [interleave, interleaveEvents, hj, and_self]
    | issue c k => exact absurd hj (h c k)

/-- A call that has ended makes no more events. -/
theorem interleave_ended (hp : ps[i]? = some p)
    (hended : p.ended) (is : List Nat) (s : σ) (e : Event S σ) :
    (i, e) ∉ interleaveEvents is ps s := by
  intro he
  obtain ⟨q, _, hleads⟩ := interleave_leads is s hp
  have hnone : (eventsOf i (interleaveEvents is ps s)).map Event.observed = [] := by
    cases p with
    | ret a => exact hleads.of_ret.1
    | throw e => exact hleads.of_throw.1
    | issue c k => cases hended
  rw [map_eq_nil_iff] at hnone
  exact absurd (mem_eventsOf.mpr he) (hnone ▸ not_mem_nil)

/-- An event leads from one moment of a pool to the next. -/
theorem interleave_moment (h : interleaveEvents is ps s = es ++ (i, e) :: fs) :
    ∃ n, interleaveEvents (is.take n) ps s = es ∧ (interleave (is.take n) ps s).2 = e.before ∧
      interleaveEvents (is.take (n + 1)) ps s = es ++ [(i, e)] ∧
      (interleave (is.take (n + 1)) ps s).2 = e.after := by
  induction is generalizing ps s es with
  | nil => cases es <;> cases h
  | cons j is ih =>
    by_cases hissues : ∃ c k, ps[j]? = some (.issue c k)
    · obtain ⟨c, k, hj⟩ := hissues
      simp only [interleaveEvents, hj] at h
      cases es with
      | nil =>
        obtain ⟨hhead, _⟩ := List.cons.inj h
        obtain ⟨rfl, rfl⟩ := Prod.mk.inj hhead
        refine ⟨0, rfl, rfl, ?_⟩
        simp only [take_succ_cons, take_zero, interleave, interleaveEvents, hj,
          nil_append, Event.after_mk, and_self]
      | cons f es =>
        obtain ⟨rfl, htail⟩ := List.cons.inj h
        obtain ⟨n, hevents, hbefore, hnext, hafter⟩ := ih htail
        refine ⟨n + 1, ?_⟩
        simp only [take_succ_cons, interleave, interleaveEvents, hj, hevents, hbefore, hnext,
          hafter, cons_append, and_self]
    · have hskip := interleave_skip (s := s) fun c k hj => hissues ⟨c, k, hj⟩
      rw [(hskip is).2] at h
      obtain ⟨n, hn⟩ := ih h
      refine ⟨n + 1, ?_⟩
      simpa only [take_succ_cons, (hskip _).1, (hskip _).2] using hn

end AtomicProgram
