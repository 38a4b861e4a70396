import IdAgents.Decisions.Runs

namespace IdAgents.Decisions
open KeyedTable AtomicProgram List Query Bool Except Stmt

inductive ConnectionCall where
  | decide (input : RecordDecideInput)
  | upsertMany (rows : List DispatchVerification)
  | other (w : OtherWrite)

def ConnectionCall.prog : ConnectionCall → Prog Unit
  | decide input => (recordDecideTransaction input).bind fun _ => .ret ()
  | upsertMany rows => Decisions.upsertMany rows
  | other w => query (.other w)

/-- Calls on one connection; the schedule names, query by query, the call that goes on. The BEGIN of
`upsertMany` runs together with its first INSERT in the code, here also apart from it. -/
structure ConnectionRun where
  calls : List ConnectionCall
  schedule : List Nat
  start : World
  closed : start.conn.saved = none
  numbered : (start.conn.data.others.map Prod.fst).Nodup ∧
    ∀ x ∈ start.conn.data.others, x.1 < start.step

namespace ConnectionRun
section
variable (run : ConnectionRun)

def programs : List (Prog Unit) := run.calls.map ConnectionCall.prog

def pool (n : Nat) : List (Prog Unit) × World :=
  interleave (run.schedule.take n) run.programs run.start

def conn (n : Nat) : Connection Database := (run.pool n).2.conn

def events (n : Nat) : List (Nat × Event sql World) :=
  interleaveEvents (run.schedule.take n) run.programs run.start

end

end ConnectionRun

def isPerformed (e : Event sql World) : Bool :=
  match e.stmt with
  | .begin_ => false
  | .query q => (q.outcome e.before).isOk

def Stmt.isEnd : Stmt → Bool
  | .begin_ => false
  | .query q => q.isEnd

def Stmt.isBody : Stmt → Bool
  | .begin_ => false
  | .query q => q.isBody

def isMidway (es : List (Event sql World)) : Bool :=
  es.any (fun e => e.stmt.isBody && isPerformed e) && !es.any fun e => e.stmt.isEnd && isPerformed e

structure ConnectionRun.LeavesStrangers (run : ConnectionRun) : Prop where
  kept : ∀ n i w v, (i, ⟨.query (.other w), v⟩) ∈ run.events n → ((Query.other w).outcome v).isOk →
    (v.step, w.sql) ∈ (run.conn n).data.others
  unrefused : ∀ n i : Nat, (run.pool n).1[i]? ≠ some (.throw .nestedTransaction)
  whole : ∀ n i : Nat, (run.conn n).saved = none → isMidway (eventsOf i (run.events n)) = false

def isAlone (e : Event sql World) : Bool :=
  match e.stmt with
  | .begin_ => !e.before.conn.isOpen
  | .query .rollback => !(Query.rollback.outcome e.before).isOk ||
      e.before.conn.rollback.data.others = e.before.conn.data.others
  | _ => true

def ConnectionRun.Alone (run : ConnectionRun) : Prop :=
  ∀ x ∈ interleaveEvents run.schedule run.programs run.start, isAlone x.2

instance (run : ConnectionRun) : Decidable run.Alone :=
  inferInstanceAs (Decidable (∀ x ∈ interleaveEvents run.schedule run.programs run.start,
    isAlone x.2 = true))

variable {e : Event sql World}

theorem isMidway_concat (h : isMidway (es ++ [e])) :
    (e.stmt.isEnd && isPerformed e) = false ∧ (isMidway es ∨ e.stmt.isBody) := by
  simp only [isMidway, List.any_append, List.any_cons, List.any_nil, Bool.or_false,
    Bool.and_eq_true, Bool.or_eq_true, Bool.not_eq_true', Bool.or_eq_false_iff] at h
  obtain ⟨hwrote, hended, hend⟩ := h
  refine ⟨hend, ?_⟩
  rcases hwrote with hbefore | ⟨hbody, _⟩
  · left
    simp only [isMidway, hbefore, hended, Bool.not_false, Bool.and_self]
  · exact .inr hbody

def Covers (es : List (Nat × Event sql World)) : Prop :=
  ∀ i, isMidway (eventsOf i es) → (phases es i).isInside

theorem eventsOf_concat (es : List (Nat × Event sql World)) (i j : Nat) (e : Event sql World) :
    eventsOf j (es ++ [(i, e)]) = if i = j then eventsOf j es ++ [e] else eventsOf j es := by
  by_cases hij : i = j
  · subst hij
    simp [eventsOf]
  · simp [eventsOf, hij]

variable {q : Query} {g : Phase}

theorem see_inside (h : g.isInside) (hend : (q.isEnd && isPerformed ⟨.query q, w⟩) = false) :
    (transactionScript.see g (.query q) ((q.outcome w).map Prod.fst)).isInside := by
  rcases q.outcome_cases w with ⟨why, houtcome, _⟩ | ⟨rows, conn, _, _, houtcome, _⟩
  · rw [houtcome]
    exact (see_refused g q why).symm ▸ h
  · have hperformed : isPerformed ⟨.query q, w⟩ := by
      rw [isPerformed]
      dsimp only
      rw [houtcome]
      rfl
    rw [hperformed, Bool.and_true] at hend
    have hcommit : q ≠ .commit := by
      rintro rfl
      cases hend
    have hrollback : q ≠ .rollback := by
      rintro rfl
      cases hend
    rw [see_isInside hcommit hrollback]
    exact h

variable {es : List (Nat × Event sql World)}

theorem Covers.step (h : Covers es)
    (hdue : transactionScript.due (phases es i) e.stmt) : Covers (es ++ [(i, e)]) := by
  intro j hj
  rw [phases_concat]
  rw [eventsOf_concat] at hj
  by_cases hij : i = j
  · subst hij
    rw [if_pos rfl] at hj
    rw [stepped_self]
    obtain ⟨hend, hprev⟩ := isMidway_concat hj
    obtain ⟨c, w⟩ := e
    cases c with
    | begin_ =>
      have houtside : phases es i = .outside := hdue
      rcases hprev with hbefore | hbody
      · have hinside := h i hbefore
        rw [houtside] at hinside
        cases hinside
      · cases hbody
    | query q =>
      apply see_inside _ hend
      rcases hprev with hbefore | hbody
      · exact h i hbefore
      · exact hdue.2 (.inr hbody)
  · rw [if_neg hij] at hj
    rw [stepped_ne _ e hij]
    exact h j hj

theorem Query.perform_others (hrollback : q ≠ .rollback)
    (hperform : q.perform w = .ok (rows, conn)) :
    ((∀ write, q ≠ .other write) ∧ conn.data.others = w.conn.data.others) ∨
      ∃ write, q = .other write ∧
        conn.data.others = w.conn.data.others ++ [(w.step, write.sql)] := by
  cases q with
  | commit =>
    obtain ⟨_, rfl⟩ := perform_commit hperform
    exact .inl ⟨(fun _ h => by cases h), rfl⟩
  | rollback => exact absurd rfl hrollback
  | insertDecision row =>
    rw [perform_insertDecision hperform]
    exact .inl ⟨(fun _ h => by cases h), rfl⟩
  | insertEvent input =>
    rw [(perform_insertEvent hperform).2]
    exact .inl ⟨(fun _ h => by cases h), rfl⟩
  | other write =>
    right
    refine ⟨write, rfl, ?_⟩
    have hperform : ((write.apply w.conn.data.toTables).map fun tables => Database.mk tables
      (w.conn.data.others ++ [(w.step, write.sql)])).map (fun d => ((), w.conn.write fun _ => d)) =
      Except.ok (rows, conn) := hperform
    cases happly : write.apply w.conn.data.toTables with
    | error why =>
      rw [happly] at hperform
      cases hperform
    | ok tables =>
      rw [happly] at hperform
      cases hperform
      rfl
  | _ =>
    cases hperform
    exact .inl ⟨(fun _ h => by cases h), rfl⟩

def Made (es : List (Nat × Event sql World)) (x : Nat × String) : Prop :=
  ∃ i w v, (i, ⟨.query (.other w), v⟩) ∈ es ∧ ((Query.other w).outcome v).isOk ∧
    x = (v.step, w.sql)

theorem Made.mono (h : Made es x) (hes : es ⊆ fs) : Made fs x := by
  obtain ⟨i, w, v, hmem, hok, hx⟩ := h
  exact ⟨i, w, v, hes hmem, hok, hx⟩

theorem made_concat (h : Made (es ++ [(j, e)]) x) :
    Made es x ∨ ∃ w v, e = ⟨.query (.other w), v⟩ ∧ ((other w).outcome v).isOk ∧
      x = (v.step, w.sql) := by
  obtain ⟨i, w, v, hmem, hok, hx⟩ := h
  rcases mem_append.mp hmem with hold | hnew
  · exact .inl ⟨i, w, v, hold, hok, hx⟩
  · rw [mem_singleton] at hnew
    exact .inr ⟨w, v, (congrArg Prod.snd hnew).symm, hok, hx⟩

/-- The writes of other callers have numbers of their own, those that a ROLLBACK brings back come
first, and each was there at the start or has been made. -/
structure Numbered (start : List (Nat × String)) (es : List (Nat × Event sql World)) (step : Nat)
    (conn : Connection Database) : Prop where
  nodup : (conn.data.others.map Prod.fst).Nodup
  earlier : ∀ x ∈ conn.data.others, x.1 < step
  first : ∀ d, conn.saved = some d → d.others <+: conn.data.others
  initial : conn.Holds (start <+: ·.others)
  origin : ∀ x ∈ conn.data.others, x ∈ start ∨ Made es x

theorem Numbered.later (h : Numbered start es step conn) (hes : es ⊆ fs) :
    Numbered start fs (step + 1) conn where
  nodup := h.nodup
  earlier x hx := Nat.lt_succ_of_lt (h.earlier x hx)
  first := h.first
  initial := h.initial
  origin x hx := (h.origin x hx).imp_right fun hmade => hmade.mono hes

theorem Numbered.begin_ (h : Numbered start es step conn) (hclosed : conn.saved = none) :
    Numbered start es step conn.begin_ where
  nodup := h.nodup
  earlier := h.earlier
  first d hd := by
    have hd : conn.saved.or (some conn.data) = some d := hd
    rw [hclosed] at hd
    cases hd
    exact prefix_rfl
  initial := h.initial.begin_
  origin := h.origin

theorem Numbered.commit (h : Numbered start es step conn) : Numbered start es step conn.commit where
  nodup := h.nodup
  earlier := h.earlier
  first d hd := by cases hd
  initial := h.initial.commit
  origin := h.origin

theorem Numbered.rollback_first (h : Numbered start es step conn) :
    conn.rollback.data.others <+: conn.data.others := by
  change (conn.saved.getD conn.data).others <+: _
  cases hsaved : conn.saved with
  | none => exact prefix_rfl
  | some d => exact h.first d hsaved

theorem Numbered.rollback (h : Numbered start es step conn) :
    Numbered start es step conn.rollback where
  nodup := h.nodup.sublist (h.rollback_first.sublist.map _)
  earlier x hx := h.earlier x (h.rollback_first.subset hx)
  first d hd := by cases hd
  initial := h.initial.rollback
  origin x hx := h.origin x (h.rollback_first.subset hx)

theorem Numbered.congr (h : Numbered start es step conn)
    (hothers : conn'.data.others = conn.data.others) (hsaved : conn'.saved = conn.saved) :
    Numbered start es step conn' where
  nodup := hothers ▸ h.nodup
  earlier := hothers ▸ h.earlier
  first d hd := hothers ▸ h.first d (hsaved ▸ hd)
  initial := ⟨hothers ▸ h.initial.data, fun d hd => h.initial.saved d (hsaved ▸ hd)⟩
  origin := hothers ▸ h.origin

theorem Numbered.other (h : Numbered start es step conn)
    (hothers : conn'.data.others = conn.data.others ++ [(step, text)])
    (hsaved : conn'.saved = conn.saved) (hmade : Made es (step, text)) :
    Numbered start es (step + 1) conn' where
  nodup := by
    rw [hothers, map_append, nodup_append]
    refine ⟨h.nodup, by simp, ?_⟩
    rintro n hn m hm rfl
    obtain ⟨x, hx, rfl⟩ := mem_map.mp hn
    have hlt := h.earlier x hx
    simp only [map_cons, map_nil, mem_singleton] at hm
    omega
  earlier x hx := by
    rw [hothers, mem_append, mem_singleton] at hx
    rcases hx with hold | rfl
    · exact Nat.lt_succ_of_lt (h.earlier x hold)
    · exact Nat.lt_succ_self step
  first d hd := by
    rw [hothers]
    exact (h.first d (hsaved ▸ hd)).trans (prefix_append _ _)
  initial := by
    refine ⟨?_, fun d hd => h.initial.saved d (hsaved ▸ hd)⟩
    rw [hothers]
    exact h.initial.data.trans (prefix_append _ _)
  origin x hx := by
    rw [hothers, mem_append, mem_singleton] at hx
    rcases hx with hold | rfl
    · exact h.origin x hold
    · exact .inr hmade

theorem Numbered.step (h : Numbered start es e.before.step e.before.conn) (i : Nat) :
    Numbered start (es ++ [(i, e)]) (World.step e.after) (World.conn e.after) := by
  obtain ⟨c, w⟩ := e
  have hes : es ⊆ es ++ [(i, ⟨c, w⟩)] := subset_append_left _ _
  cases c with
  | begin_ =>
    rcases begin_cases w with ⟨_, _, hconn⟩ | ⟨_, _, hconn⟩ | ⟨hclosed, _, hconn⟩
    · exact hconn ▸ h.later hes
    · exact hconn ▸ h.later hes
    · exact hconn ▸ (h.begin_ hclosed).later hes
  | query q =>
    change Numbered start _ (w.step + 1) (q.connAfter w)
    rcases q.outcome_cases w with ⟨why, _, hconn⟩ | ⟨rows, conn, _, hperform, houtcome, hconn⟩
    · rw [hconn]
      exact h.later hes
    · rw [hconn]
      by_cases hcommit : q = .commit
      · subst hcommit
        obtain ⟨_, rfl⟩ := perform_commit hperform
        exact h.commit.later hes
      · by_cases hrollback : q = .rollback
        · subst hrollback
          obtain ⟨_, rfl⟩ := perform_rollback hperform
          exact h.rollback.later hes
        · have hsaved := perform_saved hcommit hrollback hperform
          rcases perform_others hrollback hperform with ⟨hother, hsame⟩ | ⟨write, rfl, hadded⟩
          · exact (h.congr hsame hsaved).later hes
          · have hmade : Made (es ++ [(i, ⟨.query (.other write), w⟩)]) (w.step, write.sql) := by
              refine ⟨i, write, w, mem_append_right _ (mem_singleton_self _), ?_, rfl⟩
              rw [houtcome]
              rfl
            have hmoved := Numbered.origin h
            apply Numbered.other _ hadded hsaved hmade
            exact ⟨h.nodup, h.earlier, h.first, h.initial,
              fun x hx => (hmoved x hx).imp_right fun hold => hold.mono hes⟩

theorem see_query_ne_refused (h : g ≠ .refused)
    (answer : Except String q.Rows) : transactionScript.see g (.query q) answer ≠ .refused := by
  cases q with
  | commit =>
    change g.committed answer ≠ .refused
    cases g <;> cases answer <;> first | exact h | (intro hr; cases hr)
  | rollback =>
    change g.rolledBack answer ≠ .refused
    cases g <;> cases answer <;> first | exact h | (intro hr; cases hr)
  | insertEvent input =>
    change g.inserted input answer ≠ .refused
    cases g <;> cases answer <;> first | exact h | (intro hr; cases hr)
  | _ => exact h

theorem see_ne_refused (h : g ≠ .refused) (halone : isAlone e) :
    transactionScript.see g e.stmt (Store.answer e.stmt e.before) ≠ .refused := by
  obtain ⟨c, w⟩ := e
  cases c with
  | begin_ =>
    change g.begun (Stmt.begin_.answer w) ≠ .refused
    rcases Stmt.begin_cases w with ⟨hopen, _, _⟩ | ⟨why, hanswer, _⟩ | ⟨_, hanswer, _⟩
    · have hclosed : (!w.conn.isOpen) = true := halone
      rw [hopen] at hclosed
      cases hclosed
    · rw [hanswer]
      exact h
    · rw [hanswer]
      simp [Phase.begun]
  | query q => exact see_query_ne_refused h _

theorem ConnectionCall.keeps (call : ConnectionCall) :
    call.prog.keeps transactionScript EndsRefused .outside := by
  cases call with
  | decide input =>
    apply Program.keeps_seq (recordDecideTransaction_keeps input)
    · rintro result g ⟨h, _⟩
      apply EndsRefused.of_ok
      intro hg
      cases h.mpr hg
    · rintro e g ⟨h, _⟩
      constructor
      · intro he
        exact h.mp (congrArg Except.error (Except.error.inj he))
      · intro hg
        exact congrArg Except.error (Except.error.inj (h.mpr hg))
  | upsertMany rows => exact upsertMany_keeps rows
  | other w =>
    have houtside : Phase.outside ≠ .refused := by simp
    exact query_keeps (q := .other w) (due_outside rfl rfl)
      (fun _ => EndsRefused.of_ok _ houtside) fun why => EndsRefused.of_failed why houtside

namespace ConnectionRun
variable {run : ConnectionRun}

theorem keeps (run : ConnectionRun) : ∀ (i : Nat) (p : Prog Unit), run.programs[i]? = some p →
    p.keeps transactionScript EndsRefused .outside := by
  intro i p hp
  rw [programs, getElem?_map, Option.map_eq_some_iff] at hp
  obtain ⟨call, _, rfl⟩ := hp
  exact call.keeps

theorem due (hsplit : interleaveEvents run.schedule run.programs run.start = es ++ (i, e) :: fs) :
    transactionScript.due (phases es i) e.stmt :=
  interleave_keeps (R := fun _ => EndsRefused) (g := fun _ => Phase.outside) run.schedule run.start
    run.keeps es i e fs hsplit
section
variable (run : ConnectionRun)

theorem covers (n : Nat) : Covers (run.events n) := by
  apply interleave_invariant_take (I := fun es _ => Covers es) run.schedule run.start
  · intro i h
    cases h
  · intro es i e fs hsplit h
    exact h.step (due hsplit)

theorem owned (n : Nat) : Owned (phases (run.events n)) (run.conn n) :=
  (interleave_owned (R := fun _ => EndsRefused) (run.schedule.take n) run.start run.keeps).1

theorem numbered_at (n : Nat) :
    Numbered run.start.conn.data.others (run.events n) (run.pool n).2.step (run.conn n) := by
  apply interleave_invariant_take (I := fun es (w : World) =>
    Numbered run.start.conn.data.others es w.step w.conn) run.schedule run.start
  · exact ⟨run.numbered.1, run.numbered.2, (fun d hd => by cases run.closed.symm.trans hd),
      .of_closed prefix_rfl run.closed, fun x hx => .inl hx⟩
  · intro es i e fs _ h
    exact h.step i

theorem whole (n i : Nat) (h : (run.conn n).saved = none) :
    isMidway (eventsOf i (run.events n)) = false := by
  cases hmidway : isMidway (eventsOf i (run.events n)) with
  | false => rfl
  | true =>
    have hopen := (run.owned n).isOpen i (run.covers n i hmidway)
    rw [Connection.isOpen] at hopen
    rw [h] at hopen
    cases hopen

end

theorem Alone.event (h : run.Alone)
    (hsplit : interleaveEvents run.schedule run.programs run.start = es ++ (i, e) :: fs) :
    isAlone e := by
  apply h (i, e)
  rw [hsplit]
  exact mem_append_right _ mem_cons_self

theorem Alone.unrefused (h : run.Alone) (n i : Nat) :
    (run.pool n).1[i]? ≠ some (Program.throw .nestedTransaction) := by
  have hphase : ∀ i, phases (run.events n) i ≠ .refused := by
    apply interleave_invariant_take (I := fun es _ => ∀ i, phases es i ≠ .refused) run.schedule
      run.start
    · intro i hi
      cases hi
    · intro es j e fs hsplit hes i
      rw [phases_concat]
      by_cases hij : j = i
      · subst hij
        rw [stepped_self]
        exact see_ne_refused (hes j) (h.event hsplit)
      · rw [stepped_ne _ e hij]
        exact hes i
  intro hthrown
  have hends := interleave_ends (R := fun _ => EndsRefused) (g := fun _ => Phase.outside)
    (run.schedule.take n) run.start run.keeps i _ hthrown
  exact hphase i (Iff.mp hends rfl)

theorem Alone.kept (h : run.Alone) (n : Nat) :
    ∀ x, Made (run.events n) x → x ∈ (run.conn n).data.others := by
  apply interleave_invariant_take (I := fun es (w : World) =>
    ∀ x, Made es x → x ∈ w.conn.data.others) run.schedule run.start
  · rintro x ⟨i, w, v, hmem, _⟩
    cases hmem
  · intro es j e fs hsplit hes x hx
    have halone := h.event hsplit
    obtain ⟨c, v⟩ := e
    cases c with
    | begin_ =>
      have hold : x ∈ v.conn.data.others := by
        rcases made_concat hx with hmade | ⟨w, u, he, _⟩
        · exact hes x hmade
        · cases he
      change x ∈ (Stmt.begin_.effect v).conn.data.others
      rcases Stmt.begin_cases v with ⟨_, _, hconn⟩ | ⟨_, _, hconn⟩ | ⟨_, _, hconn⟩
      · rw [hconn]
        exact hold
      · rw [hconn]
        exact hold
      · rw [hconn]
        exact hold
    | query q =>
      change x ∈ (q.connAfter v).data.others
      rcases q.outcome_cases v with ⟨why, houtcome, hconn⟩ |
        ⟨rows, conn, _, hperform, houtcome, hconn⟩
      · rw [hconn]
        rcases made_concat hx with hmade | ⟨w, u, he, hok, _⟩
        · exact hes x hmade
        · cases he
          rw [houtcome] at hok
          cases hok
      · rw [hconn]
        by_cases hrollback : q = .rollback
        · subst hrollback
          obtain ⟨_, rfl⟩ := perform_rollback hperform
          have hsame : v.conn.rollback.data.others = v.conn.data.others := by
            simpa [isAlone, houtcome, Except.isOk, Except.toBool] using halone
          rw [hsame]
          rcases made_concat hx with hmade | ⟨w, u, he, _⟩
          · exact hes x hmade
          · cases he
        · rcases perform_others hrollback hperform with ⟨hother, hsame⟩ | ⟨write, rfl, hadded⟩
          · rw [hsame]
            rcases made_concat hx with hmade | ⟨w, u, he, _, _⟩
            · exact hes x hmade
            · cases he
              exact absurd rfl (hother w)
          · rw [hadded]
            rcases made_concat hx with hmade | ⟨w, u, he, _, rfl⟩
            · exact mem_append_left _ (hes x hmade)
            · cases he
              exact mem_append_right _ (mem_singleton_self _)

theorem Alone.leavesStrangers (h : run.Alone) : run.LeavesStrangers where
  kept n i w v hmem hok := h.kept n _ ⟨i, w, v, hmem, hok, rfl⟩
  unrefused := h.unrefused
  whole := run.whole

theorem LeavesStrangers.begin_alone (h : run.LeavesStrangers)
    (hsplit : interleaveEvents run.schedule run.programs run.start =
      es ++ (i, ⟨.begin_, w⟩) :: fs) : w.conn.isOpen = false := by
  cases hopen : w.conn.isOpen with
  | false => rfl
  | true =>
    obtain ⟨n, _, _, hevents, _⟩ := interleave_moment hsplit
    have hrefused : phases (run.events (n + 1)) i = .refused := by
      rw [events]
      rw [hevents, phases_concat, stepped_self]
      have hanswer : Stmt.begin_.answer w = BeginAnswer.nested := if_pos hopen
      change (phases es i).begun (Stmt.begin_.answer w) = _
      rw [hanswer]
      rfl
    have hthread : (run.programs[i]?).isSome := by
      have hmeets : ∀ (j : Nat) (p : Prog Unit), run.programs[j]? = some p →
          p.Meets (fun _ => (run.programs[j]?).isSome) fun _ => True := by
        intro j p hp
        apply Program.Meets.of_forall p
        · intro _
          rw [hp]
          rfl
        · intro _
          trivial
      apply interleaveEvents_meet (S := sql) (Q := fun j _ => (run.programs[j]?).isSome)
        (R := fun _ => True) run.schedule run.start hmeets (i, ⟨.begin_, w⟩)
      rw [hsplit]
      exact mem_append_right _ mem_cons_self
    obtain ⟨p, hp⟩ := Option.isSome_iff_exists.mp hthread
    obtain ⟨q, hq, _⟩ := interleave_leads (run.schedule.take (n + 1)) run.start hp
    have hends : q.keeps transactionScript EndsRefused (phases (run.events (n + 1)) i) :=
      interleave_ends (R := fun _ => EndsRefused) (g := fun _ => Phase.outside)
        (run.schedule.take (n + 1)) run.start run.keeps i q hq
    rw [hrefused] at hends
    cases q with
    | ret a => cases Iff.mpr hends rfl
    | throw e =>
      have he := Except.error.inj (Iff.mpr hends rfl)
      rw [he] at hq
      exact absurd hq (h.unrefused (n + 1) i)
    | issue c k =>
      cases c with
      | begin_ => cases hends.1
      | query q => exact absurd rfl hends.1.1

theorem LeavesStrangers.rollback_alone (h : run.LeavesStrangers)
    (hsplit : interleaveEvents run.schedule run.programs run.start =
      es ++ (i, ⟨.query .rollback, w⟩) :: fs) (hok : (rollback.outcome w).isOk) :
    w.conn.rollback.data.others = w.conn.data.others := by
  obtain ⟨n, hevents, hbefore, hnext, hafter⟩ := interleave_moment hsplit
  have hconn : run.conn n = w.conn := congrArg World.conn hbefore
  have hconn' : run.conn (n + 1) = w.conn.rollback := by
    rcases outcome_cases .rollback w with ⟨why, houtcome, _⟩ |
      ⟨rows, conn, _, hperform, _, hq⟩
    · rw [houtcome] at hok
      cases hok
    · obtain ⟨_, rfl⟩ := perform_rollback hperform
      exact (congrArg World.conn hafter).trans hq
  have hnumbered := run.numbered_at n
  rw [hconn] at hnumbered
  obtain ⟨ys, hys⟩ := hnumbered.rollback_first
  cases ys with
  | nil => rw [← hys, append_nil]
  | cons y ys =>
    have hnew : y ∉ w.conn.rollback.data.others := by
      intro hmem
      have hnodup := hnumbered.nodup
      rw [← hys, map_append, nodup_append] at hnodup
      exact hnodup.2.2 y.1 (mem_map_of_mem hmem) y.1 (by simp) rfl
    have hy : y ∈ w.conn.data.others := by
      rw [← hys]
      exact mem_append_right _ mem_cons_self
    rcases hnumbered.origin y hy with hstart | ⟨j, write, v, hmem, hdone, rfl⟩
    · exact absurd (hnumbered.initial.rollback.data.subset hstart) hnew
    · have hmade : (j, ⟨.query (.other write), v⟩) ∈ run.events (n + 1) := by
        unfold events at hmem ⊢
        rw [hnext]
        rw [hevents] at hmem
        exact mem_append_left _ hmem
      have hkept := h.kept (n + 1) j write v hmade hdone
      rw [hconn'] at hkept
      exact absurd hkept hnew

theorem LeavesStrangers.alone (h : run.LeavesStrangers) : run.Alone := by
  rintro ⟨i, e⟩ hx
  obtain ⟨es, fs, hsplit⟩ := append_of_mem hx
  obtain ⟨c, w⟩ := e
  cases c with
  | begin_ =>
    rw [isAlone]
    dsimp only
    rw [h.begin_alone hsplit]
    rfl
  | query q =>
    cases q with
    | rollback =>
      rw [isAlone]
      dsimp only
      cases hok : (rollback.outcome w).isOk with
      | false => rfl
      | true => simpa using h.rollback_alone hsplit hok
    | _ => rfl

end ConnectionRun

/-- Transactions leave strangers alone exactly when no BEGIN finds one open and no ROLLBACK a write
of another caller in its own. -/
theorem leavesStrangers_iff (run : ConnectionRun) : run.LeavesStrangers ↔ run.Alone :=
  ⟨fun h => h.alone, fun h => h.leavesStrangers⟩

def overlapping : ConnectionRun where
  calls := [
    .decide {
      decisionId := "dec_0123456789abcdef", selectedOptionId := "yes", idempotencyKey := "k1"
      now := "2026-06-10T00:01:00.000Z" },
    .upsertMany [{
      teamId := "t1", dispatchId := "d1", agentName := "a1", status := .pending
      dispatchStatus := "done", dispatchCreatedAt := "2026-06-10T00:00:00.000Z"
      checkedAt := "2026-06-10T00:01:00.000Z" }]]
  schedule := [0, 0, 0, 1]
  start := { conn := { data := { decisions := .ofRows openRows } } }
  closed := closed_openRows
  numbered := ⟨List.nodup_nil, fun x hx => by cases hx⟩

/-- The pass fails because the transaction of the decide is open. -/
theorem not_leavesStrangers : ¬ ∀ run : ConnectionRun, run.LeavesStrangers := by
  intro h
  exact absurd (h overlapping).alone (by decide +kernel)

end IdAgents.Decisions
