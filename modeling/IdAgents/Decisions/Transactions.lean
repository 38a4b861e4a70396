import IdAgents.Library.Rely
import IdAgents.Decisions.Operations

namespace IdAgents.Decisions
open KeyedTable AtomicProgram

inductive Phase where
  | outside
  | inside (event : Option DecisionEventRow)
  | refused
  | done (event : Option DecisionEventRow)

namespace Phase

def isInside : Phase → Bool
  | inside _ => true
  | _ => false

def begun (g : Phase) : BeginAnswer → Phase
  | .begun => inside none
  | .nested => refused
  | .failed _ => g

def committed : Phase → Except String Unit → Phase
  | inside event, .ok _ => done event
  | g, _ => g

def rolledBack : Phase → Except String Unit → Phase
  | inside _, .ok _ => done none
  | g, _ => g

def inserted (g : Phase) (input : AppendEventInput) (answer : Except String String) : Phase :=
  match g, answer with
  | inside _, .ok eventId => inside (some (input.row eventId))
  | g, _ => g

end Phase

def Query.isEnd : Query → Bool
  | commit | rollback => true
  | _ => false

def Query.isBody : Query → Bool
  | resolve _ | upsertVerification _ => true
  | insertEvent input => input.eventType = .decided
  | _ => false

def transactionScript : Script sql Phase where
  see g c := match c with
    | .begin_ => g.begun
    | .query .commit => g.committed
    | .query .rollback => g.rolledBack
    | .query (.insertEvent input) => g.inserted input
    | _ => fun _ => g
  due g c := match c with
    | .begin_ => g = .outside
    | .query q => g ≠ .refused ∧ (q.isEnd ∨ q.isBody → g.isInside)

theorem due_inside (event : Option DecisionEventRow) (q : Query) :
    transactionScript.due (.inside event) (.query q) := ⟨by simp, fun _ => rfl⟩

variable {q : Query}

theorem due_outside (hend : q.isEnd = false) (hbody : q.isBody = false) :
    transactionScript.due .outside (.query q) := ⟨by simp, by simp [hend, hbody]⟩

theorem query_keeps (hdue : transactionScript.due g (.query q))
    (hok : ∀ rows, R (.ok rows) (transactionScript.see g (.query q) (Except.ok rows)))
    (herror : ∀ why, R (.error (.failed why))
      (transactionScript.see g (.query q) (Except.error why))) :
    (query q).keeps transactionScript R g := by
  refine ⟨hdue, fun (answer : Except String q.Rows) => ?_⟩
  cases answer with
  | ok rows => exact hok rows
  | error why => exact herror why

theorem begin_keeps (hok : R (.ok ()) (.inside none))
    (hnested : R (.error .nestedTransaction) .refused)
    (hfailed : ∀ why, R (.error (.failed why)) .outside) :
    begin_.keeps transactionScript R .outside := by
  refine ⟨rfl, fun (answer : BeginAnswer) => ?_⟩
  cases answer with
  | begun => exact hok
  | nested => exact hnested
  | failed why => exact hfailed why

def EndsRefused (r : Except SqlError α) (g : Phase) : Prop :=
  r = .error .nestedTransaction ↔ g = .refused

theorem EndsRefused.of_ok (a : α) (h : g ≠ .refused) : EndsRefused (.ok a) g :=
  iff_of_false (by simp) h

theorem EndsRefused.of_failed (why : String) (h : g ≠ .refused) :
    EndsRefused (.error (.failed why) : Except SqlError α) g :=
  iff_of_false (by simp) h

theorem inside_ne_refused {g : Phase} (h : g.isInside) : g ≠ .refused := by
  rintro rfl
  cases h

def Stays (h : Phase) (r : Except SqlError α) (g : Phase) : Prop :=
  g = h ∧ ∀ e, r = .error e → ∃ why, e = .failed why

theorem query_stays (hdue : transactionScript.due g (.query q))
    (hq : ∀ answer, transactionScript.see g (.query q) answer = g) :
    (query q).keeps transactionScript (Stays g) g := by
  apply query_keeps hdue
  · intro rows
    exact ⟨hq _, fun e he => by cases he⟩
  · intro why
    exact ⟨hq _, fun e he => ⟨why, (Except.error.inj he).symm⟩⟩

theorem rolledBack_ne_refused {g : Phase} (h : g.isInside) (answer : Except String Unit) :
    g.rolledBack answer ≠ .refused := by
  cases g with
  | inside event =>
    intro hr
    cases answer with
    | ok _ => cases hr
    | error _ => cases hr
  | _ => cases h

def FailedInside (e : SqlError) (g : Phase) : Prop := g.isInside ∧ e ≠ .nestedTransaction

theorem FailedInside.ends {e : SqlError} (h : FailedInside e g) (answer : Except String Unit) :
    EndsRefused (.error e : Except SqlError α) (g.rolledBack answer) := by
  apply iff_of_false
  · intro he
    exact h.2 (Except.error.inj he)
  · exact rolledBack_ne_refused h.1 answer

def Post (ok : α → Phase → Prop) (error : SqlError → Phase → Prop) :
    Except SqlError α → Phase → Prop
  | .ok a => ok a
  | .error e => error e

def DecideEnds (input : RecordDecideInput) (r : Except SqlError RecordDecideResult) (g : Phase) :
    Prop :=
  EndsRefused r g ∧
    ∀ eventId, r = .ok (.recorded eventId) → g = .done (some (input.decidedEvent.row eventId))

theorem DecideEnds.of_error (h : EndsRefused (.error e : Except SqlError RecordDecideResult) g) :
    DecideEnds input (.error e) g :=
  ⟨h, fun eventId hr => by cases hr⟩

theorem body_keeps (input : RecordDecideInput) : input.body.keeps transactionScript
      (Post (fun result g => DecideEnds input (.ok result) g) FailedInside) (.inside none) := by
  have hfailed : ∀ event why, FailedInside (.failed why) (.inside event) := by
    intro event why
    exact ⟨rfl, by simp⟩
  apply Program.keeps_seq (T := Post (fun _ g => g = .inside none) FailedInside)
  · exact query_keeps (due_inside _ _) (fun _ => rfl) (hfailed none)
  · rintro _ _ rfl
    apply Program.keeps_seq (T := Post (fun (eventId : String) g =>
      g = .inside (some (input.decidedEvent.row eventId))) FailedInside)
    · exact query_keeps (due_inside _ _) (fun _ => rfl) (hfailed none)
    · rintro (eventId : String) _ rfl
      apply Program.keeps_seq (T := Post (fun _ g =>
        g = .done (some (input.decidedEvent.row eventId))) FailedInside)
      · exact query_keeps (due_inside _ _) (fun _ => rfl) (hfailed _)
      · rintro _ _ rfl
        refine ⟨EndsRefused.of_ok _ (by simp), fun id hid => ?_⟩
        cases hid
        rfl
      · intro e g h
        exact h
    · intro e g h
      exact h
  · intro e g h
    exact h

theorem recordDecideTransaction_keeps (input : RecordDecideInput) :
    (recordDecideTransaction input).keeps transactionScript (DecideEnds input) .outside := by
  have houtside : ∀ result, (∀ eventId, result ≠ RecordDecideResult.recorded eventId) →
      DecideEnds input (.ok result) .outside := by
    intro result hresult
    refine ⟨EndsRefused.of_ok _ (by simp), fun eventId hr => ?_⟩
    exact absurd (Except.ok.inj hr) (hresult eventId)
  have hfailed : ∀ why, DecideEnds input (.error (.failed why)) .outside := by
    intro why
    exact DecideEnds.of_error (EndsRefused.of_failed why (by simp))
  apply Program.keeps_seq (query_stays (due_outside rfl rfl) fun _ => rfl)
  · rintro decision _ ⟨rfl, _⟩
    cases (decision : Option DecisionRow) with
    | none => exact houtside _ (by simp)
    | some row =>
      apply Program.keeps_seq (query_stays (due_outside rfl rfl) fun _ => rfl)
      · rintro existing _ ⟨rfl, _⟩
        cases (existing : Option DecisionEventRow) with
        | some existing =>
          apply houtside
          intro eventId
          unfold RecordDecideInput.existingResult
          dsimp only
          split <;> simp
        | none =>
          apply Program.keeps_seq (T := Post (fun _ g => g = .inside none)
            fun e g => EndsRefused (.error e : Except SqlError RecordDecideResult) g)
          · apply begin_keeps rfl
            · exact iff_of_true rfl rfl
            · intro why
              exact EndsRefused.of_failed why (by simp)
          · rintro _ _ rfl
            apply Program.keeps_tryCatch (body_keeps input)
            · intro result g h
              exact h
            · intro e g h
              refine ⟨⟨inside_ne_refused h.1, fun _ => h.1⟩, fun answer => ?_⟩
              exact DecideEnds.of_error (h.ends answer)
          · intro e g h
            exact DecideEnds.of_error h
      · rintro e _ ⟨rfl, he⟩
        obtain ⟨why, rfl⟩ := he e rfl
        exact hfailed why
  · rintro e _ ⟨rfl, he⟩
    obtain ⟨why, rfl⟩ := he e rfl
    exact hfailed why

theorem upsertMany_keeps (rows : List DispatchVerification) :
    (upsertMany rows).keeps transactionScript EndsRefused .outside := by
  have hfailed : ∀ why, FailedInside (.failed why) (.inside none) := by
    intro why
    exact ⟨rfl, by simp⟩
  rw [upsertMany]
  split
  · exact EndsRefused.of_ok _ (by simp)
  · apply Program.keeps_seq (T := Post (fun _ g => g = .inside none)
        fun e g => EndsRefused (.error e : Except SqlError Unit) g)
    · apply begin_keeps rfl
      · exact iff_of_true rfl rfl
      · intro why
        exact EndsRefused.of_failed why (by simp)
    · rintro _ _ rfl
      apply Program.keeps_tryCatch (T := Post (fun _ g => g = .done none) FailedInside)
      · apply Program.keeps_seq (T := Post (fun _ g => g = .inside none) FailedInside)
        · apply Program.keeps_fold (J := fun _ g => g = .inside none) () rfl
          · rintro _ row rows _ rfl
            exact query_keeps (due_inside _ _) (fun _ => rfl) hfailed
          · rintro _ _ rfl
            rfl
        · rintro _ _ rfl
          exact query_keeps (due_inside _ _) (fun _ => rfl) hfailed
        · intro e g h
          exact h
      · rintro _ _ rfl
        exact EndsRefused.of_ok _ (by simp)
      · intro e g h
        apply Program.keeps_seq
          (T := fun r g => g ≠ .refused ∧ ∀ e, r = .error e → ∃ why, e = .failed why)
        · apply query_keeps (q := .rollback) ⟨inside_ne_refused h.1, fun _ => h.1⟩
          · intro _
            exact ⟨rolledBack_ne_refused h.1 _, fun e he => by cases he⟩
          · intro why
            exact ⟨rolledBack_ne_refused h.1 _, fun e he => ⟨why, (Except.error.inj he).symm⟩⟩
        · rintro _ g ⟨hg, _⟩
          apply iff_of_false _ hg
          intro he
          exact h.2 (Except.error.inj he)
        · rintro e g ⟨hg, he⟩
          obtain ⟨why, rfl⟩ := he e rfl
          exact EndsRefused.of_failed why hg
    · intro e g h
      exact h

theorem Query.outcome_cases (q : Query) (w : World) :
    (∃ why, q.outcome w = .error why ∧ q.connAfter w = w.conn) ∨
      ∃ rows conn, w.env.fails w.step = none ∧ q.perform w = .ok (rows, conn) ∧
        q.outcome w = .ok (rows, conn) ∧ q.connAfter w = conn := by
  rw [connAfter]
  cases houtcome : q.outcome w with
  | error why => exact .inl ⟨why, rfl, rfl⟩
  | ok x =>
    obtain ⟨rows, conn⟩ := x
    rw [outcome] at houtcome
    split at houtcome
    · cases houtcome
    · next hfails => exact .inr ⟨rows, conn, hfails, houtcome, rfl, rfl⟩

theorem Query.perform_commit (h : Query.commit.perform w = .ok (rows, conn)) :
    w.conn.isOpen ∧ conn = w.conn.commit := by
  have h : (if w.conn.isOpen then Except.ok ((), w.conn.commit) else .error _) =
    Except.ok (rows, conn) := h
  split at h
  · next hopen =>
    cases h
    exact ⟨hopen, rfl⟩
  · cases h

theorem Query.perform_rollback (h : Query.rollback.perform w = .ok (rows, conn)) :
    w.conn.isOpen ∧ conn = w.conn.rollback := by
  have h : (if w.conn.isOpen then Except.ok ((), w.conn.rollback) else .error _) =
    Except.ok (rows, conn) := h
  split at h
  · next hopen =>
    cases h
    exact ⟨hopen, rfl⟩
  · cases h

theorem Query.perform_insertDecision (h : (Query.insertDecision row).perform w = .ok (rows, conn)) :
    conn = w.conn.write fun d => { d with decisions := d.decisions.insert row } := by
  have h : (if (w.conn.data.decisions.get? row.decisionId).isSome then .error _
    else Except.ok ((), w.conn.write _)) = Except.ok (rows, conn) := h
  split at h
  · cases h
  · cases h
    rfl

theorem Query.perform_insertEvent (h : (Query.insertEvent input).perform w = .ok (eventId, conn)) :
    w.conn.data.events.get? eventId = none ∧
      conn = w.conn.write fun d => { d with events := d.events.insert (input.row eventId) } := by
  have h : (if (w.conn.data.events.get? (w.env.mintEventId w.step)).isSome then .error _
    else Except.ok (w.env.mintEventId w.step, w.conn.write _)) = Except.ok (eventId, conn) := h
  split at h
  · cases h
  · next hfree =>
    cases h
    exact ⟨Option.not_isSome_iff_eq_none.mp hfree, rfl⟩

theorem Query.perform_saved (hcommit : q ≠ .commit)
    (hrollback : q ≠ .rollback) (h : q.perform w = .ok (rows, conn)) :
    conn.saved = w.conn.saved := by
  cases q with
  | commit => exact absurd rfl hcommit
  | rollback => exact absurd rfl hrollback
  | insertDecision row =>
    rw [perform_insertDecision h]
    rfl
  | insertEvent input =>
    rw [(perform_insertEvent h).2]
    rfl
  | other write =>
    have h : (w.conn.data.written w.step write).map (fun d => ((), w.conn.write fun _ => d)) =
      Except.ok (rows, conn) := h
    cases hwritten : w.conn.data.written w.step write with
    | error why =>
      rw [hwritten] at h
      cases h
    | ok d =>
      rw [hwritten] at h
      cases h
      rfl
  | _ =>
    cases h
    rfl

structure Owned (g : Nat → Phase) (conn : Connection Database) : Prop where
  isOpen : ∀ i, (g i).isInside → conn.isOpen
  one : ∀ i j, (g i).isInside → (g j).isInside → i = j

variable {g : Nat → Phase}

theorem Owned.congr (h : Owned g conn)
    (hg : ∀ i, (g' i).isInside → (g i).isInside) (hconn : conn'.isOpen = conn.isOpen) :
    Owned g' conn' := by
  refine ⟨?_, ?_⟩
  · intro i hi
    rw [hconn]
    exact h.isOpen i (hg i hi)
  · intro i j hi hj
    exact h.one i j (hg i hi) (hg j hj)

def stepped (g : Nat → Phase) (i : Nat) (e : Event sql World) (j : Nat) : Phase :=
  if i = j then transactionScript.see (g i) e.stmt (Store.answer e.stmt e.before) else g j

theorem stepped_self (g : Nat → Phase) (i : Nat) (e : Event sql World) :
    stepped g i e i = transactionScript.see (g i) e.stmt (Store.answer e.stmt e.before) :=
  if_pos rfl

theorem stepped_ne (g : Nat → Phase) (e : Event sql World) (h : i ≠ j) : stepped g i e j = g j :=
  if_neg h

theorem Stmt.begin_cases (w : World) : (w.conn.isOpen ∧ Stmt.begin_.answer w = BeginAnswer.nested ∧
        (Stmt.begin_.effect w).conn = w.conn) ∨
      (∃ why, Stmt.begin_.answer w = BeginAnswer.failed why ∧
        (Stmt.begin_.effect w).conn = w.conn) ∨
      (w.conn.saved = none ∧ Stmt.begin_.answer w = BeginAnswer.begun ∧
        (Stmt.begin_.effect w).conn = w.conn.begin_) := by
  have hanswer : Stmt.begin_.answer w =
    if w.conn.isOpen then BeginAnswer.nested else .of (w.env.fails w.step) := rfl
  have hconn : (Stmt.begin_.effect w).conn =
      if (w.env.fails w.step).isSome then w.conn else w.conn.begin_ := rfl
  cases hsaved : w.conn.saved with
  | some d =>
    have hopen : w.conn.isOpen := by
      rw [Connection.isOpen]
      rw [hsaved]
      rfl
    refine .inl ⟨hopen, by rw [hanswer, if_pos hopen], ?_⟩
    rw [hconn]
    split
    · rfl
    · rw [Connection.begin_]
      rw [hsaved]
      exact congrArg (Connection.mk w.conn.data) hsaved.symm
  | none =>
    have hclosed : ¬ w.conn.isOpen := by
      rw [Connection.isOpen]
      rw [hsaved]
      simp
    rw [if_neg hclosed] at hanswer
    cases hfails : w.env.fails w.step with
    | some why =>
      rw [hfails] at hanswer hconn
      exact .inr (.inl ⟨why, hanswer, hconn⟩)
    | none =>
      rw [hfails] at hanswer hconn
      exact .inr (.inr ⟨rfl, hanswer, hconn⟩)

theorem see_isInside (hcommit : q ≠ .commit) (hrollback : q ≠ .rollback) (g : Phase)
    (answer : Except String q.Rows) :
    (transactionScript.see g (.query q) answer).isInside = g.isInside := by
  cases q with
  | commit => exact absurd rfl hcommit
  | rollback => exact absurd rfl hrollback
  | insertEvent input =>
    change (g.inserted input answer).isInside = _
    cases g <;> cases answer <;> rfl
  | _ => rfl

theorem not_inside_after {g : Phase} (answer : Except String Unit)
    (hok : ∃ rows, answer = .ok rows) :
    (g.committed answer).isInside = false ∧ (g.rolledBack answer).isInside = false := by
  obtain ⟨rows, rfl⟩ := hok
  cases g <;> exact ⟨rfl, rfl⟩

theorem Owned.of_closed (h : ∀ i, (g i).isInside = false) : Owned g conn := by
  have hnot : ∀ {P : Prop} i, (g i).isInside → P := by
    intro P i hi
    rw [h i] at hi
    cases hi
  exact ⟨fun i hi => hnot i hi, fun i j hi _ => hnot i hi⟩

variable {e : Event sql World}

theorem stepped_cases {P : Phase → Prop} (h : P (stepped g i e j)) :
    (i = j ∧ P (transactionScript.see (g i) e.stmt (Store.answer e.stmt e.before))) ∨
      (i ≠ j ∧ P (g j)) := by
  by_cases hij : i = j
  · subst hij
    rw [stepped_self] at h
    exact .inl ⟨rfl, h⟩
  · rw [stepped_ne g e hij] at h
    exact .inr ⟨hij, h⟩

theorem see_refused (g : Phase) (q : Query) (why : String) :
    transactionScript.see g (.query q) (Except.error why) = g := by
  cases q with
  | commit => cases g <;> rfl
  | rollback => cases g <;> rfl
  | insertEvent input => cases g <;> rfl
  | _ => rfl

theorem Owned.begin_ (h : Owned g w.conn) :
    Owned (stepped g i ⟨.begin_, w⟩) (Stmt.begin_.effect w).conn := by
  rcases Stmt.begin_cases w with ⟨_, hanswer, hconn⟩ | ⟨why, hanswer, hconn⟩ |
    ⟨hclosed, hanswer, hconn⟩
  · apply h.congr _ (by rw [hconn])
    intro j hj
    rcases stepped_cases (P := (·.isInside)) hj with ⟨rfl, hi⟩ | ⟨_, hj⟩
    · have hi : ((g i).begun (Stmt.begin_.answer w)).isInside := hi
      rw [hanswer] at hi
      cases hi
    · exact hj
  · apply h.congr _ (by rw [hconn])
    intro j hj
    rcases stepped_cases (P := (·.isInside)) hj with ⟨rfl, hi⟩ | ⟨_, hj⟩
    · have hi : ((g i).begun (Stmt.begin_.answer w)).isInside := hi
      rw [hanswer] at hi
      exact hi
    · exact hj
  · have honly : ∀ j, (stepped g i ⟨.begin_, w⟩ j).isInside → i = j := by
      intro j hj
      rcases stepped_cases (P := (·.isInside)) hj with ⟨hij, _⟩ | ⟨_, hj⟩
      · exact hij
      · have hopen := h.isOpen j hj
        rw [Connection.isOpen] at hopen
        rw [hclosed] at hopen
        cases hopen
    refine ⟨?_, ?_⟩
    · intro j _
      rw [hconn]
      unfold Connection.begin_ Connection.isOpen
      rw [hclosed]
      rfl
    · intro j k hj hk
      exact (honly j hj).symm.trans (honly k hk)

theorem Owned.ended (h : Owned g before) (hi : (g i).isInside)
    (hafter : (transactionScript.see (g i) e.stmt
      (Store.answer e.stmt e.before)).isInside = false) : Owned (stepped g i e) conn := by
  apply Owned.of_closed
  intro j
  by_contra hnot
  rcases stepped_cases (P := (·.isInside)) (Bool.not_eq_false _ ▸ hnot) with
    ⟨rfl, hself⟩ | ⟨hij, hj⟩
  · rw [hafter] at hself
    cases hself
  · exact hij (h.one i j hi hj)

theorem Owned.query (h : Owned g w.conn) (hdue : transactionScript.due (g i) (.query q)) :
    Owned (stepped g i ⟨.query q, w⟩) (q.connAfter w) := by
  have hanswer : Store.answer (S := sql) (.query q) w = (q.outcome w).map Prod.fst := rfl
  rcases q.outcome_cases w with ⟨why, houtcome, hconn⟩ | ⟨rows, conn, _, hperform, houtcome, hconn⟩
  · apply h.congr _ (by rw [hconn])
    intro j hj
    rcases stepped_cases (P := (·.isInside)) hj with ⟨rfl, hi⟩ | ⟨_, hj⟩
    · have hi : (transactionScript.see (g i) (.query q) ((q.outcome w).map Prod.fst)).isInside := hi
      rw [houtcome] at hi
      exact see_refused (g i) q why ▸ hi
    · exact hj
  · have hok : (q.outcome w).map Prod.fst = .ok rows := by
      rw [houtcome]
      rfl
    by_cases hcommit : q = .commit
    · subst hcommit
      apply h.ended (hdue.2 (.inl rfl))
      exact (not_inside_after _ ⟨rows, hok⟩).1
    · by_cases hrollback : q = .rollback
      · subst hrollback
        apply h.ended (hdue.2 (.inl rfl))
        exact (not_inside_after _ ⟨rows, hok⟩).2
      · have hsaved := q.perform_saved hcommit hrollback hperform
        apply h.congr
        · intro j hj
          rcases stepped_cases (P := (·.isInside)) hj with ⟨rfl, hi⟩ | ⟨_, hj⟩
          · rw [← see_isInside hcommit hrollback (g i) ((q.outcome w).map Prod.fst)]
            exact hi
          · exact hj
        · unfold Connection.isOpen
          rw [hconn, hsaved]

theorem Owned.step (h : Owned g e.before.conn)
    (hdue : transactionScript.due (g i) e.stmt) : Owned (stepped g i e) (World.conn e.after) := by
  obtain ⟨c, w⟩ := e
  cases c with
  | begin_ => exact h.begin_
  | query q => exact h.query hdue

def phases (es : List (Nat × Event sql World)) : Nat → Phase :=
  transactionScript.ghost (fun _ => .outside) es

theorem phases_concat (es : List (Nat × Event sql World)) (i : Nat) (e : Event sql World) :
    phases (es ++ [(i, e)]) = stepped (phases es) i e := by
  funext j
  by_cases hij : i = j
  · subst hij
    unfold phases
    rw [stepped_self, Script.ghost_concat, if_pos rfl]
  · unfold phases
    rw [stepped_ne _ e hij, Script.ghost_concat, if_neg hij]

section Pools
variable {ps : List (Prog α)} {R : Nat → Except SqlError α → Phase → Prop}

theorem interleave_owned (is : List Nat) (s : World)
    (hp : ∀ i (p : Prog α), ps[i]? = some p → p.keeps transactionScript (R i) .outside) :
    Owned (phases (interleaveEvents is ps s)) (interleave is ps s).2.conn ∧
      ∀ es i e fs, interleaveEvents is ps s = es ++ (i, e) :: fs →
        Owned (phases es) e.before.conn := by
  have hstart : Owned (phases []) s.conn := Owned.of_closed fun i => rfl
  apply interleave_invariant (I := fun es s => Owned (phases es) s.conn) is s hstart
  intro es i e fs hsplit howned
  rw [phases_concat]
  exact howned.step (interleave_keeps is s hp es i e fs hsplit)

end Pools

end IdAgents.Decisions
