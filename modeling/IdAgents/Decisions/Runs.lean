import IdAgents.Library.Precedence
import IdAgents.Decisions.Transactions

namespace IdAgents.Decisions
open KeyedTable AtomicProgram List

inductive DecisionCall where
  | decide (input : RecordDecideInput)
  | action (input : RecordActionInput)
  | ingest (source : ParsedSource)

inductive DecisionAnswer where
  | decide (result : RecordDecideResult)
  | action (result : RecordActionResult)
  | ingest (result : IngestResult)

def DecisionCall.prog : DecisionCall → Prog DecisionAnswer
  | decide input => (recordDecideTransaction input).bind fun result => .ret (.decide result)
  | action input =>
    (recordDecisionActionTransaction input).bind fun result => .ret (.action result)
  | ingest source =>
    (ingestDecisionsFromMarkdown source).bind fun result => .ret (.ingest result)

def Database.decidedEvents (d : Database) (decisionId : String) : List DecisionEventRow :=
  d.events.rows.filter (·.decides decisionId)

def Database.ShowsOption (d : Database) (event : DecisionEventRow) : Prop :=
  ∃ row, d.decisions.get? event.decisionId = some row ∧ row.status = .resolved ∧
    row.selectedOptionId = event.payload.selectedOptionId

structure Database.Sound (d : Database) : Prop where
  once : ∀ decisionId, ∀ e ∈ d.decidedEvents decisionId, ∀ f ∈ d.decidedEvents decisionId, e = f
  shown : ∀ decisionId, ∀ e ∈ d.decidedEvents decisionId, d.ShowsOption e

structure DecisionRun where
  calls : List DecisionCall
  schedule : List Nat
  start : World
  closed : start.conn.saved = none
  sound : start.conn.data.Sound

namespace DecisionRun
section
variable (run : DecisionRun)

def programs : List (Prog DecisionAnswer) := run.calls.map DecisionCall.prog

def pool (n : Nat) : List (Prog DecisionAnswer) × World :=
  interleave (run.schedule.take n) run.programs run.start

/-- What the connection sees after `n` steps. -/
def contents (n : Nat) : Database := (run.pool n).2.conn.data

def events (n : Nat) : List (Nat × Event sql World) :=
  interleaveEvents (run.schedule.take n) run.programs run.start

def Answers (n i : Nat) (a : DecisionAnswer) : Prop :=
  (run.pool n).1[i]? = some (.ret a)

end

end DecisionRun

structure DecisionRun.StaysMade (run : DecisionRun) : Prop where
  sound : ∀ n, (run.contents n).Sound
  allowed : ∀ n i input result, run.calls[i]? = some (.action input) →
    run.Answers n i (.action result) →
    (result = .notFound ∨ ∃ status, result = .requiresDecision status) →
    ∃ w, (i, ⟨.query (.getDecisionById input.decisionId), w⟩) ∈ run.events n ∧
      w.conn.data.decidedEvents input.decisionId = []
  agree : ∀ n i j a b eventId eventId', run.calls[i]? = some (.decide a) →
    run.calls[j]? = some (.decide b) → a.decisionId = b.decisionId →
    run.Answers n i (.decide (.recorded eventId)) →
    run.Answers n j (.decide (.recorded eventId')) → a.selectedOptionId = b.selectedOptionId

/-- A write respects the decided event of its decision: a resolving UPDATE writes its option, an
INSERT of a decided event finds none and the option in the row, and an ingest leaves the row
resolved with the option. -/
def Query.respects : Query → Database → Bool
  | resolve input, d => (d.decidedEvents input.decisionId).all fun event =>
      event.payload.selectedOptionId = some input.selectedOptionId
  | insertEvent input, d =>
      input.eventType ≠ .decided || (d.decidedEvents input.decisionId).isEmpty &&
        (d.decisions.get? input.decisionId).any fun row =>
          row.status = .resolved && row.selectedOptionId = input.payload.selectedOptionId
  | updateDecision row, d => (d.decidedEvents row.decisionId).all fun event =>
      row.status = .resolved &&
        row.selectedOptionId.all fun o => event.payload.selectedOptionId = some o
  | _, _ => true

def isRespectful (e : Event sql World) : Bool :=
  match e.stmt with
  | .begin_ => true
  | .query q => !(q.outcome e.before).isOk || q.respects e.before.conn.data

def DecisionRun.Respectful (run : DecisionRun) : Prop :=
  ∀ x ∈ interleaveEvents run.schedule run.programs run.start, isRespectful x.2

instance (run : DecisionRun) : Decidable run.Respectful :=
  inferInstanceAs (Decidable (∀ x ∈ interleaveEvents run.schedule run.programs run.start,
    isRespectful x.2 = true))

variable {d : Database}

theorem Database.mem_decidedEvents :
    e ∈ d.decidedEvents k ↔ e ∈ d.events.rows ∧ e.decisionId = k ∧ e.eventType = .decided := by
  simp [decidedEvents, DecisionEventRow.decides]

theorem Database.Sound.congr {d' : Database} (h : d.Sound) (hevents : d'.events = d.events)
    (hshown : ∀ k, ∀ e ∈ d.decidedEvents k, d'.ShowsOption e) : d'.Sound := by
  have hdecided : ∀ k, d'.decidedEvents k = d.decidedEvents k := by
    intro k
    unfold decidedEvents
    rw [hevents]
  refine ⟨?_, ?_⟩
  · intro k e he f hf
    rw [hdecided] at he hf
    exact h.once k e he f hf
  · intro k e he
    rw [hdecided] at he
    exact hshown k e he

theorem Database.Sound.update_iff (h : d.Sound) (hguard : ∀ row, u.guard row) :
    Database.Sound { d with decisions := d.decisions.update u } ↔
      ∀ e ∈ d.decidedEvents u.at_, ∀ row, d.decisions.get? u.at_ = some row →
        (u.set row).status = .resolved ∧
          (u.set row).selectedOptionId = e.payload.selectedOptionId := by
  have hrefused : d.decisions.updateRefused u = false := Table.not_refused_of_entry fun _ _ => rfl
  constructor
  · intro hsound e he row hrow
    obtain ⟨row', hrow', hstatus, hoption⟩ := hsound.shown u.at_ e he
    rw [(mem_decidedEvents.mp he).2.1] at hrow'
    have hset := Table.get?_update_self hrow (hguard row) hrefused
    obtain rfl : u.set row = row' := Option.some.inj (hset.symm.trans hrow')
    exact ⟨hstatus, hoption⟩
  · intro hset
    refine h.congr (by rfl) ?_
    intro k e he
    obtain ⟨row, hrow, hstatus, hoption⟩ := h.shown k e he
    by_cases hk : u.at_ = k
    · subst hk
      rw [(mem_decidedEvents.mp he).2.1] at hrow
      obtain ⟨hstatus', hoption'⟩ := hset e he row hrow
      refine ⟨u.set row, ?_, hstatus', hoption'⟩
      rw [(mem_decidedEvents.mp he).2.1]
      exact Table.get?_update_self hrow (hguard row) hrefused
    · refine ⟨row, ?_, hstatus, hoption⟩
      rw [← hrow]
      apply Table.get?_update_ne
      rw [(mem_decidedEvents.mp he).2.1]
      exact hk

theorem Database.Sound.insertDecision (h : d.Sound) (row : DecisionRow) :
    Database.Sound { d with decisions := d.decisions.insert row } := by
  refine h.congr (by rfl) ?_
  intro k e he
  obtain ⟨found, hfound, hstatus, hoption⟩ := h.shown k e he
  exact ⟨found, Table.get?_insert row hfound, hstatus, hoption⟩

theorem Database.events_insert (hfree : d.events.get? event.eventId = none) :
    (d.events.insert event).rows = d.events.rows ++ [event] := by
  have htaken : d.events.insertRefused event = false := by
    by_contra hnot
    have hsome := Table.isSome_of_refused (fun _ => rfl) (Bool.not_eq_false _ ▸ hnot)
    have hsome : (d.events.get? event.eventId).isSome := hsome
    rw [hfree] at hsome
    cases hsome
  rw [Table.insertRefused] at htaken
  rw [Table.insert, dif_pos (by simpa using htaken)]

theorem Database.Sound.insertEvent_iff (h : d.Sound) (hfree : d.events.get? event.eventId = none) :
    Database.Sound { d with events := d.events.insert event } ↔ (event.eventType = .decided →
        d.decidedEvents event.decisionId = [] ∧ d.ShowsOption event) := by
  have hmem : ∀ k e, e ∈ Database.decidedEvents { d with events := d.events.insert event } k ↔
      e ∈ d.decidedEvents k ∨ e = event ∧ event.decisionId = k ∧ event.eventType = .decided := by
    intro k e
    rw [mem_decidedEvents, mem_decidedEvents, events_insert hfree, mem_append,
      mem_singleton, or_and_right]
    constructor
    · rintro (hold | ⟨rfl, hnew⟩)
      · exact .inl hold
      · exact .inr ⟨rfl, hnew⟩
    · rintro (hold | ⟨rfl, hnew⟩)
      · exact .inl hold
      · exact .inr ⟨rfl, hnew⟩
  constructor
  · intro hsound htype
    have hself := (hmem event.decisionId event).mpr (.inr ⟨rfl, rfl, htype⟩)
    refine ⟨?_, hsound.shown _ event hself⟩
    rw [eq_nil_iff_forall_not_mem]
    intro e he
    have hsame := hsound.once _ e ((hmem _ e).mpr (.inl he)) event hself
    have hget := Table.get?_of_mem (mem_decidedEvents.mp he).1
    have hget : d.events.get? e.eventId = some e := hget
    rw [hsame, hfree] at hget
    cases hget
  · intro hnew
    refine ⟨?_, ?_⟩
    · intro k e he f hf
      rcases (hmem k e).mp he with holdE | ⟨rfl, rfl, htype⟩
      · rcases (hmem k f).mp hf with holdF | ⟨rfl, rfl, htype⟩
        · exact h.once k e holdE f holdF
        · rw [(hnew htype).1] at holdE
          cases holdE
      · rcases (hmem _ f).mp hf with holdF | ⟨rfl, _⟩
        · rw [(hnew htype).1] at holdF
          cases holdF
        · rfl
    · intro k e he
      rcases (hmem k e).mp he with hold | ⟨rfl, rfl, htype⟩
      · exact h.shown k e hold
      · exact (hnew htype).2

def Stmt.isOwn : Stmt → Bool
  | .query (.other _) => false
  | _ => true

theorem Database.Sound.overwrite_iff (h : d.Sound) (row : DecisionRow) :
    Database.Sound { d with decisions := d.decisions.update row.overwrite } ↔
      (Query.updateDecision row).respects d := by
  rw [h.update_iff fun _ => rfl]
  have hrespects : (Query.updateDecision row).respects d ↔ ∀ e ∈ d.decidedEvents row.decisionId,
      row.status = .resolved ∧ ∀ o, row.selectedOptionId = some o →
        e.payload.selectedOptionId = some o := by
    simp [Query.respects, Option.all_eq_true]
  rw [hrespects]
  have hold : ∀ e ∈ d.decidedEvents row.decisionId, ∃ old,
      d.decisions.get? row.decisionId = some old ∧
        old.selectedOptionId = e.payload.selectedOptionId := by
    intro e he
    obtain ⟨old, hfound, _, hoption⟩ := h.shown _ e he
    rw [(mem_decidedEvents.mp he).2.1] at hfound
    exact ⟨old, hfound, hoption⟩
  constructor
  · intro hset e he
    obtain ⟨old, hfound, _⟩ := hold e he
    obtain ⟨hstatus, hoption⟩ := hset e he old hfound
    refine ⟨hstatus, ?_⟩
    intro o ho
    have hoption : row.selectedOptionId.or old.selectedOptionId = e.payload.selectedOptionId :=
      hoption
    rw [← hoption, ho]
    rfl
  · intro hrow e he old hfound
    obtain ⟨hstatus, hsame⟩ := hrow e he
    refine ⟨hstatus, ?_⟩
    obtain ⟨found, hget, hoption⟩ := hold e he
    have hfound : d.decisions.get? row.decisionId = some old := hfound
    obtain rfl := Option.some.inj (hget.symm.trans hfound)
    change row.selectedOptionId.or found.selectedOptionId = _
    cases ho : row.selectedOptionId with
    | none => exact hoption
    | some o => exact (hsame o ho).symm

theorem Database.Sound.resolve_iff (h : d.Sound) (input : RecordDecideInput) :
    Database.Sound { d with decisions := d.decisions.update input.resolve } ↔
      (Query.resolve input).respects d := by
  rw [h.update_iff fun _ => rfl]
  have hrespects : (Query.resolve input).respects d ↔ ∀ e ∈ d.decidedEvents input.decisionId,
      e.payload.selectedOptionId = some input.selectedOptionId := by
    simp [Query.respects]
  rw [hrespects]
  constructor
  · intro hset e he
    obtain ⟨row, hfound, _⟩ := h.shown _ e he
    rw [(mem_decidedEvents.mp he).2.1] at hfound
    exact (hset e he row hfound).2.symm
  · intro hsame e he row _
    exact ⟨rfl, (hsame e he).symm⟩

variable {q : Query} {rows : q.Rows}

theorem Query.sound_iff (hcommit : q ≠ .commit)
    (hrollback : q ≠ .rollback) (hown : (Stmt.query q).isOwn) (h : w.conn.data.Sound)
    (hperform : q.perform w = .ok (rows, conn)) : conn.data.Sound ↔ q.respects w.conn.data := by
  cases q with
  | commit => exact absurd rfl hcommit
  | rollback => exact absurd rfl hrollback
  | other write => cases hown
  | insertDecision row =>
    rw [perform_insertDecision hperform]
    exact iff_of_true (h.insertDecision row) rfl
  | updateDecision row =>
    cases hperform
    exact h.overwrite_iff row
  | resolve input =>
    cases hperform
    exact h.resolve_iff input
  | insertEvent input =>
    obtain ⟨hfree, rfl⟩ := perform_insertEvent hperform
    apply (h.insertEvent_iff hfree).trans
    simp [respects, Database.ShowsOption, AppendEventInput.row, imp_iff_not_or, Option.any_eq_true]
  | upsertVerification row =>
    cases hperform
    exact iff_of_true (h.congr (by rfl) fun k e he => h.shown k e he) rfl
  | _ =>
    cases hperform
    exact iff_of_true h rfl

structure Kept (g : Nat → Phase) (conn : Connection Database) : Prop where
  pending : ∀ i event, g i = .inside (some event) → event ∈ conn.data.events.rows
  committed : ∀ i event, g i = .done (some event) → conn.Holds (event ∈ ·.events.rows)

theorem Query.perform_events (hrollback : q ≠ .rollback)
    (hown : (Stmt.query q).isOwn) (hperform : q.perform w = .ok (rows, conn)) :
    ∀ event ∈ w.conn.data.events.rows, event ∈ conn.data.events.rows := by
  intro event hevent
  cases q with
  | commit =>
    obtain ⟨_, rfl⟩ := perform_commit hperform
    exact hevent
  | rollback => exact absurd rfl hrollback
  | other write => cases hown
  | insertDecision row =>
    rw [perform_insertDecision hperform]
    exact hevent
  | insertEvent input =>
    obtain ⟨hfree, rfl⟩ := perform_insertEvent hperform
    change event ∈ (w.conn.data.events.insert _).rows
    rw [Database.events_insert hfree]
    exact mem_append_left _ hevent
  | _ =>
    cases hperform
    exact hevent

theorem Query.insertEvent_mem
    (hperform : (Query.insertEvent input).perform w = .ok (eventId, conn)) :
    input.row eventId ∈ conn.data.events.rows := by
  obtain ⟨hfree, rfl⟩ := perform_insertEvent hperform
  change input.row eventId ∈ (w.conn.data.events.insert _).rows
  rw [Database.events_insert hfree]
  exact mem_append_right _ (mem_singleton_self _)

theorem Query.sound_holds (hown : (Stmt.query q).isOwn)
    (h : w.conn.Holds Database.Sound) (hrespects : isRespectful ⟨.query q, w⟩) :
    (q.connAfter w).Holds Database.Sound := by
  rcases q.outcome_cases w with ⟨why, houtcome, hconn⟩ | ⟨rows, conn, _, hperform, houtcome, hconn⟩
  · rw [hconn]
    exact h
  · rw [hconn]
    by_cases hcommit : q = .commit
    · subst hcommit
      obtain ⟨_, rfl⟩ := perform_commit hperform
      exact h.commit
    · by_cases hrollback : q = .rollback
      · subst hrollback
        obtain ⟨_, rfl⟩ := perform_rollback hperform
        exact h.rollback
      · have hq : q.respects w.conn.data := by
          rw [isRespectful] at hrespects
          dsimp only at hrespects
          rw [houtcome] at hrespects
          exact hrespects
        refine ⟨(sound_iff hcommit hrollback hown h.data hperform).mpr hq, ?_⟩
        rw [perform_saved hcommit hrollback hperform]
        exact h.saved

variable {e : Event sql World}

theorem sound_step (hown : e.stmt.isOwn)
    (h : e.before.conn.Holds Database.Sound) (hrespects : isRespectful e) :
    (World.conn e.after).Holds Database.Sound := by
  obtain ⟨c, w⟩ := e
  cases c with
  | begin_ =>
    rcases Stmt.begin_cases w with ⟨_, _, hconn⟩ | ⟨_, _, hconn⟩ | ⟨_, _, hconn⟩
    · exact hconn ▸ h
    · exact hconn ▸ h
    · exact hconn ▸ h.begin_
  | query q => exact q.sound_holds hown h hrespects

variable {g : Nat → Phase}

theorem Kept.moved (h : Kept g before)
    (hpending : ∀ j event, i ≠ j → g j = .inside (some event) → event ∈ conn.data.events.rows)
    (hcommitted : ∀ event, before.Holds (event ∈ ·.events.rows) →
      conn.Holds (event ∈ ·.events.rows))
    (hinside : ∀ event, transactionScript.see (g i) e.stmt (Store.answer e.stmt e.before) =
      .inside (some event) → event ∈ conn.data.events.rows)
    (hdone : ∀ event, transactionScript.see (g i) e.stmt (Store.answer e.stmt e.before) =
      .done (some event) → conn.Holds (event ∈ ·.events.rows)) : Kept (stepped g i e) conn := by
  refine ⟨?_, ?_⟩
  · intro j event hj
    rcases stepped_cases (P := (· = .inside (some event))) hj with ⟨rfl, hself⟩ | ⟨hij, hj⟩
    · exact hinside event hself
    · exact hpending j event hij hj
  · intro j event hj
    rcases stepped_cases (P := (· = .done (some event))) hj with ⟨rfl, hself⟩ | ⟨hij, hj⟩
    · exact hdone event hself
    · exact hcommitted event (h.committed j event hj)

theorem Kept.begin_ (h : Kept g w.conn) :
    Kept (stepped g i ⟨.begin_, w⟩) (Stmt.begin_.effect w).conn := by
  rcases Stmt.begin_cases w with ⟨_, hanswer, hconn⟩ | ⟨why, hanswer, hconn⟩ | ⟨_, hanswer, hconn⟩
  · rw [hconn]
    apply h.moved (fun j event _ => h.pending j event) fun _ => id
    · intro event hself
      have hself : (g i).begun (Stmt.begin_.answer w) = .inside (some event) := hself
      rw [hanswer] at hself
      cases hself
    · intro event hself
      have hself : (g i).begun (Stmt.begin_.answer w) = .done (some event) := hself
      rw [hanswer] at hself
      cases hself
  · rw [hconn]
    apply h.moved (fun j event _ => h.pending j event) fun _ => id
    · intro event hself
      have hself : (g i).begun (Stmt.begin_.answer w) = .inside (some event) := hself
      rw [hanswer] at hself
      exact h.pending i event hself
    · intro event hself
      have hself : (g i).begun (Stmt.begin_.answer w) = .done (some event) := hself
      rw [hanswer] at hself
      exact h.committed i event hself
  · rw [hconn]
    refine h.moved (fun j event _ => h.pending j event) (fun _ => Connection.Holds.begin_) ?_ ?_
    · intro event hself
      have hself : (g i).begun (Stmt.begin_.answer w) = .inside (some event) := hself
      rw [hanswer] at hself
      cases hself
    · intro event hself
      have hself : (g i).begun (Stmt.begin_.answer w) = .done (some event) := hself
      rw [hanswer] at hself
      cases hself

theorem see_performed (hcommit : q ≠ .commit)
    (hrollback : q ≠ .rollback) (hperform : q.perform w = .ok (rows, conn)) (g : Phase) :
    transactionScript.see g (.query q) (Except.ok rows) = g ∨ ∃ event ∈ conn.data.events.rows,
        transactionScript.see g (.query q) (Except.ok rows) = .inside (some event) := by
  cases q with
  | commit => exact absurd rfl hcommit
  | rollback => exact absurd rfl hrollback
  | insertEvent input =>
    have hmem := Query.insertEvent_mem hperform
    cases g with
    | inside event => exact .inr ⟨_, hmem, rfl⟩
    | _ => exact .inl rfl
  | _ => exact .inl rfl

theorem Kept.query (h : Kept g w.conn) (howned : Owned g w.conn)
    (hown : (Stmt.query q).isOwn) (hdue : transactionScript.due (g i) (.query q)) :
    Kept (stepped g i ⟨.query q, w⟩) (q.connAfter w) := by
  have hanswer : Store.answer (S := sql) (.query q) w = (q.outcome w).map Prod.fst := rfl
  rcases q.outcome_cases w with ⟨why, houtcome, hconn⟩ | ⟨rows, conn, _, hperform, houtcome, hconn⟩
  · have hsee : transactionScript.see (g i) (.query q) (Store.answer (S := sql) (.query q) w) =
        g i := by
      rw [hanswer, houtcome]
      exact see_refused (g i) q why
    rw [hconn]
    apply h.moved (fun j event _ => h.pending j event) fun _ => id
    · exact fun event hself => h.pending i event (hsee.symm.trans hself)
    · exact fun event hself => h.committed i event (hsee.symm.trans hself)
  · have hsee : transactionScript.see (g i) (.query q) (Store.answer (S := sql) (.query q) w) =
        transactionScript.see (g i) (.query q) (Except.ok rows) := by
      rw [hanswer, houtcome]
      rfl
    rw [hconn]
    by_cases hrollback : q = .rollback
    · subst hrollback
      obtain ⟨_, rfl⟩ := Query.perform_rollback hperform
      have hinside : (g i).isInside := hdue.2 (.inl rfl)
      have hnone : transactionScript.see (g i) (.query .rollback) (Except.ok rows) =
          .done none := by
        cases hg : g i with
        | inside event => rfl
        | _ =>
          rw [hg] at hinside
          cases hinside
      apply h.moved _ fun _ => Connection.Holds.rollback
      · intro event hself
        cases (hsee.trans hnone).symm.trans hself
      · intro event hself
        cases (hsee.trans hnone).symm.trans hself
      · intro j event hij hj
        exact absurd (howned.one i j hinside (by rw [hj]; rfl)) hij
    · have hevents := Query.perform_events hrollback hown hperform
      by_cases hcommit : q = .commit
      · subst hcommit
        obtain ⟨_, rfl⟩ := Query.perform_commit hperform
        have hinside : (g i).isInside := hdue.2 (.inl rfl)
        obtain ⟨written, hg⟩ : ∃ written, g i = .inside written := by
          cases hg : g i with
          | inside written => exact ⟨written, rfl⟩
          | _ =>
            rw [hg] at hinside
            cases hinside
        have hdone : transactionScript.see (g i) (.query .commit) (Except.ok rows) =
            .done written := by
          rw [hg]
          rfl
        refine h.moved (fun j event _ hj => hevents event (h.pending j event hj))
          (fun _ => Connection.Holds.commit) ?_ ?_
        · intro event hself
          cases (hsee.trans hdone).symm.trans hself
        · intro event hself
          obtain rfl := Phase.done.inj ((hsee.trans hdone).symm.trans hself)
          exact Connection.Holds.of_closed (hevents event (h.pending i event hg)) rfl
      · have hholds : ∀ event, w.conn.Holds (event ∈ ·.events.rows) →
            conn.Holds (event ∈ ·.events.rows) := by
          intro event hbefore
          refine ⟨hevents event hbefore.data, ?_⟩
          rw [Query.perform_saved hcommit hrollback hperform]
          exact hbefore.saved
        refine h.moved (fun j event _ hj => hevents event (h.pending j event hj)) hholds ?_ ?_
        · intro event hself
          rcases see_performed hcommit hrollback hperform (g i) with hsame | ⟨new, hnew, hinside⟩
          · exact hevents event (h.pending i event ((hsee.trans hsame).symm.trans hself))
          · cases (hsee.trans hinside).symm.trans hself
            exact hnew
        · intro event hself
          rcases see_performed hcommit hrollback hperform (g i) with hsame | ⟨new, hnew, hinside⟩
          · exact hholds event (h.committed i event ((hsee.trans hsame).symm.trans hself))
          · cases (hsee.trans hinside).symm.trans hself

theorem Kept.step (h : Kept g e.before.conn) (howned : Owned g e.before.conn) (hown : e.stmt.isOwn)
    (hdue : transactionScript.due (g i) e.stmt) : Kept (stepped g i e) (World.conn e.after) := by
  obtain ⟨c, w⟩ := e
  cases c with
  | begin_ => exact h.begin_
  | query q => exact h.query howned hown hdue

def Stmt.isPlain : Stmt → Bool
  | .begin_ => false
  | .query q => !q.isEnd && !q.isBody

theorem query_then {P : Stmt → Prop} {R : β → Prop} {f : q.Rows → Prog β} (h : P (.query q))
    (hf : ∀ rows, (f rows).Meets P R) : ((query q).bind f).Meets P R := by
  refine ⟨h, fun (answer : Except String q.Rows) => ?_⟩
  cases answer with
  | ok rows => exact hf rows
  | error _ => trivial

theorem begin_then (h : P .begin_)
    (hf : (f ()).Meets P fun _ => True) : (begin_.bind f).Meets P fun _ => True := by
  refine ⟨h, fun (answer : BeginAnswer) => ?_⟩
  cases answer with
  | begun => exact hf
  | _ => trivial

theorem recordDecideTransaction_own (input : RecordDecideInput) :
    (recordDecideTransaction input).Meets (fun c : Stmt => c.isOwn) fun _ => True := by
  refine query_then (by rfl) fun decision => ?_
  cases (decision : Option DecisionRow) with
  | none => trivial
  | some row =>
    refine query_then (by rfl) fun existing => ?_
    cases (existing : Option DecisionEventRow) with
    | some existing => trivial
    | none =>
      refine begin_then (by rfl) (Program.Meets.tryCatch ?_ fun e => ⟨rfl, fun _ => trivial⟩)
      refine query_then (by rfl) fun _ => ?_
      refine query_then (by rfl) fun _ => ?_
      exact query_then (by rfl) fun _ => trivial

theorem recordDecisionActionTransaction_plain (input : RecordActionInput) :
    (recordDecisionActionTransaction input).Meets (fun c : Stmt => c.isPlain ∧ c.isOwn)
      fun _ => True := by
  refine query_then (by exact ⟨rfl, rfl⟩) fun decision => ?_
  cases (decision : Option DecisionRow) with
  | none => trivial
  | some decision =>
    dsimp only
    split
    · trivial
    · refine query_then (by exact ⟨rfl, rfl⟩) fun events => ?_
      cases input.byKey (events : List DecisionEventRow) with
      | some found => trivial
      | none => exact query_then (by exact ⟨rfl, rfl⟩) fun _ => trivial

theorem ingestDecisionsFromMarkdown_plain (source : ParsedSource) :
    (ingestDecisionsFromMarkdown source).Meets (fun c : Stmt => c.isPlain ∧ c.isOwn)
      fun _ => True := by
  apply Program.Meets.fold
  intro result row _
  have hupsert : (upsertDecision row).Meets (fun c : Stmt => c.isPlain ∧ c.isOwn)
      fun _ => True := by
    refine query_then (by exact ⟨rfl, rfl⟩) fun existing => ?_
    cases (existing : Option DecisionRow) with
    | none => exact query_then (by exact ⟨rfl, rfl⟩) fun _ => trivial
    | some _ => exact query_then (by exact ⟨rfl, rfl⟩) fun _ => trivial
  exact hupsert.bind fun _ _ => trivial

variable (call : DecisionCall)

theorem DecisionCall.own : call.prog.Meets (fun c : Stmt => c.isOwn) fun _ => True := by
  cases call with
  | decide input => exact (recordDecideTransaction_own input).bind fun _ _ => trivial
  | action input =>
    have hown := (recordDecisionActionTransaction_plain input).mono (fun c h => h.2) fun _ h => h
    exact hown.bind fun _ _ => trivial
  | ingest source =>
    have hown := (ingestDecisionsFromMarkdown_plain source).mono (fun c h => h.2) fun _ h => h
    exact hown.bind fun _ _ => trivial

def DecisionCall.Ends (r : Except SqlError DecisionAnswer) (g : Phase) : Prop :=
  ∀ input eventId, call = .decide input → r = .ok (.decide (.recorded eventId)) →
    g = .done (some (input.decidedEvent.row eventId))

theorem plain_keeps {p : Prog α} (h : p.Meets (fun c : Stmt => c.isPlain ∧ c.isOwn) fun _ => True) :
    p.keeps transactionScript (fun _ _ => True) .outside := by
  have hstep : ∀ g (c : Stmt), g = Phase.outside → c.isPlain ∧ c.isOwn →
      transactionScript.due g c ∧ ∀ a, transactionScript.see g c a = .outside := by
    rintro _ c rfl ⟨hplain, _⟩
    cases c with
    | begin_ => cases hplain
    | query q =>
      have hq : q.isEnd = false ∧ q.isBody = false := by simpa [Stmt.isPlain] using hplain
      refine ⟨due_outside hq.1 hq.2, fun answer => ?_⟩
      cases q with
      | commit => cases hq.1
      | rollback => cases hq.1
      | _ => rfl
  exact Program.keeps_mono (h.keeps (J := fun g => g = Phase.outside) rfl hstep)
    fun _ _ _ => trivial

theorem DecisionCall.keeps : call.prog.keeps transactionScript call.Ends .outside := by
  cases call with
  | decide input =>
    apply Program.keeps_seq (recordDecideTransaction_keeps input)
    · intro result g h input' eventId hcall hr
      cases hcall
      cases hr
      exact h.2 eventId rfl
    · intro e g h input' eventId hcall hr
      cases hr
  | action input =>
    have hkeeps := plain_keeps ((recordDecisionActionTransaction_plain input).bind
      (f := fun result => .ret (DecisionAnswer.action result)) fun _ _ => trivial)
    apply Program.keeps_mono hkeeps
    intro r g _ input' eventId hcall
    cases hcall
  | ingest source =>
    have hkeeps := plain_keeps ((ingestDecisionsFromMarkdown_plain source).bind
      (f := fun result => .ret (DecisionAnswer.ingest result)) fun _ _ => trivial)
    apply Program.keeps_mono hkeeps
    intro r g _ input' eventId hcall
    cases hcall

theorem record_meets (input : RecordActionInput) : input.record.Meets (fun _ => True) fun result =>
      result ≠ .notFound ∧ ∀ status, result ≠ .requiresDecision status := by
  refine query_then (by trivial) fun events => ?_
  cases input.byKey (events : List DecisionEventRow) with
  | some found =>
    change input.usedKeyResult found ≠ _ ∧ _
    rw [RecordActionInput.usedKeyResult]
    split
    · simp
    · simp
  | none =>
    refine query_then (by trivial) fun (eventId : String) => ?_
    simp

theorem action_refused {input : RecordActionInput} {result : RecordActionResult}
    {es : List (Event sql World)}
    (h : Leads (DecisionCall.action input).prog (es.map Event.observed) (.ret (.action result)))
    (hresult : result = .notFound ∨ ∃ status, result = .requiresDecision status) :
    ∃ w, ⟨.query (.getDecisionById input.decisionId), w⟩ ∈ es ∧
      ∀ row, w.conn.data.decisions.get? input.decisionId = some row → row.status ≠ .resolved := by
  obtain ⟨w, fs, rfl, hk⟩ := Leads.issue_events h rfl
  refine ⟨w, mem_cons_self, ?_⟩
  intro row hrow hstatus
  have hread : Leads (Program.bind (Program.bind (ofAnswer (((Query.getDecisionById
    input.decisionId).outcome w).map Prod.fst)) _) _) _ _ := hk
  rcases Query.outcome_cases (.getDecisionById input.decisionId) w with ⟨why, houtcome, _⟩ |
    ⟨rows, conn, _, hperform, houtcome, _⟩
  · rw [houtcome] at hread
    cases hread.of_throw.2
  · cases hperform
    rw [houtcome, hrow] at hread
    have hrest : Leads (Program.bind (if row.status ≠ .resolved then
      .ret (.requiresDecision row.status) else input.record) fun result =>
        .ret (DecisionAnswer.action result)) _ _ := hread
    rw [if_neg (not_not.mpr hstatus)] at hrest
    obtain ⟨⟨r, hr, hfound, hdecided⟩, _⟩ := hrest.meets
      ((record_meets input).bind (T := fun a : DecisionAnswer => ∃ r, a = .action r ∧
        r ≠ .notFound ∧ ∀ status, r ≠ .requiresDecision status) fun r hr => ⟨r, rfl, hr⟩)
    cases hr
    rcases hresult with rfl | ⟨status, rfl⟩
    · exact hfound rfl
    · exact hdecided status rfl

namespace DecisionRun
variable {run : DecisionRun}

theorem program {i : Nat} {call : DecisionCall} (hcall : run.calls[i]? = some call) :
    run.programs[i]? = some call.prog := by
  rw [programs, getElem?_map, hcall]
  rfl

theorem keeps (run : DecisionRun) : ∀ (i : Nat) (p : Prog DecisionAnswer),
    run.programs[i]? = some p → p.keeps transactionScript
      (fun r g => ∀ call : DecisionCall, run.calls[i]? = some call → call.Ends r g) .outside := by
  intro i p hp
  rw [programs, getElem?_map, Option.map_eq_some_iff] at hp
  obtain ⟨call, hcall, rfl⟩ := hp
  apply Program.keeps_mono call.keeps
  intro r g hends call' hcall'
  obtain rfl := Option.some.inj (hcall.symm.trans hcall')
  exact hends

theorem own (run : DecisionRun) (is : List Nat) :
    ∀ x ∈ interleaveEvents is run.programs run.start, x.2.stmt.isOwn := by
  have hmeets : ∀ (i : Nat) (p : Prog DecisionAnswer), run.programs[i]? = some p →
      p.Meets (fun c : Stmt => c.isOwn) fun _ => True := by
    intro i p hp
    rw [programs, getElem?_map, Option.map_eq_some_iff] at hp
    obtain ⟨call, _, rfl⟩ := hp
    exact call.own
  exact interleaveEvents_meet (S := sql) (Q := fun _ (c : Stmt) => c.isOwn) (R := fun _ => True)
    is run.start hmeets

structure Inv (es : List (Nat × Event sql World)) (w : World) : Prop where
  owned : Owned (phases es) w.conn
  kept : Kept (phases es) w.conn
  sound : w.conn.Holds Database.Sound

theorem inv_start (run : DecisionRun) : Inv [] run.start := by
  refine ⟨Owned.of_closed fun _ => rfl, ⟨?_, ?_⟩, .of_closed run.sound run.closed⟩
  · intro i event h
    cases h
  · intro i event h
    cases h

theorem Respectful.inv_step (h : run.Respectful) :
    ∀ es i e fs, interleaveEvents run.schedule run.programs run.start = es ++ (i, e) :: fs →
      Inv es e.before → Inv (es ++ [(i, e)]) e.after := by
  intro es i e fs hsplit hinv
  have hmem : (i, e) ∈ interleaveEvents run.schedule run.programs run.start := by
    rw [hsplit]
    exact mem_append_right _ mem_cons_self
  have hown := run.own run.schedule _ hmem
  have hdue := interleave_keeps (g := fun _ => Phase.outside) run.schedule run.start run.keeps
    es i e fs hsplit
  refine ⟨?_, ?_, sound_step hown hinv.sound (h _ hmem)⟩
  · rw [phases_concat]
    exact hinv.owned.step hdue
  · rw [phases_concat]
    exact hinv.kept.step hinv.owned hown hdue

theorem Respectful.inv (h : run.Respectful) (n : Nat) : Inv (run.events n) (run.pool n).2 :=
  interleave_invariant_take (I := Inv) run.schedule run.start run.inv_start h.inv_step n

theorem Respectful.inv_event (h : run.Respectful) (hx : (i, e) ∈ run.events n) :
    ∃ es, Inv es e.before := by
  obtain ⟨es, fs, hsplit⟩ := append_of_mem (mem_interleaveEvents_of_take n hx)
  exact ⟨es, (interleave_invariant (I := Inv) run.schedule run.start run.inv_start h.inv_step).2
    es i e fs hsplit⟩

theorem Respectful.recorded (h : run.Respectful) (hcall : run.calls[i]? = some (.decide input))
    (ha : run.Answers n i (.decide (.recorded eventId))) :
    input.decidedEvent.row eventId ∈ (run.contents n).decidedEvents input.decisionId := by
  have hends := interleave_ends (g := fun _ => Phase.outside) (run.schedule.take n) run.start
    run.keeps i _ ha
  have hphase := hends _ hcall input eventId rfl rfl
  have hmem := ((h.inv n).kept.committed i _ hphase).data
  exact Database.mem_decidedEvents.mpr ⟨hmem, rfl, rfl⟩

theorem Respectful.staysMade (h : run.Respectful) : run.StaysMade := by
  refine ⟨fun n => (h.inv n).sound.data, ?_, ?_⟩
  · intro n i input result hcall ha hresult
    obtain ⟨q, hq, hleads⟩ := interleave_leads (run.schedule.take n) run.start (program hcall)
    obtain rfl := Option.some.inj (ha.symm.trans hq)
    obtain ⟨w, hw, hrefused⟩ := action_refused hleads hresult
    refine ⟨w, mem_eventsOf.mp hw, ?_⟩
    obtain ⟨es, hinv⟩ := h.inv_event (mem_eventsOf.mp hw)
    rw [eq_nil_iff_forall_not_mem]
    intro event hevent
    obtain ⟨row, hrow, hstatus, _⟩ := hinv.sound.data.shown _ event hevent
    rw [(Database.mem_decidedEvents.mp hevent).2.1] at hrow
    exact hrefused row hrow hstatus
  · intro n i j a b eventId eventId' ha hb hsame hrecorded hrecorded'
    have hfirst := h.recorded ha hrecorded
    have hsecond := h.recorded hb hrecorded'
    rw [← hsame] at hsecond
    have heq := (h.inv n).sound.data.once _ _ hfirst _ hsecond
    have hoption := congrArg (fun e => e.payload.selectedOptionId) heq
    exact Option.some.inj hoption

end DecisionRun

namespace DecisionRun
variable {run : DecisionRun}

theorem contents_of_event
    (hsplit : interleaveEvents run.schedule run.programs run.start = es ++ (i, e) :: fs) :
    ∃ n, run.contents n = e.before.conn.data ∧
      run.contents (n + 1) = (World.conn e.after).data := by
  obtain ⟨n, _, hbefore, _, hafter⟩ := interleave_moment hsplit
  refine ⟨n, ?_, ?_⟩
  · exact congrArg (fun w => (World.conn w).data) hbefore
  · exact congrArg (fun w => (World.conn w).data) hafter

theorem StaysMade.respectful (h : run.StaysMade) : run.Respectful := by
  rintro ⟨i, e⟩ hx
  obtain ⟨es, fs, hsplit⟩ := append_of_mem hx
  obtain ⟨n, hbefore, hafter⟩ := contents_of_event hsplit
  have hsoundBefore := hbefore ▸ h.sound n
  have hsoundAfter := hafter ▸ h.sound (n + 1)
  obtain ⟨c, w⟩ := e
  cases c with
  | begin_ => rfl
  | query q =>
    have hown : (Stmt.query q).isOwn := run.own run.schedule _ hx
    rw [isRespectful]
    dsimp only
    rcases q.outcome_cases w with ⟨why, houtcome, _⟩ | ⟨rows, conn, _, hperform, houtcome, hconn⟩
    · rw [houtcome]
      rfl
    · rw [houtcome]
      have hconn : (World.conn (Event.after (⟨.query q, w⟩ : Event sql World))) = conn := hconn
      rw [hconn] at hsoundAfter
      by_cases hcommit : q = .commit
      · subst hcommit
        rfl
      · by_cases hrollback : q = .rollback
        · subst hrollback
          rfl
        · exact (Query.sound_iff hcommit hrollback hown hsoundBefore hperform).mp hsoundAfter

end DecisionRun

/-- A decision made stays made exactly when every write respects the decided event it finds. -/
theorem staysMade_iff (run : DecisionRun) : run.StaysMade ↔ run.Respectful :=
  ⟨fun h => h.respectful, fun h => h.staysMade⟩

def openSource : ParsedSource where
  sha256 _ := "0123456789abcdef"
  sourcePath := "decisions.md"
  now := "2026-06-10T00:00:00.000Z"
  resolved := []
  open_ := [{ displayId := "#30", oneLine := "Open question", summaryStatus := "open" }]

def openRows : List DecisionRow := openSource.open_.map openSource.buildOpenRow

theorem closed_openRows :
    ({ conn := { data := { decisions := .ofRows openRows } } } : World).conn.saved = none := rfl

theorem sound_openRows : Database.Sound { decisions := .ofRows openRows } := by
  have hnone : ∀ k, Database.decidedEvents { decisions := .ofRows openRows } k = [] := fun k => rfl
  refine ⟨?_, ?_⟩
  · intro k e he
    rw [hnone] at he
    cases he
  · intro k e he
    rw [hnone] at he
    cases he

def reopened : DecisionRun where
  calls := [
    .decide {
      decisionId := "dec_0123456789abcdef", selectedOptionId := "yes", idempotencyKey := "k1"
      now := "2026-06-10T00:01:00.000Z" },
    .ingest openSource,
    .action {
      decisionId := "dec_0123456789abcdef", action := .createDispatch, idempotencyKey := "k2"
      now := "2026-06-10T00:20:00.000Z" }]
  schedule := [0, 0, 0, 0, 0, 0, 1, 1, 2]
  start := { conn := { data := { decisions := .ofRows openRows } } }
  closed := closed_openRows
  sound := sound_openRows

/-- The ingest sets the decided decision to open, and the follow-up action is refused. -/
theorem not_staysMade : ¬ ∀ run : DecisionRun, run.StaysMade := by
  intro h
  exact absurd (h reopened).respectful (by decide +kernel)

end IdAgents.Decisions
