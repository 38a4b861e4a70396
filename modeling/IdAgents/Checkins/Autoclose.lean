import Mathlib.Data.List.Perm.Basic
import IdAgents.Library.Rely
import IdAgents.Checkins.Service

namespace IdAgents.Checkins
open JsText KeyedTable AtomicProgram List

structure CheckinDraft where
  id : String
  teamId : String
  ownerAgentId : Option String
  linkedTaskId : Option String
  intervalSeconds : Int
  priority : CheckinPriority
  maxIterations : Option { n : Int // 0 < n }
  ttlExpiresAt : Option Int
  snoozeUntil : Option Int
  nowMs : Int

def CheckinDraft.row (draft : CheckinDraft) : CheckinRow where
  id := draft.id
  teamId := draft.teamId
  ownerAgentId := draft.ownerAgentId
  linkedTaskId := draft.linkedTaskId
  intervalSeconds := draft.intervalSeconds
  priority := draft.priority
  status := if draft.snoozeUntil.isSome then .snoozed else .active
  maxIterations := draft.maxIterations.map Subtype.val
  iterationCount := 0
  nextFireAt := some (draft.snoozeUntil.getD (draft.nowMs + draft.intervalSeconds * 1000))
  snoozeUntil := draft.snoozeUntil
  ttlExpiresAt := draft.ttlExpiresAt
  lastFireAt := none
  lastEventSeq := none
  updatedAt := draft.nowMs
  closedAt := none
  closedReason := none

inductive Reply where
  | ticked (result : TickResult)
  | created
  | closed (alreadyClosed : Bool) (row : CheckinRow) (ownerName : Option String)
  | snoozed (row : CheckinRow) (ownerName : Option String)
  | linkedClosed (result : CloseLinkedCheckinsResult)
  | refused (status : Nat) (error : String)

def create (draft : CheckinDraft) (announced : Bool) : Prog Reply :=
  (createCheckin draft.row).bind fun _ =>
    if announced then
      ((recordCheckinCreated draft.row draft.ownerAgentId draft.nowMs).bind
        fun _ => .ret .created).tryCatch fun _ => .ret .created
    else .ret .created

/-- `POST /checkins/:id/close` -/
def closeRoute (id teamId : String) (reason : Option String) : Prog Reply :=
  (issue .clock).bind fun (closedAt : Int) =>
  (closeCheckin id teamId closedAt ((truthy reason).getD "manual")).bind fun transitioned =>
  (issue (.get id teamId)).bind fun (row : Option CheckinRow) =>
    match row with
    | none => .ret (.refused 404 "checkin_not_found")
    | some row => (resolveAgentName row.ownerAgentId).bind fun ownerName =>
      .ret (.closed (!transitioned) row ownerName)

def snoozedFields (snoozeUntil nowMs : Int) : MutableCheckinFields where
  status := some .snoozed
  snoozeUntil := some (some snoozeUntil)
  nextFireAt := some (some snoozeUntil)
  updatedAt := nowMs

def snoozeRow (id teamId : String) (seconds : Int) : Prog Reply :=
  (issue .clock).bind fun (nowMs : Int) =>
  (updateFields id teamId (snoozedFields (nowMs + seconds * 1000) nowMs)).bind fun _ =>
  (issue (.get id teamId)).bind fun (row : Option CheckinRow) =>
    match row with
    | none => .throw "Cannot read properties of null (reading 'owner_agent_id')"
    | some row => (resolveAgentName row.ownerAgentId).bind fun ownerName =>
      .ret (.snoozed row ownerName)

/-- `POST /checkins/:id/snooze`, its duration parsed. -/
def snoozeRoute (id teamId : String) (seconds : Int) : Prog Reply :=
  (issue (.get id teamId)).bind fun (existing : Option CheckinRow) =>
    match existing with
    | none => .ret (.refused 404 "checkin_not_found")
    | some existing =>
      if existing.status.isTerminal then .ret (.refused 409 "checkin_terminal")
      else snoozeRow id teamId seconds

inductive Call where
  | tick (opts : CheckinServiceOptions) (now : Int)
  | create (draft : CheckinDraft) (announced : Bool)
  | close (id teamId : String) (reason : Option String)
  | snooze (id teamId : String) (seconds : Int)
  | taskTerminal (input : CloseLinkedCheckinsInput)

def Call.prog : Call → Prog Reply
  | tick opts now => (Checkins.tick opts now).bind fun result => .ret (.ticked result)
  | create draft announced => Checkins.create draft announced
  | close id teamId reason => closeRoute id teamId reason
  | snooze id teamId seconds => snoozeRoute id teamId seconds
  | taskTerminal input =>
    (closeLinkedCheckinsForTerminalTask input).bind fun result => .ret (.linkedClosed result)

structure CheckinRun where
  calls : List Call
  start : World
  schedule : List Nat

namespace CheckinRun

variable (run : CheckinRun)

def threads : List (Prog Reply) := run.calls.map Call.prog

/-- The database after the first `n` steps. -/
def after (n : Nat) : World :=
  (interleave (run.schedule.take n) run.threads run.start).2

def final : World := (interleave run.schedule run.threads run.start).2

def events : List (Nat × Event sql World) :=
  interleaveEvents run.schedule run.threads run.start

def steps (i : Nat) : List (Event sql World) := eventsOf i run.events

def thread (i : Nat) : Option (Prog Reply) :=
  (interleave run.schedule run.threads run.start).1[i]?

theorem thread_leads {run : CheckinRun} {call : Call} (h : run.calls[i]? = some call) :
    ∃ q, run.thread i = some q ∧ Leads call.prog ((run.steps i).map Event.observed) q := by
  apply interleave_leads run.schedule run.start
  simp [threads, h]

end CheckinRun
section
variable (e : Event sql World)

def refused : Bool :=
  match (e.stmt : Stmt) with
  | .insertEvent _ => (e.before.env.refuses e.before.step).isSome
  | _ => false

/-- The ids of the rows that the statement of an auto-close moves to `closed`. -/
def movedBy : List String :=
  match (e.stmt : Stmt) with
  | c@(.closeForTerminalTask ..) => (e.before.checkins.found (c.sweep e.before)).map (·.id)
  | _ => []

/-- The event that a statement adds to `event_log`. -/
def emittedBy : Option EventEntry :=
  match (e.stmt : Stmt) with
  | .insertEvent event => if refused e then none else some event
  | _ => none

end

def moved (es : List (Event sql World)) : List String := es.flatMap movedBy

def emitted (es : List (Event sql World)) : List EventEntry := es.filterMap emittedBy

def EventEntry.closing (event : EventEntry) : Option String :=
  if event.topic = checkinClosed &&
      event.data.strField? "reason" = some linkedTaskTerminalReason then event.subjectId
  else none

@[simp] theorem closing_closedEvent (input : CloseLinkedCheckinsInput) (row : CheckinRow) :
    (checkinClosedEvent (input.closedInput row)).closing = some row.id := by
  simp [EventEntry.closing, checkinClosedEvent, checkinEvent, Json.strField?, Json.field?,
    CloseLinkedCheckinsInput.closedInput]

/-- A call of `closeLinkedCheckinsForTerminalTask` among others, when it is over. -/
structure AutoClose where
  run : CheckinRun
  index : Nat
  input : CloseLinkedCheckinsInput
  called : run.calls[index]? = some (.taskTerminal input)
  ended : ∃ q, run.thread index = some q ∧ q.ended

namespace AutoClose

def steps (call : AutoClose) : List (Event sql World) := call.run.steps call.index

def Returned (call : AutoClose) (result : CloseLinkedCheckinsResult) : Prop :=
  call.run.thread call.index = some (.ret (.linkedClosed result))

end AutoClose

def AccountsForRows (call : AutoClose) : Prop :=
  ((emitted call.steps).map EventEntry.closing).Perm ((moved call.steps).map some) ∧
    ∃ result, call.Returned result ∧ result.closed = (moved call.steps).length ∧
      result.closed = result.eventSeqs.length

def CloseLinkedCheckinsInput.openRows (input : CloseLinkedCheckinsInput) (w : World) :
    List CheckinRow :=
  w.checkins.rows.filter fun row =>
    row.linkedTaskId = some input.taskId && row.teamId = input.teamId && !row.status.isTerminal

def CloseLinkedCheckinsInput.update (input : CloseLinkedCheckinsInput) : Stmt :=
  .closeForTerminalTask input.taskId input.teamId input.occurredAt linkedTaskTerminalReason

structure Uninterrupted (input : CloseLinkedCheckinsInput) (es : List (Event sql World)) : Prop where
  taken : ∀ e ∈ es, refused e = false
  same : ∀ l u, ⟨.list input.filters, l⟩ ∈ es → ⟨input.update, u⟩ ∈ es →
    ∀ id, id ∈ (input.openRows u).map (·.id) ↔
      id ∈ (input.filters.run l.checkins.rows).map (·.id)

@[simp] theorem moved_append (es fs : List (Event sql World)) :
    moved (es ++ fs) = moved es ++ moved fs := flatMap_append

@[simp] theorem emitted_append (es fs : List (Event sql World)) :
    emitted (es ++ fs) = emitted es ++ emitted fs := filterMap_append

def Stmt.records : Stmt → Bool
  | .insertEvent _ | .updateFields .. => true
  | _ => false

structure Recorded (input : CloseLinkedCheckinsInput) (rows : List CheckinRow)
    (es : List (Event sql World)) : Prop where
  emitted : emitted es = rows.map fun row => checkinClosedEvent (input.closedInput row)
  records : ∀ e ∈ es, Stmt.records e.stmt
  taken : ∀ e ∈ es, refused e = false

variable {input : CloseLinkedCheckinsInput}

theorem Recorded.append (h : Recorded input rows es)
    (h' : Recorded input rows' fs) : Recorded input (rows ++ rows') (es ++ fs) where
  emitted := by rw [emitted_append, h.emitted, h'.emitted, map_append]
  records e he := (mem_append.mp he).elim (h.records e) (h'.records e)
  taken e he := (mem_append.mp he).elim (h.taken e) (h'.taken e)

theorem Recorded.moved (h : Recorded input rows es) : moved es = [] := by
  apply flatMap_eq_nil_iff.mpr
  rintro ⟨c, w⟩ he
  have hrecords := h.records _ he
  cases c with
  | closeForTerminalTask => cases hrecords
  | _ => rfl

theorem emit_steps (h : Leads ((emit event).bind f) (es.map Event.observed) q) (hq : q.ended) :
    (∃ w fs seq, es = ⟨.insertEvent event, w⟩ :: fs ∧ refused ⟨.insertEvent event, w⟩ = false ∧
      Leads (f seq) (fs.map Event.observed) q) ∨ ∃ e, q = .throw e ∧ ∃ f ∈ es, refused f := by
  obtain ⟨w, fs, rfl, hk⟩ := Leads.issue_events h hq
  cases hrefuses : w.env.refuses w.step with
  | some e =>
    have hanswer : Store.answer (S := sql) (.insertEvent event) w = Except.error e := by
      change Stmt.answer (.insertEvent event) w = _
      simp only [Stmt.answer, hrefuses]
      rfl
    rw [hanswer] at hk
    obtain ⟨_, rfl⟩ := hk.of_throw
    refine .inr ⟨e, rfl, _, mem_cons_self, ?_⟩
    simp [refused, hrefuses]
  | none =>
    have hanswer : Store.answer (S := sql) (.insertEvent event) w = Except.ok (w.lastSeq + 1) := by
      change Stmt.answer (.insertEvent event) w = _
      simp only [Stmt.answer, hrefuses]
      rfl
    rw [hanswer] at hk
    refine .inl ⟨w, fs, _, rfl, ?_, hk⟩
    simp [refused, hrefuses]

theorem recordRow_steps (h : Leads (input.recordRow seqs row) (es.map Event.observed) q)
    (hq : q.ended) : (∃ seq, q = .ret (seqs ++ [seq]) ∧ Recorded input [row] es) ∨
      ∃ e, q = .throw e ∧ ∃ f ∈ es, refused f := by
  have hemit : input.recordRow seqs row =
      (emit (checkinClosedEvent (input.closedInput row))).bind fun seq =>
        (updateFields row.id row.teamId
          { lastEventSeq := some (some seq), updatedAt := input.occurredAt }).bind
            fun _ => .ret (seqs ++ [seq]) := by
    unfold CloseLinkedCheckinsInput.recordRow recordCheckinClosed recordEvent emitCheckinClosed
    simp only [Program.bind_assoc]
    rfl
  rw [hemit] at h
  rcases emit_steps h hq with ⟨w, fs, seq, rfl, htaken, h⟩ | hthrow
  · obtain ⟨u, gs, rfl, hk⟩ := Leads.issue_events h hq
    obtain ⟨hgs, rfl⟩ := hk.of_ret
    obtain rfl := map_eq_nil_iff.mp hgs
    refine .inl ⟨seq, rfl, ?_, ?_, ?_⟩
    · simp [emitted, emittedBy, htaken]
    · simp [Stmt.records]
    · simpa using ⟨htaken, rfl⟩
  · exact .inr hthrow

theorem recordRows_steps (h : Leads (Program.fold rows seqs input.recordRow)
      (es.map Event.observed) q) (hq : q.ended) :
    (∃ seqs', q = .ret seqs' ∧ seqs'.length = seqs.length + rows.length ∧
      Recorded input rows es) ∨ ∃ e, q = .throw e ∧ ∃ f ∈ es, refused f := by
  induction rows generalizing seqs es with
  | nil =>
    obtain ⟨hes, rfl⟩ := h.of_ret
    obtain rfl := map_eq_nil_iff.mp hes
    exact .inl ⟨seqs, rfl, rfl, rfl, by simp, by simp⟩
  | cons row rows ih =>
    rcases h.bind_cases hq with ⟨seqs₁, os₁, os₂, hsplit, h₁, h₂⟩ | ⟨e, rfl, h₁⟩
    · obtain ⟨es₁, es₂, rfl, rfl, rfl⟩ := map_eq_append_iff.mp hsplit
      rcases recordRow_steps h₁ rfl with ⟨seq, hret, hrecorded⟩ | ⟨e, hthrow, _⟩
      · obtain rfl : seqs₁ = seqs ++ [seq] := by injection hret
        rcases ih h₂ with ⟨seqs', hq', hlength, hrest⟩ | ⟨e, hthrow, f, hf, hrefused⟩
        · refine .inl ⟨seqs', hq', ?_, hrecorded.append hrest⟩
          rw [hlength, length_append, length_cons, length_cons, length_nil]
          omega
        · exact .inr ⟨e, hthrow, f, mem_append_right _ hf, hrefused⟩
      · cases hthrow
    · rcases recordRow_steps h₁ rfl with ⟨seq, hret, _⟩ | hthrow
      · cases hret
      · obtain ⟨e', hthrow, hrefused⟩ := hthrow
        exact .inr ⟨e, rfl, hrefused⟩

inductive Course (input : CloseLinkedCheckinsInput) :
    List (Event sql World) → Prog CloseLinkedCheckinsResult → Prop
  | nothing (l : World) (h : input.filters.run l.checkins.rows = []) :
      Course input [⟨.list input.filters, l⟩] (.ret ⟨0, []⟩)
  | closes (l u : World) (h : Recorded input (input.filters.run l.checkins.rows) fs)
      (hlength : seqs.length = (input.filters.run l.checkins.rows).length) :
      Course input (⟨.list input.filters, l⟩ :: ⟨input.update, u⟩ :: fs)
        (.ret ⟨(input.openRows u).length, seqs⟩)
  | fails (h : ∃ e ∈ es, refused e) : Course input es (.throw e)

theorem closeLinked_course
    (h : Leads (closeLinkedCheckinsForTerminalTask input) (es.map Event.observed) q)
    (hq : q.ended) : Course input es q := by
  obtain ⟨l, fs, rfl, hk⟩ := Leads.issue_events h hq
  change Leads (if (input.filters.run l.checkins.rows).isEmpty then _ else _) _ _ at hk
  by_cases hempty : (input.filters.run l.checkins.rows).isEmpty
  · rw [if_pos hempty] at hk
    obtain ⟨hfs, rfl⟩ := hk.of_ret
    obtain rfl := map_eq_nil_iff.mp hfs
    exact .nothing l (isEmpty_iff.mp hempty)
  · rw [if_neg hempty] at hk
    obtain ⟨u, gs, rfl, hupdated⟩ := Leads.issue_events hk hq
    have hloop : Leads ((Program.fold (input.filters.run l.checkins.rows) [] input.recordRow).bind
        fun eventSeqs => .ret ⟨(input.openRows u).length, eventSeqs⟩) (gs.map Event.observed) q :=
      hupdated
    rcases hloop.bind_cases hq with ⟨seqs, os₁, os₂, hsplit, h₁, h₂⟩ | ⟨e, rfl, h₁⟩
    · obtain ⟨es₁, es₂, rfl, rfl, rfl⟩ := map_eq_append_iff.mp hsplit
      obtain ⟨hes, rfl⟩ := h₂.of_ret
      obtain rfl := map_eq_nil_iff.mp hes
      rcases recordRows_steps h₁ rfl with ⟨seqs', hret, hlength, hrecorded⟩ | ⟨e, hthrow, _⟩
      · obtain rfl : seqs = seqs' := by injection hret
        rw [append_nil]
        exact .closes l u hrecorded (by simpa using hlength)
      · cases hthrow
    · rcases recordRows_steps h₁ rfl with ⟨seqs', hret, _⟩ | ⟨e', _, f, hf, hrefused⟩
      · cases hret
      · exact .fails ⟨f, by simp [hf], hrefused⟩

theorem listing_nodup (filters : CheckinFilters) (t : Table CheckinRow) :
    ((filters.run t.rows).map (·.id)).Nodup := by
  have hfilter : ((t.rows.filter filters.selects).map (·.id)).Nodup :=
    t.key_nodup.sublist (filter_sublist.map _)
  rw [CheckinFilters.run]
  apply List.Nodup.sublist ((take_sublist _ _).map _)
  exact ((perm_insertionSort _ _).map _).nodup_iff.mpr hfilter

theorem openRows_nodup (input : CloseLinkedCheckinsInput) (w : World) :
    ((input.openRows w).map (·.id)).Nodup :=
  w.checkins.key_nodup.sublist (filter_sublist.map _)

theorem AutoClose.course (call : AutoClose) :
    (∃ result, call.Returned result ∧ Course call.input call.steps (.ret result)) ∨
      ((∀ result, ¬ call.Returned result) ∧ ∃ e ∈ call.steps, refused e) := by
  obtain ⟨q, hthread, hq⟩ := call.ended
  obtain ⟨q', hthread', hleads⟩ := CheckinRun.thread_leads call.called
  obtain rfl := Option.some.inj (hthread.symm.trans hthread')
  rcases hleads.bind_cases hq with ⟨result, os₁, os₂, hsplit, h₁, h₂⟩ | ⟨e, rfl, h₁⟩
  · obtain ⟨rfl, rfl⟩ := h₂.of_ret
    rw [append_nil] at hsplit
    rw [← hsplit] at h₁
    exact .inl ⟨result, hthread, closeLinked_course h₁ rfl⟩
  · refine .inr ⟨fun result hreturned => ?_, ?_⟩
    · cases hthread.symm.trans hreturned
    · have hcourse := closeLinked_course h₁ rfl
      change ∃ e ∈ call.run.steps call.index, refused e
      generalize call.run.steps call.index = es at hcourse
      cases hcourse with
      | fails h => exact h

theorem Recorded.unique (h : Recorded input rows fs) : (∀ l', ⟨.list input.filters, l'⟩ ∈
      (⟨.list input.filters, l⟩ :: ⟨input.update, u⟩ :: fs : List (Event sql World)) → l' = l) ∧
    ∀ u', ⟨input.update, u'⟩ ∈
      (⟨.list input.filters, l⟩ :: ⟨input.update, u⟩ :: fs : List (Event sql World)) → u' = u := by
  constructor
  · intro l' hl
    rcases mem_cons.mp hl with heq | hl
    · injection heq
    rcases mem_cons.mp hl with heq | hl
    · injection heq with hstmt
      cases hstmt
    · cases h.records _ hl
  · intro u' hu
    rcases mem_cons.mp hu with heq | hu
    · injection heq with hstmt
      cases hstmt
    rcases mem_cons.mp hu with heq | hu
    · injection heq
    · cases h.records _ hu

theorem Course.accounts (h : Course input es (.ret result)) :
    ((emitted es).map EventEntry.closing).Perm ((moved es).map some) ∧
        result.closed = (moved es).length ∧ result.closed = result.eventSeqs.length ↔
      Uninterrupted input es := by
  cases h with
  | nothing l hl =>
    refine ⟨fun _ => ⟨by simp [refused], ?_⟩, fun _ => ⟨.nil, rfl, rfl⟩⟩
    intro l' u _ hu
    cases mem_singleton.mp hu
  | @closes fs seqs l u hrecorded hlength =>
    have hmoved : moved (⟨.list input.filters, l⟩ :: ⟨input.update, u⟩ :: fs) =
        (input.openRows u).map (·.id) := by
      change [] ++ ((input.openRows u).map (·.id) ++ moved fs) = _
      rw [hrecorded.moved, append_nil, nil_append]
    have hemitted : (emitted (⟨.list input.filters, l⟩ :: ⟨input.update, u⟩ :: fs)).map
        EventEntry.closing = ((input.filters.run l.checkins.rows).map (·.id)).map some := by
      change (emitted fs).map EventEntry.closing = _
      rw [hrecorded.emitted, map_map, map_map]
      exact map_congr_left fun row _ => closing_closedEvent input row
    rw [hmoved, hemitted, length_map]
    constructor
    · rintro ⟨hperm, _, _⟩
      have hperm' := (map_perm_map_iff (Option.some_injective _)).mp hperm
      refine ⟨?_, fun l' u' hl hu id => ?_⟩
      · simpa [refused, CloseLinkedCheckinsInput.update] using hrecorded.taken
      · rw [hrecorded.unique.1 l' hl, hrecorded.unique.2 u' hu]
        exact (hperm'.mem_iff).symm
    · intro h
      have hperm : ((input.openRows u).map (·.id)).Perm
          ((input.filters.run l.checkins.rows).map (·.id)) := by
        rw [perm_ext_iff_of_nodup (openRows_nodup input u) (listing_nodup _ l.checkins)]
        exact h.same l u (by simp) (by simp)
      have hcount := hperm.length_eq
      rw [length_map, length_map] at hcount
      exact ⟨(hperm.map some).symm, rfl, hcount.trans hlength.symm⟩

/-- A call accounts for its rows exactly when nothing comes between its listing and its update, the
listing is not cut short, and no event is refused. -/
theorem accounts_iff_uninterrupted (call : AutoClose) :
    AccountsForRows call ↔ Uninterrupted call.input call.steps := by
  rcases call.course with ⟨result, hreturned, hcourse⟩ | ⟨hnot, f, hf, hrefused⟩
  · rw [← hcourse.accounts]
    constructor
    · rintro ⟨hperm, result', hreturned', hclosed⟩
      have hsame : result = result' := by
        have hthread := hreturned.symm.trans hreturned'
        injection hthread with hret
        injection hret with hreply
        injection hreply
      exact hsame ▸ ⟨hperm, hclosed⟩
    · rintro ⟨hperm, hclosed⟩
      exact ⟨hperm, result, hreturned, hclosed⟩
  · constructor
    · rintro ⟨_, result, hreturned, _⟩
      exact absurd hreturned (hnot result)
    · intro h
      rw [h.taken f hf] at hrefused
      cases hrefused

def quietEnvironment : Environment where
  clock _ := 5000
  teams _ := ["team"]
  tasks _ := []
  agents _ _ := none
  refuses _ := none
  wake _ _ := .ok ()

/-- A check-in on task `t-1`, due every minute. -/
def watchRow : CheckinRow where
  id := "chk_1"
  teamId := "team"
  ownerAgentId := none
  linkedTaskId := some "t-1"
  intervalSeconds := 60
  priority := .normal
  status := .active
  maxIterations := none
  iterationCount := 0
  nextFireAt := some 4000
  snoozeUntil := none
  ttlExpiresAt := none
  lastFireAt := none
  lastEventSeq := none
  updatedAt := 0
  closedAt := none
  closedReason := none

def closedBetween : AutoClose where
  run := {
    calls := [.taskTerminal ⟨"team", "t-1", "done", none, none, 5000⟩, .close "chk_1" "team" none]
    start := ⟨.ofRows [watchRow], 0, 0, quietEnvironment⟩
    schedule := [0, 1, 1, 0, 0, 0] }
  index := 0
  input := ⟨"team", "t-1", "done", none, none, 5000⟩
  called := rfl
  ended := ⟨_, rfl, rfl⟩

theorem closedBetween_counts : (emitted closedBetween.steps).length = 1 ∧
    moved closedBetween.steps = [] := by
  decide +kernel

theorem not_accounts_for_rows : ¬ ∀ call : AutoClose, AccountsForRows call := by
  intro h
  have hcount := (h closedBetween).1.length_eq
  rw [length_map, length_map, closedBetween_counts.1, closedBetween_counts.2] at hcount
  cases hcount

end IdAgents.Checkins
