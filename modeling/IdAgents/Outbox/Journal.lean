import IdAgents.Outbox.Worker
import IdAgents.Scheduler.FreshRead

namespace IdAgents
open JsText KeyedTable AtomicProgram Outbox

/-- The `CASE NEW.status` of the transition trigger. -/
def operationType (old new : SchedulerStatus) : String :=
  match new with
  | .inFlight => "dispatch.started"
  | .done => "dispatch.completed"
  | .failed => "dispatch.failed"
  | .cancelled => "dispatch.cancelled"
  | .needsClarification => "dispatch.clarification_requested"
  | .resumeDeliveryFailed => "dispatch.resume_delivery_failed"
  | .bounced => "dispatch.retry_scheduled"
  | .queued => if old = .needsClarification then "dispatch.resumed" else "dispatch.queued"

def transitionKey (old new : Row) : String :=
  new.dispatchPhid ++ ":" ++ old.status.text ++ ":" ++ new.status.text ++ ":" ++
    toString new.attemptCount ++ ":" ++ toString new.bounceCount ++ ":" ++
    new.clarificationId.getD ""

/-- What the trigger `dispatch_operation_outbox_insert` writes. -/
def requestedEnvelope (new : Row) : DispatchOperationEnvelope where
  operationType := "dispatch.requested"
  dispatchId := new.dispatchPhid
  idempotencyKey := new.dispatchPhid ++ ":requested"
  actor := new.fromActor
  causationId := some new.queryId
  occurredAt := toISOString new.updatedAt
  fromStatus := none
  toStatus := new.status.text

/-- What the trigger `dispatch_operation_outbox_transition` writes. -/
def transitionEnvelope (old new : Row) : DispatchOperationEnvelope where
  operationType := operationType old.status new.status
  dispatchId := new.dispatchPhid
  idempotencyKey := transitionKey old new
  actor := "manager:scheduler"
  causationId := some new.queryId
  occurredAt := toISOString new.updatedAt
  fromStatus := some old.status.text
  toStatus := new.status.text
section
variable (e : Event (sql.tagged Label) World)

def statusChange : Option (Row × Row) :=
  match wrote e with
  | some (u, row) => if row.status = (u.set row).status then none else some (row, u.set row)
  | none => none

def emitted : Option DispatchOperationEnvelope :=
  match (e.stmt : Label × Stmt).2 with
  | .insert row => if e.before.table.insertRefused row then none else some (requestedEnvelope row)
  | _ => (statusChange e).map fun change => transitionEnvelope change.1 change.2

/-- `INSERT OR IGNORE`, under the unique `idempotency_key`. -/
def insertOrIgnore (outbox : List DispatchOperationEnvelope)
    (envelope : DispatchOperationEnvelope) : List DispatchOperationEnvelope :=
  if outbox.any (·.idempotencyKey = envelope.idempotencyKey) then outbox
  else outbox ++ [envelope]

def outboxAfter (es : List (Event (sql.tagged Label) World)) : List DispatchOperationEnvelope :=
  (es.filterMap emitted).foldl insertOrIgnore []

def statusMove (p : String) (e : Event (sql.tagged Label) World) : Option (Option String × String) :=
  let old := (e.before.row? p).map (·.status.text)
  ((e.after.row? p).map (·.status.text)).bind fun new =>
    if old = some new then none else some (old, new)

def statusHistory (p : String) (es : List (Event (sql.tagged Label) World)) :
    List (Option String × String) :=
  es.filterMap (statusMove p)

/-- In every state of a run the outbox holds one envelope for each enqueue and status change, no
two under one key, and the envelopes of a dispatch tell its status history. -/
structure JournalComplete (run : History) : Prop where
  distinct : ∀ es w, run.Reaches es w → ((es.filterMap emitted).map (·.idempotencyKey)).Nodup
  complete : ∀ es w, run.Reaches es w → outboxAfter es = es.filterMap emitted
  replayed : ∀ es w, run.Reaches es w → ∀ p,
    ((outboxAfter es).filter (·.dispatchId = p)).map (fun x => (x.fromStatus, x.toStatus)) =
      statusHistory p es

def resumeCounters : Option (String × Nat × Nat) :=
  match wrote e with
  | some (.resumeAfterClarification .., row) =>
    some (row.dispatchPhid, row.attemptCount, row.bounceCount)
  | _ => none

def failedDelivery : Option (String × SchedulerStatus × Nat × Nat × String) :=
  match wrote e with
  | some (.markResumeDeliveryFailed .., row) =>
    if row.status = .resumeDeliveryFailed then none
    else some (row.dispatchPhid, row.status, row.attemptCount, row.bounceCount,
      row.clarificationId.getD "")
  | _ => none

end

/-- No two resumes of a dispatch find the same counters; no two failed deliveries change it from
the same status under the same counters and clarification, and none changes a finished one. -/
structure CountersMove (run : History) : Prop where
  resumes : (run.events.filterMap resumeCounters).Nodup
  failures : (run.events.filterMap failedDelivery).Nodup
  unfinished : ∀ x ∈ run.events.filterMap failedDelivery, isTerminal x.2.1 = false

/-- The id `mintPhid` gives a dispatch. -/
def DispatchPhid (p : String) : Prop := ∃ hex : String, p = "phid:disp-" ++ hex ∧ ':' ∉ hex.toList

/-- What `mintPhid` and `mintClarificationId` give: well-formed dispatch ids, and clarification ids
that differ. -/
structure MintsIds (w : World) : Prop where
  dispatches : ∀ n, DispatchPhid (w.env.mintPhid n)
  rows : ∀ row ∈ w.table.rows, DispatchPhid row.dispatchPhid
  clarifications : Function.Injective w.env.mintClarificationId

inductive OpKey where
  | requested (phid : String)
  | changed (phid : String) (old new : SchedulerStatus) (attempts bounces : Nat)
      (clarificationId : String)
deriving DecidableEq

namespace OpKey

def phid : OpKey → String
  | requested p | changed p _ _ _ _ _ => p

def rest : OpKey → String
  | requested _ => "requested"
  | changed _ old new attempts bounces clarificationId =>
    old.text ++ ":" ++ new.text ++ ":" ++ toString attempts ++ ":" ++ toString bounces ++ ":" ++
      clarificationId

def text (k : OpKey) : String := k.phid ++ ":" ++ k.rest

end OpKey

theorem colon_not_mem_status (s : SchedulerStatus) : ':' ∉ s.text.toList := by
  cases s <;> decide

theorem status_text_inj {s s' : SchedulerStatus} (h : s.text.toList = s'.text.toList) : s = s' := by
  cases s <;> cases s' <;> first | rfl | exact absurd h (by decide)

theorem toList_colon (s t : String) : (s ++ ":" ++ t).toList = s.toList ++ ':' :: t.toList := by
  have hcolon : ":".toList = [':'] := by decide
  rw [String.toList_append, String.toList_append, hcolon, List.append_assoc, List.cons_append,
    List.nil_append]

variable {k : OpKey}

theorem OpKey.rest_inj {k' : OpKey} (hp : k.phid = k'.phid) (h : k.rest = k'.rest) : k = k' := by
  have hrequested : ':' ∉ "requested".toList := by decide
  have hchanged : ∀ p old new attempts bounces id,
      ':' ∈ (changed p old new attempts bounces id).rest.toList := by
    intro p old new attempts bounces id
    rw [rest, toList_colon]
    exact List.mem_append_right _ List.mem_cons_self
  have hchars := congrArg String.toList h
  cases k with
  | requested p =>
    cases k' with
    | requested p' => exact congrArg OpKey.requested hp
    | changed => exact absurd (hchars ▸ hchanged ..) hrequested
  | changed p old new attempts bounces id =>
    cases k' with
    | requested p' => exact absurd (hchars ▸ hchanged ..) hrequested
    | changed p' old' new' attempts' bounces' id' =>
      simp only [rest, toList_colon, List.append_assoc, List.cons_append] at hchars
      obtain ⟨hold, hchars⟩ :=
        segment_inj (colon_not_mem_status _) (colon_not_mem_status _) hchars
      obtain ⟨hnew, hchars⟩ :=
        segment_inj (colon_not_mem_status _) (colon_not_mem_status _) hchars
      obtain ⟨hattempts, hchars⟩ :=
        segment_inj (colon_not_mem_toString _) (colon_not_mem_toString _) hchars
      obtain ⟨hbounces, hid⟩ :=
        segment_inj (colon_not_mem_toString _) (colon_not_mem_toString _) hchars
      simp only [phid] at hp
      rw [hp, status_text_inj hold, status_text_inj hnew,
        toString_inj (String.toList_injective hattempts),
        toString_inj (String.toList_injective hbounces), String.toList_injective hid]

theorem OpKey.text_inj {k' : OpKey} (hk : DispatchPhid k.phid) (hk' : DispatchPhid k'.phid)
    (h : k.text = k'.text) : k = k' := by
  have hliteral : "phid:disp-".toList = "phid".toList ++ ':' :: "disp-".toList := by decide
  have hspell : ∀ hex : String, ("phid:disp-" ++ hex).toList =
      "phid".toList ++ ':' :: ("disp-".toList ++ hex.toList) := by
    intro hex
    rw [String.toList_append, hliteral, List.append_assoc, List.cons_append]
  have hdisp : ':' ∉ "disp-".toList := by decide
  have hids : ∀ hex : String, ':' ∉ hex.toList → ':' ∉ "disp-".toList ++ hex.toList := by
    intro hex hcolon hmem
    obtain hmem | hmem := List.mem_append.mp hmem
    · exact hdisp hmem
    · exact hcolon hmem
  obtain ⟨hex, hp, hcolon⟩ := hk
  obtain ⟨hex', hp', hcolon'⟩ := hk'
  have hchars := congrArg String.toList h
  rw [text, text, toList_colon, toList_colon, hp, hp', hspell, hspell, List.append_assoc,
    List.append_assoc, List.cons_append, List.cons_append] at hchars
  obtain ⟨hsame, hrest⟩ := segment_inj (hids hex hcolon) (hids hex' hcolon')
    (List.cons.inj (List.append_cancel_left hchars)).2
  apply rest_inj _ (String.toList_injective hrest)
  rw [hp, hp', String.toList_injective (List.append_cancel_left hsame)]

def changeKey (old new : Row) : OpKey :=
  .changed new.dispatchPhid old.status new.status new.attemptCount new.bounceCount
    (new.clarificationId.getD "")

def emittedKey (e : Event (sql.tagged Label) World) : Option OpKey :=
  match (e.stmt : Label × Stmt).2 with
  | .insert row => if e.before.table.insertRefused row then none else some (.requested row.dispatchPhid)
  | _ => (statusChange e).map fun change => changeKey change.1 change.2

theorem changeKey_text (old new : Row) : (changeKey old new).text = transitionKey old new := by
  simp only [changeKey, transitionKey, OpKey.text, OpKey.rest, OpKey.phid, String.append_assoc]

theorem emitted_key (e : Event (sql.tagged Label) World) :
    (emitted e).map (·.idempotencyKey) = (emittedKey e).map OpKey.text := by
  have hchange : ((statusChange e).map fun change => transitionEnvelope change.1 change.2).map
      (·.idempotencyKey) = ((statusChange e).map fun change => changeKey change.1 change.2).map
      OpKey.text := by
    cases statusChange e with
    | none => rfl
    | some change => exact congrArg some (changeKey_text change.1 change.2).symm
  have hrequested : ∀ p : String, p ++ ":requested" = (OpKey.requested p).text := by
    intro p
    have hliteral : ":requested" = ":" ++ "requested" := by decide
    rw [hliteral, ← String.append_assoc]
    rfl
  unfold emitted emittedKey
  split
  · split
    · rfl
    · exact congrArg some (hrequested _)
  · exact hchange

theorem emitted_keys (es : List (Event (sql.tagged Label) World)) :
    (es.filterMap emitted).map (·.idempotencyKey) = (es.filterMap emittedKey).map OpKey.text := by
  rw [List.map_filterMap, List.map_filterMap]
  apply List.filterMap_congr
  intro e _
  exact emitted_key e

theorem statusChange_eq_some {e : Event (sql.tagged Label) World} :
    statusChange e = some (old, new) ↔
      ∃ u, wrote e = some (u, old) ∧ new = u.set old ∧ old.status ≠ new.status := by
  rw [statusChange]
  cases hw : wrote e with
  | none => simp
  | some write =>
    obtain ⟨u, row⟩ := write
    simp only [Option.some.injEq, Prod.mk.injEq, Option.ite_none_left_eq_some]
    constructor
    · rintro ⟨hne, rfl, rfl⟩
      exact ⟨u, ⟨rfl, rfl⟩, rfl, hne⟩
    · rintro ⟨v, ⟨rfl, rfl⟩, rfl, hne⟩
      exact ⟨hne, rfl, rfl⟩

theorem emittedKey_cases {e : Event (sql.tagged Label) World} (h : emittedKey e = some k) :
    (∃ l row, e.stmt = (l, .insert row) ∧ e.before.table.insertRefused row = false ∧
      k = .requested row.dispatchPhid) ∨
    ∃ u row, wrote e = some (u, row) ∧ row.status ≠ (u.set row).status ∧
      k = changeKey row (u.set row) := by
  obtain ⟨⟨l, c⟩, w⟩ := e
  have hchange : (statusChange ⟨(l, c), w⟩).map (fun change => changeKey change.1 change.2) = some k →
      ∃ u row, wrote ⟨(l, c), w⟩ = some (u, row) ∧ row.status ≠ (u.set row).status ∧
        k = changeKey row (u.set row) := by
    intro h
    obtain ⟨⟨old, new⟩, hchange, rfl⟩ := Option.map_eq_some_iff.mp h
    obtain ⟨u, hw, rfl, hne⟩ := statusChange_eq_some.mp hchange
    exact ⟨u, old, hw, hne, rfl⟩
  cases c with
  | insert row =>
    simp only [emittedKey, Option.ite_none_left_eq_some, Option.some.injEq] at h
    exact .inl ⟨l, row, rfl, eq_false_of_ne_true h.1, h.2.symm⟩
  | _ => exact .inr (hchange h)

/-- The row of an earlier key has moved on: its counters have not fallen, and while they stand a
finished dispatch stays finished and a bounced one does not come back. -/
def OpKey.Behind (k : OpKey) (row : Row) : Prop :=
  match k with
  | .requested _ => True
  | .changed _ old new attempts bounces _ =>
    attempts ≤ row.attemptCount ∧ bounces ≤ row.bounceCount ∧
      (attempts = row.attemptCount → bounces = row.bounceCount →
        (new = .done ∨ new = .cancelled → row.status = new) ∧
        (new = .failed → row.status = .failed ∨ row.status = .done) ∧
        (old = .bounced → row.status ≠ .bounced))

theorem OpKey.behind_self (old new : Row) (h : old.status ≠ new.status) :
    (changeKey old new).Behind new := by
  refine ⟨le_rfl, le_rfl, fun _ _ => ⟨fun _ => rfl, fun hf => .inl hf, ?_⟩⟩
  intro hold hnew
  exact h (hold.trans hnew.symm)

/-- A step that raises no counter: it keeps the status, leaves an open one for another than
`bounced`, or reconciles a failure. -/
def Follows (s s' : SchedulerStatus) : Prop :=
  s' = s ∨ (isTerminal s = false ∧ s' ≠ .bounced) ∨ (s = .failed ∧ s' = .done)

variable {u : UpdateStmt}

theorem UpdateStmt.moves (hlawful : u.Lawful row w) (hg : u.guard row)
    (hdelivery : ∀ doc input now, u = .markResumeDeliveryFailed doc input now →
      row.status = .resumeDeliveryFailed ∨ isTerminal row.status = false) :
    (row.attemptCount ≤ (u.set row).attemptCount ∧ row.bounceCount ≤ (u.set row).bounceCount) ∧
      (row.attemptCount < (u.set row).attemptCount ∨ row.bounceCount < (u.set row).bounceCount ∨
        Follows row.status (u.set row).status) := by
  cases u with
  | runClaim | acceptQueued | markBounced | requeueForRecovery =>
    simp only [UpdateStmt.Lawful] at hlawful
    simp only [UpdateStmt.set]
    omega
  | markResumeDeliveryFailed doc input now =>
    refine ⟨⟨le_rfl, le_rfl⟩, .inr (.inr ?_)⟩
    obtain hsame | hopen := hdelivery doc input now rfl
    · exact .inl hsame.symm
    · exact .inr (.inl ⟨hopen, by simp [UpdateStmt.set]⟩)
  | markFailed p args now =>
    refine ⟨⟨le_rfl, le_rfl⟩, .inr (.inr ?_)⟩
    simp only [UpdateStmt.guard] at hg
    cases hs : row.status <;> simp_all [Follows, UpdateStmt.set, isTerminal]
  | doneWithResult required =>
    refine ⟨⟨le_rfl, le_rfl⟩, .inr (.inr ?_)⟩
    simp only [UpdateStmt.guard, decide_eq_true_eq] at hg
    obtain rfl | rfl := hlawful <;> simp [Follows, UpdateStmt.set, isTerminal, hg]
  | _ =>
    refine ⟨⟨le_rfl, le_rfl⟩, .inr (.inr ?_)⟩
    simp_all [Follows, UpdateStmt.set, UpdateStmt.guard, UpdateStmt.Lawful, isTerminal]

theorem OpKey.Behind.write (h : k.Behind row) (hlawful : u.Lawful row w) (hg : u.guard row)
    (hdelivery : ∀ doc input now, u = .markResumeDeliveryFailed doc input now →
      row.status = .resumeDeliveryFailed ∨ isTerminal row.status = false) :
    k.Behind (u.set row) := by
  cases k with
  | requested p => trivial
  | changed p old new attempts bounces id =>
    obtain ⟨hattempts, hbounces, hsame⟩ := h
    obtain ⟨⟨hattempts', hbounces'⟩, hmoves⟩ := u.moves hlawful hg hdelivery
    refine ⟨hattempts.trans hattempts', hbounces.trans hbounces', fun ha hb => ?_⟩
    obtain ⟨hclosed, hfailed, hbounced⟩ := hsame (by omega) (by omega)
    have hfollows : Follows row.status (u.set row).status := by
      obtain hlt | hlt | hfollows := hmoves
      · omega
      · omega
      · exact hfollows
    obtain hkeep | ⟨hopen, hne⟩ | ⟨hs, hs'⟩ := hfollows
    · rw [hkeep]
      exact ⟨hclosed, hfailed, hbounced⟩
    · refine ⟨fun hnew => ?_, fun hnew => ?_, fun _ => hne⟩
      · rw [hclosed hnew] at hopen
        obtain rfl | rfl := hnew <;> cases hopen
      · obtain hs | hs := hfailed hnew <;> rw [hs] at hopen <;> cases hopen
    · rw [hs']
      refine ⟨fun hnew => ?_, fun _ => .inr rfl, fun _ => by simp⟩
      have hclash := hclosed hnew
      rw [hs] at hclash
      obtain rfl | rfl := hnew <;> cases hclash

theorem OpKey.repeats (h : (changeKey row (u.set row)).Behind row)
    (hne : row.status ≠ (u.set row).status) (hg : u.guard row) (hlawful : u.Lawful row w) :
    (∃ doc input id now, u = .markNeedsClarification doc input id now) ∨
      (∃ doc input id now, u = .resumeAfterClarification doc input id now) ∨
      ∃ doc input now, u = .markResumeDeliveryFailed doc input now := by
  obtain ⟨hattempts, hbounces, hsame⟩ := h
  cases u with
  | markNeedsClarification doc input id now => exact .inl ⟨doc, input, id, now, rfl⟩
  | resumeAfterClarification doc input id now => exact .inr (.inl ⟨doc, input, id, now, rfl⟩)
  | markResumeDeliveryFailed doc input now => exact .inr (.inr ⟨doc, input, now, rfl⟩)
  | runClaim | acceptQueued | markBounced | requeueForRecovery =>
    simp only [UpdateStmt.Lawful] at hlawful
    simp only [UpdateStmt.set] at hattempts hbounces
    omega
  | markFailed p args now =>
    obtain ⟨_, hfailed, _⟩ := hsame rfl rfl
    obtain hs | hs := hfailed rfl
    · exact absurd hs hne
    · simp [UpdateStmt.guard, hs] at hg
  | markRetryExhausted doc detail now =>
    obtain ⟨_, hfailed, _⟩ := hsame rfl rfl
    obtain hs | hs := hfailed rfl
    · exact absurd hs hne
    · simp [UpdateStmt.Lawful, hs, isTerminal] at hlawful
  | markDone | doneWithResult | markRecoveryLanded =>
    obtain ⟨hclosed, _⟩ := hsame rfl rfl
    exact absurd (hclosed (.inl rfl)) hne
  | cancel =>
    obtain ⟨hclosed, _⟩ := hsame rfl rfl
    exact absurd (hclosed (.inr rfl)) hne
  | requeueAfterBounce p now =>
    obtain ⟨_, _, hbounced⟩ := hsame rfl rfl
    simp only [UpdateStmt.guard, decide_eq_true_eq] at hg
    exact absurd hg (hbounced hg)
  | _ => exact absurd rfl hne

def OpKey.Minted (w : World) : OpKey → Prop
  | .changed _ _ .needsClarification _ _ id =>
    ∀ n, w.step ≤ n + 1 → id ≠ w.env.mintClarificationId n
  | _ => True

structure Journaled (es : List (Event (sql.tagged Label) World)) (w : World) : Prop where
  ids : MintsIds w
  past : ∀ k ∈ es.filterMap emittedKey, k.Minted w ∧
    ∃ row, w.row? k.phid = some row ∧ k.Behind row
  distinct : (es.filterMap emittedKey).Nodup

theorem clash_of_nodup {f : α → Option β} (h : (es ++ e :: fs).filterMap f |>.Nodup)
    (he' : e' ∈ es) (hf' : f e' = some x) (hf : f e = some x) : False := by
  rw [List.filterMap_append, List.filterMap_cons_some hf, List.nodup_append] at h
  exact h.2.2 x (List.mem_filterMap.mpr ⟨e', he', hf'⟩) x List.mem_cons_self rfl

theorem resume_of_change (hold : row.status = .needsClarification)
    (hnew : (u.set row).status = .queued) (hg : u.guard row) :
    ∃ doc input id now, u = .resumeAfterClarification doc input id now := by
  cases u with
  | resumeAfterClarification doc input id now => exact ⟨doc, input, id, now, rfl⟩
  | requeueAfterBounce => simp [UpdateStmt.guard, hold] at hg
  | _ => simp [UpdateStmt.set, hold] at hnew

theorem failed_of_change (hold : row.status ≠ .resumeDeliveryFailed)
    (hnew : (u.set row).status = .resumeDeliveryFailed) :
    ∃ doc input now, u = .markResumeDeliveryFailed doc input now := by
  cases u with
  | markResumeDeliveryFailed doc input now => exact ⟨doc, input, now, rfl⟩
  | _ => simp_all [UpdateStmt.set]

theorem paused_of_change (hold : row.status ≠ .needsClarification)
    (hnew : (u.set row).status = .needsClarification) :
    ∃ doc input id now, u = .markNeedsClarification doc input id now := by
  cases u with
  | markNeedsClarification doc input id now => exact ⟨doc, input, id, now, rfl⟩
  | _ => simp_all [UpdateStmt.set]

theorem History.inserts (run : History) (he : e ∈ run.events) (h : e.stmt = (l, .insert row)) :
    ∃ n, row.dispatchPhid = e.before.env.mintPhid n := by
  have hfresh := run.fresh he
  obtain ⟨unsent, hdue⟩ := run.due (P := fun _ => True) (fun _ _ => trivial) he
  rw [h] at hfresh hdue
  cases l with
  | call => exact hfresh
  | _ => cases hdue

theorem MintsIds.step (run : History) (he : e ∈ run.events) (h : MintsIds e.before) :
    MintsIds e.after where
  dispatches := h.dispatches
  clarifications := h.clarifications
  rows := by
    intro row hrow
    obtain hmem | hinsert | ⟨u, _, r, hr, _, rfl⟩ := Stmt.mem_effect hrow
    · exact h.rows row hmem
    · obtain ⟨n, hn⟩ := run.inserts he (l := e.stmt.1) (Prod.ext rfl hinsert)
      rw [hn]
      exact h.dispatches n
    · rw [u.set_dispatchPhid]
      exact h.rows r hr

theorem OpKey.Minted.step {e : Event (sql.tagged Label) World} (h : k.Minted e.before) :
    k.Minted e.after := by
  cases k with
  | requested => trivial
  | changed p old new attempts bounces id =>
    cases new with
    | needsClarification =>
      intro n hn
      apply h n
      have hstep : e.after.step = e.before.step + 1 := rfl
      omega
    | _ => trivial

theorem minted_change {e : Event (sql.tagged Label) World} (hids : MintsIds e.before)
    (hlawful : u.Lawful row e.before) (hne : row.status ≠ (u.set row).status) :
    (changeKey row (u.set row)).Minted e.after := by
  by_cases hnew : (u.set row).status = .needsClarification
  · obtain ⟨doc, input, id, now, rfl⟩ := paused_of_change (fun h => hne (h.trans hnew.symm)) hnew
    obtain ⟨_, n, hn, hid⟩ := hlawful
    intro m hm hclash
    have hstep : e.after.step = e.before.step + 1 := rfl
    have hsame : n = m := hids.clarifications (hid.symm.trans hclash)
    omega
  · unfold OpKey.Minted changeKey
    split
    · next h => exact absurd (OpKey.changed.inj h).2.2.1 hnew
    · trivial

variable {run : History}

theorem key_fresh (hmove : CountersMove run)
    (hsplit : run.events = es ++ e :: fs) (hI : Journaled es e.before)
    (hw : wrote e = some (u, row)) (hne : row.status ≠ (u.set row).status) :
    changeKey row (u.set row) ∉ es.filterMap emittedKey := by
  intro hmem
  have he : e ∈ run.events := by simp [hsplit]
  obtain ⟨_, hrow, hg, _⟩ := wrote_eq_some hw
  have hlawful := run.lawful he hw
  obtain ⟨hminted, row', hrow', hbehind⟩ := hI.past _ hmem
  have hphid : (changeKey row (u.set row)).phid = u.phid :=
    (u.set_dispatchPhid row).trans (World.row?_mem hrow).2
  rw [hphid] at hrow'
  obtain rfl : row' = row := Option.some.inj (hrow'.symm.trans hrow)
  obtain ⟨e', he', hkey⟩ := List.mem_filterMap.mp hmem
  obtain ⟨_, _, _, _, hclash⟩ | ⟨u', old, hw', hne', hsame⟩ := emittedKey_cases hkey
  · cases hclash
  · obtain ⟨_, hrow', hg', _⟩ := wrote_eq_some hw'
    simp only [changeKey, OpKey.changed.injEq, u.set_dispatchPhid, u'.set_dispatchPhid] at hsame
    obtain ⟨hp, hold, hnew, hattempts, hbounces, hid⟩ := hsame
    obtain ⟨doc, input, id, now, rfl⟩ | ⟨doc, input, id, now, rfl⟩ | ⟨doc, input, now, rfl⟩ :=
      OpKey.repeats hbehind hne hg hlawful
    · obtain ⟨_, n, hn, hid⟩ := hlawful
      exact hminted n (by omega) hid
    · obtain ⟨doc', input', id', now', rfl⟩ :=
        resume_of_change (hold.symm.trans hlawful) hnew.symm hg'
      have hresumes := hmove.resumes
      rw [hsplit] at hresumes
      apply clash_of_nodup hresumes he'
        (x := (row'.dispatchPhid, row'.attemptCount, row'.bounceCount))
      · simp only [resumeCounters, hw', hp]
        exact congrArg some (Prod.ext rfl (Prod.ext hattempts.symm hbounces.symm))
      · simp only [resumeCounters, hw]
    · obtain ⟨doc', input', now', rfl⟩ := failed_of_change (fun h => hne (hold.trans h)) hnew.symm
      have hfailures := hmove.failures
      rw [hsplit] at hfailures
      have hnot : row'.status ≠ .resumeDeliveryFailed := hne
      have hnot' : old.status ≠ .resumeDeliveryFailed := hne'
      apply clash_of_nodup hfailures he' (x := (row'.dispatchPhid, row'.status, row'.attemptCount,
        row'.bounceCount, row'.clarificationId.getD ""))
      · simp only [failedDelivery, hw', if_neg hnot', hp, hold]
        exact congrArg some (Prod.ext rfl (Prod.ext rfl (Prod.ext hattempts.symm
          (Prod.ext hbounces.symm hid.symm))))
      · simp only [failedDelivery, hw, if_neg hnot]

theorem past_step (hmove : CountersMove run) (he : e ∈ run.events)
    (h : ∃ row, e.before.row? k.phid = some row ∧ k.Behind row) :
    ∃ row, e.after.row? k.phid = some row ∧ k.Behind row := by
  obtain ⟨row, hrow, hbehind⟩ := h
  obtain hkeep | ⟨u, hw, hp⟩ := row?_after e hrow
  · exact ⟨row, hkeep, hbehind⟩
  · obtain ⟨_, _, hg, hafter⟩ := wrote_eq_some hw
    rw [hp] at hafter
    refine ⟨u.set row, hafter, hbehind.write (run.lawful he hw) hg ?_⟩
    rintro doc input now rfl
    by_cases hs : row.status = .resumeDeliveryFailed
    · exact .inl hs
    · right
      apply hmove.unfinished (row.dispatchPhid, row.status, row.attemptCount, row.bounceCount,
        row.clarificationId.getD "")
      rw [List.mem_filterMap]
      exact ⟨e, he, by simp only [failedDelivery, hw, if_neg hs]⟩

theorem Journaled.step (hmove : CountersMove run)
    (hsplit : run.events = es ++ e :: fs) (hI : Journaled es e.before) :
    Journaled (es ++ [e]) e.after := by
  have he : e ∈ run.events := by simp [hsplit]
  have hids : MintsIds e.after := hI.ids.step run he
  have hpast : ∀ k ∈ es.filterMap emittedKey, k.Minted e.after ∧
      ∃ row, e.after.row? k.phid = some row ∧ k.Behind row := by
    intro k hk
    obtain ⟨hminted, hbehind⟩ := hI.past k hk
    exact ⟨hminted.step, past_step hmove he hbehind⟩
  cases hkey : emittedKey e with
  | none =>
    have hsame : (es ++ [e]).filterMap emittedKey = es.filterMap emittedKey := by
      rw [List.filterMap_append, List.filterMap_cons_none hkey, List.filterMap_nil, List.append_nil]
    exact ⟨hids, hsame ▸ hpast, hsame ▸ hI.distinct⟩
  | some k =>
    have hmore : (es ++ [e]).filterMap emittedKey = es.filterMap emittedKey ++ [k] := by
      rw [List.filterMap_append, List.filterMap_cons_some hkey, List.filterMap_nil]
    have hnew : k ∉ es.filterMap emittedKey ∧ k.Minted e.after ∧
        ∃ row, e.after.row? k.phid = some row ∧ k.Behind row := by
      obtain ⟨l, row, hstmt, hrefused, rfl⟩ | ⟨u, row, hw, hne, rfl⟩ := emittedKey_cases hkey
      · obtain ⟨hfree, hfound⟩ := Table.get?_insert_self hrefused
        refine ⟨fun hmem => ?_, trivial, row, ?_, trivial⟩
        · obtain ⟨_, r, hr, _⟩ := hI.past _ hmem
          rw [World.row?, OpKey.phid] at hr
          exact Option.some_ne_none r (hr.symm.trans hfree)
        · rw [Event.after, hstmt]
          exact hfound
      · obtain ⟨_, hrow, _, hafter⟩ := wrote_eq_some hw
        have hphid : (changeKey row (u.set row)).phid = u.phid :=
          (u.set_dispatchPhid row).trans (World.row?_mem hrow).2
        refine ⟨key_fresh hmove hsplit hI hw hne,
          minted_change hI.ids (run.lawful he hw) hne, u.set row, ?_, OpKey.behind_self _ _ hne⟩
        rw [hphid]
        exact hafter
    refine ⟨hids, fun k' hk' => ?_, ?_⟩
    · rw [hmore] at hk'
      obtain hk' | hk' := List.mem_append.mp hk'
      · exact hpast k' hk'
      · rw [List.mem_singleton.mp hk']
        exact hnew.2
    · rw [hmore, ← List.concat_eq_append, List.nodup_concat]
      exact ⟨hnew.1, hI.distinct⟩

theorem insertOrIgnore_all {envelopes outbox : List DispatchOperationEnvelope}
    (h : ((outbox ++ envelopes).map (·.idempotencyKey)).Nodup) :
    envelopes.foldl insertOrIgnore outbox = outbox ++ envelopes := by
  induction envelopes generalizing outbox with
  | nil => simp
  | cons x xs ih =>
    have hfree : outbox.any (·.idempotencyKey = x.idempotencyKey) = false := by
      rw [List.any_eq_false]
      intro y hy hsame
      rw [List.map_append, List.nodup_append] at h
      exact h.2.2 _ (List.mem_map_of_mem hy) _ (List.mem_map_of_mem List.mem_cons_self)
        (of_decide_eq_true hsame)
    rw [List.foldl_cons, insertOrIgnore, hfree, if_neg (by simp), ih, List.append_assoc]
    · rfl
    · rwa [List.append_assoc]

theorem row?_unwritten {e : Event (sql.tagged Label) World}
    (hinsert : ∀ row, (e.stmt : Label × Stmt).2 = .insert row → row.dispatchPhid ≠ p)
    (hwrite : ∀ u row, wrote e = some (u, row) → u.phid ≠ p) : e.after.row? p = e.before.row? p := by
  cases hrow : e.before.row? p with
  | some row =>
    obtain hkeep | ⟨u, hw, hp⟩ := row?_after e hrow
    · exact hkeep
    · exact absurd hp (hwrite u row hw)
  | none =>
    obtain ⟨⟨l, c⟩, w⟩ := e
    cases c with
    | insert row => exact (Table.get?_insert_ne (hinsert row rfl)).trans hrow
    | update u =>
      have hnone := Table.get?_isSome_update w.table u.toUpdate p
      change (World.row? (Stmt.effect (.update u) w) p).isSome = (w.row? p).isSome at hnone
      rw [hrow] at hnone
      have hafter : World.row? (Stmt.effect (.update u) w) p = none := by simpa using hnone
      exact hafter
    | _ => exact hrow

theorem statusMove_same {e : Event (sql.tagged Label) World}
    (h : (e.after.row? p).map (·.status) = (e.before.row? p).map (·.status)) :
    statusMove p e = none := by
  have htexts : (e.after.row? p).map (·.status.text) = (e.before.row? p).map (·.status.text) := by
    have hmap := congrArg (Option.map SchedulerStatus.text) h
    simpa [Option.map_map, Function.comp_def] using hmap
  simp only [statusMove, htexts]
  cases (e.before.row? p).map (·.status.text) <;> simp

/-- What an envelope tells of the dispatch `p`. -/
def told (p : String) (x : Option DispatchOperationEnvelope) : Option (Option String × String) :=
  (x.filter (·.dispatchId = p)).map fun x => (x.fromStatus, x.toStatus)

theorem told_change {e : Event (sql.tagged Label) World}
    (hinsert : ∀ row, (e.stmt : Label × Stmt).2 ≠ .insert row) :
    told p ((statusChange e).map fun change => transitionEnvelope change.1 change.2) =
      statusMove p e := by
  cases hw : wrote e with
  | none =>
    have hsame : e.after.row? p = e.before.row? p :=
      row?_unwritten (fun row h => absurd h (hinsert row)) (by simp [hw])
    rw [statusChange, hw, statusMove_same (by rw [hsame])]
    rfl
  | some write =>
    obtain ⟨u, row⟩ := write
    obtain ⟨_, hbefore, _, hafter⟩ := wrote_eq_some hw
    have hphid : (u.set row).dispatchPhid = u.phid :=
      (u.set_dispatchPhid row).trans (World.row?_mem hbefore).2
    by_cases hp : u.phid = p
    · subst hp
      by_cases hs : row.status = (u.set row).status
      · rw [statusChange, hw, statusMove_same (by rw [hbefore, hafter]; simp [hs])]
        simp [hs, told]
      · have htexts : row.status.text ≠ (u.set row).status.text :=
          fun h => hs (status_text_inj (congrArg String.toList h))
        simp only [statusChange, hw, if_neg hs, statusMove, hbefore, hafter]
        simp [told, transitionEnvelope, hphid, htexts]
    · have hsame : e.after.row? p = e.before.row? p := by
        apply row?_unwritten (fun row h => absurd h (hinsert row))
        intro v r hv
        rw [hw] at hv
        obtain ⟨rfl, _⟩ := Prod.mk.inj (Option.some.inj hv)
        exact hp
      rw [statusMove_same (by rw [hsame])]
      have hne : (u.set row).dispatchPhid ≠ p := fun h => hp (hphid.symm.trans h)
      simp only [statusChange, hw]
      split
      · rfl
      · simp [told, transitionEnvelope, hne]

theorem emitted_move (p : String) (e : Event (sql.tagged Label) World) :
    told p (emitted e) = statusMove p e := by
  by_cases hinsert : ∃ row, (e.stmt : Label × Stmt).2 = .insert row
  · obtain ⟨row, hstmt⟩ := hinsert
    have hemitted : emitted e = if e.before.table.insertRefused row then none
        else some (requestedEnvelope row) := by simp only [emitted, hstmt]
    have htable : e.after.table = e.before.table.insert row := by
      change (Stmt.effect (e.stmt : Label × Stmt).2 e.before).table = _
      rw [hstmt]
      rfl
    rw [hemitted]
    by_cases hrefused : e.before.table.insertRefused row
    · rw [if_pos hrefused, statusMove_same]
      · rfl
      · rw [World.row?, htable, Table.insert_of_refused hrefused]
        rfl
    · rw [if_neg hrefused]
      obtain ⟨hfree, hfound⟩ := Table.get?_insert_self (eq_false_of_ne_true hrefused)
      by_cases hp : row.dispatchPhid = p
      · subst hp
        have hbefore : e.before.row? row.dispatchPhid = none := hfree
        have hafter : e.after.row? row.dispatchPhid = some row := by
          rw [World.row?, htable]
          exact hfound
        simp [told, requestedEnvelope, statusMove, hbefore, hafter]
      · rw [statusMove_same]
        · simp [told, requestedEnvelope, hp]
        · rw [World.row?, htable, Table.get?_insert_ne hp]
          rfl
  · have hnone : ∀ row, (e.stmt : Label × Stmt).2 ≠ .insert row := fun row h => hinsert ⟨row, h⟩
    have hemitted : emitted e =
        (statusChange e).map fun change => transitionEnvelope change.1 change.2 := by
      rw [emitted]
      split
      · next h => exact absurd h (hnone _)
      · rfl
    rw [hemitted, told_change hnone]

theorem emitted_history (p : String) (es : List (Event (sql.tagged Label) World)) :
    ((es.filterMap emitted).filter (·.dispatchId = p)).map (fun x => (x.fromStatus, x.toStatus)) =
      statusHistory p es := by
  rw [statusHistory, List.filter_filterMap, List.map_filterMap]
  apply List.filterMap_congr
  intro e _
  exact emitted_move p e

/-- A run fills the outbox with every transition, once, if between two resumes of a dispatch a
counter moves and its failed deliveries find it unfinished and apart. -/
theorem journal_complete (run : History) (hids : MintsIds run.start) (hmove : CountersMove run) :
    JournalComplete run := by
  have hjournaled : ∀ es w, run.Reaches es w → Journaled es w := by
    rintro es w ⟨fs, hsplit, hchain⟩
    apply Chain.invariant_along (I := Journaled) hchain
    · exact ⟨hids, by simp, by simp⟩
    · intro es' e gs hes hI
      apply hI.step hmove
      rw [hsplit, hes, List.append_assoc, List.cons_append]
  have hdistinct : ∀ es w, run.Reaches es w →
      ((es.filterMap emitted).map (·.idempotencyKey)).Nodup := by
    intro es w hreaches
    have hI := hjournaled es w hreaches
    have hphid : ∀ k ∈ es.filterMap emittedKey, DispatchPhid k.phid := by
      intro k hk
      obtain ⟨_, row, hrow, _⟩ := hI.past k hk
      obtain ⟨hmem, hp⟩ := World.row?_mem hrow
      rw [← hp]
      exact hI.ids.rows row hmem
    rw [emitted_keys]
    apply List.Nodup.map_on _ hI.distinct
    intro k hk k' hk' htext
    exact OpKey.text_inj (hphid k hk) (hphid k' hk') htext
  have hcomplete : ∀ es w, run.Reaches es w → outboxAfter es = es.filterMap emitted := by
    intro es w hreaches
    exact insertOrIgnore_all (hdistinct es w hreaches)
  constructor
  · exact hdistinct
  · exact hcomplete
  · intro es w hreaches p
    rw [hcomplete es w hreaches]
    exact emitted_history p es

def reportInput : EnqueueInput where
  queryId := "query-1"
  toAgent := "coder"
  fromActor := "manager"
  channel := "talk"
  subject := "report"
  bodyMarkdown := "write the report"
  provider := .anthropic
  runtime := .claudeCodeCli

def askingTwiceCalls (between : List Op) : List Op :=
  [.enqueue reportInput,
    .markNeedsClarification "phid:disp-1" { agentId := "coder", question := "Which quarter?" },
    .resumeAfterClarification "phid:disp-1" { answer := "The last one." }] ++ between ++
  [.markNeedsClarification "phid:disp-1" { agentId := "coder", question := "Which currency?" },
    .resumeAfterClarification "phid:disp-1" { answer := "Euro." }]

def askingTwice (between : List Op) : History where
  policy := POLICY_DEFAULTS
  config := DEFAULT_RECOVERY_CONFIG
  activities := (askingTwiceCalls between).map Activity.call
  same_settings a h := by
    obtain ⟨op, _, rfl⟩ := List.mem_map.mp h
    trivial
  start := .start [] .quiet

theorem second_resume_ignored : (outboxAfter (askingTwice []).events).length = 4 ∧
      ((askingTwice []).events.filterMap emitted).length = 5 := by
  decide +kernel

theorem not_journal_complete : ¬ JournalComplete (askingTwice []) := by
  intro h
  have hreaches : (askingTwice []).Reaches (askingTwice []).events
      ((askingTwice []).prog.run (askingTwice []).start).2 :=
    ⟨[], by simp, (askingTwice []).chain⟩
  have hall := congrArg List.length (h.complete _ _ hreaches)
  rw [second_resume_ignored.1, second_resume_ignored.2] at hall
  cases hall

theorem quiet_mints : MintsIds (.start [] .quiet) where
  dispatches n := ⟨toString n, rfl, colon_not_mem_toString n⟩
  rows := by simp [World.start, Table.ofRows]
  clarifications m n h := toString_inj (String.append_right_inj "clar_" |>.mp h)

/-- A claim between the two pauses moves the attempt count. -/
theorem journal_complete_claimed : JournalComplete (askingTwice [.claim {}]) :=
  journal_complete (askingTwice [.claim {}]) quiet_mints
    ⟨by decide +kernel, by decide +kernel, by decide +kernel⟩

end IdAgents
