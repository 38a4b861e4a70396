import Mathlib.Data.List.Induction
import IdAgents.Scheduler.ResumeView

namespace IdAgents
open JsText KeyedTable AtomicProgram List
open scoped FleetWorld

abbrev FleetEvent := Event fleet FleetWorld
section
variable (e : FleetEvent)

def issued : Option UpdateStmt :=
  match (e.stmt : (Label × Stmt) ⊕ DeliveryStmt) with
  | .inl (_, .update u) => if e.before.base.table.updateRefused u.toUpdate then none else some u
  | _ => none

def written : Option (UpdateStmt × Row) :=
  (issued e).bind fun u => ((e.before.base.row? u.phid).filter u.guard).map fun row => (u, row)

def resumeOf : Option (String × String) :=
  match issued e with
  | some (.resumeAfterClarification doc _ targetId _) => some (doc.dispatchPhid, targetId)
  | _ => none

def resumes (p : String) (e : FleetEvent) : Bool := (resumeOf e).any (·.1 = p)

def UpdateStmt.stops : UpdateStmt → Bool
  | .markBounced .. | .requeueForRecovery .. | .markNeedsClarification .. | .markDone ..
  | .doneWithResult .. | .markFailed .. | .cancel .. | .markRetryExhausted ..
  | .markRecoveryLanded .. => true
  | _ => false

def ends (p : String) (e : FleetEvent) : Bool :=
  (written e).any fun (u, _) => u.phid = p && u.stops

def TalkResult.isOk : TalkResult → Bool
  | .ok _ => true
  | _ => false

def AgentTransportResult.isOk : AgentTransportResult → Bool
  | .ok _ => true
  | _ => false

def starts (p : String) (e : FleetEvent) : Bool :=
  match (e.stmt : (Label × Stmt) ⊕ DeliveryStmt) with
  | .inl (_, .sendTalk doc) =>
    doc.dispatchPhid = p && (e.before.base.env.sendTalk e.before.base.step doc).isOk
  | .inr (.talk _ body) =>
    body.dispatchId = p && (e.before.talk e.before.base.step body).isOk
  | _ => false

def posts : Bool :=
  match (e.stmt : (Label × Stmt) ⊕ DeliveryStmt) with
  | .inr (.talk ..) => true
  | _ => false

def claimsPending : Bool :=
  match written e with
  | some (.runClaim .., row) => row.resumeDeliveryStatus = .pending
  | _ => false

end

abbrev FleetLog := List (Nat × FleetEvent)

def lastResume (i : Nat) (es : FleetLog) : Option (String × String) :=
  (eventsOf i es).foldl (fun last e => resumeOf e <|> last) none

/-- The works of a fleet in progress together: `schedule` names, step by step, the one whose next
statement is executed. -/
structure Fleet where
  works : List FleetWork
  own : ∀ work ∈ works, work.IsOwn
  schedule : List Nat
  start : FleetWorld

namespace Fleet

def threads (run : Fleet) : List (FleetProg Unit) := run.works.map FleetWork.prog

def events (run : Fleet) : FleetLog := interleaveEvents run.schedule run.threads run.start

structure AnsweredOnce (run : Fleet) : Prop where
  delivered_once : ∀ pre i e mid j f post, run.events = pre ++ (i, e) :: (mid ++ (j, f) :: post) →
    posts e → posts f → lastResume i pre ≠ lastResume j (pre ++ (i, e) :: mid)
  started_once : ∀ p pre r mid z post, run.events = pre ++ r :: (mid ++ z :: post) →
    resumes p r.2 → (∀ e ∈ mid, ends p e.2 = false) → ends p z.2 →
    mid.countP (fun e => starts p e.2) = 1
  never_twice : ∀ p pre r mid post, run.events = pre ++ r :: (mid ++ post) →
    resumes p r.2 → (∀ e ∈ mid, ends p e.2 = false) → mid.countP (fun e => starts p e.2) ≤ 1
  unclaimed : ∀ e ∈ run.events, claimsPending e.2 = false

end Fleet

def seeWindow (p : String) (since : Option Nat) (e : FleetEvent) : Option Nat :=
  if resumes p e then some 0
  else if ends p e then none
  else if starts p e then since.map (· + 1)
  else since

def since (p : String) (es : FleetLog) : Option Nat :=
  es.foldl (fun n e => seeWindow p n e.2) none

def standing (p : String) (es : FleetLog) : Bool := (since p es).isSome

def findsOpen (e : FleetEvent) : Bool :=
  match issued e with
  | some (.resumeAfterClarification doc _ targetId _) =>
    (e.before.base.row? doc.dispatchPhid).any fun row => row.status = .needsClarification &&
      row.activeClarification.any (·.clarificationId = targetId)
  | _ => true
section
variable (es : FleetLog)

def leavesResumed (e : FleetEvent) : Bool :=
  match (e.stmt : (Label × Stmt) ⊕ DeliveryStmt) with
  | .inl (_, .sendTalk doc) => !standing doc.dispatchPhid es
  | _ => match written e with
    | some (.runClaim _ p _ _, _) => !standing p es
    | _ => true

def endsDelivered (e : FleetEvent) : Bool :=
  match written e with
  | some (u, row) =>
    !(u.stops && standing u.phid es) || row.resumeDeliveryStatus = .delivered
  | none => true

def undisturbed (e : FleetEvent) : Bool :=
  findsOpen e && leavesResumed es e && endsDelivered es e

theorem since_concat (p : String) (es : FleetLog) (i : Nat) (e : FleetEvent) :
    since p (es ++ [(i, e)]) = seeWindow p (since p es) e := by
  simp [since]

theorem lastResume_concat (i j : Nat) (e : FleetEvent) : lastResume j (es ++ [(i, e)]) =
      if i = j then (resumeOf e <|> lastResume j es) else lastResume j es := by
  have hsplit : eventsOf j (es ++ [(i, e)]) = eventsOf j es ++ eventsOf j [(i, e)] := by
    simp [eventsOf]
  unfold lastResume
  rw [hsplit]
  by_cases hij : i = j
  · subst hij
    rw [if_pos rfl, eventsOf_cons_self, eventsOf_nil, foldl_append]
    rfl
  · rw [if_neg hij, eventsOf_cons_ne hij, eventsOf_nil, append_nil]

def Resumed (a : String × String) : Prop := ∃ e ∈ es, resumeOf e.2 = some a

def Posted (a : String × String) : Prop :=
  ∃ pre i e post, es = pre ++ (i, e) :: post ∧ posts e ∧ lastResume i pre = some a

end

theorem resumed_concat : Resumed (es ++ [(i, e)]) a ↔ Resumed es a ∨ resumeOf e = some a := by
  simp [Resumed, or_and_right, exists_or]

theorem posted_concat :
    Posted (es ++ [(i, e)]) a ↔ Posted es a ∨ posts e ∧ lastResume i es = some a := by
  constructor
  · rintro ⟨pre, j, f, post, hsplit, hposts, hlast⟩
    rcases eq_nil_or_concat post with rfl | ⟨post, g, rfl⟩
    · have hinj := append_inj' hsplit rfl
      obtain ⟨rfl, hlast'⟩ := hinj
      cases hlast'
      exact .inr ⟨hposts, hlast⟩
    · rw [concat_eq_append, ← cons_append, ← append_assoc] at hsplit
      obtain ⟨rfl, _⟩ := append_inj' hsplit rfl
      exact .inl ⟨pre, j, f, post, rfl, hposts, hlast⟩
  · rintro (⟨pre, j, f, post, rfl, hposts, hlast⟩ | ⟨hposts, hlast⟩)
    · exact ⟨pre, j, f, post ++ [(i, e)], by simp, hposts, hlast⟩
    · exact ⟨es, i, e, [], rfl, hposts, hlast⟩

theorem seeWindow_quiet (hresume : resumeOf e = none) (hends : ends p e = false)
    (hstarts : starts p e = false) : seeWindow p n e = n := by
  simp [seeWindow, resumes, hresume, hends, hstarts]

theorem written_none_of_issued (h : issued e = none) : written e = none := by
  simp [written, h]

theorem resumeOf_none_of_issued (h : issued e = none) : resumeOf e = none := by
  simp [resumeOf, h]

theorem ends_of_written (h : written e = none) : ends p e = false := by
  simp [ends, h]

variable {e : FleetEvent}

theorem issued_eq_some (h : issued e = some u) :
    (∃ l, e.stmt = .inl (l, .update u)) ∧ e.before.base.table.updateRefused u.toUpdate = false := by
  obtain ⟨⟨l, c⟩ | c, w⟩ := e
  · cases c with
    | update v =>
      simp only [issued] at h
      split at h
      · cases h
      · next hrefused =>
        cases h
        exact ⟨⟨l, rfl⟩, eq_false_of_ne_true hrefused⟩
    | _ => cases h
  · cases h

theorem written_eq_some (h : written e = some (u, row)) :
    issued e = some u ∧ e.before.base.row? u.phid = some row ∧ u.guard row ∧
      e.after.base.row? u.phid = some (u.set row) ∧
      ∀ q, q ≠ u.phid → e.after.base.row? q = e.before.base.row? q := by
  obtain ⟨v, hissued, hrow⟩ := Option.bind_eq_some_iff.mp h
  obtain ⟨r, hr, hpair⟩ := Option.map_eq_some_iff.mp hrow
  cases hpair
  obtain ⟨hrow, hg⟩ := Option.filter_eq_some_iff.mp hr
  obtain ⟨⟨l, hstmt⟩, hrefused⟩ := issued_eq_some hissued
  obtain ⟨c, w⟩ := e
  cases hstmt
  refine ⟨hissued, hrow, hg, UpdateStmt.row?_effect_self hrow hg hrefused, fun q hq => ?_⟩
  exact Table.get?_update_ne (Ne.symm hq)

theorem row?_of_unwritten (hwritten : written e = none) (hrow : e.after.base.row? p = some row) :
    e.before.base.row? p = some row ∨ ∃ l, e.stmt = .inl (l, .insert row) := by
  obtain ⟨⟨l, c⟩ | c, w⟩ := e
  · cases c with
    | insert new =>
      by_cases hp : new.dispatchPhid = p
      · subst hp
        by_cases hrefused : w.base.table.insertRefused new
        · have htable : w.base.table.insert new = w.base.table := Table.insert_of_refused hrefused
          have hget : (w.base.table.insert new).get? new.dispatchPhid = some row := hrow
          rw [htable] at hget
          exact .inl hget
        · have hself := (Table.get?_insert_self (eq_false_of_ne_true hrefused)).2
          obtain rfl := Option.some.inj (hself.symm.trans hrow)
          exact .inr ⟨l, rfl⟩
      · have hget := Table.get?_insert_ne (t := w.base.table) hp
        exact .inl (hget.symm.trans hrow)
    | update u =>
      have hget : (w.base.table.update u.toUpdate).get? p = some row := hrow
      by_cases hrefused : w.base.table.updateRefused u.toUpdate
      · rw [Table.update_of_refused hrefused] at hget
        exact .inl hget
      · by_cases hp : u.phid = p
        · subst hp
          have hsome : (w.base.table.get? u.phid).isSome := by
            rw [← Table.get?_isSome_update w.base.table u.toUpdate, hget]
            rfl
          obtain ⟨old, hold⟩ := Option.isSome_iff_exists.mp hsome
          have hmiss : u.guard old = false := by
            rw [Bool.eq_false_iff]
            intro hg
            have hfound : w.base.row? u.phid = some old := hold
            simp [written, issued, hrefused, hfound, hg] at hwritten
          rcases Table.get?_update_cases u.toUpdate hold with hsame | ⟨_, hg, _⟩
          · exact .inl (hold.trans (hsame.symm.trans hget))
          · exact absurd hg (by rw [show u.toUpdate.guard old = u.guard old from rfl, hmiss]; simp)
        · have hsame := Table.get?_update_ne (t := w.base.table) (u := u.toUpdate) hp
          exact .inl (hsame.symm.trans hget)
    | _ => exact .inl hrow
  · exact .inl hrow

theorem starts_of_update (h : issued e = some u) : starts p e = false := by
  obtain ⟨⟨l, hl⟩, _⟩ := issued_eq_some h
  obtain ⟨c, w⟩ := e
  cases hl
  rfl

theorem posts_of_update (h : issued e = some u) : posts e = false := by
  obtain ⟨⟨l, hl⟩, _⟩ := issued_eq_some h
  obtain ⟨c, w⟩ := e
  cases hl
  rfl

theorem seeWindow_of_written (hw : written e = some (u, row)) (hresume : resumeOf e = none)
    (p : String) : seeWindow p n e = if u.phid = p ∧ u.stops then none else n := by
  have hends : ends p e = decide (u.phid = p ∧ u.stops) := by
    simp [ends, hw]
  obtain ⟨hissued, _⟩ := written_eq_some hw
  simp only [seeWindow, resumes, hresume, hends, starts_of_update hissued]
  simp

theorem not_standing_of_claim (h : leavesResumed es e)
    (hw : written e = some (.runClaim call p n now, row)) : standing p es = false := by
  obtain ⟨⟨l, hstmt⟩, _⟩ := issued_eq_some (written_eq_some hw).1
  obtain ⟨s, w⟩ := e
  cases hstmt
  simpa [leavesResumed, hw] using h

namespace Fleet

def phase (es : FleetLog) (i : Nat) : ResumePhase := resumeScript.ghost (fun _ => .idle) es i

def Known (run : Fleet) (step : Nat) (c : String) : Prop :=
  (∃ n < step, run.start.base.env.mintClarificationId n = c) ∨
    ∃ p row, run.start.base.row? p = some row ∧ row.activeId = some c

def view (run : Fleet) (es : FleetLog) (w : FleetWorld) : FleetView where
  phase := phase es
  since p := since p es
  resumed := Resumed es
  posted := Posted es
  last i := lastResume i es
  known := run.Known w.base.step
  rows := w.base.row?

structure MintsFresh (run : Fleet) : Prop where
  injective : Function.Injective run.start.base.env.mintClarificationId
  unused : ∀ n p row, run.start.base.row? p = some row →
    row.activeId ≠ some (run.start.base.env.mintClarificationId n)

variable {run : Fleet}

theorem not_known_minted (h : run.MintsFresh) (n : Nat) :
    ¬ run.Known n (run.start.base.env.mintClarificationId n) := by
  rintro (⟨m, hm, hmint⟩ | ⟨p, row, hrow, hactive⟩)
  · exact absurd (h.injective hmint) (Nat.ne_of_lt hm)
  · exact h.unused n p row hrow hactive

theorem Known.succ (h : run.Known n c) : run.Known (n + 1) c := by
  rcases h with ⟨m, hm, hmint⟩ | hstart
  · exact .inl ⟨m, Nat.lt_succ_of_lt hm, hmint⟩
  · exact .inr hstart

theorem step_after (e : FleetEvent) : e.after.base.step = e.before.base.step + 1 := by
  obtain ⟨⟨l, c⟩ | c, w⟩ := e <;> rfl

theorem env_after (e : FleetEvent) : e.after.base.env = e.before.base.env := by
  obtain ⟨⟨l, c⟩ | c, w⟩ := e <;> rfl

def moved (es : FleetLog) (i : Nat) (e : FleetEvent) : ResumePhase :=
  resumeScript.see (phase es i) e.stmt (Store.answer e.stmt e.before)
section
variable (run : Fleet)

theorem view_moves (es : FleetLog) (i : Nat) (e : FleetEvent) :
    FleetView.Moves (run.view es e.before) (run.view (es ++ [(i, e)]) e.after) i (moved es i e) := by
  intro j
  change _ ∧ phase (es ++ [(i, e)]) j = _ ∨ _ ∧ phase (es ++ [(i, e)]) j = phase es j
  rw [phase]
  rw [Script.ghost_concat]
  by_cases hij : i = j
  · subst hij
    exact .inl ⟨rfl, if_pos rfl⟩
  · exact .inr ⟨Ne.symm hij, if_neg hij⟩

theorem view_known (es es' : FleetLog) (e : FleetEvent) (c : String)
    (h : (run.view es e.before).known c) : (run.view es' e.after).known c := by
  change run.Known e.after.base.step c
  rw [step_after]
  exact Known.succ h

structure Idle (e : FleetEvent) : Prop where
  resume : resumeOf e = none
  post : posts e = false

theorem view_resumed (h : Idle e) (es : FleetLog) (i : Nat) :
    (run.view (es ++ [(i, e)]) e.after).resumed = (run.view es e.before).resumed := by
  funext a
  change Resumed (es ++ [(i, e)]) a = Resumed es a
  rw [resumed_concat, h.resume]
  simp

theorem view_posted (h : Idle e) (es : FleetLog) (i : Nat) :
    (run.view (es ++ [(i, e)]) e.after).posted = (run.view es e.before).posted := by
  funext a
  change Posted (es ++ [(i, e)]) a = Posted es a
  rw [posted_concat, h.post]
  simp

theorem view_last (h : resumeOf e = none) (es : FleetLog) (i : Nat) :
    (run.view (es ++ [(i, e)]) e.after).last = (run.view es e.before).last := by
  funext j
  change lastResume j (es ++ [(i, e)]) = lastResume j es
  rw [lastResume_concat, h]
  split <;> simp

end

section
variable {run : Fleet} {es : FleetLog} {i : Nat} {e : FleetEvent} (h : (run.view es e.before).Sound)
include h

theorem sound_keep (hidle : Idle e) (hphase : moved es i e = phase es i ∨ moved es i e = .idle)
    (hrow : ∀ p row', e.after.base.row? p = some row' →
      FleetView.Plain (run.view es e.before) p row')
    (hends : ∀ p, seeWindow p (since p es) e = since p es ∨ seeWindow p (since p es) e = none ∧
      ∃ row, e.before.base.row? p = some row ∧ row.resumeDeliveryStatus = .delivered) :
    (run.view (es ++ [(i, e)]) e.after).Sound := by
  apply h.keep
  · intro j
    rcases run.view_moves es i e j with ⟨rfl, hg⟩ | ⟨_, hg⟩
    · rw [hg]
      exact hphase
    · exact .inl hg
  · exact hrow
  · intro p
    change since p (es ++ [(i, e)]) = since p es ∨ since p (es ++ [(i, e)]) = none ∧ _
    rw [since_concat]
    exact hends p
  · exact run.view_resumed hidle es i
  · exact run.view_posted hidle es i
  · exact run.view_last hidle.resume es i
  · exact run.view_known es _ e

theorem sound_unwritten (hidle : Idle e) (hphase : moved es i e = phase es i ∨ moved es i e = .idle)
    (hwritten : written e = none) (hinsert : ∀ l row, e.stmt = .inl (l, .insert row) → Enqueued row)
    (hstarts : ∀ p, starts p e → since p es = none) :
    (run.view (es ++ [(i, e)]) e.after).Sound := by
  apply sound_keep h hidle hphase
  · intro p row' hrow'
    rcases row?_of_unwritten hwritten hrow' with hsame | ⟨l, hstmt⟩
    · exact .inl ⟨row', hsame, rfl, rfl, fun hs => hs⟩
    · obtain ⟨input, promotion, phid, now, rfl⟩ := hinsert l row' hstmt
      exact .inr ⟨rfl, rfl, by simp [enqueuedRow]⟩
  · intro p
    left
    cases hs : starts p e with
    | false => exact seeWindow_quiet hidle.resume (ends_of_written hwritten) hs
    | true =>
      rw [hstarts p hs]
      simp [seeWindow, resumes, hidle.resume, ends_of_written hwritten]

end

section
variable {run : Fleet} {es : FleetLog} {i : Nat} {e : FleetEvent} (h : (run.view es e.before).Sound)
include h

theorem sound_mint (hfresh : run.MintsFresh) (henv : e.before.base.env = run.start.base.env)
    (hstmt : e.stmt = .inl (l, .mintClarificationId)) :
    (run.view (es ++ [(i, e)]) e.after).Sound := by
  obtain ⟨c, w⟩ := e
  cases hstmt
  have hidle : Idle (⟨.inl (l, .mintClarificationId), w⟩ : FleetEvent) := ⟨rfl, rfl⟩
  have hmint : w.base.env.mintClarificationId w.base.step =
      run.start.base.env.mintClarificationId w.base.step :=
    congrFun (congrArg Environment.mintClarificationId henv) w.base.step
  apply h.mint (i := i) (c := w.base.env.mintClarificationId w.base.step)
  · rw [hmint]
    exact not_known_minted hfresh w.base.step
  · exact run.view_moves es i _
  · rfl
  · funext p
    exact (since_concat p es i _).trans (seeWindow_quiet rfl rfl rfl)
  · exact run.view_resumed hidle es i
  · exact run.view_posted hidle es i
  · exact run.view_last rfl es i
  · rintro c (hc | rfl)
    · exact run.view_known es _ ⟨.inl (l, .mintClarificationId), w⟩ c hc
    · exact .inl ⟨w.base.step, Nat.lt_succ_self _, hmint.symm⟩

theorem sound_ask (hw : written e = some (.markNeedsClarification doc input c now, row))
    (hdue : phase es i = .asking c)
    (hends : endsDelivered es e) : (run.view (es ++ [(i, e)]) e.after).Sound := by
  obtain ⟨hissued, hrow, _, hrow', hothers⟩ := written_eq_some hw
  obtain ⟨⟨l, hstmt⟩, _⟩ := issued_eq_some hissued
  have hidle : Idle e := ⟨by simp [resumeOf, hissued], posts_of_update hissued⟩
  have hsee : ∀ p, since p (es ++ [(i, e)]) = if doc.dispatchPhid = p then none else since p es := by
    intro p
    rw [since_concat, seeWindow_of_written hw hidle.resume]
    simp [UpdateStmt.phid, UpdateStmt.stops]
  have hmoved : moved es i e = .idle := by
    obtain ⟨s, w⟩ := e
    cases hstmt
    rfl
  have hmoves := run.view_moves es i e
  rw [hmoved] at hmoves
  apply h.ask (p := doc.dispatchPhid) hdue hmoves hrow hrow' rfl rfl hothers
  · exact (hsee _).trans (if_pos rfl)
  · exact fun q hq => (hsee q).trans (if_neg (Ne.symm hq))
  · change since doc.dispatchPhid es = none ∨ _
    simp only [endsDelivered, hw, UpdateStmt.stops, UpdateStmt.phid, standing, Bool.true_and,
      Bool.or_eq_true, Bool.not_eq_true', Option.isSome_eq_false_iff, decide_eq_true_eq,
      Option.isNone_iff_eq_none] at hends
    exact hends
  · exact run.view_resumed hidle es i
  · exact run.view_posted hidle es i
  · exact run.view_last hidle.resume es i
  · exact run.view_known es _ e

theorem sound_resume (hissued : issued e = some (.resumeAfterClarification doc input c now))
    (hfinds : findsOpen e) : (run.view (es ++ [(i, e)]) e.after).Sound := by
  obtain ⟨⟨l, hstmt⟩, hrefused⟩ := issued_eq_some hissued
  obtain ⟨row, hrow, hopen⟩ : ∃ row, e.before.base.row? doc.dispatchPhid = some row ∧
      (row.status = .needsClarification && row.activeClarification.any
        (·.clarificationId = c)) = true := by
    simp only [findsOpen, hissued, Option.any_eq_true] at hfinds
    exact hfinds
  simp only [Bool.and_eq_true, decide_eq_true_eq, Option.any_eq_true] at hopen
  obtain ⟨hneeds, blocker, hactive, hid⟩ := hopen
  have hw : written e = some (.resumeAfterClarification doc input c now, row) := by
    simp [written, hissued, UpdateStmt.phid, hrow, UpdateStmt.guard]
  obtain ⟨_, _, _, hrow', hothers⟩ := written_eq_some hw
  have hresume : resumeOf e = some (doc.dispatchPhid, c) := by simp [resumeOf, hissued]
  have hposts : posts e = false := posts_of_update hissued
  have hmoved : moved es i e = .answering doc.dispatchPhid c := by
    obtain ⟨s, w⟩ := e
    cases hstmt
    change (phase es i).write (.resumeAfterClarification doc input c now)
      (Stmt.answer (.update (.resumeAfterClarification doc input c now)) w.base) = _
    have hanswer : Stmt.answer (.update (.resumeAfterClarification doc input c now)) w.base =
        some (w.base.table.rowCount (UpdateStmt.resumeAfterClarification doc input c now).toUpdate) :=
      if_neg (by rw [hrefused]; simp)
    rw [hanswer]
    rfl
  have hmoves := run.view_moves es i e
  rw [hmoved] at hmoves
  apply h.resume (p := doc.dispatchPhid) (c := c) hmoves hrow _ hneeds hrow' rfl rfl
  · simp [UpdateStmt.set]
  · exact hothers
  · change since _ (es ++ [(i, e)]) = some 0
    rw [since_concat]
    simp [seeWindow, resumes, hresume]
  · intro q hq
    change since q (es ++ [(i, e)]) = since q es
    rw [since_concat]
    have hends : ends q e = false := by simp [ends, hw, UpdateStmt.stops]
    simp [seeWindow, resumes, hresume, Ne.symm hq, hends, starts_of_update hissued]
  · intro a
    change Resumed (es ++ [(i, e)]) a ↔ Resumed es a ∨ a = _
    rw [resumed_concat, hresume]
    simp [eq_comm]
  · funext a
    change Posted (es ++ [(i, e)]) a = Posted es a
    rw [posted_concat, hposts]
    simp
  · change lastResume i (es ++ [(i, e)]) = _
    rw [lastResume_concat, if_pos rfl, hresume]
    rfl
  · intro j hj
    change lastResume j (es ++ [(i, e)]) = lastResume j es
    rw [lastResume_concat, if_neg (Ne.symm hj)]
  · exact run.view_known es _ e
  · simp [Row.activeId, hactive, hid]

theorem sound_conclude (hw : written e = some (u, row)) (hdue : (phase es i).About u.phid)
    (hresume : resumeOf e = none) (hmoved : moved es i e = .idle) (hstops : u.stops = false)
    (hactive : (u.set row).activeId = row.activeId)
    (hstatus : (u.set row).resumeDeliveryStatus = .delivered ∧ since u.phid es = some 1 ∨
      (u.set row).resumeDeliveryStatus = .failed)
    (hneeds : (u.set row).status = .needsClarification → row.status = .needsClarification) :
    (run.view (es ++ [(i, e)]) e.after).Sound := by
  obtain ⟨hissued, hrow, _, hrow', hothers⟩ := written_eq_some hw
  have hidle : Idle e := ⟨hresume, posts_of_update hissued⟩
  have hmoves := run.view_moves es i e
  rw [hmoved] at hmoves
  apply h.conclude (p := u.phid) hdue hmoves hrow hrow' hactive hstatus hneeds hothers
  · funext p
    refine (since_concat p es i e).trans ?_
    rw [seeWindow_of_written hw hresume]
    simp [hstops, view]
  · exact run.view_resumed hidle es i
  · exact run.view_posted hidle es i
  · exact run.view_last hresume es i
  · exact run.view_known es _ e

theorem sound_delivered (hw : written e = some (.markResumeDelivered doc input now, row))
    (hdue : phase es i = .told doc.dispatchPhid) : (run.view (es ++ [(i, e)]) e.after).Sound := by
  obtain ⟨hissued, _⟩ := written_eq_some hw
  obtain ⟨⟨l, hstmt⟩, _⟩ := issued_eq_some hissued
  have hmoved : moved es i e = .idle := by
    obtain ⟨s, w⟩ := e
    cases hstmt
    rfl
  have habout : (phase es i).About doc.dispatchPhid := by
    rw [hdue]
    rfl
  have hstands := h.stands i
  rw [show (run.view es e.before).phase i = .told doc.dispatchPhid from hdue] at hstands
  exact sound_conclude h hw habout (by simp [resumeOf, hissued]) hmoved rfl rfl
    (.inl ⟨rfl, hstands.1⟩) fun hs => hs

theorem sound_undelivered (hw : written e = some (.markResumeDeliveryFailed doc input now, row))
    (hdue : (phase es i).About doc.dispatchPhid) : (run.view (es ++ [(i, e)]) e.after).Sound := by
  obtain ⟨hissued, _⟩ := written_eq_some hw
  obtain ⟨⟨l, hstmt⟩, _⟩ := issued_eq_some hissued
  have hmoved : moved es i e = .idle := by
    obtain ⟨s, w⟩ := e
    cases hstmt
    rfl
  exact sound_conclude h hw hdue (by simp [resumeOf, hissued]) hmoved rfl rfl (.inr rfl)
    (by simp [UpdateStmt.set])

end

section
variable {run : Fleet} {es : FleetLog} {i : Nat} {e : FleetEvent} (h : (run.view es e.before).Sound)
include h

theorem sound_post (hstmt : e.stmt = .inr (.talk endpoint body))
    (hdue : phase es i = .answering body.dispatchId c) :
    (run.view (es ++ [(i, e)]) e.after).Sound := by
  obtain ⟨s, w⟩ := e
  cases hstmt
  have hmoved : moved es i ⟨.inr (.talk endpoint body), w⟩ =
      if (w.talk w.base.step body).isOk then .told body.dispatchId
      else .refused body.dispatchId := by
    change ResumePhase.hear body (w.talk w.base.step body) = _
    cases w.talk w.base.step body <;> rfl
  have hmoves := run.view_moves es i ⟨.inr (.talk endpoint body), w⟩
  rw [hmoved] at hmoves
  have hlast : lastResume i es = some (body.dispatchId, c) := by
    have hstands := h.stands i
    rw [show (run.view es w).phase i = .answering body.dispatchId c from hdue] at hstands
    exact hstands.2.1
  have hstarts : ∀ p, starts p (⟨.inr (.talk endpoint body), w⟩ : FleetEvent) =
      (decide (body.dispatchId = p) && (w.talk w.base.step body).isOk) := fun _ => rfl
  apply h.post (p := body.dispatchId) (c := c) hdue hmoves
  · rfl
  · change since _ (es ++ [(i, _)]) = _
    rw [since_concat, seeWindow, hstarts]
    simp [resumes, resumeOf, issued, ends, written, view]
  · intro q hq
    change since _ (es ++ [(i, _)]) = _
    rw [since_concat]
    apply seeWindow_quiet rfl rfl
    rw [hstarts]
    simp [Ne.symm hq]
  · funext a
    change Resumed (es ++ [(i, _)]) a = Resumed es a
    rw [resumed_concat]
    simp [resumeOf, issued]
  · intro a
    change Posted (es ++ [(i, _)]) a ↔ Posted es a ∨ a = _
    rw [posted_concat, hlast]
    simp [posts, eq_comm]
  · exact run.view_last rfl es i
  · exact run.view_known es _ ⟨.inr (.talk endpoint body), w⟩

theorem sound_plain (hw : written e = some (u, row)) (hresume : resumeOf e = none)
    (hmoved : moved es i e = phase es i) (hends : endsDelivered es e)
    (hactive : (u.set row).activeId = row.activeId)
    (hstatus : (u.set row).resumeDeliveryStatus = row.resumeDeliveryStatus)
    (hneeds : (u.set row).status = .needsClarification → row.status = .needsClarification) :
    (run.view (es ++ [(i, e)]) e.after).Sound := by
  obtain ⟨hissued, hrow, _, hrow', hothers⟩ := written_eq_some hw
  apply sound_keep h ⟨hresume, posts_of_update hissued⟩ (.inl hmoved)
  · intro p row' hp
    by_cases hq : p = u.phid
    · subst hq
      obtain rfl := Option.some.inj (hrow'.symm.trans hp)
      exact .inl ⟨row, hrow, hactive, hstatus, hneeds⟩
    · rw [hothers p hq] at hp
      exact .inl ⟨row', hp, rfl, rfl, fun hs => hs⟩
  · intro p
    rw [seeWindow_of_written hw hresume]
    split
    · next hstops =>
      obtain ⟨rfl, hstops⟩ := hstops
      simp only [endsDelivered, hw, hstops, standing, Bool.true_and, Bool.or_eq_true,
        Bool.not_eq_true', Option.isSome_eq_false_iff, decide_eq_true_eq,
        Option.isNone_iff_eq_none] at hends
      rcases hends with hnone | hd
      · exact .inl hnone.symm
      · exact .inr ⟨rfl, row, hrow, hd⟩
    · exact .inl rfl

end

theorem write_keeps (g : ResumePhase) (u : UpdateStmt) (n : Option Nat)
    (h : (∃ doc input c now, u = .resumeAfterClarification doc input c now) → n = none) :
    g.write u n = g ∨ g.write u n = .idle := by
  cases u with
  | resumeAfterClarification doc input c now =>
    rw [h ⟨doc, input, c, now, rfl⟩]
    exact .inr rfl
  | markNeedsClarification | markResumeDelivered | markResumeDeliveryFailed => exact .inr rfl
  | _ => exact .inl rfl

variable {es : FleetLog} {i : Nat}

theorem sound_update (h : (run.view es w).Sound) (hdue : u.DueAt (phase es i))
    (hcalm : undisturbed es ⟨.inl (l, .update u), w⟩) :
    (run.view (es ++ [(i, ⟨.inl (l, .update u), w⟩)])
      (⟨.inl (l, .update u), w⟩ : FleetEvent).after).Sound := by
  let e : FleetEvent := ⟨.inl (l, .update u), w⟩
  have hview : (run.view es e.before).Sound := h
  obtain ⟨⟨hfinds, _⟩, hends⟩ : (findsOpen e ∧ leavesResumed es e) ∧ endsDelivered es e := by
    simpa [undisturbed] using hcalm
  have hunwritten : written e = none →
      ((∃ doc input c now, u = .resumeAfterClarification doc input c now) → issued e = none) →
      (run.view (es ++ [(i, e)]) e.after).Sound := by
    intro hw hnone
    have hresume : resumeOf e = none := by
      cases hissued : issued e with
      | none => exact resumeOf_none_of_issued hissued
      | some v =>
        obtain ⟨⟨l', hstmt⟩, _⟩ := issued_eq_some hissued
        cases hstmt
        cases u with
        | resumeAfterClarification doc input c now =>
          cases hissued.symm.trans (hnone ⟨doc, input, c, now, rfl⟩)
        | _ => simp [resumeOf, hissued]
    apply sound_unwritten hview ⟨hresume, rfl⟩
    · apply write_keeps
      intro hu
      have hissued : (if w.base.table.updateRefused u.toUpdate then none else some u) = none :=
        hnone hu
      change Stmt.answer (.update u) w.base = none
      simp only [Stmt.answer]
      split at hissued
      · next hrefused => exact if_pos hrefused
      · cases hissued
    · exact hw
    · exact fun _ _ hstmt => by cases hstmt
    · exact fun _ hs => by cases hs
  cases hissued : issued e with
  | none => exact hunwritten (written_none_of_issued hissued) fun _ => hissued
  | some v =>
    obtain ⟨⟨l', hstmt⟩, _⟩ := issued_eq_some hissued
    cases hstmt
    cases u with
    | resumeAfterClarification doc input c now => exact sound_resume hview hissued hfinds
    | markNeedsClarification doc input c now =>
      cases hw : written e with
      | none => exact hunwritten hw (by rintro ⟨_, _, _, _, hu⟩; cases hu)
      | some p =>
        obtain ⟨u', row⟩ := p
        obtain rfl := Option.some.inj ((written_eq_some hw).1.symm.trans hissued)
        exact sound_ask hview hw hdue hends
    | markResumeDelivered doc input now =>
      cases hw : written e with
      | none => exact hunwritten hw (by rintro ⟨_, _, _, _, hu⟩; cases hu)
      | some p =>
        obtain ⟨u', row⟩ := p
        obtain rfl := Option.some.inj ((written_eq_some hw).1.symm.trans hissued)
        exact sound_delivered hview hw hdue
    | markResumeDeliveryFailed doc input now =>
      cases hw : written e with
      | none => exact hunwritten hw (by rintro ⟨_, _, _, _, hu⟩; cases hu)
      | some p =>
        obtain ⟨u', row⟩ := p
        obtain rfl := Option.some.inj ((written_eq_some hw).1.symm.trans hissued)
        apply sound_undelivered hview hw
        rcases hdue with ⟨c, hp⟩ | hp <;> rw [hp] <;> rfl
    | _ =>
      cases hw : written e with
      | none => exact hunwritten hw (by rintro ⟨_, _, _, _, hu⟩; cases hu)
      | some p =>
        obtain ⟨u', row⟩ := p
        obtain rfl := Option.some.inj ((written_eq_some hw).1.symm.trans hissued)
        apply sound_plain hview hw (by simp [resumeOf, hissued]) rfl hends rfl rfl
        first | exact fun hs => hs | (intro hs; cases hs)

theorem sound_step (hfresh : run.MintsFresh) (henv : e.before.base.env = run.start.base.env)
    (h : (run.view es e.before).Sound) (hdue : resumeScript.due (phase es i) e.stmt)
    (hcalm : undisturbed es e) : (run.view (es ++ [(i, e)]) e.after).Sound := by
  obtain ⟨⟨l, c⟩ | c, w⟩ := e
  · cases c with
    | update u => exact sound_update h hdue hcalm
    | mintClarificationId => exact sound_mint h hfresh henv rfl
    | insert row =>
      apply sound_unwritten h ⟨rfl, rfl⟩ (.inl rfl) rfl
      · rintro l' row' ⟨⟩
        exact hdue
      · exact fun p hs => nomatch hs
    | sendTalk doc =>
      apply sound_unwritten h ⟨rfl, rfl⟩ (.inl rfl) rfl
      · exact fun _ _ hstmt => nomatch hstmt
      · intro p hs
        have hleaves : standing doc.dispatchPhid es = false := by
          have hcalm' : (true && !standing doc.dispatchPhid es && true) = true := hcalm
          simpa using hcalm'
        have hp : (decide (doc.dispatchPhid = p) &&
            (w.base.env.sendTalk w.base.step doc).isOk) = true := hs
        simp only [Bool.and_eq_true, decide_eq_true_eq] at hp
        rw [← hp.1]
        simpa [standing] using hleaves
    | _ =>
      apply sound_unwritten h ⟨rfl, rfl⟩ (.inl rfl) rfl
      · exact fun _ _ hstmt => nomatch hstmt
      · exact fun p hs => nomatch hs
  · cases c with
    | talk endpoint body =>
      obtain ⟨c, hc⟩ := hdue
      exact sound_post h rfl hc
    | _ =>
      apply sound_unwritten h ⟨rfl, rfl⟩ (.inl rfl) rfl
      · exact fun _ _ hstmt => nomatch hstmt
      · exact fun p hs => nomatch hs

structure Undisturbed (run : Fleet) : Prop where
  start : ∀ p row, run.start.base.row? p = some row → row.resumeDeliveryStatus ≠ .pending
  steps : ∀ es i e fs, run.events = es ++ (i, e) :: fs → undisturbed es e

theorem sound_start
    (h : ∀ p row, run.start.base.row? p = some row → row.resumeDeliveryStatus ≠ .pending) :
    (run.view [] run.start).Sound where
  ids := {
    asking_known := nofun
    asking_new := nofun
    asking_free := nofun
    asking_once := nofun
    open_known := fun hr ha => .inr ⟨_, _, hr, ha⟩
    open_new := fun _ _ ⟨_, he, _⟩ => nomatch he
    resumed_known := fun ⟨_, he, _⟩ => nomatch he
    posted_resumed := by
      rintro a ⟨pre, i, e, post, hsplit, _⟩
      cases pre <;> cases hsplit }
  stands i := trivial
  about_once hi := nomatch hi
  window p := ⟨nofun, nofun, nofun, fun hr hp => absurd hp (h p _ hr)⟩
section
variable (run : Fleet)

theorem threads_keep (hi : run.threads[i]? = some p) : KeepsScript p .idle := by
  simp only [threads, getElem?_map, Option.map_eq_some_iff] at hi
  obtain ⟨work, hwork, rfl⟩ := hi
  exact FleetWork.follows (run.own work (mem_of_getElem? hwork))

theorem due (hsplit : run.events = es ++ (i, e) :: fs) : resumeScript.due (phase es i) e.stmt :=
  interleave_keeps (R := fun _ _ _ => True) run.schedule run.start
    (fun _ _ hi => run.threads_keep hi) es i e fs hsplit

theorem sound_moments (hfresh : run.MintsFresh) (hcalm : run.Undisturbed) :
    (∃ w, (run.view run.events w).Sound) ∧
      ∀ es i e fs, run.events = es ++ (i, e) :: fs → (run.view es e.before).Sound := by
  let I (es : FleetLog) (w : FleetWorld) : Prop :=
    w.base.env = run.start.base.env ∧ (run.view es w).Sound
  have hstep : ∀ es i e fs, run.events = es ++ (i, e) :: fs → I es e.before →
      I (es ++ [(i, e)]) e.after := by
    rintro es i e fs hsplit ⟨henv, hsound⟩
    refine ⟨(env_after e).trans henv, ?_⟩
    exact sound_step hfresh henv hsound (run.due hsplit) (hcalm.steps es i e fs hsplit)
  obtain ⟨⟨_, hend⟩, hall⟩ := interleave_invariant (I := I) run.schedule run.start
    ⟨rfl, sound_start hcalm.start⟩ hstep
  exact ⟨⟨_, hend⟩, fun es i e fs hsplit => (hall es i e fs hsplit).2⟩

theorem sound_run (hfresh : run.MintsFresh) (hcalm : run.Undisturbed)
    (hsplit : run.events = es ++ (i, e) :: fs) : (run.view es e.before).Sound :=
  (run.sound_moments hfresh hcalm).2 es i e fs hsplit

theorem sound_take (hfresh : run.MintsFresh) (hcalm : run.Undisturbed)
    (hsplit : run.events = es ++ fs) : ∃ w, (run.view es w).Sound := by
  cases fs with
  | nil =>
    rw [append_nil] at hsplit
    rw [← hsplit]
    exact (run.sound_moments hfresh hcalm).1
  | cons x fs => exact ⟨_, run.sound_run hfresh hcalm hsplit⟩

end

theorem not_resumes_standing
    (h : (run.view es e.before).Sound) (hfinds : findsOpen e) (hs : (since p es).isSome) :
    resumes p e = false := by
  rw [Bool.eq_false_iff]
  intro hresumes
  simp only [resumes, Option.any_eq_true] at hresumes
  obtain ⟨a, ha, hp⟩ := hresumes
  rw [resumeOf] at ha
  split at ha
  · next doc input c now hissued =>
    cases ha
    simp only [decide_eq_true_eq] at hp
    subst hp
    simp only [findsOpen, hissued, Option.any_eq_true] at hfinds
    obtain ⟨row, hrow, hopen⟩ := hfinds
    simp only [Bool.and_eq_true, decide_eq_true_eq] at hopen
    exact (h.window doc.dispatchPhid).resumed hs hrow hopen.1
  · cases ha

theorem since_window (run : Fleet) (hfresh : run.MintsFresh) (hcalm : run.Undisturbed)
    (hsplit : run.events = pre ++ r :: (mid ++ post))
    (hresumes : resumes p r.2) (hends : ∀ e ∈ mid, ends p e.2 = false) :
    since p (pre ++ r :: mid) = some (mid.countP fun e => starts p e.2) := by
  induction mid using reverseRecOn generalizing post with
  | nil =>
    obtain ⟨i, e⟩ := r
    rw [since_concat]
    simp [seeWindow, hresumes]
  | append_singleton mid x ih =>
    obtain ⟨j, f⟩ := x
    rw [append_assoc] at hsplit
    have hcount := ih hsplit fun e he => hends e (mem_append_left _ he)
    have hsplit' : run.events = (pre ++ r :: mid) ++ (j, f) :: post := by
      rw [hsplit]
      simp
    have hsound := run.sound_run hfresh hcalm hsplit'
    have hfinds : findsOpen f := by
      have hstep := hcalm.steps _ _ _ _ hsplit'
      simp only [undisturbed, Bool.and_eq_true] at hstep
      exact hstep.1.1
    have hagain : resumes p f = false := not_resumes_standing hsound hfinds (by rw [hcount]; rfl)
    have hgoes : ends p f = false := hends (j, f) (by simp)
    rw [← cons_append, ← append_assoc, since_concat, hcount, countP_append]
    simp only [seeWindow, hagain, hgoes, Bool.false_eq_true, if_false, countP_cons,
      countP_nil, Nat.zero_add]
    split <;> simp_all

def calmAfter (past : FleetLog) : FleetLog → Bool
  | [] => true
  | x :: xs => undisturbed past x.2 && calmAfter (past ++ [x]) xs

theorem calmAfter_split (h : calmAfter past xs)
    (hsplit : xs = es ++ (i, e) :: fs) : undisturbed (past ++ es) e := by
  induction es generalizing past xs with
  | nil =>
    subst hsplit
    simp only [nil_append, calmAfter, Bool.and_eq_true] at h
    rw [append_nil]
    exact h.1
  | cons x es ih =>
    subst hsplit
    simp only [cons_append, calmAfter, Bool.and_eq_true] at h
    have hrest := ih h.2 rfl
    rwa [append_assoc] at hrest

def pausedRow : Row :=
  { freshRow "d" with
    status := .needsClarification
    attemptCount := 1
    clarificationId := some "clar"
    activeClarification := some
      { clarificationId := "clar", agentId := "coder", queryId := none, question := "which?"
        context := none, urgency := .normal, createdAt := 0, staleAt := 0 } }

def acceptingFleet : FleetWorld where
  base := .start [pausedRow]
    { Environment.quiet with
      mintClarificationId := fun n => String.ofList (List.replicate n 'x')
      sendTalk := fun _ _ => .ok "q2" }
  endpoint _ _ := .ok (some "http://coder")
  talk _ _ := .ok (some "q1")
  receiptFails _ := none

def resumedFleet (a : Activity) (ha : (FleetWork.activity a).IsOwn) (schedule : List Nat) :
    Fleet where
  works := [.deliver { dispatchPhid := "d", answer := "yes", actor := "chris" }, .activity a]
  own work h := by
    simp only [List.mem_cons, List.not_mem_nil, or_false] at h
    rcases h with rfl | rfl
    · trivial
    · exact ha
  schedule := schedule
  start := acceptingFleet

def tickedFleet : Fleet :=
  resumedFleet (.tick { policy := POLICY_DEFAULTS }) trivial
    (List.replicate 6 0 ++ List.replicate 60 1 ++ List.replicate 4 0)

def startsTwice (p : String) : FleetLog → Bool
  | r :: mid => resumes p r.2 && mid.all (fun e => !ends p e.2) &&
    1 < mid.countP (fun e => starts p e.2)
  | [] => false

theorem ticked_starts_twice : startsTwice "d" (tickedFleet.events.drop 2) := by decide +kernel

def askedAgainFleet : Fleet :=
  resumedFleet (.call (.markNeedsClarification "d" { agentId := "coder", question := "and?" })) rfl
    (List.replicate 10 0 ++ List.replicate 6 1)

theorem row?_accepting (h : acceptingFleet.base.row? p = some row) : row = pausedRow := by
  have hrows : acceptingFleet.base.table.rows = [pausedRow] := rfl
  obtain ⟨hmem, _⟩ := World.row?_mem h
  rw [hrows] at hmem
  simpa using hmem

end Fleet

end IdAgents
