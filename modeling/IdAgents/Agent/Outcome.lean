import IdAgents.Library.Rely
import IdAgents.Agent.Execute

namespace IdAgents.Agent
open JsText AtomicProgram List

/-- An agent server that works off its queue while handlers and the writers of the manager are in
progress. `schedule` names, step by step, whose next statement is executed: the queue is 0. -/
structure Server where
  turns : Nat
  activities : List Activity
  schedule : List Nat
  start : World

namespace Server

def threads (run : Server) : List (Prog Unit) :=
  processQueryQueue run.turns :: run.activities.map Activity.prog

def events (run : Server) : List (Nat × Event sql World) :=
  interleaveEvents run.schedule run.threads run.start

end Server

structure OneOutcome (run : Server) : Prop where
  kept : ∀ e ∈ run.events, ∀ id row, e.2.before.row? id = some row → row.isOver →
    ∃ row', e.2.after.row? id = some row' ∧ row'.status = row.status ∧
      row'.result = row.result ∧ row'.error = row.error
  noAttempt : ∀ e ∈ run.events, ∀ id attempt resume, e.2.stmt = .spawn id attempt resume →
    ∀ row, e.2.before.row? id = some row → row.isOver = false
  cancels : ∀ e ∈ run.events, e.2.stmt = .cancel → ∀ id,
    e.2.before.cancelled.killed = some id → e.2.before.cancelled.marked = some id

def Activity.queryId? : Activity → Option String
  | talk job .. | schedule job => some job.queryId
  | _ => none

structure Fresh (run : Server) : Prop where
  queue : run.start.queue = []
  inHand : run.start.inHand = []
  distinct : (run.activities.filterMap Activity.queryId?).Nodup
  unknown : ∀ activity ∈ run.activities, ∀ id, activity.queryId? = some id →
    run.start.row? id = none
section
variable (e : Event sql World)

def leavesInHand : Bool :=
  e.before.rows.all fun r =>
    Stmt.rewrite e.stmt e.before.now r = r || !e.before.inHand.contains r.queryId

def tellsResult : Bool :=
  match (e.stmt : Stmt) with
  | .addNews type _ => !isResultNews type || (e.before.env.newsFails e.before.step).isNone
  | _ => true

def cancelsFirst : Bool :=
  match (e.stmt : Stmt) with
  | .cancel => e.before.running.all fun id =>
      e.before.firstActive.any fun q => q.id = id && q.status = .processing
  | _ => true

end

theorem rewrite_queryId (c : Stmt) (now : Int) (r : QueryRow) :
    (c.rewrite now r).queryId = r.queryId := by
  cases c with
  | complete | markFailed | expireStale | cancelOpen =>
    simp only [Stmt.rewrite]
    split <;> rfl
  | _ => rfl

theorem row?_rewrite (c : Stmt) (w : World) (now : Int) (id : String) :
    (w.rows.map (c.rewrite now)).find? (·.queryId = id) = (w.row? id).map (c.rewrite now) := by
  rw [find?_map]
  have hkey : ((fun r : QueryRow => decide (r.queryId = id)) ∘ c.rewrite now) =
      fun r : QueryRow => decide (r.queryId = id) := by
    funext r
    simp [rewrite_queryId]
  rw [hkey]
  rfl

theorem find?_map_key {f : QueryRow → QueryRow} (hf : ∀ r, (f r).queryId = r.queryId)
    (rows : List QueryRow) (id : String) :
    (rows.map f).find? (·.queryId = id) = (rows.find? (·.queryId = id)).map f := by
  rw [find?_map]
  have hkey : ((fun r : QueryRow => decide (r.queryId = id)) ∘ f) =
      fun r : QueryRow => decide (r.queryId = id) := by
    funext r
    simp [hf]
  rw [hkey]

theorem row?_upsert_self (w : World) (row : QueryRow) :
    ∃ row', (w.upsert row).find? (·.queryId = row.queryId) = some row' ∧
      row'.status = row.status := by
  rw [World.upsert]
  split
  · next hany =>
    rw [find?_map_key]
    · obtain ⟨r, hr⟩ : ∃ r, w.rows.find? (·.queryId = row.queryId) = some r := by
        rw [← Option.isSome_iff_exists, find?_isSome]
        simpa using hany
      have hid : r.queryId = row.queryId := by simpa using find?_some hr
      rw [hr]
      simp [hid]
    · intro r
      split
      · next hid => exact hid.symm
      · rfl
  · next hnone =>
    have hmiss : w.rows.find? (·.queryId = row.queryId) = none := by
      rw [find?_eq_none]
      simpa using hnone
    exact ⟨row, by simp [find?_append, hmiss], rfl⟩

variable {id : String} {w : World} {row : QueryRow}

theorem row?_upsert_ne (h : row.queryId ≠ id) :
    (w.upsert row).find? (·.queryId = id) = w.row? id := by
  rw [World.upsert]
  split
  · rw [find?_map_key]
    · unfold World.row?
      cases hr : w.rows.find? (·.queryId = id) with
      | none => rfl
      | some r =>
        have hid : r.queryId = id := by simpa using find?_some hr
        simp [hid, Ne.symm h]
    · intro r
      split
      · next hid => exact hid.symm
      · rfl
  · simp [find?_append, h, World.row?]

/-- How far an activity has come: it is bound to no query, it is to take one on, it has taken it on,
it is executing it, it has stored its outcome, or it is past the errors that are left out here. -/
inductive Phase where
  | idle
  | fresh (id : String)
  | taken (id : String)
  | working (id : String)
  | settled (id : String)
  | lost

def Phase.about? : Phase → Option String
  | fresh id | taken id | working id | settled id => some id
  | idle | lost => none

namespace Phase

def next (g g' : Phase) : Phase :=
  match g with
  | lost => lost
  | _ => g'

def took (g : Phase) : Option Job → Phase
  | some job => g.next (working job.queryId)
  | none => g

def stored (g : Phase) (id : String) : Except String Unit → Phase
  | .ok _ => g.next (settled id)
  | .error _ => g

def told (g : Phase) (type : String) : Except String Unit → Phase
  | .ok _ => g
  | .error _ => if isResultNews type then lost else g

end Phase

def serverScript : Script sql Phase where
  see g c := match c with
    | .takeJob => fun (job? : Option Job) => g.took job?
    | .prewrite job .. => fun _ => g.next (.taken job.queryId)
    | .startQuery _ | .endQuery _ => fun _ => g.next .idle
    | .settle id .. => fun (result : Except String Unit) => g.stored id result
    | .addNews type _ => fun (result : Except String Unit) => g.told type result
    | _ => fun _ => g
  due g c := g = .lost ∨ match c with
    | .takeJob => g = .idle
    | .prewrite job .. => g = .fresh job.queryId
    | .startQuery job => g = .fresh job.queryId ∨ g = .taken job.queryId
    | .activate job => g = .working job.queryId
    | .spawn id .. | .settle id .. => g = .working id
    | .endQuery id => g = .working id ∨ g = .settled id
    | .expireStale _ statuses => statuses = [.pending, .processing]
    | _ => True

theorem serverScript_lost (c : Stmt) (a : c.Ans) : serverScript.see .lost c a = .lost := by
  cases c with
  | takeJob =>
    change Phase.took .lost (a : Option Job) = .lost
    cases (a : Option Job) <;> rfl
  | settle id =>
    change Phase.stored .lost id (a : Except String Unit) = .lost
    cases (a : Except String Unit) <;> rfl
  | addNews type =>
    change Phase.told .lost type (a : Except String Unit) = .lost
    cases (a : Except String Unit) with
    | ok => rfl
    | error => exact ite_self _
  | _ => rfl

variable {p : Prog α}

theorem lost_keeps (h : ∀ r, R r .lost) : p.keeps serverScript R .lost := by
  induction p with
  | ret a => exact h _
  | throw e => exact h _
  | issue c k ih =>
    refine ⟨.inl rfl, fun a => ?_⟩
    rw [serverScript_lost]
    exact ih a

def Stmt.isStill (id : String) : Stmt → Bool
  | .activate job => job.queryId = id
  | .spawn queryId .. => queryId = id
  | c => c.isQuiet

variable {c : Stmt}

theorem see_quiet (h : c.isQuiet) (g : Phase) (a : c.Ans) : serverScript.see g c a = g := by
  cases c with
  | addNews type =>
    change Phase.told g type (a : Except String Unit) = g
    cases (a : Except String Unit) with
    | ok => rfl
    | error =>
      have htype : isResultNews type = false := by simpa [Stmt.isQuiet] using h
      simp [Phase.told, htype]
  | settings | readSession | finish | setSession | sendReply => rfl
  | _ => cases h

theorem due_quiet (h : c.isQuiet) (g : Phase) : serverScript.due g c := by
  right
  cases c with
  | settings | readSession | finish | setSession | sendReply | addNews => trivial
  | _ => cases h

theorem quiet_keeps (hp : Quiet p) (g : Phase) : p.keeps serverScript (fun _ g' => g' = g) g := by
  induction p with
  | ret a => rfl
  | throw e => rfl
  | issue c k ih =>
    refine ⟨due_quiet hp.1 g, fun a => ?_⟩
    rw [see_quiet hp.1]
    exact ih a (hp.2 a)

theorem still_steps (h : c.isStill id) : serverScript.due (.working id) c ∧
      ∀ a : c.Ans, serverScript.see (.working id) c a = .working id := by
  cases c with
  | activate job =>
    have hid : job.queryId = id := by simpa [Stmt.isStill] using h
    exact ⟨.inr (congrArg Phase.working hid.symm), fun _ => rfl⟩
  | spawn queryId =>
    have hid : queryId = id := by simpa [Stmt.isStill] using h
    exact ⟨.inr (congrArg Phase.working hid.symm), fun _ => rfl⟩
  | addNews type queryId =>
    have hquiet : Stmt.isQuiet (.addNews type queryId) := h
    exact ⟨due_quiet hquiet _, see_quiet hquiet _⟩
  | settings | readSession | finish | setSession | sendReply => exact ⟨due_quiet rfl _, see_quiet rfl _⟩
  | _ => cases h

theorem still_keeps (hp : p.Meets (fun c : Stmt => c.isStill id) fun _ => True) :
    p.keeps serverScript (fun _ g => g = .working id) (.working id) := by
  induction p with
  | ret a => rfl
  | throw e => rfl
  | issue c k ih =>
    obtain ⟨hdue, hsee⟩ := still_steps hp.1
    refine ⟨hdue, fun a => ?_⟩
    rw [hsee]
    exact ih a (hp.2 a)

theorem quiet_still (hp : Quiet p) (id : String) :
    p.Meets (fun c : Stmt => c.isStill id) fun _ => True := by
  apply hp.mono
  · intro c hc
    cases (c : Stmt) with
    | activate | spawn => cases hc
    | _ => exact hc
  · intros
    trivial

theorem judgeAttempt_still
    (hagain : ∀ s, (again s).Meets (fun c : Stmt => c.isStill id) fun _ => True) :
    (judgeAttempt settings job attempt h s again).Meets (fun c : Stmt => c.isStill id)
      fun _ => True := by
  rw [judgeAttempt]
  split
  · exact (quiet_still commitSession_quiet id).bind fun _ _ => trivial
  · trivial
  · apply (quiet_still clearOnFilter_quiet id).bind
    intro _ _
    dsimp only
    split
    · exact (quiet_still prepareRetry_quiet id).bind fun s _ => hagain s
    · exact quiet_still giveUp_quiet id

theorem retryLoop_still (settings : Settings) (job : Job) (remaining : Nat) (s : LoopState) :
    (retryLoop settings job remaining s).Meets (fun c : Stmt => c.isStill job.queryId)
      fun _ => True := by
  induction remaining generalizing s with
  | zero => trivial
  | succ remaining ih =>
    rw [retryLoop]
    have hrun : (runAttempt job (settings.retryPolicy.maxAttempts - remaining)
        (sessionForAttempt settings (settings.retryPolicy.maxAttempts - remaining) s)).Meets
        (fun c : Stmt => c.isStill job.queryId) fun _ => True :=
      ⟨by simp [Stmt.isStill], fun _ => ⟨rfl, fun _ => trivial⟩⟩
    apply hrun.bind
    intro r _
    exact judgeAttempt_still ih

def Phase.Executed (id : String) : Phase → Prop
  | working id' | settled id' => id' = id
  | lost => True
  | _ => False

theorem settle_keeps {f : Unit → Prog β} {R : Except String β → Phase → Prop}
    (hok : (f ()).keeps serverScript R (.settled job.queryId))
    (herror : ∀ e, R (.error e) (.working job.queryId)) :
    ((settle job outcome sessionId).bind f).keeps serverScript R (.working job.queryId) := by
  refine ⟨.inr rfl, fun (result : Except String Unit) => ?_⟩
  cases result with
  | ok => exact hok
  | error e => exact herror e

theorem settled_keeps (hp : Quiet p) :
    p.keeps serverScript (fun _ g => g.Executed id) (.settled id) := by
  apply Program.keeps_mono (quiet_keeps hp _)
  rintro r g rfl
  rfl

theorem failQuery_keeps :
    (failQuery job s error).keeps serverScript (fun _ g => g.Executed job.queryId)
      (.working job.queryId) := by
  apply settle_keeps
  · apply settled_keeps
    apply clearOnFilterError_quiet.bind
    intro _ _
    have hnews : Quiet (orThrow (addNews "query.failed" job.queryId)) :=
      orThrow_meets (addNews_quiet rfl)
    apply hnews.bind
    intro _ _
    exact sendReplyToSender_quiet
  · intro e
    rfl

def Phase.Completes (id : String) (r : Except String Unit) (g : Phase) : Prop :=
  g = .lost ∨ match r with
    | .ok _ => g = .settled id
    | .error _ => g = .working id

theorem resultNews_keeps (h : isResultNews type) :
    (orThrow (addNews type queryId)).keeps serverScript (Phase.Completes id) (.settled id) := by
  refine ⟨.inr trivial, fun (result : Except String Unit) => ?_⟩
  cases result with
  | ok => exact .inr rfl
  | error e =>
    left
    change (if isResultNews type then Phase.lost else _) = _
    rw [if_pos h]

theorem tellCompleted_keeps :
    (tellCompleted job result).keeps serverScript (Phase.Completes id) (.settled id) := by
  rw [tellCompleted]
  split
  · exact .inr rfl
  · exact resultNews_keeps rfl

theorem replyCompleted_keeps :
    (replyCompleted job result s).keeps serverScript (Phase.Completes id) (.settled id) := by
  rw [replyCompleted]
  split
  · next hreply =>
    rw [sendReplyToSender, if_pos hreply]
    refine ⟨.inr trivial, fun _ => ?_⟩
    exact .inr rfl
  · split
    · exact resultNews_keeps rfl
    · exact .inr rfl

theorem completeQuery_keeps : (completeQuery settings job result s).keeps serverScript
    (Phase.Completes job.queryId) (.working job.queryId) := by
  apply settle_keeps
  · apply Program.keeps_seq tellCompleted_keeps
    · rintro _ g (rfl | rfl)
      · exact lost_keeps fun _ => .inl rfl
      · exact replyCompleted_keeps
    · rintro e g h
      exact h
  · intro e
    exact .inr rfl

theorem runQuery_keeps : (runQuery settings job).keeps serverScript
    (fun _ g => g.Executed job.queryId) (.working job.queryId) := by
  apply Program.keeps_seq (quiet_keeps startSession_quiet _)
  · rintro session g rfl
    apply Program.keeps_seq (still_keeps (retryLoop_still _ _ _ _))
    · rintro ending g rfl
      cases ending with
      | result result s =>
        apply Program.keeps_tryCatch completeQuery_keeps
        · rintro _ g (rfl | rfl)
          · trivial
          · rfl
        · rintro e g (rfl | rfl)
          · exact lost_keeps fun _ => trivial
          · exact failQuery_keeps
      | exhausted error s => exact failQuery_keeps
      | crashed message s => exact failQuery_keeps
    · rintro e g rfl
      rfl
  · rintro e g rfl
    rfl

theorem executeQuery_keeps : (executeQuery job).keeps serverScript
    (fun _ g => g.Executed job.queryId) (.working job.queryId) := by
  refine ⟨.inr trivial, fun (settings : Settings) => ⟨.inr rfl, fun (result : Except String Unit) => ?_⟩⟩
  cases result with
  | ok => exact runQuery_keeps
  | error e => rfl

def Phase.Rests (g : Phase) : Prop := g = .lost ∨ g = .idle

theorem executeQueued_keeps : (executeQueued job).keeps serverScript
    (fun _ g => g.Rests) (.working job.queryId) := by
  have hcaught : ((executeQuery job).tryCatch fun _ => .ret ()).keeps serverScript
      (fun r g => r = .ok () ∧ g.Executed job.queryId) (.working job.queryId) := by
    apply Program.keeps_tryCatch executeQuery_keeps
    · intro _ g h
      exact ⟨rfl, h⟩
    · intro e g h
      exact ⟨rfl, h⟩
  apply Program.keeps_seq hcaught
  · rintro _ g ⟨_, h⟩
    cases g with
    | working id => exact ⟨.inr (.inl (congrArg Phase.working h)), fun _ => .inr rfl⟩
    | settled id => exact ⟨.inr (.inr (congrArg Phase.settled h)), fun _ => .inr rfl⟩
    | lost => exact ⟨.inl rfl, fun _ => .inl rfl⟩
    | _ => exact h.elim
  · rintro e g ⟨h, _⟩
    cases h

theorem processQueryQueue_keeps (turns : Nat) :
    (processQueryQueue turns).keeps serverScript (fun _ g => g.Rests) .idle := by
  induction turns with
  | zero => exact .inr rfl
  | succ turns ih =>
    refine ⟨.inr rfl, fun (job? : Option Job) => ?_⟩
    cases job? with
    | none => exact ih
    | some job =>
      apply Program.keeps_seq executeQueued_keeps
      · rintro _ g (rfl | rfl)
        · exact lost_keeps fun _ => .inl rfl
        · exact ih
      · intro e g h
        exact h

theorem news_keeps (h : isResultNews type = false) (hf : (f ()).keeps serverScript R g) :
    ((ignoring (addNews type queryId)).bind f).keeps serverScript R g := by
  have hquiet : Stmt.isQuiet (.addNews type queryId) := by simp [Stmt.isQuiet, h]
  refine ⟨due_quiet hquiet g, fun a => ?_⟩
  rw [see_quiet hquiet]
  exact hf

def Activity.start : Activity → Phase
  | talk job .. | schedule job => .fresh job.queryId
  | _ => .idle

theorem activity_keeps (activity : Activity) :
    activity.prog.keeps serverScript (fun _ _ => True) activity.start := by
  cases activity with
  | talk job managerDispatchId managerQueryId =>
    refine ⟨.inr rfl, fun _ => ?_⟩
    apply news_keeps rfl
    exact ⟨.inr (.inr rfl), fun _ => trivial⟩
  | schedule job =>
    apply news_keeps rfl
    exact ⟨.inr (.inl rfl), fun _ => trivial⟩
  | cancel =>
    refine ⟨.inr trivial, fun (cancelled : Cancelled) => ?_⟩
    obtain ⟨killed, marked⟩ := cancelled
    cases marked with
    | none => trivial
    | some id =>
      have hquiet : Quiet (orThrow (addNews "query.cancelled" id)) :=
        orThrow_meets (addNews_quiet rfl)
      exact Program.keeps_mono (quiet_keeps hquiet _) fun _ _ _ => trivial
  | sweepStaleQueries cutoff => exact ⟨.inr rfl, fun _ => trivial⟩
  | complete | markFailed => exact ⟨.inr trivial, fun _ => trivial⟩
  | cancelQueries agentId =>
    refine ⟨.inr trivial, fun (queryIds : List String) => ?_⟩
    change Program.keeps serverScript (if queryIds = [] then .ret () else cancelOpen agentId) _ _
    split
    · trivial
    · exact ⟨.inr trivial, fun _ => trivial⟩

def World.Open (w : World) (id : String) : Prop := ∀ row, w.row? id = some row → row.isOver = false

def Phase.Fits (w : World) : Phase → Prop
  | idle | settled _ => True
  | fresh id => w.row? id = none ∧ id ∉ w.inHand
  | taken id | working id => w.Open id ∧ id ∈ w.inHand
  | lost => False

structure InOrder (ghost : Nat → Phase) (w : World) : Prop where
  fits : ∀ i, (ghost i).Fits w
  apart : ∀ i j id, (ghost i).about? = some id → (ghost j).about? = some id → i = j
  queued : ∀ job ∈ w.queue, w.Open job.queryId ∧ job.queryId ∈ w.inHand ∧
    ∀ i, (ghost i).about? ≠ some job.queryId
  queue : (w.queue.map (·.queryId)).Nodup

theorem InOrder.not_lost (h : InOrder ghost w) : ghost i ≠ .lost := by
  intro hlost
  have hfits := h.fits i
  rw [hlost] at hfits
  exact hfits

variable {ghost ghost' : Nat → Phase}

theorem InOrder.idle (h : InOrder ghost w)
    (hsame : ∀ j, ghost' j = ghost j) (hqueue : w'.queue = w.queue) (hhand : w'.inHand = w.inHand)
    (hnone : ∀ id, w.row? id = none → w'.row? id = none)
    (hrow : ∀ id ∈ w.inHand, w'.row? id = w.row? id) : InOrder ghost' w' := by
  have hopen : ∀ id ∈ w.inHand, w.Open id → w'.Open id := by
    intro id hid hopen row hrow'
    rw [hrow id hid] at hrow'
    exact hopen row hrow'
  refine ⟨fun i => ?_, fun i j id hi hj => ?_, fun job hjob => ?_, ?_⟩
  · rw [hsame]
    have hfits := h.fits i
    cases hg : ghost i with
    | fresh id =>
      rw [hg] at hfits
      exact ⟨hnone id hfits.1, hhand ▸ hfits.2⟩
    | taken id | working id =>
      rw [hg] at hfits
      exact ⟨hopen id hfits.2 hfits.1, hhand ▸ hfits.2⟩
    | lost => exact absurd hg h.not_lost
    | _ => trivial
  · rw [hsame] at hi hj
    exact h.apart i j id hi hj
  · rw [hqueue] at hjob
    obtain ⟨hopen', hhand', hapart⟩ := h.queued job hjob
    exact ⟨hopen _ hhand' hopen', hhand ▸ hhand', fun i => by rw [hsame]; exact hapart i⟩
  · rw [hqueue]
    exact h.queue

theorem open_of_none (h : w.row? id = none) : w.Open id := by
  intro row hrow
  rw [h] at hrow
  cases hrow

theorem World.Open.congr {w' : World} (h : w.Open id)
    (hrow : w'.row? id = w.row? id) : w'.Open id := by
  intro row hrow'
  rw [hrow] at hrow'
  exact h row hrow'

theorem InOrder.move (h : InOrder ghost w) (hother : ∀ j, j ≠ i → ghost' j = ghost j)
    (hfree : ∀ j, j ≠ i → (ghost j).about? ≠ some id)
    (hrow : ∀ id', id' ≠ id → w'.row? id' = w.row? id')
    (hhand : ∀ id', id' ≠ id → (id' ∈ w'.inHand ↔ id' ∈ w.inHand))
    (hself : (ghost' i).Fits w') (habout : ∀ id', (ghost' i).about? = some id' → id' = id)
    (hqueue : ∀ job ∈ w'.queue, job ∈ w.queue ∧ job.queryId ≠ id ∨
      job.queryId = id ∧ w'.Open id ∧ id ∈ w'.inHand ∧ (ghost' i).about? = none)
    (hnodup : (w'.queue.map (·.queryId)).Nodup) : InOrder ghost' w' := by
  have hne : ∀ j id', j ≠ i → (ghost j).about? = some id' → id' ≠ id := by
    rintro j id' hji hj rfl
    exact hfree j hji hj
  refine ⟨fun j => ?_, fun j k id' hj hk => ?_, fun job hjob => ?_, hnodup⟩
  · by_cases hji : j = i
    · subst hji
      exact hself
    · rw [hother j hji]
      have hfits := h.fits j
      have habout' := hne j
      cases hg : ghost j with
      | fresh id' =>
        rw [hg] at hfits habout'
        have hid := habout' id' hji rfl
        exact ⟨(hrow id' hid).trans hfits.1, fun hmem => hfits.2 ((hhand id' hid).mp hmem)⟩
      | taken id' | working id' =>
        rw [hg] at hfits habout'
        have hid := habout' id' hji rfl
        exact ⟨hfits.1.congr (hrow id' hid), (hhand id' hid).mpr hfits.2⟩
      | lost => exact absurd hg h.not_lost
      | _ => trivial
  · by_cases hji : j = i <;> by_cases hki : k = i
    · rw [hji, hki]
    · subst hji
      rw [hother k hki] at hk
      exact absurd (habout id' hj) (hne k id' hki hk)
    · subst hki
      rw [hother j hji] at hj
      exact absurd (habout id' hk) (hne j id' hji hj)
    · rw [hother j hji] at hj
      rw [hother k hki] at hk
      exact h.apart j k id' hj hk
  · obtain ⟨hold, hid⟩ | ⟨rfl, hopen, hmem, hidle⟩ := hqueue job hjob
    · obtain ⟨hopen, hmem, hapart⟩ := h.queued job hold
      refine ⟨hopen.congr (hrow _ hid), (hhand _ hid).mpr hmem, fun j hj => ?_⟩
      by_cases hji : j = i
      · subst hji
        exact hid (habout _ hj)
      · rw [hother j hji] at hj
        exact hapart j hj
    · refine ⟨hopen, hmem, fun j hj => ?_⟩
      by_cases hji : j = i
      · subst hji
        rw [hidle] at hj
        cases hj
      · rw [hother j hji] at hj
        exact hfree j hji hj

theorem InOrder.alone (h : InOrder ghost w)
    (hi : (ghost i).about? = some id) : ∀ j, j ≠ i → (ghost j).about? ≠ some id :=
  fun j hji hj => hji (h.apart j i id hj hi)

theorem InOrder.not_queued (h : InOrder ghost w)
    (hi : (ghost i).about? = some id) (hjob : job ∈ w.queue) : job.queryId ≠ id := by
  rintro rfl
  exact (h.queued job hjob).2.2 i hi

theorem InOrder.same_queue (h : InOrder ghost w) (hi : (ghost i).about? = some id)
    (hother : ∀ j, j ≠ i → ghost' j = ghost j) (hrow : ∀ id', id' ≠ id → w'.row? id' = w.row? id')
    (hhand : ∀ id', id' ≠ id → (id' ∈ w'.inHand ↔ id' ∈ w.inHand))
    (hself : (ghost' i).Fits w') (habout : ∀ id', (ghost' i).about? = some id' → id' = id)
    (hqueue : w'.queue = w.queue) : InOrder ghost' w' := by
  apply h.move hother (h.alone hi) hrow hhand hself habout
  · intro job hjob
    rw [hqueue] at hjob
    exact .inl ⟨hjob, h.not_queued hi hjob⟩
  · rw [hqueue]
    exact h.queue

def Stmt.stays : Stmt → Bool
  | .prewrite .. | .startQuery _ | .takeJob | .activate _ | .settle .. | .endQuery _ => false
  | _ => true

theorem rows_of_stays (h : c.stays) (w : World) : c.rows w = w.rows.map (c.rewrite w.now) := by
  cases c with
  | prewrite | startQuery | takeJob | activate | settle | endQuery => cases h
  | _ => rfl

variable {e : Event sql World}

theorem see_stays (h : Stmt.stays e.stmt) (htells : tellsResult e) (g : Phase) :
    serverScript.see g e.stmt (Store.answer e.stmt e.before) = g := by
  obtain ⟨c, w⟩ := e
  cases c with
  | prewrite | startQuery | takeJob | activate | settle | endQuery => cases h
  | addNews type queryId =>
    change Phase.told g type (Stmt.answer (.addNews type queryId) w) = g
    cases hnews : w.env.newsFails w.step with
    | none => simp only [Stmt.answer, hnews, Phase.told]
    | some e =>
      have htype : isResultNews type = false := by simpa [tellsResult, hnews] using htells
      simp only [Stmt.answer, hnews, Phase.told, htype]
      rfl
  | _ => rfl

theorem InOrder.stay (h : InOrder ghost e.before)
    (hstays : Stmt.stays e.stmt) (hleaves : leavesInHand e) (hsame : ∀ j, ghost' j = ghost j) :
    InOrder ghost' e.after := by
  obtain ⟨c, w⟩ := e
  have hrow : ∀ id, World.row? (Stmt.effect c w) id = (w.row? id).map (c.rewrite w.now) := by
    intro id
    rw [← row?_rewrite, ← rows_of_stays hstays]
    rfl
  have hqueue : (Stmt.effect c w).queue = w.queue := by
    cases c with
    | startQuery | takeJob => cases hstays
    | _ => rfl
  have hhand : (Stmt.effect c w).inHand = w.inHand := by
    cases c with
    | prewrite | startQuery | endQuery => cases hstays
    | _ => rfl
  apply h.idle hsame hqueue hhand
  · intro id hnone
    have hmap : (w.row? id).map (c.rewrite w.now) = none := by
      rw [show w.row? id = none from hnone]
      rfl
    exact (hrow id).trans hmap
  · intro id hid
    refine (hrow id).trans ?_
    cases hr : w.row? id with
    | none => rfl
    | some r =>
      have hmem : r ∈ w.rows := mem_of_find?_eq_some hr
      have hkey : r.queryId = id := by simpa using find?_some hr
      have hkept := all_eq_true.mp hleaves r hmem
      rw [hkey] at hkept
      simp only [Bool.or_eq_true, decide_eq_true_eq, Bool.not_eq_true', contains_eq_mem] at hkept
      obtain hkept | hout := hkept
      · exact congrArg some hkept
      · exact absurd hid (by simpa using hout)

def Stmt.target? : Stmt → Option String
  | .prewrite job .. | .activate job => some job.queryId
  | .settle queryId .. => some queryId
  | _ => none

theorem active?_id (h : w.active? id = some query) : query.id = id := by
  simpa using find?_some h

theorem rows_of_target (hc : c.target? = some id) (w : World) :
    c.rows w = w.rows ∨ ∃ row, row.queryId = id ∧ c.rows w = w.upsert row ∧
      (row.status.isOpen ∨ ∃ outcome session, c = .settle id outcome session) := by
  cases c with
  | prewrite job =>
    obtain rfl := Option.some.inj hc
    simp only [Stmt.rows]
    split
    · exact .inl rfl
    · exact .inr ⟨_, rfl, rfl, .inl rfl⟩
  | activate job =>
    obtain rfl := Option.some.inj hc
    simp only [Stmt.rows]
    split
    · exact .inl rfl
    · exact .inr ⟨_, rfl, rfl, .inl rfl⟩
  | settle queryId outcome session =>
    obtain rfl := Option.some.inj hc
    simp only [Stmt.rows]
    split
    · next query hquery =>
      split
      · exact .inl rfl
      · refine .inr ⟨_, ?_, rfl, .inr ⟨outcome, session, rfl⟩⟩
        have hid := active?_id hquery
        cases outcome <;> exact hid
    · exact .inl rfl
  | _ => cases hc

theorem row?_target_ne (hc : c.target? = some id) (h : id' ≠ id)
    (w : World) : World.row? (Stmt.effect c w) id' = w.row? id' := by
  obtain hrows | ⟨row, hid, hrows, _⟩ := rows_of_target hc w
  · exact congrArg (find? _) hrows
  · have hne : row.queryId ≠ id' := fun hsame => h (hsame.symm.trans hid)
    exact (congrArg (find? _) hrows).trans (row?_upsert_ne hne)

theorem row?_unwritten (hc : match c with
    | .startQuery _ | .takeJob | .endQuery _ => True
    | _ => False) (w : World) (id : String) : World.row? (Stmt.effect c w) id = w.row? id := by
  have hrewrite : ∀ r, c.rewrite w.now r = r := by
    cases c with
    | startQuery | takeJob | endQuery => exact fun _ => rfl
    | _ => exact hc.elim
  have hrows : c.rows w = w.rows.map (c.rewrite w.now) := by
    cases c with
    | startQuery | takeJob | endQuery => rfl
    | _ => exact hc.elim
  have hfound : World.row? (Stmt.effect c w) id = (w.row? id).map (c.rewrite w.now) := by
    rw [← row?_rewrite, ← hrows]
    rfl
  rw [hfound]
  cases w.row? id with
  | none => rfl
  | some r => exact congrArg some (hrewrite r)

theorem open_upsert {w' : World} (hid : row.queryId = id)
    (hstatus : row.status.isOpen) (hrows : w'.rows = w.upsert row) : w'.Open id := by
  obtain ⟨row', hrow', hsame⟩ := row?_upsert_self w row
  intro found hfound
  have hfind : (w.upsert row).find? (·.queryId = id) = some found := by
    rw [← hrows]
    exact hfound
  rw [← hid, hrow'] at hfind
  obtain rfl := Option.some.inj hfind
  simp [QueryRow.isOver, hsame, hstatus]

theorem open_target (hc : c.target? = some id)
    (hsettle : ∀ outcome session, c ≠ .settle id outcome session) (h : w.Open id) :
    World.Open (Stmt.effect c w) id := by
  obtain hrows | ⟨row, hid, hrows, hopen | ⟨outcome, session, rfl⟩⟩ := rows_of_target hc w
  · exact h.congr (congrArg (find? _) hrows)
  · exact open_upsert hid hopen hrows
  · exact absurd rfl (hsettle outcome session)

theorem rows_of_fails (h : w.dbFails = some error) :
    (Stmt.settle queryId outcome session).rows w = w.rows := by
  simp only [Stmt.rows, h]
  split <;> rfl

theorem InOrder.step (h : InOrder ghost e.before)
    (hdue : serverScript.due (ghost i) e.stmt) (hleaves : leavesInHand e) (htells : tellsResult e)
    (hghost : ∀ j, ghost' j = if i = j then
      serverScript.see (ghost i) e.stmt (Store.answer e.stmt e.before) else ghost j) :
    InOrder ghost' e.after := by
  have hother : ∀ j, j ≠ i → ghost' j = ghost j := fun j hj => by rw [hghost, if_neg (Ne.symm hj)]
  have hself := hghost i
  rw [if_pos rfl] at hself
  have hsame : serverScript.see (ghost i) e.stmt (Store.answer e.stmt e.before) = ghost i →
      ∀ j, ghost' j = ghost j := by
    intro hsee j
    by_cases hj : j = i
    · subst hj
      exact hself.trans hsee
    · exact hother j hj
  by_cases hstays : Stmt.stays e.stmt
  · exact h.stay hstays hleaves (hsame (see_stays hstays htells _))
  obtain hlost | hdue := hdue
  · exact absurd hlost h.not_lost
  have hfits := h.fits i
  obtain ⟨c, w⟩ := e
  cases c with
  | prewrite job d q =>
    have hg : ghost i = .fresh job.queryId := hdue
    have hg' : ghost' i = .taken job.queryId := by
      rw [hself]
      change (ghost i).next _ = _
      rw [hg]
      rfl
    have habout : (ghost i).about? = some job.queryId := by rw [hg]; rfl
    rw [hg] at hfits
    apply h.same_queue habout hother fun id hid => row?_target_ne (c := .prewrite job d q) rfl hid w
    · intro id hid
      simp [Stmt.effect, Stmt.inHand, hid]
    · rw [hg']
      exact ⟨open_target rfl (by simp) (open_of_none hfits.1), mem_cons_self⟩
    · intro id hid
      rw [hg'] at hid
      exact (Option.some.inj hid).symm
    · rfl
  | startQuery job =>
    have habout : (ghost i).about? = some job.queryId := by
      obtain hg | hg := hdue <;> rw [hg] <;> rfl
    have hg' : ghost' i = .idle := by
      rw [hself]
      change (ghost i).next _ = _
      obtain hg | hg := hdue <;> rw [hg] <;> rfl
    have hopen : w.Open job.queryId := by
      obtain hg | hg := hdue
      · rw [hg] at hfits
        exact open_of_none hfits.1
      · rw [hg] at hfits
        exact hfits.1
    have hrow := row?_unwritten (c := .startQuery job) trivial w
    apply h.move hother (h.alone habout) fun id _ => hrow id
    · intro id hid
      simp [Stmt.effect, Stmt.inHand, hid]
    · rw [hg']
      trivial
    · intro id hid
      rw [hg'] at hid
      cases hid
    · intro job' hjob
      obtain hold | hnew := mem_append.mp hjob
      · exact .inl ⟨hold, h.not_queued habout hold⟩
      · obtain rfl := mem_singleton.mp hnew
        refine .inr ⟨rfl, hopen.congr (hrow _), mem_cons_self, ?_⟩
        rw [hg']
        rfl
    · change ((w.queue ++ [job]).map (·.queryId)).Nodup
      rw [map_append, nodup_append]
      refine ⟨h.queue, by simp, ?_⟩
      intro id hid id' hid' hsame
      obtain ⟨job', hjob', rfl⟩ := mem_map.mp hid
      rw [mem_singleton.mp hid'] at hsame
      exact h.not_queued habout hjob' hsame
  | takeJob =>
    have hg : ghost i = .idle := hdue
    have hrow := row?_unwritten (c := .takeJob) trivial w
    cases hqueue : w.queue with
    | nil =>
      have hsee : (ghost i).took w.queue.head? = ghost i := by
        rw [hqueue]
        rfl
      have htail : (Stmt.effect .takeJob w).queue = w.queue := by
        change w.queue.tail = w.queue
        rw [hqueue]
        rfl
      apply h.idle (hsame hsee) htail rfl
      · exact fun id hnone => (hrow id).trans hnone
      · exact fun id _ => hrow id
    | cons job rest =>
      have hg' : ghost' i = .working job.queryId := by
        rw [hself]
        change (ghost i).took w.queue.head? = _
        rw [hqueue, hg]
        rfl
      have htail : (Stmt.effect .takeJob w).queue = rest := by
        change w.queue.tail = rest
        rw [hqueue]
        rfl
      have hjob : job ∈ w.queue := hqueue ▸ mem_cons_self
      obtain ⟨hopen, hhand, hfree⟩ := h.queued job hjob
      have hnodup := h.queue
      rw [hqueue, map_cons, nodup_cons] at hnodup
      apply h.move hother (fun j _ => hfree j) (fun id _ => hrow id) fun _ _ => Iff.rfl
      · rw [hg']
        exact ⟨hopen.congr (hrow _), hhand⟩
      · intro id hid
        rw [hg'] at hid
        exact (Option.some.inj hid).symm
      · intro job' hjob'
        have hmem : job' ∈ rest := htail ▸ hjob'
        left
        refine ⟨hqueue ▸ mem_cons_of_mem _ hmem, fun hid => ?_⟩
        rw [← hid] at hnodup
        exact hnodup.1 (mem_map_of_mem hmem)
      · rw [htail]
        exact hnodup.2
  | activate job =>
    have hg : ghost i = .working job.queryId := hdue
    have hg' : ghost' i = .working job.queryId := hself.trans hg
    have habout : (ghost i).about? = some job.queryId := by rw [hg]; rfl
    rw [hg] at hfits
    apply h.same_queue habout hother fun id hid => row?_target_ne (c := .activate job) rfl hid w
    · exact fun _ _ => Iff.rfl
    · rw [hg']
      exact ⟨open_target rfl (by simp) hfits.1, hfits.2⟩
    · intro id hid
      rw [hg'] at hid
      exact (Option.some.inj hid).symm
    · rfl
  | settle queryId outcome session =>
    have hg : ghost i = .working queryId := hdue
    have habout : (ghost i).about? = some queryId := by rw [hg]; rfl
    rw [hg] at hfits
    apply h.same_queue habout hother
      fun id hid => row?_target_ne (c := .settle queryId outcome session) rfl hid w
    · exact fun _ _ => Iff.rfl
    · rw [hself]
      change ((ghost i).stored queryId (Stmt.answer (.settle queryId outcome session) w)).Fits _
      rw [hg]
      cases hfails : w.dbFails with
      | none =>
        simp only [Stmt.answer, hfails]
        trivial
      | some error =>
        simp only [Stmt.answer, hfails]
        exact ⟨hfits.1.congr (congrArg (find? _) (rows_of_fails hfails)), hfits.2⟩
    · intro id hid
      rw [hself] at hid
      change ((ghost i).stored queryId
        (Stmt.answer (.settle queryId outcome session) w)).about? = some id at hid
      rw [hg] at hid
      cases hfails : w.dbFails with
      | none | some =>
        simp only [Stmt.answer, hfails] at hid
        exact (Option.some.inj hid).symm
    · rfl
  | endQuery queryId =>
    have habout : (ghost i).about? = some queryId := by
      obtain hg | hg := hdue <;> rw [hg] <;> rfl
    have hg' : ghost' i = .idle := by
      rw [hself]
      change (ghost i).next _ = _
      obtain hg | hg := hdue <;> rw [hg] <;> rfl
    apply h.same_queue habout hother
      fun id _ => row?_unwritten (c := .endQuery queryId) trivial w id
    · intro id hid
      simp [Stmt.effect, Stmt.inHand, hid]
    · rw [hg']
      trivial
    · intro id hid
      rw [hg'] at hid
      cases hid
    · rfl
  | _ => exact absurd rfl hstays

theorem rewrite_over (h : r.isOver) (hdue : ∀ cutoff statuses, c = .expireStale cutoff statuses →
      statuses = [.pending, .processing]) (now : Int) : c.rewrite now r = r := by
  have hpending : r.status ≠ .pending := by
    intro hs
    simp [QueryRow.isOver, QueryStatus.isOpen, hs] at h
  have hprocessing : r.status ≠ .processing := by
    intro hs
    simp [QueryRow.isOver, QueryStatus.isOpen, hs] at h
  cases c with
  | complete | markFailed => exact if_neg fun hr => hpending hr.2
  | expireStale cutoff statuses =>
    obtain rfl := hdue cutoff statuses rfl
    apply if_neg
    simp [hpending, hprocessing]
  | cancelOpen agentId =>
    apply if_neg
    simp [QueryStatus.isOpen, hpending, hprocessing]
  | _ => rfl

theorem InOrder.kept (h : InOrder ghost e.before) (hdue : serverScript.due (ghost i) e.stmt)
    (hrow : e.before.row? id = some row) (hover : row.isOver) : e.after.row? id = some row := by
  obtain ⟨c, w⟩ := e
  obtain hlost | hdue := hdue
  · exact absurd hlost h.not_lost
  have hfits := h.fits i
  have hne : ∀ id', w.Open id' → id ≠ id' := by
    rintro id' hopen rfl
    rw [QueryRow.isOver, Bool.not_eq_true'] at hover
    have hclosed := hopen row hrow
    rw [QueryRow.isOver, hover] at hclosed
    cases hclosed
  by_cases hstays : c.stays
  · have hfound : World.row? (Stmt.effect c w) id = (w.row? id).map (c.rewrite w.now) := by
      rw [← row?_rewrite, ← rows_of_stays hstays]
      rfl
    have hkept : c.rewrite w.now row = row := by
      apply rewrite_over hover
      rintro cutoff statuses rfl
      exact hdue
    have hsome : w.row? id = some row := hrow
    refine hfound.trans ?_
    rw [hsome, Option.map_some, hkept]
  cases c with
  | prewrite job d q =>
    have hg : ghost i = .fresh job.queryId := hdue
    rw [hg] at hfits
    have hid := hne _ (open_of_none hfits.1)
    exact (row?_target_ne (c := .prewrite job d q) rfl hid w).trans hrow
  | activate job =>
    have hg : ghost i = .working job.queryId := hdue
    rw [hg] at hfits
    exact (row?_target_ne (c := .activate job) rfl (hne _ hfits.1) w).trans hrow
  | settle queryId outcome session =>
    have hg : ghost i = .working queryId := hdue
    rw [hg] at hfits
    have hid := hne _ hfits.1
    exact (row?_target_ne (c := .settle queryId outcome session) rfl hid w).trans hrow
  | startQuery job => exact (row?_unwritten (c := .startQuery job) trivial w id).trans hrow
  | takeJob => exact (row?_unwritten (c := .takeJob) trivial w id).trans hrow
  | endQuery queryId => exact (row?_unwritten (c := .endQuery queryId) trivial w id).trans hrow
  | _ => exact absurd rfl hstays

theorem InOrder.open_of_spawn
    (h : InOrder ghost w) (hdue : serverScript.due (ghost i) (.spawn id attempt resume)) :
    w.Open id := by
  obtain hlost | hg := hdue
  · exact absurd hlost h.not_lost
  · have hfits := h.fits i
    rw [show ghost i = .working id from hg] at hfits
    exact hfits.1

theorem marked_of_killed (h : cancelsFirst ⟨.cancel, w⟩)
    (hkilled : w.cancelled.killed = some id) : w.cancelled.marked = some id := by
  unfold World.cancelled at hkilled ⊢
  cases hsupports : w.settings.supportsCancel with
  | false => simp [hsupports] at hkilled
  | true =>
    rw [hsupports] at hkilled
    cases hrunning : w.running with
    | none => simp [hrunning] at hkilled
    | some running =>
      have hsame : running = id := by simpa [hrunning] using hkilled
      have hfirst : w.firstActive.any fun q => q.id = running && q.status = .processing := by
        simpa [cancelsFirst, hrunning] using h
      cases hactive : w.firstActive with
      | none => simp [hactive] at hfirst
      | some q =>
        simp only [hactive, Option.any_some, Bool.and_eq_true, decide_eq_true_eq] at hfirst
        simp [Option.filter, hfirst, hsame]

namespace Server

def phases (run : Server) : Nat → Phase
  | 0 => .idle
  | k + 1 => (run.activities[k]?.map Activity.start).getD .idle

variable (run : Server)

theorem phases_of (hk : run.activities[k]? = some activity) :
    run.phases (k + 1) = activity.start := by
  simp [phases, hk]

theorem phases_beyond (hk : run.activities[k]? = none) : run.phases (k + 1) = .idle := by
  simp [phases, hk]

theorem phases_about (h : (run.phases i).about? = some id) :
    ∃ k activity, i = k + 1 ∧ run.activities[k]? = some activity ∧ activity.queryId? = some id ∧
      run.phases i = .fresh id := by
  cases i with
  | zero => cases h
  | succ k =>
    cases hk : run.activities[k]? with
    | none =>
      rw [run.phases_beyond hk] at h
      cases h
    | some activity =>
      rw [run.phases_of hk] at h ⊢
      cases activity with
      | talk job | schedule job =>
        obtain rfl := Option.some.inj h
        exact ⟨k, _, rfl, hk, rfl, rfl⟩
      | _ => cases h

theorem keeps (hsplit : run.events = es ++ (i, e) :: fs) :
    serverScript.due (serverScript.ghost run.phases es i) e.stmt := by
  apply interleave_keeps (R := fun _ _ _ => True) run.schedule run.start _ es i e fs hsplit
  intro i p hi
  cases i with
  | zero =>
    obtain rfl := Option.some.inj hi
    exact Program.keeps_mono (processQueryQueue_keeps run.turns) fun _ _ _ => trivial
  | succ k =>
    obtain ⟨activity, hk, rfl⟩ : ∃ activity, run.activities[k]? = some activity ∧
        activity.prog = p := by simpa [threads] using hi
    rw [run.phases_of hk]
    exact activity_keeps activity

end Server

theorem Fresh.inOrder (h : Fresh run) : InOrder run.phases run.start := by
  constructor
  · intro i
    cases hg : (run.phases i).about? with
    | none =>
      cases i with
      | zero => trivial
      | succ k =>
        cases hk : run.activities[k]? with
        | none =>
          rw [run.phases_beyond hk]
          trivial
        | some activity =>
          rw [run.phases_of hk] at hg ⊢
          cases activity with
          | talk | schedule => cases hg
          | _ => trivial
    | some id =>
      obtain ⟨k, activity, rfl, hk, hid, hphase⟩ := run.phases_about hg
      rw [hphase]
      refine ⟨h.unknown activity (mem_of_getElem? hk) id hid, ?_⟩
      simp [h.inHand]
  · intro i j id hi hj
    obtain ⟨k, activity, rfl, hk, hid, _⟩ := run.phases_about hi
    obtain ⟨l, activity', rfl, hl, hid', _⟩ := run.phases_about hj
    have hapart := pairwise_filterMap.mp h.distinct
    rw [List.pairwise_iff_getElem] at hapart
    obtain ⟨hk', rfl⟩ := List.getElem?_eq_some_iff.mp hk
    obtain ⟨hl', rfl⟩ := List.getElem?_eq_some_iff.mp hl
    rcases Nat.lt_trichotomy k l with hlt | rfl | hlt
    · exact absurd rfl (hapart k l hk' hl' hlt id hid id hid')
    · rfl
    · exact absurd rfl (hapart l k hl' hk' hlt id hid' id hid)
  · simp [h.queue]
  · simp [h.queue]

/-- Nothing ends a query that the server has in hand but its execution, no news of a result throws,
and a cancellation finds the query it kills first in the map. -/
structure Undisturbed (run : Server) : Prop where
  leaves : ∀ e ∈ run.events, leavesInHand e.2
  tells : ∀ e ∈ run.events, tellsResult e.2
  first : ∀ e ∈ run.events, cancelsFirst e.2

theorem Undisturbed.inOrder (h : Undisturbed run) (hfresh : Fresh run) (he : (i, e) ∈ run.events) :
    ∃ ghost, InOrder ghost e.before ∧ serverScript.due (ghost i) e.stmt := by
  obtain ⟨es, fs, hsplit⟩ := append_of_mem he
  refine ⟨serverScript.ghost run.phases es, ?_, run.keeps hsplit⟩
  apply (interleave_invariant (I := fun es w => InOrder (serverScript.ghost run.phases es) w)
    run.schedule run.start hfresh.inOrder _).2 es i e fs hsplit
  intro es i e fs hsplit hI
  have hmem : (i, e) ∈ run.events := by
    rw [Server.events, hsplit]
    simp
  apply hI.step (run.keeps hsplit) (h.leaves _ hmem) (h.tells _ hmem)
  intro j
  exact Script.ghost_concat run.phases es i j e

/-- A query has one outcome as long as nothing but its execution ends it in hand, the news of a
stored result is told, and cancellations come to the first query. -/
theorem one_outcome (run : Server) (hfresh : Fresh run) (h : Undisturbed run) : OneOutcome run := by
  constructor
  · intro e he id row hrow hover
    obtain ⟨ghost, horder, hdue⟩ := h.inOrder hfresh he
    exact ⟨row, horder.kept hdue hrow hover, rfl, rfl, rfl⟩
  · intro e he id attempt resume hstmt row hrow
    obtain ⟨ghost, horder, hdue⟩ := h.inOrder hfresh he
    rw [hstmt] at hdue
    exact horder.open_of_spawn hdue row hrow
  · rintro ⟨i, c, w⟩ he rfl id hkilled
    exact marked_of_killed (h.first _ he) hkilled

variable (newsFails : Nat → Option String)

/-- An agent server that is idle, whose runtime answers; `newsFails` names the steps at which the news
call throws. -/
def answeringServer : World where
  rows := []
  active := []
  queue := []
  running := none
  inHand := []
  lastSessionId := none
  step := 0
  settings := codexSettings
  env := {
    clock := fun step => step
    harness := fun _ _ => .codex
      [.turnStarted, .itemCompleted (some (.agentMessage (some "The build passes."))), .turnCompleted]
      { timedOut := none, exitCode := some 0 }
    dbFails := fun _ => none
    newsFails }

def askedOnce : Server where
  turns := 1
  activities := [.talk { queryId := "query_1", prompt := "Does the build pass?" } none none]
  schedule := [1, 1, 1] ++ List.replicate 12 0
  start := answeringServer newsFails

theorem askedOnce_fresh : Fresh (askedOnce newsFails) := by
  constructor
  · rfl
  · rfl
  · simp [askedOnce, Activity.queryId?]
  · intro activity hactivity id _
    rfl

/-- All of it goes well. -/
theorem answered_once : OneOutcome (askedOnce fun _ => none) := by
  apply one_outcome _ (askedOnce_fresh _)
  constructor <;> decide +kernel

def newsThrows (step : Nat) : Option String := if step = 9 then some "disk I/O error" else none

theorem completed_then_failed : ∃ e ∈ (askedOnce newsThrows).events,
    (e.2.before.row? "query_1").map (·.status) = some .completed ∧
      (e.2.after.row? "query_1").map (·.status) = some .failed := by
  decide +kernel

theorem not_one_outcome : ¬ OneOutcome (askedOnce newsThrows) := by
  intro h
  obtain ⟨e, he, hbefore, hafter⟩ := completed_then_failed
  obtain ⟨row, hrow, hcompleted⟩ := Option.map_eq_some_iff.mp hbefore
  have hover : row.isOver := by
    rw [QueryRow.isOver, hcompleted]
    rfl
  obtain ⟨row', hrow', hstatus, _⟩ := h.kept e he "query_1" row hrow hover
  rw [hrow', Option.map_some, hstatus, hcompleted] at hafter
  cases hafter

end IdAgents.Agent
