import Mathlib.Data.List.Induction
import IdAgents.Library.Rely
import IdAgents.Library.Table
import IdAgents.Orchestration.Types

namespace IdAgents.Orchestration.Mode
open JsText JsMap KeyedTable AtomicProgram List

/-- A row of `orchestration_state`; the block reasons are the counts the JSON text of the column
holds. -/
structure StateRow where
  teamId : String
  mode : OrchestrationMode := .paused
  consecutiveZeroTicks : Int := 0
  lastAdmissionBlockReasons : Dict String Nat := .empty
  lastTickAt : Option String := none
  lastDispatchAt : Option String := none
  autoPaused : Bool := false
  autoPauseReason : Option String := none
  updatedAt : String

instance : Schema StateRow String Empty where
  key r := r.teamId
  entry _ := none

def parseCountMap (counts : Dict String Nat) : Dict String Nat :=
  ⟨counts.entries.filter (0 < ·.2), counts.nodup.sublist (List.filter_sublist.map _)⟩

structure OrchestrationState where
  teamId : String
  mode : OrchestrationMode
  consecutiveZeroTicks : Int
  lastAdmissionBlockReasons : Dict String Nat
  lastTickAt : Option String
  lastDispatchAt : Option String
  autoPaused : Bool
  autoPauseReason : Option String
  updatedAt : String

structure TickOutcome where
  consecutiveZeroTicks : Int
  lastTickAt : String
  lastDispatchAt : Option String
  mode : OrchestrationMode
  autoPaused : Bool
  autoPauseReason : Option String
  lastAdmissionBlockReasons : Dict String Nat
  updatedAt : String

inductive StateUpdate where
  | setMode (mode : OrchestrationMode) (now : String)
  | setModeClearing (mode : OrchestrationMode) (now : String)
  | recordOutcome (o : TickOutcome)

def StateUpdate.set : StateUpdate → StateRow → StateRow
  | .setMode mode now, r => { r with mode, updatedAt := now }
  | .setModeClearing mode now, r =>
    { r with mode, autoPaused := false, autoPauseReason := none, consecutiveZeroTicks := 0,
             updatedAt := now }
  | .recordOutcome o, r =>
    { r with consecutiveZeroTicks := o.consecutiveZeroTicks, lastTickAt := some o.lastTickAt,
             lastDispatchAt := o.lastDispatchAt, mode := o.mode, autoPaused := o.autoPaused,
             autoPauseReason := o.autoPauseReason,
             lastAdmissionBlockReasons := o.lastAdmissionBlockReasons, updatedAt := o.updatedAt }

theorem StateUpdate.set_teamId (u : StateUpdate) (r : StateRow) : (u.set r).teamId = r.teamId := by
  cases u <;> rfl

def StateUpdate.writes : StateUpdate → OrchestrationMode
  | .setMode m _ | .setModeClearing m _ => m
  | .recordOutcome o => o.mode

theorem StateUpdate.set_mode (u : StateUpdate) (r : StateRow) : (u.set r).mode = u.writes := by
  cases u <;> rfl

def StateUpdate.at_ (teamId : String) (u : StateUpdate) : Update StateRow where
  at_ := teamId
  guard _ := true
  set := u.set
  key_set := u.set_teamId

inductive Stmt where
  | select (teamId : String)
  /-- `INSERT … ON CONFLICT(team_id) DO NOTHING` -/
  | insertDefault (teamId now : String)
  | update (teamId : String) (u : StateUpdate)

abbrev World := Table StateRow

namespace Stmt

def Ans : Stmt → Type
  | select _ => Option StateRow
  | insertDefault .. | update .. => Unit

def answer : (c : Stmt) → World → c.Ans
  | select teamId, w => w.get? teamId
  | insertDefault .., _ | update .., _ => ()

def effect : Stmt → World → World
  | select _, w => w
  | insertDefault teamId now, w => w.insert { teamId, updatedAt := now }
  | update teamId u, w => w.update (u.at_ teamId)

end Stmt

abbrev sql : Signature := ⟨Stmt, Stmt.Ans⟩

instance : Store sql World where
  answer := Stmt.answer
  effect := Stmt.effect

abbrev Prog (α : Type) := Program sql Empty α

def selectRow (teamId : String) : Prog (Option StateRow) := Program.stmt (S := sql) (.select teamId)

def insertDefault (teamId now : String) : Prog Unit :=
  Program.stmt (S := sql) (.insertDefault teamId now)

def execUpdate (teamId : String) (u : StateUpdate) : Prog Unit :=
  Program.stmt (S := sql) (.update teamId u)

def StateRow.state (r : StateRow) : OrchestrationState where
  teamId := r.teamId
  mode := r.mode
  consecutiveZeroTicks := r.consecutiveZeroTicks
  lastAdmissionBlockReasons := parseCountMap r.lastAdmissionBlockReasons
  lastTickAt := r.lastTickAt
  lastDispatchAt := r.lastDispatchAt
  autoPaused := r.autoPaused
  autoPauseReason := r.autoPauseReason
  updatedAt := r.updatedAt

/-- `now` is the clock where the row is missing. -/
def getOrchestrationState (teamId now : String) : Prog OrchestrationState := do
  match ← selectRow teamId with
  | none =>
    insertDefault teamId now
    return { teamId, mode := .paused, consecutiveZeroTicks := 0,
             lastAdmissionBlockReasons := .empty, lastTickAt := none, lastDispatchAt := none,
             autoPaused := false, autoPauseReason := none, updatedAt := now }
  | some r => return r.state

def setMode (teamId : String) (mode : OrchestrationMode) (clearAutoPause : Bool)
    (readAt now : String) : Prog Unit := do
  let _ ← getOrchestrationState teamId readAt
  execUpdate teamId (if clearAutoPause then .setModeClearing mode now else .setMode mode now)

structure TickOptions where
  zeroTicks : Int
  fired : Bool
  admissionBlockReasons : Option (Dict String Nat)
  /-- The reason of the pause. -/
  autoPause : Option String

def TickOptions.outcome (opts : TickOptions) (state : OrchestrationState) (now : String) :
    TickOutcome where
  consecutiveZeroTicks := opts.zeroTicks
  lastTickAt := now
  lastDispatchAt := if opts.fired then some now else state.lastDispatchAt
  mode := if opts.autoPause.isSome then .paused else state.mode
  autoPaused := opts.autoPause.isSome || state.autoPaused
  autoPauseReason := opts.autoPause.or state.autoPauseReason
  lastAdmissionBlockReasons :=
    if opts.fired then .empty else opts.admissionBlockReasons.getD .empty
  updatedAt := now

def recordTickOutcome (teamId : String) (opts : TickOptions) (readAt now : String) : Prog Unit := do
  let state ← getOrchestrationState teamId readAt
  execUpdate teamId (.recordOutcome (opts.outcome state now))

inductive Call where
  | setMode (teamId : String) (mode : OrchestrationMode) (clearAutoPause : Bool)
      (readAt now : String)
  | recordTickOutcome (teamId : String) (opts : TickOptions) (readAt now : String)
  | getOrchestrationState (teamId now : String)

def Call.program : Call → Prog Unit
  | .setMode teamId mode clearAutoPause readAt now => Mode.setMode teamId mode clearAutoPause readAt now
  | .recordTickOutcome teamId opts readAt now => Mode.recordTickOutcome teamId opts readAt now
  | .getOrchestrationState teamId now => do
    let _ ← Mode.getOrchestrationState teamId now
    return ()

def Call.team : Call → String
  | .setMode teamId .. | .recordTickOutcome teamId .. | .getOrchestrationState teamId _ => teamId

def Call.autoPauses : Call → Bool
  | .recordTickOutcome _ opts .. => opts.autoPause.isSome
  | _ => false

/-- Calls in progress together: `schedule` names, step by step, the call whose next statement is
executed. -/
structure Calls where
  calls : List Call
  schedule : List Nat
  start : World

def World.mode? (w : World) (teamId : String) : Option OrchestrationMode :=
  (w.get? teamId).map (·.mode)

def World.modeRead (w : World) (teamId : String) : OrchestrationMode :=
  (w.mode? teamId).getD .paused

namespace Calls
section
variable (run : Calls)

def events : List (Nat × Event sql World) :=
  interleaveEvents run.schedule (run.calls.map Call.program) run.start

def autoPauses (i : Nat) : Bool := run.calls[i]?.any Call.autoPauses

/-- What a step makes of the mode the operator has asked for: a `setMode` replaces it, and a tick
that pauses the daemon ends it. -/
def asked (teamId : String) (m : Option OrchestrationMode)
    (e : Nat × Event sql World) : Option OrchestrationMode :=
  match (e.2.stmt : Stmt) with
  | .update t (.recordOutcome _) => if t = teamId ∧ run.autoPauses e.1 then none else m
  | .update t u => if t = teamId then some u.writes else m
  | _ => m

def operatorMode (teamId : String) (es : List (Nat × Event sql World)) : Option OrchestrationMode :=
  es.foldl (run.asked teamId) none

/-- After every step the stored mode is the one that the last `setMode` set, unless a tick has
paused the daemon since. -/
def KeepsMode : Prop :=
  ∀ es i e fs, run.events = es ++ (i, e) :: fs → ∀ teamId m,
    run.operatorMode teamId (es ++ [(i, e)]) = some m → World.mode? e.after teamId = some m

/-- What the operator asks for between the read and the write of a tick that does not pause the
daemon is the mode that was read. -/
def ReadsCurrent : Prop :=
  ∀ es i read ms write fs teamId o,
    run.events = (es ++ (i, read) :: ms) ++ (i, write) :: fs →
    read.stmt = Stmt.select teamId → write.stmt = Stmt.update teamId (.recordOutcome o) →
    run.autoPauses i = false → ∀ m, run.operatorMode teamId ms = some m →
    World.modeRead read.before teamId = m

end

end Calls

/-- How far a call has come: the mode it has read, and whether it knows the row to be there. -/
structure Progress where
  call : Option Call
  read : Option OrchestrationMode := none
  ensured : Bool := false

/-- What a call may write: the row it knows of, and for a tick that goes on the mode it read. -/
def Progress.Writes (g : Progress) (u : StateUpdate) : Prop :=
  g.ensured ∧ ∀ o, u = .recordOutcome o → ∃ m, g.read = some m ∧
    (g.call.any Call.autoPauses = false → o.mode = m)

def callScript : Script sql Progress where
  see g c := match c with
    | .select _ => fun (row : Option StateRow) =>
      { g with read := some ((row.map (·.mode)).getD .paused), ensured := row.isSome }
    | .insertDefault .. => fun _ => { g with ensured := true }
    | .update .. => fun _ => g
  due g c := match c with
    | .select teamId => g.call.map Call.team = some teamId ∧ g.read = none
    | .insertDefault teamId _ => g.call.map Call.team = some teamId
    | .update teamId u => g.call.map Call.team = some teamId ∧ g.Writes u

theorem getOrchestrationState_keeps {f : OrchestrationState → Prog β}
    {R : Except Empty β → Progress → Prop} (hteam : g.call.map Call.team = some teamId)
    (hread : g.read = none)
    (h : ∀ state, (f state).keeps callScript R { g with read := some state.mode, ensured := true }) :
    ((getOrchestrationState teamId now).bind f).keeps callScript R g := by
  refine ⟨⟨hteam, hread⟩, fun (row : Option StateRow) => ?_⟩
  cases row with
  | none => exact ⟨hteam, fun _ => h _⟩
  | some r => exact h r.state

theorem call_keeps (call : Call) :
    call.program.keeps callScript (fun _ _ => True) { call := some call } := by
  cases call with
  | getOrchestrationState teamId now =>
    apply getOrchestrationState_keeps rfl rfl
    intro state
    trivial
  | setMode teamId mode clearAutoPause readAt now =>
    apply getOrchestrationState_keeps rfl rfl
    intro state
    refine ⟨⟨rfl, rfl, ?_⟩, fun _ => trivial⟩
    cases clearAutoPause <;> nofun
  | recordTickOutcome teamId opts readAt now =>
    apply getOrchestrationState_keeps rfl rfl
    intro state
    refine ⟨⟨rfl, rfl, ?_⟩, fun _ => trivial⟩
    rintro o ⟨⟩
    refine ⟨state.mode, rfl, fun hpause => ?_⟩
    have hnone : opts.autoPause.isSome = false := hpause
    simp [TickOptions.outcome, hnone]

theorem mode?_update (w : World) (u : StateUpdate) (teamId : String) :
    World.mode? (w.update (u.at_ teamId)) teamId = (w.mode? teamId).map fun _ => u.writes := by
  have hfree : w.updateRefused (u.at_ teamId) = false := Table.not_refused_of_entry fun _ _ => rfl
  rw [World.mode?, Table.get?_update, hfree, World.mode?]
  cases hrow : w.get? teamId with
  | none => rfl
  | some r =>
    have hits : (u.at_ teamId).hits r := by
      have hkey := (Table.get?_some hrow).2
      simp [Update.hits, StateUpdate.at_, hkey]
    have hmode : ((u.at_ teamId).set r).mode = u.writes := u.set_mode r
    simp [Update.rewrite_of_hits hits, hmode]

theorem mode?_update_ne (w : World) (u : StateUpdate) (h : t ≠ teamId) :
    World.mode? (w.update (u.at_ t)) teamId = w.mode? teamId := by
  have hother : (u.at_ t).at_ ≠ teamId := h
  rw [World.mode?, Table.get?_update_ne hother]
  rfl

theorem mode?_insert (w : World) (h : w.mode? teamId = some m) (row : StateRow) :
    World.mode? (w.insert row) teamId = some m := by
  obtain ⟨r, hr, rfl⟩ := Option.map_eq_some_iff.mp h
  rw [World.mode?, Table.get?_insert row hr]
  rfl

namespace Calls
variable {run : Calls}

theorem foldl_asked (run : Calls) (teamId : String) (es : List (Nat × Event sql World)) :
    (∀ m, es.foldl (run.asked teamId) m = m) ∨ ∃ c, ∀ m, es.foldl (run.asked teamId) m = c := by
  induction es with
  | nil => exact .inl fun _ => rfl
  | cons e es ih =>
    have hstep : (∀ m, run.asked teamId m e = m) ∨ ∃ c, ∀ m, run.asked teamId m e = c := by
      obtain ⟨i, c, w⟩ := e
      cases c with
      | select => exact .inl fun _ => rfl
      | insertDefault => exact .inl fun _ => rfl
      | update t u =>
        cases u with
        | recordOutcome o =>
          by_cases h : t = teamId ∧ run.autoPauses i
          · exact .inr ⟨none, fun _ => if_pos h⟩
          · exact .inl fun _ => if_neg h
        | setMode mode now | setModeClearing mode now =>
          by_cases h : t = teamId
          · exact .inr ⟨some mode, fun _ => if_pos h⟩
          · exact .inl fun _ => if_neg h
    rcases ih with hes | ⟨c, hes⟩
    · rcases hstep with he | ⟨d, he⟩
      · exact .inl fun m => (hes _).trans (he m)
      · exact .inr ⟨d, fun m => (hes _).trans (he m)⟩
    · exact .inr ⟨c, fun m => hes _⟩

theorem operatorMode_append (h : run.operatorMode teamId (es ++ fs) = some m) :
    run.operatorMode teamId fs = some m ∨ run.operatorMode teamId es = some m := by
  rw [operatorMode, foldl_append] at h
  rcases run.foldl_asked teamId fs with hfs | ⟨c, hfs⟩
  · exact .inr ((hfs _).symm.trans h)
  · exact .inl ((hfs none).trans ((hfs _).symm.trans h))

theorem operatorMode_of_later (es : List (Nat × Event sql World))
    (h : run.operatorMode teamId fs = some m) : run.operatorMode teamId (es ++ fs) = some m := by
  rw [operatorMode, foldl_append]
  rcases run.foldl_asked teamId fs with hfs | ⟨c, hfs⟩
  · rw [operatorMode, hfs none] at h
    cases h
  · exact (hfs _).trans ((hfs none).symm.trans h)

theorem operatorMode_concat (run : Calls) (teamId : String) (es : List (Nat × Event sql World))
    (e : Nat × Event sql World) : run.operatorMode teamId (es ++ [e]) =
      run.asked teamId (run.operatorMode teamId es) e := by
  rw [operatorMode, foldl_append]
  rfl

/-- How far call `i` has come by the events `es`. -/
def progress (run : Calls) (es : List (Nat × Event sql World)) (i : Nat) : Progress :=
  callScript.ghost (fun i => { call := run.calls[i]? }) es i

theorem progress_due (hsplit : run.events = es ++ (i, e) :: fs) :
    callScript.due (run.progress es i) e.stmt := by
  apply interleave_keeps (R := fun _ _ _ => True) run.schedule run.start _ es i e fs hsplit
  intro j p hp
  obtain ⟨call, hcall, rfl⟩ : ∃ call, run.calls[j]? = some call ∧ call.program = p := by
    simpa using hp
  rw [hcall]
  exact call_keeps call

theorem progress_concat (run : Calls) (es : List (Nat × Event sql World)) (i j : Nat)
    (e : Event sql World) : run.progress (es ++ [(i, e)]) j =
      if i = j then callScript.see (run.progress es i) e.stmt (Store.answer e.stmt e.before)
      else run.progress es j :=
  Script.ghost_concat ..

theorem see_call (g : Progress) (c : Stmt) (a : c.Ans) : (callScript.see g c a).call = g.call := by
  cases c <;> rfl

theorem progress_call (run : Calls) (es : List (Nat × Event sql World)) (i : Nat) :
    (run.progress es i).call = run.calls[i]? := by
  induction es using reverseRecOn with
  | nil => rfl
  | append_singleton es e ih =>
    obtain ⟨j, e⟩ := e
    rw [progress_concat]
    split
    · next h =>
      subst h
      rw [see_call, ih]
    · exact ih

theorem progress_read {read : Event sql World} (hread : read.stmt = Stmt.select teamId)
    (hsplit : run.events = (es ++ (i, read) :: ms) ++ fs) :
    (run.progress (es ++ (i, read) :: ms) i).read = some (World.modeRead read.before teamId) := by
  induction ms using reverseRecOn generalizing fs with
  | nil =>
    rw [progress_concat, if_pos rfl]
    obtain ⟨c, w⟩ := read
    cases hread
    rfl
  | append_singleton ms e ih =>
    obtain ⟨j, e⟩ := e
    have hes : es ++ (i, read) :: (ms ++ [(j, e)]) = (es ++ (i, read) :: ms) ++ [(j, e)] := by
      rw [append_assoc, cons_append]
    rw [hes, append_assoc, singleton_append] at hsplit
    have hbefore := ih hsplit
    rw [hes, progress_concat]
    split
    · next h =>
      subst h
      have hdue := progress_due hsplit
      obtain ⟨c, w⟩ := e
      cases c with
      | select t => exact absurd (hdue.2.symm.trans hbefore) nofun
      | insertDefault | update => exact hbefore
    · exact hbefore

/-- The state and the calls in progress, as long as no tick writes back a mode that is out of
date. -/
structure Kept (run : Calls) (es : List (Nat × Event sql World)) (w : World) : Prop where
  mode : ∀ teamId m, run.operatorMode teamId es = some m → w.mode? teamId = some m
  row : ∀ i teamId, (run.progress es i).ensured →
    (run.progress es i).call.map Call.team = some teamId → (w.mode? teamId).isSome
  read : ∀ i teamId m, (run.progress es i).read = some m →
    (run.progress es i).call.map Call.team = some teamId →
    ∃ as read ms, es = as ++ (i, read) :: ms ∧ read.stmt = Stmt.select teamId ∧
      World.modeRead read.before teamId = m ∧
      ∀ m', run.operatorMode teamId as = some m' → World.mode? read.before teamId = some m'

theorem modeRead_of_mode? {w : World} (h : w.mode? teamId = some m) : w.modeRead teamId = m := by
  rw [World.modeRead, h]
  rfl

theorem Kept.outcome_mode (h : run.Kept es w) (hcurrent : run.ReadsCurrent)
    (hsplit : run.events = es ++ (i, ⟨.update teamId (.recordOutcome o), w⟩) :: fs)
    (hpause : run.autoPauses i = false) (hmode : run.operatorMode teamId es = some m) :
    o.mode = m := by
  obtain ⟨hteam, _, hwrites⟩ := progress_due hsplit
  obtain ⟨m', hread, hgoes⟩ := hwrites o rfl
  rw [progress_call] at hgoes
  rw [hgoes hpause]
  obtain ⟨as, read, ms, rfl, hselect, rfl, hearlier⟩ := h.read i teamId m' hread hteam
  rcases operatorMode_append hmode with hlater | hbefore
  · have hms : run.operatorMode teamId ms = some m := by
      obtain ⟨c, v⟩ := read
      cases hselect
      exact hlater
    exact hcurrent as i read ms _ fs teamId o hsplit hselect rfl hpause m hms
  · exact modeRead_of_mode? (hearlier m hbefore)

theorem Kept.mode_step (h : run.Kept es e.before) (hcurrent : run.ReadsCurrent)
    (hsplit : run.events = es ++ (i, e) :: fs)
    (hmode : run.operatorMode teamId (es ++ [(i, e)]) = some m) :
    World.mode? e.after teamId = some m := by
  rw [operatorMode_concat] at hmode
  have hdue := progress_due hsplit
  obtain ⟨c, w⟩ := e
  cases c with
  | select => exact h.mode teamId m hmode
  | insertDefault => exact mode?_insert w (h.mode teamId m hmode) _
  | update t u =>
    by_cases ht : t = teamId
    · subst ht
      obtain ⟨hteam, hensured, _⟩ := hdue
      obtain ⟨old, hold⟩ := Option.isSome_iff_exists.mp (h.row i t hensured hteam)
      have hafter : World.mode? (w.update (u.at_ t)) t = some u.writes := by
        rw [mode?_update, hold]
        rfl
      have hwrites : u.writes = m := by
        cases u with
        | setMode | setModeClearing => exact Option.some.inj ((if_pos rfl).symm.trans hmode)
        | recordOutcome o =>
          cases hpause : run.autoPauses i with
          | true => exact absurd ((if_pos ⟨rfl, hpause⟩).symm.trans hmode) nofun
          | false =>
            have hstays : run.operatorMode t es = some m :=
              (if_neg (by simp [hpause])).symm.trans hmode
            exact h.outcome_mode hcurrent hsplit hpause hstays
      exact hafter.trans (congrArg some hwrites)
    · have hstays : run.operatorMode teamId es = some m := by
        cases u with
        | setMode | setModeClearing => exact (if_neg ht).symm.trans hmode
        | recordOutcome => exact (if_neg (by simp [ht])).symm.trans hmode
      exact (mode?_update_ne w u ht).trans (h.mode teamId m hstays)

theorem isSome_mode?_effect (h : (w.mode? teamId).isSome) (c : Stmt) :
    (World.mode? (c.effect w) teamId).isSome := by
  obtain ⟨m, hm⟩ := Option.isSome_iff_exists.mp h
  cases c with
  | select => exact h
  | insertDefault t now => exact Option.isSome_of_eq_some (mode?_insert w hm _)
  | update t u =>
    rw [World.mode?, Option.isSome_map, Stmt.effect, Table.get?_isSome_update, ← Option.isSome_map]
    exact h

theorem Kept.row_step (h : run.Kept es e.before) (hsplit : run.events = es ++ (i, e) :: fs)
    (hensured : (run.progress (es ++ [(i, e)]) j).ensured)
    (hteam : run.calls[j]?.map Call.team = some teamId) : (World.mode? e.after teamId).isSome := by
  rw [progress_concat] at hensured
  split at hensured
  · next hij =>
    subst hij
    have hdue := progress_due hsplit
    rw [← progress_call run es] at hteam
    obtain ⟨c, w⟩ := e
    cases c with
    | select t =>
      obtain rfl := Option.some.inj (hdue.1.symm.trans hteam)
      rw [Event.after_mk, World.mode?, Option.isSome_map]
      exact hensured
    | insertDefault t now =>
      obtain rfl := Option.some.inj (hdue.symm.trans hteam)
      rw [Event.after_mk, World.mode?, Option.isSome_map]
      exact Table.isSome_get?_insert (fun _ => rfl) w _
    | update t u => exact isSome_mode?_effect (h.row i teamId hensured hteam) (.update t u)
  · rw [← progress_call run es] at hteam
    exact isSome_mode?_effect (h.row j teamId hensured hteam) e.stmt

theorem Kept.read_step (h : run.Kept es e.before) (hsplit : run.events = es ++ (i, e) :: fs)
    (hread : (run.progress (es ++ [(i, e)]) j).read = some m)
    (hteam : run.calls[j]?.map Call.team = some teamId) :
    ∃ as read ms, es ++ [(i, e)] = as ++ (j, read) :: ms ∧ read.stmt = Stmt.select teamId ∧
      World.modeRead read.before teamId = m ∧
      ∀ m', run.operatorMode teamId as = some m' → World.mode? read.before teamId = some m' := by
  rw [← progress_call run es] at hteam
  have hearlier : (run.progress es j).read = some m → ∃ as read ms,
      es ++ [(i, e)] = as ++ (j, read) :: ms ∧ read.stmt = Stmt.select teamId ∧
      World.modeRead read.before teamId = m ∧
      ∀ m', run.operatorMode teamId as = some m' → World.mode? read.before teamId = some m' := by
    intro hbefore
    obtain ⟨as, read, ms, rfl, hrest⟩ := h.read j teamId m hbefore hteam
    exact ⟨as, read, ms ++ [(i, e)], by simp, hrest⟩
  rw [progress_concat] at hread
  split at hread
  · next hij =>
    subst hij
    have hdue := progress_due hsplit
    obtain ⟨c, w⟩ := e
    cases c with
    | select t =>
      obtain rfl := Option.some.inj (hdue.1.symm.trans hteam)
      exact ⟨es, ⟨.select t, w⟩, [], rfl, rfl, Option.some.inj hread, h.mode t⟩
    | insertDefault | update => exact hearlier hread
  · exact hearlier hread

theorem Kept.step (h : run.Kept es e.before) (hcurrent : run.ReadsCurrent)
    (hsplit : run.events = es ++ (i, e) :: fs) : run.Kept (es ++ [(i, e)]) e.after where
  mode _ _ hmode := h.mode_step hcurrent hsplit hmode
  row j teamId hensured hteam := by
    rw [progress_call] at hteam
    exact h.row_step hsplit hensured hteam
  read j teamId m hread hteam := by
    rw [progress_call] at hteam
    exact h.read_step hsplit hread hteam

theorem kept_start (run : Calls) (w : World) : run.Kept [] w where
  mode := nofun
  row := nofun
  read := nofun

/-- The operator's mode stands after every step exactly when no tick writes back a mode that the
operator has replaced since it was read. -/
theorem keepsMode_iff (run : Calls) : run.KeepsMode ↔ run.ReadsCurrent := by
  constructor
  · intro hkeeps es i read ms write fs teamId o hsplit hread hwrite hpause m hm
    have hseen := progress_read hread hsplit
    have hdue := progress_due hsplit
    obtain ⟨c, w⟩ := write
    cases hwrite
    obtain ⟨_, _, hwrites⟩ := hdue
    obtain ⟨m', hread', hgoes⟩ := hwrites o rfl
    rw [progress_call] at hgoes
    obtain rfl : World.modeRead read.before teamId = m' := Option.some.inj (hseen.symm.trans hread')
    have hasked : run.operatorMode teamId ((es ++ (i, read) :: ms) ++
        [(i, ⟨.update teamId (.recordOutcome o), w⟩)]) = some m := by
      have hlater : run.operatorMode teamId ((i, read) :: ms) = some m := by
        obtain ⟨c, v⟩ := read
        cases hread
        exact hm
      rw [operatorMode_concat, operatorMode_of_later es hlater]
      exact if_neg (by simp [hpause])
    have hafter : World.mode? (w.update (StateUpdate.at_ teamId (.recordOutcome o))) teamId = some m :=
      hkeeps _ i _ fs hsplit teamId m hasked
    rw [mode?_update] at hafter
    obtain ⟨_, _, rfl⟩ := Option.map_eq_some_iff.mp hafter
    exact (hgoes hpause).symm
  · intro hcurrent es i e fs hsplit teamId m hm
    have hkept := (interleave_invariant (I := run.Kept) run.schedule run.start
      (run.kept_start run.start) fun es i e fs hsplit h => h.step hcurrent hsplit).2 es i e fs hsplit
    exact hkept.mode_step hcurrent hsplit hm

end Calls

/-- A tick reads the state of a running team, the operator stops the team, and the tick writes its
outcome. -/
def stopDuringTick : Calls where
  calls :=
    [.recordTickOutcome "default" { zeroTicks := 0, fired := true, admissionBlockReasons := none,
                                    autoPause := none } "" "2026-06-01T10:00:02.000Z",
     .setMode "default" .stopped false "" "2026-06-01T10:00:01.000Z"]
  schedule := [0, 1, 1, 0]
  start := .ofRows [{ teamId := "default", mode := .running, updatedAt := "2026-06-01T10:00:00.000Z" }]

theorem not_keepsMode : ¬ stopDuringTick.KeepsMode := by
  intro hkeeps
  have hlast : ∃ e, stopDuringTick.events = stopDuringTick.events.take 3 ++ [(0, e)] ∧
      stopDuringTick.operatorMode "default" (stopDuringTick.events.take 3 ++ [(0, e)]) =
        some .stopped ∧ World.mode? e.after "default" = some .running :=
    ⟨_, rfl, rfl, rfl⟩
  obtain ⟨e, hevents, hasked, hmode⟩ := hlast
  have hstopped := hkeeps _ 0 e [] hevents "default" .stopped hasked
  rw [hmode] at hstopped
  cases hstopped

end IdAgents.Orchestration.Mode
