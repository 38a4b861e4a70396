import IdAgents.Library.Provided
import IdAgents.Scheduling.Budget

namespace IdAgents.Scheduling
open JsText KeyedTable AtomicProgram

structure Same (w w' : World) : Prop where
  definitions : w'.definitions = w.definitions
  targets : w'.targets = w.targets
  runs : w'.runs = w.runs

theorem Same.refl (w : World) : Same w w := ⟨rfl, rfl, rfl⟩

theorem Same.trans (h : Same w w') (h' : Same w' w'') : Same w w'' :=
  ⟨h'.definitions.trans h.definitions, h'.targets.trans h.targets, h'.runs.trans h.runs⟩

structure Grows (w w' : World) : Prop where
  definitions : w'.definitions = w.definitions
  targets : w'.targets = w.targets
  has : ∀ key, w.has key → w'.has key
  sent : ∀ scheduleId agentId, w.sent scheduleId agentId ≤ w'.sent scheduleId agentId

theorem Same.grows (h : Same w w') : Grows w w' where
  definitions := h.definitions
  targets := h.targets
  has key hkey := by
    rw [World.has, h.runs]
    exact hkey
  sent scheduleId agentId := by
    rw [World.sent, World.sent, h.runs]

theorem Grows.refl (w : World) : Grows w w := (Same.refl w).grows

theorem Grows.trans (h : Grows w w') (h' : Grows w' w'') : Grows w w'' where
  definitions := h'.definitions.trans h.definitions
  targets := h'.targets.trans h.targets
  has key hkey := h'.has key (h.has key hkey)
  sent scheduleId agentId := Nat.le_trans (h.sent scheduleId agentId) (h'.sent scheduleId agentId)

def Pending (w : World) (key : RunKey) : Prop :=
  ∃ row, w.runs.get? key = some row ∧ row.status = .pending

theorem Pending.same (h : Pending w key) (hsame : Same w w') : Pending w' key := by
  obtain ⟨row, hrow, hstatus⟩ := h
  exact ⟨row, by rw [hsame.runs, hrow], hstatus⟩

def Served (d : ScheduleDefinitionRow) (run : DueRun) (agentId : String) (w : World) : Prop :=
  (∀ maxRuns, d.maxRuns = some maxRuns → (w.sent run.scheduleId agentId : Int) < maxRuns) →
    w.has ⟨run.scheduleId, agentId, run.scheduledKey⟩

theorem Served.grows (h : Served d run agentId w) (hgrows : Grows w w') :
    Served d run agentId w' := by
  intro hleft
  apply hgrows.has
  apply h
  intro maxRuns hmax
  have hafter := hleft maxRuns hmax
  have hle := hgrows.sent run.scheduleId agentId
  omega

def Stmt.caught : Stmt → Bool
  | selectTasks _ | selectAgent _ | selectTeam _ => true
  | _ => false

def Answered (c : Stmt) (w : World) : Prop := c.caught ∨ c.fails w = none

instance : Decidable (Answered c w) := inferInstanceAs (Decidable (_ ∨ _))

theorem Answered.none (h : Answered c w) (hfallible : c.fallible) (hcaught : c.caught = false) :
    w.env.fails w.step = none := by
  rcases h with h | h
  · rw [hcaught] at h
    cases h
  · rwa [Stmt.fails, if_pos hfallible] at h

theorem listActive_provided (w : World) :
    listActiveDefinitions.provided Answered (fun r w' => ∃ defs, r = .ok defs ∧
      defs = w.definitions.rows.filter (·.active) ∧ Same w w') w := by
  intro h
  have hok := h.none rfl rfl
  change Program.provided Answered (thrown (Stmt.answerOr (w.env.fails w.step) _)) _ _
  rw [hok]
  exact ⟨_, rfl, rfl, ⟨rfl, rfl, rfl⟩⟩

theorem listTargets_provided (scheduleId : String) (w : World) :
    (listTargets scheduleId).provided Answered (fun r w' => ∃ agentIds, r = .ok agentIds ∧
      agentIds = (w.targets.filter (·.1 = scheduleId)).map Prod.snd ∧ Same w w') w := by
  intro h
  have hok := h.none rfl rfl
  change Program.provided Answered (thrown (Stmt.answerOr (w.env.fails w.step) _)) _ _
  rw [hok]
  exact ⟨_, rfl, rfl, ⟨rfl, rfl, rfl⟩⟩

theorem countRuns_provided (scheduleId agentId : String) (w : World) :
    (countRuns scheduleId agentId).provided Answered (fun r w' => ∃ n, r = .ok n ∧
      n = w.sent scheduleId agentId ∧ Same w w') w := by
  intro h
  have hok := h.none rfl rfl
  change Program.provided Answered (thrown (Stmt.answerOr (w.env.fails w.step) _)) _ _
  rw [hok]
  exact ⟨_, rfl, rfl, ⟨rfl, rfl, rfl⟩⟩

theorem resolveAgent_provided (agentId : String) (w : World) :
    ((issue (.resolveAgent agentId)).bind thrown).provided Answered (fun r w' =>
      ∃ target : Option DispatchTarget, r = .ok target ∧ Same w w') w := by
  intro h
  have hok := h.none rfl rfl
  change Program.provided Answered (thrown (Stmt.answerOr (w.env.fails w.step) _)) _ _
  rw [hok]
  exact ⟨_, rfl, ⟨rfl, rfl, rfl⟩⟩

theorem insertRun_provided (w : World) (hrow : row.status = .pending) :
    (insertRun row).provided Answered (fun r w' => ∃ inserted, r = .ok inserted ∧ Grows w w' ∧
      w'.has row.key ∧ (inserted = true → Pending w' row.key)) w := by
  intro h
  have hok := h.none rfl rfl
  change Program.provided Answered (thrown (Stmt.answerOr (w.env.fails w.step) _)) _ _
  rw [hok]
  have hruns : (Stmt.effect (.insertRun row) w).runs = w.runs.insert row := by
    simp only [Stmt.effect, Stmt.fails, Stmt.fallible, if_true, hok]
  have hgrows : Grows w (Stmt.effect (.insertRun row) w) := by
    constructor
    case definitions => rfl
    case targets => rfl
    case has =>
      intro key hkey
      obtain ⟨old, hold⟩ := Option.isSome_iff_exists.mp hkey
      rw [World.has, hruns, Table.get?_insert row hold]
      rfl
    case sent =>
      intro scheduleId agentId
      rw [World.sent, World.sent, hruns]
      rw [Table.insert]
      split
      · rw [List.countP_append]
        exact Nat.le_add_right ..
      · exact Nat.le_refl _
  have hthere : (Stmt.effect (.insertRun row) w).has row.key ∧
      ((!w.runs.insertRefused row) = true → Pending (Stmt.effect (.insertRun row) w) row.key) := by
    rw [World.has, Pending, hruns]
    cases hrefused : w.runs.insertRefused row with
    | true =>
      rw [Table.insert_of_refused hrefused]
      exact ⟨Table.isSome_of_refused (fun _ => rfl) hrefused, fun h => by cases h⟩
    | false =>
      have hafter : (w.runs.insert row).get? row.key = some row :=
        (Table.get?_insert_self hrefused).2
      rw [hafter]
      exact ⟨rfl, fun _ => ⟨row, rfl, hrow⟩⟩
  exact ⟨_, rfl, hgrows, hthere⟩

theorem updateRunStatus_provided {status : RunStatus} {error : Option String} (h : Pending w key) :
    (updateRunStatus key status error).provided Answered (fun r w' => r = .ok () ∧ Grows w w')
      w := by
  intro hanswered
  have hok := hanswered.none rfl rfl
  change Program.provided Answered (thrown (Stmt.answerOr (w.env.fails w.step) _)) _ _
  rw [hok]
  have hruns : (Stmt.effect (.updateRunStatus key status error) w).runs =
      w.runs.update (statusUpdate key status error) := by
    simp only [Stmt.effect, Stmt.fails, Stmt.fallible, if_true, hok]
  suffices hgrows : Grows w (Stmt.effect (.updateRunStatus key status error) w) from
    ⟨rfl, hgrows⟩
  constructor
  case definitions => rfl
  case targets => rfl
  case has =>
    intro k hk
    rw [World.has, hruns, Table.get?_isSome_update]
    exact hk
  case sent =>
    intro scheduleId agentId
    rw [World.sent, World.sent, hruns, Table.rows_update]
    split
    · exact Nat.le_refl _
    · rw [List.countP_map]
      apply List.countP_mono_left
      intro r hr hsent
      rw [Function.comp_apply, Update.rewrite_of_not_hits]
      · exact hsent
      · -- the row of the key is pending, so it is none of those that are counted
        obtain ⟨row, hrow, hpending⟩ := h
        rw [Bool.eq_false_iff]
        intro hhits
        have hkey : r.key = key := by
          have hboth : decide (r.key = key) && true := hhits
          rw [Bool.and_true] at hboth
          exact of_decide_eq_true hboth
        obtain rfl : r = row :=
          Table.eq_of_key hr (Table.get?_some hrow).1 (hkey.trans (Table.get?_some hrow).2.symm)
        simp [hpending] at hsent

theorem linkTask_provided (t : TaskRow) (w : World) :
    (linkTask t).provided Answered (fun _ w' => Same w w') w := by
  apply Program.provided_of_meets (linkTask_plain t) (.refl w)
  intro c w' hc h
  cases c with
  | selectTasks => exact h.trans ⟨rfl, rfl, rfl⟩
  | selectAgent => exact h.trans ⟨rfl, rfl, rfl⟩
  | selectTeam => exact h.trans ⟨rfl, rfl, rfl⟩
  | _ => cases hc

theorem linkTasks_provided (acc : List LinkedTaskSummary) (ts : List TaskRow) (w : World) :
    (linkTasks acc ts).provided Answered (fun r w' => ∃ summaries, r = .ok summaries ∧ Same w w')
      w := by
  induction ts generalizing acc w with
  | nil => exact ⟨acc, rfl, .refl w⟩
  | cons t ts ih =>
    have hfirst : (((linkTask t).bind fun s => .ret (some s)).tryCatch
        fun _ => .ret none).provided Answered (fun r w' => ∃ found, r = .ok found ∧ Same w w')
          w := by
      apply Program.provided_tryCatch (T := fun _ w' => Same w w')
      · apply Program.provided_seq (linkTask_provided t w)
        · intro s w' h
          exact h
        · intro e w' h
          exact h
      · intro found w' h
        exact ⟨found, rfl, h⟩
      · intro e w' h
        exact ⟨none, rfl, h⟩
    apply Program.provided_then hfirst
    intro found w' h
    cases found with
    | none => exact ⟨acc, rfl, h⟩
    | some s =>
      apply Program.provided_mono (ih (acc ++ [s]) w')
      rintro r w'' ⟨summaries, rfl, h'⟩
      exact ⟨summaries, rfl, h.trans h'⟩
section
variable (d : ScheduleDefinitionRow)

theorem linkedTasks_provided (w : World) :
    (linkedTasks d).provided Answered (fun r w' => ∃ summaries, r = .ok summaries ∧ Same w w')
      w := by
  rw [linkedTasks]
  split
  · have hrows : (((issue (.selectTasks d.id)).bind thrown).tryCatch
        fun _ => .ret []).provided Answered (fun r w' => ∃ ts, r = .ok ts ∧ Same w w') w := by
      intro _
      change Program.provided Answered ((thrown (Stmt.answerOr (w.env.fails w.step)
        (w.env.tasks w.step d.id))).tryCatch _) _ _
      cases w.env.fails w.step with
      | some e => exact ⟨[], rfl, ⟨rfl, rfl, rfl⟩⟩
      | none => exact ⟨_, rfl, ⟨rfl, rfl, rfl⟩⟩
    apply Program.provided_then hrows
    intro ts w' h
    apply Program.provided_mono (linkTasks_provided [] ts w')
    rintro r w'' ⟨summaries, rfl, h'⟩
    exact ⟨summaries, rfl, h.trans h'⟩
  · exact ⟨[], rfl, .refl w⟩

theorem dispatch_provided (target : DispatchTarget) (key : RunKey)
    (tasks : List LinkedTaskSummary) (w : World) : (dispatch d target key tasks).provided Answered
      (fun r w' => ∃ result, r = .ok result ∧ Same w w') w := by
  rw [dispatch]
  cases deliveryPath d target with
  | error e => exact ⟨_, rfl, .refl w⟩
  | ok path =>
    intro _
    exact ⟨_, rfl, ⟨rfl, rfl, rfl⟩⟩

theorem deliver_provided {d : ScheduleDefinitionRow} {target : DispatchTarget} (h : Pending w key) :
    (deliver d key target).provided Answered (fun r w' => r = .ok () ∧ Grows w w') w := by
  apply Program.provided_then (linkedTasks_provided d w)
  intro tasks w' hsame
  apply Program.provided_then (dispatch_provided d target key tasks w')
  intro result w'' hsame'
  have hall := hsame.trans hsame'
  have hwrite : ∀ status error, (updateRunStatus key status error).provided Answered
      (fun r w' => r = .ok () ∧ Grows w w') w'' := by
    intro status error
    apply Program.provided_mono (updateRunStatus_provided (h.same hall))
    rintro r v ⟨rfl, hgrows⟩
    exact ⟨rfl, hall.grows.trans hgrows⟩
  split
  · exact hwrite .sent none
  · exact hwrite .failed result.error

theorem fire_provided (nowSec : Int) (d : ScheduleDefinitionRow) (run : DueRun)
    (agentId : String) (w : World) :
    (fire nowSec d run agentId).provided Answered (fun r w' => r = .ok () ∧ Grows w w' ∧
      w'.has ⟨run.scheduleId, agentId, run.scheduledKey⟩) w := by
  apply Program.provided_then (insertRun_provided w rfl)
  rintro inserted w' ⟨hgrows, hhas, hpending⟩
  split
  · next hinserted =>
    apply Program.provided_then (resolveAgent_provided agentId w')
    intro target w'' hsame
    have hrow := (hpending hinserted).same hsame
    have hdone : ∀ {p : Prog Unit}, p.provided Answered (fun r v => r = .ok () ∧ Grows w'' v) w'' →
        p.provided Answered (fun r v => r = .ok () ∧ Grows w v ∧
          v.has ⟨run.scheduleId, agentId, run.scheduledKey⟩) w'' := by
      intro p hp
      apply Program.provided_mono hp
      rintro r v ⟨rfl, hgrows'⟩
      have hlater := hsame.grows.trans hgrows'
      exact ⟨rfl, hgrows.trans hlater, hlater.has _ hhas⟩
    cases target with
    | none => exact hdone (updateRunStatus_provided hrow)
    | some target => exact hdone (deliver_provided hrow)
  · exact ⟨rfl, hgrows, hhas⟩

theorem tickAgent_provided (nowSec : Int) (d : ScheduleDefinitionRow) (run : DueRun)
    (agentId : String) (w : World) :
    (tickAgent nowSec d run agentId).provided Answered (fun r w' => r = .ok () ∧ Grows w w' ∧
      Served d run agentId w') w := by
  have hfire : ∀ v, Same w v → (fire nowSec d run agentId).provided Answered
      (fun r w' => r = .ok () ∧ Grows w w' ∧ Served d run agentId w') v := by
    intro v hsame
    apply Program.provided_mono (fire_provided nowSec d run agentId v)
    rintro r w' ⟨rfl, hgrows, hhas⟩
    exact ⟨rfl, hsame.grows.trans hgrows, fun _ => hhas⟩
  unfold tickAgent hasBudget
  cases hmax : d.maxRuns with
  | none => exact hfire w (.refl w)
  | some maxRuns =>
    dsimp only
    rw [Program.bind_assoc]
    apply Program.provided_then (countRuns_provided run.scheduleId agentId w)
    rintro n v ⟨rfl, hsame⟩
    change Program.provided (S := sql) Answered (if decide (_ < maxRuns) then _ else _) _ _
    split
    · exact hfire v hsame
    · next hfull =>
      -- the budget is used up, and stays so
      refine ⟨rfl, hsame.grows, fun hleft => ?_⟩
      have hlt := hleft maxRuns hmax
      have hsent := hsame.grows.sent run.scheduleId agentId
      rw [decide_eq_true_eq] at hfull
      omega

def AllServed (run : DueRun) (w : World) : Prop :=
  ∀ agentId, (run.scheduleId, agentId) ∈ w.targets → Served d run agentId w

end

theorem AllServed.grows (h : AllServed d run w) (hgrows : Grows w w') : AllServed d run w' := by
  intro agentId hmem
  rw [hgrows.targets] at hmem
  exact (h agentId hmem).grows hgrows

theorem tickRun_provided (nowSec : Int) {defs : List ScheduleDefinitionRow} {run : DueRun}
    (hd : defs.find? (·.id = run.scheduleId) = some d) (w : World) :
    (tickRun nowSec defs run).provided Answered (fun r w' => r = .ok () ∧ Grows w w' ∧
      AllServed d run w') w := by
  rw [tickRun]
  rw [hd]
  apply Program.provided_then (listTargets_provided run.scheduleId w)
  rintro agentIds w' ⟨rfl, hsame⟩
  apply Program.provided_mono (Program.provided_each (R := Grows)
    (P := fun agentId v => Served d run agentId v) .refl (fun _ _ _ => .trans)
    (fun _ _ _ => .grows) fun agentId _ v => tickAgent_provided nowSec d run agentId v)
  rintro r v ⟨rfl, hgrows, hall⟩
  refine ⟨rfl, hsame.grows.trans hgrows, ?_⟩
  intro agentId hmem
  rw [hgrows.targets, hsame.targets] at hmem
  apply hall
  rw [List.mem_map]
  exact ⟨_, List.mem_filter.mpr ⟨hmem, by simp⟩, rfl⟩

theorem tickRun_each (nowSec : Int) (defs : List ScheduleDefinitionRow) (run : DueRun) (w : World) :
    (tickRun nowSec defs run).provided Answered (fun r w' => r = .ok () ∧ Grows w w' ∧
      ∀ d, defs.find? (·.id = run.scheduleId) = some d → AllServed d run w') w := by
  cases hd : defs.find? (·.id = run.scheduleId) with
  | none =>
    rw [tickRun, hd]
    refine ⟨rfl, .refl w, ?_⟩
    intro d h
    cases h
  | some d =>
    apply Program.provided_mono (tickRun_provided nowSec hd w)
    rintro r w' ⟨rfl, hgrows, hall⟩
    refine ⟨rfl, hgrows, ?_⟩
    rintro _ ⟨⟩
    exact hall

variable {intl : Intl}

theorem dueRuns_ok {windowStart windowEnd : Int} {defs : List ScheduleDefinitionRow}
    (h : ∀ d ∈ defs, (evaluate intl d windowStart windowEnd).isOk) :
    ∃ due, dueRuns intl windowStart windowEnd defs = .ok due ∧
      ∀ d ∈ defs, ∀ runs, evaluate intl d windowStart windowEnd = .ok runs → runs ⊆ due := by
  induction defs with
  | nil => exact ⟨[], rfl, by simp⟩
  | cons d ds ih =>
    obtain ⟨rest, hrest, hall⟩ := ih fun d hd => h d (by simp [hd])
    cases hruns : evaluate intl d windowStart windowEnd with
    | error e =>
      have hok := h d (by simp)
      rw [hruns] at hok
      exact absurd hok (by simp [Except.isOk, Except.toBool])
    | ok runs =>
      refine ⟨runs ++ rest, ?_, ?_⟩
      · rw [dueRuns, hruns, hrest]
        rfl
      · intro d' hd' runs' hruns'
        rcases List.mem_cons.mp hd' with rfl | hd'
        · obtain rfl := Except.ok.inj (hruns.symm.trans hruns')
          exact List.subset_append_left ..
        · intro run hrun
          exact List.mem_append_right _ (hall d' hd' runs' hruns' hrun)

structure Due (intl : Intl) (w : World) (windowStart windowEnd : Int) (d : ScheduleDefinitionRow)
    (run : DueRun) : Prop where
  stored : d ∈ w.definitions.rows
  active : d.active
  evaluated : ∃ runs, evaluate intl d windowStart windowEnd = .ok runs ∧ run ∈ runs

def Evaluates (intl : Intl) (w : World) (windowStart windowEnd : Int) : Prop :=
  ∀ d ∈ w.definitions.rows, d.active → (evaluate intl d windowStart windowEnd).isOk

theorem tickBody_provided {nowSec windowStart : Int} {w : World}
    (h : Evaluates intl w windowStart nowSec) :
    (tickBody intl nowSec windowStart).provided Answered (fun r w' => r = .ok () ∧ Grows w w' ∧
      ∀ d run, Due intl w windowStart nowSec d run → AllServed d run w') w := by
  apply Program.provided_then (listActive_provided w)
  rintro defs v ⟨rfl, hsame⟩
  obtain ⟨due, hdue, hall⟩ := dueRuns_ok fun d hd => h d (List.mem_of_mem_filter hd)
    (by simpa using (List.mem_filter.mp hd).2)
  rw [hdue]
  generalize hdefs : w.definitions.rows.filter (·.active) = defs at hall
  apply Program.provided_mono (Program.provided_each (R := Grows)
    (P := fun (run : DueRun) v => ∀ d, defs.find? (·.id = run.scheduleId) = some d →
      AllServed d run v) .refl (fun _ _ _ => .trans)
    (fun run v v' hserved hgrows d hd => (hserved d hd).grows hgrows)
    fun run _ v => tickRun_each nowSec defs run v)
  rintro r w' ⟨rfl, hgrows, heach⟩
  refine ⟨rfl, hsame.grows.trans hgrows, ?_⟩
  rintro d run ⟨hstored, hactive, runs, hruns, hrun⟩
  have hmem : d ∈ defs := by
    rw [← hdefs, List.mem_filter]
    exact ⟨hstored, by simpa using hactive⟩
  apply heach run (hall d hmem runs hruns hrun)
  -- the definition that is found by the id is this one
  have hid := (evaluate_dueIn hruns hrun).schedule
  obtain ⟨d', hd'⟩ := Option.isSome_iff_exists.mp (List.find?_isSome
    (p := fun d => decide (d.id = run.scheduleId)) |>.mpr ⟨d, hmem, by simp [hid]⟩)
  have hkey : d'.id = run.scheduleId := by simpa using List.find?_some hd'
  have hstored' : d' ∈ w.definitions.rows := by
    have hfound := List.mem_of_find?_eq_some hd'
    rw [← hdefs] at hfound
    exact List.mem_of_mem_filter hfound
  obtain rfl : d' = d := Table.eq_of_key hstored' hstored (hkey.trans hid)
  exact hd'

def windowStart (service : Nat) (w : World) : Int := w.lastTickAtSec service

def windowEnd (w : World) : Int := w.env.clock w.step

/-- The world when a tick that starts in `w` has ended. -/
def World.ticked (intl : Intl) (service : Nat) (w : World) : World :=
  ((tick intl service).run w).2

/-- No call of a tick throws, but for the lookups of linked tasks, and every active definition can be
evaluated: the tick does not come to its catch block. -/
structure Undisturbed (intl : Intl) (service : Nat) (w : World) : Prop where
  answered : ∀ e ∈ (tick intl service).trace w, Answered e.stmt e.before
  evaluates : Evaluates intl w (windowStart service w) (windowEnd w)

theorem tick_serves {service : Nat} {w : World} (h : Undisturbed intl service w)
    (hdue : Due intl w (windowStart service w) (windowEnd w) d run) :
    w.targets = (w.ticked intl service).targets ∧ AllServed d run (w.ticked intl service) := by
  have hsame : Same w (Stmt.effect (.startTick service) w) := ⟨rfl, rfl, rfl⟩
  have hbody := tickBody_provided (w := Stmt.effect (.startTick service) w) h.evaluates
  have htick : (tick intl service).provided Answered (fun _ w' => w.targets = w'.targets ∧
      AllServed d run w') w := by
    intro _
    have hcaught : ((tickBody intl (windowEnd w) (windowStart service w)).tryCatch
        fun _ => .ret ()).provided Answered (fun r w' => ∃ u, r = .ok u ∧ w.targets = w'.targets ∧
          AllServed d run w') (Stmt.effect (.startTick service) w) := by
      apply Program.provided_tryCatch hbody
      · rintro u w' ⟨_, hgrows, hall⟩
        refine ⟨u, rfl, (hgrows.targets.trans hsame.targets).symm, ?_⟩
        exact hall d run ⟨hdue.stored, hdue.active, hdue.evaluated⟩
      · rintro e w' ⟨hr, _⟩
        cases hr
    apply Program.provided_then hcaught
    rintro _ w' ⟨htargets, hall⟩ _
    exact ⟨htargets, hall.grows (Same.grows ⟨rfl, rfl, rfl⟩)⟩
  exact Program.provided_sound htick h.answered

theorem tick_cursor (intl : Intl) (service : Nat) (w : World) :
    (w.ticked intl service).lastTickAtSec service = windowEnd w := by
  have hcaught : ∃ v, ((tickBody intl (windowEnd w) (windowStart service w)).tryCatch
      fun _ => .ret ()).run (Stmt.effect (.startTick service) w) = (.ok (), v) := by
    rw [Program.run_tryCatch]
    cases (tickBody intl (windowEnd w) (windowStart service w)).run
        (Stmt.effect (.startTick service) w) with
    | mk r v =>
      cases r with
      | ok u => exact ⟨v, rfl⟩
      | error e => exact ⟨v, rfl⟩
  obtain ⟨v, hv⟩ := hcaught
  have hrun : (tick intl service).run w = (issue (.endTick service (windowEnd w))).run v :=
    Program.run_bind_ok hv _
  rw [World.ticked, hrun]
  exact if_pos rfl

structure ServiceRun where
  intl : Intl
  service : Nat
  starts : List World
  consecutive : ∀ n w w', starts[n]? = some w → starts[n + 1]? = some w' →
    windowStart service w' = (w.ticked intl service).lastTickAtSec service

namespace ServiceRun

structure Owes (run : ServiceRun) (w : World) (due : DueRun) (agentId : String) : Prop where
  point : ∃ d, Due run.intl w (windowStart run.service w) (windowEnd w) d due ∧
    ∀ maxRuns, d.maxRuns = some maxRuns →
      ((w.ticked run.intl run.service).sent due.scheduleId agentId : Int) < maxRuns
  target : (due.scheduleId, agentId) ∈ w.targets

variable (run : ServiceRun)

def NoneLost : Prop :=
  ∀ (n : Nat) w, run.starts[n]? = some w → ∀ due agentId, run.Owes w due agentId →
    (w.ticked run.intl run.service).has ⟨due.scheduleId, agentId, due.scheduledKey⟩ ∨
      ∃ (m : Nat) (w' : World), n < m ∧ run.starts[m]? = some w' ∧
        windowStart run.service w' < due.scheduledAt ∧ due.scheduledAt ≤ windowEnd w'

theorem window_next (hw : run.starts[n]? = some w)
    (hw' : run.starts[n + 1]? = some w') : windowStart run.service w' = windowEnd w := by
  rw [run.consecutive n w w' hw hw', tick_cursor]

theorem windows_part (hclock : ∀ w ∈ run.starts, windowStart run.service w ≤ windowEnd w)
    (hw : run.starts[n]? = some w) (k : Nat) (hw' : run.starts[n + 1 + k]? = some w') :
    windowEnd w ≤ windowStart run.service w' := by
  induction k generalizing w' with
  | zero =>
    rw [run.window_next hw hw']
  | succ k ih =>
    obtain ⟨v, hv⟩ : ∃ v, run.starts[n + 1 + k]? = some v := by
      have hlt := (List.getElem?_eq_some_iff.mp hw').1
      exact ⟨_, List.getElem?_eq_getElem (by omega)⟩
    have hnext := run.window_next hv hw'
    have hle := hclock v (List.mem_of_getElem? hv)
    have hold := ih hv
    omega

end ServiceRun

/-- In a run of a service whose ticks do not come to their catch block no due run is lost. -/
theorem none_lost (run : ServiceRun)
    (h : ∀ w ∈ run.starts, Undisturbed run.intl run.service w) : run.NoneLost := by
  rintro n w hw due agentId ⟨⟨d, hdue, hleft⟩, htarget⟩
  left
  obtain ⟨htargets, hall⟩ := tick_serves (h w (List.mem_of_getElem? hw)) hdue
  rw [htargets] at htarget
  exact hall agentId htarget hleft

def beats (env : Environment) : World :=
  { definitions := .ofRows [heartbeat 2]
    targets := [("hb_agent", "agent")]
    runs := .ofRows []
    lastTickAtSec := fun _ => 999
    step := 0
    env := env }

def twoTicks (env : Environment) : ServiceRun where
  intl := ⟨fun _ => none⟩
  service := 0
  starts := [beats env, (beats env).ticked ⟨fun _ => none⟩ 0]
  consecutive n w w' hw hw' := by
    cases n with
    | zero =>
      obtain rfl := Option.some.inj hw
      obtain rfl := Option.some.inj hw'
      rfl
    | succ n => cases hw'

theorem none_lost_twoTicks : (twoTicks answering).NoneLost := by
  apply none_lost (twoTicks answering)
  intro w hw
  rcases List.mem_cons.mp hw with rfl | hw
  · constructor
    case answered => decide +kernel
    case evaluates => rw [Evaluates]; decide +kernel
  · obtain rfl := List.mem_singleton.mp hw
    constructor
    case answered => decide +kernel
    case evaluates => rw [Evaluates]; decide +kernel

def locked : Environment :=
  { answering with
    clock := fun step => if step = 0 then 1000 else 1030
    fails := fun step => if step = 2 then some "SQLITE_BUSY: database is locked" else none }

/-- The run of the first tick has no row, and the next window starts after it. -/
theorem not_none_lost : ¬ ∀ run : ServiceRun, run.NoneLost := by
  intro h
  have howes : (twoTicks locked).Owes (beats locked)
      ⟨"hb_agent", "heartbeat:1000", 1000, .heartbeat⟩ "agent" := by
    constructor
    case point =>
      refine ⟨heartbeat 2, ⟨List.mem_singleton_self _, rfl, _, rfl, ?_⟩, ?_⟩
      · decide +kernel
      · rintro _ ⟨⟩
        decide +kernel
    case target => decide +kernel
  rcases h (twoTicks locked) 0 (beats locked) rfl _ _ howes with hhas | ⟨m, w', hm, hw', hin, _⟩
  · have hno : ((beats locked).ticked ⟨fun _ => none⟩ 0).runs.rows = [] := by decide +kernel
    rw [World.has, Table.get?] at hhas
    change (List.find? _ ((beats locked).ticked ⟨fun _ => none⟩ 0).runs.rows).isSome at hhas
    rw [hno] at hhas
    cases hhas
  · obtain ⟨k, rfl⟩ : ∃ k, m = 0 + 1 + k := ⟨m - 1, by omega⟩
    have hpart := (twoTicks locked).windows_part (by decide +kernel) (n := 0) rfl k hw'
    have hend : windowEnd (beats locked) = 1000 := rfl
    rw [hend] at hpart
    exact absurd hin (Int.not_lt.mpr hpart)

end IdAgents.Scheduling
