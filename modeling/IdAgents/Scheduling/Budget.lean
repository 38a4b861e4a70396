import IdAgents.Library.Sum
import IdAgents.Scheduling.Service

namespace IdAgents.Scheduling
open JsText KeyedTable AtomicProgram Stmt List Program Bool Table Option

structure SchedulerRun where
  intl : Intl
  /-- The service of each tick. -/
  ticks : List Nat
  start : World
  schedule : List Nat

namespace SchedulerRun

def threads (run : SchedulerRun) : List (Prog Unit) := run.ticks.map (tick run.intl)

def after (run : SchedulerRun) (n : Nat) : World :=
  (interleave (run.schedule.take n) run.threads run.start).2

def events (run : SchedulerRun) : List (Nat × Event sql World) :=
  interleaveEvents run.schedule run.threads run.start

end SchedulerRun

def posts (key : RunKey) (e : Nat × Event sql World) : Bool :=
  match (e.2.stmt : Stmt) with
  | .post k .. => k = key
  | _ => false

def marksSent (scheduleId agentId : String) (e : Event sql World) : Bool :=
  match (e.stmt : Stmt) with
  | .updateRunStatus key status _ =>
    status = .sent && key.scheduleId = scheduleId && key.agentId = agentId &&
      (e.before.env.fails e.before.step).isNone
  | _ => false

structure Tally where
  counted : Nat := 0
  since : Nat := 0

def counts (scheduleId agentId : String) (e : Event sql World) : Bool :=
  match (e.stmt : Stmt) with
  | .countRuns s a => s = scheduleId && a = agentId && (e.before.env.fails e.before.step).isNone
  | _ => false

def Tally.next (i : Nat) (scheduleId agentId : String) (t : Tally) (e : Nat × Event sql World) :
    Tally :=
  if e.1 = i && counts scheduleId agentId e.2 then ⟨e.2.before.sent scheduleId agentId, 0⟩
  else if marksSent scheduleId agentId e.2 then { t with since := t.since + 1 }
  else t

def tally (i : Nat) (scheduleId agentId : String) (es : List (Nat × Event sql World)) : Tally :=
  es.foldl (Tally.next i scheduleId agentId) {}

theorem tally_concat (i : Nat) (scheduleId agentId : String) (es : List (Nat × Event sql World))
    (e : Nat × Event sql World) :
    tally i scheduleId agentId (es ++ [e]) = (tally i scheduleId agentId es).next i scheduleId
      agentId e := by
  rw [tally, foldl_append]
  rfl

def leavesRoom (defs : List ScheduleDefinitionRow) (es : List (Nat × Event sql World)) (i : Nat)
    (e : Event sql World) : Bool :=
  match (e.stmt : Stmt) with
  | .updateRunStatus key .sent _ =>
    let t := tally i key.scheduleId key.agentId es
    (e.before.env.fails e.before.step).isSome || defs.all fun d => d.id ≠ key.scheduleId ||
      d.maxRuns.all fun maxRuns => t.since = 0 || ((t.counted + t.since : Nat) : Int) < maxRuns
  | _ => true

def SchedulerRun.LeavesRoom (run : SchedulerRun) : Prop :=
  (List.range run.events.length).all fun n =>
    match run.events[n]? with
    | some (i, e) => leavesRoom run.start.definitions.rows (run.events.take n) i e
    | none => true

theorem SchedulerRun.LeavesRoom.at_step {run : SchedulerRun} (h : run.LeavesRoom)
    (hsplit : run.events = es ++ (i, e) :: fs) : leavesRoom run.start.definitions.rows es i e := by
  have hn : es.length ∈ List.range run.events.length := by
    rw [mem_range, hsplit, length_append, length_cons]
    omega
  have hat := all_eq_true.mp h _ hn
  rw [hsplit, getElem?_append_right (Nat.le_refl _), Nat.sub_self,
    take_left' rfl] at hat
  exact hat

structure Sight where
  defs : List ScheduleDefinitionRow := []
  counted : Option (String × String × Nat) := none
  token : Option RunKey := none

def Sight.see (g : Sight) : (c : Stmt) → c.Ans → Sight
  | .listActive, .ok defs => { g with defs := g.defs ++ defs }
  | .countRuns scheduleId agentId, .ok n => { g with counted := some (scheduleId, agentId, n) }
  | .insertRun row, .ok true => { g with token := some row.key }
  | .post .., _ => { g with token := none }
  | _, _ => g

def Sight.hasLeft (g : Sight) (scheduleId agentId : String) : Prop :=
  ∃ d ∈ g.defs, d.id = scheduleId ∧ ∀ maxRuns, d.maxRuns = some maxRuns →
    ∃ n : Nat, g.counted = some (scheduleId, agentId, n) ∧ (n : Int) < maxRuns

def Sight.due (g : Sight) : Stmt → Prop
  | .insertRun row => row.status = .pending
  | .updateRunStatus key .sent _ => g.hasLeft key.scheduleId key.agentId
  | .post key _ _ => g.token = some key
  | _ => True

def tickScript : Script sql Sight := ⟨Sight.see, Sight.due⟩

theorem plain_keeps {p : Prog α} (h : p.Meets plain fun _ => True) (g : Sight) :
    p.keeps tickScript (fun _ g' => g' = g) g := by
  apply keeps_mono (keeps_of_meets (G := (· = g)) h _ rfl)
  · rintro r g' ⟨rfl, _⟩
    rfl
  · rintro g' c hc rfl
    cases c with
    | selectTasks => exact ⟨trivial, fun _ => rfl⟩
    | selectAgent => exact ⟨trivial, fun _ => rfl⟩
    | selectTeam => exact ⟨trivial, fun _ => rfl⟩
    | _ => cases hc

variable {d : ScheduleDefinitionRow} {g : Sight} {key : RunKey}

theorem dispatch_keeps (hg : g.token = some key) : (dispatch d target key tasks).keeps tickScript
      (fun _ g' => g'.defs = g.defs ∧ g'.counted = g.counted) g := by
  rw [dispatch]
  cases deliveryPath d target with
  | error e => exact ⟨rfl, rfl⟩
  | ok path => exact ⟨hg, fun _ => ⟨rfl, rfl⟩⟩

variable {error : Option String} {status : RunStatus}

theorem updateRunStatus_keeps (h : status = .sent → g.hasLeft key.scheduleId key.agentId) :
    (updateRunStatus key status error).keeps tickScript (fun _ g' => g'.defs = g.defs) g := by
  refine ⟨?_, fun (a : Except String Unit) => ?_⟩
  · cases status with
    | sent => exact h rfl
    | _ => trivial
  · cases a with
    | ok u => rfl
    | error e => rfl

theorem deliver_keeps (key : RunKey) (target : DispatchTarget) (hg : g.token = some key)
    (h : g.hasLeft key.scheduleId key.agentId) :
    (deliver d key target).keeps tickScript (fun _ g' => g'.defs = g.defs) g := by
  apply keeps_seq (plain_keeps (linkedTasks_plain d) g)
  · rintro tasks g' rfl
    apply keeps_seq (dispatch_keeps hg)
    · rintro result g'' ⟨hdefs, hcounted⟩
      rw [← hdefs]
      split
      · apply updateRunStatus_keeps
        intro _
        rw [Sight.hasLeft, hdefs, hcounted]
        exact h
      · exact updateRunStatus_keeps nofun
    · rintro e g'' ⟨hdefs, _⟩
      exact hdefs
  · rintro e g' rfl
    rfl

theorem fire_keeps (nowSec : Int) (run : DueRun)
    (agentId : String) (h : g.hasLeft run.scheduleId agentId) :
    (fire nowSec d run agentId).keeps tickScript (fun _ g' => g'.defs = g.defs) g := by
  refine ⟨rfl, fun (a : Except String Bool) => ?_⟩
  cases a with
  | error e => rfl
  | ok inserted =>
    cases inserted with
    | false => rfl
    | true =>
      refine ⟨trivial, fun (a : Except String (Option DispatchTarget)) => ?_⟩
      cases a with
      | error e => rfl
      | ok target =>
        cases target with
        | none => exact updateRunStatus_keeps nofun
        | some target =>
          have h' : Sight.hasLeft { g with token := some ⟨run.scheduleId, agentId,
              run.scheduledKey⟩ } run.scheduleId agentId := h
          exact deliver_keeps ⟨run.scheduleId, agentId, run.scheduledKey⟩ target rfl h'

theorem tickAgent_keeps (nowSec : Int) (run : DueRun)
    (agentId : String) (hd : d ∈ g.defs) (hid : d.id = run.scheduleId) :
    (tickAgent nowSec d run agentId).keeps tickScript (fun _ g' => g'.defs = g.defs) g := by
  unfold tickAgent hasBudget
  cases hmax : d.maxRuns with
  | none =>
    apply fire_keeps
    exact ⟨d, hd, hid, fun maxRuns h => nomatch hmax.symm.trans h⟩
  | some maxRuns =>
    refine ⟨trivial, fun (a : Except String Nat) => ?_⟩
    cases a with
    | error e => rfl
    | ok n =>
      change keeps tickScript (if decide ((n : Int) < maxRuns) then _ else _) _ _
      split
      · next hleft =>
        apply fire_keeps
        refine ⟨d, hd, hid, fun limit hlimit => ⟨n, rfl, ?_⟩⟩
        obtain rfl := Option.some.inj (hmax.symm.trans hlimit)
        exact of_decide_eq_true hleft
      · rfl

theorem tickRun_keeps (nowSec : Int) (run : DueRun) (hg : g.defs = defs) :
    (tickRun nowSec defs run).keeps tickScript (fun _ g' => g'.defs = defs) g := by
  rw [tickRun]
  cases hd : defs.find? (·.id = run.scheduleId) with
  | none => exact hg
  | some d =>
    have hmem : d ∈ defs := mem_of_find?_eq_some hd
    have hid : d.id = run.scheduleId := by simpa using find?_some hd
    refine ⟨trivial, fun (a : Except String (List String)) => ?_⟩
    cases a with
    | error e => exact hg
    | ok agentIds =>
      apply keeps_fold (J := fun _ g => g.defs = defs) () hg
      · intro _ agentId agentIds g hg
        apply keeps_mono (tickAgent_keeps nowSec run agentId (hg ▸ hmem) hid)
        intro r g' hg'
        cases r with
        | ok u => exact hg'.trans hg
        | error e => exact hg'.trans hg
      · intro _ g hg
        exact hg

theorem tick_keeps (intl : Intl) (service : Nat) :
    (tick intl service).keeps tickScript (fun _ _ => True) {} := by
  refine ⟨trivial, fun (start : Int × Int) => ?_⟩
  have hbody : (tickBody intl start.1 start.2).keeps tickScript (fun _ _ => True) {} := by
    refine ⟨trivial, fun (a : Except String (List ScheduleDefinitionRow)) => ?_⟩
    cases a with
    | error e => trivial
    | ok defs =>
      change keeps tickScript ((thrown (dueRuns intl start.2 start.1 defs)).bind _) _ _
      cases dueRuns intl start.2 start.1 defs with
      | error e => trivial
      | ok due =>
        apply keeps_fold (J := fun _ g => g.defs = defs) () rfl
        · intro _ run due g hg
          apply keeps_mono (tickRun_keeps start.1 run hg)
          intro r g' hg'
          cases r with
          | ok u => exact hg'
          | error e => trivial
        · intro _ g _
          trivial
  have hcaught : ((tickBody intl start.1 start.2).tryCatch fun _ => .ret ()).keeps tickScript
      (fun _ _ => True) {} :=
    keeps_tryCatch hbody (fun _ _ _ => trivial) fun _ _ _ => trivial
  have hend : (((tickBody intl start.1 start.2).tryCatch fun _ => .ret ()).bind fun _ =>
      issue (.endTick service start.1)).keeps tickScript (fun _ _ => True) {} :=
    keeps_then hcaught fun _ _ => ⟨trivial, fun _ => trivial⟩
  exact hend

theorem effect_runs (c : Stmt) (w : World) :
    (∃ row, c = .insertRun row ∧ (c.effect w).runs = w.runs.insert row) ∨
    (∃ key status error, c = .updateRunStatus key status error ∧ c.fails w = none ∧
      (c.effect w).runs = w.runs.update (statusUpdate key status error)) ∨
    (c.effect w).runs = w.runs := by
  unfold effect
  dsimp only
  split
  · next row _ => exact .inl ⟨row, rfl, rfl⟩
  · next key status error hfails => exact .inr (.inl ⟨key, status, error, rfl, hfails, rfl⟩)
  · exact .inr (.inr rfl)

variable {w : World}

theorem has_effect (c : Stmt) (h : w.has key) : (c.effect w).has key := by
  unfold World.has at h ⊢
  rcases effect_runs c w with ⟨new, _, hruns⟩ | ⟨_, _, _, _, _, hruns⟩ | hruns
  · obtain ⟨row, hrow⟩ := isSome_iff_exists.mp h
    rw [hruns, get?_insert _ hrow]
    rfl
  · rw [hruns, get?_isSome_update]
    exact h
  · rw [hruns]
    exact h

def inserts (key : RunKey) (c : Stmt) (w : World) : Prop :=
  match c with
  | .insertRun row => row.key = key ∧ w.env.fails w.step = none ∧ w.runs.insertRefused row = false
  | _ => False

variable {c : Stmt}

theorem inserts_has (h : inserts key c w) : ¬ w.has key ∧ (c.effect w).has key := by
  cases c with
  | insertRun row =>
    obtain ⟨rfl, hfails, hfree⟩ := h
    have hbefore : w.runs.get? row.key = none := (get?_insert_self hfree).1
    have hafter : (w.runs.insert row).get? row.key = some row := (get?_insert_self hfree).2
    have hruns : (effect (.insertRun row) w).runs = w.runs.insert row := by
      simp only [effect, Stmt.fails, fallible, if_true, hfails]
    constructor
    · rw [World.has, hbefore]
      exact nofun
    · rw [World.has, hruns, hafter]
      rfl
  | _ => cases h

theorem see_token (g : Sight) (c : Stmt) (w : World) :
    (∃ key, inserts key c w ∧ (g.see c (c.answer w)).token = some key) ∨
      (∃ key url payload, c = .post key url payload ∧ (g.see c (c.answer w)).token = none) ∨
        (∀ key url payload, c ≠ .post key url payload) ∧
          (g.see c (c.answer w)).token = g.token := by
  cases c with
  | post key url payload => exact .inr (.inl ⟨key, url, payload, rfl, rfl⟩)
  | insertRun row =>
    have hanswer : ∀ result, answerOr (w.env.fails w.step) (!w.runs.insertRefused row) =
        result → answer (.insertRun row) w = result := fun _ h => h
    cases hfails : w.env.fails w.step with
    | some e =>
      rw [hfails] at hanswer
      refine .inr (.inr ⟨nofun, ?_⟩)
      rw [hanswer _ rfl]
      rfl
    | none =>
      rw [hfails] at hanswer
      rw [hanswer _ rfl]
      cases hrefused : w.runs.insertRefused row with
      | true => exact .inr (.inr ⟨nofun, rfl⟩)
      | false => exact .inl ⟨row.key, ⟨rfl, hfails, hrefused⟩, rfl⟩
  | listActive =>
    refine .inr (.inr ⟨nofun, ?_⟩)
    cases answer .listActive w with
    | ok defs => rfl
    | error e => rfl
  | countRuns s a =>
    refine .inr (.inr ⟨nofun, ?_⟩)
    cases answer (.countRuns s a) w with
    | ok n => rfl
    | error e => rfl
  | _ => exact .inr (.inr ⟨nofun, rfl⟩)

def posted (key : RunKey) (es : List (Nat × Event sql World)) : Nat := es.countP (posts key)

structure Tokens (token : Nat → Option RunKey) (w : World) (es : List (Nat × Event sql World)) :
    Prop where
  holds : ∀ i key, token i = some key → w.has key ∧ posted key es = 0
  unique : ∀ i j key, token i = some key → token j = some key → i = j
  once : ∀ key, posted key es ≤ 1
  absent : ∀ key, ¬ w.has key → posted key es = 0

theorem posted_concat (key : RunKey) (es : List (Nat × Event sql World))
    (e : Nat × Event sql World) :
    posted key (es ++ [e]) = posted key es + if posts key e then 1 else 0 := by
  rw [posted, countP_append, countP_singleton]
  rfl

theorem posted_other (hc : ∀ key url payload, c ≠ .post key url payload)
    (key : RunKey) (es : List (Nat × Event sql World)) (i : Nat) (w : World) :
    posted key (es ++ [(i, ⟨c, w⟩)]) = posted key es := by
  rw [posted_concat]
  cases c with
  | post k url payload => exact absurd rfl (hc k url payload)
  | _ => rfl

theorem Tokens.step {g : Nat → Sight} {es : List (Nat × Event sql World)}
    (h : Tokens (fun i => (g i).token) w es) (hdue : (g j).due c) :
    Tokens (fun i => (if j = i then (g j).see c (c.answer w) else g i).token) (c.effect w)
      (es ++ [(j, ⟨c, w⟩)]) := by
  rcases see_token (g j) c w with ⟨key, hinserts, htoken⟩ | ⟨key, url, payload, rfl, htoken⟩ |
    ⟨hc, htoken⟩
  · -- an insert: the row was absent, so nobody has posted it or may
    have hc : ∀ k url payload, c ≠ .post k url payload := by
      rintro k url payload rfl
      cases hinserts
    obtain ⟨hbefore, hafter⟩ := inserts_has hinserts
    have hother : ∀ i k, (if j = i then (g j).see c (c.answer w) else g i).token = some k →
        (j = i ∧ k = key) ∨ (g i).token = some k := by
      intro i k hk
      by_cases hij : j = i
      · rw [if_pos hij, htoken] at hk
        exact .inl ⟨hij, (Option.some.inj hk).symm⟩
      · rw [if_neg hij] at hk
        exact .inr hk
    constructor
    case holds =>
      intro i k hk
      rw [posted_other hc]
      rcases hother i k hk with ⟨_, rfl⟩ | hk
      · exact ⟨hafter, h.absent k hbefore⟩
      · exact ⟨has_effect c (h.holds i k hk).1, (h.holds i k hk).2⟩
    case unique =>
      intro i i' k hk hk'
      rcases hother i k hk with ⟨rfl, rfl⟩ | hk <;> rcases hother i' k hk' with ⟨rfl, heq⟩ | hk'
      · rfl
      · exact absurd (h.holds i' k hk').1 hbefore
      · exact absurd (h.holds i k hk).1 (heq ▸ hbefore)
      · exact h.unique i i' k hk hk'
    case once =>
      intro k
      rw [posted_other hc]
      exact h.once k
    case absent =>
      intro k hk
      rw [posted_other hc]
      exact h.absent k fun hhas => hk (has_effect c hhas)
  · -- the POST of the run that the tick inserted: its token goes
    have hkey : (g j).token = some key := hdue
    have hposted : ∀ k, posted k (es ++ [(j, ⟨.post key url payload, w⟩)]) =
        posted k es + if key = k then 1 else 0 := by
      intro k
      rw [posted_concat]
      simp [posts]
    have hother : ∀ i k, (if j = i then (g j).see (.post key url payload)
        (answer (.post key url payload) w) else g i).token = some k →
          (g i).token = some k ∧ key ≠ k := by
      intro i k hk
      by_cases hij : j = i
      · rw [if_pos hij, htoken] at hk
        cases hk
      · rw [if_neg hij] at hk
        refine ⟨hk, ?_⟩
        rintro rfl
        exact hij (h.unique j i key hkey hk)
    constructor
    case holds =>
      intro i k hk
      obtain ⟨hk, hne⟩ := hother i k hk
      rw [hposted, if_neg hne]
      exact ⟨has_effect _ (h.holds i k hk).1, (h.holds i k hk).2⟩
    case unique =>
      intro i i' k hk hk'
      exact h.unique i i' k (hother i k hk).1 (hother i' k hk').1
    case once =>
      intro k
      rw [hposted]
      by_cases hk : key = k
      · rw [← hk, (h.holds j key hkey).2, if_pos rfl]
      · rw [if_neg hk]
        exact h.once k
    case absent =>
      intro k hk
      have hbefore : ¬ w.has k := fun hhas => hk (has_effect _ hhas)
      have hne : key ≠ k := by
        rintro rfl
        exact hbefore (h.holds j key hkey).1
      rw [hposted, if_neg hne]
      exact h.absent k hbefore
  · have hsame : ∀ i, (if j = i then (g j).see c (c.answer w) else g i).token = (g i).token := by
      intro i
      by_cases hij : j = i
      · rw [if_pos hij, htoken, hij]
      · rw [if_neg hij]
    constructor
    case holds =>
      intro i k hk
      rw [posted_other hc]
      obtain ⟨hhas, hnone⟩ := h.holds i k ((hsame i).symm.trans hk)
      exact ⟨has_effect c hhas, hnone⟩
    case unique =>
      intro i i' k hk hk'
      exact h.unique i i' k ((hsame i).symm.trans hk) ((hsame i').symm.trans hk')
    case once =>
      intro k
      rw [posted_other hc]
      exact h.once k
    case absent =>
      intro k hk
      rw [posted_other hc]
      exact h.absent k fun hhas => hk (has_effect c hhas)

def isSent (scheduleId agentId : String) (r : ScheduleRunRow) : Bool :=
  r.key.scheduleId = scheduleId && r.key.agentId = agentId && r.status = .sent

theorem sent_insert (t : Table ScheduleRunRow) (scheduleId agentId : String)
    (hrow : row.status = .pending) : (t.insert row).rows.countP (isSent scheduleId agentId) =
      t.rows.countP (isSent scheduleId agentId) := by
  rw [Table.insert]
  split
  · have hnot : isSent scheduleId agentId row = false := by simp [isSent, hrow]
    rw [countP_append, countP_singleton, hnot]
    rfl
  · rfl

theorem sent_rewrite (h : ¬ (status = .sent ∧ key.scheduleId = scheduleId ∧ key.agentId = agentId))
    (row : ScheduleRunRow) (hsent : isSent scheduleId agentId
      ((statusUpdate key status error).rewrite row)) : isSent scheduleId agentId row := by
  cases hhits : (statusUpdate key status error).hits row with
  | false => rwa [Update.rewrite_of_not_hits hhits] at hsent
  | true =>
    have hkey : row.key = key := by
      have hboth : decide (row.key = key) && true := hhits
      rw [Bool.and_true] at hboth
      exact of_decide_eq_true hboth
    rw [Update.rewrite_of_hits hhits] at hsent
    have hall : (row.key.scheduleId = scheduleId && row.key.agentId = agentId &&
        status = .sent) := hsent
    rw [and_eq_true, and_eq_true, hkey] at hall
    exact absurd ⟨of_decide_eq_true hall.2, of_decide_eq_true hall.1.1,
      of_decide_eq_true hall.1.2⟩ h

theorem sent_update (t : Table ScheduleRunRow)
    (h : ¬ (status = .sent ∧ key.scheduleId = scheduleId ∧ key.agentId = agentId)) :
    (t.update (statusUpdate key status error)).rows.countP (isSent scheduleId agentId) ≤
      t.rows.countP (isSent scheduleId agentId) := by
  rw [rows_update]
  split
  · exact Nat.le_refl _
  · rw [countP_map]
    apply countP_mono_left
    intro row _ hsent
    exact sent_rewrite h row hsent

theorem sent_effect (scheduleId agentId : String)
    (hpending : ∀ row, c = .insertRun row → row.status = .pending) :
    (c.effect w).sent scheduleId agentId ≤
      w.sent scheduleId agentId + if marksSent scheduleId agentId ⟨c, w⟩ then 1 else 0 := by
  change (c.effect w).runs.rows.countP (isSent scheduleId agentId) ≤
    w.runs.rows.countP (isSent scheduleId agentId) + _
  rcases effect_runs c w with ⟨row, rfl, hruns⟩ | ⟨key, status, error, rfl, hfails, hruns⟩ | hruns
  · rw [hruns, sent_insert _ _ _ (hpending row rfl)]
    exact Nat.le_add_right ..
  · have hok : w.env.fails w.step = none := hfails
    rw [hruns]
    by_cases h : status = .sent ∧ key.scheduleId = scheduleId ∧ key.agentId = agentId
    · obtain ⟨rfl, rfl, rfl⟩ := h
      have hmarks : marksSent key.scheduleId key.agentId
          ⟨.updateRunStatus key .sent error, w⟩ := by
        simp [marksSent, hok]
      rw [if_pos hmarks]
      exact countP_update_le _ _ _
    · exact Nat.le_trans (sent_update _ h) (Nat.le_add_right ..)
  · rw [hruns]
    exact Nat.le_add_right ..

theorem see_defs (hd : d ∈ (g.see c (c.answer w)).defs) : d ∈ g.defs ∨ d ∈ w.definitions.rows := by
  cases c with
  | listActive =>
    have hanswer : ∀ result, answerOr (w.env.fails w.step)
        (w.definitions.rows.filter (·.active)) = result →
          answer .listActive w = result := fun _ h => h
    cases hfails : w.env.fails w.step with
    | some e =>
      rw [hfails] at hanswer
      rw [hanswer _ rfl] at hd
      exact .inl hd
    | none =>
      rw [hfails] at hanswer
      rw [hanswer _ rfl] at hd
      rcases mem_append.mp hd with hd | hd
      · exact .inl hd
      · exact .inr (mem_of_mem_filter hd)
  | insertRun row =>
    left
    cases hanswer : answer (.insertRun row) w with
    | error e => rwa [hanswer] at hd
    | ok inserted =>
      rw [hanswer] at hd
      cases inserted with
      | true => exact hd
      | false => exact hd
  | countRuns s a =>
    left
    cases hanswer : answer (.countRuns s a) w with
    | error e => rwa [hanswer] at hd
    | ok n => rwa [hanswer] at hd
  | _ => exact .inl hd

theorem see_counted (g : Sight) (c : Stmt) (w : World) :
    (∃ s a, c = .countRuns s a ∧ w.env.fails w.step = none ∧
      (g.see c (c.answer w)).counted = some (s, a, w.sent s a)) ∨
        (∀ s a, counts s a ⟨c, w⟩ = false) ∧ (g.see c (c.answer w)).counted = g.counted := by
  cases c with
  | countRuns s a =>
    have hanswer : ∀ result, answerOr (w.env.fails w.step) (w.sent s a) = result →
        answer (.countRuns s a) w = result := fun _ h => h
    cases hfails : w.env.fails w.step with
    | some e =>
      rw [hfails] at hanswer
      rw [hanswer _ rfl]
      exact .inr ⟨fun s' a' => by simp [counts, hfails], rfl⟩
    | none =>
      rw [hfails] at hanswer
      rw [hanswer _ rfl]
      exact .inl ⟨s, a, rfl, rfl, rfl⟩
  | listActive =>
    refine .inr ⟨fun _ _ => rfl, ?_⟩
    cases answer .listActive w with
    | ok defs => rfl
    | error e => rfl
  | insertRun row =>
    refine .inr ⟨fun _ _ => rfl, ?_⟩
    cases answer (.insertRun row) w with
    | error e => rfl
    | ok inserted =>
      cases inserted with
      | true => rfl
      | false => rfl
  | _ => exact .inr ⟨fun _ _ => rfl, rfl⟩

structure Counts (defs : Table ScheduleDefinitionRow) (g : Nat → Sight) (w : World)
    (es : List (Nat × Event sql World)) : Prop where
  table : w.definitions = defs
  seen : ∀ i, ∀ d ∈ (g i).defs, d ∈ defs.rows
  counted : ∀ i s a n, (g i).counted = some (s, a, n) →
    (tally i s a es).counted = n ∧ w.sent s a ≤ n + (tally i s a es).since

theorem tally_other (h : j ≠ i ∨ counts s a e = false) (es : List (Nat × Event sql World)) :
    tally i s a (es ++ [(j, e)]) = ⟨(tally i s a es).counted,
      (tally i s a es).since + if marksSent s a e then 1 else 0⟩ := by
  have hnot : (decide (j = i) && counts s a e) = false := by
    rcases h with hne | hcounts
    · rw [decide_eq_false hne, Bool.false_and]
    · rw [hcounts, Bool.and_false]
  rw [tally_concat, Tally.next, hnot]
  cases marksSent s a e with
  | true => rfl
  | false => rfl

theorem Counts.step {g : Nat → Sight} (h : Counts defs g w es) (hdue : (g j).due c) :
    Counts defs (fun i => if j = i then (g j).see c (c.answer w) else g i) (c.effect w)
      (es ++ [(j, ⟨c, w⟩)]) := by
  have hsent : ∀ s a, (c.effect w).sent s a ≤
      w.sent s a + if marksSent s a ⟨c, w⟩ then 1 else 0 := by
    intro s a
    apply sent_effect s a
    rintro row rfl
    exact hdue
  -- a count of the pair that the tick has not just counted again
  have hold : ∀ i s a n, (g i).counted = some (s, a, n) →
      (j ≠ i ∨ counts s a ⟨c, w⟩ = false) →
        (tally i s a (es ++ [(j, ⟨c, w⟩)])).counted = n ∧
          (c.effect w).sent s a ≤ n + (tally i s a (es ++ [(j, ⟨c, w⟩)])).since := by
    intro i s a n hn hother
    obtain ⟨hcounted, hle⟩ := h.counted i s a n hn
    rw [tally_other hother]
    exact ⟨hcounted, by have := hsent s a; dsimp only; omega⟩
  constructor
  case table => exact h.table
  case seen =>
    intro i d hd
    by_cases hij : j = i
    · rw [if_pos hij] at hd
      rcases see_defs hd with hd | hd
      · exact h.seen j d hd
      · rw [← h.table]
        exact hd
    · rw [if_neg hij] at hd
      exact h.seen i d hd
  case counted =>
    intro i s a n hn
    by_cases hij : j = i
    · subst hij
      rw [if_pos rfl] at hn
      rcases see_counted (g j) c w with ⟨s', a', rfl, hok, hcounted⟩ | ⟨hnone, hcounted⟩
      · obtain ⟨rfl, rfl, rfl⟩ : s' = s ∧ a' = a ∧ w.sent s' a' = n := by
          rw [hcounted] at hn
          simpa using hn
        have hcounts : counts s' a' ⟨.countRuns s' a', w⟩ := by simp [counts, hok]
        have hnext : tally j s' a' (es ++ [(j, ⟨.countRuns s' a', w⟩)]) =
            ⟨w.sent s' a', 0⟩ := by
          rw [tally_concat, Tally.next, if_pos]
          simpa using hcounts
        rw [hnext]
        exact ⟨rfl, hsent s' a'⟩
      · rw [hcounted] at hn
        exact hold j s a n hn (.inr (hnone s a))
    · rw [if_neg hij] at hn
      exact hold i s a n hn (.inl hij)

namespace SchedulerRun

def sight (es : List (Nat × Event sql World)) (i : Nat) : Sight :=
  tickScript.ghost (fun _ => {}) es i

theorem sight_concat (es : List (Nat × Event sql World)) (j : Nat) (e : Event sql World) :
    sight (es ++ [(j, e)]) = fun i =>
      if j = i then (sight es j).see e.stmt (e.stmt.answer e.before) else sight es i := by
  funext i
  exact Script.ghost_concat (m := tickScript) (fun _ => {}) es j i e

variable (run : SchedulerRun)

theorem step_due (hsplit : run.events = es ++ (i, e) :: fs) : (sight es i).due e.stmt := by
  have hkeep : ∀ (i : Nat) (p : Prog Unit), run.threads[i]? = some p →
      p.keeps tickScript (fun _ _ => True) {} := by
    intro i p hp
    obtain ⟨service, _, rfl⟩ : ∃ service, run.ticks[i]? = some service ∧
        tick run.intl service = p := by
      simpa [threads] using hp
    exact tick_keeps run.intl service
  exact interleave_keeps (m := tickScript) (R := fun _ _ _ => True) (g := fun _ => {})
    run.schedule run.start hkeep es i e fs hsplit

theorem tokens : ∃ w, Tokens (fun i => (sight run.events i).token) w run.events := by
  refine ⟨_, (interleave_invariant
    (I := fun es w => Tokens (fun i => (sight es i).token) w es) run.schedule run.start ?_ ?_).1⟩
  · constructor
    case holds => exact fun i key h => nomatch h
    case unique => exact fun i j key h => nomatch h
    case once => exact fun key => Nat.zero_le 1
    case absent => exact fun key _ => rfl
  · intro es i e fs hsplit h
    rw [sight_concat]
    exact h.step (run.step_due hsplit)

theorem counts_start : Counts run.start.definitions (sight []) run.start [] where
  table := rfl
  seen _ _ hd := nomatch hd
  counted _ _ _ _ h := nomatch h

theorem counts_before (hsplit : run.events = es ++ (i, e) :: fs) :
    Counts run.start.definitions (sight es) e.before es := by
  apply (interleave_invariant (I := fun es w => Counts run.start.definitions (sight es) w es)
    run.schedule run.start run.counts_start _).2 es i e fs hsplit
  intro es i e fs hsplit h
  rw [sight_concat]
  exact h.step (run.step_due hsplit)

theorem LeavesRoom.step {run : SchedulerRun} (h : run.LeavesRoom)
    (hsplit : run.events = es ++ (i, e) :: fs) (hd : d ∈ run.start.definitions.rows)
    (hmax : d.maxRuns = some maxRuns) (agentId : String) (bound : Int) (hbound : maxRuns ≤ bound)
    (hle : (e.before.sent d.id agentId : Int) ≤ bound) :
    (e.after.sent d.id agentId : Int) ≤ bound := by
  obtain ⟨c, w⟩ := e
  have hdue := run.step_due hsplit
  have hsent : (effect c w).sent d.id agentId ≤
      w.sent d.id agentId + if marksSent d.id agentId ⟨c, w⟩ then 1 else 0 := by
    apply sent_effect
    rintro row rfl
    exact hdue
  change ((effect c w).sent d.id agentId : Int) ≤ bound
  change (w.sent d.id agentId : Int) ≤ bound at hle
  cases hmarks : marksSent d.id agentId ⟨c, w⟩ with
  | false =>
    rw [hmarks] at hsent
    simp only [false_eq_true, if_false] at hsent
    omega
  | true =>
    rw [hmarks, if_pos rfl] at hsent
    -- the tick that marks has counted fewer than the limit, and there is room for the marks since
    have hroom := h.at_step hsplit
    have hcounts := run.counts_before hsplit
    cases c with
    | updateRunStatus key status error =>
      have hall : (status = .sent && key.scheduleId = d.id && key.agentId = agentId &&
          (w.env.fails w.step).isNone) = true := hmarks
      rw [and_eq_true, and_eq_true, and_eq_true, decide_eq_true_eq,
        decide_eq_true_eq, decide_eq_true_eq] at hall
      obtain ⟨⟨⟨rfl, hschedule⟩, rfl⟩, hok⟩ := hall
      obtain ⟨d', hd', hid, hlimit⟩ : (sight es i).hasLeft key.scheduleId key.agentId := hdue
      obtain rfl : d' = d :=
        eq_of_key (hcounts.seen i d' hd') hd (hid.trans hschedule)
      obtain ⟨n, hn, hleft⟩ := hlimit maxRuns hmax
      rw [hschedule] at hn
      obtain ⟨hcounted, hle'⟩ := hcounts.counted i _ _ _ hn
      have hspace : (tally i d'.id key.agentId es).since = 0 ∨
          (((tally i d'.id key.agentId es).counted +
            (tally i d'.id key.agentId es).since : Nat) : Int) < maxRuns := by
        have hroom : ((w.env.fails w.step).isSome || run.start.definitions.rows.all fun d =>
            d.id ≠ key.scheduleId || d.maxRuns.all fun maxRuns =>
              (tally i key.scheduleId key.agentId es).since = 0 ||
                (((tally i key.scheduleId key.agentId es).counted +
                  (tally i key.scheduleId key.agentId es).since : Nat) : Int) < maxRuns) = true :=
          hroom
        rw [Option.isNone_iff_eq_none.mp hok, Option.isSome_none, Bool.false_or] at hroom
        have hthis := List.all_eq_true.mp hroom d' hd
        rw [hschedule, hmax, all_some] at hthis
        simpa using hthis
      rw [hcounted] at hspace
      change w.sent d'.id key.agentId ≤ _ at hle'
      omega
    | _ => cases hmarks

end SchedulerRun

structure RunsOnce (run : SchedulerRun) : Prop where
  once : ∀ key, posted key run.events ≤ 1
  budget : ∀ n, ∀ d ∈ run.start.definitions.rows, ∀ maxRuns, d.maxRuns = some maxRuns →
    ∀ agentId, ((run.after n).sent d.id agentId : Int) ≤
      max maxRuns (run.start.sent d.id agentId)

/-- In a run whose ticks leave room for what they mark, no run is posted twice and no limit
exceeded. -/
theorem dispatches_once (run : SchedulerRun) (h : run.LeavesRoom) : RunsOnce run where
  once key := by
    obtain ⟨w, htokens⟩ := run.tokens
    exact htokens.once key
  budget n d hd maxRuns hmax agentId := by
    refine interleave_invariant_take (S := sql)
      (I := fun _ w => (w.sent d.id agentId : Int) ≤ max maxRuns (run.start.sent d.id agentId))
      run.schedule run.start ?_ ?_ n
    · exact Int.le_max_right ..
    · intro es i e fs hsplit hle
      exact h.step hsplit hd hmax agentId _ (Int.le_max_left ..) hle

def heartbeat (maxRuns : Int) : ScheduleDefinitionRow where
  id := "hb_agent"
  kind := .heartbeat
  title := "Heartbeat: watcher"
  active := true
  message := "beat"
  sender := "heartbeat"
  deliveryMode := .internal
  timezone := none
  catchUpPolicy := .fireOnce
  dedupeWindowSeconds := 90
  intervalSeconds := some ⟨60, by decide⟩
  anchorAt := some 1000
  maxRuns := some maxRuns
  expiresAt := none
  localTimeSeconds := none
  localDate := none
  daysOfWeek := none

def answering : Environment where
  clock step := if step < 6 then 1000 else 1060
  fails _ := none
  resolveAgent _ id := some ⟨id, "watcher", "http://agent", "/talk", some "/schedule", "running"⟩
  tasks _ _ := []
  agents _ _ := none
  teams _ _ := none
  post _ _ _ := .ok

def slowPost (maxRuns : Int) : SchedulerRun where
  intl := ⟨fun _ => none⟩
  ticks := [0, 0]
  start :=
    { definitions := .ofRows [heartbeat maxRuns]
      targets := [("hb_agent", "agent")]
      runs := .ofRows [⟨⟨"hb_agent", "agent", "heartbeat:500"⟩, 500, 500, .sent, none⟩]
      lastTickAtSec := fun _ => 999
      step := 0
      env := answering }
  schedule := List.replicate 6 0 ++ List.replicate 8 1 ++ [0, 0]

theorem dispatches_once_slowPost : RunsOnce (slowPost 3) :=
  dispatches_once (slowPost 3) (by rw [SchedulerRun.LeavesRoom]; decide +kernel)

/-- Both ticks counted one run of two, so three are sent. -/
theorem not_dispatches_once : ¬ ∀ run : SchedulerRun, RunsOnce run := by
  intro h
  have hrows : (slowPost 2).start.definitions.rows = [heartbeat 2] := rfl
  have hle := (h (slowPost 2)).budget 16 (heartbeat 2) (by simp [hrows]) 2 rfl "agent"
  have hsent : ((slowPost 2).after 16).sent "hb_agent" "agent" = 3 := by decide +kernel
  have hstart : (slowPost 2).start.sent "hb_agent" "agent" = 1 := by decide +kernel
  change (((slowPost 2).after 16).sent "hb_agent" "agent" : Int) ≤
    max 2 ((slowPost 2).start.sent "hb_agent" "agent") at hle
  rw [hsent, hstart] at hle
  omega

end IdAgents.Scheduling
