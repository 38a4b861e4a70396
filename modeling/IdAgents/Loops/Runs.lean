import IdAgents.Library.Precedence
import IdAgents.Loops.Storage

namespace IdAgents.Loops
open KeyedTable AtomicProgram List

inductive LoopCall where
  | create (run : LoopRunRecord)
  | transition (loopRunPhid : String) (patch : TransitionPatch) (nowIso : String)

inductive LoopAnswer where
  | create (result : CreateRunResult)
  | transition (next : Option LoopRunRecord)

def LoopCall.prog : LoopCall → Prog LoopAnswer
  | create run => (createLoopRun run).bind fun result => .ret (.create result)
  | transition loopRunPhid patch nowIso =>
    (transitionLoopRun loopRunPhid patch nowIso).bind fun next => .ret (.transition next)

structure LoopCalls where
  calls : List LoopCall
  schedule : List Nat

namespace LoopCalls
section
variable (run : LoopCalls)

def programs : List (Prog LoopAnswer) := run.calls.map LoopCall.prog

def pool (n : Nat) : List (Prog LoopAnswer) × World :=
  interleave (run.schedule.take n) run.programs (.ofRows [])

/-- The table after `n` steps. -/
def state (n : Nat) : World := (run.pool n).2

def events (n : Nat) : List (Nat × Event sql World) :=
  interleaveEvents (run.schedule.take n) run.programs (.ofRows [])

/-- Call `i` has answered `a` after `n` steps. -/
def Answers (n i : Nat) (a : LoopAnswer) : Prop :=
  (run.pool n).1[i]? = some (.ret a)

end

end LoopCalls

structure TransitionPatch.Shown (patch : TransitionPatch) (row : LoopRunRecord) : Prop where
  steps : patch.appendSteps ⊆ row.stepLog
  outputs : patch.appendOutputs ⊆ row.outputRefs
  dispatchPhids : patch.appendDispatchPhids ⊆ row.spawnedDispatchPhids

structure LoopCalls.CreatesOnce (run : LoopCalls) : Prop where
  succeeds : ∀ (n i : Nat) (r : LoopRunRecord) (e : String), run.calls[i]? = some (.create r) →
    (run.pool n).1[i]? ≠ some (.throw e)
  atMostOne : ∀ (n i j : Nat) (r s a b : LoopRunRecord), run.calls[i]? = some (.create r) →
    run.calls[j]? = some (.create s) → r.slot = s.slot →
    run.Answers n i (.create (.created a)) → run.Answers n j (.create (.created b)) → i = j
  atLeastOne : ∀ (n i : Nat) (r : LoopRunRecord), run.calls[i]? = some (.create r) →
    (∀ (j : Nat) (s : LoopRunRecord), run.calls[j]? = some (.create s) → s.slot = r.slot →
      ∃ a, run.Answers n j a) →
    ∃ (j : Nat) (s a : LoopRunRecord), run.calls[j]? = some (.create s) ∧ s.slot = r.slot ∧
      run.Answers n j (.create (.created a))
  sameRun : ∀ (n i j : Nat) (r s : LoopRunRecord) (a b : CreateRunResult),
    run.calls[i]? = some (.create r) → run.calls[j]? = some (.create s) →
    run.Answers n i (.create a) → run.Answers n j (.create b) →
    (a.run.loopRunPhid = b.run.loopRunPhid ↔ r.slot = s.slot)
  evidence : ∀ (m n i : Nat) (phid nowIso : String) (patch : TransitionPatch)
    (next : LoopRunRecord), run.calls[i]? = some (.transition phid patch nowIso) →
    run.Answers m i (.transition (some next)) → m ≤ n →
    ∃ row, (run.state n).get? phid = some row ∧ patch.Shown row

def isUndisturbed (e : Event sql World) : Bool :=
  match e.stmt with
  | .insert run => (e.before.get? run.loopRunPhid).isNone
  | .update phid current _ _ => (e.before.get? phid).all fun row =>
      row.stepLog = current.stepLog && row.outputRefs = current.outputRefs &&
        row.spawnedDispatchPhids = current.spawnedDispatchPhids
  | _ => true

def LoopCalls.Undisturbed (run : LoopCalls) : Prop :=
  ∀ x ∈ interleaveEvents run.schedule run.programs (.ofRows []), isUndisturbed x.2

instance (run : LoopCalls) : Decidable run.Undisturbed :=
  inferInstanceAs (Decidable (∀ x ∈ interleaveEvents run.schedule run.programs (.ofRows []),
    isUndisturbed x.2 = true))

def World.Holds (w : World) (run : LoopRunRecord) : Prop :=
  ∃ row ∈ w.rows, row.loopRunPhid = run.loopRunPhid ∧ row.slot = run.slot

variable {w : World} {next : LoopRunRecord}

theorem World.Holds.of_mem (h : run ∈ w.rows) : w.Holds run := ⟨run, h, rfl, rfl⟩

theorem World.Holds.phid_iff (ha : w.Holds a) (hb : w.Holds b) :
    a.loopRunPhid = b.loopRunPhid ↔ a.slot = b.slot := by
  obtain ⟨r, hr, hrphid, hrslot⟩ := ha
  obtain ⟨s, hs, hsphid, hsslot⟩ := hb
  rw [← hrphid, ← hsphid, ← hrslot, ← hsslot]
  constructor
  · intro h
    rw [Table.eq_of_key hr hs h]
  · intro h
    rw [Table.eq_of_entry hr hs rfl (congrArg some h.symm)]

theorem World.Holds.byKey (h : w.Holds run) :
    ∃ row, w.byKey run.loopPhid run.idempotencyKey = some row ∧
      row.loopRunPhid = run.loopRunPhid := by
  obtain ⟨row, hrow, hphid, hslot⟩ := h
  obtain ⟨found, hfound⟩ := Option.isSome_iff_exists.mp
    (World.byKey_isSome.mpr ⟨row, hrow, hslot⟩)
  obtain ⟨hmem, hsame⟩ := World.byKey_some hfound
  have hone : found = row := Table.eq_of_entry hmem hrow rfl (congrArg some (hslot.trans hsame.symm))
  exact ⟨found, hfound, hone ▸ hphid⟩

theorem World.Holds.effect (h : w.Holds run) (c : Stmt) : World.Holds (c.effect w) run := by
  obtain ⟨row, hrow, hphid, hslot⟩ := h
  have hfound : w.get? row.loopRunPhid = some row := Table.get?_of_mem hrow
  cases c with
  | insert new =>
    exact ⟨row, (Table.get?_some (Table.get?_insert new hfound)).1, hphid, hslot⟩
  | update phid current patch nowIso =>
    rcases Table.get?_update_cases (transitionUpdate phid (patch.next current nowIso)) hfound with
      hsame | ⟨_, _, hset⟩
    · exact ⟨row, (Table.get?_some hsame).1, hphid, hslot⟩
    · exact ⟨_, (Table.get?_some hset).1, hphid, hslot⟩
  | _ => exact ⟨row, hrow, hphid, hslot⟩

variable {es : List (Event sql World)}

theorem World.Holds.chain (h : w.Holds run) (hes : Chain w es w') : w'.Holds run :=
  (hes.invariant (I := fun w => World.Holds w run) h fun e _ he => he.effect e.stmt).1

theorem update_taken (w : World) (phid : String) (next : LoopRunRecord) :
    w.updateRefused (transitionUpdate phid next) = false :=
  Table.not_refused_of_entry fun _ _ => rfl

theorem World.inserted (hes : Chain w es w') (hrow : row ∈ w'.rows) :
    (∃ old ∈ w.rows, old.slot = row.slot) ∨
      ∃ run v, ⟨.insert run, v⟩ ∈ es ∧ v.byKey run.loopPhid run.idempotencyKey = none ∧
        run.slot = row.slot := by
  induction es generalizing w with
  | nil => exact .inl ⟨row, hes ▸ hrow, rfl⟩
  | cons e es ih =>
    obtain ⟨rfl, hrest⟩ := hes
    rcases ih hrest with ⟨old, hold, hslot⟩ | ⟨run, v, hmem, hfree, hslot⟩
    · obtain ⟨c, v⟩ := e
      cases c with
      | insert run =>
        rcases Table.mem_insert hold with hbefore | rfl
        · exact .inl ⟨old, hbefore, hslot⟩
        · cases hfree : v.byKey old.loopPhid old.idempotencyKey with
          | none => exact .inr ⟨old, v, mem_cons_self, hfree, hslot⟩
          | some first =>
            obtain ⟨hfirst, hsame⟩ := World.byKey_some hfree
            exact .inl ⟨first, hfirst, hsame.trans hslot⟩
      | update phid current patch nowIso =>
        rcases Table.mem_update hold with hbefore | ⟨before, hbefore, _, rfl⟩
        · exact .inl ⟨old, hbefore, hslot⟩
        · exact .inl ⟨before, hbefore, hslot⟩
      | _ => exact .inl ⟨old, hold, hslot⟩
    · exact .inr ⟨run, v, mem_cons_of_mem _ hmem, hfree, hslot⟩

theorem create_leads (h : Leads (LoopCall.create r).prog (es.map Event.observed) q) (hq : q.ended) :
    (∃ w row, es = [⟨.getLoopRunByKey r.loopPhid r.idempotencyKey, w⟩] ∧
      w.byKey r.loopPhid r.idempotencyKey = some row ∧ q = .ret (.create (.duplicate row))) ∨
    (∃ w v e, es = [⟨.getLoopRunByKey r.loopPhid r.idempotencyKey, w⟩, ⟨.insert r, v⟩] ∧
      Stmt.answer (.insert r) v = Except.error e ∧ q = .throw e) ∨
    ∃ w v u, es = [⟨.getLoopRunByKey r.loopPhid r.idempotencyKey, w⟩, ⟨.insert r, v⟩,
        ⟨.getLoopRunByKey r.loopPhid r.idempotencyKey, u⟩] ∧
      q = .ret (.create (settle r (u.byKey r.loopPhid r.idempotencyKey))) := by
  obtain ⟨w, fs, rfl, hk⟩ := Leads.issue_events h hq
  have hread : Leads (Program.bind (Program.bind (Program.ret
    (w.byKey r.loopPhid r.idempotencyKey)) _) _) _ q := hk
  cases hfound : w.byKey r.loopPhid r.idempotencyKey with
  | some row =>
    rw [hfound] at hread
    obtain ⟨hes, rfl⟩ := hread.of_ret
    rw [map_eq_nil_iff] at hes
    subst hes
    exact .inl ⟨w, row, rfl, hfound, rfl⟩
  | none =>
    rw [hfound] at hread
    obtain ⟨v, gs, rfl, hv⟩ := Leads.issue_events hread hq
    have hwrite : Leads (Program.bind (Program.bind (Program.ret
      (Stmt.answer (.insert r) v)) _) _) _ q := hv
    cases hinserted : Stmt.answer (.insert r) v with
    | error e =>
      rw [hinserted] at hwrite
      obtain ⟨hes, rfl⟩ := hwrite.of_throw
      rw [map_eq_nil_iff] at hes
      subst hes
      exact .inr (.inl ⟨w, v, e, rfl, hinserted, rfl⟩)
    | ok _ =>
      rw [hinserted] at hwrite
      obtain ⟨u, ls, rfl, hu⟩ := Leads.issue_events hwrite hq
      obtain ⟨hes, rfl⟩ := Leads.of_ret hu
      rw [map_eq_nil_iff] at hes
      subst hes
      exact .inr (.inr ⟨w, v, u, rfl, rfl⟩)

theorem transition_leads
    (h : Leads (LoopCall.transition phid patch nowIso).prog (es.map Event.observed)
      (.ret (.transition (some next)))) :
    ∃ w current v, es = [⟨.getLoopRun phid, w⟩, ⟨.update phid current patch nowIso, v⟩] ∧
      w.get? phid = some current := by
  obtain ⟨w, fs, rfl, hw⟩ := Leads.issue_events h rfl
  have hread : Leads (Program.bind (Program.bind (Program.ret (w.get? phid)) _) _) _ _ := hw
  cases hfound : w.get? phid with
  | none =>
    rw [hfound] at hread
    cases hread.of_ret.2
  | some current =>
    rw [hfound] at hread
    obtain ⟨v, gs, rfl, hv⟩ := Leads.issue_events hread rfl
    obtain ⟨hes, _⟩ := Leads.of_ret hv
    rw [map_eq_nil_iff] at hes
    subst hes
    exact ⟨w, current, v, rfl, hfound⟩

theorem LoopCall.inserts (c : LoopCall) :
    c.prog.Meets (fun stmt : Stmt => ∀ r, stmt = .insert r → some c = some (.create r))
      fun _ => True := by
  cases c with
  | create run =>
    refine ⟨(fun r h => by cases h), fun (existing : Option LoopRunRecord) => ?_⟩
    cases existing with
    | some _ => trivial
    | none =>
      refine ⟨(fun r h => by cases h; rfl), fun (inserted : Except String Unit) => ?_⟩
      cases inserted with
      | error _ => trivial
      | ok _ => exact ⟨(fun r h => by cases h), fun _ => trivial⟩
  | transition phid patch nowIso =>
    refine ⟨(fun r h => by cases h), fun (current : Option LoopRunRecord) => ?_⟩
    cases current with
    | none => trivial
    | some current => exact ⟨(fun r h => by cases h), fun _ => trivial⟩

namespace LoopCalls
variable {run : LoopCalls}

theorem leads (hcall : run.calls[i]? = some c) (hq : (run.pool n).1[i]? = some q) :
    Leads c.prog ((eventsOf i (run.events n)).map Event.observed) q := by
  have hprog : run.programs[i]? = some c.prog := by
    rw [programs, getElem?_map, hcall]
    rfl
  obtain ⟨q', hq', hleads⟩ := interleave_leads (run.schedule.take n) (.ofRows []) hprog
  obtain rfl := Option.some.inj (hq.symm.trans hq')
  exact hleads

variable {r : LoopRunRecord} {i : Nat}

theorem create_answer (hcall : run.calls[i]? = some (.create r)) (ha : run.Answers n i a) :
    ∃ result, a = LoopAnswer.create result := by
  rcases create_leads (leads hcall ha) rfl with ⟨_, _, _, _, hq⟩ | ⟨_, _, _, _, _, hq⟩ |
    ⟨_, _, _, _, hq⟩
  · cases hq
    exact ⟨_, rfl⟩
  · cases hq
  · cases hq
    exact ⟨_, rfl⟩

theorem Undisturbed.event (h : run.Undisturbed) (hx : (i, e) ∈ run.events n) : isUndisturbed e :=
  h _ (mem_interleaveEvents_of_take n hx)

theorem chain_state (hx : (i, e) ∈ run.events n) : 
    ∃ es : List (Event sql World), Chain e.after es (run.state n) := by
  obtain ⟨es, hes, _⟩ := interleave_from run.schedule run.programs (.ofRows []) (Nat.le_refl n) hx
  exact ⟨es, hes⟩

structure Answered (run : LoopCalls) (n i : Nat) (r : LoopRunRecord) (a : CreateRunResult) :
    Prop where
  holds : (run.state n).Holds a.run
  slot : a.run.slot = r.slot
  created : (∃ row, a = .created row) ↔
    ∃ v, (i, ⟨.insert r, v⟩) ∈ run.events n ∧ v.byKey r.loopPhid r.idempotencyKey = none

variable {v : World}

theorem insert_answer (hfree : v.get? r.loopRunPhid = none) :
    Stmt.answer (.insert r) v = Except.ok () := by
  change (if (v.byKey r.loopPhid r.idempotencyKey).isSome then Except.ok ()
    else if (v.get? r.loopRunPhid).isSome then _ else Except.ok ()) = _
  rw [hfree]
  exact ite_self _

theorem insert_settles {u : World} {es : List (Event sql World)}
    (hfree : v.get? r.loopRunPhid = none) (hes : Chain (Table.insert v r) es u) :
    ∃ row, u.byKey r.loopPhid r.idempotencyKey = some row ∧
      (row.loopRunPhid = r.loopRunPhid ↔ v.byKey r.loopPhid r.idempotencyKey = none) := by
  cases htaken : v.byKey r.loopPhid r.idempotencyKey with
  | none =>
    have hr : World.Holds (Table.insert v r) r := by
      apply World.Holds.of_mem
      rw [World.insert_new htaken hfree]
      exact mem_append_right _ mem_cons_self
    obtain ⟨row, hrow, hphid⟩ := (hr.chain hes).byKey
    exact ⟨row, hrow, by simp [hphid]⟩
  | some old =>
    obtain ⟨hold, hslot⟩ := World.byKey_some htaken
    rw [World.insert_taken (htaken ▸ rfl)] at hes
    obtain ⟨row, hrow, hphid⟩ := ((World.Holds.of_mem hold).chain hes).byKey
    have hkey : old.loopPhid = r.loopPhid ∧ old.idempotencyKey = r.idempotencyKey := by
      simpa [LoopRunRecord.slot] using hslot
    rw [hkey.1, hkey.2] at hrow
    refine ⟨row, hrow, ?_⟩
    have hother : old.loopRunPhid ≠ r.loopRunPhid := by
      intro hsame
      have hget : v.get? old.loopRunPhid = some old := Table.get?_of_mem hold
      rw [hsame, hfree] at hget
      cases hget
    simp [hphid, hother]

theorem Undisturbed.answered (h : run.Undisturbed) (hcall : run.calls[i]? = some (.create r))
    (hanswers : run.Answers n i (.create a)) : run.Answered n i r a := by
  rcases create_leads (leads hcall hanswers) rfl with ⟨w, row, hes, hrow, hq⟩ |
    ⟨w, v, e, _, _, hq⟩ | ⟨w, v, u, hes, hq⟩
  · cases hq
    obtain ⟨hmem, hslot⟩ := World.byKey_some hrow
    have hevent : (i, _) ∈ run.events n := mem_eventsOf.mp (hes ▸ mem_singleton_self _)
    obtain ⟨fs, hfs⟩ := chain_state hevent
    refine ⟨(World.Holds.of_mem hmem).chain hfs, hslot, ?_⟩
    constructor
    · rintro ⟨_, hcreated⟩
      cases hcreated
    · rintro ⟨v, hv, _⟩
      have hmine := mem_eventsOf.mpr hv
      rw [events] at hmine
      rw [events] at hes
      rw [hes, mem_singleton] at hmine
      cases hmine
  · cases hq
  · have hinsert : (i, ⟨.insert r, v⟩) ∈ run.events n := mem_eventsOf.mp (hes ▸ by simp)
    have hread : (i, ⟨.getLoopRunByKey r.loopPhid r.idempotencyKey, u⟩) ∈ run.events n :=
      mem_eventsOf.mp (hes ▸ by simp)
    have hfree : v.get? r.loopRunPhid = none := by
      simpa [isUndisturbed] using h.event hinsert
    have hsplit : eventsOf i (run.events n) = [_] ++ ⟨.insert r, v⟩ :: ([] ++ _ :: []) := hes
    obtain ⟨fs, hfs, _⟩ := interleave_order hsplit
    obtain ⟨row, hrow, hmade⟩ := insert_settles hfree hfs
    obtain ⟨hmem, hslot⟩ := World.byKey_some hrow
    obtain ⟨gs, hgs⟩ := chain_state hread
    have honly : (∃ v, (i, ⟨.insert r, v⟩) ∈ run.events n ∧
        v.byKey r.loopPhid r.idempotencyKey = none) ↔
        v.byKey r.loopPhid r.idempotencyKey = none := by
      constructor
      · rintro ⟨v', hv', hnone⟩
        have hmine := mem_eventsOf.mpr hv'
        rw [hes] at hmine
        have hsame : v' = v := by simpa using hmine
        rwa [hsame] at hnone
      · exact fun hnone => ⟨v, hinsert, hnone⟩
    rw [hrow] at hq
    cases hq
    by_cases hphid : row.loopRunPhid = r.loopRunPhid
    · have hcreated : settle r (some row) = .created row := by simp [settle, hphid]
      rw [hcreated]
      refine ⟨(World.Holds.of_mem hmem).chain hgs, hslot, ?_⟩
      rw [honly, ← hmade]
      exact ⟨fun _ => hphid, fun _ => ⟨row, rfl⟩⟩
    · have hduplicate : settle r (some row) = .duplicate row := by simp [settle, hphid]
      rw [hduplicate]
      refine ⟨(World.Holds.of_mem hmem).chain hgs, hslot, ?_⟩
      rw [honly, ← hmade]
      constructor
      · rintro ⟨_, hcreated⟩
        cases hcreated
      · exact fun hsame => absurd hsame hphid

theorem insert_caller (hx : (i, ⟨.insert r, v⟩) ∈ run.events n) :
    run.calls[i]? = some (.create r) := by
  have hmeets : ∀ (i : Nat) (p : Prog LoopAnswer), run.programs[i]? = some p →
      p.Meets (fun c : Stmt => ∀ r, c = .insert r → run.calls[i]? = some (.create r))
        fun _ => True := by
    intro i p hp
    rw [programs, getElem?_map, Option.map_eq_some_iff] at hp
    obtain ⟨c, hcall, rfl⟩ := hp
    rw [hcall]
    exact c.inserts
  exact interleaveEvents_meet _ _ hmeets _ hx r rfl

theorem Undisturbed.atMostOne {s a b : LoopRunRecord} (h : run.Undisturbed)
    (hr : run.calls[i]? = some (.create r)) (hs : run.calls[j]? = some (.create s))
    (hslot : r.slot = s.slot) (ha : run.Answers n i (.create (.created a)))
    (hb : run.Answers n j (.create (.created b))) : i = j := by
  obtain ⟨v, hv, hfreev⟩ := (h.answered hr ha).created.mp ⟨a, rfl⟩
  obtain ⟨u, hu, hfreeu⟩ := (h.answered hs hb).created.mp ⟨b, rfl⟩
  by_contra hne
  have hafter : ∀ {k : Nat} {r : LoopRunRecord} {v u : World} {es : List (Event sql World)},
      (k, ⟨.insert r, v⟩) ∈ run.events n → v.byKey r.loopPhid r.idempotencyKey = none →
      Chain (Table.insert v r) es u → (u.byKey r.loopPhid r.idempotencyKey).isSome := by
    intro k r v u es hx hfree hes
    obtain ⟨row, hrow, _⟩ := insert_settles (by simpa [isUndisturbed] using h.event hx) hes
    rw [hrow]
    rfl
  have hkeys : r.loopPhid = s.loopPhid ∧ r.idempotencyKey = s.idempotencyKey := by
    simpa [LoopRunRecord.slot] using hslot
  rcases interleave_precedes hv hu (by simp [hne]) with ⟨es, hes⟩ | ⟨es, hes⟩
  · have hfound := hafter hv hfreev hes
    rw [hkeys.1, hkeys.2, hfreeu] at hfound
    cases hfound
  · have hfound := hafter hu hfreeu hes
    rw [← hkeys.1, ← hkeys.2, hfreev] at hfound
    cases hfound

theorem Undisturbed.atLeastOne (h : run.Undisturbed) (hr : run.calls[i]? = some (.create r))
    (hall : ∀ (j : Nat) (s : LoopRunRecord), run.calls[j]? = some (.create s) → s.slot = r.slot →
      ∃ a, run.Answers n j a) :
    ∃ (j : Nat) (s a : LoopRunRecord), run.calls[j]? = some (.create s) ∧ s.slot = r.slot ∧
      run.Answers n j (.create (.created a)) := by
  obtain ⟨a, ha⟩ := hall i r hr rfl
  obtain ⟨result, rfl⟩ := create_answer hr ha
  have hanswered := h.answered hr ha
  obtain ⟨row, hrow, _, hslot⟩ := hanswered.holds
  rcases World.inserted (interleave_chain (run.schedule.take n) run.programs (.ofRows [])) hrow with
    ⟨_, hold, _⟩ | ⟨s, v, hmem, hfree, hmade⟩
  · cases hold
  · obtain ⟨⟨j, e⟩, hx, rfl⟩ := mem_map.mp hmem
    have hs := insert_caller hx
    have hsame : s.slot = r.slot := hmade.trans (hslot.trans hanswered.slot)
    obtain ⟨b, hb⟩ := hall j s hs hsame
    obtain ⟨made, rfl⟩ := create_answer hs hb
    obtain ⟨created, rfl⟩ := (h.answered hs hb).created.mpr ⟨v, hx, hfree⟩
    exact ⟨j, s, created, hs, hsame, hb⟩

def Shows (w : World) (phid : String) (patch : TransitionPatch) : Prop :=
  ∃ row, w.get? phid = some row ∧ patch.Shown row

theorem update_appends
    (h : isUndisturbed ⟨.update phid current patch nowIso, v⟩) (hrow : v.get? phid = some row) :
    ∃ next, (Stmt.effect (.update phid current patch nowIso) v).get? phid = some next ∧
      next.stepLog = row.stepLog ++ patch.appendSteps ∧
      next.outputRefs = row.outputRefs ++ patch.appendOutputs ∧
      next.spawnedDispatchPhids = row.spawnedDispatchPhids ++ patch.appendDispatchPhids := by
  have hread : (row.stepLog = current.stepLog ∧ row.outputRefs = current.outputRefs) ∧
      row.spawnedDispatchPhids = current.spawnedDispatchPhids := by
    simpa [isUndisturbed, hrow] using h
  obtain ⟨⟨hsteps, houtputs⟩, hphids⟩ := hread
  refine ⟨_, Table.get?_update_self (u := transitionUpdate phid (patch.next current nowIso)) hrow
    rfl (update_taken v phid _), ?_⟩
  rw [hsteps, houtputs, hphids]
  exact ⟨rfl, rfl, rfl⟩

theorem shows_step (he : isUndisturbed e) (h : Shows e.before phid patch) :
    Shows e.after phid patch := by
  obtain ⟨row, hrow, hshown⟩ := h
  obtain ⟨c, v⟩ := e
  cases c with
  | insert new => exact ⟨row, Table.get?_insert new hrow, hshown⟩
  | update phid' current patch' nowIso =>
    by_cases hphid : phid' = phid
    · subst hphid
      obtain ⟨next, hnext, hsteps, houtputs, hphids⟩ := update_appends he hrow
      refine ⟨next, hnext, ?_⟩
      constructor
      · rw [hsteps]
        exact List.Subset.trans hshown.steps (subset_append_left _ _)
      · rw [houtputs]
        exact List.Subset.trans hshown.outputs (subset_append_left _ _)
      · rw [hphids]
        exact List.Subset.trans hshown.dispatchPhids (subset_append_left _ _)
    · exact ⟨row, (Table.get?_update_ne (u := transitionUpdate phid' _) hphid).trans hrow, hshown⟩
  | _ => exact ⟨row, hrow, hshown⟩

theorem Undisturbed.evidence (h : run.Undisturbed)
    (hcall : run.calls[i]? = some (.transition phid patch nowIso))
    (hanswers : run.Answers m i (.transition (some next))) (hmn : m ≤ n) :
    Shows (run.state n) phid patch := by
  obtain ⟨w, current, v, hes, hcurrent⟩ := transition_leads (leads hcall hanswers)
  have hupdate : (i, ⟨.update phid current patch nowIso, v⟩) ∈ run.events m :=
    mem_eventsOf.mp (hes ▸ by simp)
  obtain ⟨hmem, hphid⟩ := Table.get?_some hcurrent
  have hsplit : eventsOf i (run.events m) = [] ++ ⟨.getLoopRun phid, w⟩ :: ([] ++ _ :: []) := hes
  obtain ⟨fs, hfs, _⟩ := interleave_order hsplit
  obtain ⟨row, hrow, hsame, _⟩ := (World.Holds.of_mem hmem).chain hfs
  have hfound : v.get? phid = some row := by
    rw [← hphid]
    exact Table.get?_eq_some.mpr ⟨hrow, hsame⟩
  obtain ⟨made, hmade, hsteps, houtputs, hphids⟩ := update_appends (h.event hupdate) hfound
  have hshows : Shows (Stmt.effect (.update phid current patch nowIso) v) phid patch := by
    refine ⟨made, hmade, ?_⟩
    constructor
    · rw [hsteps]
      exact subset_append_right _ _
    · rw [houtputs]
      exact subset_append_right _ _
    · rw [hphids]
      exact subset_append_right _ _
  obtain ⟨gs, hgs, hmine⟩ := interleave_from run.schedule run.programs (.ofRows []) hmn hupdate
  apply (hgs.invariant (I := fun w => Shows w phid patch) hshows _).1
  intro e he
  obtain ⟨j, hj⟩ := hmine e he
  exact shows_step (h (j, e) hj)

end LoopCalls

/-- Where no INSERT finds its phid in use and no UPDATE overtakes another, runs are created once and
keep what is reported of them. -/
theorem createsOnce (run : LoopCalls) (h : run.Undisturbed) : run.CreatesOnce := by
  constructor
  case succeeds =>
    intro n i r e hcall hthrown
    rcases create_leads (LoopCalls.leads hcall hthrown) rfl with ⟨_, _, _, _, hq⟩ |
      ⟨w, v, e', hes, hanswer, _⟩ | ⟨_, _, _, _, hq⟩
    · cases hq
    · have hinsert : (i, ⟨.insert r, v⟩) ∈ run.events n := mem_eventsOf.mp (hes ▸ by simp)
      have hfree : v.get? r.loopRunPhid = none := by
        simpa [isUndisturbed] using h.event hinsert
      cases (LoopCalls.insert_answer hfree).symm.trans hanswer
    · cases hq
  case atMostOne => exact fun _ _ _ _ _ _ _ hr hs hslot ha hb => h.atMostOne hr hs hslot ha hb
  case atLeastOne => exact fun _ _ _ hr hall => h.atLeastOne hr hall
  case sameRun =>
    intro n i j r s a b hr hs ha hb
    have hfirst := h.answered hr ha
    have hsecond := h.answered hs hb
    rw [hfirst.holds.phid_iff hsecond.holds, hfirst.slot, hsecond.slot]
  case evidence =>
    exact fun _ _ _ _ _ _ _ hcall hanswers hmn => h.evidence hcall hanswers hmn

def dailyLoop : LoopRecord where
  loopPhid := "phid:loop-daily"

def pressed : ManualTriggerRequest where
  idempotencyKey := some "press-1"
  actor := some { id := some "ops" }
  surface := some "dashboard"

def pressedRun : LoopRunRecord := buildManualRun dailyLoop pressed "2026-01-01T00:00:00.000Z"

def manualCalls (schedule : List Nat) : LoopCalls where
  calls := [.create pressedRun, .create pressedRun,
    .transition pressedRun.loopRunPhid
      { status := some .collecting
        appendSteps := [{
          stepId := "collect", phase := .collector, name := "collector", status := .running }] }
      "2026-01-01T00:00:01.000Z"]
  schedule := schedule

/-- One call after another. -/
theorem createsOnce_manual : (manualCalls [0, 0, 0, 1, 2, 2]).CreatesOnce :=
  createsOnce _ (by decide +kernel)

def reportsCreated : Prog LoopAnswer → Bool
  | .ret (.create (.created _)) => true
  | _ => false

theorem answers_of_reports {run : LoopCalls} {i : Nat} (h : (run.pool n).1[i]?.any reportsCreated) :
    ∃ a, run.Answers n i (.create (.created a)) := by
  obtain ⟨q, hq, hreports⟩ := (Option.any_eq_true _ _).mp h
  unfold reportsCreated at hreports
  split at hreports
  · next a => exact ⟨a, hq⟩
  · cases hreports

/-- Two creates of one run that overlap both report it created, since its phid is made of its key. -/
theorem not_createsOnce : ¬ ∀ run : LoopCalls, run.CreatesOnce := by
  intro h
  let run := manualCalls [0, 1, 0, 1, 0, 1]
  obtain ⟨a, ha⟩ : ∃ a, run.Answers 6 0 (.create (.created a)) :=
    answers_of_reports (by decide +kernel)
  obtain ⟨b, hb⟩ : ∃ b, run.Answers 6 1 (.create (.created b)) :=
    answers_of_reports (by decide +kernel)
  exact absurd ((h run).atMostOne 6 0 1 pressedRun pressedRun a b rfl rfl rfl ha hb) (by decide)

end IdAgents.Loops
