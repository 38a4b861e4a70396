import IdAgents.Orchestration.FleshGate

namespace IdAgents.Orchestration
open JsText KeyedTable AtomicProgram

inductive KeyedCall where
  | insertIfAbsent (input : NewBacklogItem)
  | promote (itemId approvedBy : String) (retrySafe : Bool)
  | fleshPass (config : FleshConfig) (maxFleshPerTick : Int) (opts : FleshRunOptions)
  | recordFlesh (outcome : FleshOutcome)
  | reconcileDependencies (limit : Int) (dryRun : Bool) (actor : String)

def KeyedCall.prog : KeyedCall → Prog Unit
  | insertIfAbsent input =>
    (insertBacklogItemIfAbsentByLogicalKey input).bind fun _ => .ret ()
  | promote itemId approvedBy retrySafe =>
    (promoteToReady itemId approvedBy retrySafe).bind fun _ => .ret ()
  | fleshPass config maxFleshPerTick opts =>
    (runFleshPass config maxFleshPerTick opts).bind fun _ => .ret ()
  | recordFlesh outcome => (recordFleshOutcome outcome).bind fun _ => .ret ()
  | reconcileDependencies limit dryRun actor =>
    (reconcileTerminalBacklogDependencies limit dryRun actor).bind fun _ => .ret ()

structure KeyedRun where
  calls : List KeyedCall
  schedule : List Nat
  start : World

def isActiveState (state : ReadinessState) : Bool :=
  state = .ready || state = .queued || state = .inFlight

def workKey (row : BacklogRow) : Option String := given (row.logicalKey.map trim)

def World.OneActive (w : World) : Prop :=
  ∀ r ∈ w.backlog.rows, ∀ s ∈ w.backlog.rows, isActiveState r.readinessState →
    isActiveState s.readinessState → ∀ key, workKey r = some key → workKey s = some key → r = s

def insertsRow (e : Event sql World) : Bool :=
  match e.stmt with
  | .insert row => !e.before.backlog.insertRefused row && !e.before.env.fails e.before.step
  | _ => false

namespace KeyedRun
section
variable (run : KeyedRun)

def threads : List (Prog Unit) := run.calls.map KeyedCall.prog

/-- The world after the first `n` steps. -/
def after (n : Nat) : World :=
  (interleave (run.schedule.take n) run.threads run.start).2

def events : List (Nat × Event sql World) :=
  interleaveEvents run.schedule run.threads run.start

def Inserts (i : Nat) : Prop := ∃ e, (i, e) ∈ run.events ∧ insertsRow e

end

structure OnePerKey (run : KeyedRun) : Prop where
  active : ∀ n, (run.after n).OneActive
  inserted : ∀ i j a b key, run.calls[i]? = some (.insertIfAbsent a) →
    run.calls[j]? = some (.insertIfAbsent b) → lookupKey a = some key → lookupKey b = some key →
    i ≠ j → ¬ (run.Inserts i ∧ run.Inserts j)

end KeyedRun

def UpdateStmt.activates (u : UpdateStmt) (row : BacklogRow) : Bool :=
  isActiveState (u.set row).readinessState && !isActiveState row.readinessState

/-- The check of the call, made again where it writes: an insert finds no row of its key, a
promotion no row preferred to its own that blocks it, and the two paths left find what the flesh
queue asks of the peers. -/
def peersAllow (e : Event sql World) : Bool :=
  match e.stmt with
  | .insert row => (workKey row).all fun key => (logicalPeer e.before.backlog.rows key).isNone
  | .update u => (e.before.row? u.itemId).all fun row => !u.activates row ||
      match u with
      | .promoteToReady .. => (given row.logicalKey).all fun key =>
          (peerRefusal row (logicalPeer e.before.backlog.rows key)).isNone
      | _ => notBlockedByPeer e.before.backlog.rows row
  | _ => true

def isTrimmed (logicalKey : Option String) : Bool := logicalKey.all fun key => trim key = key

structure KeyedRun.Checked (run : KeyedRun) : Prop where
  start : run.start.OneActive
  trimmed : ∀ row ∈ run.start.backlog.rows, isTrimmed row.logicalKey
  inputs : ∀ (i : Nat) (input : NewBacklogItem), run.calls[i]? = some (.insertIfAbsent input) → isTrimmed input.logicalKey
  peers : ∀ e ∈ run.events, peersAllow e.2

theorem byLogicalRank_isLE {a b : BacklogRow} : (byLogicalRank a b).isLE ↔
    logicalRank a.readinessState < logicalRank b.readinessState ∨
      logicalRank a.readinessState = logicalRank b.readinessState ∧
        (b.updatedAt < a.updatedAt ∨ b.updatedAt = a.updatedAt ∧ a.createdAt ≤ b.createdAt) := by
  rw [byLogicalRank]
  rcases Nat.lt_trichotomy (logicalRank a.readinessState) (logicalRank b.readinessState) with
    h | h | h
  · simp [Nat.compare_eq_lt.mpr h, h]
  · rcases Int.lt_trichotomy b.updatedAt a.updatedAt with g | g | g
    · simp [h, Int.compare_eq_lt.mpr g, g]
    · simp [h, g, Int.isLE_compare]
    · simp [h, Int.compare_eq_gt.mpr g, Int.not_lt.mpr (Int.le_of_lt g), Int.ne_of_gt g]
  · simp [Nat.compare_eq_gt.mpr h, Nat.not_lt_of_gt h, Nat.ne_of_gt h]

abbrev preferred (a b : BacklogRow) : Prop := (byLogicalRank a b).isLE = true

instance : Std.Total preferred where
  total a b := by
    simp only [preferred, byLogicalRank_isLE]
    grind

instance : IsTrans BacklogRow preferred where
  trans a b c := by
    simp only [preferred, byLogicalRank_isLE]
    grind

theorem logicalRank_le {state : ReadinessState} : isActiveState state ↔ logicalRank state ≤ 2 := by
  cases state <;> decide

theorem blocks_of_active {state : ReadinessState} (h : isActiveState state) :
    blocksLogicalPromotion state := by
  cases state <;> first | rfl | cases h

theorem logicalPeer_active {rows : List BacklogRow} (h : row ∈ rows)
    (hkey : row.logicalKey = some key) (hactive : isActiveState row.readinessState) :
    ∃ peer, logicalPeer rows key = some peer ∧ peer ∈ rows ∧ peer.logicalKey = some key ∧
      isActiveState peer.readinessState := by
  have hmem : row ∈ orderBy byLogicalRank (rows.filter (·.logicalKey = some key)) := by
    rw [mem_orderBy]
    simp [h, hkey]
  have hsorted := List.pairwise_insertionSort preferred (rows.filter (·.logicalKey = some key))
  change (orderBy byLogicalRank (rows.filter (·.logicalKey = some key))).Pairwise preferred
    at hsorted
  rw [logicalPeer]
  cases horder : orderBy byLogicalRank (rows.filter (·.logicalKey = some key)) with
  | nil => exact absurd horder (List.ne_nil_of_mem hmem)
  | cons peer rest =>
    have hpeer : peer ∈ orderBy byLogicalRank (rows.filter (·.logicalKey = some key)) := by
      rw [horder]
      exact List.mem_cons_self
    rw [mem_orderBy, List.mem_filter, decide_eq_true_eq] at hpeer
    refine ⟨peer, rfl, hpeer.1, hpeer.2, ?_⟩
    rw [horder] at hmem hsorted
    have hrank : logicalRank peer.readinessState ≤ logicalRank row.readinessState := by
      rcases List.mem_cons.mp hmem with rfl | hrest
      · exact Nat.le_refl _
      · have hbefore := (List.pairwise_cons.mp hsorted).1 row hrest
        rcases byLogicalRank_isLE.mp hbefore with hlt | ⟨heq, _⟩
        · exact Nat.le_of_lt hlt
        · exact Nat.le_of_eq heq
    rw [logicalRank_le] at hactive ⊢
    exact Nat.le_trans hrank hactive

theorem no_row_of_logicalPeer {rows : List BacklogRow} (h : (logicalPeer rows key).isNone)
    (hrow : row ∈ rows) : row.logicalKey ≠ some key := by
  intro hkey
  have hmem : row ∈ orderBy byLogicalRank (rows.filter (·.logicalKey = some key)) := by
    rw [mem_orderBy]
    simp [hrow, hkey]
  rw [Option.isNone_iff_eq_none, logicalPeer, List.head?_eq_none_iff] at h
  exact List.ne_nil_of_mem hmem h

theorem workKey_eq_some (h : isTrimmed row.logicalKey) :
    workKey row = some key ↔ row.logicalKey = some key ∧ key ≠ "" := by
  cases hkey : row.logicalKey with
  | none => simp [workKey, given, hkey]
  | some k =>
    have htrim : trim k = k := by simpa [isTrimmed, hkey] using h
    simp only [workKey, given, hkey, Option.map_some, htrim, Option.filter_eq_some_iff,
      Option.some.injEq, decide_eq_true_eq]

structure Keyed (w : World) : Prop where
  trimmed : ∀ row ∈ w.backlog.rows, isTrimmed row.logicalKey
  one : w.OneActive

variable {w : World}

theorem only_active {u : UpdateStmt} {row other : BacklogRow}
    (hallow : peersAllow ⟨.update u, w⟩) (hrow : row ∈ w.backlog.rows) (hid : row.itemId = u.itemId)
    (hactivates : u.activates row) (hother : other ∈ w.backlog.rows)
    (hactive : isActiveState other.readinessState) (hrk : row.logicalKey = some key)
    (hok : other.logicalKey = some key) (hne : key ≠ "") : other.itemId = row.itemId := by
  by_contra hids
  have hfound : w.row? u.itemId = some row := hid ▸ World.row?_of_mem hrow
  have hinactive : isActiveState row.readinessState = false := by
    simp only [UpdateStmt.activates, Bool.and_eq_true, Bool.not_eq_true'] at hactivates
    exact hactivates.2
  simp only [peersAllow, hfound, Option.all_some, hactivates, Bool.not_true, Bool.false_or]
    at hallow
  split at hallow
  · obtain ⟨peer, hpeer, hmem, hpk, hpa⟩ := logicalPeer_active hother hok hactive
    have hgiven : given row.logicalKey = some key := by simp [given, hrk, hne]
    simp only [hgiven, Option.all_some, hpeer, peerRefusal, blocks_of_active hpa, Bool.and_true,
      decide_eq_true_eq] at hallow
    split at hallow
    · cases hallow
    · next hsame =>
      have heq : peer = row := by
        apply Table.eq_of_key hmem hrow
        exact Decidable.of_not_not hsame
      rw [heq, hinactive] at hpa
      cases hpa
  · simp only [notBlockedByPeer, hrk, Option.isNone_some, Bool.false_or, Bool.not_eq_true',
      List.any_eq_false, Bool.and_eq_true, decide_eq_true_eq, not_and, Bool.not_eq_true] at hallow
    have hfree := hallow other hother ⟨hok, hids⟩
    rw [blocks_of_active hactive] at hfree
    cases hfree

theorem Keyed.insert (h : Keyed w) {new : BacklogRow} (htrim : isTrimmed new.logicalKey)
    (hallow : peersAllow ⟨.insert new, w⟩) : Keyed (Stmt.effect (.insert new) w) := by
  have hcases : ∀ row ∈ (Stmt.effect (.insert new) w).backlog.rows,
      row ∈ w.backlog.rows ∨ row = new := by
    intro row hrow
    rcases Stmt.mem_effect hrow with hold | hnew | ⟨u, hu, _⟩
    · exact .inl hold
    · cases hnew
      exact .inr rfl
    · cases hu
  have hfree : ∀ row ∈ w.backlog.rows, ∀ key, workKey new = some key → workKey row ≠ some key := by
    intro row hrow key hnew hkey
    simp only [peersAllow, hnew, Option.all_some] at hallow
    exact no_row_of_logicalPeer hallow hrow ((workKey_eq_some (h.trimmed row hrow)).mp hkey).1
  constructor
  · intro row hrow
    rcases hcases row hrow with hold | rfl
    · exact h.trimmed row hold
    · exact htrim
  · intro r hr s hs hra hsa key hrk hsk
    rcases hcases r hr with hrold | rfl <;> rcases hcases s hs with hsold | rfl
    · exact h.one r hrold s hsold hra hsa key hrk hsk
    · exact absurd hrk (hfree r hrold key hsk)
    · exact absurd hsk (hfree s hsold key hrk)
    · rfl

theorem Keyed.update (h : Keyed w) {u : UpdateStmt}
    (hallow : peersAllow ⟨.update u, w⟩) : Keyed (Stmt.effect (.update u) w) := by
  have hcases : ∀ row ∈ (Stmt.effect (.update u) w).backlog.rows, row ∈ w.backlog.rows ∨
      ∃ old ∈ w.backlog.rows, old.itemId = u.itemId ∧ row = u.set old := by
    intro row hrow
    rcases Stmt.mem_effect hrow with hold | hnew | ⟨u', hu, old, hold, hhits, rfl⟩
    · exact .inl hold
    · cases hnew
    · cases hu
      simp only [Update.hits, Bool.and_eq_true, decide_eq_true_eq] at hhits
      exact .inr ⟨old, hold, hhits.1, rfl⟩
  have htrimmed : ∀ row ∈ (Stmt.effect (.update u) w).backlog.rows, isTrimmed row.logicalKey := by
    intro row hrow
    rcases hcases row hrow with hold | ⟨old, hold, _, rfl⟩
    · exact h.trimmed row hold
    · rw [u.set_logicalKey]
      exact h.trimmed old hold
  -- a row that is written and one that is not are not both active
  have hmixed : ∀ old ∈ w.backlog.rows, old.itemId = u.itemId → ∀ other ∈ w.backlog.rows,
      isActiveState (u.set old).readinessState → isActiveState other.readinessState →
      ∀ key, workKey (u.set old) = some key → workKey other = some key →
        other.itemId = (u.set old).itemId := by
    intro old hold hid other hother hset hactive key hok hotherk
    rw [u.set_itemId]
    have hworkKey : workKey (u.set old) = workKey old := by
      rw [workKey, workKey, u.set_logicalKey]
    rw [hworkKey] at hok
    cases holdActive : isActiveState old.readinessState with
    | true => rw [h.one other hother old hold hactive holdActive key hotherk hok]
    | false =>
      obtain ⟨holdKey, hne⟩ := (workKey_eq_some (h.trimmed old hold)).mp hok
      have hactivates : u.activates old := by simp [UpdateStmt.activates, hset, holdActive]
      exact only_active hallow hold hid hactivates hother hactive holdKey
        ((workKey_eq_some (h.trimmed other hother)).mp hotherk).1 hne
  refine ⟨htrimmed, fun r hr s hs hra hsa key hrk hsk => ?_⟩
  rcases hcases r hr with hrold | ⟨old, hold, hid, rfl⟩ <;>
    rcases hcases s hs with hsold | ⟨old', hold', hid', rfl⟩
  · exact h.one r hrold s hsold hra hsa key hrk hsk
  · exact Table.eq_of_key hr hs (hmixed old' hold' hid' r hrold hsa hra key hsk hrk)
  · exact Table.eq_of_key hr hs (hmixed old hold hid s hsold hra hsa key hrk hsk).symm
  · rw [Table.eq_of_key hold hold' (hid.trans hid'.symm)]

theorem KeyedCall.prog_inserts (call : KeyedCall) : call.prog.Meets
    (Stmt.InsertsOnly fun row => ∃ input, call = .insertIfAbsent input ∧
      row.logicalKey = input.logicalKey) fun _ => True := by
  have hupdates {α : Type} {p : Prog α} {Q : UpdateStmt → Prop} {P : BacklogRow → Prop}
      (h : p.Meets (Stmt.Quiet Q) fun _ => True) :
      (p.bind fun _ => Program.ret ()).Meets (Stmt.InsertsOnly P) fun _ => True :=
    (h.mono (fun _ hc => hc.insertsOnly) fun _ _ => trivial).bind fun _ _ => trivial
  cases call with
  | insertIfAbsent input =>
    apply (insertBacklogItemIfAbsent_meets input _).bind
    · intro _ _
      trivial
    · intro itemId now
      exact ⟨input, rfl, rfl⟩
  | promote itemId approvedBy retrySafe =>
    exact hupdates (promoteToReady_meets (Q := fun _ => True) itemId approvedBy retrySafe
      fun _ _ _ _ _ => trivial)
  | fleshPass config maxFleshPerTick opts =>
    exact hupdates (runFleshPass_meets config maxFleshPerTick opts)
  | recordFlesh outcome =>
    exact hupdates (recordFleshOutcome_meets (Q := fun _ => True) outcome
      fun _ _ _ _ => trivial)
  | reconcileDependencies limit dryRun actor =>
    exact hupdates (reconcileTerminalBacklogDependencies_meets (Q := fun _ => True) limit dryRun
      actor fun _ _ _ _ => trivial)

namespace KeyedRun

variable {run : KeyedRun}

theorem inserts_given {row : BacklogRow} {w : World}
    (h : (i, (⟨.insert row, w⟩ : Event sql World)) ∈ run.events) :
    ∃ input, run.calls[i]? = some (.insertIfAbsent input) ∧ row.logicalKey = input.logicalKey := by
  have hthreads : ∀ (i : Nat) (p : Prog Unit), run.threads[i]? = some p →
      p.Meets (Stmt.InsertsOnly fun row => ∃ input,
        run.calls[i]? = some (.insertIfAbsent input) ∧ row.logicalKey = input.logicalKey)
        fun _ => True := by
    intro i p hp
    rw [threads, List.getElem?_map, Option.map_eq_some_iff] at hp
    obtain ⟨call, hcall, rfl⟩ := hp
    apply call.prog_inserts.mono _ fun _ _ => trivial
    intro c hc
    cases c with
    | insert row =>
      obtain ⟨input, rfl, hkey⟩ := hc
      exact ⟨input, hcall, hkey⟩
    | _ => trivial
  exact interleaveEvents_meet run.schedule run.start hthreads _ h

theorem Checked.step (h : run.Checked) (he : (i, e) ∈ run.events)
    (hw : Keyed e.before) : Keyed e.after := by
  have hallow := h.peers (i, e) he
  obtain ⟨c, w⟩ := e
  cases c with
  | insert row =>
    obtain ⟨input, hcall, hkey⟩ := inserts_given he
    exact hw.insert (hkey ▸ h.inputs i input hcall) hallow
  | update u => exact hw.update hallow
  | _ => exact ⟨hw.trimmed, hw.one⟩

theorem Checked.keyed (h : run.Checked) (n : Nat) : Keyed (run.after n) := by
  obtain ⟨es, hchain, hmem⟩ := interleave_between run.schedule run.threads run.start (Nat.zero_le n)
  have hstart : Keyed run.start := ⟨h.trimmed, h.start⟩
  apply (hchain.invariant (I := Keyed) hstart _).1
  intro e he hw
  obtain ⟨i, hi⟩ := hmem e he
  exact h.step hi hw

theorem Checked.inserts_no_more (h : run.Checked) {row other : BacklogRow}
    {w v : World} {xs ys : List (Nat × Event sql World)}
    (hsplit : run.events = xs ++ (i, ⟨.insert row, w⟩) :: ys)
    (hother : (j, (⟨.insert other, v⟩ : Event sql World)) ∈ ys)
    (hok : insertsRow ⟨.insert row, w⟩) (hrow : row.logicalKey = some key)
    (hkey : workKey other = some key) : False := by
  obtain ⟨zs, ws, rfl⟩ := List.append_of_mem hother
  have hchain := interleave_chain run.schedule run.threads run.start
  change Chain _ (run.events.map Prod.snd) _ at hchain
  rw [hsplit, List.map_append, List.map_cons, List.map_append, List.map_cons] at hchain
  simp only [insertsRow, Bool.and_eq_true, Bool.not_eq_true'] at hok
  have hkept := (hchain.split.2.split.1.invariant
    (I := fun w => ∃ r, World.row? w row.itemId = some r ∧ r.logicalKey = some key)
    ⟨row, Stmt.row?_insert hok.1 hok.2, hrow⟩ fun e _ hw => by
      obtain ⟨r, hr, hrk⟩ := hw
      rcases e.stmt.row?_effect hr with hsame | ⟨u, _, _, _, hset⟩
      · exact ⟨r, hsame, hrk⟩
      · exact ⟨u.set r, hset, by rw [u.set_logicalKey, hrk]⟩).1
  obtain ⟨r, hr, hrk⟩ := hkept
  have hallow := h.peers (j, ⟨.insert other, v⟩) (by rw [hsplit]; simp)
  simp only [peersAllow, hkey, Option.all_some] at hallow
  exact no_row_of_logicalPeer hallow (World.row?_mem hr).1 hrk

theorem Checked.inserted (h : run.Checked) (i j : Nat) {a b : NewBacklogItem}
    (ha : run.calls[i]? = some (.insertIfAbsent a)) (hb : run.calls[j]? = some (.insertIfAbsent b))
    (hak : lookupKey a = some key) (hbk : lookupKey b = some key) (hne : i ≠ j) :
    ¬ (run.Inserts i ∧ run.Inserts j) := by
  have hworkKey : ∀ k input row w, run.calls[k]? = some (KeyedCall.insertIfAbsent input) →
      lookupKey input = some key → (k, (⟨.insert row, w⟩ : Event sql World)) ∈ run.events →
      workKey row = some key ∧ row.logicalKey = some key := by
    intro k input row w hcall hlookup hevent
    obtain ⟨input', hcall', hgiven⟩ := inserts_given hevent
    cases hcall.symm.trans hcall'
    have hwork : workKey row = some key := by
      rw [workKey, hgiven]
      exact hlookup
    have htrimmed : isTrimmed row.logicalKey := hgiven ▸ h.inputs k input hcall
    exact ⟨hwork, ((workKey_eq_some htrimmed).mp hwork).1⟩
  have hstmt : ∀ e : Event sql World, insertsRow e → ∃ row w, e = ⟨.insert row, w⟩ := by
    intro e he
    obtain ⟨c, w⟩ := e
    cases c with
    | insert row => exact ⟨row, w, rfl⟩
    | _ => cases he
  intro hboth
  obtain ⟨⟨e, hr, hrok⟩, f, hs, hsok⟩ := hboth
  obtain ⟨r, w, rfl⟩ := hstmt e hrok
  obtain ⟨s, v, rfl⟩ := hstmt f hsok
  obtain ⟨hrwork, hrkey⟩ := hworkKey i a r w ha hak hr
  obtain ⟨hswork, hskey⟩ := hworkKey j b s v hb hbk hs
  obtain ⟨xs, ys, hsplit⟩ := List.append_of_mem hr
  rw [hsplit] at hs
  rcases List.mem_append.mp hs with hbefore | hafter
  · obtain ⟨zs, ws, rfl⟩ := List.append_of_mem hbefore
    have hsplit' : run.events = zs ++ (j, ⟨.insert s, v⟩) :: (ws ++ (i, ⟨.insert r, w⟩) :: ys) := by
      rw [hsplit, List.append_assoc, List.cons_append]
    have hlater : (i, (⟨.insert r, w⟩ : Event sql World)) ∈ ws ++ (i, ⟨.insert r, w⟩) :: ys :=
      List.mem_append_right _ List.mem_cons_self
    exact h.inserts_no_more hsplit' hlater hsok hskey hrwork
  · rcases List.mem_cons.mp hafter with hsame | hlater
    · cases hsame
      exact hne rfl
    · exact h.inserts_no_more hsplit hlater hrok hrkey hswork

/-- In every run whose checks still hold where the calls write, one row of each logical work item is
active, and one of two inserts creates its row. -/
theorem Checked.onePerKey {run : KeyedRun} (h : run.Checked) : run.OnePerKey where
  active n := (h.keyed n).one
  inserted i j _ _ _ ha hb hak hbk hne := h.inserted i j ha hb hak hbk hne

end KeyedRun

def keyedItem (logicalKey : String) : NewBacklogItem where
  logicalKey := logicalKey
  title := "T15 - do it"
  toAgent := "roger"
  dispatchBody := "do it"
  readinessState := some .needsReview
  riskClass := some .build

def insertedTwice : KeyedRun where
  calls := [.insertIfAbsent (keyedItem " item"), .insertIfAbsent (keyedItem " item")]
  schedule := [0, 0, 0, 0, 0, 1, 1, 1, 1, 1]
  start := .holding []

theorem both_insert : [0, 1].all fun i => (eventsOf i insertedTwice.events).any insertsRow := by
  decide +kernel

theorem not_onePerKey : ¬ insertedTwice.OnePerKey := by
  intro h
  have hboth := List.all_eq_true.mp both_insert
  have hinserts : ∀ i ∈ [0, 1], insertedTwice.Inserts i := by
    intro i hi
    obtain ⟨e, he, hrow⟩ := List.any_eq_true.mp (hboth i hi)
    exact ⟨e, mem_eventsOf.mp he, hrow⟩
  have hkey : lookupKey (keyedItem " item") = some "item" := by decide
  exact h.inserted 0 1 _ _ "item" rfl rfl hkey hkey (by decide)
    ⟨hinserts 0 (by simp), hinserts 1 (by simp)⟩

def insertedAndPromoted : KeyedRun where
  calls := [.insertIfAbsent (keyedItem "item"), .insertIfAbsent (keyedItem "item"),
    .promote "coitem_2" "operator" false]
  schedule := [0, 0, 0, 0, 1, 2, 2, 2, 2, 2, 0]
  start := .holding []

theorem onePerKey_promoted :
    ((insertedAndPromoted.after 11).row? "coitem_2").any (·.readinessState = .ready) ∧
      insertedAndPromoted.OnePerKey := by
  refine ⟨by decide +kernel, KeyedRun.Checked.onePerKey ?_⟩
  constructor
  · intro r hr
    cases hr
  · intro row hrow
    cases hrow
  · intro i input hcall
    have hmem := List.mem_of_getElem? hcall
    simp only [insertedAndPromoted, List.mem_cons, KeyedCall.insertIfAbsent.injEq,
      List.not_mem_nil, or_false, reduceCtorEq, or_self] at hmem
    rw [hmem]
    decide
  · decide +kernel

end IdAgents.Orchestration
