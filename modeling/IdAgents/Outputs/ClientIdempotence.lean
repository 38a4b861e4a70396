import IdAgents.Outputs.ClientRaces

namespace IdAgents.Outputs
open JsText JsMap AtomicProgram

instance : Inhabited ClientWrite := ⟨⟨{ actor := "" }, .inl .invalid⟩⟩

def ClientRun.call (run : ClientRun) (i : Nat) : ClientWrite := (run.calls[i]?).getD default

def insertsOperation (e : Event sql World) : Bool :=
  match e.stmt with
  | .insertOperation _ => true
  | _ => false

/-- The id of the operation that write `i` has inserted last. -/
def lastInserted (es : List (Nat × Event sql World)) (i : Nat) : Nat :=
  ((es.filter fun x => x.1 = i && insertsOperation x.2).getLast?).elim 0
    (·.2.before.operations.seq + 1)

/-- An INSERT finds its key free, and the version that the write was checked against; a read-back
finds the operation of the write newest; a write with a key is up to date at its version check, or a
replay; a page holds the whole log. -/
def isUndisturbed (call : ClientWrite) (es : List (Nat × Event sql World)) (i : Nat)
    (e : Event sql World) : Bool :=
  match e.stmt with
  | .insertReview artifactId .. => !e.before.reviews.has artifactId
  | .insertOperation op => !e.before.operations.insertRefused op &&
      (!isOwn op || !call.client.baseVersion.isBehind (e.before.log op.artifactId).length)
  | .selectOperations .readBack artifactId =>
    newestOpId (e.before.log artifactId) = lastInserted es i
  | .selectOperations .version artifactId =>
    call.key.isNone || call.client.clientMutationId.isSome ||
      !call.client.baseVersion.isBehind (e.before.log artifactId).length
  | .selectOperations (.staleReplay key) artifactId =>
    call.key.isNone || (findByKey key (e.before.log artifactId)).isSome
  | .selectOperations .page artifactId => (e.before.log artifactId).length ≤ 1000
  | _ => true

def ClientRun.Undisturbed (run : ClientRun) : Prop :=
  (∀ call ∈ run.calls, call.key.isSome → call.isValid) ∧
    ∀ n i e, run.events[n]? = some (i, e) → isUndisturbed (run.call i) (run.events.take n) i e

variable {w : World}

theorem Stmt.mem_log_effect (c : Stmt) (h : op ∈ w.log artifactId) :
    ∃ op' ∈ World.log (c.effect w) artifactId, op'.opId = op.opId ∧
      op'.idempotencyKey = op.idempotencyKey := by
  cases c with
  | insertOperation new =>
    refine ⟨op, ?_, rfl, rfl⟩
    rw [World.log, effect_operations, operations]
    by_cases hartifact : new.artifactId = artifactId
    · subst hartifact
      cases hrefused : w.operations.insertRefused new with
      | true => rwa [OperationTable.insert_of_refused hrefused]
      | false =>
        rw [OperationTable.operations_insert hrefused]
        exact List.mem_append_left _ h
    · rw [OperationTable.operations_insert_ne hartifact]
      exact h
  | updatePayload artifact opId payload =>
    obtain ⟨hmem, hartifact⟩ := OperationTable.mem_operations.mp h
    refine ⟨OperationTable.withPayload artifact opId payload op, ?_, by simp, by simp⟩
    exact OperationTable.mem_operations.mpr
      ⟨List.mem_map_of_mem hmem, by simpa using hartifact⟩
  | _ => exact ⟨op, h, rfl, rfl⟩

theorem Stmt.length_log_effect (c : Stmt) (w : World) (artifactId : String) :
    (w.log artifactId).length ≤ (World.log (c.effect w) artifactId).length := by
  cases c with
  | insertOperation new =>
    rw [World.log, World.log, effect_operations, operations]
    by_cases hartifact : new.artifactId = artifactId
    · subst hartifact
      cases hrefused : w.operations.insertRefused new with
      | true => rw [OperationTable.insert_of_refused hrefused]
      | false =>
        rw [OperationTable.operations_insert hrefused, List.length_append]
        omega
    · rw [OperationTable.operations_insert_ne hartifact]
  | updatePayload artifact opId payload =>
    have hlength : (World.log ((Stmt.updatePayload artifact opId payload).effect w)
        artifactId).length = (w.log artifactId).length := by
      change ((w.operations.rows.map (OperationTable.withPayload artifact opId payload)).filter
        fun op => op.artifactId = artifactId).length = _
      rw [List.filter_map, List.length_map]
      simp [World.log, OperationTable.operations, Function.comp_def]
    omega
  | _ => exact Nat.le_refl _

theorem recordedId_eq {e : Event sql World} (h : recordedId e = some opId) :
    ∃ op, e.stmt = .insertOperation op ∧ isOwn op ∧ e.before.operations.insertRefused op = false ∧
      opId = e.before.operations.seq + 1 := by
  rw [recordedId] at h
  split at h
  · next op hstmt =>
    split at h
    · next hcond =>
      simp only [Bool.and_eq_true, Bool.not_eq_true'] at hcond
      exact ⟨op, hstmt, hcond.1, hcond.2, (Option.some.inj h).symm⟩
    · cases h
  · cases h

theorem recorded_mem {e : Event sql World} {op : NewOp} (hstmt : e.stmt = .insertOperation op)
    (h : e.before.operations.insertRefused op = false) :
    ∃ row ∈ World.log e.after op.artifactId, row.opId = e.before.operations.seq + 1 ∧
      row.idempotencyKey = op.idempotencyKey := by
  refine ⟨e.before.operations.next op, ?_, rfl, rfl⟩
  have hafter : (World.log e.after op.artifactId) =
      (e.before.operations.insert op).operations op.artifactId := by
    obtain ⟨c, w⟩ := e
    cases hstmt
    rfl
  rw [hafter, OperationTable.operations_insert h]
  simp

theorem World.filter_key (hop : op ∈ w.log artifactId) (hkey : op.idempotencyKey = some key) :
    (w.log artifactId).filter (·.idempotencyKey = some key) = [op] := by
  have hmem : op ∈ (w.log artifactId).filter (·.idempotencyKey = some key) :=
    List.mem_filter.mpr ⟨hop, by simpa using hkey⟩
  have hall (a : ArtifactOp) (ha : a ∈ (w.log artifactId).filter (·.idempotencyKey = some key)) :
      a = op := by
    obtain ⟨halog, hakey⟩ := List.mem_filter.mp ha
    exact World.eq_of_key halog hop (by simpa using hakey) hkey
  have hnodup : ((w.log artifactId).filter (·.idempotencyKey = some key)).Nodup := by
    apply List.Nodup.filter
    apply (w.log_sorted artifactId).imp
    rintro a b hlt rfl
    exact Nat.lt_irrefl _ hlt
  rcases hlog : (w.log artifactId).filter (·.idempotencyKey = some key) with _ | ⟨a, _ | ⟨b, rest⟩⟩
  · rw [hlog] at hmem
    cases hmem
  · rw [hlog, hall a (by rw [hlog]; exact List.mem_cons_self)]
  · have ha := hall a (by rw [hlog]; exact List.mem_cons_self)
    have hb := hall b (by rw [hlog]; exact List.mem_cons_of_mem _ List.mem_cons_self)
    rw [hlog, ha, hb] at hnodup
    exact absurd List.mem_cons_self (List.nodup_cons.mp hnodup).1

/-- The operation that a write answers with, or is to read back: it is in the log under the key of
the write, and without a key it is the write's own. -/
def IsAnswer (run : ClientRun) (i : Nat) (es : List (Nat × Event sql World)) (w : World)
    (opId : Nat) : Prop :=
  (∃ op ∈ w.log run.artifactId, op.opId = opId ∧ op.idempotencyKey = (run.call i).key) ∧
    ((run.call i).key = none → ∃ e, (i, e) ∈ es ∧ recordedId e = some opId)

structure Tracks (run : ClientRun) (i : Nat) (es : List (Nat × Event sql World)) (w : World)
    (g : ClientGhost) : Prop where
  call : g.call = run.call i
  artifact : g.artifactId = run.artifactId
  ok : g.failed = false
  passes : (run.call i).key.isSome → g.refused = false
  settled : ∀ opId, g.opId = some opId → IsAnswer run i es w opId
  pending : g.opId = none → g.appended → IsAnswer run i es w (lastInserted es i)

variable {run : ClientRun}

theorem IsAnswer.grow (h : IsAnswer run i es e.before opId)
    (j : Nat) : IsAnswer run i (es ++ [(j, e)]) e.after opId := by
  obtain ⟨⟨op, hop, hid, hkey⟩, hown⟩ := h
  obtain ⟨op', hop', hid', hkey'⟩ := e.stmt.mem_log_effect hop
  refine ⟨⟨op', hop', hid'.trans hid, hkey'.trans hkey⟩, fun hnone => ?_⟩
  obtain ⟨e', he', hrecorded⟩ := hown hnone
  exact ⟨e', List.mem_append_left _ he', hrecorded⟩

theorem lastInserted_concat (es : List (Nat × Event sql World)) (i j : Nat) (e : Event sql World) :
    lastInserted (es ++ [(j, e)]) i =
      if j = i ∧ insertsOperation e then e.before.operations.seq + 1 else lastInserted es i := by
  unfold lastInserted
  rw [List.filter_append]
  by_cases h : j = i ∧ insertsOperation e
  · rw [if_pos h]
    obtain ⟨rfl, hinserts⟩ := h
    simp [hinserts]
  · rw [if_neg h]
    have hnone : [(j, e)].filter (fun x => x.1 = i && insertsOperation x.2) = [] := by
      rw [List.filter_singleton]
      by_cases hj : j = i
      · have hinserts : insertsOperation e = false := by
          rw [Bool.eq_false_iff]
          exact fun hinserts => h ⟨hj, hinserts⟩
        simp [hj, hinserts]
      · simp [hj]
    rw [hnone, List.append_nil]

theorem Tracks.other (h : Tracks run i es e.before g) (hj : j ≠ i) :
    Tracks run i (es ++ [(j, e)]) e.after g where
  call := h.call
  artifact := h.artifact
  ok := h.ok
  passes := h.passes
  settled opId hid := (h.settled opId hid).grow j
  pending hopen happended := by
    rw [lastInserted_concat, if_neg fun hboth => hj hboth.1]
    exact (h.pending hopen happended).grow j

theorem Tracks.quiet (h : Tracks run i es e.before g)
    (hinserts : insertsOperation e = false) : Tracks run i (es ++ [(i, e)]) e.after g where
  call := h.call
  artifact := h.artifact
  ok := h.ok
  passes := h.passes
  settled opId hid := (h.settled opId hid).grow i
  pending hopen happended := by
    rw [lastInserted_concat, if_neg fun hboth => by simp [hinserts] at hboth]
    exact (h.pending hopen happended).grow i

theorem Tracks.insert {op : NewOp} (h : Tracks run i es w g)
    (hdue : g.due (.insertOperation op)) (hfree : w.operations.insertRefused op = false) :
    Tracks run i (es ++ [(i, ⟨.insertOperation op, w⟩)]) ((Stmt.insertOperation op).effect w)
      { g with appended := true } where
  call := h.call
  artifact := h.artifact
  ok := h.ok
  passes := h.passes
  settled opId hid := (h.settled opId hid).grow (e := ⟨.insertOperation op, w⟩) i
  pending hopen _ := by
    obtain ⟨hartifact, hown⟩ := hdue
    obtain ⟨hisOwn, hkey⟩ := hown hopen
    rw [lastInserted_concat, if_pos ⟨rfl, rfl⟩]
    obtain ⟨row, hrow, hid, hrowKey⟩ := recorded_mem (e := ⟨.insertOperation op, w⟩) rfl hfree
    rw [hartifact, h.artifact] at hrow
    refine ⟨⟨row, hrow, hid, ?_⟩, fun _ => ⟨_, List.mem_append_right _ List.mem_cons_self, ?_⟩⟩
    · rw [hrowKey, hkey, h.call]
    · simp [recordedId, hisOwn, hfree]

theorem Tracks.query {query : OperationQuery}
    (h : Tracks run i es w g) (hdue : g.due (.selectOperations query artifactId))
    (hcond : isUndisturbed (run.call i) es i ⟨.selectOperations query artifactId, w⟩) :
    Tracks run i (es ++ [(i, ⟨.selectOperations query artifactId, w⟩)])
      ((Stmt.selectOperations query artifactId).effect w) (g.query (w.log artifactId) query) := by
  have hquiet : Tracks run i (es ++ [(i, ⟨.selectOperations query artifactId, w⟩)])
      ((Stmt.selectOperations query artifactId).effect w) g :=
    h.quiet (e := ⟨.selectOperations query artifactId, w⟩) rfl
  cases query with
  | version =>
    refine { hquiet with passes := fun hkeyed => ?_ }
    have hcond' : ((run.call i).key.isNone || (run.call i).client.clientMutationId.isSome ||
        !(run.call i).client.baseVersion.isBehind (w.log artifactId).length) = true := hcond
    have hpasses := hquiet.passes hkeyed
    obtain ⟨key, hkey⟩ := Option.isSome_iff_exists.mp hkeyed
    rw [hkey, Option.isNone_some, Bool.false_or] at hcond'
    simp only [ClientGhost.query, h.call, hpasses, Bool.false_or]
    cases hmutation : (run.call i).client.clientMutationId with
    | some mutationId => rfl
    | none =>
      rw [hmutation] at hcond'
      simpa using hcond'
  | staleReplay key =>
    refine { hquiet with passes := fun hkeyed => ?_ }
    have hcond' : ((run.call i).key.isNone ||
        (findByKey key (w.log artifactId)).isSome) = true := hcond
    have hpasses := hquiet.passes hkeyed
    obtain ⟨own, hown⟩ := Option.isSome_iff_exists.mp hkeyed
    rw [hown, Option.isNone_some, Bool.false_or] at hcond'
    simp only [ClientGhost.query, hpasses, Bool.false_or]
    rw [Option.isNone_eq_false_iff]
    exact hcond'
  | byKey key =>
    obtain ⟨hartifact, hkey⟩ := hdue
    refine { hquiet with settled := fun opId hid => ?_, pending := fun hopen happended => ?_ }
    · cases hold : g.opId with
      | some old =>
        have hsame : g.opId.or _ = some opId := hid
        rw [hold, Option.some_or] at hsame
        exact hquiet.settled opId (hold.trans hsame)
      | none =>
        have hfound : g.opId.or ((findByKey key (w.log artifactId)).map (·.opId)) =
            some opId := hid
        rw [hold, Option.none_or, Option.map_eq_some_iff] at hfound
        obtain ⟨op, hop, rfl⟩ := hfound
        have hmem := List.mem_of_find?_eq_some hop
        have hopKey : op.idempotencyKey = some key := by simpa using List.find?_some hop
        have hcallKey : (run.call i).key = some key := by rw [← h.call, hkey hold]
        rw [hartifact, h.artifact] at hmem
        refine ⟨⟨op, hmem, rfl, hopKey.trans hcallKey.symm⟩, fun hnone => ?_⟩
        rw [hcallKey] at hnone
        cases hnone
    · have hsame : g.opId.or _ = none := hopen
      rw [Option.or_eq_none_iff] at hsame
      exact hquiet.pending hsame.1 happended
  | readBack =>
    obtain ⟨hartifact, happended⟩ := hdue
    have hnewest : newestOpId (w.log artifactId) = lastInserted es i := by
      have hcond' : decide (newestOpId (w.log artifactId) = lastInserted es i) = true := hcond
      exact of_decide_eq_true hcond'
    refine { hquiet with settled := fun opId hid => ?_, pending := fun hopen _ => ?_ }
    · cases hold : g.opId with
      | some old =>
        have hsame : g.opId.or _ = some opId := hid
        rw [hold, Option.some_or] at hsame
        exact hquiet.settled opId (hold.trans hsame)
      | none =>
        have hread : g.opId.or (some (newestOpId (w.log artifactId))) = some opId := hid
        rw [hold, Option.none_or, hnewest] at hread
        rw [← Option.some.inj hread]
        exact (h.pending hold (happended hold)).grow
          (e := ⟨.selectOperations .readBack artifactId, w⟩) i
    · have hsame : g.opId.or (some (newestOpId (w.log artifactId))) = none := hopen
      rw [Option.or_eq_none_iff] at hsame
      cases hsame.2
  | page =>
    obtain ⟨hartifact, hsettled⟩ := hdue
    obtain ⟨opId, hid⟩ := Option.ne_none_iff_exists'.mp hsettled
    have hlength : (w.log artifactId).length ≤ 1000 := by
      have hcond' : decide ((w.log artifactId).length ≤ 1000) = true := hcond
      exact of_decide_eq_true hcond'
    obtain ⟨⟨op, hop, hopId, _⟩, _⟩ := h.settled opId hid
    rw [← h.artifact, ← hartifact] at hop
    refine { hquiet with ok := ?_ }
    have hwhole : page (w.log artifactId) 1000 0 = w.log artifactId :=
      List.take_of_length_le hlength
    simp only [ClientGhost.query, h.ok, Bool.false_or, hwhole, hid]
    rw [Bool.eq_false_iff, ne_eq, List.all_eq_true]
    intro hall
    have hne := hall op hop
    rw [hopId, decide_eq_true_eq] at hne
    exact hne rfl
  | _ => exact hquiet

theorem Tracks.own (h : Tracks run i es e.before g) (hdue : g.due e.stmt)
    (hcond : isUndisturbed (run.call i) es i e) : Tracks run i (es ++ [(i, e)]) e.after
      (g.see e.stmt (Store.answer e.stmt e.before)) := by
  obtain ⟨c, w⟩ := e
  cases c with
  | insertReview artifactId write nowIso =>
    have hfree : w.reviews.has artifactId = false := by simpa [isUndisturbed] using hcond
    have hanswer : (Store.answer (S := sql) (Stmt.insertReview artifactId write nowIso) w :
        Except String Unit) = .ok () := by
      change (if w.reviews.has artifactId then _ else _) = _
      rw [hfree]
      rfl
    have hsee : g.see (.insertReview artifactId write nowIso)
        (Store.answer (S := sql) (Stmt.insertReview artifactId write nowIso) w) = g := by
      change g.fails (Store.answer (S := sql) (Stmt.insertReview artifactId write nowIso) w) = g
      rw [hanswer]
      rfl
    rw [hsee]
    exact h.quiet rfl
  | insertOperation op =>
    have hfree : w.operations.insertRefused op = false := by
      simp only [isUndisturbed, Bool.and_eq_true, Bool.not_eq_true'] at hcond
      exact hcond.1
    have hanswer : (Store.answer (S := sql) (Stmt.insertOperation op) w :
        Except String Unit) = .ok () := by
      change (if w.operations.insertRefused op then _ else _) = _
      rw [hfree]
      rfl
    have hsee : g.see (.insertOperation op)
        (Store.answer (S := sql) (Stmt.insertOperation op) w) = { g with appended := true } := by
      change { g.fails (Store.answer (S := sql) (Stmt.insertOperation op) w) with
        appended := true } = _
      rw [hanswer]
      rfl
    rw [hsee]
    exact h.insert hdue hfree
  | selectOperations query artifactId => exact h.query hdue hcond
  | _ => exact h.quiet rfl

namespace ClientRun

def ghost (run : ClientRun) (i : Nat) : ClientGhost :=
  ⟨run.artifactId, run.call i, false, none, false, false⟩

theorem threads_keep (run : ClientRun) (i : Nat) (p : Prog WriteAnswer)
    (h : run.threads[i]? = some p) : p.keeps clientScript Finishes (run.ghost i) := by
  rw [threads, List.getElem?_map, Option.map_eq_some_iff] at h
  obtain ⟨call, hcall, rfl⟩ := h
  have hghost : run.ghost i = ⟨run.artifactId, call, false, none, false, false⟩ := by
    rw [ghost, ClientRun.call, hcall]
    rfl
  rw [hghost]
  exact call.keeps run.artifactId

def RecordedIn (i : Nat) (es : List (Nat × Event sql World)) : Prop :=
  ∃ e opId, (i, e) ∈ es ∧ recordedId e = some opId

/-- What holds at every moment of an undisturbed run: the log is past every version that a write was
recorded for, so that no second write is recorded for it. -/
structure Consistent (run : ClientRun) (es : List (Nat × Event sql World)) (w : World) : Prop where
  tracks : ∀ i, Tracks run i es w (clientScript.ghost run.ghost es i)
  versions : ∀ i version, RecordedIn i es → (run.call i).client.baseVersion = .at version →
    version < (w.log run.artifactId).length
  optimistic : ∀ i j version, RecordedIn i es → RecordedIn j es →
    (run.call i).client.baseVersion = .at version →
    (run.call j).client.baseVersion = .at version → i = j

theorem RecordedIn.of_concat (h : RecordedIn i (es ++ [(j, e)])) :
    RecordedIn i es ∨ i = j ∧ ∃ opId, recordedId e = some opId := by
  obtain ⟨e', opId, hmem, hrecorded⟩ := h
  rcases List.mem_append.mp hmem with hold | hnew
  · exact .inl ⟨e', opId, hold, hrecorded⟩
  · rw [List.mem_singleton] at hnew
    obtain ⟨rfl, rfl⟩ := Prod.mk.inj hnew
    exact .inr ⟨rfl, opId, hrecorded⟩

variable {run : ClientRun}

theorem recorded_at (h : Tracks run i es e.before g) (hdue : g.due e.stmt)
    (hcond : isUndisturbed (run.call i) es i e) (hrecorded : recordedId e = some opId)
    (hbase : (run.call i).client.baseVersion = .at version) :
    (e.before.log run.artifactId).length = version ∧
      version < (World.log e.after run.artifactId).length := by
  obtain ⟨op, hstmt, hown, hfree, _⟩ := recordedId_eq hrecorded
  obtain ⟨c, w⟩ := e
  cases hstmt
  have hartifact : op.artifactId = run.artifactId := hdue.1.trans h.artifact
  simp only [isUndisturbed, hown, hbase, BaseVersion.isBehind, Bool.not_true, Bool.false_or,
    Bool.and_eq_true, Bool.not_eq_true', decide_eq_false_iff_not, not_not, hartifact] at hcond
  have hlength : (World.log ((Stmt.insertOperation op).effect w) run.artifactId).length =
      (w.log run.artifactId).length + 1 := by
    rw [← hartifact, World.log, World.log, Stmt.effect_operations, Stmt.operations,
      OperationTable.operations_insert hfree, List.length_append, List.length_singleton]
  refine ⟨hcond.2, ?_⟩
  change version < (World.log ((Stmt.insertOperation op).effect w) run.artifactId).length
  rw [hlength, hcond.2]
  exact Nat.lt_succ_self version

theorem Consistent.step (h : run.Consistent es e.before)
    (hdue : (clientScript.ghost run.ghost es i).due e.stmt)
    (hcond : isUndisturbed (run.call i) es i e) : run.Consistent (es ++ [(i, e)]) e.after where
  tracks j := by
    rw [Script.ghost_concat]
    by_cases hij : i = j
    · subst hij
      rw [if_pos rfl]
      exact (h.tracks i).own hdue hcond
    · rw [if_neg hij]
      exact (h.tracks j).other hij
  versions j version hrecorded hbase := by
    rcases hrecorded.of_concat with hold | ⟨rfl, opId, hnew⟩
    · exact Nat.lt_of_lt_of_le (h.versions j version hold hbase)
        (e.stmt.length_log_effect e.before run.artifactId)
    · exact (recorded_at (h.tracks j) hdue hcond hnew hbase).2
  optimistic j k version hj hk hbase hbase' := by
    rcases hj.of_concat with hold | ⟨rfl, opId, hnew⟩
    · rcases hk.of_concat with hold' | ⟨rfl, opId, hnew⟩
      · exact h.optimistic j k version hold hold' hbase hbase'
      · have hpast := h.versions j version hold hbase
        have hat := (recorded_at (h.tracks k) hdue hcond hnew hbase').1
        omega
    · rcases hk.of_concat with hold' | ⟨rfl, _, _⟩
      · have hpast := h.versions k version hold' hbase'
        have hat := (recorded_at (h.tracks j) hdue hcond hnew hbase).1
        omega
      · rfl

theorem Undisturbed.consistent (h : run.Undisturbed) : run.Consistent run.events run.final.2 := by
  have hstart : run.Consistent [] run.start := {
    tracks := fun i => {
      call := rfl
      artifact := rfl
      ok := rfl
      passes := fun _ => rfl
      settled := fun opId hid => by cases hid
      pending := fun _ happended => by cases happended }
    versions := by
      rintro i version ⟨_, _, hmem, _⟩
      cases hmem
    optimistic := by
      rintro i j version ⟨_, _, hmem, _⟩
      cases hmem }
  have hdue := interleave_keeps (m := clientScript) (R := fun _ => Finishes) (g := run.ghost)
    run.schedule run.start run.threads_keep
  apply (interleave_invariant run.schedule run.start hstart ?_).1
  intro es i e fs hsplit hI
  have hcond := h.2 es.length i e (by
    rw [events, hsplit, List.getElem?_append_right (Nat.le_refl _)]
    simp)
  have htake : run.events.take es.length = es := by
    rw [events, hsplit, List.take_left]
  rw [htake] at hcond
  exact hI.step (hdue es i e fs hsplit) hcond

theorem call_eq {call : ClientWrite} (h : run.calls[i]? = some call) : run.call i = call := by
  rw [ClientRun.call, h]
  rfl

theorem Undisturbed.answered {call : ClientWrite} (h : run.Undisturbed)
    (hcall : run.calls[i]? = some call) (hend : run.EndsIn i p) :
    (∃ opId version idempotent, p = .ret (.recorded opId version idempotent) ∧
      IsAnswer run i run.events run.final.2 opId) ∨
    call.key = none ∧ ∃ refusal, p = .ret (.refused refusal) := by
  have htracks := h.consistent.tracks i
  have hfinishes := interleave_ends (m := clientScript) (R := fun _ => Finishes) (g := run.ghost)
    run.schedule run.start run.threads_keep i p hend.1
  have hcallEq := call_eq hcall
  cases p with
  | issue c k => cases hend.2
  | throw e =>
    have hfailed : (clientScript.ghost run.ghost run.events i).failed = true := hfinishes
    rw [htracks.ok] at hfailed
    cases hfailed
  | ret answer =>
    cases answer with
    | recorded opId version idempotent =>
      exact .inl ⟨opId, version, idempotent, rfl, htracks.settled opId hfinishes⟩
    | refused refusal =>
      refine .inr ⟨?_, refusal, rfl⟩
      by_contra hkeyed
      have hisSome : call.key.isSome := Option.isSome_iff_ne_none.mpr hkeyed
      cases refusal with
      | badRequest =>
        have hinvalid : (clientScript.ghost run.ghost run.events i).call.isValid = false :=
          hfinishes
        rw [htracks.call, hcallEq, h.1 call (List.mem_of_getElem? hcall) hisSome] at hinvalid
        cases hinvalid
      | staleBaseVersion =>
        have hrefused : (clientScript.ghost run.ghost run.events i).refused = true := hfinishes
        rw [htracks.passes (by rwa [hcallEq])] at hrefused
        cases hrefused

/-- An undisturbed run is optimistic and idempotent. -/
theorem Undisturbed.idempotent {run : ClientRun} (h : run.Undisturbed) : run.Idempotent where
  optimistic i j call call' version hcall hcall' hbase hbase' opId opId' hi hj := by
    obtain ⟨e, hmem, hrecorded⟩ := hi
    obtain ⟨e', hmem', hrecorded'⟩ := hj
    apply h.consistent.optimistic i j version ⟨e, opId, hmem, hrecorded⟩
      ⟨e', opId', hmem', hrecorded'⟩
    · rw [call_eq hcall, hbase]
    · rw [call_eq hcall', hbase']
  keyed key := by
    -- the operation that has the key in the end, if any has it
    let found := (run.final.2.log run.artifactId).find? (·.idempotencyKey = some key)
    refine ⟨found.elim 0 (·.opId), fun i call p hcall hkey hend => ?_⟩
    rcases h.answered hcall hend with ⟨opId, version, idempotent, rfl, hanswer⟩ | ⟨hnone, _⟩
    · obtain ⟨op, hop, rfl, hopKey⟩ := hanswer.1
      rw [call_eq hcall, hkey] at hopKey
      have honly := World.filter_key hop hopKey
      have hfound : found = some op := by
        change List.find? _ _ = _
        rw [← List.head?_filter, honly]
        rfl
      rw [hfound]
      refine ⟨?_, version, idempotent, rfl⟩
      rw [idsOf, honly]
      rfl
    · rw [hkey] at hnone
      cases hnone
  unkeyed i call p hcall hkey hend := by
    rcases h.answered hcall hend with ⟨opId, version, idempotent, rfl, hanswer⟩ | ⟨_, hrefused⟩
    · rw [← call_eq hcall] at hkey
      exact .inr ⟨opId, version, idempotent, rfl, hanswer.2 hkey⟩
    · exact .inl hrefused

end ClientRun

def emptyOutputs : World where
  reviews := Dict.empty
  operations := .empty
  drafts := Dict.empty
  step := 0
  env := {
    clock := toString
    mintSuggestionId := toString
    send := fun _ _ _ => .error "refused"
    fileBody := fun _ _ => ""
    routeComment := fun _ _ => none }

def followedUp (clients : List ClientMeta) (schedule : List Nat) : ClientRun where
  artifactId := "art"
  calls := clients.map fun client => ⟨client, .inl (.dispatchFollowUp { actor := client.actor })⟩
  schedule := schedule
  start := emptyOutputs

def checkedTogether : ClientRun :=
  followedUp [{ actor := "user:chris", baseVersion := .at 0 },
      { actor := "user:liz", baseVersion := .at 0 }]
    ([0, 1] ++ List.replicate 8 0 ++ List.replicate 8 1)

theorem ClientRun.records_of_any
    (h : (run.events.any fun x => x.1 = i && recordedId x.2 = some opId) = true) :
    run.Records i opId := by
  obtain ⟨⟨j, e⟩, hmem, hcond⟩ := List.any_eq_true.mp h
  rw [Bool.and_eq_true, decide_eq_true_eq, decide_eq_true_eq] at hcond
  obtain ⟨rfl, hrecorded⟩ := hcond
  exact ⟨e, hmem, hrecorded⟩

theorem not_idempotent : ¬ checkedTogether.Idempotent := by
  intro h
  have hchris : checkedTogether.Records 0 1 := ClientRun.records_of_any (by decide +kernel)
  have hliz : checkedTogether.Records 1 2 := ClientRun.records_of_any (by decide +kernel)
  have hsame := h.optimistic 0 1 _ _ 0 rfl rfl rfl rfl 1 2 hchris hliz
  cases hsame

def writtenApart : ClientRun :=
  followedUp [{ actor := "user:chris", clientMutationId := some "m1", baseVersion := .at 0 },
      { actor := "user:chris", clientMutationId := some "m1", baseVersion := .at 0 },
      { actor := "user:liz", baseVersion := .at 1 }]
    (List.replicate 11 0 ++ List.replicate 10 1 ++ List.replicate 9 2)

theorem idempotent_apart : writtenApart.Idempotent := by
  apply ClientRun.Undisturbed.idempotent
  constructor
  · decide +kernel
  · intro n i e he
    have hall : ∀ n < 30, (writtenApart.events[n]?).all fun x =>
        isUndisturbed (writtenApart.call x.1) (writtenApart.events.take n) x.1 x.2 := by
      decide +kernel
    have hlength : writtenApart.events.length ≤ 30 := by decide +kernel
    have hn := (List.getElem?_eq_some_iff.mp he).1
    have hn' := hall n (Nat.lt_of_lt_of_le hn hlength)
    rw [he] at hn'
    exact hn'

end IdAgents.Outputs
