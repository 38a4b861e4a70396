import IdAgents.LocalSearch.ReadMutationRuns

namespace IdAgents.LocalSearch
open KeyedTable AtomicProgram JsMap

variable {ack ack' : LocalReadMutationAck}

def serial : List LocalReadMutationRequest → World → List (Except String LocalReadMutationAck)
  | [], _ => []
  | input :: calls, w =>
    ((applyReadMutation input).run w).1 :: serial calls ((applyReadMutation input).run w).2

def MemoryStore.after (store : MemoryStore) (input : LocalReadMutationRequest) (nowIso : String) :
    MemoryStore :=
  match store.applyReadMutation input nowIso with
  | .ok (_, next) => next
  | .error _ => store

def MemoryStore.serial (store : MemoryStore) (clock : Nat → String) :
    List LocalReadMutationRequest → List (Except String LocalReadMutationAck)
  | [] => []
  | input :: calls =>
    (store.applyReadMutation input (clock 0)).map Prod.fst ::
      (store.after input (clock 0)).serial (fun n => clock (n + 1)) calls

def LocalReadMutationRecord.untimed (record : LocalReadMutationRecord) : LocalReadMutationRecord :=
  { record with updatedAt := "" }

def LocalReadMutationAck.untimed (ack : LocalReadMutationAck) : LocalReadMutationAck :=
  { ack with record := ack.record.map (·.untimed) }

def Knows (w : World) (input : LocalReadMutationRequest) (record : LocalReadMutationRecord) :
    Prop :=
  (∃ row, w.records.get? input.recordKey = some row ∧ row.untimed = record.untimed) ∨
    (w.records.get? input.recordKey = none ∧
      (∀ step, w.env.exists_ step input.recordKey = true) ∧
      (input.firstRecord "").untimed = record.untimed)

structure Agree (calls : List LocalReadMutationRequest) (w : World) (store : MemoryStore) :
    Prop where
  known : ∀ input ∈ calls, ∃ record,
    store.records.get? (recordKey input.recordKey) = some record ∧ Knows w input record
  acks : ∀ input ∈ calls,
    (store.acks.get? (replayKey input.mutation)).map (·.untimed) =
      (w.acks.get? input.mutation).map (·.ack.untimed)

structure TwoStores where
  calls : List LocalReadMutationRequest
  world : World
  store : MemoryStore
  clock : Nat → String
  agree : Agree calls world store

def TwoStores.SameAcks (s : TwoStores) : Prop :=
  (serial s.calls s.world).map (Except.map (·.untimed)) =
    (s.store.serial s.clock s.calls).map (Except.map (·.untimed))

structure KeysDistinct (calls : List LocalReadMutationRequest) : Prop where
  records : ∀ a ∈ calls, ∀ b ∈ calls,
    recordKey a.recordKey = recordKey b.recordKey → a.recordKey = b.recordKey
  acks : ∀ a ∈ calls, ∀ b ∈ calls,
    replayKey a.mutation = replayKey b.mutation → a.mutation = b.mutation

def LocalReadMutationRequest.respond (input : LocalReadMutationRequest)
    (current : LocalReadMutationRecord) (nowIso : String) :
    LocalReadMutationAck × LocalReadMutationRecord :=
  if current.version ≠ input.baseVersion then (input.conflictAck current, current)
  else (input.acked (input.next current nowIso), input.next current nowIso)

variable {input : LocalReadMutationRequest}

theorem respond_stale {current : LocalReadMutationRecord}
    (h : current.version ≠ input.baseVersion) :
    input.respond current nowIso = (input.conflictAck current, current) := if_pos h

theorem respond_next {current : LocalReadMutationRecord} (h : current.version = input.baseVersion) :
    input.respond current nowIso =
      (input.acked (input.next current nowIso), input.next current nowIso) := if_neg (not_not.mpr h)

theorem respond_untimed (input : LocalReadMutationRequest)
    {a b : LocalReadMutationRecord} (h : a.untimed = b.untimed) (s t : String) :
    (input.respond a s).1.untimed = (input.respond b t).1.untimed ∧
      (input.respond a s).2.untimed = (input.respond b t).2.untimed := by
  have hversion : a.version = b.version := congrArg (·.version) h
  have hstate : a.readState = b.readState := congrArg (·.readState) h
  have hteam : a.teamId = b.teamId := congrArg (·.teamId) h
  have hentity : a.entity = b.entity := congrArg (·.entity) h
  unfold LocalReadMutationRequest.respond
  rw [hversion]
  split
  · simp [LocalReadMutationAck.untimed, LocalReadMutationRequest.conflictAck, h, hversion, hstate]
  · simp [LocalReadMutationAck.untimed, LocalReadMutationRequest.acked,
      LocalReadMutationRecord.untimed, LocalReadMutationRequest.next, hversion, hteam, hentity]

structure Serves (w : World) (input : LocalReadMutationRequest) (ack : LocalReadMutationAck)
    (left : LocalReadMutationRecord) (w' : World) : Prop where
  record : w'.records.get? input.recordKey = some left
  records : ∀ key, key ≠ input.recordKey → w'.records.get? key = w.records.get? key
  ack : (w'.acks.get? input.mutation).map (·.ack) = some ack
  acks : ∀ key, key ≠ input.mutation → w'.acks.get? key = w.acks.get? key
  env : w'.env = w.env

theorem save_run {w v : World}
    (hfree : v.acks.get? input.mutation = none) (ack : LocalReadMutationAck)
    (hrecord : v.records.get? input.recordKey = some left)
    (hrecords : ∀ key, key ≠ input.recordKey → v.records.get? key = w.records.get? key)
    (hacks : v.acks = w.acks) (henv : v.env = w.env) :
    ∃ w', (input.save ack).run v = (.ok ack, w') ∧ Serves w input ack left w' := by
  refine ⟨_, rfl, hrecord, hrecords, ?_, ?_, henv⟩
  · have hget := get?_insert_free (t := v.acks) (r := ⟨input.mutation, ack, v.env.now v.step⟩)
      (fun _ => rfl) hfree
    exact congrArg (Option.map (·.ack)) hget
  · intro key hkey
    rw [← hacks]
    exact Table.get?_insert_ne (Ne.symm hkey)

theorem settle_run {w v : World} (hfree : v.acks.get? input.mutation = none)
    (hrecord : v.records.get? input.recordKey = some current)
    (hrecords : ∀ key, key ≠ input.recordKey → v.records.get? key = w.records.get? key)
    (hacks : v.acks = w.acks) (henv : v.env = w.env) :
    ∃ nowIso w', (input.settle (some current)).run v = (.ok (input.respond current nowIso).1, w') ∧
      Serves w input (input.respond current nowIso).1 (input.respond current nowIso).2 w' := by
  by_cases hversion : current.version = input.baseVersion
  · have hsettle : input.settle (some current) = (issue .now).bind fun (nowIso : String) =>
        (issue (.update input current nowIso)).bind fun _ =>
          input.save (input.acked (input.next current nowIso)) := if_neg (not_not.mpr hversion)
    have hset := Table.get?_update_self (u := readUpdate input current (v.env.now v.step)) hrecord
      (decide_eq_true rfl) (readUpdate_taken v input current _)
    obtain ⟨w', hrun, hserves⟩ := save_run (w := w)
      (v := (Stmt.update input current (v.env.now v.step)).effect (Stmt.now.effect v))
      hfree (input.acked (input.next current (v.env.now v.step))) hset
      (fun key hkey => (Table.get?_update_ne (Ne.symm hkey)).trans (hrecords key hkey)) hacks henv
    refine ⟨v.env.now v.step, w', ?_⟩
    rw [respond_next hversion, hsettle]
    exact ⟨hrun, hserves⟩
  · have hsettle : input.settle (some current) = input.save (input.conflictAck current) :=
      if_pos hversion
    refine ⟨"", ?_⟩
    rw [respond_stale hversion, hsettle]
    exact save_run hfree (input.conflictAck current) hrecord hrecords hacks henv

theorem run_issue {c : Stmt} {a : c.Ans} (h : c.answer w = a) (f : c.Ans → Prog α) :
    ((issue c).bind f).run w = (f a).run (c.effect w) := by
  subst h
  rfl

theorem applyReadMutation_invalid (h : assertValidLocalReadMutation input = some message)
    (w : World) : (applyReadMutation input).run w = (.error message, w) := by
  rw [applyReadMutation]
  rw [h]
  rfl

theorem applyReadMutation_replay (h : assertValidLocalReadMutation input = none)
    (hsaved : w.acks.get? input.mutation = some row) : (applyReadMutation input).run w =
      (.ok row.ack, (Stmt.getDurableAck input.mutation).effect w) := by
  have hanswer : (Stmt.getDurableAck input.mutation).answer w = some row.ack :=
    congrArg (Option.map AckRow.ack) hsaved
  rw [applyReadMutation]
  rw [h]
  exact run_issue hanswer _

theorem applyReadMutation_fresh (h : assertValidLocalReadMutation input = none)
    (hfree : w.acks.get? input.mutation = none) :
    (applyReadMutation input).run w = (input.currentRecord.bind input.settle).run
      ((Stmt.getDurableAck input.mutation).effect w) := by
  have hanswer : (Stmt.getDurableAck input.mutation).answer w =
      (none : Option LocalReadMutationAck) := congrArg (Option.map AckRow.ack) hfree
  rw [applyReadMutation]
  rw [h]
  exact run_issue hanswer _

theorem insertFirst_run (hfree : w.records.get? input.recordKey = none) (nowIso : String) :
    (input.insertFirst nowIso).run w = (.ok (some (input.firstRecord nowIso)),
        (Stmt.insertDurableRecord (input.firstRecord nowIso)).effect w) := by
  have hanswer : (Stmt.insertDurableRecord (input.firstRecord nowIso)).answer w = Except.ok () := by
    change (if (w.records.get? input.recordKey).isSome then _ else _) = _
    rw [hfree]
    rfl
  exact run_issue hanswer _

theorem currentRecord_run (hknown : Knows w input record) :
    ∃ current v, input.currentRecord.run w = (.ok (some current), v) ∧
      current.untimed = record.untimed ∧ v.records.get? input.recordKey = some current ∧
      (∀ key, key ≠ input.recordKey → v.records.get? key = w.records.get? key) ∧
      v.acks = w.acks ∧ v.env = w.env := by
  rcases hknown with ⟨row, hrow, hsame⟩ | ⟨hnone, hexists, hsame⟩
  · have hrun : input.currentRecord.run w = _ :=
      run_issue (c := .getDurableRecord input.recordKey) (a := some row) hrow _
    exact ⟨row, _, hrun, hsame, hrow, fun _ _ => rfl, rfl, rfl⟩
  · obtain ⟨asked, hasked⟩ : ∃ asked, asked = (Stmt.getDurableRecord input.recordKey).effect w :=
      ⟨_, rfl⟩
    obtain ⟨nowIso, hnow⟩ : ∃ nowIso, nowIso = asked.env.now (asked.step + 1) := ⟨_, rfl⟩
    have hfound : input.currentRecord.run w = input.makeRecord.run asked := by
      rw [hasked]
      exact run_issue (c := .getDurableRecord input.recordKey)
        (a := (none : Option LocalReadMutationRecord)) hnone _
    have hmakes : input.makeRecord.run asked = (input.insertFirst nowIso).run
        (Stmt.now.effect ((Stmt.durableEntityExists input.recordKey).effect asked)) := by
      rw [hnow]
      refine run_issue (c := .durableEntityExists input.recordKey) (a := true) ?_ _
      rw [hasked]
      exact hexists _
    have hfree : asked.records.get? input.recordKey = none := by
      rw [hasked]
      exact hnone
    have hself : (asked.records.insert (input.firstRecord nowIso)).get? input.recordKey =
        some (input.firstRecord nowIso) :=
      get?_insert_free (r := input.firstRecord nowIso) (fun _ => rfl) hfree
    have hinsert := insertFirst_run (w := Stmt.now.effect
      ((Stmt.durableEntityExists input.recordKey).effect asked)) hfree nowIso
    refine ⟨input.firstRecord nowIso, _, hfound.trans (hmakes.trans hinsert), hsame, hself,
      ?_, ?_, ?_⟩
    · intro key hkey
      have hother : (asked.records.insert (input.firstRecord nowIso)).get? key =
          asked.records.get? key := Table.get?_insert_ne (Ne.symm hkey)
      rw [hasked] at hother
      rw [hasked]
      exact hother
    · rw [hasked]
      rfl
    · rw [hasked]
      rfl

theorem fresh_run (hvalid : assertValidLocalReadMutation input = none)
    (hfree : w.acks.get? input.mutation = none) (hknown : Knows w input record) :
    ∃ current nowIso w', current.untimed = record.untimed ∧
      (applyReadMutation input).run w = (.ok (input.respond current nowIso).1, w') ∧
      Serves w input (input.respond current nowIso).1 (input.respond current nowIso).2 w' := by
  have hlooked : Knows ((Stmt.getDurableAck input.mutation).effect w) input record := hknown
  obtain ⟨current, v, hrun, hsame, hrecord, hrecords, hacks, henv⟩ := currentRecord_run hlooked
  have hfree' : v.acks.get? input.mutation = none := by
    rw [hacks]
    exact hfree
  obtain ⟨nowIso, w', hsettle, hserves⟩ := settle_run (w := w) hfree' hrecord hrecords hacks henv
  refine ⟨current, nowIso, w', hsame, ?_, hserves⟩
  rw [applyReadMutation_fresh hvalid hfree, Program.run_bind_ok hrun]
  exact hsettle

structure MemoryStore.Serves (store : MemoryStore) (input : LocalReadMutationRequest)
    (ack : LocalReadMutationAck) (left : LocalReadMutationRecord) (next : MemoryStore) : Prop where
  record : next.records.get? (recordKey input.recordKey) = some left
  records : ∀ key, key ≠ recordKey input.recordKey → next.records.get? key = store.records.get? key
  ack : next.acks.get? (replayKey input.mutation) = some ack
  acks : ∀ key, key ≠ replayKey input.mutation → next.acks.get? key = store.acks.get? key

namespace MemoryStore
variable {store : MemoryStore}

theorem applyReadMutation_invalid (h : assertValidLocalReadMutation input = some message)
    (store : MemoryStore) (nowIso : String) :
    store.applyReadMutation input nowIso = .error message := by
  rw [applyReadMutation, h]

theorem applyReadMutation_replay (h : assertValidLocalReadMutation input = none)
    (hsaved : store.acks.get? (replayKey input.mutation) = some ack) (nowIso : String) :
    store.applyReadMutation input nowIso = .ok (ack, store) := by
  rw [applyReadMutation, h]
  simp only [hsaved]

theorem fresh (h : assertValidLocalReadMutation input = none)
    (hfree : store.acks.get? (replayKey input.mutation) = none)
    (hrecord : store.records.get? (recordKey input.recordKey) = some current) (nowIso : String) :
    ∃ next, store.applyReadMutation input nowIso = .ok ((input.respond current nowIso).1, next) ∧
      store.Serves input (input.respond current nowIso).1 (input.respond current nowIso).2
        next := by
  rw [applyReadMutation, h]
  simp only [hfree, hrecord]
  by_cases hversion : current.version = input.baseVersion
  · rw [respond_next hversion, if_neg (not_not.mpr hversion)]
    refine ⟨_, rfl, ?_, ?_, ?_, ?_⟩
    · exact Dict.get?_set_self _ _ _
    · intro key hkey
      exact Dict.get?_set_ne hkey
    · exact Dict.get?_set_self _ _ _
    · intro key hkey
      exact Dict.get?_set_ne hkey
  · rw [respond_stale hversion, if_pos hversion]
    refine ⟨_, rfl, hrecord, fun _ _ => rfl, ?_, ?_⟩
    · exact Dict.get?_set_self _ _ _
    · intro key hkey
      exact Dict.get?_set_ne hkey

end MemoryStore

theorem Knows.same {w w' : World} (h : Knows w input record)
    (hrecord : w'.records.get? input.recordKey = w.records.get? input.recordKey)
    (henv : w'.env = w.env) : Knows w' input record := by
  rw [Knows]
  rw [hrecord, henv]
  exact h

variable {calls : List LocalReadMutationRequest}

theorem Agree.served (h : Agree calls w store)
    (hkeys : KeysDistinct calls) (hmem : input ∈ calls) (hw : Serves w input ack left w')
    (hstore : store.Serves input ack' left' next) (hack : ack.untimed = ack'.untimed)
    (hleft : left.untimed = left'.untimed) : Agree calls w' next where
  known b hb := by
    by_cases hsame : recordKey b.recordKey = recordKey input.recordKey
    · have hkey := hkeys.records b hb input hmem hsame
      refine ⟨left', ?_, .inl ⟨left, ?_, hleft⟩⟩
      · rw [hsame]
        exact hstore.record
      · rw [hkey]
        exact hw.record
    · have hkey : b.recordKey ≠ input.recordKey := fun heq => hsame (congrArg recordKey heq)
      obtain ⟨record, hrecord, hknows⟩ := h.known b hb
      refine ⟨record, ?_, hknows.same (hw.records _ hkey) hw.env⟩
      rw [hstore.records _ hsame]
      exact hrecord
  acks b hb := by
    by_cases hsame : replayKey b.mutation = replayKey input.mutation
    · have hkey := hkeys.acks b hb input hmem hsame
      have hsaved := congrArg (Option.map (·.untimed)) hw.ack
      rw [hsame, hkey, hstore.ack]
      rw [Option.map_map] at hsaved
      exact (congrArg some hack.symm).trans hsaved.symm
    · have hkey : b.mutation ≠ input.mutation := fun heq => hsame (congrArg replayKey heq)
      rw [hstore.acks _ hsame, hw.acks _ hkey]
      exact h.acks b hb

theorem Agree.call (h : Agree calls w store)
    (hkeys : KeysDistinct calls) (hmem : input ∈ calls) (nowIso : String) :
    ((applyReadMutation input).run w).1.map (·.untimed) =
        ((store.applyReadMutation input nowIso).map Prod.fst).map (·.untimed) ∧
      Agree calls ((applyReadMutation input).run w).2 (store.after input nowIso) := by
  rw [MemoryStore.after]
  cases hvalid : assertValidLocalReadMutation input with
  | some message =>
    rw [applyReadMutation_invalid hvalid, MemoryStore.applyReadMutation_invalid hvalid]
    exact ⟨rfl, h⟩
  | none =>
    have hacks := h.acks input hmem
    cases hsaved : w.acks.get? input.mutation with
    | some row =>
      rw [hsaved, Option.map_some, Option.map_eq_some_iff] at hacks
      obtain ⟨ack, hack, hsame⟩ := hacks
      rw [applyReadMutation_replay hvalid hsaved, MemoryStore.applyReadMutation_replay hvalid hack]
      exact ⟨congrArg Except.ok hsame.symm, ⟨h.known, h.acks⟩⟩
    | none =>
      rw [hsaved, Option.map_none, Option.map_eq_none_iff] at hacks
      obtain ⟨record, hrecord, hknows⟩ := h.known input hmem
      obtain ⟨current, time, w', hsame, hrun, hserves⟩ := fresh_run hvalid hsaved hknows
      obtain ⟨next, happly, hnext⟩ := MemoryStore.fresh hvalid hacks hrecord nowIso
      obtain ⟨hack, hleft⟩ := respond_untimed input hsame time nowIso
      rw [hrun, happly]
      exact ⟨congrArg Except.ok hack, h.served hkeys hmem hserves hnext hack hleft⟩

theorem Agree.serial {all : List LocalReadMutationRequest} (hkeys : KeysDistinct all)
    (hcalls : calls ⊆ all) (h : Agree all w store)
    (clock : Nat → String) : (serial calls w).map (Except.map (·.untimed)) =
      (store.serial clock calls).map (Except.map (·.untimed)) := by
  induction calls generalizing w store clock with
  | nil => rfl
  | cons input calls ih =>
    obtain ⟨hanswer, hagree⟩ := h.call hkeys (hcalls List.mem_cons_self) (clock 0)
    have hrest := ih (fun _ hx => hcalls (List.mem_cons_of_mem _ hx)) hagree fun n => clock (n + 1)
    exact congrArg₂ List.cons hanswer hrest

theorem TwoStores.sameAcks (s : TwoStores) (h : KeysDistinct s.calls) : s.SameAcks :=
  s.agree.serial h (List.Subset.refl _) s.clock

/-- Undisturbed calls are optimistic and safe to replay, and one at a time the stores agree where
their keys do. -/
theorem optimistic_of_undisturbed (run : ReadRun) (s : TwoStores) :
    (run.Undisturbed → run.Optimistic) ∧ (KeysDistinct s.calls → s.SameAcks) :=
  ⟨fun h => h.optimistic, fun h => s.sameAcks h⟩

def markRead : LocalReadMutationRequest where
  actor := ⟨.user, "u1"⟩
  teamId := "t1"
  entity := ⟨.artifact, "a1"⟩
  desiredReadState := .readState
  clientMutationId := "m1"
  baseVersion := 0

def markUnread : LocalReadMutationRequest :=
  { markRead with desiredReadState := .unread, clientMutationId := "m2" }

def unmarked : LocalReadMutationRecord := markRead.firstRecord "2026-06-10T00:00:00.000Z"

def markWorld : World where
  records := .ofRows [unmarked]
  env := { now := fun _ => "2026-06-10T00:01:00.000Z", exists_ := fun _ _ => true }

def markStore : MemoryStore where
  records := Dict.empty.set "t1:artifact:a1" unmarked
  acks := .empty

theorem mark_valid :
    ∀ input ∈ [markRead, markUnread], assertValidLocalReadMutation input = none := by
  decide

theorem mark_agree : Agree [markRead, markUnread] markWorld markStore where
  known input hinput := by
    have hkey : input.recordKey = markRead.recordKey := by
      rcases List.mem_pair.mp hinput with rfl | rfl <;> rfl
    refine ⟨unmarked, ?_, .inl ⟨unmarked, ?_, rfl⟩⟩
    · rw [hkey]
      decide +kernel
    · rw [hkey]
      decide +kernel
  acks input hinput := rfl

def inTurn : ReadRun where
  calls := [markRead, markUnread]
  valid := mark_valid
  schedule := [0, 0, 0, 0, 0, 1, 1, 1]
  start := markWorld

def twoStores : TwoStores where
  calls := [markRead, markUnread]
  world := markWorld
  store := markStore
  clock _ := "2026-06-10T00:02:00.000Z"
  agree := mark_agree

theorem optimistic_of_undisturbed_inTurn : inTurn.Optimistic ∧ twoStores.SameAcks :=
  ⟨(optimistic_of_undisturbed inTurn twoStores).1 (by decide +kernel),
    (optimistic_of_undisturbed inTurn twoStores).2 ⟨by decide +kernel, by decide +kernel⟩⟩

def overlappingMarks : ReadRun :=
  { inTurn with schedule := [0, 0, 1, 1, 0, 0, 0, 1, 1, 1] }

def returned : Prog LocalReadMutationAck → Option LocalReadMutationAck
  | .ret ack => some ack
  | _ => none

theorem answers_of_returned {run : ReadRun} (h : (run.pool n).1[i]?.bind returned = some ack) :
    run.Answers n i ack := by
  obtain ⟨p, hp, hreturned⟩ := Option.bind_eq_some_iff.mp h
  cases p with
  | ret ack' =>
    cases hreturned
    exact hp
  | _ => cases hreturned

/-- The second call is acked at version 1, where the state of the first is stored. -/
theorem not_optimistic : ¬ ((∀ run : ReadRun, run.Optimistic) ∧ ∀ s : TwoStores, s.SameAcks) := by
  intro h
  have hrun := h.1 overlappingMarks
  have hanswers : overlappingMarks.Answers 10 1
      (markUnread.acked (markUnread.next unmarked "2026-06-10T00:01:00.000Z")) :=
    answers_of_returned (by decide +kernel)
  rcases hrun.stored 10 1 _ hanswers rfl with ⟨row, hrow, _⟩ | ⟨version, hversion, hstored⟩
  · cases hrow
  · cases hversion
    have hrecord : overlappingMarks.record 10 markRead.recordKey =
        some (markRead.next unmarked "2026-06-10T00:01:00.000Z") := by decide +kernel
    cases hstored.always 10 _ hrecord rfl

end IdAgents.LocalSearch
