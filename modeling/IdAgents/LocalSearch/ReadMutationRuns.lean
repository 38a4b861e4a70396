import IdAgents.Library.Precedence
import IdAgents.Library.Rely
import IdAgents.LocalSearch.ReadMutation

namespace IdAgents.LocalSearch
open KeyedTable AtomicProgram

variable {ack ack' : LocalReadMutationAck}

structure ReadRun where
  calls : List LocalReadMutationRequest
  valid : ∀ input ∈ calls, assertValidLocalReadMutation input = none
  schedule : List Nat
  start : World

namespace ReadRun
section
variable (run : ReadRun)

def programs : List (Prog LocalReadMutationAck) := run.calls.map applyReadMutation

def pool (n : Nat) : List (Prog LocalReadMutationAck) × World :=
  interleave (run.schedule.take n) run.programs run.start

def events (n : Nat) : List (Nat × Event sql World) :=
  interleaveEvents (run.schedule.take n) run.programs run.start

/-- The record under a key after `n` steps. -/
def record (n : Nat) (key : String × LocalReadMutationEntity) : Option LocalReadMutationRecord :=
  (run.pool n).2.records.get? key

def Answers (n i : Nat) (ack : LocalReadMutationAck) : Prop :=
  (run.pool n).1[i]? = some (.ret ack)

def Fresh (n i : Nat) : Prop :=
  ∃ key w, (i, ⟨.getDurableAck key, w⟩) ∈ run.events n ∧ w.acks.get? key = none

end

structure StoredAt (run : ReadRun) (key : String × LocalReadMutationEntity) (version : Int)
    (state : DesiredState) : Prop where
  once : ∃ n row, run.record n key = some row ∧ row.version = version ∧ row.readState = state
  always : ∀ n row, run.record n key = some row → row.version = version → row.readState = state

structure Optimistic (run : ReadRun) : Prop where
  oneAck : ∀ (n i j : Nat) a b x y, run.calls[i]? = some a → run.calls[j]? = some b →
    a.recordKey = b.recordKey → a.baseVersion = b.baseVersion →
    run.Answers n i x → run.Answers n j y → run.Fresh n i → run.Fresh n j →
    x.status = .acked → y.status = .acked → i = j
  stored : ∀ n i ack, run.Answers n i ack → ack.status = .acked →
    (∃ row ∈ run.start.acks.rows, row.ack = ack) ∨
      ∃ version, ack.ackVersion = some version ∧
        run.StoredAt (ack.teamId, ack.entity) version ack.desiredReadState
  sameAck : ∀ (n i j : Nat) a b x y, run.calls[i]? = some a → run.calls[j]? = some b →
    a.mutation = b.mutation → run.Answers n i x → run.Answers n j y → x = y
  succeeds : ∀ (n i : Nat) message, (run.pool n).1[i]? ≠ some (.throw message)

end ReadRun

def isUndisturbed (e : Event sql World) : Bool :=
  match e.stmt with
  | .insertDurableRecord record => (e.before.records.get? (record.teamId, record.entity)).isNone
  | .update input current _ => (e.before.records.get? input.recordKey).any fun row =>
      row.version = current.version
  | .saveDurableAck key _ => (e.before.acks.get? key).isNone
  | _ => true

def ReadRun.Undisturbed (run : ReadRun) : Prop :=
  ∀ x ∈ interleaveEvents run.schedule run.programs run.start, isUndisturbed x.2

instance (run : ReadRun) : Decidable run.Undisturbed :=
  inferInstanceAs (Decidable (∀ x ∈ interleaveEvents run.schedule run.programs run.start,
    isUndisturbed x.2 = true))

theorem get?_insert_free {ρ κ ι : Type} [Schema ρ κ ι] [DecidableEq κ] [DecidableEq ι]
    {t : Table ρ} {r : ρ} (hentry : ∀ r : ρ, Schema.entry r = none)
    (hfree : t.get? (Schema.key r) = none) : (t.insert r).get? (Schema.key r) = some r := by
  have htaken : t.insertRefused r = false := by
    by_contra hnot
    have hsome := Table.isSome_of_refused hentry (Bool.not_eq_false _ ▸ hnot)
    rw [hfree] at hsome
    cases hsome
  exact (Table.get?_insert_self htaken).2

def Advances (w w' : World) : Prop :=
  ∀ key row, w.records.get? key = some row → ∃ row', w'.records.get? key = some row' ∧
    (row.version < row'.version ∨ row' = row)

theorem Advances.refl (w : World) : Advances w w := fun _ row h => ⟨row, h, .inr rfl⟩

theorem Advances.trans (h : Advances w v) (h' : Advances v u) : Advances w u := by
  intro key row hrow
  obtain ⟨row', hrow', hstep⟩ := h key row hrow
  obtain ⟨row'', hrow'', hstep'⟩ := h' key row' hrow'
  refine ⟨row'', hrow'', ?_⟩
  rcases hstep' with hlater | rfl
  · left
    rcases hstep with hbefore | rfl
    · omega
    · exact hlater
  · exact hstep

theorem readUpdate_taken (w : World) (input : LocalReadMutationRequest)
    (current : LocalReadMutationRecord) (nowIso : String) :
    w.records.updateRefused (readUpdate input current nowIso) = false :=
  Table.not_refused_of_entry fun _ _ => rfl

theorem Advances.effect (c : Stmt) (w : World) : Advances w (c.effect w) := by
  intro key row hrow
  cases c with
  | insertDurableRecord record =>
    exact ⟨row, Table.get?_insert record hrow, .inr rfl⟩
  | update input current nowIso =>
    rcases Table.get?_update_cases (readUpdate input current nowIso) hrow with
      hsame | ⟨_, hguard, hset⟩
    · exact ⟨row, hsame, .inr rfl⟩
    · have hversion : row.version = current.version := of_decide_eq_true hguard
      refine ⟨_, hset, .inl ?_⟩
      change row.version < current.version + 1
      omega
  | _ => exact ⟨row, hrow, .inr rfl⟩

theorem Advances.chain {w w' : World} {es : List (Event sql World)} (h : Chain w es w') :
    Advances w w' :=
  h.related (R := Advances) Advances.refl (fun _ _ _ => Advances.trans) fun e _ =>
    Advances.effect e.stmt e.before

theorem ReadRun.advances (run : ReadRun) (h : m ≤ n) : Advances (run.pool m).2 (run.pool n).2 := by
  obtain ⟨es, hes, _⟩ := interleave_between run.schedule run.programs run.start h
  exact Advances.chain hes

structure Seen where
  input : Option LocalReadMutationRequest
  looked : Option (Option LocalReadMutationAck) := none
  written : Option LocalReadMutationRecord := none
  saved : Option LocalReadMutationAck := none
  refused : Bool := false

def mutationScript : Script sql Seen where
  see g c := match c with
    | .getDurableAck _ => fun (found : Option LocalReadMutationAck) =>
        { g with looked := some found }
    | .insertDurableRecord _ => fun (inserted : Except String Unit) =>
        { g with refused := !inserted.isOk }
    | .update input current nowIso => fun _ =>
        { g with written := some (input.next current nowIso) }
    | .saveDurableAck _ ack => fun _ => { g with saved := some ack }
    | _ => fun _ => g
  due g c := match c with
    | .getDurableAck key => g.looked = none ∧ ∃ input, g.input = some input ∧ key = input.mutation
    | .update input current _ => g.saved = none ∧ g.input = some input ∧
        current.version = input.baseVersion
    | .saveDurableAck key ack => g.saved = none ∧ ∃ input, g.input = some input ∧
        key = input.mutation ∧ g.looked = some none ∧ (ack.status = .acked →
          ∃ next, g.written = some next ∧ ack = input.acked next)
    | _ => True

def CallEnds : Except String LocalReadMutationAck → Seen → Prop
  | .ok ack, g => g.looked = some (some ack) ∨ g.saved = some ack
  | .error _, g => g.refused

structure Looked (input : LocalReadMutationRequest) (g : Seen) : Prop where
  input : g.input = some input
  looked : g.looked = some none
  saved : g.saved = none

def CurrentEnds (input : LocalReadMutationRequest) : Except String α → Seen → Prop
  | .ok _, g => Looked input g
  | .error _, g => g.refused

theorem currentRecord_keeps (h : Looked input g) :
    input.currentRecord.keeps mutationScript (CurrentEnds input) g := by
  refine ⟨trivial, fun (found : Option LocalReadMutationRecord) => ?_⟩
  cases found with
  | some current => exact h
  | none =>
    refine ⟨trivial, fun (known : Bool) => ?_⟩
    cases known with
    | false => exact h
    | true =>
      refine ⟨trivial, fun (nowIso : String) => ?_⟩
      refine ⟨trivial, fun (inserted : Except String Unit) => ?_⟩
      cases inserted with
      | error why => rfl
      | ok _ => exact ⟨h.input, h.looked, h.saved⟩

theorem save_keeps (h : Looked input g) (hstatus : ack.status ≠ .acked) :
    (input.save ack).keeps mutationScript CallEnds g :=
  ⟨⟨h.saved, input, h.input, rfl, h.looked, fun hacked => absurd hacked hstatus⟩, fun _ => .inr rfl⟩

theorem settle_keeps (h : Looked input g) (current : Option LocalReadMutationRecord) :
    (input.settle current).keeps mutationScript CallEnds g := by
  cases current with
  | none => exact save_keeps h (by simp [LocalReadMutationRequest.notFoundAck,
      LocalReadMutationRequest.failedAck])
  | some current =>
    rw [LocalReadMutationRequest.settle]
    split
    · exact save_keeps h (by simp [LocalReadMutationRequest.conflictAck])
    · next hversion =>
      refine ⟨trivial, fun (nowIso : String) => ?_⟩
      refine ⟨⟨h.saved, h.input, not_not.mp hversion⟩, fun _ => ?_⟩
      exact ⟨⟨h.saved, input, h.input, rfl, h.looked, fun _ => ⟨_, rfl, rfl⟩⟩, fun _ => .inr rfl⟩

theorem applyReadMutation_keeps (hvalid : assertValidLocalReadMutation input = none) :
    (applyReadMutation input).keeps mutationScript CallEnds { input := some input } := by
  rw [applyReadMutation]
  rw [hvalid]
  refine ⟨⟨rfl, input, rfl, rfl⟩, fun (replay : Option LocalReadMutationAck) => ?_⟩
  cases replay with
  | some ack => exact .inl rfl
  | none =>
    have hlooked : Looked input { input := some input, looked := some none } := ⟨rfl, rfl, rfl⟩
    apply Program.keeps_seq (currentRecord_keeps hlooked)
    · intro current g h
      exact settle_keeps h current
    · intro why g h
      exact h

namespace ReadRun
variable {run : ReadRun}

def seen (run : ReadRun) (es : List (Nat × Event sql World)) : Nat → Seen :=
  mutationScript.ghost (fun i => { input := run.calls[i]? }) es

theorem keeps (run : ReadRun) : ∀ (i : Nat) (p : Prog LocalReadMutationAck),
    run.programs[i]? = some p → p.keeps mutationScript CallEnds { input := run.calls[i]? } := by
  intro i p hp
  rw [programs, List.getElem?_map, Option.map_eq_some_iff] at hp
  obtain ⟨input, hcall, rfl⟩ := hp
  rw [hcall]
  exact applyReadMutation_keeps (run.valid input (List.mem_of_getElem? hcall))

variable {es : List (Nat × Event sql World)}

theorem due (hsplit : interleaveEvents run.schedule run.programs run.start = es ++ (i, e) :: fs) :
    mutationScript.due (run.seen es i) e.stmt :=
  interleave_keeps (R := fun _ => CallEnds) (g := fun i => { input := run.calls[i]? }) run.schedule
    run.start run.keeps es i e fs hsplit

theorem ends {i : Nat} {q : Prog LocalReadMutationAck} (hq : (run.pool n).1[i]? = some q) :
    q.keeps mutationScript CallEnds (run.seen (run.events n) i) :=
  interleave_ends (R := fun _ => CallEnds) (g := fun i => { input := run.calls[i]? })
    (run.schedule.take n) run.start run.keeps i q hq
section
variable (es : List (Nat × Event sql World))

theorem seen_self (i : Nat) (e : Event sql World) : run.seen (es ++ [(i, e)]) i =
      mutationScript.see (run.seen es i) e.stmt (Store.answer e.stmt e.before) := by
  unfold seen
  rw [Script.ghost_concat, if_pos rfl]

theorem seen_ne (e : Event sql World) (h : i ≠ j) :
    run.seen (es ++ [(i, e)]) j = run.seen es j := by
  unfold seen
  rw [Script.ghost_concat, if_neg h]

def HasAck (acks : Table AckRow) (key : MutationKey) (ack : LocalReadMutationAck) : Prop :=
  ∃ row ∈ acks.rows, row.mutation = key ∧ row.ack = ack

def Updates (i : Nat) (input : LocalReadMutationRequest) (next : LocalReadMutationRecord) : Prop :=
  ∃ current nowIso v, (i, ⟨.update input current nowIso, v⟩) ∈ es ∧
    next = input.next current nowIso ∧ current.version = input.baseVersion

end

def Accepts (input : LocalReadMutationRequest) (g : Seen) (ack : LocalReadMutationAck) : Prop :=
  ack.status = .acked → ∃ next, g.written = some next ∧ ack = input.acked next

structure Traced (run : ReadRun) (es : List (Nat × Event sql World)) (acks : Table AckRow)
    (i : Nat) (g : Seen) : Prop where
  call : g.input = run.calls[i]?
  looked : ∀ key v, (i, ⟨.getDurableAck key, v⟩) ∈ es →
    g.looked = some ((v.acks.get? key).map (·.ack))
  replay : ∀ input ack, g.input = some input → g.looked = some (some ack) →
    HasAck acks input.mutation ack
  written : ∀ next, g.written = some next →
    ∃ input, g.input = some input ∧ Updates es i input next
  saved : ∀ ack, g.saved = some ack → ∃ input, g.input = some input ∧ g.looked = some none ∧
    HasAck acks input.mutation ack ∧ Accepts input g ack
  refused : g.refused = false

variable {acks : Table AckRow}

theorem HasAck.mono (h : HasAck acks key ack)
    (hacks : acks.rows ⊆ acks'.rows) : HasAck acks' key ack := by
  obtain ⟨row, hrow, hkey, hack⟩ := h
  exact ⟨row, hacks hrow, hkey, hack⟩

theorem Updates.mono (h : Updates es i input next) (hes : es ⊆ fs) : Updates fs i input next := by
  obtain ⟨current, nowIso, v, hmem, hnext, hversion⟩ := h
  exact ⟨current, nowIso, v, hes hmem, hnext, hversion⟩

theorem Traced.later
    (h : Traced run es acks i g) (hother : ∀ key v, (i, ⟨.getDurableAck key, v⟩) ≠ x)
    (hacks : acks.rows ⊆ acks'.rows) : Traced run (es ++ [x]) acks' i g where
  call := h.call
  looked key v hmem := by
    rcases List.mem_append.mp hmem with hold | hnew
    · exact h.looked key v hold
    · exact absurd (List.mem_singleton.mp hnew) (hother key v)
  replay input ack hinput hlooked := (h.replay input ack hinput hlooked).mono hacks
  written next hnext := by
    obtain ⟨input, hinput, hupdates⟩ := h.written next hnext
    exact ⟨input, hinput, hupdates.mono (List.subset_append_left _ _)⟩
  saved ack hsaved := by
    obtain ⟨input, hinput, hlooked, hhas, haccepts⟩ := h.saved ack hsaved
    exact ⟨input, hinput, hlooked, hhas.mono hacks, haccepts⟩
  refused := h.refused

theorem acks_subset (c : Stmt) (w : World) : w.acks.rows ⊆ (c.effect w).acks.rows := by
  intro row hrow
  cases c with
  | saveDurableAck key ack =>
    have hget := Table.get?_insert ⟨key, ack, w.env.now w.step⟩ (Table.get?_of_mem hrow)
    exact (Table.get?_some hget).1
  | _ => exact hrow

theorem Traced.getAck (h : Traced run es w.acks i g)
    (hdue : mutationScript.due g (.getDurableAck key)) :
    Traced run (es ++ [(i, ⟨.getDurableAck key, w⟩)]) w.acks i
      { g with looked := some ((w.acks.get? key).map (·.ack)) } := by
  obtain ⟨hfirst, input, hinput, rfl⟩ := hdue
  refine ⟨h.call, ?_, ?_, ?_, ?_, h.refused⟩
  · intro key v hmem
    rcases List.mem_append.mp hmem with hold | hnew
    · have hlooked := h.looked key v hold
      rw [hfirst] at hlooked
      cases hlooked
    · cases List.mem_singleton.mp hnew
      rfl
  · intro input' ack hinput' hlooked
    obtain rfl : input = input' := Option.some.inj (hinput.symm.trans hinput')
    obtain ⟨row, hrow, hack⟩ := Option.map_eq_some_iff.mp (Option.some.inj hlooked)
    obtain ⟨hmem, hkey⟩ := Table.get?_some hrow
    exact ⟨row, hmem, hkey, hack⟩
  · intro next hnext
    obtain ⟨input, hinput, hupdates⟩ := h.written next hnext
    exact ⟨input, hinput, hupdates.mono (List.subset_append_left _ _)⟩
  · intro ack hsaved
    obtain ⟨_, _, hlooked, _⟩ := h.saved ack hsaved
    rw [hfirst] at hlooked
    cases hlooked

theorem Traced.update (h : Traced run es acks i g)
    (hdue : mutationScript.due g (.update input current nowIso)) :
    Traced run (es ++ [(i, ⟨.update input current nowIso, w⟩)]) acks i
      { g with written := some (input.next current nowIso) } := by
  obtain ⟨hsaved, hinput, hversion⟩ := hdue
  have hlater : Traced run (es ++ [(i, ⟨.update input current nowIso, w⟩)]) acks i g :=
    h.later (fun key v heq => by cases heq) (List.Subset.refl _)
  refine ⟨h.call, hlater.looked, hlater.replay, ?_, ?_, h.refused⟩
  · rintro next hnext
    cases hnext
    exact ⟨input, hinput, current, nowIso, w,
      List.mem_append_right _ (List.mem_singleton_self _), rfl, hversion⟩
  · intro ack hack
    cases hsaved.symm.trans hack

theorem saved_ack {r : AckRow} (hfree : acks.get? r.mutation = none) :
    HasAck (acks.insert r) r.mutation r.ack :=
  ⟨r, (Table.get?_some (get?_insert_free (fun _ => rfl) hfree)).1, rfl, rfl⟩

theorem Traced.save
    (h : Traced run es acks i g) (hdue : mutationScript.due g (.saveDurableAck key ack))
    (hacks : acks.rows ⊆ acks'.rows) (hhas : HasAck acks' key ack) :
    Traced run (es ++ [(i, ⟨.saveDurableAck key ack, w⟩)]) acks' i
      { g with saved := some ack } := by
  obtain ⟨_, input, hinput, rfl, hlooked, haccepts⟩ := hdue
  have hlater : Traced run (es ++ [(i, ⟨.saveDurableAck input.mutation ack, w⟩)]) acks' i g :=
    h.later (fun key v heq => by cases heq) hacks
  refine ⟨h.call, hlater.looked, hlater.replay, hlater.written, ?_, h.refused⟩
  rintro ack' hack
  cases hack
  exact ⟨input, hinput, hlooked, hhas, haccepts⟩

theorem Traced.step (h : Traced run es e.before.acks i g) (hdue : mutationScript.due g e.stmt)
    (hfree : isUndisturbed e) : Traced run (es ++ [(i, e)]) (World.acks e.after) i
      (mutationScript.see g e.stmt (Store.answer e.stmt e.before)) := by
  obtain ⟨c, w⟩ := e
  have hacks : w.acks.rows ⊆ (c.effect w).acks.rows := acks_subset c w
  cases c with
  | getDurableAck key => exact h.getAck hdue
  | update input current nowIso => exact h.update hdue
  | saveDurableAck key ack =>
    apply h.save hdue hacks
    have hnone : w.acks.get? key = none := Option.isNone_iff_eq_none.mp hfree
    exact saved_ack (r := ⟨key, ack, w.env.now w.step⟩) hnone
  | insertDurableRecord record =>
    have hnone : w.records.get? (record.teamId, record.entity) = none :=
      Option.isNone_iff_eq_none.mp hfree
    have hanswer : Stmt.answer (.insertDurableRecord record) w = Except.ok () := by
      change (if (w.records.get? (record.teamId, record.entity)).isSome then _ else _) = _
      rw [hnone]
      rfl
    have hsee : mutationScript.see g (.insertDurableRecord record)
        (Stmt.answer (.insertDurableRecord record) w) = g := by
      rw [hanswer]
      have hrefused := h.refused
      cases g
      cases hrefused
      rfl
    have hlater : Traced run (es ++ [(i, ⟨.insertDurableRecord record, w⟩)]) w.acks i g :=
      h.later (fun key v heq => by cases heq) hacks
    exact hsee.symm ▸ hlater
  | _ => exact h.later (fun key v heq => by cases heq) hacks

def Saved (run : ReadRun) (es : List (Nat × Event sql World)) (acks : Table AckRow) : Prop :=
  ∀ row ∈ acks.rows, row ∈ run.start.acks.rows ∨ ∃ i, (run.seen es i).saved = some row.ack

structure Inv (run : ReadRun) (es : List (Nat × Event sql World)) (w : World) : Prop where
  traced : ∀ i, Traced run es w.acks i (run.seen es i)
  saved : Saved run es w.acks

theorem inv_start (run : ReadRun) : Inv run [] run.start := by
  refine ⟨?_, fun row hrow => .inl hrow⟩
  intro i
  refine ⟨rfl, ?_, ?_, ?_, ?_, rfl⟩
  · intro key v hmem
    cases hmem
  · intro input ack _ hlooked
    cases hlooked
  · intro next hnext
    cases hnext
  · intro ack hsaved
    cases hsaved

theorem Inv.step (h : Inv run es e.before)
    (hsplit : interleaveEvents run.schedule run.programs run.start = es ++ (i, e) :: fs)
    (hfree : isUndisturbed e) : Inv run (es ++ [(i, e)]) e.after := by
  have hdue := run.due hsplit
  refine ⟨?_, ?_⟩
  · intro j
    by_cases hij : i = j
    · subst hij
      rw [seen_self]
      exact (h.traced i).step hdue hfree
    · rw [seen_ne es e hij]
      apply (h.traced j).later
      · intro key v heq
        exact hij (congrArg Prod.fst heq).symm
      · exact acks_subset e.stmt e.before
  · intro row hrow
    have hother : ∀ j, (run.seen es j).saved = some row.ack →
        (run.seen (es ++ [(i, e)]) j).saved = some row.ack := by
      intro j hj
      by_cases hij : i = j
      · subst hij
        rw [seen_self]
        obtain ⟨c, w⟩ := e
        cases c with
        | saveDurableAck key ack => cases hdue.1.symm.trans hj
        | _ => exact hj
      · rw [seen_ne es e hij]
        exact hj
    have hbefore : row ∈ e.before.acks.rows → row ∈ run.start.acks.rows ∨
        ∃ i', (run.seen (es ++ [(i, e)]) i').saved = some row.ack := by
      intro hold
      rcases h.saved row hold with hstart | ⟨j, hj⟩
      · exact .inl hstart
      · exact .inr ⟨j, hother j hj⟩
    obtain ⟨c, w⟩ := e
    cases c with
    | saveDurableAck key ack =>
      rcases Table.mem_insert hrow with hold | rfl
      · exact hbefore hold
      · refine .inr ⟨i, ?_⟩
        rw [seen_self]
        rfl
    | _ => exact hbefore hrow

theorem Undisturbed.event (h : run.Undisturbed)
    (hsplit : interleaveEvents run.schedule run.programs run.start = es ++ (i, e) :: fs) :
    isUndisturbed e := by
  apply h (i, e)
  rw [hsplit]
  exact List.mem_append_right _ List.mem_cons_self

theorem Undisturbed.inv (h : run.Undisturbed) (n : Nat) : Inv run (run.events n) (run.pool n).2 :=
  interleave_invariant_take (I := Inv run) run.schedule run.start run.inv_start
    (fun _ _ _ _ hsplit hinv => hinv.step hsplit (h.event hsplit)) n

theorem Undisturbed.answered (h : run.Undisturbed) (hcall : run.calls[i]? = some input)
    (ha : run.Answers n i ack) : HasAck (run.pool n).2.acks input.mutation ack := by
  have hends : CallEnds (.ok ack) (run.seen (run.events n) i) := ends ha
  have htraced := (h.inv n).traced i
  have hinput := htraced.call.trans hcall
  rcases hends with hreplay | hsaved
  · exact htraced.replay input ack hinput hreplay
  · obtain ⟨input', hinput', _, hhas, _⟩ := htraced.saved ack hsaved
    obtain rfl : input = input' := Option.some.inj (hinput.symm.trans hinput')
    exact hhas

theorem Undisturbed.sameAck (h : run.Undisturbed) (ha : run.calls[i]? = some a)
    (hb : run.calls[j]? = some b) (hkey : a.mutation = b.mutation) (hx : run.Answers n i x)
    (hy : run.Answers n j y) : x = y := by
  obtain ⟨row, hrow, hrowKey, rfl⟩ := h.answered ha hx
  obtain ⟨row', hrow', hrowKey', rfl⟩ := h.answered hb hy
  have hsame : row = row' :=
    Table.eq_of_key hrow hrow' (hrowKey.trans (hkey.trans hrowKey'.symm))
  rw [hsame]

theorem Undisturbed.succeeds (h : run.Undisturbed) (n i : Nat) (message : String) :
    (run.pool n).1[i]? ≠ some (.throw message) := by
  intro hthrown
  have hends : CallEnds (.error message) (run.seen (run.events n) i) := ends hthrown
  have hrefused := ((h.inv n).traced i).refused
  have hends : (run.seen (run.events n) i).refused := hends
  rw [hrefused] at hends
  cases hends

/-- At step `m` call `i` moves its entity from the base version to the next one. -/
structure Moves (run : ReadRun) (m i : Nat) (input : LocalReadMutationRequest) : Prop where
  event : ∃ e, run.events (m + 1) = run.events m ++ [(i, e)]
  found : ∃ row, run.record m input.recordKey = some row ∧ row.version = input.baseVersion
  left : ∃ row, run.record (m + 1) input.recordKey = some row ∧
    row.version = input.baseVersion + 1 ∧ row.readState = input.desiredReadState

theorem Undisturbed.moves (h : run.Undisturbed) (hupdates : Updates (run.events n) i input next) :
    next.version = input.baseVersion + 1 ∧ ∃ m, run.Moves m i input := by
  obtain ⟨current, nowIso, v, hmem, rfl, hversion⟩ := hupdates
  refine ⟨congrArg (· + 1) hversion, ?_⟩
  obtain ⟨es, fs, hsplit⟩ := List.append_of_mem (mem_interleaveEvents_of_take n hmem)
  obtain ⟨m, hevents, hbefore, hnext, hafter⟩ := interleave_moment hsplit
  have hfree : ((v.records.get? input.recordKey).any fun row =>
    row.version = current.version) = true := h.event hsplit
  obtain ⟨row, hrow, hguard⟩ := (Option.any_eq_true _ _).mp hfree
  have hset := Table.get?_update_self hrow hguard (readUpdate_taken v input current nowIso)
  refine ⟨m, ⟨⟨.update input current nowIso, v⟩, ?_⟩, ⟨row, ?_, ?_⟩,
    ⟨(readUpdate input current nowIso).set row, ?_, congrArg (· + 1) hversion, rfl⟩⟩
  · unfold events
    rw [hevents, hnext]
  · exact (congrArg (fun w : World => w.records.get? input.recordKey) hbefore).trans hrow
  · exact (of_decide_eq_true hguard).trans hversion
  · exact (congrArg (fun w : World => w.records.get? input.recordKey) hafter).trans hset

theorem Moves.unique (h : run.Moves m i a) (h' : run.Moves n j b) (hkey : a.recordKey = b.recordKey)
    (hversion : a.baseVersion = b.baseVersion) : i = j := by
  have hafter : ∀ {m n i j : Nat} {a b : LocalReadMutationRequest}, run.Moves m i a →
      run.Moves n j b → a.recordKey = b.recordKey → a.baseVersion = b.baseVersion → ¬ m < n := by
    intro m n i j a b h h' hkey hversion hlt
    obtain ⟨row, hrow, hnext, _⟩ := h.left
    obtain ⟨row', hrow', hbase⟩ := h'.found
    obtain ⟨later, hlater, hstep⟩ := run.advances hlt _ row hrow
    rw [hkey] at hlater
    obtain rfl : row' = later := Option.some.inj (hrow'.symm.trans hlater)
    rcases hstep with hless | rfl
    · omega
    · omega
  have hm : m = n := by
    have hnot := hafter h h' hkey hversion
    have hnot' := hafter h' h hkey.symm hversion.symm
    omega
  subst hm
  obtain ⟨e, he⟩ := h.event
  obtain ⟨e', he'⟩ := h'.event
  have hlast := List.append_cancel_left (he.symm.trans he')
  exact congrArg Prod.fst (List.cons.inj hlast).1

theorem Moves.storedAt (h : run.Moves m i input) :
    run.StoredAt input.recordKey (input.baseVersion + 1) input.desiredReadState := by
  obtain ⟨row, hrow, hversion, hstate⟩ := h.left
  refine ⟨⟨m + 1, row, hrow, hversion, hstate⟩, ?_⟩
  intro n other hother hsame
  by_cases hn : n ≤ m
  · obtain ⟨before, hbefore, hbase⟩ := h.found
    obtain ⟨later, hlater, hstep⟩ := run.advances hn _ other hother
    obtain rfl : before = later := Option.some.inj (hbefore.symm.trans hlater)
    rcases hstep with hless | rfl
    · omega
    · omega
  · have hn : m + 1 ≤ n := by omega
    obtain ⟨later, hlater, hstep⟩ := run.advances hn _ row hrow
    obtain rfl : other = later := Option.some.inj (hother.symm.trans hlater)
    rcases hstep with hless | rfl
    · omega
    · exact hstate

theorem Undisturbed.accepted (h : run.Undisturbed)
    (hsaved : (run.seen (run.events n) i).saved = some ack) (hstatus : ack.status = .acked) :
    ∃ input m next, run.calls[i]? = some input ∧ run.Moves m i input ∧
      next.version = input.baseVersion + 1 ∧ ack = input.acked next := by
  have htraced := (h.inv n).traced i
  obtain ⟨input, hinput, _, _, haccepts⟩ := htraced.saved ack hsaved
  obtain ⟨next, hnext, hack⟩ := haccepts hstatus
  obtain ⟨input', hinput', hupdates⟩ := htraced.written next hnext
  obtain rfl : input = input' := Option.some.inj (hinput.symm.trans hinput')
  obtain ⟨hversion, m, hmoves⟩ := h.moves hupdates
  exact ⟨input, m, next, htraced.call.symm.trans hinput, hmoves, hversion, hack⟩

theorem Undisturbed.freshMoves (h : run.Undisturbed) (hcall : run.calls[i]? = some input)
    (ha : run.Answers n i ack) (hfresh : run.Fresh n i) (hstatus : ack.status = .acked) :
    ∃ m, run.Moves m i input := by
  obtain ⟨key, w, hmem, hnone⟩ := hfresh
  have hlooked := ((h.inv n).traced i).looked key w hmem
  rw [hnone] at hlooked
  have hends : CallEnds (.ok ack) (run.seen (run.events n) i) := ends ha
  rcases hends with hreplay | hsaved
  · cases hlooked.symm.trans hreplay
  · obtain ⟨input', m, _, hcall', hmoves, _⟩ := h.accepted hsaved hstatus
    obtain rfl : input = input' := Option.some.inj (hcall.symm.trans hcall')
    exact ⟨m, hmoves⟩

theorem answering (ha : run.Answers n i ack) : ∃ input, run.calls[i]? = some input := by
  have hlength : i < run.calls.length := by
    have hi := (List.getElem?_eq_some_iff.mp ha).1
    rw [pool, interleave_length] at hi
    simpa [programs] using hi
  exact ⟨_, List.getElem?_eq_getElem hlength⟩

theorem Undisturbed.optimistic (h : run.Undisturbed) : run.Optimistic where
  oneAck n i j a b x y ha hb hkey hversion hx hy hi hj hxs hys := by
    obtain ⟨m, hm⟩ := h.freshMoves ha hx hi hxs
    obtain ⟨m', hm'⟩ := h.freshMoves hb hy hj hys
    exact hm.unique hm' hkey hversion
  stored n i ack ha hstatus := by
    obtain ⟨input, hcall⟩ := answering ha
    obtain ⟨row, hrow, _, rfl⟩ := h.answered hcall ha
    rcases (h.inv n).saved row hrow with hstart | ⟨j, hj⟩
    · exact .inl ⟨row, hstart, rfl⟩
    · obtain ⟨input, m, next, _, hmoves, hversion, hack⟩ := h.accepted hj hstatus
      refine .inr ⟨input.baseVersion + 1, ?_, ?_⟩
      · rw [hack, ← hversion]
        rfl
      · rw [hack]
        exact hmoves.storedAt
  sameAck n i j a b x y ha hb hkey hx hy := h.sameAck ha hb hkey hx hy
  succeeds n i message := h.succeeds n i message

end ReadRun

end IdAgents.LocalSearch
