import IdAgents.DocModel.DocumentLog

namespace IdAgents.DocModel
open AtomicProgram List

namespace DocCalls
variable {run : DocCalls}

/-- How far call `i` has come after the events `es`. -/
def phase (es : List (Nat × Event sql World)) (i : Nat) : Phase :=
  docScript.ghost (fun _ => .start) es i

theorem programs_keep (run : DocCalls) (i : Nat) (p : Prog DocAnswer)
    (hp : run.programs[i]? = some p) : p.keeps docScript (fun _ g => g = .done) .start := by
  rw [programs, getElem?_map, Option.map_eq_some_iff] at hp
  obtain ⟨c, _, rfl⟩ := hp
  exact c.keeps run.documentId

theorem Undisturbed.event (h : run.Undisturbed) (hx : (i, e) ∈ run.events n) : isUndisturbed e :=
  h _ (mem_interleaveEvents_of_take n hx)

theorem Undisturbed.consistent (h : run.Undisturbed) (n : Nat) :
    Consistent (phase (run.events n)) (run.state n) := by
  have hkeeps := interleave_keeps (g := fun _ => Phase.start)
    (R := fun _ _ g => g = .done) run.schedule run.start run.programs_keep
  apply interleave_invariant_take (I := fun es w => Consistent (phase es) w) run.schedule run.start
  · exact Consistent.empty run.env
  · intro es i e fs hsplit hI
    have hcalm : isUndisturbed e := h (i, e) (hsplit ▸ by simp)
    exact hI.step (hkeeps es i e fs hsplit) hcalm (Script.ghost_concat _ es i · e)

theorem inserted_ne_wrote (inserted : Except String Nat) (r : Nat) :
    Phase.inserted inserted ≠ .wrote r := by
  rcases inserted with e | _ | rowCount <;> simp [Phase.inserted]

theorem selected_ne_wrote (selected : Except String (Option Nat)) (r : Nat) :
    Phase.selected selected ≠ .wrote r := by
  rcases selected with e | _ | revision <;> simp [Phase.selected]

theorem midway_iff (run : DocCalls) (n i : Nat) :
    run.Midway n i ↔ ∃ r, phase (run.events n) i = .wrote r := by
  unfold Midway phase Script.ghost
  generalize eventsOf i (run.events n) = es
  rcases eq_nil_or_concat' es with rfl | ⟨es, e, rfl⟩
  · simp
  · rw [Script.over_concat, getLast?_concat, Option.any_some]
    obtain ⟨c, w⟩ := e
    cases c with
    | insertOp op =>
      change (w.fails.isNone && !op.isAuthored) = true ↔
        ∃ r, Phase.written op (Stmt.answerOr w.fails ()) = .wrote r
      cases w.fails with
      | some e => simp [Stmt.answerOr, Phase.written]
      | none => cases hauthored : op.isAuthored <;> simp [Stmt.answerOr, Phase.written, hauthored]
    | insertDocument row =>
      constructor
      · intro h
        cases h
      · rintro ⟨r, hr⟩
        exact absurd hr (inserted_ne_wrote _ r)
    | selectRevision =>
      constructor
      · intro h
        cases h
      · rintro ⟨r, hr⟩
        exact absurd hr (selected_ne_wrote _ r)
    | updateRevision revision now =>
      constructor
      · intro h
        cases h
      · rintro ⟨r, hr⟩
        cases hr

theorem leads (hcall : run.calls[i]? = some c) (hq : (run.pool n).1[i]? = some q) :
    Leads (c.prog run.documentId) ((eventsOf i (run.events n)).map Event.observed) q := by
  have hprog : run.programs[i]? = some (c.prog run.documentId) := by
    rw [programs, getElem?_map, hcall]
    rfl
  obtain ⟨q', hq', hleads⟩ := interleave_leads (run.schedule.take n) run.start hprog
  obtain rfl := Option.some.inj (hq.symm.trans hq')
  exact hleads

theorem chain_state (hx : (i, e) ∈ run.events n) :
    ∃ es : List (Event sql World), Chain e.after es (run.state n) := by
  obtain ⟨es, hes, _⟩ := interleave_from run.schedule run.programs run.start (Nat.le_refl n) hx
  exact ⟨es, hes⟩

end DocCalls

variable {es : List (Event sql World)} {w : World}

theorem ops_grow (hes : Chain w es w') : w.ops <+: w'.ops := by
  apply Chain.related (R := fun w w' : World => w.ops <+: w'.ops) _ _ hes
  · intro e _
    obtain ⟨c, w⟩ := e
    change w.ops <+: (Stmt.effect c w).ops
    rw [Stmt.effect]
    cases hfails : w.fails with
    | some e => exact prefix_rfl
    | none =>
      cases c with
      | insertOp op => exact prefix_append _ _
      | _ => exact prefix_rfl
  · exact fun w => prefix_rfl
  · exact fun _ _ _ h h' => h.trans h'

theorem append_leads
    (h : Leads ((appendOp documentId input).bind fun r => .ret (DocAnswer.appended r))
      (es.map Event.observed) (.ret (.appended r))) :
    ∃ v, ⟨.insertOp (input.op r), v⟩ ∈ es ∧ v.fails = none := by
  obtain ⟨w, fs, rfl, hw⟩ := Leads.issue_events h rfl
  have hread : Leads (Program.bind (Program.bind (thrown (Stmt.answerOr w.fails
    (w.document.map (·.revision)))) _) _) _ _ := hw
  cases hfails : w.fails with
  | some e =>
    rw [hfails] at hread
    cases hread.of_throw.2
  | none =>
    rw [hfails] at hread
    cases hrow : w.document with
    | none =>
      rw [hrow] at hread
      cases hread.of_throw.2
    | some row =>
      rw [hrow] at hread
      obtain ⟨v, gs, rfl, hv⟩ := Leads.issue_events hread rfl
      have hwrite : Leads (Program.bind (Program.bind (thrown
        (Stmt.answerOr v.fails ())) _) _) _ _ := hv
      cases hwritten : v.fails with
      | some e =>
        rw [hwritten] at hwrite
        cases hwrite.of_throw.2
      | none =>
        rw [hwritten] at hwrite
        obtain ⟨u, ls, rfl, hu⟩ := Leads.issue_events hwrite rfl
        have hupdate : Leads (Program.bind (Program.bind (thrown
          (Stmt.answerOr u.fails ())) _) _) _ _ := hu
        cases hupdated : u.fails with
        | some e =>
          rw [hupdated] at hupdate
          cases hupdate.of_throw.2
        | none =>
          rw [hupdated] at hupdate
          cases hupdate.of_ret.2
          exact ⟨v, by simp, hwritten⟩

theorem author_leads (h : Leads ((DocCall.author input).prog documentId) (es.map Event.observed)
      (.ret (.authored inserted))) :
    (∃ row w, ⟨.insertDocument row, w⟩ ∈ es ∧ w.fails = none ∧ w.document.isSome) ∨
      ∃ v, ⟨.insertOp input.op, v⟩ ∈ es ∧ v.fails = none := by
  obtain ⟨w, fs, rfl, hw⟩ := Leads.issue_events h rfl
  have hread : Leads (Program.bind (Program.bind (thrown (Stmt.answerOr w.fails
    (if w.document.isNone then 1 else 0))) _) _) _ _ := hw
  cases hfails : w.fails with
  | some e =>
    rw [hfails] at hread
    cases hread.of_throw.2
  | none =>
    cases hrow : w.document with
    | some row => exact .inl ⟨_, w, mem_cons_self, hfails, hrow ▸ rfl⟩
    | none =>
      rw [hfails, hrow] at hread
      obtain ⟨v, gs, rfl, hv⟩ := Leads.issue_events hread rfl
      have hwrite : Leads (Program.bind (Program.bind (thrown (Stmt.answerOr v.fails ())) _) _)
        _ _ := hv
      cases hwritten : v.fails with
      | some e =>
        rw [hwritten] at hwrite
        cases hwrite.of_throw.2
      | none => exact .inr ⟨v, by simp, hwritten⟩

def DocCall.answers : DocCall → DocAnswer → Prop
  | author _, a => ∃ inserted, a = .authored inserted
  | _, a => ∃ r, a = .appended r

theorem DocCall.prog_answers (c : DocCall) (documentId : String) :
    (c.prog documentId).Meets (fun _ => True) c.answers := by
  have hall : ∀ {α : Type} (p : Prog α), p.Meets (fun _ => True) fun _ => True :=
    fun p => .of_forall p (fun _ => trivial) fun _ => trivial
  cases c with
  | author input => exact (hall _).bind fun b _ => ⟨b, rfl⟩
  | comment actor body now => exact (hall _).bind fun r _ => ⟨r, rfl⟩
  | receipt actor kind note now => exact (hall _).bind fun r _ => ⟨r, rfl⟩

def OpRow.comment? (op : OpRow) : Option CommentEntry :=
  match op.payload with
  | .comment body => some ⟨op.opId, op.actor, op.ts, body⟩
  | _ => none

def OpRow.receipt? (op : OpRow) : Option ReceiptEntry :=
  match op.payload with
  | .receipt kind note => some ⟨op.opId, op.actor, op.ts, kind, note⟩
  | _ => none

theorem replay_from (ops : List OpRow) (r : Replay) :
    (ops.foldl Replay.apply r).comments = r.comments ++ ops.filterMap OpRow.comment? ∧
      (ops.foldl Replay.apply r).receipts = r.receipts ++ ops.filterMap OpRow.receipt? ∧
      ((r.frontmatter.isSome ∨ ∃ op ∈ ops, op.isAuthored) →
        (ops.foldl Replay.apply r).frontmatter.isSome) := by
  induction ops generalizing r with
  | nil => simp
  | cons op ops ih =>
    obtain ⟨hcomments, hreceipts, hfront⟩ := ih (r.apply op)
    rw [foldl_cons, hcomments, hreceipts]
    obtain ⟨⟨revision, actor, ts, payload⟩, opId⟩ := op
    cases payload with
    | authored =>
      refine ⟨rfl, rfl, fun _ => hfront (.inl rfl)⟩
    | comment body =>
      refine ⟨by simp [Replay.apply, OpRow.comment?], rfl, fun h => hfront ?_⟩
      rcases h with hsome | ⟨o, ho, hauthored⟩
      · exact .inl hsome
      · rcases mem_cons.mp ho with rfl | ho
        · cases (hauthored : false = true)
        · exact .inr ⟨o, ho, hauthored⟩
    | receipt kind note =>
      refine ⟨rfl, by simp [Replay.apply, OpRow.receipt?], fun h => hfront ?_⟩
      rcases h with hsome | ⟨o, ho, hauthored⟩
      · exact .inl hsome
      · rcases mem_cons.mp ho with rfl | ho
        · cases (hauthored : false = true)
        · exact .inr ⟨o, ho, hauthored⟩

theorem entry_once {γ : Type} {ops : List OpRow} {op : OpRow} {x : γ} {toEntry : OpRow → Option γ}
    (idOf : γ → Nat) (hid : ∀ op x, toEntry op = some x → idOf x = op.opId)
    (hops : ops.Pairwise (·.opId < ·.opId)) (hmem : op ∈ ops) (hentry : toEntry op = some x) :
    (ops.filterMap toEntry).filter (idOf · = op.opId) = [x] := by
  obtain ⟨before, after, rfl⟩ := append_of_mem hmem
  rw [pairwise_append, pairwise_cons] at hops
  obtain ⟨_, ⟨hafter, _⟩, hbefore⟩ := hops
  have hother : ∀ ops : List OpRow, (∀ o ∈ ops, o.opId ≠ op.opId) →
      (ops.filterMap toEntry).filter (idOf · = op.opId) = [] := by
    intro ops hne
    rw [filter_eq_nil_iff]
    intro y hy
    obtain ⟨o, ho, hoy⟩ := mem_filterMap.mp hy
    rw [hid o y hoy]
    simpa using hne o ho
  rw [filterMap_append, filterMap_cons, hentry, filter_append,
    hother before fun o ho => Nat.ne_of_lt (hbefore o ho op mem_cons_self), nil_append]
  dsimp only
  rw [filter_cons, if_pos (by simpa using hid op x hentry),
    hother after fun o ho => Nat.ne_of_gt (hafter o ho)]

theorem project_some (documentId : String) (hrow : w.document = some row)
    (hauthored : ∃ op ∈ w.ops, op.isAuthored) :
    ∃ p, projectArtifactDocument documentId w = .ok (some p) ∧
      p.comments = w.ops.filterMap OpRow.comment? ∧ p.receipts = w.ops.filterMap OpRow.receipt? := by
  obtain ⟨hcomments, hreceipts, hfront⟩ := replay_from w.ops {}
  obtain ⟨frontmatter, hsome⟩ := Option.isSome_iff_exists.mp (hfront (.inr hauthored))
  have hreplay : (replay w.ops).frontmatter = some frontmatter := hsome
  rw [projectArtifactDocument]
  rw [hrow]
  dsimp only
  rw [hreplay]
  exact ⟨_, rfl, hcomments, hreceipts⟩

theorem entry_in {input : AppendInput} {p : ArtifactDocumentProjection}
    (hrising : w.ops.Pairwise (·.opId < ·.opId)) (hmem : op ∈ w.ops)
    (hop : op.toNewOp = input.op r) (hpayload : (input.op r).isAuthored = false)
    (hcomments : p.comments = w.ops.filterMap OpRow.comment?)
    (hreceipts : p.receipts = w.ops.filterMap OpRow.receipt?) : input.In op.opId p := by
  obtain ⟨actor, payload, now⟩ := input
  obtain ⟨new, opId⟩ := op
  dsimp only at hop
  subst hop
  cases payload with
  | authored => cases (hpayload : true = false)
  | comment body =>
    change p.comments.filter _ = _
    rw [hcomments]
    apply entry_once CommentEntry.opId _ hrising hmem rfl
    intro o x hx
    unfold OpRow.comment? at hx
    split at hx
    · cases hx
      rfl
    · cases hx
  | receipt kind note =>
    change p.receipts.filter _ = _
    rw [hreceipts]
    apply entry_once ReceiptEntry.opId _ hrising hmem rfl
    intro o x hx
    unfold OpRow.receipt? at hx
    split at hx
    · cases hx
      rfl
    · cases hx

namespace DocCalls
variable {run : DocCalls}

theorem op_stays (hx : (i, ⟨.insertOp op, v⟩) ∈ run.events n) (hfails : v.fails = none) :
    { op with opId := v.nextOpId } ∈ (run.state n).ops := by
  obtain ⟨es, hes⟩ := chain_state hx
  have hafter : (Stmt.effect (.insertOp op) v).ops = v.ops ++ [{ op with opId := v.nextOpId }] := by
    simp [Stmt.effect, Stmt.change, hfails]
  apply (ops_grow hes).subset
  change _ ∈ (Stmt.effect (.insertOp op) v).ops
  rw [hafter]
  exact mem_append_right _ mem_cons_self

theorem appended_input (hcall : run.calls[i]? = some call) (h : run.Answers n i (.appended r)) :
    ∃ input v, call.input? = some input ∧ (input.op r).isAuthored = false ∧
      (i, ⟨.insertOp (input.op r), v⟩) ∈ run.events n ∧ v.fails = none := by
  have hleads := leads hcall h
  have happend : ∀ input, (input.op r).isAuthored = false → call.input? = some input →
      call.prog run.documentId =
        (appendOp run.documentId input).bind (fun r => .ret (DocAnswer.appended r)) →
      ∃ input v, call.input? = some input ∧ (input.op r).isAuthored = false ∧
        (i, ⟨.insertOp (input.op r), v⟩) ∈ run.events n ∧ v.fails = none := by
    intro input hpayload hinput hprog
    rw [hprog] at hleads
    obtain ⟨v, hv, hfails⟩ := append_leads hleads
    exact ⟨input, v, hinput, hpayload, mem_eventsOf.mp hv, hfails⟩
  cases call with
  | author input =>
    obtain ⟨inserted, hanswer⟩ := (hleads.meets (DocCall.prog_answers _ _)).1
    cases hanswer
  | comment actor body now => exact happend _ rfl rfl rfl
  | receipt actor kind note now => exact happend _ rfl rfl rfl

theorem answers_call (h : run.Answers n i a) : ∃ call, run.calls[i]? = some call := by
  have hlength := interleave_length (run.schedule.take n) run.programs run.start
  have hi : i < run.programs.length := hlength ▸ (List.getElem?_eq_some_iff.mp h).1
  rw [programs, List.length_map] at hi
  exact ⟨_, getElem?_eq_getElem hi⟩

theorem Undisturbed.authored (h : run.Undisturbed) (hauthored : run.Authored n) :
    ∃ op ∈ (run.state n).ops, op.isAuthored := by
  obtain ⟨i, inserted, hanswers⟩ := hauthored
  obtain ⟨call, hcall⟩ := answers_call hanswers
  have hleads := leads hcall hanswers
  cases call with
  | author input =>
    rcases author_leads hleads with ⟨row, w, hw, hfails, hrow⟩ | ⟨v, hv, hfails⟩
    · have hevent := mem_eventsOf.mp hw
      have hcalm := h.event hevent
      obtain ⟨op, hop, hauthored⟩ : ∃ op ∈ w.ops, op.isAuthored := by
        have hnone : w.document.isNone = false := by
          obtain ⟨row, hrow⟩ := Option.isSome_iff_exists.mp hrow
          rw [hrow]
          rfl
        simpa [isUndisturbed, hfails, hnone] using hcalm
      obtain ⟨es, hes⟩ := chain_state hevent
      have hsame : (Stmt.effect (.insertDocument row) w).ops = w.ops := by
        simp [Stmt.effect, Stmt.change, hfails]
      exact ⟨op, (ops_grow hes).subset (hsame ▸ hop), hauthored⟩
    · exact ⟨_, op_stays (mem_eventsOf.mp hv) hfails, rfl⟩
  | comment actor body now =>
    obtain ⟨r, hanswer⟩ := (hleads.meets (DocCall.prog_answers _ _)).1
    cases hanswer
  | receipt actor kind note now =>
    obtain ⟨r, hanswer⟩ := (hleads.meets (DocCall.prog_answers _ _)).1
    cases hanswer

theorem Undisturbed.apart (h : run.Undisturbed) (hi : run.Answers n i (.appended r))
    (hj : run.Answers n j (.appended r)) : i = j := by
  have hinsert : ∀ k, run.Answers n k (.appended r) → ∃ op v,
      (k, ⟨.insertOp op, v⟩) ∈ run.events n ∧ v.fails = none ∧ v.ops.length + 1 = r := by
    intro k hk
    obtain ⟨call, hcall⟩ := answers_call hk
    obtain ⟨input, v, _, hpayload, hevent, hfails⟩ := appended_input hcall hk
    have hnext : v.ops.length + 1 = (input.op r).revision := by
      simpa [isUndisturbed, hfails, hpayload] using h.event hevent
    exact ⟨_, v, hevent, hfails, hnext⟩
  have hlater : ∀ {op u} {es : List (Event sql World)} {v : World}, v.fails = none →
      v.ops.length + 1 = r → u.ops.length + 1 = r →
      ¬ Chain (Stmt.effect (.insertOp op) v) es u := by
    intro op u es v hfails hv hu hes
    have hlength : (Stmt.effect (.insertOp op) v).ops.length = v.ops.length + 1 := by
      simp [Stmt.effect, Stmt.change, hfails]
    have hle := (ops_grow hes).length_le
    omega
  obtain ⟨op, v, hv, hfails, hnext⟩ := hinsert i hi
  obtain ⟨op', u, hu, hfails', hnext'⟩ := hinsert j hj
  by_contra hne
  rcases interleave_precedes hv hu (by simp [hne]) with ⟨es, hes⟩ | ⟨es, hes⟩
  · exact hlater hfails hnext hnext' hes
  · exact hlater hfails' hnext' hnext hes

theorem Undisturbed.sound (h : run.Undisturbed) (hauthored : run.Authored n) :
    (∃ p, projectArtifactDocument run.documentId (run.state n) = .ok (some p) ∧
      ∀ i call input r, run.calls[i]? = some call → call.input? = some input →
        run.Answers n i (.appended r) →
        ∃ op ∈ (run.state n).ops, op.toNewOp = input.op r ∧ input.In op.opId p) ∧
    ∃ row, (run.state n).document = some row ∧
      (row.revision = (run.state n).ops.length ↔ ∀ i, ¬ run.Midway n i) := by
  have hconsistent := h.consistent n
  obtain ⟨op, hop, hfirst⟩ := h.authored hauthored
  have hne := ne_nil_of_mem hop
  obtain ⟨row, hrow⟩ := Option.isSome_iff_exists.mp (hconsistent.hasRow hne)
  obtain ⟨p, hp, hcomments, hreceipts⟩ := project_some run.documentId hrow
    ⟨op, hop, hfirst⟩
  refine ⟨⟨p, hp, ?_⟩, row, hrow, ?_⟩
  · intro i call input r hcall hinput hanswers
    obtain ⟨input', v, hinput', hpayload, hevent, hfails⟩ := appended_input hcall hanswers
    obtain rfl := Option.some.inj (hinput.symm.trans hinput')
    have hmem := op_stays hevent hfails
    exact ⟨_, hmem, rfl, entry_in hconsistent.rising hmem rfl hpayload hcomments hreceipts⟩
  · constructor
    · intro hcurrent i hmidway
      obtain ⟨r, hr⟩ := (midway_iff run n i).mp hmidway
      obtain ⟨hlength, row', hrow', hlate⟩ := hconsistent.wrote i r hr
      obtain rfl := Option.some.inj (hrow.symm.trans hrow')
      omega
    · intro hrest
      have hpos : 0 < (run.state n).ops.length := length_pos_iff.mpr hne
      have hmax := hconsistent.row row hrow fun i r hr =>
        hrest i ((midway_iff run n i).mpr ⟨r, hr⟩)
      omega

end DocCalls

/-- Where author calls find the operation with the row, appends follow one another and no UPDATE is
refused, the log of an authored document is sound whenever no append stands between its writes. -/
theorem soundAt_iff (run : DocCalls) (h : run.Undisturbed) (n : Nat)
    (hauthored : run.Authored n) : run.SoundAt n ↔ ∀ i, ¬ run.Midway n i := by
  obtain ⟨hprojected, row, hrow, hcurrent⟩ := h.sound hauthored
  constructor
  · intro hsound
    obtain ⟨row', hrow', hlength⟩ := hsound.row
    obtain rfl := Option.some.inj (hrow.symm.trans hrow')
    exact hcurrent.mp hlength
  · intro hrest
    exact ⟨hprojected, (h.consistent n).revisions, ⟨row, hrow, hcurrent.mpr hrest⟩,
      fun i j r hi hj => h.apart hi hj⟩

theorem midway_event {run : DocCalls} (h : run.Midway n i) : ∃ e, (i, e) ∈ run.events n := by
  obtain ⟨e, he, _⟩ := (Option.any_eq_true _ _).mp h
  exact ⟨e, mem_eventsOf.mp (mem_of_getLast? he)⟩

def brief : AuthorInput where
  teamId := "team"
  ownerAgent := "writer"
  actor := "agent:writer"
  title := "Brief"
  tag := none
  content := "text"
  sourceLink := none
  availability := .present
  audience := .operator
  kind := .document
  project := none
  now := "2026-01-01T00:00:00.000Z"

def commented (schedule : List Nat) : DocCalls where
  documentId := "doc-1"
  calls := [.author brief, .comment "user:ops" "first" "2026-01-01T00:01:00.000Z",
    .comment "user:ops" "second" "2026-01-01T00:02:00.000Z"]
  schedule := schedule
  env := { fails := fun _ => none, otherOps := fun _ => 0 }

/-- One comment after the other. -/
theorem soundAt_commented : (commented [0, 0, 1, 1, 1, 2, 2, 2]).SoundAt 8 := by
  apply (soundAt_iff (commented [0, 0, 1, 1, 1, 2, 2, 2]) (by decide +kernel) 8
    ⟨0, true, rfl⟩).mpr
  intro i hmidway
  obtain ⟨e, he⟩ := midway_event hmidway
  have hnone : ∀ x ∈ (commented [0, 0, 1, 1, 1, 2, 2, 2]).events 8, (eventsOf x.1
      ((commented [0, 0, 1, 1, 1, 2, 2, 2]).events 8)).getLast?.any isAppend = false := by
    decide +kernel
  rw [DocCalls.Midway, hnone (i, e) he] at hmidway
  cases hmidway

/-- Two comments that overlap are given one revision. -/
theorem not_soundAt : ¬ ∀ (run : DocCalls) (n : Nat), run.Authored n → run.SoundAt n := by
  intro h
  have hsound := h (commented [0, 0, 1, 2, 1, 2, 1, 2]) 8 ⟨0, true, rfl⟩
  exact absurd hsound.revisions (by decide +kernel)

end IdAgents.DocModel
