import Mathlib.Data.List.Induction
import IdAgents.Outputs.Views

namespace IdAgents.Outputs
open JsText JsMap AtomicProgram

def newest (p : ArtifactOp → Bool) (log : List ArtifactOp) : Option ArtifactOp :=
  (log.filter p).getLast?

theorem page_zero (log : List ArtifactOp) (limit : Nat) : page log limit 0 = log.take limit := rfl

variable {log : List ArtifactOp}

theorem latestOp_eq (h : log.Pairwise (·.opId < ·.opId))
    (opType : ArtifactOpType) : latestOp opType log = newest (·.opType = opType) log := by
  induction log using List.reverseRecOn with
  | nil => rfl
  | append_singleton log op ih =>
    rw [List.pairwise_append] at h
    have hlog := ih h.1
    have hstep : latestOp opType (log ++ [op]) =
        if op.opType = opType && (latestOp opType log).all (·.opId < op.opId) then some op
        else latestOp opType log := by
      simp [latestOp, List.foldl_append]
    rw [hstep, hlog, newest, newest, List.filter_append]
    by_cases htype : op.opType = opType
    · have hbelow : ((log.filter (·.opType = opType)).getLast?).all (·.opId < op.opId) := by
        rw [Option.all_eq_true]
        intro old hold
        have hmem := List.mem_of_getLast? hold
        exact decide_eq_true (h.2.2 old (List.mem_of_mem_filter hmem) op (by simp))
      rw [if_pos (by rw [hbelow, Bool.and_true]; exact decide_eq_true htype)]
      simp [htype]
    · simp [htype]

theorem newest_take (h : log.Pairwise (·.opId < ·.opId)) (p : ArtifactOp → Bool) (limit : Nat) :
    newest p (log.take limit) = newest p log ↔ ∀ op ∈ log.drop limit, p op = false := by
  have hsplit : log.filter p = (log.take limit).filter p ++ (log.drop limit).filter p := by
    rw [← List.filter_append, List.take_append_drop]
  have hnil : (∀ op ∈ log.drop limit, p op = false) ↔ (log.drop limit).filter p = [] := by
    simp [List.filter_eq_nil_iff]
  rw [hnil, newest, newest, hsplit]
  constructor
  · intro hsame
    by_contra hrest
    obtain ⟨op, hlast⟩ := Option.isSome_iff_exists.mp (List.getLast?_isSome.mpr hrest)
    rw [List.getLast?_append, hlast, Option.some_or] at hsame
    have hlate : op ∈ log.drop limit := List.mem_of_mem_filter (List.mem_of_getLast? hlast)
    have hearly : op ∈ log.take limit := List.mem_of_mem_filter (List.mem_of_getLast? hsame)
    rw [← List.take_append_drop limit log, List.pairwise_append] at h
    exact Nat.lt_irrefl _ (h.2.2 op hearly op hlate)
  · intro hrest
    rw [hrest, List.append_nil]

theorem routingBySource_get? (ops : List ArtifactOp) (source : String) :
    (routingBySource ops).get? source = ops.find? (routedSource · = some source) := by
  have hempty : ops.find? (routedSource · = some source) =
      ((Dict.empty : Dict String ArtifactOp).get? source).or
        (ops.find? (routedSource · = some source)) := by simp
  rw [hempty, routingBySource]
  generalize (Dict.empty : Dict String ArtifactOp) = routing
  clear hempty
  induction ops generalizing routing with
  | nil => simp
  | cons op ops ih =>
    rw [List.foldl_cons, ih, List.find?_cons]
    cases hsource : routedSource op with
    | none => simp
    | some found =>
      by_cases hfound : found = source
      · subst hfound
        cases hget : routing.get? found with
        | some held => simp [Dict.has_eq, hget]
        | none => simp [Dict.has_eq, hget, Dict.get?_set_self]
      · have hne : source ≠ found := fun h => hfound h.symm
        simp only [hfound, Option.some.injEq, decide_false]
        split
        · rfl
        · rw [Dict.get?_set_ne hne]

theorem find?_eq_newest {ops : List ArtifactOp} (h : log.Pairwise (·.opId < ·.opId))
    (hops : ops.Sublist log) (p : ArtifactOp → Bool) :
    ops.find? p = newest p log ↔ ops.filter p = (newest p log).toList := by
  rw [← List.head?_filter]
  constructor
  · intro hhead
    cases hnew : newest p log with
    | none =>
      rw [hnew, List.head?_eq_none_iff] at hhead
      exact hhead
    | some op =>
      rw [hnew, List.head?_eq_some_iff] at hhead
      obtain ⟨rest, hrest⟩ := hhead
      have hsorted : (op :: rest).Pairwise (·.opId < ·.opId) := by
        rw [← hrest]
        exact (h.sublist hops).filter _
      cases rest with
      | nil => exact hrest
      | cons later rest =>
        -- a record after the newest one would have a greater id and stand in the log
        have hlater : later ∈ log.filter p := by
          have hmem : later ∈ ops.filter p := by simp [hrest]
          exact (hops.filter p).subset hmem
        obtain ⟨init, hinit⟩ := List.getLast?_eq_some_iff.mp hnew
        rw [hinit] at hlater
        have hall : (init ++ [op]).Pairwise (·.opId < ·.opId) := by
          rw [← hinit]
          exact h.filter _
        have habove : op.opId < later.opId := List.rel_of_pairwise_cons hsorted (by simp)
        rw [List.pairwise_append] at hall
        rcases List.mem_append.mp hlater with hold | hself
        · have hbelow := hall.2.2 later hold op (by simp)
          omega
        · rw [List.mem_singleton] at hself
          subst hself
          omega
  · intro hfilter
    rw [hfilter]
    cases newest p log <;> rfl

def IsFresh (w : World) (artifactId : String) (key : Option String) : Prop :=
  ∀ k, normalizedKey key = some k → findByKey k (w.log artifactId) = none

theorem not_refused_of_fresh {t : OperationTable} {op : NewOp}
    (h : ∀ key, op.idempotencyKey = some key →
      findByKey key (t.operations op.artifactId) = none) : t.insertRefused op = false := by
  cases hkey : op.idempotencyKey with
  | none => simp [OperationTable.insertRefused, NewOp.entry, hkey]
  | some key =>
    have hnone := h key hkey
    rw [findByKey, List.find?_eq_none] at hnone
    simp only [OperationTable.insertRefused, NewOp.entry, hkey, Option.map_some, Option.any_some]
    rw [Bool.eq_false_iff, ne_eq, List.contains_iff_mem, List.mem_filterMap]
    rintro ⟨row, hrow, hentry⟩
    obtain ⟨k, hk, hpair⟩ := Option.map_eq_some_iff.mp hentry
    obtain ⟨hartifact, rfl⟩ := Prod.mk.inj hpair
    exact hnone row (OperationTable.mem_operations.mpr ⟨hrow, hartifact⟩) (by simp [hk])

variable {w : World}

theorem insertOperation_run {op : NewOp} (h : w.operations.insertRefused op = false) :
    (insertOperation op).run w = (.ok (), (Stmt.insertOperation op).effect w) := by
  change (orThrow () (if w.operations.insertRefused op then
    Except.error ("UNIQUE constraint failed: artifact_operations.artifact_id, " ++
      "artifact_operations.idempotency_key") else Except.ok ())).run _ = _
  rw [h]
  rfl

theorem appendRow_run {op : NewOp} (h : w.operations.insertRefused op = false) :
    ∃ w', (appendRow op).run w = (.ok (w.operations.seq + 1), w') ∧
      w'.operations = w.operations.insert op := by
  refine ⟨(Stmt.selectOperations .readBack op.artifactId).effect
    ((Stmt.insertOperation op).effect w), ?_, rfl⟩
  rw [appendRow, Program.run_bind_ok (insertOperation_run h)]
  change (.ret (newestOpId ((w.operations.insert op).operations op.artifactId)) : Prog Nat).run _ = _
  rw [OperationTable.operations_insert h, newestOpId, List.getLast?_concat]
  rfl

theorem appendOnce_run {op : NewOp}
    (h : ∀ key, op.idempotencyKey = some key → findByKey key (w.log op.artifactId) = none) :
    ∃ w', (appendOnce op).run w = (.ok (w.operations.seq + 1), w') ∧
      w'.operations = w.operations.insert op := by
  have hrefused : w.operations.insertRefused op = false := not_refused_of_fresh h
  rw [appendOnce]
  split
  · exact appendRow_run hrefused
  · next key hkey =>
    have hread : ((Stmt.selectOperations (.byKey key) op.artifactId).effect
        w).operations.insertRefused op = false := hrefused
    obtain ⟨w', hrun, hops⟩ := appendRow_run hread
    refine ⟨w', ?_, hops⟩
    change (replayOr (appendRow op) (findByKey key (w.log op.artifactId))).run _ = _
    rw [h key hkey]
    exact hrun
section
variable (artifactId : String)

theorem getReviewState_run (w : World) : (getReviewState artifactId).run w =
      (.ok (w.reviews.get? artifactId), (Stmt.getReviewState artifactId).effect w) := rfl

theorem touchReview_run (existing : Option ReviewState)
    (sourceLink : Option String) (ts : String) (w : World) :
    ∃ w', (touchReview artifactId existing sourceLink ts).run w = (.ok (), w') ∧
      w'.operations = w.operations := by
  have hupsert : ∃ state w', (upsertReviewState artifactId (.touch existing sourceLink) ts).run w =
      (.ok state, w') ∧ w'.operations = w.operations := by
    rw [upsertReviewState, Program.run_bind_ok (getReviewState_run artifactId w)]
    cases hget : w.reviews.get? artifactId with
    | some row => exact ⟨_, _, rfl, rfl⟩
    | none =>
      have hfree : w.reviews.has artifactId = false := by rw [Dict.has_eq, hget]; rfl
      refine ⟨(ReviewWrite.touch existing sourceLink).patch.create artifactId ts,
        (Stmt.insertReview artifactId (.touch existing sourceLink) ts).effect
          ((Stmt.getReviewState artifactId).effect w), ?_, rfl⟩
      change (orThrow _ (if w.reviews.has artifactId then
        Except.error "UNIQUE constraint failed: artifact_review_state.artifact_id"
        else Except.ok ())).run _ = _
      rw [hfree]
      rfl
  obtain ⟨state, w', hrun, hops⟩ := hupsert
  refine ⟨w', ?_, hops⟩
  rw [touchReview, Program.run_bind_ok hrun]
  rfl

theorem countMatchingIdempotency_run (key : Option String) (w : World) :
    ∃ n w', (countMatchingIdempotency artifactId key).run w = (.ok n, w') ∧
      w'.operations = w.operations := by
  rw [countMatchingIdempotency]
  split
  · exact ⟨0, w, rfl, rfl⟩
  · exact ⟨_, _, rfl, rfl⟩

end

theorem recorded_run (w : World) (op : NewOp) {key : Option String}
    (hkey : op.idempotencyKey = normalizedKey key) (h : IsFresh w op.artifactId key)
    (existing : Option ReviewState) (sourceLink : Option String) (ts : String)
    (f : Nat → Nat → List ArtifactOp → Prog α) :
    ∃ before w', ((touchReview op.artifactId existing sourceLink ts).bind fun _ =>
      (countMatchingIdempotency op.artifactId key).bind fun before =>
      (appendOnce op).bind fun opId =>
      (listOperations op.artifactId 1000 0).bind fun ops => f opId before ops).run w =
        (f (w.operations.seq + 1) before
          ((w.log op.artifactId ++ [w.operations.next op]).take 1000)).run w' := by
  obtain ⟨w₁, htouch, hops₁⟩ := touchReview_run op.artifactId existing sourceLink ts w
  obtain ⟨before, w₂, hcount, hops₂⟩ := countMatchingIdempotency_run op.artifactId key w₁
  have hsame : w₂.operations = w.operations := hops₂.trans hops₁
  have hfresh : ∀ k, op.idempotencyKey = some k → findByKey k (w₂.log op.artifactId) = none := by
    intro k hk
    rw [World.log, hsame]
    exact h k (hkey.symm.trans hk)
  obtain ⟨w₃, happend, hops₃⟩ := appendOnce_run hfresh
  refine ⟨before, (Stmt.selectOperations .page op.artifactId).effect w₃, ?_⟩
  rw [Program.run_bind_ok htouch, Program.run_bind_ok hcount, Program.run_bind_ok happend]
  have hrefused : w.operations.insertRefused op = false := by
    rw [← hsame]
    exact not_refused_of_fresh hfresh
  have hlog : w₃.log op.artifactId = w.log op.artifactId ++ [w.operations.next op] := by
    rw [World.log, hops₃, hsame]
    exact OperationTable.operations_insert hrefused
  change (f _ before ((w₃.log op.artifactId).take 1000)).run _ = _
  rw [hlog, hsame]
  rfl

theorem find?_appended (w : World) (artifactId : String) (op : NewOp) :
    ((w.log artifactId ++ [w.operations.next op]).take 1000).find? (·.opId = w.operations.seq + 1) =
      if (w.log artifactId).length < 1000 then some (w.operations.next op) else none := by
  have hnone : (w.log artifactId).find? (·.opId = w.operations.seq + 1) = none := by
    rw [List.find?_eq_none]
    intro old hold
    have hbound := w.operations.bound old (OperationTable.mem_operations.mp hold).1
    simp only [decide_eq_true_eq]
    omega
  split
  · next hlt =>
    rw [List.take_of_length_le (by simp; omega), List.find?_append, hnone]
    simp [OperationTable.next]
  · next hge =>
    rw [List.take_append_of_le_length (by omega), List.find?_eq_none]
    rw [List.find?_eq_none] at hnone
    intro old hold
    exact hnone old (List.mem_of_mem_take hold)

def TimelineWrite.op (write : TimelineWrite) (artifactId : String) (w : World) : NewOp where
  artifactId := artifactId
  opType := write.opType
  actor := actorOrDefault write.actor
  ts := w.env.clock w.step
  payload := some write.payload
  sourceLink := ReviewWrite.link write.sourceLink (w.reviews.get? artifactId)
  idempotencyKey := normalizedKey write.idempotencyKey

def RecordsTimeline (w : World) (artifactId : String) (write : TimelineWrite) : Prop :=
  IsFresh w artifactId write.idempotencyKey → ∃ idempotent w',
    (writeTimeline artifactId write).run w =
      (.ok ⟨timelineEventFromOperation (w.operations.next (write.op artifactId w)),
        w.operations.seq + 1, idempotent⟩, w')

def RecordsSuggestion (w : World) (artifactId : String) (input : SuggestionCreateInput)
    (opts : WriteOptions) : Prop :=
  IsFresh w artifactId opts.idempotencyKey → ∃ suggestion idempotent w',
    (createSuggestion artifactId input opts).run w =
      (.ok ⟨suggestion, w.operations.seq + 1, idempotent⟩, w') ∧
      suggestion.suggestionId = w.env.mintSuggestionId (w.step + 1)

theorem writeTimeline_run {write : TimelineWrite} (h : IsFresh w artifactId write.idempotencyKey) :
    ∃ before w', (writeTimeline artifactId write).run w =
      (recordedEvent write.what (w.operations.seq + 1) before
        ((w.log artifactId ++ [w.operations.next (write.op artifactId w)]).take 1000)).run w' :=
  recorded_run ((Stmt.getReviewState artifactId).effect (Stmt.now.effect w))
    (write.op artifactId w) rfl h (w.reviews.get? artifactId) write.sourceLink
    (w.env.clock w.step) (recordedEvent write.what)

theorem recordsTimeline (h : (w.log artifactId).length < 1000)
    (write : TimelineWrite) : RecordsTimeline w artifactId write := by
  intro hfresh
  obtain ⟨before, w', hrun⟩ := writeTimeline_run hfresh
  have hfound := find?_appended w artifactId (write.op artifactId w)
  rw [if_pos h] at hfound
  refine ⟨decide (0 < before), w', ?_⟩
  rw [hrun, recordedEvent, hfound]
  rfl

theorem not_recordsTimeline (h : ¬ (w.log artifactId).length < 1000)
    {write : TimelineWrite} (hfresh : IsFresh w artifactId write.idempotencyKey) :
    ¬ RecordsTimeline w artifactId write := by
  intro hrecords
  obtain ⟨before, w', hrun⟩ := writeTimeline_run hfresh
  obtain ⟨idempotent, w'', hok⟩ := hrecords hfresh
  have hfound := find?_appended w artifactId (write.op artifactId w)
  rw [if_neg h] at hfound
  rw [hrun, recordedEvent, hfound] at hok
  cases hok

def SuggestionCreateInput.op (input : SuggestionCreateInput) (artifactId : String)
    (opts : WriteOptions) (w : World) : NewOp where
  artifactId := artifactId
  opType := .suggestion
  actor := input.author
  ts := w.env.clock w.step
  payload := some (buildSuggestionCreatePayload (w.env.mintSuggestionId (w.step + 1)) input)
  sourceLink := (ReviewWrite.link opts.sourceLink (w.reviews.get? artifactId)).or
    (some "manager:/artifacts/suggestions")
  idempotencyKey := normalizedKey opts.idempotencyKey

theorem createSuggestion_run (input : SuggestionCreateInput) {opts : WriteOptions}
    (h : IsFresh w artifactId opts.idempotencyKey) :
    ∃ before w', (createSuggestion artifactId input opts).run w =
      (createdSuggestion artifactId (w.env.mintSuggestionId (w.step + 1))
        (w.operations.seq + 1) before
        ((w.log artifactId ++ [w.operations.next (input.op artifactId opts w)]).take 1000)).run
        w' :=
  recorded_run
    ((Stmt.getReviewState artifactId).effect (Stmt.mintSuggestionId.effect (Stmt.now.effect w)))
    (input.op artifactId opts w) rfl h (w.reviews.get? artifactId) opts.sourceLink
    (w.env.clock w.step)
    (createdSuggestion artifactId (w.env.mintSuggestionId (w.step + 1)))

theorem reconstructSuggestion_id (h : reconstructSuggestion ops artifactId suggestionId =
    some record) : record.suggestionId = suggestionId := by
  have hadvance (ops : List ArtifactOp) (record : SuggestionRecord) :
      (ops.foldl SuggestionRecord.advance record).suggestionId = record.suggestionId := by
    induction ops generalizing record with
    | nil => rfl
    | cons op ops ih =>
      rw [List.foldl_cons, ih, SuggestionRecord.advance]
      split <;> rfl
  obtain ⟨create, _, rfl⟩ := Option.map_eq_some_iff.mp h
  exact hadvance _ _

theorem recordsSuggestion (h : (w.log artifactId).length < 1000)
    (input : SuggestionCreateInput) (opts : WriteOptions) :
    RecordsSuggestion w artifactId input opts := by
  intro hfresh
  obtain ⟨before, w', hrun⟩ := createSuggestion_run input hfresh
  have hfound := find?_appended w artifactId (input.op artifactId opts w)
  rw [if_pos h] at hfound
  have hnew : (w.operations.next (input.op artifactId opts w)).payload = some
      (buildSuggestionCreatePayload (w.env.mintSuggestionId (w.step + 1)) input) := rfl
  have hfield : (w.operations.next (input.op artifactId opts w)).field "suggestion_id" =
      some (w.env.mintSuggestionId (w.step + 1)) := by
    simp [ArtifactOp.field, hnew, buildSuggestionCreatePayload, Json.strField?, Json.field?]
  have hsorted := (w.operations.operations_next_sorted artifactId
    (input.op artifactId opts w)).sublist (List.take_sublist 1000 _)
  have hread := (reconstructSuggestion_isSome hsorted artifactId
    (w.env.mintSuggestionId (w.step + 1))).mpr
      ⟨_, List.mem_of_find?_eq_some hfound, isAbout_create _ input _ rfl hnew⟩
  obtain ⟨suggestion, hsuggestion⟩ := Option.isSome_iff_exists.mp hread
  refine ⟨suggestion, decide (0 < before), w', ?_, reconstructSuggestion_id hsuggestion⟩
  rw [hrun, createdSuggestion, hfound]
  have hresolved : ((some (w.operations.next (input.op artifactId opts w))).bind
      (·.field "suggestion_id")).getD (w.env.mintSuggestionId (w.step + 1)) =
      w.env.mintSuggestionId (w.step + 1) := by
    rw [Option.bind_some, hfield, Option.getD_some]
  rw [hresolved]
  have hlog : w.log artifactId = w.operations.operations artifactId := rfl
  rw [hlog, hsuggestion]
  rfl

structure Complete (w : World) (artifactId : String) (limit offset : Nat) : Prop where
  edit : latestOp .edit (page (w.log artifactId) 500 0) =
    newest (·.opType = .edit) (w.log artifactId)
  feedback : ∀ op ∈ page (w.log artifactId) limit offset, op.opType = .commentRecorded →
    shownRouting (page (w.log artifactId) limit offset) op =
      newest (routedSource · = some (toString op.opId)) (w.log artifactId)
  comment : (reviewSummary (w.log artifactId)).latestComment =
    (commentsOf (w.log artifactId)).getLast?
  timeline : (reviewSummary (w.log artifactId)).latestTimelineEvent =
    ((w.log artifactId).map timelineEventFromOperation).getLast?
  suggestedChange : ∀ req : SuggestedChangeRequest, RecordsTimeline w artifactId req.write
  followUp : ∀ req : DispatchFollowUpRequest, RecordsTimeline w artifactId req.write
  suggestion : ∀ input opts, RecordsSuggestion w artifactId input opts

structure WithinPages (w : World) (artifactId : String) (limit offset : Nat) : Prop where
  edit : ∀ op ∈ (w.log artifactId).drop 500, op.opType ≠ .edit
  feedback : ∀ op ∈ page (w.log artifactId) limit offset, op.opType = .commentRecorded →
    (page (w.log artifactId) limit offset).filter (routedSource · = some (toString op.opId)) =
      (newest (routedSource · = some (toString op.opId)) (w.log artifactId)).toList
  comment : ∀ op ∈ (w.log artifactId).drop 50, op.opType ≠ .commentRecorded
  timeline : (w.log artifactId).length ≤ 50
  writes : (w.log artifactId).length < 1000

theorem edit_iff (w : World) (artifactId : String) :
    latestOp .edit (page (w.log artifactId) 500 0) = newest (·.opType = .edit) (w.log artifactId) ↔
      ∀ op ∈ (w.log artifactId).drop 500, op.opType ≠ .edit := by
  have hsorted := w.log_sorted artifactId
  rw [page_zero, latestOp_eq (hsorted.sublist (List.take_sublist 500 _))]
  simpa using newest_take hsorted (·.opType = .edit) 500

theorem feedback_iff (w : World) (artifactId : String) (limit offset : Nat) (op : ArtifactOp) :
    shownRouting (page (w.log artifactId) limit offset) op =
        newest (routedSource · = some (toString op.opId)) (w.log artifactId) ↔
      (page (w.log artifactId) limit offset).filter (routedSource · = some (toString op.opId)) =
        (newest (routedSource · = some (toString op.opId)) (w.log artifactId)).toList := by
  rw [shownRouting, routingBySource_get?]
  have hpage : (page (w.log artifactId) limit offset).Sublist (w.log artifactId) :=
    (List.take_sublist _ _).trans (List.drop_sublist _ _)
  exact find?_eq_newest (w.log_sorted artifactId) hpage _

theorem newest_map_take (h : log.Pairwise (·.opId < ·.opId))
    (p : ArtifactOp → Bool) (limit : Nat) {f : ArtifactOp → α} {g : α → Nat}
    (hf : ∀ op, g (f op) = op.opId) :
    (((log.take limit).filter p).map f).getLast? = ((log.filter p).map f).getLast? ↔
      ∀ op ∈ log.drop limit, p op = false := by
  rw [List.getLast?_map, List.getLast?_map, ← newest_take h]
  constructor
  · intro hmap
    have hids := congrArg (Option.map g) hmap
    rw [Option.map_map, Option.map_map] at hids
    have hid : g ∘ f = ArtifactOp.opId := funext hf
    rw [hid] at hids
    cases hearly : newest p (log.take limit) with
    | none =>
      rw [newest] at hearly
      rw [hearly, Option.map_none, eq_comm, Option.map_eq_none_iff] at hids
      exact hids.symm
    | some op =>
      rw [newest] at hearly
      rw [hearly, Option.map_some, eq_comm, Option.map_eq_some_iff] at hids
      obtain ⟨last, hlast, heq⟩ := hids
      have hop : op ∈ log :=
        List.mem_of_mem_take (List.mem_of_mem_filter (List.mem_of_getLast? hearly))
      have hlast' : last ∈ log := List.mem_of_mem_filter (List.mem_of_getLast? hlast)
      have hinj : last = op := eq_of_opId h hlast' hop heq
      rw [newest, hlast, hinj]
  · intro hsame
    rw [newest, newest] at hsame
    rw [hsame]

theorem comment_iff (w : World) (artifactId : String) :
    (reviewSummary (w.log artifactId)).latestComment = (commentsOf (w.log artifactId)).getLast? ↔
      ∀ op ∈ (w.log artifactId).drop 50, op.opType ≠ .commentRecorded := by
  have hmap := newest_map_take (w.log_sorted artifactId) (·.opType = .commentRecorded) 50
    (f := (·.comment)) (g := (·.opId)) fun _ => rfl
  simpa [reviewSummary, commentsOf, page_zero] using hmap

theorem timeline_iff (w : World) (artifactId : String) :
    (reviewSummary (w.log artifactId)).latestTimelineEvent =
      ((w.log artifactId).map timelineEventFromOperation).getLast? ↔
      (w.log artifactId).length ≤ 50 := by
  have hmap := newest_map_take (w.log_sorted artifactId) (fun _ => true) 50
    (f := timelineEventFromOperation) (g := (·.opId)) fun _ => rfl
  have hnil : (∀ op ∈ (w.log artifactId).drop 50, true = false) ↔
      (w.log artifactId).length ≤ 50 := by
    rw [← List.drop_eq_nil_iff, List.eq_nil_iff_forall_not_mem]
    simp
  rw [← hnil, ← hmap]
  simp [reviewSummary, page_zero]

/-- For every log, the views and the writes are complete exactly when what they look for lies within
their pages. -/
theorem complete_iff (w : World) (artifactId : String) (limit offset : Nat) :
    Complete w artifactId limit offset ↔ WithinPages w artifactId limit offset := by
  constructor
  · intro h
    have hwrites : (w.log artifactId).length < 1000 := by
      by_contra hlong
      have hrequest := h.suggestedChange { actor := "", body := "" }
      have hfresh : IsFresh w artifactId none := by
        intro k hk
        cases hk
      exact not_recordsTimeline hlong hfresh hrequest
    exact {
      edit := (edit_iff w artifactId).mp h.edit
      feedback := fun op hop hcomment =>
        (feedback_iff w artifactId limit offset op).mp (h.feedback op hop hcomment)
      comment := (comment_iff w artifactId).mp h.comment
      timeline := (timeline_iff w artifactId).mp h.timeline
      writes := hwrites }
  · intro h
    exact {
      edit := (edit_iff w artifactId).mpr h.edit
      feedback := fun op hop hcomment =>
        (feedback_iff w artifactId limit offset op).mpr (h.feedback op hop hcomment)
      comment := (comment_iff w artifactId).mpr h.comment
      timeline := (timeline_iff w artifactId).mpr h.timeline
      suggestedChange := fun req => recordsTimeline h.writes req.write
      followUp := fun req => recordsTimeline h.writes req.write
      suggestion := recordsSuggestion h.writes }

def routedTwice : World where
  reviews := .empty
  operations :=
    let op (opType : ArtifactOpType) (payload : List (String × Json)) : NewOp := {
      artifactId := "art"
      opType := opType
      actor := "user:chris"
      ts := "2026-01-01T00:00:00.000Z"
      payload := some (.obj payload)
      sourceLink := none
      idempotencyKey := none }
    let routed (phid : String) : NewOp := op .commentRouted
      [("source_op_id", natJson 1), ("dispatch_phid", .str phid), ("to_agent", .str "roger")]
    ((OperationTable.empty.insert (op .commentRecorded [("body", .str "fix the title")])).insert
      (routed "phid:disp-1")).insert (routed "phid:disp-2")
  drafts := .empty
  step := 0
  env := {
    clock := toString
    mintSuggestionId := toString
    send := fun _ _ _ => .error "offline"
    fileBody := fun _ _ => ""
    routeComment := fun _ _ => none }

/-- The feedback shows the comment with the first dispatch. -/
theorem not_complete : ¬ Complete routedTwice "art" 200 0 := by
  intro h
  have hold : ((page (routedTwice.log "art") 200 0).find? fun op =>
      op.opType = .commentRecorded &&
        (shownRouting (page (routedTwice.log "art") 200 0) op).map (·.opId) ≠
          (newest (routedSource · = some (toString op.opId)) (routedTwice.log "art")).map
            (·.opId)).isSome := by decide +kernel
  obtain ⟨op, hop⟩ := Option.isSome_iff_exists.mp hold
  have hshown := List.find?_some hop
  simp only [Bool.and_eq_true, decide_eq_true_eq] at hshown
  apply hshown.2
  rw [h.feedback op (List.mem_of_find?_eq_some hop) hshown.1]

end IdAgents.Outputs
