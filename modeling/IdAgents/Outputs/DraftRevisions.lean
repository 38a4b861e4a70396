import Mathlib.Data.Finset.Card
import IdAgents.Library.Rely
import IdAgents.Outputs.Completeness
import IdAgents.Outputs.Review

namespace IdAgents.Outputs
open JsText JsMap AtomicProgram List

/-- `typeof v === "string" && v.length > 0 ? v : undefined` -/
def asString (name : String) (body : Json) : Option String :=
  (body.strField? name).filter (· ≠ "")

def CaneDraftPayload.requested (draftId : String) (body : Json) : CaneDraftPayload where
  draftId := draftId
  bodyMarkdown := (body.strField? "body_markdown").getD ""
  revisionHistory := []

def CaneDraftPayload.registered (payload : CaneDraftPayload)
    (existing : Option CaneDraftPayload) : CaneDraftPayload :=
  { payload with
    revisionHistory := existing.elim payload.revisionHistory (·.revisionHistory) }

inductive RegisterResponse where
  | badRequest (error : String)
  | ok (artifactId : String) (payload : CaneDraftPayload)

def registerRead (artifactId : String) (payload : CaneDraftPayload)
    (existing : Option CaneDraftPayload) : Prog RegisterResponse :=
  .issue (.putArtifactDraft artifactId (payload.registered existing)) fun _ =>
    .ret (.ok artifactId (payload.registered existing))

/-- `POST /drafts` with the drafts enabled. No request here reads the catalog row that it also
writes. -/
def registerDraft (artifactIdFromPath : String → String) (body : Json) : Prog RegisterResponse :=
  match asString "draft_id" body with
  | none => .ret (.badRequest "draft_id \"cane:draft:<pending_id>\" is required")
  | some draftId =>
    if ¬ draftId.startsWith "cane:draft:" then
      .ret (.badRequest "draft_id \"cane:draft:<pending_id>\" is required")
    else if body.strField? "send_recommendation" ≠ some "needs_approval" then
      .ret (.badRequest "only send_recommendation=\"needs_approval\" drafts are registered")
    else
      let artifactId := artifactIdFromPath draftId
      now.bind fun _ =>
      .issue (.getArtifactDraft artifactId)
        (registerRead artifactId (.requested draftId body))

inductive DraftCall where
  | register (body : Json)
  | revise (bodyMarkdown actor : String)
  | ship (req : ShipRequest)

def DraftCall.body : DraftCall → Option String
  | revise bodyMarkdown _ => some bodyMarkdown
  | register _ | ship _ => none

def DraftCall.prog (artifactIdFromPath : String → String) (artifactId : String) :
    DraftCall → Prog Unit
  | register body => (registerDraft artifactIdFromPath body).bind fun _ => .ret ()
  | revise bodyMarkdown actor => (reviseDraft artifactId bodyMarkdown actor).bind fun _ => .ret ()
  | ship req => (shipRoute artifactId req).bind fun _ => .ret ()

def revisions (log : List ArtifactOp) : List ArtifactOp := log.filter (·.opType = .reviseDraft)

def NewOp.body? (op : NewOp) : Option String := op.payload.bind (·.strField? "body_markdown")

def World.Agrees (w : World) (artifactId : String) : Prop :=
  ∃ draft, w.drafts.get? artifactId = some draft ∧
    draft.revisionHistory.length = (revisions (w.log artifactId)).length ∧
    ∀ op, latestOp .reviseDraft (w.log artifactId) = some op →
      op.body? = some draft.bodyMarkdown

structure DraftRun where
  artifactIdFromPath : String → String
  artifactId : String
  calls : List DraftCall
  schedule : List Nat
  start : World
  agrees : start.Agrees artifactId
  texts : ∀ op ∈ revisions (start.log artifactId), op.body?.isSome

def stores (e : Event sql World) : Bool :=
  match e.stmt with
  | .putArtifactDraft .. => true
  | _ => false

namespace DraftRun
section
variable (run : DraftRun)

def threads : List (Prog Unit) :=
  run.calls.map (DraftCall.prog run.artifactIdFromPath run.artifactId)

def events : List (Nat × Event sql World) :=
  interleaveEvents run.schedule run.threads run.start

/-- What the threads have become after `n` steps of the schedule, and the world. -/
def after (n : Nat) : List (Prog Unit) × World :=
  interleave (run.schedule.take n) run.threads run.start

def Quiet (n : Nat) : Prop :=
  ∀ (i : Nat) (p : Prog Unit), (run.after n).1[i]? = some p → p.ended ∨
    ∀ e ∈ eventsOf i (interleaveEvents (run.schedule.take n) run.threads run.start),
      stores e = false

def Kept : Prop :=
  (∀ n, run.Quiet n → (run.after n).2.Agrees run.artifactId) ∧
    ∀ i existing payload body w, (i, ⟨.send existing payload body, w⟩) ∈ run.events →
      ∀ op, latestOp .reviseDraft (w.log run.artifactId) = some op → op.body? = some body

end

end DraftRun

/-- The body that a request brings as a revision, the draft and the page of operations that it has
read, whether its draft is stored and its operation is not logged, and whether it was refused the
review row. -/
structure DraftSight where
  body : Option String
  read : Option CaneDraftPayload := none
  ops : List ArtifactOp := []
  half : Bool := false
  refused : Bool := false

namespace DraftSight

def see (g : DraftSight) : (c : Stmt) → c.Ans → DraftSight
  | .getArtifactDraft _, draft => { g with read := draft }
  | .selectOperations .page _, ops => { g with ops := page ops 500 0 }
  | .putArtifactDraft .., _ => { g with half := g.body.isSome, refused := false }
  | .insertOperation op, _ => { g with half := g.half && op.opType ≠ .reviseDraft }
  | .insertReview .., .error _ => { g with refused := true }
  | _, _ => g

def due (artifactId : String) (g : DraftSight) : Stmt → Prop
  | .putArtifactDraft target payload =>
    payload.revisionHistory.length =
        g.read.elim 0 (·.revisionHistory.length) + (if g.body.isSome then 1 else 0) ∧
      ∀ body, g.body = some body →
        payload.bodyMarkdown = body ∧ target = artifactId ∧ g.half = false
  | .insertOperation op => op.opType = .reviseDraft →
    g.half = true ∧ op.artifactId = artifactId ∧ op.idempotencyKey = none ∧ op.body? = g.body
  | .send _ payload body => body = latestDraftBody payload g.ops
  | .selectOperations .page target => target = artifactId
  | .updatePayload .. => False
  | _ => True

def Done (g : DraftSight) : Prop := g.half = false ∨ g.refused = true

end DraftSight

def draftScript (artifactId : String) : Script sql DraftSight :=
  ⟨DraftSight.see, DraftSight.due artifactId⟩

/-- A statement of a request that revises nothing: it stores no draft, logs no revision, reads no
page, and sends what the operations in `ops` leave. -/
def Stmt.Ships (ops : List ArtifactOp) : Stmt → Prop
  | putArtifactDraft .. | updatePayload .. | getArtifactDraft _ | selectOperations .page _ => False
  | insertOperation op => op.opType ≠ .reviseDraft
  | send _ payload body => body = latestDraftBody payload ops
  | _ => True

variable (ops : List ArtifactOp)

theorem appendOperation_ships (artifactId : String) (h : opType ≠ .reviseDraft)
    (actor nowIso : String) (payload : Option Json) (sourceLink : Option String) :
    (appendOperation artifactId opType actor nowIso payload sourceLink none).Meets
      (Stmt.Ships ops) fun _ => True := by
  have hwrite : (insertOperation ⟨artifactId, opType, actor, nowIso, payload, sourceLink,
      none⟩).Meets (Stmt.Ships ops) fun _ => True :=
    ⟨h, orThrow_meets trivial⟩
  apply hwrite.bind
  intro _ _
  exact ⟨trivial, fun _ => trivial⟩

theorem stamped_ships (write : ReviewWrite) (artifactId ts : String) (h : opType ≠ .reviseDraft)
    (actor : String) (payload : Option Json) (f : Nat → ShipResponse) :
    ((upsertReviewState artifactId write ts).bind fun state =>
      (appendOperation artifactId opType actor ts payload state.sourceLink none).bind fun opId =>
        .ret (f opId)).Meets (Stmt.Ships ops) fun _ => True := by
  apply (upsertReviewState_meets trivial (fun _ => trivial) (fun _ _ => trivial) ts).bind
  intro state _
  apply (appendOperation_ships ops artifactId h ..).bind
  intro _ _
  trivial

theorem recordBlocked_ships (artifactId shipper ts : String)
    (existing : Option ReviewState) (sourceLink : Option String) (blockers : List String)
    (detail : String × Json) :
    (recordBlocked artifactId shipper ts existing sourceLink blockers detail).Meets
      (Stmt.Ships ops) fun _ => True :=
  stamped_ships ops _ artifactId ts (by decide) ..

theorem recordShipped_ships (artifactId shipper ts shippedAt : String)
    (existing : Option ReviewState) (sourceLink : Option String) (payload : List (String × Json)) :
    (recordShipped artifactId shipper ts shippedAt existing sourceLink payload).Meets
      (Stmt.Ships ops) fun _ => True :=
  stamped_ships ops _ artifactId ts (by decide) ..

theorem recordSend_ships (artifactId shipper ts : String)
    (existing : Option ReviewState) (sourceLink : Option String) (result : CaneSendResult) :
    (recordSend artifactId shipper ts existing sourceLink result).Meets (Stmt.Ships ops)
      fun _ => True := by
  rw [recordSend]
  split
  · split
    · exact recordShipped_ships ..
    · exact recordBlocked_ships ..
  · exact recordBlocked_ships ..

theorem sendDraft_ships (artifactId shipper ts : String) (existing : Option ReviewState)
    (sourceLink : Option String) (draft : CaneDraftShipContext) :
    (sendDraft artifactId shipper ts existing sourceLink draft).Meets (Stmt.Ships draft.ops)
      fun _ => True := by
  have hsent (sent : Except String CaneSendResult) : (Program.bind (orError sent)
      (recordSend artifactId shipper ts existing sourceLink)).Meets (Stmt.Ships draft.ops)
      fun _ => True := by
    cases sent with
    | error e => trivial
    | ok result => exact recordSend_ships ..
  exact ⟨rfl, hsent⟩

theorem shipArtifact_ships (artifactId : String) (req : ShipRequest)
    (h : ∀ draft, caneDraft = some draft → draft.ops = ops) :
    (shipArtifact artifactId req caneDraft).Meets (Stmt.Ships ops) fun _ => True := by
  have hread (ts : String) (existing : Option ReviewState) :
      (shipRead artifactId req caneDraft ts existing).Meets (Stmt.Ships ops) fun _ => True := by
    dsimp only [shipRead]
    split
    · exact recordBlocked_ships ..
    · cases caneDraft with
      | some draft =>
        rw [← h draft rfl]
        exact sendDraft_ships ..
      | none => exact recordShipped_ships ..
  exact ⟨trivial, fun ts => ⟨trivial, hread ts⟩⟩

section Script
variable {artifactId : String} {g : DraftSight}

theorem keeps_of_ships {p : Prog α} {ops : List ArtifactOp}
    (h : p.Meets (Stmt.Ships ops) fun _ => True) (hbody : g.body = none) (hhalf : g.half = false)
    (hops : g.ops = ops) : p.keeps (draftScript artifactId) (fun _ g' => g'.half = false) g := by
  have hkeeps := Program.Meets.keeps (m := draftScript artifactId)
    (J := fun g' => g'.body = none ∧ g'.half = false ∧ g'.ops = ops) h ⟨hbody, hhalf, hops⟩
    (fun g' c hg hc => by
      obtain ⟨hbody, hhalf, hops⟩ := hg
      cases c with
      | putArtifactDraft _ _ => exact hc.elim
      | updatePayload _ _ _ => exact hc.elim
      | getArtifactDraft _ => exact hc.elim
      | insertOperation op =>
        refine ⟨fun htype => absurd htype hc, fun _ => ⟨hbody, ?_, hops⟩⟩
        change (g'.half && _) = false
        rw [hhalf, Bool.false_and]
      | send existing payload body =>
        refine ⟨?_, fun _ => ⟨hbody, hhalf, hops⟩⟩
        change body = latestDraftBody payload g'.ops
        rw [hops]
        exact hc
      | selectOperations query target =>
        cases query with
        | page => exact hc.elim
        | _ => exact ⟨trivial, fun _ => ⟨hbody, hhalf, hops⟩⟩
      | insertReview target write nowIso =>
        refine ⟨trivial, fun written => ?_⟩
        cases written <;> exact ⟨hbody, hhalf, hops⟩
      | _ => exact ⟨trivial, fun _ => ⟨hbody, hhalf, hops⟩⟩)
  exact Program.keeps_mono hkeeps fun _ _ hdone => hdone.1.2.1

theorem shipRoute_keeps (artifactId : String) (req : ShipRequest) :
    (shipRoute artifactId req).keeps (draftScript artifactId) (fun _ g => g.half = false)
      { body := none } := by
  refine ⟨trivial, fun draft => ?_⟩
  cases draft with
  | none =>
    apply keeps_of_ships (shipArtifact_ships [] artifactId req _) rfl rfl rfl
    intro draft hdraft
    cases hdraft
  | some payload =>
    refine ⟨rfl, fun ops => ?_⟩
    apply keeps_of_ships (shipArtifact_ships (page ops 500 0) artifactId req _) rfl rfl rfl
    intro draft hdraft
    cases hdraft
    rfl

theorem registerDraft_keeps (artifactIdFromPath : String → String) (artifactId : String)
    (body : Json) : (registerDraft artifactIdFromPath body).keeps (draftScript artifactId)
      (fun _ g => g.half = false) { body := none } := by
  rw [registerDraft]
  split
  · rfl
  · next draftId _ =>
    split
    · rfl
    · split
      · rfl
      · refine ⟨trivial, fun _ => ⟨trivial, fun existing => ⟨⟨?_, fun body hbody => ?_⟩,
          fun _ => rfl⟩⟩⟩
        · cases existing <;> rfl
        · cases hbody

theorem touchRevised_keeps (target : String) (existing : Option ReviewState)
    (sourceLink : Option String) (ts : String) :
    (touchReview target existing sourceLink ts).keeps (draftScript artifactId)
      (fun r g' => (∃ e, r = .error e ∧ g'.refused = true) ∨ ∃ a, r = .ok a ∧ g' = g) g := by
  refine ⟨trivial, fun row => ?_⟩
  cases row with
  | none =>
    refine ⟨trivial, fun written => ?_⟩
    cases written with
    | ok _ => exact .inr ⟨(), rfl, rfl⟩
    | error e => exact .inl ⟨e, rfl, rfl⟩
  | some row => exact ⟨trivial, fun _ => .inr ⟨(), rfl, rfl⟩⟩

theorem logRevision_keeps (actor ts : String) (fields : List (String × Json))
    (sourceLink : Option String) (hhalf : g.half = true)
    (hbody : g.body = (Json.obj fields).strField? "body_markdown") :
    (appendOperation artifactId .reviseDraft actor ts (some (.obj fields)) sourceLink none).keeps
      (draftScript artifactId) (fun _ g' => g'.half = false) g := by
  have hunset : (g.half && decide (ArtifactOpType.reviseDraft ≠ .reviseDraft)) = false := by
    rw [hhalf]
    rfl
  refine ⟨fun _ => ⟨hhalf, rfl, rfl, hbody.symm⟩, fun written => ?_⟩
  cases written with
  | ok _ => exact ⟨trivial, fun _ => hunset⟩
  | error e => exact hunset

theorem reviseDraft_keeps (artifactId bodyMarkdown actor : String) :
    (reviseDraft artifactId bodyMarkdown actor).keeps (draftScript artifactId)
      (fun _ g => g.Done) { body := some bodyMarkdown } := by
  refine ⟨trivial, fun ts => ⟨trivial, fun draft => ?_⟩⟩
  cases draft with
  | none => exact .inl rfl
  | some payload =>
    refine ⟨⟨?_, fun body hbody => ?_⟩, fun _ => ⟨trivial, fun existing => ?_⟩⟩
    · simp [revised, draftScript, DraftSight.see]
    · cases hbody
      exact ⟨rfl, rfl, rfl⟩
    · apply Program.keeps_seq (touchRevised_keeps ..)
      · intro _ g' hdone
        obtain ⟨_, hr, _⟩ | ⟨_, _, rfl⟩ := hdone
        · cases hr
        · exact Program.keeps_mono (logRevision_keeps _ _ _ _ rfl rfl) fun _ _ h => .inl h
      · intro e g' hdone
        obtain ⟨_, _, hrefused⟩ | ⟨_, hr, _⟩ := hdone
        · exact .inr hrefused
        · cases hr

theorem DraftCall.keeps (artifactIdFromPath : String → String) (artifactId : String)
    (call : DraftCall) : (call.prog artifactIdFromPath artifactId).keeps (draftScript artifactId)
      (fun _ g => g.Done) { body := call.body } := by
  have hdone {α : Type} {p : Prog α} {g : DraftSight}
      (hp : p.keeps (draftScript artifactId) (fun _ g => g.Done) g) :
      (p.bind fun _ => Program.ret ()).keeps (draftScript artifactId) (fun _ g => g.Done) g :=
    Program.keeps_seq hp (fun _ _ h => h) fun _ _ h => h
  cases call with
  | register body =>
    apply hdone
    exact Program.keeps_mono (registerDraft_keeps artifactIdFromPath artifactId body)
      fun _ _ h => .inl h
  | revise bodyMarkdown actor => exact hdone (reviseDraft_keeps artifactId bodyMarkdown actor)
  | ship req =>
    apply hdone
    exact Program.keeps_mono (shipRoute_keeps artifactId req) fun _ _ h => .inl h

end Script

theorem latestOp_cases (opType : ArtifactOpType) (ops : List ArtifactOp) :
    (latestOp opType ops = none ∧ ∀ x ∈ ops, x.opType ≠ opType) ∨
      ∃ last ∈ ops, latestOp opType ops = some last ∧ last.opType = opType ∧
        ∀ x ∈ ops, x.opType = opType → x.opId ≤ last.opId := by
  induction ops using reverseRecOn with
  | nil => exact .inl ⟨rfl, fun x hx => by cases hx⟩
  | append_singleton ops x ih =>
    have hstep : latestOp opType (ops ++ [x]) =
        if x.opType = opType && (latestOp opType ops).all (·.opId < x.opId) then some x
        else latestOp opType ops := by
      simp [latestOp, foldl_append]
    have hx : x ∈ ops ++ [x] := mem_append_right _ (mem_singleton_self x)
    by_cases htype : x.opType = opType
    · right
      obtain ⟨hnone, hother⟩ | ⟨last, hlast, hsome, hlastType, hmax⟩ := ih
      · refine ⟨x, hx, ?_, htype, fun y hy hyType => ?_⟩
        · rw [hstep, hnone]
          simp [htype]
        · rw [mem_append, mem_singleton] at hy
          obtain hy | rfl := hy
          · exact absurd hyType (hother y hy)
          · exact Nat.le_refl _
      · by_cases hlt : last.opId < x.opId
        · refine ⟨x, hx, ?_, htype, fun y hy hyType => ?_⟩
          · rw [hstep, hsome]
            simp [htype, hlt]
          · rw [mem_append, mem_singleton] at hy
            obtain hy | rfl := hy
            · exact Nat.le_trans (hmax y hy hyType) (Nat.le_of_lt hlt)
            · exact Nat.le_refl _
        · refine ⟨last, mem_append_left _ hlast, ?_, hlastType, fun y hy hyType => ?_⟩
          · rw [hstep, hsome]
            simp [hlt]
          · rw [mem_append, mem_singleton] at hy
            obtain hy | rfl := hy
            · exact hmax y hy hyType
            · exact Nat.le_of_not_lt hlt
    · have hskip : latestOp opType (ops ++ [x]) = latestOp opType ops := by
        rw [hstep]
        simp [htype]
      rw [hskip]
      obtain ⟨hnone, hother⟩ | ⟨last, hlast, hsome, hlastType, hmax⟩ := ih
      · refine .inl ⟨hnone, fun y hy => ?_⟩
        rw [mem_append, mem_singleton] at hy
        obtain hy | rfl := hy
        · exact hother y hy
        · exact htype
      · refine .inr ⟨last, mem_append_left _ hlast, hsome, hlastType, fun y hy hyType => ?_⟩
        rw [mem_append, mem_singleton] at hy
        obtain hy | rfl := hy
        · exact hmax y hy hyType
        · exact absurd hyType htype

theorem latest_of_mem {w : World} {ops : List ArtifactOp}
    (hsub : ∀ op ∈ ops, op ∈ w.log artifactId) (hmem : op ∈ ops)
    (hlatest : latestOp .reviseDraft (w.log artifactId) = some op) :
    latestOp .reviseDraft ops = some op := by
  obtain ⟨hnone, _⟩ | ⟨last, hlast, hsome, htype, hmax⟩ :=
    latestOp_cases .reviseDraft (w.log artifactId)
  · rw [hnone] at hlatest
    cases hlatest
  · obtain rfl : last = op := Option.some.inj (hsome.symm.trans hlatest)
    obtain ⟨_, hother⟩ | ⟨seen, hseen, hshown, hseenType, hseenMax⟩ :=
      latestOp_cases .reviseDraft ops
    · exact absurd htype (hother last hmem)
    · have hid : seen.opId = last.opId :=
        Nat.le_antisymm (hmax seen (hsub seen hseen) hseenType) (hseenMax last hmem htype)
      rw [hshown, eq_of_opId (w.log_sorted artifactId) (hsub seen hseen) hlast hid]

theorem revisions_insert_ne (h : op.opType ≠ .reviseDraft) (t : OperationTable)
    (artifactId : String) :
    revisions ((t.insert op).operations artifactId) = revisions (t.operations artifactId) := by
  cases hrefused : t.insertRefused op with
  | true => rw [OperationTable.insert_of_refused hrefused]
  | false =>
    by_cases hid : op.artifactId = artifactId
    · rw [← hid, OperationTable.operations_insert hrefused, revisions, filter_append]
      simp [OperationTable.next, h, revisions]
    · rw [OperationTable.operations_insert_ne hid]

theorem mem_insert {t : OperationTable} (op : NewOp) (h : old ∈ t.operations artifactId) :
    old ∈ (t.insert op).operations artifactId := by
  rw [OperationTable.mem_operations] at h ⊢
  cases hrefused : t.insertRefused op with
  | true => rwa [OperationTable.insert_of_refused hrefused]
  | false =>
    rw [OperationTable.rows_insert hrefused]
    exact ⟨mem_append_left _ h.1, h.2⟩

namespace DraftRun

section
variable (run : DraftRun)

section
variable (es : List (Nat × Event sql World))

/-- What request `i` has seen after the statements `es`. -/
def sight (i : Nat) : DraftSight :=
  (draftScript run.artifactId).ghost (fun j => { body := run.calls[j]?.bind DraftCall.body }) es i

def halfway : Finset Nat :=
  (Finset.range run.calls.length).filter fun i => (run.sight es i).half

/-- A draft is stored over the history that was read, and by a registration with the body that is
stored, unless no revision is recorded or one is halfway. The last revision that is halfway finds
its own body stored when it is logged, and none is refused the review row. The latest revision is
in the page that a ship has read. -/
def undisturbed (i : Nat) (e : Event sql World) : Bool :=
  let g := run.sight es i
  let stored := e.before.drafts.get? run.artifactId
  let log := e.before.log run.artifactId
  match e.stmt with
  | .putArtifactDraft target payload =>
    target ≠ run.artifactId || stored.all fun draft =>
      g.read.any (·.revisionHistory.length = draft.revisionHistory.length) &&
        (g.body.isSome || run.halfway es ≠ ∅ || (revisions log).isEmpty ||
          payload.bodyMarkdown = draft.bodyMarkdown)
  | .insertOperation op =>
    op.opType ≠ .reviseDraft || run.halfway es ≠ {i} ||
      stored.all fun draft => g.body = some draft.bodyMarkdown
  | .insertReview target _ _ => !g.half || !e.before.reviews.has target
  | .send .. => (latestOp .reviseDraft log).all fun op => g.ops.any (·.opId = op.opId)
  | _ => true

end

def Undisturbed : Prop :=
  ∀ n i e, run.events[n]? = some (i, e) → run.undisturbed (run.events.take n) i e

end

/-- After the statements `es` the history of the stored draft counts the revisions that are logged
and those that are halfway, and where none is halfway its body is that of the last one logged. -/
structure Counted (run : DraftRun) (es : List (Nat × Event sql World)) (w : World)
    (draft : CaneDraftPayload) : Prop where
  stored : w.drafts.get? run.artifactId = some draft
  history : draft.revisionHistory.length =
    (revisions (w.log run.artifactId)).length + (run.halfway es).card
  latest : run.halfway es = ∅ → ∀ op, (revisions (w.log run.artifactId)).getLast? = some op →
    op.body? = some draft.bodyMarkdown
  texts : ∀ op ∈ revisions (w.log run.artifactId), op.body?.isSome
  read : ∀ i, ∀ op ∈ (run.sight es i).ops, op ∈ w.log run.artifactId
  unrefused : ∀ i, (run.sight es i).half = true → (run.sight es i).refused = false

variable {run : DraftRun} {es : List (Nat × Event sql World)} {e : Event sql World}

theorem sight_concat (run : DraftRun) (es : List (Nat × Event sql World)) (i j : Nat)
    (e : Event sql World) :
    run.sight (es ++ [(i, e)]) j = if i = j then
      (run.sight es i).see e.stmt (Stmt.answer e.stmt e.before) else run.sight es j :=
  Script.ghost_concat (m := draftScript run.artifactId) _ es i j e

theorem see_body (g : DraftSight) (c : Stmt) (a : c.Ans) : (g.see c a).body = g.body := by
  cases c with
  | selectOperations query target => cases query <;> rfl
  | insertReview target write nowIso => cases a <;> rfl
  | _ => rfl

theorem sight_body (run : DraftRun) (es : List (Nat × Event sql World)) (i : Nat) :
    (run.sight es i).body = run.calls[i]?.bind DraftCall.body := by
  induction es using reverseRecOn with
  | nil => rfl
  | append_singleton es x ih =>
    obtain ⟨j, e⟩ := x
    rw [sight_concat]
    by_cases hij : j = i
    · subst hij
      rw [if_pos rfl, see_body, ih]
    · rw [if_neg hij, ih]

theorem see_half {g : DraftSight} {c : Stmt} {a : c.Ans} (h : (g.see c a).half = true) :
    g.half = true ∨ g.body.isSome = true ∧
      ∃ target payload, c = .putArtifactDraft target payload := by
  cases c with
  | putArtifactDraft target payload => exact .inr ⟨h, target, payload, rfl⟩
  | insertOperation op => exact .inl (Bool.and_eq_true_iff.mp h).1
  | selectOperations query target => cases query <;> exact .inl h
  | insertReview target write nowIso => cases a <;> exact .inl h
  | _ => exact .inl h

theorem stores_of_half (run : DraftRun) (i : Nat) (h : (run.sight es i).half = true) :
    (run.sight es i).body.isSome ∧ ∃ e ∈ eventsOf i es, stores e = true := by
  induction es using reverseRecOn with
  | nil => cases h
  | append_singleton es x ih =>
    obtain ⟨j, e⟩ := x
    have hmem (e' : Event sql World) (he' : e' ∈ eventsOf i es) :
        e' ∈ eventsOf i (es ++ [(j, e)]) := by
      rw [mem_eventsOf] at he' ⊢
      exact mem_append_left _ he'
    have hearlier (hold : (run.sight es i).half = true) :
        (run.sight (es ++ [(j, e)]) i).body.isSome ∧
          ∃ e' ∈ eventsOf i (es ++ [(j, e)]), stores e' = true := by
      obtain ⟨hbody, e', he', hstores⟩ := ih hold
      rw [sight_body] at hbody ⊢
      exact ⟨hbody, e', hmem e' he', hstores⟩
    by_cases hij : j = i
    · subst hij
      rw [sight_concat, if_pos rfl] at h
      obtain hold | ⟨hbody, target, payload, hput⟩ := see_half h
      · exact hearlier hold
      · rw [sight_body] at hbody ⊢
        refine ⟨hbody, e, by simp [mem_eventsOf], ?_⟩
        rw [stores, hput]
    · rw [sight_concat, if_neg hij] at h
      exact hearlier h

variable {i : Nat}

theorem mem_halfway : i ∈ run.halfway es ↔ i < run.calls.length ∧ (run.sight es i).half = true := by
  simp [halfway]

theorem lt_of_body (h : (run.sight es i).body = some body) : i < run.calls.length := by
  rw [sight_body, Option.bind_eq_some_iff] at h
  obtain ⟨_, hcall, _⟩ := h
  exact (List.getElem?_eq_some_iff.mp hcall).1

/-- What request `i` has seen after one more statement of its own. -/
def next (run : DraftRun) (es : List (Nat × Event sql World)) (i : Nat) (e : Event sql World) :
    DraftSight :=
  (run.sight es i).see e.stmt (Stmt.answer e.stmt e.before)

section Steps
variable {i : Nat}

theorem forall_sight {P : DraftSight → Prop} (h : ∀ j, P (run.sight es j))
    (hnext : P (run.next es i e)) (j : Nat) : P (run.sight (es ++ [(i, e)]) j) := by
  rw [sight_concat]
  by_cases hij : i = j
  · rw [if_pos hij]
    exact hnext
  · rw [if_neg hij]
    exact h j

theorem halfway_same (h : (run.next es i e).half = (run.sight es i).half) :
    run.halfway (es ++ [(i, e)]) = run.halfway es := by
  ext j
  rw [mem_halfway, mem_halfway, sight_concat]
  by_cases hij : i = j
  · subst hij
    rw [if_pos rfl, ← h]
    rfl
  · rw [if_neg hij]

theorem halfway_stored (hi : i < run.calls.length) (h : (run.next es i e).half = true) :
    run.halfway (es ++ [(i, e)]) = insert i (run.halfway es) := by
  ext j
  rw [Finset.mem_insert, mem_halfway, mem_halfway, sight_concat]
  by_cases hij : i = j
  · subst hij
    rw [if_pos rfl]
    exact ⟨fun _ => .inl rfl, fun _ => ⟨hi, h⟩⟩
  · rw [if_neg hij]
    exact ⟨.inr, fun hj => hj.resolve_left (Ne.symm hij)⟩

theorem halfway_logged (h : (run.next es i e).half = false) :
    run.halfway (es ++ [(i, e)]) = (run.halfway es).erase i := by
  ext j
  rw [Finset.mem_erase, mem_halfway, mem_halfway, sight_concat]
  by_cases hij : i = j
  · subst hij
    rw [if_pos rfl]
    have hnot : ¬ (run.next es i e).half = true := by rw [h]; exact Bool.false_ne_true
    exact ⟨fun hj => absurd hj.2 hnot, fun hj => absurd rfl hj.1⟩
  · rw [if_neg hij]
    exact ⟨fun hj => ⟨Ne.symm hij, hj⟩, And.right⟩

theorem Counted.frame (h : run.Counted es e.before draft)
    (hstored : e.after.drafts.get? run.artifactId = e.before.drafts.get? run.artifactId)
    (hlog : revisions (e.after.log run.artifactId) = revisions (e.before.log run.artifactId))
    (hgrown : ∀ op ∈ e.before.log run.artifactId, op ∈ e.after.log run.artifactId)
    (hhalf : (run.next es i e).half = (run.sight es i).half)
    (hops : ∀ op ∈ (run.next es i e).ops, op ∈ e.before.log run.artifactId)
    (hrefused : (run.next es i e).half = true → (run.next es i e).refused = false) :
    run.Counted (es ++ [(i, e)]) e.after draft where
  stored := by rw [hstored, h.stored]
  history := by rw [hlog, halfway_same hhalf, h.history]
  latest := by
    rw [hlog, halfway_same hhalf]
    exact h.latest
  texts := by
    rw [hlog]
    exact h.texts
  read := by
    have hread := forall_sight (P := fun g => ∀ op ∈ g.ops, op ∈ e.before.log run.artifactId)
      h.read hops
    exact fun j op hop => hgrown op (hread j op hop)
  unrefused := forall_sight (P := fun g => g.half = true → g.refused = false) h.unrefused hrefused

theorem Counted.store {payload : CaneDraftPayload} (h : run.Counted es w draft)
    (hlength : payload.revisionHistory.length = draft.revisionHistory.length +
      (if (run.sight es i).body.isSome then 1 else 0))
    (hhalf : (run.sight es i).half = false)
    (hbody : (run.sight es i).body.isSome ∨ run.halfway es ≠ ∅ ∨
      revisions (w.log run.artifactId) = [] ∨ payload.bodyMarkdown = draft.bodyMarkdown) :
    run.Counted (es ++ [(i, ⟨.putArtifactDraft run.artifactId payload, w⟩)])
      (Stmt.effect (.putArtifactDraft run.artifactId payload) w) payload := by
  have hlog : (Stmt.effect (.putArtifactDraft run.artifactId payload) w).log run.artifactId =
      w.log run.artifactId := rfl
  have hshared (hhistory hlatest) :
      run.Counted (es ++ [(i, ⟨.putArtifactDraft run.artifactId payload, w⟩)])
        (Stmt.effect (.putArtifactDraft run.artifactId payload) w) payload := {
    stored := Dict.get?_set_self ..
    history := hhistory
    latest := hlatest
    texts := h.texts
    read := forall_sight (P := fun g => ∀ op ∈ g.ops, op ∈ w.log run.artifactId) h.read (h.read i)
    unrefused := forall_sight (P := fun g => g.half = true → g.refused = false) h.unrefused
      fun _ => rfl }
  cases hown : (run.sight es i).body with
  | none =>
    have hsame : run.halfway (es ++ [(i, ⟨.putArtifactDraft run.artifactId payload, w⟩)]) =
        run.halfway es := by
      apply halfway_same
      rw [hhalf]
      change (run.sight es i).body.isSome = false
      rw [hown]
      rfl
    rw [hown] at hlength hbody
    apply hshared
    · rw [hlog, hsame, hlength, h.history]
      rfl
    · intro hnone op hop
      rw [hlog] at hop
      rw [hsame] at hnone
      obtain hfalse | hbusy | hempty | hkept := hbody
      · cases hfalse
      · exact absurd hnone hbusy
      · rw [hempty] at hop
        cases hop
      · rw [hkept]
        exact h.latest hnone op hop
  | some body =>
    have hnew : i ∉ run.halfway es := by
      rw [mem_halfway, hhalf]
      exact fun hi => Bool.false_ne_true hi.2
    have hinsert : run.halfway (es ++ [(i, ⟨.putArtifactDraft run.artifactId payload, w⟩)]) =
        insert i (run.halfway es) := by
      apply halfway_stored (lt_of_body hown)
      change (run.sight es i).body.isSome = true
      rw [hown]
      rfl
    rw [hown] at hlength
    apply hshared
    · rw [hlog, hinsert, Finset.card_insert_of_notMem hnew, hlength, h.history]
      rfl
    · intro hnone
      rw [hinsert] at hnone
      exact absurd hnone (Finset.insert_ne_empty _ _)

theorem Counted.logged {op : NewOp} (h : run.Counted es w draft)
    (htype : op.opType = .reviseDraft) (hhalf : (run.sight es i).half = true)
    (hartifact : op.artifactId = run.artifactId) (hkey : op.idempotencyKey = none)
    (hown : op.body? = (run.sight es i).body)
    (hlast : run.halfway es = {i} → (run.sight es i).body = some draft.bodyMarkdown) :
    run.Counted (es ++ [(i, ⟨.insertOperation op, w⟩)]) (Stmt.effect (.insertOperation op) w)
      draft := by
  have hfree : w.operations.insertRefused op = false := by
    rw [OperationTable.insertRefused, NewOp.entry, hkey]
    rfl
  have hlog : (Stmt.effect (.insertOperation op) w).log run.artifactId =
      w.log run.artifactId ++ [w.operations.next op] := by
    rw [← hartifact]
    exact OperationTable.operations_insert hfree
  have hrevisions : revisions ((Stmt.effect (.insertOperation op) w).log run.artifactId) =
      revisions (w.log run.artifactId) ++ [w.operations.next op] := by
    rw [hlog, revisions, filter_append]
    simp [OperationTable.next, htype, revisions]
  have hunset : (run.next es i ⟨.insertOperation op, w⟩).half = false := by
    change ((run.sight es i).half && decide (op.opType ≠ .reviseDraft)) = false
    simp [htype]
  have hsome := (stores_of_half run i hhalf).1
  have hmem : i ∈ run.halfway es := by
    obtain ⟨body, hbody⟩ := Option.isSome_iff_exists.mp hsome
    exact mem_halfway.mpr ⟨lt_of_body hbody, hhalf⟩
  have hlogged : run.halfway (es ++ [(i, ⟨.insertOperation op, w⟩)]) = (run.halfway es).erase i :=
    halfway_logged hunset
  exact {
    stored := h.stored
    history := by
      have hcard := Finset.card_erase_add_one hmem
      have hhistory := h.history
      rw [hrevisions, hlogged, length_append, length_singleton]
      omega
    latest := by
      intro hnone last hget
      rw [hlogged] at hnone
      have hsingle : run.halfway es = {i} := by
        rw [← Finset.insert_erase hmem, hnone]
        rfl
      rw [hrevisions, getLast?_concat] at hget
      rw [← Option.some.inj hget, ← hlast hsingle, ← hown]
      rfl
    texts := by
      intro old hold
      rw [hrevisions, mem_append, mem_singleton] at hold
      obtain hold | rfl := hold
      · exact h.texts old hold
      · change op.body?.isSome = true
        rw [hown, hsome]
    read := by
      have hread := forall_sight (P := fun g => ∀ op ∈ g.ops, op ∈ w.log run.artifactId)
        (i := i) (e := ⟨.insertOperation op, w⟩) h.read (h.read i)
      intro j old hold
      rw [hlog]
      exact mem_append_left _ (hread j old hold)
    unrefused := by
      apply forall_sight (P := fun g => g.half = true → g.refused = false) h.unrefused
      intro hset
      rw [hunset] at hset
      cases hset }

theorem Counted.step (h : run.Counted es e.before draft)
    (hdue : (run.sight es i).due run.artifactId e.stmt) (hclear : run.undisturbed es i e = true) :
    ∃ draft', run.Counted (es ++ [(i, e)]) e.after draft' := by
  obtain ⟨c, w⟩ := e
  have hkept := h.unrefused i
  cases c with
  | putArtifactDraft target payload =>
    by_cases htarget : target = run.artifactId
    · subst htarget
      obtain ⟨hlength, hbody⟩ := hdue
      have hstored : w.drafts.get? run.artifactId = some draft := h.stored
      have hhalf : (run.sight es i).half = false := by
        by_contra hset
        rw [Bool.not_eq_false] at hset
        obtain ⟨body, hbody'⟩ := Option.isSome_iff_exists.mp (stores_of_half run i hset).1
        rw [(hbody body hbody').2.2] at hset
        cases hset
      have hclear' : ((run.sight es i).read.any
          (·.revisionHistory.length = draft.revisionHistory.length) &&
          ((run.sight es i).body.isSome || decide (run.halfway es ≠ ∅) ||
            (revisions (w.log run.artifactId)).isEmpty ||
            decide (payload.bodyMarkdown = draft.bodyMarkdown))) = true := by
        have hall : (decide (run.artifactId ≠ run.artifactId) ||
            (w.drafts.get? run.artifactId).all _) = true := hclear
        rw [hstored] at hall
        simpa using hall
      rw [Bool.and_eq_true, Option.any_eq_true] at hclear'
      obtain ⟨⟨read, hread, hsame⟩, hkept'⟩ := hclear'
      refine ⟨payload, h.store ?_ hhalf ?_⟩
      · rw [hlength, hread, ← of_decide_eq_true hsame]
        rfl
      · simpa [or_assoc] using hkept'
    · have hnone : (run.sight es i).body.isSome = false := by
        cases hbody : (run.sight es i).body with
        | none => rfl
        | some body => exact absurd (hdue.2 body hbody).2.1 htarget
      have hhalf : (run.sight es i).half = false := by
        by_contra hset
        rw [Bool.not_eq_false] at hset
        have hsome := (stores_of_half run i hset).1
        rw [hnone] at hsome
        cases hsome
      have hsame : (run.next es i ⟨.putArtifactDraft target payload, w⟩).half =
          (run.sight es i).half := by
        rw [hhalf]
        exact hnone
      exact ⟨draft, h.frame (Dict.get?_set_ne (Ne.symm htarget)) rfl (fun _ hop => hop) hsame
        (h.read i) fun _ => rfl⟩
  | insertOperation op =>
    by_cases htype : op.opType = .reviseDraft
    · obtain ⟨hhalf, hartifact, hkey, hown⟩ := hdue htype
      refine ⟨draft, h.logged htype hhalf hartifact hkey hown fun hlast => ?_⟩
      have hstored : w.drafts.get? run.artifactId = some draft := h.stored
      have hall : (decide (op.opType ≠ .reviseDraft) || decide (run.halfway es ≠ {i}) ||
          (w.drafts.get? run.artifactId).all fun draft =>
            (run.sight es i).body = some draft.bodyMarkdown) = true := hclear
      rw [hstored] at hall
      simpa [htype, hlast] using hall
    · have hhalf : (run.next es i ⟨.insertOperation op, w⟩).half = (run.sight es i).half := by
        change ((run.sight es i).half && decide (op.opType ≠ .reviseDraft)) = _
        simp [htype]
      refine ⟨draft, h.frame rfl (revisions_insert_ne htype ..) (fun _ => mem_insert op) hhalf
        (h.read i) ?_⟩
      rw [hhalf]
      exact hkept
  | updatePayload _ _ _ => exact hdue.elim
  | insertReview target write nowIso =>
    have hall : (!(run.sight es i).half || !w.reviews.has target) = true := hclear
    have hsee : (run.next es i ⟨.insertReview target write nowIso, w⟩).half =
        (run.sight es i).half ∧ (run.next es i ⟨.insertReview target write nowIso, w⟩).ops =
        (run.sight es i).ops ∧ ((run.sight es i).half = true →
        (run.next es i ⟨.insertReview target write nowIso, w⟩).refused = false) := by
      by_cases hhas : w.reviews.has target = true
      · have hanswer : Stmt.answer (.insertReview target write nowIso) w = Except.error
            "UNIQUE constraint failed: artifact_review_state.artifact_id" := if_pos hhas
        rw [hhas] at hall
        rw [next, hanswer]
        exact ⟨rfl, rfl, fun hset => by simp [hset] at hall⟩
      · have hanswer : Stmt.answer (.insertReview target write nowIso) w = Except.ok () :=
          if_neg hhas
        rw [next, hanswer]
        exact ⟨rfl, rfl, hkept⟩
    refine ⟨draft, h.frame rfl rfl (fun _ hop => hop) hsee.1 ?_ ?_⟩
    · rw [hsee.2.1]
      exact h.read i
    · rw [hsee.1]
      exact hsee.2.2
  | selectOperations query target =>
    cases query with
    | page =>
      have htarget : target = run.artifactId := hdue
      refine ⟨draft, h.frame rfl rfl (fun _ hop => hop) rfl (fun op hop => ?_) hkept⟩
      have hpage : op ∈ page (w.log target) 500 0 := hop
      rw [← htarget]
      exact mem_of_mem_take (by simpa [page] using hpage)
    | _ => exact ⟨draft, h.frame rfl rfl (fun _ hop => hop) rfl (h.read i) hkept⟩
  | _ => exact ⟨draft, h.frame rfl rfl (fun _ hop => hop) rfl (h.read i) hkept⟩

end Steps

theorem threads_keep (run : DraftRun) (i : Nat) (p : Prog Unit) (hp : run.threads[i]? = some p) :
    p.keeps (draftScript run.artifactId) (fun _ g => g.Done)
      { body := run.calls[i]?.bind DraftCall.body } := by
  rw [threads, getElem?_map, Option.map_eq_some_iff] at hp
  obtain ⟨call, hcall, rfl⟩ := hp
  rw [hcall]
  exact call.keeps run.artifactIdFromPath run.artifactId

theorem latest_revision (w : World) (artifactId : String) :
    latestOp .reviseDraft (w.log artifactId) = (revisions (w.log artifactId)).getLast? :=
  latestOp_eq (w.log_sorted artifactId) .reviseDraft

theorem counted_start (run : DraftRun) : ∃ draft, run.Counted [] run.start draft := by
  obtain ⟨draft, hstored, hhistory, hlatest⟩ := run.agrees
  have hnone : run.halfway [] = ∅ := by
    rw [Finset.eq_empty_iff_forall_notMem]
    intro i hi
    cases (mem_halfway.mp hi).2
  refine ⟨draft, hstored, ?_, ?_, run.texts, ?_, ?_⟩
  · rw [hnone, Finset.card_empty, hhistory]
    rfl
  · intro _ op hop
    rw [← latest_revision] at hop
    exact hlatest op hop
  · intro i op hop
    cases hop
  · intro i hi
    cases hi

theorem counted_step (h : run.Undisturbed) (hsplit : run.events = es ++ (i, e) :: fs)
    (hcounted : ∃ draft, run.Counted es e.before draft) :
    ∃ draft, run.Counted (es ++ [(i, e)]) e.after draft := by
  obtain ⟨draft, hcounted⟩ := hcounted
  have hdue := interleave_keeps run.schedule run.start run.threads_keep es i e fs hsplit
  have hclear := h es.length i e (by rw [hsplit]; simp)
  rw [hsplit, take_left] at hclear
  exact hcounted.step hdue hclear

theorem counted (h : run.Undisturbed) (n : Nat) :
    ∃ draft, run.Counted (interleaveEvents (run.schedule.take n) run.threads run.start)
      (run.after n).2 draft :=
  interleave_invariant_take (I := fun es w => ∃ draft, run.Counted es w draft) run.schedule
    run.start run.counted_start (fun _ _ _ _ hsplit hI => counted_step h hsplit hI) n

theorem counted_before (h : run.Undisturbed)
    (hsplit : run.events = es ++ (i, e) :: fs) : ∃ draft, run.Counted es e.before draft :=
  (interleave_invariant (I := fun es w => ∃ draft, run.Counted es w draft) run.schedule run.start
    run.counted_start fun _ _ _ _ hsplit hI => counted_step h hsplit hI).2 es i e fs hsplit

theorem halfway_quiet
    (hcounted : run.Counted (interleaveEvents (run.schedule.take n) run.threads run.start)
      (run.after n).2 draft) (hquiet : run.Quiet n) :
    run.halfway (interleaveEvents (run.schedule.take n) run.threads run.start) = ∅ := by
  rw [Finset.eq_empty_iff_forall_notMem]
  intro i hi
  obtain ⟨hlt, hhalf⟩ := mem_halfway.mp hi
  have hlength : (run.after n).1.length = run.calls.length := by
    rw [after, interleave_length, threads, length_map]
  obtain ⟨p, hthread⟩ : ∃ p, (run.after n).1[i]? = some p :=
    ⟨_, getElem?_eq_getElem (hlength ▸ hlt)⟩
  obtain hended | hstores := hquiet i _ hthread
  · have hkeeps := interleave_ends (run.schedule.take n) run.start run.threads_keep i _ hthread
    have hdone : (run.sight (interleaveEvents (run.schedule.take n) run.threads run.start)
        i).Done := by
      cases p with
      | ret a => exact hkeeps
      | throw e => exact hkeeps
      | issue c k => cases hended
    obtain hlogged | hrefused := hdone
    · rw [hlogged] at hhalf
      cases hhalf
    · rw [hcounted.unrefused i hhalf] at hrefused
      cases hrefused
  · obtain ⟨e, he, hstore⟩ := (stores_of_half run i hhalf).2
    rw [hstores e he] at hstore
    cases hstore

theorem send_latest (h : run.Undisturbed) (he : (i, ⟨.send existing payload body, w⟩) ∈ run.events)
    (hlatest : latestOp .reviseDraft (w.log run.artifactId) = some op) : op.body? = some body := by
  obtain ⟨es, fs, hsplit⟩ := append_of_mem he
  obtain ⟨draft, hcounted⟩ := counted_before h hsplit
  have hdue : body = latestDraftBody payload (run.sight es i).ops :=
    interleave_keeps run.schedule run.start run.threads_keep es i _ fs hsplit
  have hclear : (latestOp .reviseDraft (w.log run.artifactId)).all (fun op =>
      (run.sight es i).ops.any (·.opId = op.opId)) = true := by
    have hclear := h es.length i ⟨.send existing payload body, w⟩ (by
      rw [hsplit]
      simp)
    rw [hsplit, take_left] at hclear
    exact hclear
  rw [hlatest, Option.all_some, any_eq_true] at hclear
  obtain ⟨seen, hseen, hid⟩ := hclear
  have hlog : op ∈ revisions (w.log run.artifactId) := by
    rw [latest_revision] at hlatest
    exact mem_of_getLast? hlatest
  obtain rfl : seen = op := eq_of_opId (w.log_sorted run.artifactId) (hcounted.read i seen hseen)
    (mem_of_mem_filter hlog) (of_decide_eq_true hid)
  obtain ⟨text, htext⟩ := Option.isSome_iff_exists.mp (hcounted.texts seen hlog)
  have hshown := latest_of_mem (hcounted.read i) hseen hlatest
  have htext' : seen.payload.bind (·.strField? "body_markdown") = some text := htext
  rw [hdue, latestDraftBody, hshown, htext]
  dsimp only
  rw [htext', Option.getD_some]

end DraftRun

def draftServed (calls : List DraftCall) (schedule : List Nat) : DraftRun where
  artifactIdFromPath := fun _ => "art"
  artifactId := "art"
  calls := calls
  schedule := schedule
  start := approvedDraft
  agrees := by
    refine ⟨⟨"cane:draft:1", "Hello", []⟩, rfl, rfl, fun op hop => ?_⟩
    cases hop
  texts := by
    intro op hop
    cases hop

def polled (bodyMarkdown : String) : Json :=
  .obj [("draft_id", .str "cane:draft:1"), ("send_recommendation", .str "needs_approval"),
    ("body_markdown", .str bodyMarkdown)]

def polledAgain : DraftRun :=
  draftServed [.revise "Hello, Chris" "user:chris", .register (polled "Hello")]
    [0, 0, 0, 0, 0, 0, 0, 0, 1, 1, 1]

def polledAndShipped : DraftRun :=
  draftServed [.revise "Hello, Chris" "user:chris", .register (polled "Hello, Chris"),
    .ship { shipper := "user:chris" }] [0, 0, 0, 0, 0, 0, 0, 0, 1, 1, 1, 2, 2, 2, 2, 2, 2, 2, 2, 2]

end IdAgents.Outputs
