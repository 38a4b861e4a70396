import IdAgents.Library.Rely
import IdAgents.Outputs.ClientWrites

namespace IdAgents.Outputs
open JsText AtomicProgram Option Program WriteAnswer

def BaseVersion.isBehind (current : Nat) : BaseVersion → Bool
  | .at version => current ≠ version
  | _ => false

/-- What a write has seen of its own course: whether its operation has gone in, the id it answers
with, whether it was found behind the version, and whether a write or a read-back failed. -/
structure ClientGhost where
  artifactId : String
  call : ClientWrite
  appended : Bool := false
  opId : Option Nat := none
  refused : Bool := false
  failed : Bool := false

namespace ClientGhost
section
variable (g : ClientGhost)

def fails : Except String Unit → ClientGhost
  | .ok _ => g
  | .error _ => { g with failed := true }

def settles (found : Option Nat) : ClientGhost :=
  { g with opId := g.opId.or found }

def query (ops : List ArtifactOp) : OperationQuery → ClientGhost
  | .version => { g with refused := g.refused || (g.call.client.clientMutationId.isNone &&
      g.call.client.baseVersion.isBehind ops.length) }
  | .staleReplay key => { g with refused := g.refused || (findByKey key ops).isNone }
  | .byKey key => g.settles ((findByKey key ops).map (·.opId))
  | .readBack => g.settles (some (newestOpId ops))
  | .page => { g with failed := g.failed || (page ops 1000 0).all fun op => g.opId ≠ some op.opId }
  | _ => g

def see (c : Stmt) (a : c.Ans) : ClientGhost :=
  match c, a with
  | .insertReview .., a => g.fails a
  | .insertOperation _, a => { g.fails a with appended := true }
  | .selectOperations query _, ops => g.query ops query
  | _, _ => g

def due : Stmt → Prop
  | .insertOperation op => op.artifactId = g.artifactId ∧
      (g.opId = none → isOwn op ∧ op.idempotencyKey = g.call.key)
  | .selectOperations .readBack artifactId =>
    artifactId = g.artifactId ∧ (g.opId = none → g.appended)
  | .selectOperations (.byKey key) artifactId =>
    artifactId = g.artifactId ∧ (g.opId = none → g.call.key = some key)
  | .selectOperations .page artifactId => artifactId = g.artifactId ∧ g.opId ≠ none
  | .selectOperations _ artifactId => artifactId = g.artifactId
  | _ => True

end

end ClientGhost

def clientScript : Script sql ClientGhost where
  see := ClientGhost.see
  due := ClientGhost.due

def ClientGhost.Same (g g' : ClientGhost) : Prop :=
  g'.call = g.call ∧ g'.artifactId = g.artifactId

section
variable (g : ClientGhost)

/-- How a part of a write ends: with an error only after a failure, and with the id it had settled,
or with the one that `settled` names. -/
def EndsWith (settled : α → Option Nat) (r : Except String α) (g' : ClientGhost) : Prop :=
  g.Same g' ∧ match r with
    | .ok a => g'.opId = g.opId.or (settled a)
    | .error _ => g'.failed

theorem upsertReviewState_keeps (artifactId : String) (write : ReviewWrite) (ts : String) :
    (upsertReviewState artifactId write ts).keeps clientScript (EndsWith g fun _ => none) g := by
  refine ⟨trivial, fun existing => ?_⟩
  cases existing with
  | some existing => exact ⟨trivial, fun _ => ⟨⟨rfl, rfl⟩, (or_none ..).symm⟩⟩
  | none =>
    refine ⟨trivial, fun inserted => ?_⟩
    have hinserted (inserted : Except String Unit) :
        (orThrow (write.patch.create artifactId ts) inserted).keeps clientScript
          (EndsWith g fun _ => none) (g.fails inserted) := by
      cases inserted with
      | ok _ => exact ⟨⟨rfl, rfl⟩, (or_none ..).symm⟩
      | error e => exact ⟨⟨rfl, rfl⟩, rfl⟩
    exact hinserted inserted

theorem touchReview_keeps (artifactId : String)
    (existing : Option ReviewState) (sourceLink : Option String) (ts : String) :
    (touchReview artifactId existing sourceLink ts).keeps clientScript
      (EndsWith g fun _ => none) g := by
  apply keeps_seq (upsertReviewState_keeps g artifactId _ ts)
  · intro state g' hend
    exact hend
  · intro e g' hend
    exact hend

def ClientGhost.Appends (op : NewOp) : Prop :=
  op.artifactId = g.artifactId ∧ (g.opId = none → isOwn op ∧ op.idempotencyKey = g.call.key)

end

variable {g : ClientGhost} {op : NewOp}

theorem appendRow_keeps (h : g.Appends op) :
    (appendRow op).keeps clientScript (EndsWith g some) g := by
  refine ⟨h, fun inserted => ?_⟩
  have hinserted (inserted : Except String Unit) :
      ((orThrow () inserted).bind fun _ =>
        .issue (.selectOperations .readBack op.artifactId) fun ops =>
          .ret (newestOpId ops)).keeps clientScript (EndsWith g some)
        { g.fails inserted with appended := true } := by
    cases inserted with
    | ok _ => exact ⟨⟨h.1, fun _ => rfl⟩, fun ops => ⟨⟨rfl, rfl⟩, rfl⟩⟩
    | error e => exact ⟨⟨rfl, rfl⟩, rfl⟩
  exact hinserted inserted

theorem appendOnce_keeps (h : g.Appends op) :
    (appendOnce op).keeps clientScript (EndsWith g some) g := by
  rw [appendOnce]
  split
  · exact appendRow_keeps h
  · next key hkey =>
    refine ⟨⟨h.1, fun hopen => (h.2 hopen).2.symm.trans hkey⟩, fun ops => ?_⟩
    have hreplay (found : Option ArtifactOp) : (replayOr (appendRow op) found).keeps clientScript
        (EndsWith g some) (g.settles (found.map (·.opId))) := by
      cases found with
      | some op => exact ⟨⟨rfl, rfl⟩, rfl⟩
      | none =>
        have hsame : g.settles none = g := by
          rw [ClientGhost.settles, or_none]
        rw [map_none, hsame]
        exact appendRow_keeps h
    exact hreplay _

variable {f : α → Prog β} {p : Prog α}

theorem keeps_first (h : p.keeps clientScript (EndsWith g fun _ => none) g)
    (hf : ∀ a g', g.Same g' → g'.opId = g.opId →
      (f a).keeps clientScript (EndsWith g' settled) g') :
    (p.bind f).keeps clientScript (EndsWith g settled) g := by
  apply keeps_seq h
  · intro a g' hend
    have hid : g'.opId = g.opId := by
      have hor : g'.opId = g.opId.or none := hend.2
      rwa [or_none] at hor
    apply keeps_mono (hf a g' hend.1 hid)
    rintro r g'' ⟨hsame, hr⟩
    refine ⟨⟨hsame.1.trans hend.1.1, hsame.2.trans hend.1.2⟩, ?_⟩
    cases r with
    | ok b =>
      change g''.opId = g.opId.or (settled b)
      rw [← hid]
      exact hr
    | error e => exact hr
  · intro e g' hend
    exact hend

def Confirms (g : ClientGhost) (opId : Nat) (settled : α → Option Nat) (r : Except String α)
    (g' : ClientGhost) : Prop :=
  g.Same g' ∧ match r with
    | .ok a => settled a = some opId ∧ g'.opId = some opId
    | .error _ => g'.failed

theorem Confirms.of_same (h : Confirms g' opId settled r g'') (hsame : g.Same g') :
    Confirms g opId settled r g'' :=
  ⟨⟨h.1.1.trans hsame.1, h.1.2.trans hsame.2⟩, h.2⟩

def Answers (g : ClientGhost) (settled : α → Option Nat) (r : Except String α)
    (g' : ClientGhost) : Prop :=
  ∃ opId, Confirms g opId settled r g'

theorem keeps_before (h : p.keeps clientScript (EndsWith g fun _ => none) g)
    (hf : ∀ a g', g.Same g' → g'.opId = g.opId → (f a).keeps clientScript (Answers g' settled) g') :
    (p.bind f).keeps clientScript (Answers g settled) g := by
  apply keeps_seq h
  · intro a g' hend
    have hid : g'.opId = g.opId := by
      have hor : g'.opId = g.opId.or none := hend.2
      rwa [or_none] at hor
    apply keeps_mono (hf a g' hend.1 hid)
    rintro r g'' ⟨opId, hconfirms⟩
    exact ⟨opId, hconfirms.of_same hend.1⟩
  · intro e g' hend
    exact ⟨0, hend⟩

theorem keeps_after_append {p : Prog Nat} {f : Nat → Prog β}
    {settled : β → Option Nat} (h : p.keeps clientScript (EndsWith g some) g)
    (hopen : g.opId = none) (hf : ∀ opId g', g.Same g' → g'.opId = some opId →
      (f opId).keeps clientScript (Confirms g' opId settled) g') :
    (p.bind f).keeps clientScript (Answers g settled) g := by
  apply keeps_seq h
  · intro opId g' hend
    have hid : g'.opId = some opId := by
      have hor : g'.opId = g.opId.or (some opId) := hend.2
      rwa [hopen, none_or] at hor
    apply keeps_mono (hf opId g' hend.1 hid)
    intro r g'' hconfirms
    exact ⟨opId, hconfirms.of_same hend.1⟩
  · intro e g' hend
    exact ⟨0, hend⟩

theorem keeps_settled
    (hid : g.opId = some opId) (h : p.keeps clientScript (EndsWith g fun _ => none) g)
    (hf : ∀ a g', g.Same g' → g'.opId = some opId →
      (f a).keeps clientScript (Confirms g' opId settled) g') :
    (p.bind f).keeps clientScript (Confirms g opId settled) g := by
  apply keeps_seq h
  · intro a g' hend
    have hid' : g'.opId = some opId := by
      have hor : g'.opId = g.opId.or none := hend.2
      rwa [hid, some_or] at hor
    apply keeps_mono (hf a g' hend.1 hid')
    intro r g'' hconfirms
    exact hconfirms.of_same hend.1
  · intro e g' hend
    exact hend

theorem countMatchingIdempotency_keeps (h : artifactId = g.artifactId) (key : Option String) :
    (countMatchingIdempotency artifactId key).keeps clientScript (EndsWith g fun _ => none) g := by
  rw [countMatchingIdempotency]
  split
  · exact ⟨⟨rfl, rfl⟩, (or_none ..).symm⟩
  · exact ⟨h, fun _ => ⟨⟨rfl, rfl⟩, (or_none ..).symm⟩⟩

theorem readBack_keeps (h : artifactId = g.artifactId)
    (hid : g.opId = some opId) (what : String) (before : Nat) :
    ((listOperations artifactId 1000 0).bind (recordedEvent what opId before)).keeps clientScript
      (Confirms g opId fun result => some result.opId) g := by
  refine ⟨⟨h, by simp [hid]⟩, fun ops => ?_⟩
  have hrecorded (ops : List ArtifactOp) : (recordedEvent what opId before (page ops 1000 0)).keeps
      clientScript (Confirms g opId fun result => some result.opId) (g.query ops .page) := by
    rw [recordedEvent]
    split
    · next hnone =>
      refine ⟨⟨rfl, rfl⟩, ?_⟩
      rw [List.find?_eq_none] at hnone
      have hmissing : (page ops 1000 0).all fun op => g.opId ≠ some op.opId := by
        rw [List.all_eq_true]
        intro op hop
        have hne := hnone op hop
        rw [decide_eq_true_eq] at hne
        rw [hid, decide_eq_true_eq]
        intro heq
        exact hne (Option.some.inj heq).symm
      change (g.failed || _) = true
      rw [hmissing, Bool.or_true]
    · exact ⟨⟨rfl, rfl⟩, rfl, hid⟩
  exact hrecorded ops

theorem writeTimeline_keeps {write : TimelineWrite} (hopen : g.opId = none)
    (hown : ∀ actor ts link, isOwn ⟨g.artifactId, write.opType, actor, ts, some write.payload, link,
      normalizedKey write.idempotencyKey⟩)
    (hkey : normalizedKey write.idempotencyKey = g.call.key) :
    (writeTimeline g.artifactId write).keeps clientScript
      (Answers g fun result => some result.opId) g := by
  refine ⟨trivial, fun ts => ⟨trivial, fun existing => ?_⟩⟩
  apply keeps_before (touchReview_keeps g g.artifactId existing write.sourceLink ts)
  intro _ g₁ hsame₁ hid₁
  apply keeps_before (countMatchingIdempotency_keeps hsame₁.2.symm write.idempotencyKey)
  intro before g₂ hsame₂ hid₂
  have hartifact : g.artifactId = g₂.artifactId := (hsame₂.2.trans hsame₁.2).symm
  have hcall : g₂.call = g.call := hsame₂.1.trans hsame₁.1
  have hopen₂ : g₂.opId = none := hid₂.trans (hid₁.trans hopen)
  refine keeps_after_append (appendOnce_keeps ⟨hartifact, fun _ => ⟨hown _ _ _, ?_⟩⟩) hopen₂ ?_
  · rw [hcall]
    exact hkey
  · intro opId g₃ hsame₃ hid₃
    exact readBack_keeps (hartifact.trans hsame₃.2.symm) hid₃ _ _

def WriteAnswer.opId? : WriteAnswer → Option Nat
  | recorded opId .. => some opId
  | refused _ => none

def Finishes (r : Except String WriteAnswer) (g : ClientGhost) : Prop :=
  match r with
  | .ok (.recorded opId ..) => g.opId = some opId
  | .ok (.refused .badRequest) => g.call.isValid = false
  | .ok (.refused .staleBaseVersion) => g.refused
  | .error _ => g.failed

theorem Confirms.finishes (h : Confirms g opId opId? r g') : Finishes r g' := by
  obtain ⟨_, hr⟩ := h
  cases r with
  | error e => exact hr
  | ok answer =>
    cases answer with
    | refused refusal => cases hr.1
    | recorded id version idempotent =>
      obtain ⟨hid, hopId⟩ := hr
      change g'.opId = some id
      rw [hopId, ← Option.some.inj hid]

theorem acknowledge_keeps (h : artifactId = g.artifactId)
    (hid : g.opId = some opId) (idempotent : Bool) :
    (acknowledge artifactId opId idempotent).keeps clientScript (Confirms g opId opId?) g :=
  ⟨h, fun _ => ⟨⟨rfl, rfl⟩, rfl, hid⟩⟩

theorem recordTimeline_keeps (hopen : g.opId = none) (hpost : g.call.post = .inl post) :
    (recordTimeline g.artifactId (post.write? g.call.client)).keeps clientScript Finishes g := by
  have hwrite (write : TimelineWrite)
      (hown : ∀ actor ts link, isOwn ⟨g.artifactId, write.opType, actor, ts, some write.payload,
        link, normalizedKey write.idempotencyKey⟩)
      (hkey : write.idempotencyKey = g.call.client.writeIdempotencyKey) :
      (recordTimeline g.artifactId (some write)).keeps clientScript Finishes g := by
    apply keeps_seq (writeTimeline_keeps hopen hown (congrArg normalizedKey hkey))
    · rintro result g' ⟨opId, hsame, hsettled, hid⟩
      rw [← hsettled] at hid
      apply keeps_mono (acknowledge_keeps hsame.2.symm hid result.idempotent)
      intro r g'' hconfirms
      exact hconfirms.finishes
    · rintro e g' ⟨_, hend⟩
      exact hend.2
  cases post with
  | suggestedChange req => exact hwrite _ (fun _ _ _ => rfl) rfl
  | dispatchFollowUp req => exact hwrite _ (fun _ _ _ => rfl) rfl
  | invalid =>
    change g.call.isValid = false
    simp [ClientWrite.isValid, hpost, TimelinePost.write?]

theorem staleReplay_keeps {p : Prog WriteAnswer} (hopen : g.opId = none)
    (hp : ∀ g', g.Same g' → g'.opId = none → p.keeps clientScript Finishes g')
    (hrefused : g.call.client.clientMutationId = none → g.refused) :
    ((staleReplay g.artifactId g.call.client).bind (unlessRefused p)).keeps clientScript
      Finishes g := by
  rw [staleReplay]
  split
  · next hnone => exact hrefused hnone
  · next mutationId _ =>
    refine ⟨rfl, fun ops => ?_⟩
    have hreplay (found : Option ArtifactOp) : (unlessRefused p
        (found.elim (some .staleBaseVersion) fun _ => none)).keeps clientScript Finishes
        { g with refused := g.refused || found.isNone } := by
      cases found with
      | some op => exact hp _ ⟨rfl, rfl⟩ hopen
      | none => exact Bool.or_true _
    exact hreplay _

theorem rejectStaleBaseVersion_keeps {p : Prog WriteAnswer} (hopen : g.opId = none)
    (hp : ∀ g', g.Same g' → g'.opId = none → p.keeps clientScript Finishes g') :
    ((rejectStaleBaseVersion g.artifactId g.call.client).bind (unlessRefused p)).keeps clientScript
      Finishes g := by
  rw [rejectStaleBaseVersion]
  split
  · exact hp g ⟨rfl, rfl⟩ hopen
  · next hinvalid =>
    change g.call.isValid = false
    simp [ClientWrite.isValid, hinvalid]
  · next version hversion =>
    refine ⟨rfl, fun ops => ?_⟩
    have hcheck (ops : List ArtifactOp) : ((checkVersion g.artifactId g.call.client version
        ops.length).bind (unlessRefused p)).keeps clientScript Finishes (g.query ops .version) := by
      rw [checkVersion]
      split
      · exact hp _ ⟨rfl, rfl⟩ hopen
      · next hbehind =>
        apply staleReplay_keeps (g := g.query ops .version) hopen hp
        intro hnone
        have hmissing : g.call.client.clientMutationId = none := hnone
        simp [ClientGhost.query, hmissing, hversion, BaseVersion.isBehind, hbehind]
    exact hcheck ops

theorem replayLookup_keeps (h : artifactId = g.artifactId) (key : Option String) :
    (replayLookup artifactId key).keeps clientScript (EndsWith g fun _ => none) g := by
  unfold replayLookup
  split
  · exact ⟨⟨rfl, rfl⟩, (or_none ..).symm⟩
  · exact ⟨h, fun _ => ⟨⟨rfl, rfl⟩, (or_none ..).symm⟩⟩

theorem commentArtifact_keeps (hkey : normalizedKey req.idempotencyKey = g.call.key) :
    (commentArtifact g.artifactId req).keeps clientScript (EndsWith g some) g := by
  refine ⟨trivial, fun ts => ⟨trivial, fun existing => ?_⟩⟩
  apply keeps_first (touchReview_keeps g g.artifactId existing req.sourceLink ts)
  intro _ g₁ hsame hid
  apply appendOnce_keeps
  refine ⟨hsame.2.symm, fun _ => ⟨rfl, ?_⟩⟩
  rw [hsame.1]
  exact hkey

theorem settledReplay_keeps (h : artifactId = g.artifactId)
    (hid : g.opId = some opId) (replayed : Bool) :
    (settledReplay artifactId replayed opId).keeps clientScript (EndsWith g fun _ => none) g := by
  rw [settledReplay]
  split
  · exact ⟨⟨h, by simp [hid]⟩, fun _ => ⟨⟨rfl, rfl⟩, (or_none ..).symm⟩⟩
  · exact ⟨⟨rfl, rfl⟩, (or_none ..).symm⟩

theorem appends_of_settled (hid : g.opId = some opId)
    (h : op.artifactId = g.artifactId) : g.Appends op := by
  refine ⟨h, fun hopen => ?_⟩
  rw [hid] at hopen
  cases hopen

def Stmt.On (artifactId : String) : Stmt → Prop
  | .insertOperation op => op.artifactId = artifactId
  | .selectOperations _ artifact => artifact = artifactId
  | _ => True

theorem settled_step (h : g.Same g' ∧ g'.opId = some opId) (hon : c.On g.artifactId) :
    g'.due c ∧ ∀ a : c.Ans, g.Same (g'.see c a) ∧ (g'.see c a).opId = some opId := by
  obtain ⟨hsame, hid⟩ := h
  have hsettles (found : Option Nat) : (g'.settles found).opId = some opId := by
    rw [ClientGhost.settles, hid, some_or]
  cases c with
  | insertOperation op =>
    refine ⟨⟨hon.trans hsame.2.symm, fun hopen => ?_⟩, fun a => ?_⟩
    · rw [hid] at hopen
      cases hopen
    · have hfails (a : Except String Unit) : g.Same { g'.fails a with appended := true } ∧
          (g'.fails a).opId = some opId := by
        cases a <;> exact ⟨hsame, hid⟩
      exact hfails a
  | insertReview artifactId write nowIso =>
    refine ⟨trivial, fun a => ?_⟩
    have hfails (a : Except String Unit) : g.Same (g'.fails a) ∧
        (g'.fails a).opId = some opId := by
      cases a <;> exact ⟨hsame, hid⟩
    exact hfails a
  | selectOperations query artifactId =>
    have hartifact : artifactId = g'.artifactId := hon.trans hsame.2.symm
    cases query with
    | readBack =>
      refine ⟨⟨hartifact, fun hopen => ?_⟩, fun ops => ⟨hsame, hsettles _⟩⟩
      rw [hid] at hopen
      cases hopen
    | byKey key =>
      refine ⟨⟨hartifact, fun hopen => ?_⟩, fun ops => ⟨hsame, hsettles _⟩⟩
      rw [hid] at hopen
      cases hopen
    | page => exact ⟨⟨hartifact, by simp [hid]⟩, fun ops => ⟨hsame, hid⟩⟩
    | _ => exact ⟨hartifact, fun ops => ⟨hsame, hid⟩⟩
  | _ => exact ⟨trivial, fun a => ⟨hsame, hid⟩⟩

theorem recordCommentRouted_keeps (hid : g.opId = some opId)
    (actor : String) (sourceOpId : Nat) (dispatch : RoutedDispatch) :
    (recordCommentRouted g.artifactId actor sourceOpId dispatch).keeps clientScript
      (fun _ g' => g.Same g' ∧ g'.opId = some opId) g := by
  have hmeets : (recordCommentRouted g.artifactId actor sourceOpId dispatch).Meets
      (Stmt.On g.artifactId) fun _ => True := by
    refine ⟨trivial, fun ts => ?_⟩
    have happend (op : NewOp) (hop : op.artifactId = g.artifactId) :
        (appendOnce op).Meets (Stmt.On g.artifactId) fun _ => True :=
      appendOnce_meets (fun _ => hop) hop
    apply (happend _ rfl).bind
    intro _ _
    trivial
  apply keeps_mono (hmeets.keeps (J := fun g' => g.Same g' ∧ g'.opId = some opId)
    ⟨⟨rfl, rfl⟩, hid⟩ fun g' c hg hc => settled_step hg hc)
  intro r g' hend
  exact hend.1

theorem persistRoutedLinkage_keeps (hid : g.opId = some opId)
    (actor : String) (sourceOpId : Nat) (dispatch : Option RoutedDispatch) :
    (persistRoutedLinkage g.artifactId actor sourceOpId dispatch).keeps clientScript
      (EndsWith g fun _ => none) g := by
  cases dispatch with
  | none => exact ⟨⟨rfl, rfl⟩, (or_none ..).symm⟩
  | some dispatch =>
    have hcaught : ((recordCommentRouted g.artifactId actor sourceOpId dispatch).tryCatch
        fun _ => .ret ()).keeps clientScript (EndsWith g fun _ => none) g := by
      apply keeps_tryCatch (recordCommentRouted_keeps hid actor sourceOpId dispatch)
      · intro _ g' hend
        exact ⟨hend.1, by rw [hend.2, hid]; rfl⟩
      · intro _ g' hend
        exact ⟨hend.1, by rw [hend.2, hid]; rfl⟩
    apply keeps_seq hcaught
    · intro _ g' hend
      exact hend
    · intro e g' hend
      exact hend

theorem approveArtifact_keeps (hid : g.opId = some opId) (req : ApproveRequest) :
    (approveArtifact g.artifactId req).keeps clientScript (EndsWith g fun _ => none) g := by
  refine ⟨trivial, fun ts => ⟨trivial, fun existing => ?_⟩⟩
  apply keeps_first (upsertReviewState_keeps g g.artifactId _ ts)
  intro state g₁ hsame hid₁
  have hsettled : g₁.opId = some opId := hid₁.trans hid
  apply keeps_seq (appendOnce_keeps (appends_of_settled hsettled hsame.2.symm))
  · intro _ g' hend
    obtain ⟨hsame', hor⟩ := hend
    refine ⟨hsame', ?_⟩
    have hor' : g'.opId = g₁.opId.or _ := hor
    change g'.opId = g₁.opId.or none
    rw [hor', hsettled, some_or, or_none]
  · intro e g' hend
    exact hend

theorem handleClassifiedCommentRouting_keeps (hid : g.opId = some opId)
    (actor : String) (sourceOpId : Nat) (post : CommentPost) :
    (handleClassifiedCommentRouting g.artifactId actor sourceOpId post).keeps clientScript
      (EndsWith g fun _ => none) g := by
  rw [handleClassifiedCommentRouting]
  split
  · exact ⟨⟨rfl, rfl⟩, (or_none ..).symm⟩
  · exact ⟨⟨rfl, rfl⟩, (or_none ..).symm⟩
  · apply keeps_seq (approveArtifact_keeps hid _)
    · intro _ g' hend
      exact hend
    · intro e g' hend
      exact hend
  · exact ⟨trivial, persistRoutedLinkage_keeps hid actor sourceOpId⟩

theorem updateCommentRouteStatus_keeps (h : artifactId = g.artifactId)
    (opId : Nat) (status : Json) :
    (updateCommentRouteStatus artifactId opId status).keeps clientScript
      (EndsWith g fun _ => none) g :=
  ⟨h, fun _ => ⟨trivial, fun _ => ⟨⟨rfl, rfl⟩, (or_none ..).symm⟩⟩⟩

theorem routeRecorded_keeps (hid : g.opId = some opId) (client : ClientMeta)
    (post : CommentPost) (replayed settled : Bool) :
    (routeRecorded g.artifactId client post opId replayed settled).keeps clientScript
      (Confirms g opId opId?) g := by
  rw [routeRecorded]
  split
  · exact acknowledge_keeps rfl hid true
  · apply keeps_settled hid (handleClassifiedCommentRouting_keeps hid client.actor opId post)
    intro dispatch g₁ hsame₁ hid₁
    refine ⟨trivial, fun _ => ?_⟩
    apply keeps_settled hid₁ (updateCommentRouteStatus_keeps hsame₁.2.symm opId _)
    intro _ g₂ hsame₂ hid₂
    exact acknowledge_keeps (hsame₂.2.trans hsame₁.2).symm hid₂ replayed

theorem recordComment_keeps (hopen : g.opId = none) (post : CommentPost) :
    (recordComment g.artifactId g.call.client post).keeps clientScript Finishes g := by
  have hcomment : (recordComment g.artifactId g.call.client post).keeps clientScript
      (Answers g opId?) g := by
    apply keeps_before (replayLookup_keeps rfl g.call.client.writeIdempotencyKey)
    intro replayed g₁ hsame₁ hid₁
    have hkey : normalizedKey g.call.client.writeIdempotencyKey = g₁.call.key := by
      rw [hsame₁.1]
      rfl
    rw [← hsame₁.2]
    apply keeps_after_append (commentArtifact_keeps hkey) (hid₁.trans hopen)
    intro opId g₂ hsame₂ hid₂
    rw [← hsame₂.2]
    apply keeps_settled hid₂ (settledReplay_keeps rfl hid₂ replayed)
    intro settled g₃ hsame₃ hid₃
    rw [← hsame₃.2]
    exact routeRecorded_keeps hid₃ _ post replayed settled
  apply keeps_mono hcomment
  rintro r g' ⟨_, hconfirms⟩
  exact hconfirms.finishes

theorem ClientWrite.keeps (artifactId : String) (call : ClientWrite) :
    (call.prog artifactId).keeps clientScript Finishes ⟨artifactId, call, false, none, false, false⟩ := by
  rw [prog]
  split
  · next post hpost =>
    apply rejectStaleBaseVersion_keeps (g := ⟨artifactId, call, false, none, false, false⟩) rfl
    intro g hsame hopen
    have hpost' : g.call.post = .inl post := by rw [hsame.1, hpost]
    have hrecord := recordTimeline_keeps hopen hpost'
    rw [hsame.1, hsame.2] at hrecord
    exact hrecord
  · next post hpost =>
    rw [commentRoute]
    split
    · next hblank =>
      change call.isValid = false
      simp [isValid, hpost, hblank]
    · apply rejectStaleBaseVersion_keeps (g := ⟨artifactId, call, false, none, false, false⟩) rfl
      intro g hsame hopen
      have hrecord := recordComment_keeps hopen post
      rw [hsame.1, hsame.2] at hrecord
      exact hrecord

end IdAgents.Outputs
