import Mathlib.Data.List.Induction
import IdAgents.Outputs.Ops

namespace IdAgents.Outputs
open JsMap AtomicProgram List

inductive ReviewCall where
  | view (req : ViewRequest)
  | approve (req : ApproveRequest)
  | reject (req : ApproveRequest)
  | revise (bodyMarkdown actor : String)
  | comment (req : CommentRequest)
  | ship (req : ShipRequest)

def ReviewCall.prog (artifactId : String) : ReviewCall → Prog Unit
  | view req => (viewArtifact artifactId req).bind fun _ => .ret ()
  | approve req => (approveArtifact artifactId req).bind fun _ => .ret ()
  | reject req => (rejectArtifact artifactId req).bind fun _ => .ret ()
  | revise bodyMarkdown actor => (reviseDraft artifactId bodyMarkdown actor).bind fun _ => .ret ()
  | comment req => (commentArtifact artifactId req).bind fun _ => .ret ()
  | ship req => (shipRoute artifactId req).bind fun _ => .ret ()

structure ReviewRun where
  artifactId : String
  calls : List ReviewCall
  schedule : List Nat
  start : World

inductive Stamp where
  | approved | rejected | shipped

def Stamp.of : Stamp → ReviewState → Option String
  | approved, row => row.approvedAt
  | rejected, row => row.rejectedAt
  | shipped, row => row.shippedAt

def Stamp.ofRow (stamp : Stamp) (row : Option ReviewState) : Option String := row.bind stamp.of

def sends (e : Event sql World) : Bool :=
  match e.stmt with
  | .send _ payload body => match e.before.env.send e.before.step payload body with
    | .ok result => result.ok && result.evidence.isSome
    | .error _ => false
  | _ => false

namespace ReviewRun

variable (run : ReviewRun)

def threads : List (Prog Unit) := run.calls.map (ReviewCall.prog run.artifactId)

def events : List (Nat × Event sql World) :=
  interleaveEvents run.schedule run.threads run.start

/-- The world after `n` steps of the schedule. -/
def world (n : Nat) : World :=
  (interleave (run.schedule.take n) run.threads run.start).2

def WriteOnce : Prop :=
  (run.events.filter (sends ·.2)).length ≤ 1 ∧
    ∀ m n, m ≤ n → ∀ stamp : Stamp,
      isSet (stamp.ofRow ((run.world m).reviews.get? run.artifactId)) →
        stamp.ofRow ((run.world n).reviews.get? run.artifactId) =
          stamp.ofRow ((run.world m).reviews.get? run.artifactId)

end ReviewRun

def sameStamps (row row' : Option ReviewState) : Bool :=
  [Stamp.approved, .rejected, .shipped].all fun stamp => stamp.ofRow row = stamp.ofRow row'

section
variable (artifactId : String)

/-- An UPDATE finds the stamps that its request has read, both times. A send finds the stamps that
its ship has read, and finds the sends before it recorded in the row. -/
def upToDate (es : List (Nat × Event sql World)) (e : Event sql World) : Bool :=
  match e.stmt with
  | .updateReview existing write _ =>
    let row := e.before.reviews.get? existing.artifactId
    sameStamps existing row && sameStamps write.first row
  | .send existing _ _ =>
    let row := e.before.reviews.get? artifactId
    sameStamps existing row && (isSet (Stamp.shipped.ofRow row) || !es.any (sends ·.2))
  | _ => true

def ReviewRun.UpToDate (run : ReviewRun) : Prop :=
  ∀ n i e, run.events[n]? = some (i, e) → upToDate run.artifactId (run.events.take n) e

def ReviewWrite.Unshipped : ReviewWrite → Prop
  | ship first .. => isSet (Stamp.shipped.ofRow first) = false
  | _ => True

def Stmt.Unshipped : Stmt → Prop
  | send existing _ _ => isSet (Stamp.shipped.ofRow existing) = false
  | insertReview _ write _ => write.Unshipped
  | updateReview _ write _ => write.Unshipped
  | _ => True

theorem appendOperation_unshipped (opType : ArtifactOpType)
    (actor nowIso : String) (payload : Option Json) (sourceLink key : Option String) :
    (appendOperation artifactId opType actor nowIso payload sourceLink key).Meets Stmt.Unshipped
      fun _ => True :=
  appendOnce_meets (fun _ => trivial) trivial

theorem upsertReviewState_unshipped (h : write.Unshipped) (artifactId nowIso : String) :
    (upsertReviewState artifactId write nowIso).Meets Stmt.Unshipped fun _ => True :=
  upsertReviewState_meets trivial (fun _ => h) (fun _ _ => h) nowIso

theorem touchReview_unshipped (existing : Option ReviewState)
    (sourceLink : Option String) (ts : String) :
    (touchReview artifactId existing sourceLink ts).Meets Stmt.Unshipped fun _ => True := by
  have htouch : (ReviewWrite.touch existing sourceLink).Unshipped := trivial
  apply (upsertReviewState_unshipped htouch artifactId ts).bind
  intro _ _
  trivial

theorem stamped_unshipped (write : ReviewWrite) (h : write.Unshipped) (artifactId ts : String)
    (f : ReviewState → Prog α) (hf : ∀ state, (f state).Meets Stmt.Unshipped fun _ => True) :
    ((upsertReviewState artifactId write ts).bind f).Meets Stmt.Unshipped fun _ => True := by
  apply (upsertReviewState_unshipped h artifactId ts).bind
  intro state _
  exact hf state

theorem appended_unshipped (opType : ArtifactOpType)
    (actor nowIso : String) (payload : Option Json) (sourceLink key : Option String) (f : Nat → α) :
    ((appendOperation artifactId opType actor nowIso payload sourceLink key).bind fun opId =>
      .ret (f opId)).Meets Stmt.Unshipped fun _ => True := by
  apply (appendOperation_unshipped ..).bind
  intro _ _
  trivial

theorem viewArtifact_unshipped (req : ViewRequest) :
    (viewArtifact artifactId req).Meets Stmt.Unshipped fun _ => True := by
  refine ⟨trivial, fun ts => ⟨trivial, fun existing => ?_⟩⟩
  exact stamped_unshipped (.view ..) trivial artifactId ts _ fun _ => appended_unshipped ..

theorem approveArtifact_unshipped (req : ApproveRequest) :
    (approveArtifact artifactId req).Meets Stmt.Unshipped fun _ => True := by
  refine ⟨trivial, fun ts => ⟨trivial, fun existing => ?_⟩⟩
  exact stamped_unshipped (.approve ..) trivial artifactId ts _ fun _ => appended_unshipped ..

theorem rejectArtifact_unshipped (req : ApproveRequest) :
    (rejectArtifact artifactId req).Meets Stmt.Unshipped fun _ => True := by
  refine ⟨trivial, fun ts => ⟨trivial, fun existing => ?_⟩⟩
  exact stamped_unshipped (.reject ..) trivial artifactId ts _ fun _ => appended_unshipped ..

theorem commentArtifact_unshipped (req : CommentRequest) :
    (commentArtifact artifactId req).Meets Stmt.Unshipped fun _ => True := by
  refine ⟨trivial, fun ts => ⟨trivial, fun existing => ?_⟩⟩
  apply (touchReview_unshipped artifactId existing req.sourceLink ts).bind
  intro _ _
  exact appendOperation_unshipped ..

end

theorem recordRevision_unshipped (artifactId bodyMarkdown actor ts : String)
    (draft : Option CaneDraftPayload) :
    (recordRevision artifactId bodyMarkdown actor ts draft).Meets Stmt.Unshipped fun _ => True := by
  cases draft with
  | none => trivial
  | some payload =>
    refine ⟨trivial, fun _ => ⟨trivial, fun existing => ?_⟩⟩
    apply (touchReview_unshipped ..).bind
    intro _ _
    exact appendOperation_unshipped ..

theorem recordBlocked_unshipped (artifactId shipper ts : String) (existing : Option ReviewState)
    (sourceLink : Option String) (blockers : List String) (detail : String × Json) :
    (recordBlocked artifactId shipper ts existing sourceLink blockers detail).Meets
      Stmt.Unshipped fun _ => True :=
  stamped_unshipped (.block ..) trivial artifactId ts _ fun _ => appended_unshipped ..

variable {existing : Option ReviewState}

theorem recordShipped_unshipped
    (h : isSet (Stamp.shipped.ofRow existing) = false) (artifactId shipper ts shippedAt : String)
    (sourceLink : Option String) (payload : List (String × Json)) :
    (recordShipped artifactId shipper ts shippedAt existing sourceLink payload).Meets
      Stmt.Unshipped fun _ => True :=
  stamped_unshipped (.ship ..) h artifactId ts _ fun _ => appended_unshipped ..

theorem recordSend_unshipped
    (h : isSet (Stamp.shipped.ofRow existing) = false) (artifactId shipper ts : String)
    (sourceLink : Option String) (result : CaneSendResult) :
    (recordSend artifactId shipper ts existing sourceLink result).Meets Stmt.Unshipped
      fun _ => True := by
  rw [recordSend]
  split
  · split
    · exact recordShipped_unshipped h ..
    · exact recordBlocked_unshipped ..
  · exact recordBlocked_unshipped ..

theorem unshipped_of_blockers (h : computeShipBlockers existing isCaneDraft = []) :
    isSet (Stamp.shipped.ofRow existing) = false := by
  cases hset : isSet (Stamp.shipped.ofRow existing) with
  | false => rfl
  | true =>
    have hblocked : isSet (existing.bind (·.shippedAt)) = true := hset
    simp [computeShipBlockers, hblocked] at h

theorem sendDraft_unshipped
    (h : isSet (Stamp.shipped.ofRow existing) = false) (artifactId shipper ts : String)
    (sourceLink : Option String) (draft : CaneDraftShipContext) :
    (sendDraft artifactId shipper ts existing sourceLink draft).Meets Stmt.Unshipped
      fun _ => True := by
  have hsent (sent : Except String CaneSendResult) : (Program.bind (orError sent)
      (recordSend artifactId shipper ts existing sourceLink)).Meets Stmt.Unshipped
      fun _ => True := by
    cases sent with
    | error e => trivial
    | ok result => exact recordSend_unshipped h ..
  exact ⟨h, hsent⟩

theorem shipRead_unshipped (artifactId : String) (req : ShipRequest)
    (caneDraft : Option CaneDraftShipContext) (ts : String) (existing : Option ReviewState) :
    (shipRead artifactId req caneDraft ts existing).Meets Stmt.Unshipped fun _ => True := by
  unfold shipRead
  dsimp only
  split
  · exact recordBlocked_unshipped ..
  · next hfree =>
    have hunshipped : isSet (Stamp.shipped.ofRow existing) = false :=
      unshipped_of_blockers (not_not.mp hfree)
    cases caneDraft with
    | some draft => exact sendDraft_unshipped hunshipped ..
    | none => exact recordShipped_unshipped hunshipped ..
section
variable (artifactId : String)

theorem shipArtifact_unshipped (req : ShipRequest) (caneDraft : Option CaneDraftShipContext) :
    (shipArtifact artifactId req caneDraft).Meets Stmt.Unshipped fun _ => True :=
  ⟨trivial, fun ts => ⟨trivial, shipRead_unshipped artifactId req caneDraft ts⟩⟩

theorem shipRoute_unshipped (req : ShipRequest) :
    (shipRoute artifactId req).Meets Stmt.Unshipped fun _ => True := by
  have hfound (draft : Option CaneDraftPayload) :
      (shipFound artifactId req draft).Meets Stmt.Unshipped fun _ => True := by
    cases draft with
    | none => exact shipArtifact_unshipped artifactId req none
    | some payload =>
      exact ⟨trivial, fun ops => shipArtifact_unshipped artifactId req _⟩
  exact ⟨trivial, hfound⟩

theorem ReviewCall.meets (call : ReviewCall) :
    (call.prog artifactId).Meets Stmt.Unshipped fun _ => True := by
  have hdone {α : Type} {p : Prog α} (hp : p.Meets Stmt.Unshipped fun _ => True) :
      (p.bind fun _ => Program.ret ()).Meets Stmt.Unshipped fun _ => True := by
    apply hp.bind
    intro _ _
    trivial
  cases call with
  | view req => exact hdone (viewArtifact_unshipped artifactId req)
  | approve req => exact hdone (approveArtifact_unshipped artifactId req)
  | reject req => exact hdone (rejectArtifact_unshipped artifactId req)
  | revise bodyMarkdown actor =>
    have hrevise : (reviseDraft artifactId bodyMarkdown actor).Meets Stmt.Unshipped
        fun _ => True :=
      ⟨trivial, fun ts => ⟨trivial, recordRevision_unshipped artifactId bodyMarkdown actor ts⟩⟩
    exact hdone hrevise
  | comment req => exact hdone (commentArtifact_unshipped artifactId req)
  | ship req => exact hdone (shipRoute_unshipped artifactId req)

end

theorem ReviewWrite.stamp_merge {write : ReviewWrite} {stamp : Stamp} {existing : ReviewState}
    (h : write.Unshipped) (hset : isSet (some ts)) (hfirst : stamp.ofRow write.first = some ts)
    (hexisting : stamp.of existing = some ts) :
    stamp.of (write.patch.merge existing nowIso) = some ts := by
  cases write with
  | ship first shipper shippedAt sourceLink =>
    cases stamp with
    | shipped =>
      have hread : Stamp.shipped.ofRow first = some ts := hfirst
      have hunshipped : isSet (Stamp.shipped.ofRow first) = false := h
      rw [hread, hset] at hunshipped
      cases hunshipped
    | approved => exact hexisting
    | rejected => exact hexisting
  | approve first approver ts' note sourceLink =>
    cases stamp with
    | approved =>
      have hread : first.bind (·.approvedAt) = some ts := hfirst
      simp only [Stamp.of, ReviewPatch.merge, patch, hread, Option.some_or, Option.getD_some]
    | rejected => exact hexisting
    | shipped => exact hexisting
  | reject first rejecter ts' note sourceLink =>
    cases stamp with
    | rejected =>
      have hread : first.bind (·.rejectedAt) = some ts := hfirst
      simp only [Stamp.of, ReviewPatch.merge, patch, hread, Option.some_or, Option.getD_some]
    | approved => exact hexisting
    | shipped => exact hexisting
  | _ => cases stamp <;> exact hexisting

theorem sameStamps_eq (h : sameStamps row row') (stamp : Stamp) :
    stamp.ofRow row = stamp.ofRow row' := by
  simp only [sameStamps, all_cons, all_nil, Bool.and_true, Bool.and_eq_true,
    decide_eq_true_eq] at h
  obtain ⟨happroved, hrejected, hshipped⟩ := h
  cases stamp
  · exact happroved
  · exact hrejected
  · exact hshipped

theorem stamp_effect (h : c.Unshipped)
    (hup : upToDate artifactId es ⟨c, w⟩) (key : String) (stamp : Stamp)
    (hset : isSet (stamp.ofRow (w.reviews.get? key))) :
    stamp.ofRow ((c.effect w).reviews.get? key) = stamp.ofRow (w.reviews.get? key) := by
  cases c with
  | insertReview artifactId write nowIso =>
    rw [Stmt.effect_reviews, Stmt.reviews]
    split
    · rfl
    · next hfree =>
      by_cases hkey : key = artifactId
      · rw [hkey] at hset
        rw [Dict.has_eq, Option.not_isSome_iff_eq_none] at hfree
        rw [hfree] at hset
        cases hset
      · rw [Dict.get?_set_ne hkey]
  | updateReview existing write nowIso =>
    obtain ⟨hexisting, hfirst⟩ := Bool.and_eq_true_iff.mp hup
    rw [Stmt.effect_reviews, Stmt.reviews]
    split
    · rfl
    · next row hrow =>
      by_cases hkey : key = existing.artifactId
      · subst hkey
        rw [Dict.get?_set_self, hrow]
        have hread := sameStamps_eq hexisting stamp
        have hread' := sameStamps_eq hfirst stamp
        rw [hrow] at hread hread' hset
        cases hstamp : stamp.ofRow (some row) with
        | none =>
          rw [hstamp] at hset
          cases hset
        | some ts =>
          rw [hstamp] at hread hread' hset
          have hmerge : stamp.of (write.patch.merge existing nowIso) = some ts :=
            ReviewWrite.stamp_merge h hset hread' hread
          cases stamp <;> exact hmerge
      · rw [Dict.get?_set_ne hkey]
  | _ => rfl

theorem first_send (h : e.stmt.Unshipped) (hup : upToDate artifactId es e)
    (hsends : sends e) : ∀ earlier ∈ es, sends earlier.2 = false := by
  obtain ⟨c, w⟩ := e
  cases c with
  | send existing payload body =>
    obtain ⟨hread, hrecorded⟩ := Bool.and_eq_true_iff.mp hup
    have hunshipped : isSet (Stamp.shipped.ofRow existing) = false := h
    rw [sameStamps_eq hread .shipped] at hunshipped
    rw [hunshipped, Bool.false_or] at hrecorded
    simpa using hrecorded
  | _ => cases hsends

theorem ReviewRun.unshipped (run : ReviewRun) (h : (i, e) ∈ run.events) : e.stmt.Unshipped := by
  have hthreads : ∀ (j : Nat) (p : Prog Unit), run.threads[j]? = some p →
      p.Meets Stmt.Unshipped fun _ => True := by
    intro j p hp
    rw [threads, getElem?_map, Option.map_eq_some_iff] at hp
    obtain ⟨call, _, rfl⟩ := hp
    exact call.meets run.artifactId
  exact interleaveEvents_meet (Q := fun _ => Stmt.Unshipped) run.schedule run.start hthreads (i, e) h

theorem filter_length_le_one {p : α → Bool} {l : List α}
    (h : ∀ n x, l[n]? = some x → p x → ∀ y ∈ l.take n, p y = false) : (l.filter p).length ≤ 1 := by
  induction l using reverseRecOn with
  | nil => simp
  | append_singleton l x ih =>
    have hlast : (l ++ [x])[l.length]? = some x := by simp
    rw [filter_append, length_append]
    cases hx : p x with
    | true =>
      have hnone := h _ _ hlast hx
      rw [take_left] at hnone
      rw [filter_eq_nil_iff.mpr fun y hy => by simp [hnone y hy]]
      simp [hx]
    | false =>
      have hinit : (l.filter p).length ≤ 1 := by
        apply ih
        intro n y hy hpy z hz
        have hn : n < l.length := (List.getElem?_eq_some_iff.mp hy).1
        apply h n y (by rw [List.getElem?_append_left hn, hy]) hpy
        rw [take_append_of_le_length (Nat.le_of_lt hn)]
        exact hz
      simpa [hx] using hinit

/-- In every run whose sends and UPDATEs are up to date, the draft is sent at most once and no stamp
that is set changes. -/
theorem ReviewRun.writesOnce {run : ReviewRun} (h : run.UpToDate) : run.WriteOnce := by
  constructor
  · apply filter_length_le_one
    rintro n ⟨i, e⟩ he hsends
    exact first_send (run.unshipped (mem_of_getElem? he)) (h n i e he) hsends
  · intro m n hmn stamp hset
    obtain ⟨es, hchain, hevents⟩ :=
      interleave_between run.schedule run.threads run.start hmn
    have hkept := hchain.related (R := fun w w' : World =>
      isSet (stamp.ofRow (w.reviews.get? run.artifactId)) →
        stamp.ofRow (w'.reviews.get? run.artifactId) =
          stamp.ofRow (w.reviews.get? run.artifactId)) (fun _ _ => rfl)
      (fun s t u hst htu hs => by
        have ht := hst hs
        rw [← ht] at hs
        exact (htu hs).trans ht)
      (fun e he hs => by
        obtain ⟨i, hmem⟩ := hevents e he
        obtain ⟨k, hk⟩ := getElem?_of_mem hmem
        exact stamp_effect (run.unshipped hmem) (h k i e hk) run.artifactId stamp hs)
    exact hkept hset

def approvedRow : ReviewState :=
  (ReviewWrite.approve none "user:chris" "2026-01-01T00:00:00.000Z" none none).patch.create "art"
    "2026-01-01T00:00:00.000Z"

def approvedDraft : World where
  reviews := Dict.empty.set "art" approvedRow
  operations := .empty
  drafts := Dict.empty.set "art" ⟨"cane:draft:1", "Hello", []⟩
  step := 0
  env := {
    clock := toString
    mintSuggestionId := toString
    send := fun step _ _ => .ok ⟨true, some ⟨toString step, "message", false⟩, none⟩
    fileBody := fun _ _ => ""
    routeComment := fun _ _ => none }

def shippedBy (schedule : List Nat) : ReviewRun where
  artifactId := "art"
  calls := [.ship { shipper := "user:chris" }, .ship { shipper := "user:liz" }]
  schedule := schedule
  start := approvedDraft

def shippedTogether : ReviewRun :=
  shippedBy [0, 0, 0, 0, 1, 1, 1, 1, 0, 1, 0, 0, 1, 1]

theorem not_writesOnce : ¬ shippedTogether.WriteOnce := by
  intro h
  have htwice : ¬ (shippedTogether.events.filter (sends ·.2)).length ≤ 1 := by decide +kernel
  exact htwice h.1

def shippedApart : ReviewRun := shippedBy [0, 0, 0, 0, 0, 0, 0, 0, 0, 1, 1, 1, 1, 1, 1, 1, 1]

theorem writesOnce_apart : shippedApart.WriteOnce := by
  apply ReviewRun.writesOnce
  intro n i e he
  have hall : ∀ n < 17, (shippedApart.events[n]?).all fun x =>
      upToDate "art" (shippedApart.events.take n) x.2 := by decide +kernel
  have hlength : shippedApart.events.length ≤ 17 := by decide +kernel
  have hn := (List.getElem?_eq_some_iff.mp he).1
  have hn' := hall n (Nat.lt_of_lt_of_le hn hlength)
  rw [he] at hn'
  exact hn'

end IdAgents.Outputs
