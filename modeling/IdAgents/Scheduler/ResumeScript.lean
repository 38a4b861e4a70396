import IdAgents.Scheduler.ResumeDelivery
import IdAgents.Scheduler.Sweeps

namespace IdAgents
open JsText KeyedTable AtomicProgram Program

inductive FleetWork where
  | deliver (input : DeliverInput)
  | reconcile (opts : ReconcileOptions)
  | activity (a : Activity)

def FleetWork.prog : FleetWork → FleetProg Unit
  | deliver input => (fun _ => ()) <$> deliverClarificationResume input
  | reconcile opts => (fun _ => ()) <$> reconcileStaleClarifications opts
  | activity a => a.prog.inl

def Op.isDelivery : Op → Bool
  | resumeAfterClarification .. | markResumeDelivered .. | markResumeDeliveryFailed .. => true
  | _ => false

def FleetWork.IsOwn : FleetWork → Prop
  | activity (.call op) => op.isDelivery = false
  | _ => True

/-- Where a thread stands: it has minted the id of a question, written the resume that answers a
clarification, been refused by the agent, or been heard. -/
inductive ResumePhase where
  | idle
  | asking (clarificationId : String)
  | answering (phid clarificationId : String)
  | refused (phid : String)
  | told (phid : String)

def ResumePhase.About (p : String) : ResumePhase → Prop
  | answering q _ | refused q | told q => q = p
  | _ => False

def ResumePhase.write (g : ResumePhase) : UpdateStmt → Option Nat → ResumePhase
  | .resumeAfterClarification doc _ targetId _, some _ => answering doc.dispatchPhid targetId
  | .resumeAfterClarification .., none => idle
  | .markNeedsClarification .., _ | .markResumeDelivered .., _
  | .markResumeDeliveryFailed .., _ => idle
  | _, _ => g

def ResumePhase.hear (body : ResumeTalk) : TalkResult → ResumePhase
  | .ok _ => told body.dispatchId
  | _ => refused body.dispatchId

/-- What a thread writes it has come to: a question with the id it has minted, an answer delivered
that was heard, an answer undelivered that was not. -/
def UpdateStmt.DueAt (g : ResumePhase) : UpdateStmt → Prop
  | .markNeedsClarification _ _ id _ => g = .asking id
  | .markResumeDelivered doc _ _ => g = .told doc.dispatchPhid
  | .markResumeDeliveryFailed doc _ _ =>
    (∃ id, g = .answering doc.dispatchPhid id) ∨ g = .refused doc.dispatchPhid
  | _ => True

def resumeScript : Script fleet ResumePhase where
  see g c := match c with
    | .inl (_, .mintClarificationId) => fun id => .asking id
    | .inl (_, .update u) => g.write u
    | .inr (.talk _ body) => ResumePhase.hear body
    | _ => fun _ => g
  due g
    | .inl (_, .insert row) => Enqueued row
    | .inl (_, .update u) => u.DueAt g
    | .inr (.talk _ body) => ∃ id, g = .answering body.dispatchId id
    | _ => True

abbrev callScript : Script sql ResumePhase := resumeScript.left.labelled .call

theorem reactorCall_keeps (h : p.keeps callScript R g) : (reactorCall p).keeps resumeScript R g :=
  Script.keeps_inl (Script.keeps_tag h)

def AlwaysDue (c : Stmt) : Prop := ∀ l g, resumeScript.due g (.inl (l, c))

theorem alwaysDue_quiet : Quiet AlwaysDue := by
  intro c hc l g
  cases c <;> trivial

theorem routine_due : Routine AlwaysDue where
  quiet := alwaysDue_quiet
  reap u hu l g := by cases u <;> trivial
  update u hu _ l g := by cases u <;> trivial
  send _ _ _ := trivial

theorem keeps_of_allowed (h : Allowed AlwaysDue p) : p.keeps callScript (fun _ _ => True) g :=
  keeps_mono (keeps_of_meets (G := fun _ => True) h
    (fun g _ hc _ => ⟨hc .call g, fun _ => trivial⟩) trivial) fun _ _ _ => trivial

theorem labelled_keeps (h : AllowedAt AlwaysDue p) :
    p.keeps resumeScript.left (fun _ _ => True) g :=
  keeps_mono (keeps_of_meets (G := fun _ => True) h
    (fun g c hc _ => ⟨hc c.1 g, fun _ => trivial⟩) trivial) fun _ _ _ => trivial

theorem getByPhid_keeps : (getByPhid phid).keeps callScript
      (fun r g' => g' = g ∧ ∀ doc, r = .ok (some doc) → doc.dispatchPhid = phid) g := by
  refine ⟨trivial, fun (rows : List Row) => ⟨rfl, ?_⟩⟩
  intro doc h
  obtain ⟨row, hrow, rfl⟩ := Option.map_eq_some_iff.mp (Except.ok.inj h)
  simpa [rowToDoc] using List.find?_some hrow

theorem requireDoc_keeps : (requireDoc operation phid).keeps callScript
      (fun r g' => ∀ doc, r = .ok doc → g' = g ∧ doc.dispatchPhid = phid) g := by
  apply keeps_seq getByPhid_keeps
  · rintro doc g' ⟨rfl, hdoc⟩
    cases doc with
    | none => exact fun _ h => nomatch h
    | some doc =>
      rintro _ ⟨⟩
      exact ⟨rfl, hdoc doc rfl⟩
  · exact fun _ _ _ _ h => nomatch h

theorem postUpdateRead_keeps : (postUpdateRead operation phid).keeps callScript
      (fun r g' => ∀ doc, r = .ok doc → g' = g ∧ doc.dispatchPhid = phid) g := by
  apply keeps_seq getByPhid_keeps
  · rintro doc g' ⟨rfl, hdoc⟩
    cases doc with
    | none => exact fun _ h => nomatch h
    | some doc =>
      rintro _ ⟨⟩
      exact ⟨rfl, hdoc doc rfl⟩
  · exact fun _ _ _ _ h => nomatch h

theorem nowFn_keeps : nowFn.keeps callScript (fun _ g' => g' = g) g := ⟨trivial, fun _ => rfl⟩

theorem execUpdate_keeps (h : u.DueAt g) :
    (execUpdate u).keeps callScript (fun r g' => ∀ n, r = .ok n → g' = g.write u (some n)) g := by
  refine ⟨h, fun (n : Option Nat) => ?_⟩
  cases n with
  | none => exact fun _ h => nomatch h
  | some n =>
    rintro _ ⟨⟩
    rfl

theorem writeUnguarded_keeps {write : DispatchDoc → Instant → UpdateStmt} {P : ResumePhase → Prop}
    (hdue : ∀ doc now, doc.dispatchPhid = phid → (write doc now).DueAt g)
    (hwrite : ∀ doc now n, doc.dispatchPhid = phid → P (g.write (write doc now) (some n))) :
    (writeUnguarded operation phid reject write).keeps callScript
      (fun r g' => ∀ doc, r = .ok doc → doc.dispatchPhid = phid ∧ P g') g := by
  apply keeps_seq requireDoc_keeps
  · intro doc g' hread
    obtain ⟨rfl, hdoc⟩ := hread doc rfl
    cases reject doc with
    | some message => exact fun _ h => nomatch h
    | none =>
      apply keeps_seq nowFn_keeps
      · rintro now g' rfl
        apply keeps_seq (execUpdate_keeps (hdue doc now hdoc))
        · intro n g' hupdate
          apply keeps_mono postUpdateRead_keeps
          intro r g'' hafter updated hr
          obtain ⟨rfl, hupdated⟩ := hafter updated hr
          refine ⟨hupdated, ?_⟩
          rw [hupdate n rfl]
          exact hwrite doc now n hdoc
        · exact fun _ _ _ _ h => nomatch h
      · exact fun _ _ _ _ h => nomatch h
  · exact fun _ _ _ _ h => nomatch h

theorem resumeAfterClarification_keeps : (resumeAfterClarification phid input).keeps callScript
      (fun r g' => ∀ doc, r = .ok doc → ∃ id, g' = .answering doc.dispatchPhid id) g := by
  have hwrite : (resumeAfterClarification phid input).keeps callScript (fun r g' =>
      ∀ doc, r = .ok doc → doc.dispatchPhid = phid ∧ ∃ id, g' = .answering phid id) g := by
    apply writeUnguarded_keeps
    · intros
      trivial
    · intro doc now n hdoc
      exact ⟨resumeTarget input doc, by rw [← hdoc]; rfl⟩
  apply keeps_mono hwrite
  intro r g' h doc hr
  obtain ⟨rfl, hanswering⟩ := h doc hr
  exact hanswering

def Delivery.Phase (p : String) (g : ResumePhase) : Delivery → Prop
  | .ok _ => g = .told p
  | .error _ => (∃ id, g = .answering p id) ∨ g = .refused p

theorem followUp_keeps {resumed : DispatchDoc} {id : String} :
    (followUp input resumed).keeps resumeScript
      (fun r g => ∀ outcome, r = .ok outcome → outcome.Phase resumed.dispatchPhid g)
      (.answering resumed.dispatchPhid id) := by
  refine ⟨trivial, fun (endpoint : Except String (Option String)) => ?_⟩
  have hanswering : ∀ message, Delivery.Phase resumed.dispatchPhid
      (.answering resumed.dispatchPhid id) (.error message) := fun _ => .inl ⟨id, rfl⟩
  cases endpoint with
  | error message =>
    rintro _ ⟨⟩
    exact hanswering message
  | ok endpoint =>
    dsimp only [Program.bind]
    split
    · rintro _ ⟨⟩
      exact hanswering _
    · refine ⟨⟨id, rfl⟩, fun (answer : TalkResult) => ?_⟩
      cases answer with
      | ok queryId =>
        rintro _ ⟨⟩
        rfl
      | notOk | threw =>
        rintro _ ⟨⟩
        exact .inr rfl

theorem markDelivery_keeps {resumed : DispatchDoc} {outcome : Delivery}
    (h : outcome.Phase resumed.dispatchPhid g) :
    (markDelivery input resumed outcome).keeps resumeScript (fun _ _ => True) g := by
  cases outcome with
  | ok agentQueryId =>
    have hmark : ∀ args, (markResumeDelivered resumed.dispatchPhid args).keeps callScript
        (fun _ _ => True) g := by
      intro args
      apply keeps_mono (R := fun r _ => ∀ doc, r = .ok doc → _ ∧ True)
      · apply writeUnguarded_keeps
        · intro doc now hdoc
          change g = .told doc.dispatchPhid
          rw [hdoc]
          exact h
        · intros
          trivial
      · intros
        trivial
    exact keeps_then (reactorCall_keeps (hmark _)) fun _ _ => trivial
  | error failureDetail =>
    have hmark : ∀ args, (markResumeDeliveryFailed resumed.dispatchPhid args).keeps callScript
        (fun _ _ => True) g := by
      intro args
      apply keeps_mono (R := fun r _ => ∀ doc, r = .ok doc → _ ∧ True)
      · apply writeUnguarded_keeps
        · intro doc now hdoc
          change (∃ id, g = .answering doc.dispatchPhid id) ∨ g = .refused doc.dispatchPhid
          rw [hdoc]
          exact h
        · intros
          trivial
      · intros
        trivial
    exact keeps_then (reactorCall_keeps (hmark _)) fun _ _ => trivial

abbrev KeepsScript (p : FleetProg α) (g : ResumePhase) : Prop := p.keeps resumeScript (fun _ _ => True) g

theorem deliverClarificationResume_follows : KeepsScript (deliverClarificationResume input) g := by
  apply keeps_seq (reactorCall_keeps resumeAfterClarification_keeps)
  · intro resumed g' hresume
    obtain ⟨id, rfl⟩ := hresume resumed rfl
    apply keeps_seq followUp_keeps
    · intro outcome g' houtcome
      exact markDelivery_keeps (houtcome outcome rfl)
    · intros
      trivial
  · intros
    trivial

theorem emitReceipt_follows : KeepsScript (emitReceipt opts receipt) g := by
  rw [emitReceipt]
  split
  · refine ⟨trivial, fun (recorded : Except String Unit) => ?_⟩
    cases recorded <;> trivial
  · trivial

theorem autoResume_follows : KeepsScript (autoResume opts doc blocker ready) g := by
  rw [autoResume]
  dsimp only
  split
  · trivial
  · apply keeps_then deliverClarificationResume_follows
    intro delivered g
    exact keeps_then emitReceipt_follows fun _ _ => trivial

theorem surfaceStale_follows : KeepsScript (surfaceStale opts nowMs doc blocker) g := by
  have hstale : ∀ input, Allowed AlwaysDue (markClarificationStale doc.dispatchPhid input) := by
    intro input
    apply writeUnguarded_allowed alwaysDue_quiet
    intros
    intro l g
    trivial
  unfold surfaceStale
  dsimp only
  split
  · trivial
  · apply keeps_then (reactorCall_keeps (keeps_of_allowed (hstale _)))
    intro doc g
    exact keeps_then emitReceipt_follows fun _ _ => trivial

theorem reconcileDoc_follows : KeepsScript (reconcileDoc opts nowMs items doc) g := by
  rw [reconcileDoc]
  split
  · trivial
  · have hone : ∀ blocker, KeepsScript (reconcileOne opts nowMs doc blocker) g := by
      intro blocker
      rw [reconcileOne]
      split
      · exact autoResume_follows
      split
      · trivial
      · exact surfaceStale_follows
    exact keeps_then (hone _) fun _ _ => trivial

theorem reconcileStaleClarifications_follows : KeepsScript (reconcileStaleClarifications opts) g := by
  have hnow : KeepsScript (opts.nowMs.elim (reactorCall nowFn) .ret) g := by
    cases opts.nowMs with
    | none => exact ⟨trivial, fun _ => trivial⟩
    | some now => trivial
  apply keeps_then hnow
  intro nowMs g
  have hlist : Allowed AlwaysDue (listStaleClarifications (opts.nowIso.getD nowMs) opts.limit) :=
    (selectRows_allowed alwaysDue_quiet).bind fun _ => trivial
  apply keeps_then (reactorCall_keeps (keeps_of_allowed hlist))
  intro stale g
  apply keeps_fold (J := fun _ _ => True) [] trivial
  · intro items doc docs g _
    apply keeps_mono reconcileDoc_follows
    intro r g' _
    cases r <;> trivial
  · intros
    trivial

theorem markNeedsClarification_keeps :
    (markNeedsClarification phid input).keeps callScript (fun _ _ => True) g := by
  apply keeps_seq requireDoc_keeps
  · intro doc g' _
    split
    · trivial
    · apply keeps_then (keeps_mono nowFn_keeps fun _ _ _ => trivial)
      intro now g
      cases idempotentClarification doc input now with
      | some active => trivial
      | none =>
        refine ⟨trivial, fun (id : String) => ?_⟩
        have hask := execUpdate_keeps (u := .markNeedsClarification doc input id now)
          (g := .asking id) rfl
        apply keeps_then (keeps_mono hask fun _ _ _ => trivial)
        intro n g
        exact keeps_then (keeps_mono postUpdateRead_keeps fun _ _ _ => trivial)
          fun _ _ => trivial
  · intros
    trivial

theorem op_keeps {op : Op} (h : op.isDelivery = false) :
    op.prog.keeps callScript (fun _ _ => True) g := by
  by_cases hquestion : ∃ phid input, op = .markNeedsClarification phid input
  · obtain ⟨phid, input, rfl⟩ := hquestion
    exact keeps_then markNeedsClarification_keeps fun _ _ => trivial
  · apply keeps_of_allowed
    apply op.prog_allowed alwaysDue_quiet
    · intro row hrow l g
      exact hrow.enqueued
    · intro u hu l g
      cases op with
      | markNeedsClarification phid input => exact absurd ⟨phid, input, rfl⟩ hquestion
      | resumeAfterClarification | markResumeDelivered | markResumeDeliveryFailed => cases h
      | _ => cases u <;> trivial

theorem activity_keeps (h : (FleetWork.activity a).IsOwn) :
    a.prog.keeps resumeScript.left (fun _ _ => True) g := by
  cases a with
  | call op =>
    have hcall : (attempt op.prog).keeps callScript (fun _ _ => True) g := by
      apply keeps_tryCatch (T := fun _ _ => True)
      · exact keeps_then (op_keeps h) fun _ _ => trivial
      · intros
        trivial
      · intros
        trivial
    exact keeps_then (Script.keeps_tag hcall) fun _ _ => trivial
  | agentDone opts args =>
    have hdone := attempt_allowed (handleAgentDone_allowed routine_due opts args)
    exact labelled_keeps ((hdone.tag .closeout).bind fun _ => trivial)
  | tick opts => exact labelled_keeps ((tick_allowed routine_due opts).bind fun _ => trivial)
  | recovery opts => exact labelled_keeps ((runOnce_allowed routine_due opts).bind fun _ => trivial)

theorem FleetWork.follows {work : FleetWork} (h : work.IsOwn) : KeepsScript work.prog g := by
  cases work with
  | deliver input => exact keeps_then deliverClarificationResume_follows fun _ _ => trivial
  | reconcile opts =>
    exact keeps_then reconcileStaleClarifications_follows fun _ _ => trivial
  | activity a => exact Script.keeps_inl (activity_keeps h)

end IdAgents
