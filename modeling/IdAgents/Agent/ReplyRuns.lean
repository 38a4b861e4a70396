import Mathlib.Data.List.Induction
import IdAgents.Agent.Replies

namespace IdAgents.Agent
open JsText JsMap List

namespace TalkRun
variable {run : TalkRun}

@[simp] theorem after_concat (es : List TalkEvent) (e : TalkEvent) :
    run.after (es ++ [e]) = (run.after es).step e := by
  rw [after, after, foldl_append, foldl_cons, foldl_nil]

theorem Replied.concat (h : run.Replied es queryId) (e : TalkEvent) :
    run.Replied (es ++ [e]) queryId := by
  obtain ⟨fs, f, gs, req, rfl, hdecides⟩ := h
  exact ⟨fs, f, gs ++ [e], req, by rw [append_assoc, cons_append], hdecides⟩

theorem replied_concat (h : (run.after es).Decides e queryId req true) :
    run.Replied (es ++ [e]) queryId :=
  ⟨es, e, [], req, rfl, h⟩

theorem decided_concat (h : run.Decided (es ++ [e]) queryId) : run.Decided es queryId ∨
    ∃ req written, (run.after es).Decides e queryId req written := by
  obtain ⟨fs, f, gs, req, written, heq, hdecides⟩ := h
  obtain rfl | ⟨gs, g, rfl⟩ := eq_nil_or_concat gs
  · obtain ⟨rfl, hfe⟩ := append_inj' heq rfl
    cases hfe
    exact .inr ⟨req, written, hdecides⟩
  · rw [concat_eq_append, ← cons_append, ← append_assoc] at heq
    obtain ⟨rfl, -⟩ := append_inj' heq rfl
    exact .inl ⟨fs, f, gs, req, written, rfl, hdecides⟩

theorem Replied.decided (h : run.Replied es queryId) : run.Decided es queryId := by
  obtain ⟨fs, e, gs, req, heq, hdecides⟩ := h
  exact ⟨fs, e, gs, req, true, heq, hdecides⟩

theorem InTime.replied (h : run.InTime) (hquery : queryId ∈ run.queryIds) :
    ∀ fs, run.events = es ++ fs → run.Decided es queryId →
      run.Replied es queryId ∧ ∀ id, ¬ (run.after es).Waits id queryId := by
  induction es using reverseRecOn with
  | nil =>
    rintro fs - ⟨gs, e, hs, _, _, heq, -⟩
    exact absurd heq.symm (append_ne_nil_of_right_ne_nil gs (cons_ne_nil e hs))
  | append_singleton es e ih =>
    intro fs hes hdecided
    rw [append_assoc, singleton_append] at hes
    rw [after_concat]
    by_cases hbefore : run.Decided es queryId
    · obtain ⟨hreplied, hfree⟩ := ih (e :: fs) hes hbefore
      refine ⟨hreplied.concat e, fun id hwaits => ?_⟩
      obtain hwaits | hregisters := TalkServer.waits_step hwaits
      · exact hfree id hwaits
      · exact h.registers es e fs queryId id hes hquery hregisters hreplied
    · obtain hbefore' | ⟨req, written, hdecides⟩ := decided_concat hdecided
      · exact absurd hbefore' hbefore
      · obtain ⟨rfl, hheld⟩ := h.first es e fs queryId req written hes hquery ⟨hdecides, hbefore⟩
        refine ⟨replied_concat hdecides, fun id hwaits => ?_⟩
        obtain ⟨hwaits, hother⟩ := hdecides.waits_iff.mp hwaits
        exact hother ⟨rfl, (hheld id).mpr hwaits⟩

theorem responded_append (h : (run.after es).Responded news) (fs : List TalkEvent) :
    (run.after (es ++ fs)).Responded news := by
  induction fs using reverseRecOn with
  | nil => rwa [append_nil]
  | append_singleton fs f ih =>
    rw [← append_assoc, after_concat]
    exact ih.step f

theorem single (run : TalkRun) (es fs : List TalkEvent) (e f : TalkEvent)
    (h : ((run.after es).decided e).isSome) (hnews : TalkServer.newsOf f = TalkServer.newsOf e) :
    (run.after (es ++ e :: fs)).decided f = none := by
  obtain ⟨⟨req, written⟩, hdecided⟩ := Option.isSome_iff_exists.mp h
  obtain ⟨news, hnews'⟩ := TalkServer.newsOf_of_decided hdecided
  have hresponded := TalkServer.responded_of_decided hdecided hnews'
  rw [← after_concat] at hresponded
  rw [← singleton_append, ← append_assoc]
  exact (responded_append hresponded fs).decided_none (hnews.trans hnews')

theorem InTime.keepsReplies (h : run.InTime) : run.KeepsReplies where
  once es e fs queryId req written hes hquery hfirst := by
    obtain ⟨rfl, hheld⟩ := h.first es e fs queryId req written hes hquery hfirst
    cases hwaiter : (run.after es).pendingReplyWaiters.get? queryId with
    | some id =>
      exact .inl ⟨hfirst.1.returned hwaiter ((hheld id).mp hwaiter),
        not_wakesModel (hfirst.1.queue_eq hwaiter)⟩
    | none =>
      refine .inr ⟨hfirst.1.wakesModel hwaiter, fun hreturned => ?_⟩
      obtain ⟨id, hwaits, -⟩ := hreturned.freed
      rw [(hheld id).mpr hwaits] at hwaiter
      cases hwaiter
  unblocked es fs queryId id hes hquery hreplied :=
    (h.replied hquery fs hes hreplied.decided).2 id
  single es e fs f _ _ := run.single es fs e f

theorem KeepsReplies.inTime (h : run.KeepsReplies) : run.InTime where
  first es e fs queryId req written hes hquery hfirst := by
    have honce := h.once es e fs queryId req written hes hquery hfirst
    cases written with
    | false =>
      have huntouched := TalkServer.untouched_of_decided hfirst.1.1
      obtain ⟨hreturned, -⟩ | ⟨hwakes, -⟩ := honce
      · obtain ⟨id, hwaits, hfree⟩ := hreturned.freed
        exact absurd (huntouched.waits.mpr hwaits) hfree
      · exact absurd hwakes (not_wakesModel huntouched.queue)
    | true =>
      refine ⟨rfl, fun id => ⟨fun hwaiter => ?_, fun hwaits => ?_⟩⟩
      · -- a waiter is found, so the model sleeps and the call of the waiter must answer
        obtain ⟨hreturned, -⟩ | ⟨hwakes, -⟩ := honce
        · obtain ⟨id', hwaits, hfree⟩ := hreturned.freed
          by_contra hexpired
          refine hfree (hfirst.1.waits_iff.mpr ⟨hwaits, fun hfound => ?_⟩)
          cases hwaiter.symm.trans hfound.2
          exact hexpired hwaits
        · exact absurd hwakes (not_wakesModel (hfirst.1.queue_eq hwaiter))
      · have hfree := h.unblocked (es ++ [e]) fs queryId id
          (by rw [append_assoc, singleton_append, hes]) hquery (replied_concat hfirst.1)
        rw [after_concat, hfirst.1.waits_iff] at hfree
        by_contra hother
        exact hfree ⟨hwaits, fun hfound => hother hfound.2⟩
  registers es e fs queryId id hes hquery hregisters hreplied := by
    refine h.unblocked (es ++ [e]) fs queryId id
      (by rw [append_assoc, singleton_append, hes]) hquery (hreplied.concat e) ?_
    rw [after_concat]
    exact TalkServer.Registers.waits hregisters

/-- Nothing is lost or handled twice exactly if replies come in time. -/
theorem keepsReplies_iff (run : TalkRun) : run.KeepsReplies ↔ run.InTime :=
  ⟨KeepsReplies.inTime, InTime.keepsReplies⟩

end TalkRun

def toManager : List TalkEvent :=
  [.talkTo 0 { remoteAddr := "127.0.0.1", to_ := some "manager", message := some "ready?" },
    .call 0 (.talk .ok), .call 0 (.queryIdRead (.ok "query_1"))]

def reply : NewsRequest :=
  { sender := some "manager", message := some "yes", inReplyTo := some "query_1" }

def late : TalkRun where
  defaultTimeout := 120000
  events := toManager ++ [.call 0 (.outbound (.ok ())), .call 0 .timeout,
    .postNews 0 reply 1 "a", .newsRecorded 0 (.ok ()) "a"]

def early : TalkRun where
  defaultTimeout := 120000
  events := toManager ++ [.postNews 0 reply 1 "a", .newsRecorded 0 (.ok ()) "a",
    .call 0 (.outbound (.ok ()))]

theorem not_decided {run : TalkRun} (h : ∀ e ∈ es, ∀ s : TalkServer, s.decided e = none) :
    ¬ run.Decided es queryId := by
  rintro ⟨fs, e, gs, req, written, rfl, hdecided, -⟩
  rw [h e (mem_append_right fs (mem_cons_self ..))] at hdecided
  cases hdecided

/-- A late reply is in no response and wakes nobody, and an early one leaves the caller blocked. -/
theorem late_early_not_keepsReplies : ¬ late.KeepsReplies ∧ ¬ early.KeepsReplies := by
  constructor
  · intro h
    have hnone : ∀ e ∈ late.events.dropLast, ∀ s : TalkServer, s.decided e = none := by
      simp only [late, toManager, cons_append, nil_append, dropLast_cons_cons,
        dropLast_singleton, forall_mem_cons]
      exact ⟨fun _ => rfl, fun _ => rfl, fun _ => rfl, fun _ => rfl, fun _ => rfl,
        fun s => if_pos (Bool.or_true _), fun _ h => absurd h not_mem_nil⟩
    have hheld := (h.inTime.first late.events.dropLast (.newsRecorded 0 (.ok ()) "a") [] "query_1"
      reply true rfl (by decide) ⟨⟨rfl, rfl, rfl, rfl⟩, not_decided hnone⟩).2
    obtain ⟨call, hcall, hphase⟩ := (hheld 0).mp rfl
    cases hcall
    cases hphase
  · intro h
    refine h.unblocked early.events [] "query_1" 0 rfl (by decide)
      ⟨toManager ++ [.postNews 0 reply 1 "a"], .newsRecorded 0 (.ok ()) "a", [_], reply, rfl, rfl,
        rfl, rfl, rfl⟩ ?_
    exact ⟨_, rfl, rfl⟩

end IdAgents.Agent
