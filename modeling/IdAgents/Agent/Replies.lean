import IdAgents.Agent.TalkTo

namespace IdAgents.Agent
open JsText JsMap Option Dict Bool CallPhase TalkCall TalkServer

def queryIdOf : TalkEvent → Option (Nat × String)
  | .call id (.queryIdRead (.ok queryId)) => some (id, queryId)
  | _ => none

structure TalkRun where
  defaultTimeout : Nat
  events : List TalkEvent

namespace TalkRun

def start (run : TalkRun) : TalkServer := { defaultTimeout := run.defaultTimeout }

def after (run : TalkRun) (es : List TalkEvent) : TalkServer := es.foldl TalkServer.step run.start

def queryIds (run : TalkRun) : List String := (run.events.filterMap queryIdOf).map (·.2)

end TalkRun

namespace TalkServer

def Waits (s : TalkServer) (id : Nat) (queryId : String) : Prop :=
  ∃ call, s.calls.get? id = some call ∧ call.phase = .waiting queryId

def decided (s : TalkServer) : TalkEvent → Option (NewsRequest × Bool)
  | .postNews news req _ _ =>
    if s.news.has news || s.responses.has news || req.isEmpty || !req.skipPersist then none
    else some (req, true)
  | .newsRecorded news result _ => (s.news.get? news).map fun entry =>
    (entry.1, match result with
      | .ok () => true
      | .error _ => false)
  | _ => none

def newsOf : TalkEvent → Option Nat
  | .postNews news .. | .newsRecorded news .. => some news
  | _ => none

end TalkServer

def NewsRequest.RepliesTo (req : NewsRequest) (queryId : String) : Prop :=
  said req.inReplyTo = some queryId ∧ (said req.sender).isSome ∧ req.triggers

def TalkServer.Decides (s : TalkServer) (e : TalkEvent) (queryId : String) (req : NewsRequest)
    (written : Bool) : Prop :=
  s.decided e = some (req, written) ∧ req.RepliesTo queryId

namespace TalkRun

def Decided (run : TalkRun) (es : List TalkEvent) (queryId : String) : Prop :=
  ∃ fs e gs req written, es = fs ++ e :: gs ∧ (run.after fs).Decides e queryId req written

def Replied (run : TalkRun) (es : List TalkEvent) (queryId : String) : Prop :=
  ∃ fs e gs req, es = fs ++ e :: gs ∧ (run.after fs).Decides e queryId req true

def FirstReply (run : TalkRun) (es : List TalkEvent) (e : TalkEvent) (queryId : String)
    (req : NewsRequest) (written : Bool) : Prop :=
  (run.after es).Decides e queryId req written ∧ ¬ run.Decided es queryId

end TalkRun

def Returned (s s' : TalkServer) (queryId : String) (req : NewsRequest) : Prop :=
  ∃ id sender, s.Waits id queryId ∧ said req.sender = some sender ∧
    ∃ call, s'.calls.get? id = some call ∧
      call.phase = .answered (.reply sender req.newsMessage queryId)

def WakesModel (s s' : TalkServer) (req : NewsRequest) : Prop :=
  ∃ sender timestamp random, said req.sender = some sender ∧
    s'.queue = s.queue ++ [TalkServer.wakeJob req sender timestamp random]

/-- The first reply to each query of a call is returned by the call or wakes the model, no call
waits when the reply has come, and no request is decided on again. -/
structure TalkRun.KeepsReplies (run : TalkRun) : Prop where
  once : ∀ es e fs queryId req written, run.events = es ++ e :: fs → queryId ∈ run.queryIds →
    run.FirstReply es e queryId req written →
      Xor (Returned (run.after es) ((run.after es).step e) queryId req)
        (WakesModel (run.after es) ((run.after es).step e) req)
  unblocked : ∀ es fs queryId id, run.events = es ++ fs → queryId ∈ run.queryIds →
    run.Replied es queryId → ¬ (run.after es).Waits id queryId
  single : ∀ es e fs f gs, run.events = es ++ e :: (fs ++ f :: gs) →
    ((run.after es).decided e).isSome → TalkServer.newsOf f = TalkServer.newsOf e →
      (run.after (es ++ e :: fs)).decided f = none

namespace TalkServer

def Held (s : TalkServer) (queryId : String) : Prop :=
  ∀ id, s.pendingReplyWaiters.get? queryId = some id ↔ s.Waits id queryId

def Registers (s : TalkServer) (e : TalkEvent) (id : Nat) (queryId : String) : Prop :=
  e = .call id (.outbound (.ok ())) ∧
    ∃ call, s.calls.get? id = some call ∧ call.phase = .recording queryId

end TalkServer

structure TalkRun.InTime (run : TalkRun) : Prop where
  first : ∀ es e fs queryId req written, run.events = es ++ e :: fs → queryId ∈ run.queryIds →
    run.FirstReply es e queryId req written → written = true ∧ (run.after es).Held queryId
  registers : ∀ es e fs queryId id, run.events = es ++ e :: fs → queryId ∈ run.queryIds →
    (run.after es).Registers e id queryId → ¬ run.Replied es queryId

theorem startCall_phase (defaultTimeout : Nat) (req : TalkRequest) (queryId : String) :
    (startCall defaultTimeout req).phase ≠ .recording queryId ∧
      (startCall defaultTimeout req).phase ≠ .waiting queryId := by
  rw [startCall]
  dsimp only
  split
  · exact ⟨CallPhase.noConfusion, CallPhase.noConfusion⟩
  · split
    · split <;> exact ⟨CallPhase.noConfusion, CallPhase.noConfusion⟩
    · exact ⟨CallPhase.noConfusion, CallPhase.noConfusion⟩

theorem TalkCall.found_phase (call : TalkCall) (agents : List AgentEntry) (queryId : String) :
    call.found agents ≠ .recording queryId ∧ call.found agents ≠ .waiting queryId := by
  rw [found]
  split
  · exact ⟨CallPhase.noConfusion, CallPhase.noConfusion⟩
  · split <;> exact ⟨CallPhase.noConfusion, CallPhase.noConfusion⟩

theorem TalkCall.next_waiting {call : TalkCall} (h : call.next input = some (.waiting queryId)) :
    call.phase = .recording queryId ∧ input = .outbound (.ok ()) := by
  unfold TalkCall.next at h
  split at h
  case h_4 => exact absurd (Option.some.inj h) (call.found_phase _ queryId).2
  case h_12 hphase =>
    cases h
    exact ⟨hphase, rfl⟩
  all_goals cases h

namespace TalkServer
variable {s s' : TalkServer} {news : Nat}

structure Untouched (s s' : TalkServer) : Prop where
  calls : s'.calls = s.calls
  waiters : s'.pendingReplyWaiters = s.pendingReplyWaiters
  queue : s'.queue = s.queue

variable {id : Nat}

theorem Untouched.waits (h : Untouched s s') : s'.Waits id queryId ↔ s.Waits id queryId := by
  rw [Waits, Waits, h.calls]

theorem step_news (h : newsOf e = some news) :
    (∃ req timestamp random, s.decided e = some (req, true) ∧
      s.step e = s.decideNews news req timestamp random) ∨
    ((∀ req, s.decided e ≠ some (req, true)) ∧ Untouched s (s.step e)) := by
  cases e with
  | talkTo => cases h
  | call => cases h
  | postNews news req now random =>
    cases h
    dsimp only [decided, step]
    by_cases hknown : s.news.has news || s.responses.has news
    · rw [if_pos hknown, if_pos (by simp only [hknown, Bool.true_or])]
      exact .inr ⟨fun _ => (Option.some_ne_none _).symm, rfl, rfl, rfl⟩
    · by_cases hempty : req.isEmpty
      · rw [if_neg hknown, if_pos hempty,
          if_pos (by simp only [hempty, Bool.or_true, Bool.true_or])]
        exact .inr ⟨fun _ => (Option.some_ne_none _).symm, rfl, rfl, rfl⟩
      · by_cases hskip : req.skipPersist
        · rw [if_neg hknown, if_neg hempty, if_pos hskip,
            if_neg (by simp only [hknown, hempty, hskip, Bool.not_true, Bool.or_self,
              Bool.false_eq_true, not_false_eq_true])]
          exact .inl ⟨req, now, random, rfl, rfl⟩
        · rw [if_neg hknown, if_neg hempty, if_neg hskip,
            if_pos (by simp only [hskip, Bool.not_false, Bool.or_true])]
          exact .inr ⟨fun _ => (Option.some_ne_none _).symm, rfl, rfl, rfl⟩
  | newsRecorded news result random =>
    cases h
    dsimp only [decided, step]
    cases s.news.get? news with
    | none => exact .inr ⟨fun _ => (some_ne_none _).symm, rfl, rfl, rfl⟩
    | some entry =>
      obtain ⟨req, timestamp⟩ := entry
      cases result with
      | ok _ => exact .inl ⟨req, timestamp, random, rfl, rfl⟩
      | error error =>
        refine .inr ⟨fun _ h => ?_, rfl, rfl, rfl⟩
        cases h

theorem newsOf_of_decided (h : s.decided e = some entry) : ∃ news, newsOf e = some news := by
  cases e with
  | talkTo => cases h
  | call => cases h
  | postNews news => exact ⟨news, rfl⟩
  | newsRecorded news => exact ⟨news, rfl⟩

theorem step_of_decided (h : s.decided e = some (req, true)) (hnews : newsOf e = some news) :
    ∃ timestamp random, s.step e = s.decideNews news req timestamp random := by
  obtain ⟨req', timestamp, random, hdecided, hstep⟩ | ⟨hnot, -⟩ := step_news hnews (s := s)
  · rw [h] at hdecided
    cases hdecided
    exact ⟨timestamp, random, hstep⟩
  · exact absurd h (hnot req)

theorem untouched_of_decided (h : s.decided e = some (req, false)) : Untouched s (s.step e) := by
  obtain ⟨news, hnews⟩ := newsOf_of_decided h
  obtain ⟨req', timestamp, random, hdecided, hstep⟩ | ⟨-, huntouched⟩ := step_news hnews (s := s)
  · rw [h] at hdecided
    cases hdecided
  · exact huntouched

theorem waiterFor_eq_some : s.waiterFor req = some (queryId, id) ↔
    said req.inReplyTo = some queryId ∧ s.pendingReplyWaiters.get? queryId = some id := by
  rw [waiterFor, bind_eq_some_iff]
  constructor
  · rintro ⟨q, hsaid, hmap⟩
    obtain ⟨i, hget, heq⟩ := map_eq_some_iff.mp hmap
    cases heq
    exact ⟨hsaid, hget⟩
  · rintro ⟨hsaid, hget⟩
    exact ⟨queryId, hsaid, map_eq_some_iff.mpr ⟨id, hget, rfl⟩⟩

theorem decideNews_none (h : s.waiterFor req = none) (news timestamp : Nat) (random : String) :
    (s.decideNews news req timestamp random).calls = s.calls ∧
      (s.decideNews news req timestamp random).pendingReplyWaiters = s.pendingReplyWaiters ∧
      ∀ sender, said req.sender = some sender → req.triggers →
        (s.decideNews news req timestamp random).queue =
          s.queue ++ [wakeJob req sender timestamp random] := by
  rw [decideNews, h]
  dsimp only
  cases req.triggers with
  | false => exact ⟨rfl, rfl, fun _ _ => Bool.noConfusion⟩
  | true =>
    cases said req.sender with
    | none => exact ⟨rfl, rfl, fun _ h => absurd h.symm (some_ne_none _)⟩
    | some sender =>
      refine ⟨rfl, rfl, fun _ h _ => ?_⟩
      cases h
      rfl

theorem decideNews_some (h : s.waiterFor req = some (queryId, id))
    (news timestamp : Nat) (random : String) :
    (s.decideNews news req timestamp random).calls = (s.resolveCall id queryId req).calls ∧
      (s.decideNews news req timestamp random).pendingReplyWaiters =
        s.pendingReplyWaiters.delete queryId ∧
      (s.decideNews news req timestamp random).queue = s.queue := by
  rw [decideNews, h]
  dsimp only
  rw [resolveCall, resolveCall]
  dsimp only
  cases s.calls.get? id with
  | none => exact ⟨rfl, rfl, rfl⟩
  | some call => exact ⟨rfl, rfl, rfl⟩

theorem waits_resolveCall : (s.resolveCall id queryId req).Waits id' queryId' ↔
    s.Waits id' queryId' ∧ ¬ (queryId' = queryId ∧ id' = id) := by
  rw [resolveCall]
  cases hcall : s.calls.get? id with
  | none =>
    refine ⟨fun hwaits => ⟨hwaits, fun heq => ?_⟩, And.left⟩
    obtain ⟨call, hcall', -⟩ := hwaits
    rw [heq.2, hcall] at hcall'
    cases hcall'
  | some call =>
    rw [Waits, Waits]
    dsimp only [enter]
    by_cases hid : id' = id
    · subst hid
      rw [get?_set_self, hcall]
      constructor
      · rintro ⟨_, heq, hphase⟩
        cases heq
        rw [resolve] at hphase
        split at hphase
        · cases hphase
        · next hne =>
          exact ⟨⟨call, rfl, hphase⟩, fun hboth => hne (hboth.1 ▸ hphase)⟩
      · rintro ⟨⟨_, heq, hphase⟩, hother⟩
        cases heq
        have hne : call.phase ≠ .waiting queryId := fun hwaits =>
          hother ⟨waiting.inj (hphase.symm.trans hwaits), rfl⟩
        exact ⟨_, rfl, by rw [resolve, if_neg hne, hphase]⟩
    · rw [get?_set_ne hid]
      exact ⟨fun h => ⟨h, fun hboth => hid hboth.2⟩, And.left⟩

theorem waits_decideNews : (s.decideNews news req timestamp random).Waits id queryId ↔
    s.Waits id queryId ∧ s.waiterFor req ≠ some (queryId, id) := by
  cases hwaiter : s.waiterFor req with
  | none =>
    rw [Waits, (decideNews_none hwaiter news timestamp random).1]
    exact ⟨fun h => ⟨h, (some_ne_none _).symm⟩, And.left⟩
  | some waiter =>
    obtain ⟨queryId', id'⟩ := waiter
    rw [Waits, (decideNews_some hwaiter news timestamp random).1]
    refine waits_resolveCall.trans ?_
    refine and_congr_right fun _ => not_congr ⟨?_, fun heq => ?_⟩
    · rintro ⟨rfl, rfl⟩
      rfl
    · cases heq
      exact ⟨rfl, rfl⟩

theorem waits_of_news (hnews : newsOf e = some news) (h : (s.step e).Waits id queryId) :
    s.Waits id queryId := by
  obtain ⟨req, timestamp, random, -, hstep⟩ | ⟨-, huntouched⟩ := step_news hnews (s := s)
  · rw [hstep] at h
    exact (waits_decideNews.mp h).1
  · exact huntouched.waits.mp h

theorem calls_register (s : TalkServer) (id : Nat) (phase : CallPhase) :
    (s.register id phase).calls = s.calls := by
  cases phase <;> rfl

theorem waits_step (h : (s.step e).Waits id queryId) :
    s.Waits id queryId ∨ s.Registers e id queryId := by
  cases e with
  | talkTo id' req =>
    rw [step] at h
    split at h
    · exact .inl h
    · obtain ⟨call, hcall, hphase⟩ := h
      dsimp only [enter] at hcall
      rw [get?_set] at hcall
      split at hcall
      · cases hcall
        exact absurd hphase (startCall_phase _ _ queryId).2
      · exact .inl ⟨call, hcall, hphase⟩
  | call id' input =>
    rw [step] at h
    cases hcall' : s.calls.get? id' with
    | none =>
      rw [hcall'] at h
      exact .inl h
    | some call' =>
      cases hnext : call'.next input with
      | none =>
        simp only [hcall', hnext] at h
        exact .inl h
      | some phase =>
        simp only [hcall', hnext] at h
        obtain ⟨call, hcall, hphase⟩ := h
        rw [calls_register, enter, get?_set] at hcall
        split at hcall
        · next heq =>
          cases hcall
          dsimp only at hphase
          rw [hphase] at hnext
          obtain ⟨hrecording, rfl⟩ := next_waiting hnext
          exact .inr ⟨by rw [heq], call', heq ▸ hcall', hrecording⟩
        · exact .inl ⟨call, hcall, hphase⟩
  | postNews news req now random => exact .inl (waits_of_news rfl h)
  | newsRecorded news result random => exact .inl (waits_of_news rfl h)

theorem step_of_registers (h : s.Registers e id queryId) : ∃ call : TalkCall, s.step e =
    (s.enter id { call with phase := .waiting queryId }).register id (.waiting queryId) := by
  obtain ⟨rfl, call, hcall, hphase⟩ := h
  have hnext : call.next (.outbound (.ok ())) = some (.waiting queryId) := by
    simp only [TalkCall.next, hphase]
  exact ⟨call, by simp only [step, hcall, hnext]⟩

theorem Registers.waits (h : s.Registers e id queryId) : (s.step e).Waits id queryId := by
  obtain ⟨call, hstep⟩ := step_of_registers h
  refine ⟨{ call with phase := .waiting queryId }, ?_, rfl⟩
  rw [hstep, calls_register, enter, get?_set_self]

def Responded (s : TalkServer) (news : Nat) : Prop :=
  (∃ response, s.responses.get? news = some response) ∧ s.news.get? news = none

theorem responded_respond (s : TalkServer) (news : Nat) (response : NewsResponse) :
    (s.respond news response).Responded news := by
  refine ⟨⟨response, get?_set_self _ _ _⟩, eq_none_iff_forall_ne_some.mpr ?_⟩
  intro entry hget
  exact (get?_delete.mp hget).1 rfl

theorem Responded.respond (h : s.Responded news) (news' : Nat) (response : NewsResponse) :
    (s.respond news' response).Responded news := by
  obtain ⟨⟨r, hr⟩, hnone⟩ := h
  refine ⟨?_, Option.eq_none_iff_forall_ne_some.mpr fun entry hget => ?_⟩
  · dsimp only [TalkServer.respond]
    rw [Dict.get?_set]
    split
    · exact ⟨_, rfl⟩
    · exact ⟨r, hr⟩
  · rw [(get?_delete.mp hget).2] at hnone
    cases hnone

theorem decideNews_respond (s : TalkServer) (news timestamp : Nat) (req : NewsRequest)
    (random : String) : ∃ s' response, s'.news = s.news ∧ s'.responses = s.responses ∧
      s.decideNews news req timestamp random = respond s' news response := by
  rw [decideNews]
  split
  · next queryId id _ =>
    refine ⟨_, _, ?_, ?_, rfl⟩ <;> (rw [resolveCall]; split <;> rfl)
  · split
    · next sender _ _ =>
      exact ⟨{ s with queue := s.queue ++ [wakeJob req sender timestamp random] }, _, rfl, rfl, rfl⟩
    · exact ⟨s, _, rfl, rfl, rfl⟩

theorem responded_decideNews : (s.decideNews news req timestamp random).Responded news := by
  obtain ⟨s', response, -, -, heq⟩ := decideNews_respond s news timestamp req random
  rw [heq]
  exact responded_respond s' news response

theorem Responded.decideNews (h : s.Responded news) :
    (s.decideNews news' req timestamp random).Responded news := by
  obtain ⟨s', response, hnews, hresponses, heq⟩ := decideNews_respond s news' timestamp req random
  rw [heq]
  refine Responded.respond ?_ news' response
  rwa [Responded, hnews, hresponses]

theorem Responded.step (h : s.Responded news) (e : TalkEvent) : (s.step e).Responded news := by
  cases e with
  | talkTo id req =>
    rw [TalkServer.step]
    split <;> exact h
  | call id input =>
    rw [TalkServer.step]
    split
    · exact h
    · split
      · exact h
      · next phase _ => cases phase <;> exact h
  | postNews news' req now random =>
    rw [TalkServer.step]
    split
    · exact h
    · next hnew =>
      split
      · exact h.respond _ _
      · split
        · exact h.decideNews
        · obtain ⟨⟨response, hresponse⟩, hnone⟩ := h
          have hne : news ≠ news' := by
            rintro rfl
            rw [Dict.has_eq s.responses, hresponse, Option.isSome_some, Bool.or_true] at hnew
            exact hnew rfl
          exact ⟨⟨response, hresponse⟩, (get?_set_ne hne).trans hnone⟩
  | newsRecorded news' result random =>
    dsimp only [TalkServer.step]
    split
    · exact h
    · split
      · exact h.decideNews
      · exact h.respond _ _

theorem responded_of_decided (h : s.decided e = some (req, written))
    (hnews : newsOf e = some news) : (s.step e).Responded news := by
  cases written with
  | true =>
    obtain ⟨timestamp, random, hstep⟩ := step_of_decided h hnews
    rw [hstep]
    exact responded_decideNews
  | false =>
    cases e with
    | talkTo => cases hnews
    | call => cases hnews
    | postNews =>
      dsimp only [decided] at h
      split at h <;> cases h
    | newsRecorded news' result random =>
      cases hnews
      dsimp only [decided] at h
      cases hget : s.news.get? news with
      | none =>
        rw [hget] at h
        cases h
      | some entry =>
        rw [hget] at h
        cases result with
        | ok _ => cases h
        | error error =>
          simp only [step, hget]
          exact responded_respond ..

theorem Responded.decided_none (h : s.Responded news) (hnews : newsOf e = some news) :
    s.decided e = none := by
  obtain ⟨⟨response, hresponse⟩, hnone⟩ := h
  cases e with
  | talkTo => rfl
  | call => rfl
  | postNews =>
    cases hnews
    refine if_pos ?_
    rw [Dict.has_eq s.responses, hresponse]
    simp only [Option.isSome_some, Bool.or_true, Bool.true_or]
  | newsRecorded =>
    cases hnews
    dsimp only [decided]
    rw [hnone, map_none]

section Decides
variable (h : s.Decides e queryId req true)
include h

variable {id : Nat}

theorem Decides.waits_iff : (s.step e).Waits id queryId' ↔ s.Waits id queryId' ∧
      ¬ (queryId' = queryId ∧ s.pendingReplyWaiters.get? queryId = some id) := by
  obtain ⟨news, hnews⟩ := newsOf_of_decided h.1
  obtain ⟨timestamp, random, hstep⟩ := step_of_decided h.1 hnews
  rw [hstep, waits_decideNews]
  refine and_congr_right fun _ => not_congr ?_
  rw [waiterFor_eq_some, h.2.1]
  constructor
  · rintro ⟨heq, hget⟩
    cases heq
    exact ⟨rfl, hget⟩
  · rintro ⟨rfl, hget⟩
    exact ⟨rfl, hget⟩

theorem Decides.wakesModel (hwaiter : s.pendingReplyWaiters.get? queryId = none) :
    WakesModel s (s.step e) req := by
  obtain ⟨news, hnews⟩ := newsOf_of_decided h.1
  obtain ⟨timestamp, random, hstep⟩ := step_of_decided h.1 hnews
  obtain ⟨-, hsender, htriggers⟩ := h.2
  obtain ⟨sender, hsender⟩ := isSome_iff_exists.mp hsender
  have hnone : s.waiterFor req = none := by
    rw [waiterFor, h.2.1, bind_some, hwaiter, map_none]
  rw [hstep]
  exact ⟨sender, timestamp, random, hsender,
    (decideNews_none hnone news timestamp random).2.2 sender hsender htriggers⟩

theorem Decides.queue_eq (hwaiter : s.pendingReplyWaiters.get? queryId = some id) :
    (s.step e).queue = s.queue := by
  obtain ⟨news, hnews⟩ := newsOf_of_decided h.1
  obtain ⟨timestamp, random, hstep⟩ := step_of_decided h.1 hnews
  rw [hstep]
  exact (decideNews_some (waiterFor_eq_some.mpr ⟨h.2.1, hwaiter⟩) news timestamp random).2.2

theorem Decides.returned (hwaiter : s.pendingReplyWaiters.get? queryId = some id)
    (hwaits : s.Waits id queryId) : Returned s (s.step e) queryId req := by
  obtain ⟨news, hnews⟩ := newsOf_of_decided h.1
  obtain ⟨timestamp, random, hstep⟩ := step_of_decided h.1 hnews
  obtain ⟨sender, hsender⟩ := isSome_iff_exists.mp h.2.2.1
  have hsome : s.waiterFor req = some (queryId, id) := waiterFor_eq_some.mpr ⟨h.2.1, hwaiter⟩
  refine ⟨id, sender, hwaits, hsender, ?_⟩
  obtain ⟨call, hcall, hphase⟩ := hwaits
  rw [hstep, (decideNews_some hsome news timestamp random).1, resolveCall, hcall]
  dsimp only [enter]
  rw [get?_set_self, resolve, if_pos hphase, hsender]
  exact ⟨_, rfl, rfl⟩

end Decides

end TalkServer

theorem Returned.freed (h : Returned s s' queryId req) :
    ∃ id, s.Waits id queryId ∧ ¬ s'.Waits id queryId := by
  obtain ⟨id, sender, hwaits, -, call, hcall, hphase⟩ := h
  refine ⟨id, hwaits, ?_⟩
  rintro ⟨call', hcall', hphase'⟩
  rw [hcall] at hcall'
  cases hcall'
  rw [hphase] at hphase'
  cases hphase'

theorem not_wakesModel (h : s'.queue = s.queue) : ¬ WakesModel s s' req := by
  rintro ⟨_, _, _, -, hqueue⟩
  rw [h] at hqueue
  exact List.cons_ne_nil _ _ (List.self_eq_append_right.mp hqueue)

end IdAgents.Agent
