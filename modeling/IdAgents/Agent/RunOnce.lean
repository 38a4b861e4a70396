import IdAgents.Library.Wp
import IdAgents.Agent.Execute

namespace IdAgents.Agent
open JsText AtomicProgram

variable {h : Heard}

theorem listen_mutates (hms : ∀ m ∈ ms, m.mutates = false) :
    (listen h ms thrown).hadMutatingToolUse = h.hadMutatingToolUse := by
  induction ms generalizing h with
  | nil => rfl
  | cons m ms ih =>
    have hm : (h.hear m).hadMutatingToolUse = h.hadMutatingToolUse := by
      simp [Heard.hear, hms m List.mem_cons_self]
    rw [listen]
    split
    · exact hm
    · exact (ih fun m' hm' => hms m' (List.mem_cons_of_mem _ hm')).trans hm

theorem messages_mutate {t : Translator S E} (h : ∀ s e, ∀ m ∈ (t.step s e).2, m.mutates = false)
    (s : S) (es : List E) : ∀ m ∈ t.messages s es, m.mutates = false := by
  induction es generalizing s with
  | nil => simp [Translator.messages]
  | cons e es ih =>
    intro m hm
    obtain hm | hm := List.mem_append.mp hm
    · exact h s e m hm
    · exact ih _ m hm

theorem mutates_of_type {m : HarnessMessage} (h : m.type ≠ .toolUse) : m.mutates = false := by
  simp [HarnessMessage.mutates, h]

theorem cancelledMessages_mutate (ending : ProcessEnd) :
    ∀ m ∈ ending.cancelledMessages, m.mutates = false := by
  intro m hm
  apply mutates_of_type
  rw [ProcessEnd.cancelledMessages] at hm
  split at hm
  · obtain rfl := List.mem_singleton.mp hm
    decide
  · cases hm

theorem codexItemMessages_mutate (item : CodexItem) :
    ∀ m ∈ codexItemMessages item, m.mutates = false := by
  intro m hm
  cases item with
  | file op => cases op <;> simp only [codexItemMessages, List.mem_singleton] at hm <;> subst hm <;> rfl
  | other text =>
    simp only [codexItemMessages] at hm
    split at hm
    · obtain rfl := List.mem_singleton.mp hm
      rfl
    · cases hm
  | _ =>
    simp only [codexItemMessages, List.mem_singleton] at hm
    subst hm
    rfl

theorem codex_mutates (s : CodexState) (e : CodexEvent) :
    ∀ m ∈ (codex.step s e).2, m.mutates = false := by
  intro m hm
  cases e with
  | itemCompleted item =>
    cases item with
    | none => cases hm
    | some item =>
      have hitem : (codex.step s (.itemCompleted (some item))).2 = codexItemMessages item := by
        cases item <;> rfl
      rw [hitem] at hm
      exact codexItemMessages_mutate item m hm
  | itemStarted item =>
    cases item with
    | none => cases hm
    | some item =>
      cases item with
      | commandExecution =>
        obtain rfl := List.mem_singleton.mp hm
        rfl
      | _ => cases hm
  | turnCompleted =>
    simp only [codex] at hm
    split at hm
    · obtain rfl := List.mem_singleton.mp hm
      rfl
    · cases hm
  | other => cases hm
  | _ =>
    obtain rfl := List.mem_singleton.mp hm
    rfl
section
variable (s : CursorParserState)

theorem seeSession_mutates (session : Option String) :
    ∀ m ∈ (seeSession s session).2, m.mutates = false := by
  intro m hm
  rw [seeSession] at hm
  split at hm
  · dsimp only at hm
    split at hm
    · cases hm
    · obtain rfl := List.mem_singleton.mp hm
      rfl
  · cases hm

theorem parsePayload_mutates (payload : CursorPayload) :
    ∀ m ∈ (parsePayload s payload).2, m.mutates = false := by
  intro m hm
  cases payload with
  | result =>
    simp only [parsePayload] at hm
    split at hm
    · obtain rfl := List.mem_singleton.mp hm
      rfl
    · split at hm <;> obtain rfl := List.mem_singleton.mp hm <;> rfl
  | error =>
    obtain rfl := List.mem_singleton.mp hm
    rfl
  | thinking delta text => cases delta <;> cases text <;> cases hm
  | _ => cases hm

theorem cursor_mutates (e : CursorEvent) : ∀ m ∈ (cursorCli.step s e).2, m.mutates = false := by
  intro m hm
  obtain hm | hm := List.mem_append.mp hm
  · exact seeSession_mutates s e.sessionId m hm
  · exact parsePayload_mutates _ e.payload m hm

end

theorem claudeCodeCli_mutates (s : Option CliResult) (e : CliLine) :
    ∀ m ∈ (claudeCodeCli.step s e).2, m.mutates = false := by
  intro m hm
  cases e <;> cases hm

theorem codexHarness_mutates (lines : List CodexEvent) (ending : ProcessEnd) :
    ∀ m ∈ (CodexHarness.run lines ending).messages, m.mutates = false := by
  intro m hm
  obtain hm | hm := List.mem_append.mp hm
  · obtain hm | hm := List.mem_append.mp hm
    · exact messages_mutate codex_mutates _ _ m hm
    · exact cancelledMessages_mutate ending m hm
  · split at hm
    · obtain rfl := List.mem_singleton.mp hm
      rfl
    · obtain hm | hm := List.mem_append.mp hm
      · obtain ⟨message, _, rfl⟩ := List.mem_map.mp hm
        rfl
      · split at hm
        · obtain rfl := List.mem_singleton.mp hm
          rfl
        · cases hm

theorem cursorCliHarness_mutates (lines : List CursorEvent) (ending : ProcessEnd) :
    ∀ m ∈ (CursorCliHarness.run lines ending).messages, m.mutates = false := by
  intro m hm
  obtain hm | hm := List.mem_append.mp hm
  · obtain hm | hm := List.mem_append.mp hm
    · exact messages_mutate cursor_mutates _ _ m hm
    · exact cancelledMessages_mutate ending m hm
  · split at hm
    · obtain rfl := List.mem_singleton.mp hm
      rfl
    · obtain rfl := List.mem_singleton.mp hm
      rfl
    · dsimp only at hm
      split at hm
      · cases hm
      · split at hm
        · obtain rfl := List.mem_singleton.mp hm
          rfl
        · split at hm <;> obtain rfl := List.mem_singleton.mp hm <;> rfl

theorem claudeCodeCliHarness_mutates (lines : List CliLine) (ending : CliEnd) :
    ∀ m ∈ (ClaudeCodeCliHarness.run lines ending).messages, m.mutates = false := by
  intro m hm
  obtain hm | hm := List.mem_append.mp hm
  · exact messages_mutate claudeCodeCli_mutates _ _ m hm
  · split at hm
    · obtain rfl := List.mem_singleton.mp hm
      rfl
    · obtain rfl := List.mem_singleton.mp hm
      rfl
    · obtain hm | hm := List.mem_append.mp hm
      · split at hm
        · obtain rfl := List.mem_singleton.mp hm
          rfl
        · obtain rfl := List.mem_singleton.mp hm
          rfl
        · cases hm
      · split at hm
        · obtain rfl := List.mem_singleton.mp hm
          rfl
        · cases hm

def SDKMessage.shows : SDKMessage → Bool
  | assistant content _ => (firstToolUse content).any fun name =>
      isMutatingTool (some (firstText [some name] "unknown"))
  | _ => false

def RuntimeRun.shows : RuntimeRun → Bool
  | claudeAgentSdk events _ => (Agent.claudeAgentSdk.heard none events).any fun (_, e) => e.shows
  | _ => false

theorem mapSDKMessage_mutates (e : SDKMessage) : (mapSDKMessage e).any (·.mutates) = e.shows := by
  cases e with
  | assistant content sessionId =>
    simp only [mapSDKMessage, SDKMessage.shows, Option.any_map]
    rfl
  | _ => rfl

theorem listen_sdk (htail : ∀ m ∈ tail, m.mutates = false) (s : Option String) :
    (listen h (claudeAgentSdk.messages s events ++ tail) thrown).hadMutatingToolUse =
      (h.hadMutatingToolUse || (claudeAgentSdk.heard s events).any fun (_, e) => e.shows) := by
  induction events generalizing h s with
  | nil =>
    simp only [Translator.messages, Translator.heard, List.nil_append, List.any_nil, Bool.or_false]
    exact listen_mutates htail
  | cons e events ih =>
    have hshows := mapSDKMessage_mutates e
    cases hmapped : mapSDKMessage e with
    | none =>
      have hstep : claudeAgentSdk.step s e = (s, []) := by simp only [claudeAgentSdk, hmapped]
      rw [hmapped] at hshows
      simp only [Translator.messages, Translator.heard, hstep, List.nil_append, List.any_nil,
        Bool.false_eq_true, if_false, List.any_cons, ← hshows, Option.any_none, Bool.false_or]
      exact ih s
    | some m =>
      have hstep : (claudeAgentSdk.step s e).2 = [m] := by simp only [claudeAgentSdk, hmapped]
      rw [hmapped] at hshows
      have hm : m.mutates = e.shows := hshows
      simp only [Translator.messages, Translator.heard, hstep, List.cons_append, List.nil_append,
        List.any_cons, List.any_nil, Bool.or_false, listen]
      by_cases hfails : m.fails
      · simp [hfails, Heard.hear, hm]
      · rw [if_neg hfails, if_neg hfails, ih]
        simp only [Heard.hear, hm, Bool.or_assoc]

theorem sdkHarness_mutates (h : Heard) (events : List SDKMessage) (threw : Option String) :
    (listen h (ClaudeAgentSdkHarness.run events threw).messages
      (ClaudeAgentSdkHarness.run events threw).thrown).hadMutatingToolUse =
      (h.hadMutatingToolUse || (claudeAgentSdk.heard none events).any fun (_, e) => e.shows) := by
  have hhello : ∀ (m : HarnessMessage) (tail : List HarnessMessage) (thrown : Option String),
      m.type = .system → (∀ m ∈ tail, m.mutates = false) →
      (listen h (m :: claudeAgentSdk.messages none events ++ tail) thrown).hadMutatingToolUse =
        (h.hadMutatingToolUse || (claudeAgentSdk.heard none events).any fun (_, e) => e.shows) := by
    intro m tail thrown hm htail
    have hmutates : m.mutates = false := mutates_of_type (by simp [hm])
    have hfails : m.fails = false := by simp [HarnessMessage.fails, hm]
    rw [List.cons_append, listen, hfails, if_neg (by simp), listen_sdk htail]
    simp only [Heard.hear, hmutates, Bool.or_false]
  cases threw with
  | some e =>
    apply hhello
    · rfl
    · intro m hm
      obtain rfl := List.mem_singleton.mp hm
      rfl
  | none =>
    apply hhello
    · rfl
    · intro m hm
      split at hm
      · obtain rfl := List.mem_singleton.mp hm
        rfl
      · cases hm

theorem heardOf_mutates (r : RuntimeRun) (messages : List String) :
    (heardOf r messages).hadMutatingToolUse = r.shows := by
  cases r with
  | codex lines ending => exact listen_mutates (codexHarness_mutates lines ending)
  | cursorCli lines ending => exact listen_mutates (cursorCliHarness_mutates lines ending)
  | claudeCodeCli lines ending => exact listen_mutates (claudeCodeCliHarness_mutates lines ending)
  | claudeAgentSdk events threw => exact sdkHarness_mutates _ events threw
section
variable (settings : Settings)

theorem listen_end (hresult : h.result = h'.result)
    (herror : h.error = h'.error) (ms : List HarnessMessage) :
    attemptEnd settings (listen h ms thrown) = attemptEnd settings (listen h' ms thrown) := by
  induction ms generalizing h h' with
  | nil => simp only [listen, attemptEnd, hresult, herror]
  | cons m ms ih =>
    unfold listen
    split
    · simp only [attemptEnd, Heard.hear, hresult, herror]
    · apply ih
      · simp only [Heard.hear, hresult]
      · simp only [Heard.hear, herror]

def RuntimeRun.ending (r : RuntimeRun) : AttemptEnd :=
  attemptEnd settings (heardOf r [])

theorem heardOf_end (r : RuntimeRun) (messages : List String) :
    attemptEnd settings (heardOf r messages) = r.ending settings := by
  have hresult : ({ messages } : Heard).result = ({} : Heard).result := rfl
  exact listen_end settings hresult rfl _

def AttemptEnd.transient (attempt : Nat) : AttemptEnd → Bool
  | failed source message => shouldRetry (classify source message) attempt settings.retryPolicy
  | _ => false

def continues (job : Job) (attempt : Nat) (r : RuntimeRun) : Bool :=
  !isBuildDispatch settings job && !r.shows && (r.ending settings).transient settings attempt

end

variable {settings : Settings}

theorem retryDecision_retry
    (h : r.ending settings = .failed source message) (messages : List String) :
    (retryDecision settings job attempt (heardOf r messages) (classify source message)).retry =
      continues settings job attempt r := by
  rw [retryDecision, evaluateRetry_retry, heardOf_mutates, continues, h]
  rfl

/-- The attempts that are made from `attempt` on, with `remaining` of them allowed. -/
def attemptsFrom (settings : Settings) (job : Job) (runs : Nat → RuntimeRun) :
    Nat → Nat → List RuntimeRun
  | 0, _ => []
  | remaining + 1, attempt => runs attempt ::
    if continues settings job attempt (runs attempt) then
      attemptsFrom settings job runs remaining (attempt + 1)
    else []

def attemptOf (e : Event sql World) : Option RuntimeRun :=
  match (e.stmt : Stmt) with
  | .spawn queryId attempt _ => some (e.before.env.harness queryId attempt)
  | _ => none

def attempts (job : Job) (w : World) : List RuntimeRun :=
  ((executeQuery job).trace w).filterMap attemptOf

def attemptMonitor : Monitor sql World (List RuntimeRun) where
  see g c w := g ++ (attemptOf ⟨c, w⟩).toList
  due _ _ _ := True

theorem attemptMonitor_over (g : List RuntimeRun) (es : List (Event sql World)) :
    attemptMonitor.over g es = g ++ es.filterMap attemptOf := by
  induction es generalizing g with
  | nil => simp [Monitor.over]
  | cons e es ih =>
    have hcons : attemptMonitor.over g (e :: es) = attemptMonitor.over (g ++ (attemptOf e).toList) es :=
      rfl
    rw [hcons, ih, List.filterMap_cons]
    cases attemptOf e <;> simp

def Stmt.isIdle : Stmt → Bool
  | .spawn .. => false
  | _ => true

def Started (w : World) (runs : List RuntimeRun) (g : List RuntimeRun) (w' : World) : Prop :=
  g = runs ∧ w'.settings = w.settings ∧ w'.env = w.env

theorem Started.idle (hc : c.isIdle) (h : Started w runs g w') :
    Started w runs (attemptMonitor.see g c w') (Stmt.effect c w') := by
  obtain ⟨hg, hsettings, henv⟩ := h
  refine ⟨?_, hsettings, henv⟩
  cases c with
  | spawn => cases hc
  | _ => exact (List.append_nil g).trans hg

theorem idle_wp {p : Prog α} (hp : p.Meets (fun c : Stmt => c.isIdle) fun _ => True)
    {g runs : List RuntimeRun} (h : Started w runs g w') :
    p.wp attemptMonitor (fun _ => Started w runs) g w' := by
  apply Program.wp_mono (Program.wp_of_meets hp h _)
  · intro r g w'' hr
    exact hr.1
  · intro g c w'' hc h
    exact ⟨trivial, h.idle hc⟩

theorem quiet_idle (hp : Quiet p) : p.Meets (fun c : Stmt => c.isIdle) fun _ => True := by
  apply hp.mono
  · intro c hc
    cases (c : Stmt) with
    | spawn => cases hc
    | _ => rfl
  · intros
    trivial

variable {R : Except String β → List RuntimeRun → World → Prop}

theorem clearOnFilter_wp (h : Started w runs g w')
    (hf : ∀ g w', Started w runs g w' → (f ()).wp attemptMonitor R g w') :
    ((clearOnFilter source classification).bind f).wp attemptMonitor R g w' := by
  rw [clearOnFilter]
  split
  · exact ⟨trivial, hf _ _ (h.idle rfl)⟩
  · exact hf g w' h

theorem prepareRetry_wp (h : Started w runs g w')
    (hf : ∀ s g w', Started w runs g w' → (f s).wp attemptMonitor R g w') :
    ((prepareRetry settings job s classification).bind f).wp attemptMonitor R g w' := by
  refine ⟨trivial, ?_⟩
  have hnews := h.idle (c := .addNews "query.retrying" job.queryId) rfl
  by_cases hclear : shouldClearSessionOnRetry (some classification) settings.retryPolicy
  · simp only [hclear, if_true]
    exact ⟨trivial, hf _ _ _ (hnews.idle rfl)⟩
  · simp only [hclear]
    exact hf _ _ _ hnews

theorem settle_idle : (settle job outcome sessionId).Meets (fun c : Stmt => c.isIdle) fun _ => True :=
  orThrow_meets ⟨rfl, fun _ => trivial⟩

theorem addNews_idle (type queryId : String) :
    (orThrow (addNews type queryId)).Meets (fun c : Stmt => c.isIdle) fun _ => True :=
  orThrow_meets ⟨rfl, fun _ => trivial⟩

theorem completeQuery_idle :
    (completeQuery settings job result s).Meets (fun c : Stmt => c.isIdle) fun _ => True := by
  apply settle_idle.bind
  intro _ _
  have htell : (tellCompleted job result).Meets (fun c : Stmt => c.isIdle) fun _ => True := by
    rw [tellCompleted]
    split
    · trivial
    · exact addNews_idle _ _
  apply htell.bind
  intro _ _
  rw [replyCompleted]
  split
  · exact quiet_idle sendReplyToSender_quiet
  · split
    · exact addNews_idle _ _
    · trivial

theorem failQuery_idle : (failQuery job s error).Meets (fun c : Stmt => c.isIdle) fun _ => True := by
  apply settle_idle.bind
  intro _ _
  apply (quiet_idle clearOnFilterError_quiet).bind
  intro _ _
  apply (addNews_idle _ _).bind
  intro _ _
  exact quiet_idle sendReplyToSender_quiet

theorem judgeAttempt_wp (h : Started w (runs ++ [r]) g w')
    (hagain : continues settings job attempt r → ∀ s g w', Started w (runs ++ [r]) g w' →
      (again s).wp attemptMonitor (fun _ => Started w (runs ++ r :: rest)) g w') :
    (judgeAttempt settings job attempt (heardOf r messages) s again).wp attemptMonitor
      (fun _ => Started w (runs ++ r :: if continues settings job attempt r then rest else []))
      g w' := by
  rw [judgeAttempt]
  rw [heardOf_end]
  cases hend : r.ending settings with
  | success result =>
    have hstop : continues settings job attempt r = false := by
      simp [continues, hend, AttemptEnd.transient]
    rw [hstop, if_neg (by simp)]
    apply idle_wp _ h
    exact (quiet_idle commitSession_quiet).bind fun _ _ => trivial
  | crashed message =>
    have hstop : continues settings job attempt r = false := by
      simp [continues, hend, AttemptEnd.transient]
    rw [hstop, if_neg (by simp)]
    exact h
  | failed source message =>
    apply clearOnFilter_wp h
    intro g w' h
    dsimp only
    rw [retryDecision_retry hend]
    by_cases hcontinues : continues settings job attempt r
    · rw [if_pos hcontinues, if_pos hcontinues]
      apply prepareRetry_wp h
      intro s g w' h
      exact hagain hcontinues s g w' h
    · rw [if_neg hcontinues, if_neg hcontinues]
      exact idle_wp (quiet_idle giveUp_quiet) h

theorem runAttempt_wp (h : Started w runs g w')
    (hf : ∀ g w', Started w (runs ++ [w.env.harness job.queryId attempt]) g w' →
      (f (w.env.harness job.queryId attempt)).wp attemptMonitor R g w') :
    ((runAttempt job attempt resume).bind f).wp attemptMonitor R g w' := by
  obtain ⟨hg, hsettings, henv⟩ := h
  have hspawned : Started w (runs ++ [w.env.harness job.queryId attempt])
      (attemptMonitor.see g (.spawn job.queryId attempt resume) w')
      (Stmt.effect (.spawn job.queryId attempt resume) w') := by
    refine ⟨?_, hsettings, henv⟩
    rw [hg, ← henv]
    rfl
  have hrun : Stmt.answer (.finish job.queryId attempt)
      (Stmt.effect (.spawn job.queryId attempt resume) w') = w.env.harness job.queryId attempt := by
    rw [← henv]
    rfl
  refine ⟨trivial, trivial, ?_⟩
  change (f (Stmt.answer (.finish job.queryId attempt)
    (Stmt.effect (.spawn job.queryId attempt resume) w'))).wp attemptMonitor R _ _
  rw [hrun]
  exact hf _ _ (hspawned.idle rfl)

theorem retryLoop_wp (hremaining : remaining ≤ settings.retryPolicy.maxAttempts)
    (h : Started w runs g w') : (retryLoop settings job remaining s).wp attemptMonitor
      (fun _ => Started w (runs ++ attemptsFrom settings job (w.env.harness job.queryId) remaining
        (settings.retryPolicy.maxAttempts + 1 - remaining))) g w' := by
  induction remaining generalizing runs g w' s with
  | zero =>
    have hnone : runs ++ attemptsFrom settings job (w.env.harness job.queryId) 0
        (settings.retryPolicy.maxAttempts + 1 - 0) = runs := List.append_nil runs
    rw [hnone]
    exact h
  | succ remaining ih =>
    have hattempt : settings.retryPolicy.maxAttempts + 1 - (remaining + 1) =
        settings.retryPolicy.maxAttempts - remaining := by omega
    have hnext : settings.retryPolicy.maxAttempts + 1 - remaining =
        settings.retryPolicy.maxAttempts - remaining + 1 := by omega
    rw [hattempt]
    rw [hnext] at ih
    rw [retryLoop]
    apply runAttempt_wp h
    intro g w' h
    apply judgeAttempt_wp h
    intro _ s g w' h
    have hrest := ih (s := s) (Nat.le_of_succ_le hremaining) h
    rw [List.append_assoc] at hrest
    exact hrest

theorem startSession_wp (h : Started w runs g w')
    (hf : ∀ session g w', Started w runs g w' → (f session).wp attemptMonitor R g w') :
    ((startSession settings job).bind f).wp attemptMonitor R g w' := by
  rw [startSession]
  split
  · split
    · exact hf _ g w' h
    · exact ⟨trivial, hf _ _ _ (h.idle rfl)⟩
  · exact hf _ g w' h

theorem runQuery_wp (h : Started w [] g w') :
    (runQuery settings job).wp attemptMonitor (fun _ => Started w (attemptsFrom settings job
      (w.env.harness job.queryId) settings.retryPolicy.maxAttempts 1)) g w' := by
  apply startSession_wp h
  intro session g w' h
  have hloop : (retryLoop settings job settings.retryPolicy.maxAttempts
      { sessionId := session }).wp attemptMonitor (fun _ => Started w ([] ++ attemptsFrom settings job
        (w.env.harness job.queryId) settings.retryPolicy.maxAttempts
        (settings.retryPolicy.maxAttempts + 1 - settings.retryPolicy.maxAttempts))) g w' :=
    retryLoop_wp (Nat.le_refl _) h
  rw [Nat.add_sub_cancel_left, List.nil_append] at hloop
  apply Program.wp_seq hloop
  · intro ending g w' h
    cases ending with
    | result result s =>
      exact idle_wp (completeQuery_idle.tryCatch fun _ => failQuery_idle) h
    | exhausted error s => exact idle_wp failQuery_idle h
    | crashed message s => exact idle_wp failQuery_idle h
  · intro e g w' h
    exact h

theorem attempts_eq (job : Job) (w : World) :
    attempts job w = if (w.env.dbFails (w.step + 1)).isSome then [] else
      attemptsFrom w.settings job (w.env.harness job.queryId) w.settings.retryPolicy.maxAttempts 1 := by
  have hstart : Started w [] [] w := ⟨rfl, rfl, rfl⟩
  have hread := hstart.idle (c := .settings) rfl
  have hactive := hread.idle (c := .activate job) rfl
  have hwp : (executeQuery job).wp attemptMonitor (fun _ => Started w
      (if (w.env.dbFails (w.step + 1)).isSome then [] else attemptsFrom w.settings job
        (w.env.harness job.queryId) w.settings.retryPolicy.maxAttempts 1)) [] w := by
    refine ⟨trivial, trivial, ?_⟩
    change Program.wp attemptMonitor (Program.bind ((Program.ret
      (Stmt.answer (.activate job) (Store.effect (S := sql) .settings w))).bind _) _) _ _ _
    cases hfails : w.env.dbFails (w.step + 1) with
    | some e =>
      have hanswer : Stmt.answer (.activate job) (Store.effect (S := sql) .settings w) =
          Except.error e := by
        have hnow : (Store.effect (S := sql) .settings w).dbFails = some e := hfails
        simp only [Stmt.answer, hnow]
        rfl
      rw [hanswer]
      exact hactive
    | none =>
      have hanswer : Stmt.answer (.activate job) (Store.effect (S := sql) .settings w) =
          Except.ok () := by
        have hnow : (Store.effect (S := sql) .settings w).dbFails = none := hfails
        simp only [Stmt.answer, hnow]
        rfl
      rw [hanswer]
      exact runQuery_wp hactive
  have hsound := (Program.wp_sound hwp).1
  rw [attemptMonitor_over, List.nil_append] at hsound
  exact hsound.1

structure RunsOnce (job : Job) (w : World) : Prop where
  once : ∀ r ∈ (attempts job w).dropLast, r.executes = false
  bounded : (attempts job w).length ≤ w.settings.retryPolicy.maxAttempts

theorem attemptsFrom_length (remaining attempt : Nat) :
    (attemptsFrom settings job runs remaining attempt).length ≤ remaining := by
  induction remaining generalizing attempt with
  | zero => simp [attemptsFrom]
  | succ remaining ih =>
    rw [attemptsFrom]
    split
    · exact Nat.succ_le_succ (ih _)
    · simp

theorem continues_lt (h : continues settings job attempt r) :
    attempt < settings.retryPolicy.maxAttempts := by
  rw [continues] at h
  cases hend : r.ending settings with
  | failed source message =>
    simp only [hend, AttemptEnd.transient, Bool.and_eq_true] at h
    exact shouldRetry_lt h.2
  | _ => simp [hend, AttemptEnd.transient] at h

theorem mem_dropLast_attempts (remaining attempt : Nat)
    (hlast : remaining + attempt = settings.retryPolicy.maxAttempts + 1) :
    r ∈ (attemptsFrom settings job runs remaining attempt).dropLast ↔
      ∃ k, attempt ≤ k ∧ r = runs k ∧ ∀ j, attempt ≤ j → j ≤ k →
        continues settings job j (runs j) := by
  induction remaining generalizing attempt with
  | zero =>
    simp only [attemptsFrom, List.dropLast_nil, List.not_mem_nil, false_iff]
    rintro ⟨k, hk, _, hall⟩
    have hless := continues_lt (hall attempt (Nat.le_refl _) hk)
    omega
  | succ remaining ih =>
    by_cases hcontinues : continues settings job attempt (runs attempt)
    · have hless := continues_lt hcontinues
      obtain ⟨more, rfl⟩ : ∃ more, remaining = more + 1 := ⟨remaining - 1, by omega⟩
      have hrest := ih (attempt + 1) (by omega)
      have hne : attemptsFrom settings job runs (more + 1) (attempt + 1) ≠ [] := by
        simp [attemptsFrom]
      rw [attemptsFrom, if_pos hcontinues, List.dropLast_cons_of_ne_nil hne, List.mem_cons, hrest]
      constructor
      · rintro (rfl | ⟨k, hk, rfl, hall⟩)
        · refine ⟨attempt, Nat.le_refl _, rfl, fun j hj hj' => ?_⟩
          obtain rfl := Nat.le_antisymm hj' hj
          exact hcontinues
        · refine ⟨k, Nat.le_of_succ_le hk, rfl, fun j hj hj' => ?_⟩
          obtain rfl | hlater := Nat.eq_or_lt_of_le hj
          · exact hcontinues
          · exact hall j hlater hj'
      · rintro ⟨k, hk, rfl, hall⟩
        obtain rfl | hlater := Nat.eq_or_lt_of_le hk
        · exact .inl rfl
        · exact .inr ⟨k, hlater, rfl, fun j hj hj' => hall j (Nat.le_of_succ_le hj) hj'⟩
    · rw [attemptsFrom, if_neg hcontinues]
      simp only [List.dropLast_singleton, List.not_mem_nil, false_iff]
      rintro ⟨k, hk, _, hall⟩
      exact hcontinues (hall attempt (Nat.le_refl _) hk)

/-- A side effect that the retry gate is not told of: any that Codex, Cursor or the Claude CLI
reports, and one of the Claude SDK that is the first tool use of no message. -/
def RuntimeRun.hides : RuntimeRun → Bool
  | claudeAgentSdk events threw =>
    (claudeAgentSdk events threw).executes && !(claudeAgentSdk events threw).shows
  | r => r.executes

theorem RuntimeRun.hides_eq (r : RuntimeRun) : r.hides = (r.executes && !r.shows) := by
  cases r with
  | claudeAgentSdk => rfl
  | _ => exact (Bool.and_true _).symm

/-- Attempt `k` of a query is made, and fails so that the policy would have another one: the query
is no build dispatch, each attempt up to it fails in a way the policy retries, and none before it
shows a mutating tool use. -/
structure ReachedAndFailed (job : Job) (w : World) (k : Nat) : Prop where
  starts : (w.env.dbFails (w.step + 1)).isNone
  noBuild : isBuildDispatch w.settings job = false
  transient : ∀ j, 1 ≤ j → j ≤ k →
    ((w.env.harness job.queryId j).ending w.settings).transient w.settings j
  unshown : ∀ j, 1 ≤ j → j < k → (w.env.harness job.queryId j).shows = false

theorem ReachedAndFailed.continues (h : ReachedAndFailed job w k)
    (hk : (w.env.harness job.queryId k).shows = false) (j : Nat) (hj : 1 ≤ j) (hj' : j ≤ k) :
    continues w.settings job j (w.env.harness job.queryId j) := by
  have hshows : (w.env.harness job.queryId j).shows = false := by
    obtain rfl | hless := Nat.eq_or_lt_of_le hj'
    · exact hk
    · exact h.unshown j hj hless
  simp [Agent.continues, h.noBuild, hshows, h.transient j hj hj']

theorem reached_of_continues (hstarts : (w.env.dbFails (w.step + 1)).isNone) (hk : 1 ≤ k)
    (h : ∀ j, 1 ≤ j → j ≤ k → continues w.settings job j (w.env.harness job.queryId j)) :
    ReachedAndFailed job w k ∧ (w.env.harness job.queryId k).shows = false := by
  have hall : ∀ j, 1 ≤ j → j ≤ k → isBuildDispatch w.settings job = false ∧
      (w.env.harness job.queryId j).shows = false ∧
        ((w.env.harness job.queryId j).ending w.settings).transient w.settings j := by
    intro j hj hj'
    have hcontinues := h j hj hj'
    simp only [continues, Bool.and_eq_true, Bool.not_eq_true'] at hcontinues
    exact ⟨hcontinues.1.1, hcontinues.1.2, hcontinues.2⟩
  obtain ⟨hbuild, hshows, _⟩ := hall k hk (Nat.le_refl k)
  exact ⟨⟨hstarts, hbuild, fun j hj hj' => (hall j hj hj').2.2,
    fun j hj hj' => (hall j hj (Nat.le_of_lt hj')).2.1⟩, hshows⟩

/-- A query runs its side effects once exactly when no attempt that it reaches, and that fails in a
way the policy retries, hides a side effect. -/
theorem runs_once_iff (job : Job) (w : World) :
    RunsOnce job w ↔ ∀ k, 1 ≤ k → ReachedAndFailed job w k →
      (w.env.harness job.queryId k).hides = false := by
  have hattempts := attempts_eq job w
  cases hdb : w.env.dbFails (w.step + 1) with
  | some e =>
    rw [hdb] at hattempts
    have hnone : attempts job w = [] := hattempts
    constructor
    · intro _ k _ hreached
      have hstarts := hreached.starts
      rw [hdb] at hstarts
      cases hstarts
    · intro _
      constructor <;> simp [hnone]
  | none =>
    rw [hdb] at hattempts
    have hloop : attempts job w = attemptsFrom w.settings job (w.env.harness job.queryId)
        w.settings.retryPolicy.maxAttempts 1 := hattempts
    constructor
    · intro h k hk hreached
      rw [RuntimeRun.hides_eq]
      cases hshows : (w.env.harness job.queryId k).shows with
      | true => simp
      | false =>
        have hmem : w.env.harness job.queryId k ∈ (attempts job w).dropLast := by
          rw [hloop, mem_dropLast_attempts _ _ rfl]
          exact ⟨k, hk, rfl, hreached.continues hshows⟩
        simp [h.once _ hmem]
    · intro h
      constructor
      · intro r hr
        rw [hloop, mem_dropLast_attempts _ _ rfl] at hr
        obtain ⟨k, hk, rfl, hall⟩ := hr
        have hstarts : (w.env.dbFails (w.step + 1)).isNone := by simp [hdb]
        obtain ⟨hreached, hshows⟩ := reached_of_continues hstarts hk hall
        have hhides := h k hk hreached
        rw [RuntimeRun.hides_eq, hshows] at hhides
        simpa using hhides
      · rw [hloop]
        exact attemptsFrom_length _ _

def pushedThenHung : RuntimeRun :=
  .codex [.turnStarted, .itemCompleted (some (.commandExecution true (some "git push origin main")))]
    { timedOut := some 1800000, exitCode := none }

def codexServer : World where
  rows := []
  active := []
  queue := []
  running := none
  inHand := []
  lastSessionId := none
  step := 0
  settings := codexSettings
  env := {
    clock := fun _ => 0
    harness := fun _ _ => pushedThenHung
    dbFails := fun _ => none
    newsFails := fun _ => none }

def pushJob : Job where
  queryId := "query_1"
  prompt := "Tag the release and push it."

theorem pushed_three_times : (attempts pushJob codexServer).map (·.executes) = [true, true, true] := by
  decide +kernel

theorem not_runs_once : ¬ RunsOnce pushJob codexServer := by
  intro h
  have hruns := pushed_three_times
  obtain ⟨r, s, t, hattempts⟩ := List.length_eq_three.mp
    (by simpa using congrArg List.length hruns)
  have hr : r.executes = false := h.once r (by simp [hattempts])
  simp [hattempts, hr] at hruns

end IdAgents.Agent
