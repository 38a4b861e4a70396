import IdAgents.Library.Rely
import IdAgents.Agent.RunOnce

namespace IdAgents.Agent
open JsText AtomicProgram List

/-- How the shell of the Claude adapter ends, which runs `claude …; rm …`. An exit code is `none`
where a signal has killed the process. -/
inductive ShellEnd where
  | rejected (message : String)
  | cancelled
  | closed (plainText : Option String) (stderr : String) (claude rm : Option Int)

/-- The shell goes on whatever `claude` ends with, and ends with what `rm` ends with. -/
def ShellEnd.told : ShellEnd → CliEnd
  | rejected message => .rejected message
  | cancelled => .cancelled
  | closed plainText stderr _ rm => .closed plainText stderr (rm.getD 1)

inductive CliAttempt where
  | claudeCodeCli (lines : List CliLine) (ending : ShellEnd)
  | codex (lines : List CodexEvent) (ending : ProcessEnd)
  | cursorCli (lines : List CursorEvent) (ending : ProcessEnd)

def CliAttempt.told : CliAttempt → RuntimeRun
  | claudeCodeCli lines ending => .claudeCodeCli lines ending.told
  | codex lines ending => .codex lines ending
  | cursorCli lines ending => .cursorCli lines ending

def CliLine.reportsError : CliLine → Bool
  | result r => r.isError
  | _ => false

def CodexEvent.reportsError : CodexEvent → Bool
  | error .. => true
  | _ => false

def CursorEvent.reportsError (event : CursorEvent) : Bool := match event.payload with
  | .result isError subtype _ _ => isError || subtype = some "error"
  | .error .. => true
  | _ => false

def ShellEnd.failed : ShellEnd → Bool
  | closed _ _ claude _ => claude ≠ some 0
  | _ => true

def ProcessEnd.stopped (ending : ProcessEnd) : Bool :=
  ending.cancelled || ending.timedOut.isSome || ending.spawnError.isSome

def ProcessEnd.failed (ending : ProcessEnd) : Bool := ending.stopped || ending.exitCode ≠ some 0

def CliAttempt.failed : CliAttempt → Bool
  | claudeCodeCli lines ending => lines.any (·.reportsError) || ending.failed
  | codex lines ending => lines.any (·.reportsError) || ending.failed
  | cursorCli lines ending => lines.any (·.reportsError) || ending.failed

/-- How `executeQuery` goes on from the end of its loop. -/
def conclude (settings : Settings) (job : Job) : LoopEnd → Prog Unit
  | .result result s => (completeQuery settings job result s).tryCatch (failQuery job s)
  | .exhausted error s => failQuery job s error.message
  | .crashed message s => failQuery job s message

/-- How `executeQuery` goes on from the end of an attempt; `remaining` counts the attempts still
allowed. -/
def afterAttempt (settings : Settings) (job : Job) (remaining : Nat) (s : LoopState)
    (r : RuntimeRun) : Prog Unit :=
  let h := heardOf r s.messages
  (judgeAttempt settings job (settings.retryPolicy.maxAttempts - remaining) h
    { s with messages := h.messages }
    (retryLoop settings job remaining)).bind (conclude settings job)

variable (settings : Settings)

theorem retryLoop_conclude (job : Job) (remaining : Nat) (s : LoopState) :
    (retryLoop settings job (remaining + 1) s).bind (conclude settings job) =
      (runAttempt job (settings.retryPolicy.maxAttempts - remaining)
        (sessionForAttempt settings (settings.retryPolicy.maxAttempts - remaining) s)).bind
          (afterAttempt settings job remaining s) :=
  Program.bind_assoc _ _ _

inductive Aftermath where
  | pending | again | failed
deriving DecidableEq

def Stmt.counts : Stmt → Bool
  | .settle _ (.completed _) _ | .setSession (some _) => true
  | _ => false

def aftermathScript : Script sql Aftermath where
  see g c _ := match g, c with
    | .pending, .spawn .. => .again
    | .pending, .settle _ (.failed _) _ => .failed
    | g, _ => g
  due g c := g = .again ∨ Stmt.counts c = false

section
variable (settings : Settings)

/-- After the attempt, the query is stored as failed or there is another attempt, and before that
nothing of the attempt is stored as a result or kept as the session. -/
def KeepsFailure (job : Job) (remaining : Nat) (s : LoopState) (a : CliAttempt) : Prop :=
  (afterAttempt settings job remaining s a.told).keeps aftermathScript (fun _ g => g ≠ .pending)
    .pending

def isAnswer (text : String) : Bool := match unwrap settings text with
  | .success result => !isEmptyResult settings result
  | _ => false

def CliLine.result? : CliLine → Option CliResult
  | result r => some r
  | _ => none

/-- The text of `claude`: what is not JSON, or the first result. -/
def claudeText (lines : List CliLine) (plainText : Option String) : String :=
  match plainText.filter (trim · ≠ "") with
  | some text => trim text
  | none => ((lines.findSome? (·.result?)).bind (·.result)).getD ""

def CodexEvent.said? : CodexEvent → Option String
  | itemCompleted (some (.agentMessage text)) => some (text.getD "")
  | _ => none

/-- What the agent of `codex` has said last. -/
def codexSaid (lines : List CodexEvent) : String := (lines.filterMap (·.said?)).getLastD ""

/-- What the agent of `codex` has said last at the end of each turn, from `said` on. -/
def codexAnswers (said : String) : List CodexEvent → List String
  | [] => []
  | .itemCompleted (some (.agentMessage text)) :: lines => codexAnswers (text.getD "") lines
  | .turnCompleted :: lines => said :: codexAnswers said lines
  | _ :: lines => codexAnswers said lines

def CursorEvent.reply (event : CursorEvent) : String := match event.payload with
  | .assistant texts _ => String.join texts
  | _ => ""

/-- The reply of `cursor-agent`, in the pieces it comes in. -/
def cursorReply (lines : List CursorEvent) : String := String.join (lines.map (·.reply))

/-- The texts of the results of `cursor-agent`: the reply so far, or else the text that comes with
the result. -/
def cursorAnswers (reply : String) : List CursorEvent → List String
  | [] => []
  | ⟨_, .result _ _ result _⟩ :: lines =>
    firstText [some reply, result] "" :: cursorAnswers reply lines
  | event :: lines => cursorAnswers (reply ++ event.reply) lines

def CliAttempt.noticed : CliAttempt → Bool
  | claudeCodeCli lines (.closed plainText _ _ rm) =>
    rm ≠ some 0 || !isAnswer settings (claudeText lines plainText)
  | claudeCodeCli _ _ => true
  | codex lines ending =>
    lines.any (·.reportsError) || ending.stopped ||
      (codexSaid lines = "" && trim ending.stderrText ≠ "") ||
      !isAnswer settings (((codexAnswers "" lines).filter (· ≠ "")).getLastD "")
  | cursorCli lines ending =>
    lines.any (·.reportsError) || ending.stopped || match (cursorAnswers "" lines).getLast? with
      | some answer => (cursorAnswers "" lines).contains "" || !isAnswer settings answer
      | none => ending.exitCode ≠ some 0 || !isAnswer settings (cursorReply lines)

end

theorem isAnswer_empty : isAnswer settings "" = false := by
  have htrim : trim "" = "" := rfl
  simp [isAnswer, unwrap, isEmptyResult, htrim]

def answerOf (result : String) (ms : List HarnessMessage) : String :=
  ms.foldl (fun result m => m.result.getD result) result

@[simp] theorem answerOf_nil (result : String) : answerOf result [] = result := rfl

theorem answerOf_append (result : String) (ms ms' : List HarnessMessage) :
    answerOf result (ms ++ ms') = answerOf (answerOf result ms) ms' := by
  simp [answerOf]

theorem content_of_fails {m : HarnessMessage} (h : m.fails) :
    ∃ message, m.content = some message ∧ message ≠ "" := by
  simp only [HarnessMessage.fails, Bool.and_eq_true] at h
  cases hcontent : m.content with
  | none => simp [hcontent] at h
  | some message =>
    refine ⟨message, rfl, ?_⟩
    rintro rfl
    simp [hcontent] at h

theorem attemptEnd_listen (h : Heard) (herror : h.error = none) (ms : List HarnessMessage) :
    (∃ result, attemptEnd settings (listen h ms none) = .success result) ↔
      ms.any (·.fails) = false ∧ isAnswer settings (answerOf h.result ms) = true := by
  induction ms generalizing h with
  | nil =>
    have hnone : (listen h [] none).error = none := by simp [listen, herror]
    rw [attemptEnd, hnone]
    dsimp only [listen, answerOf, foldl_nil, Option.filter_none]
    rw [isAnswer]
    cases unwrap settings h.result with
    | success result => by_cases hempty : isEmptyResult settings result <;> simp [hempty]
    | failed source message => simp
    | crashed message => simp
  | cons m ms ih =>
    rw [listen]
    by_cases hm : m.fails
    · obtain ⟨message, hcontent, hmessage⟩ := content_of_fails hm
      have hhear : (h.hear m).error = some message := by simp [Heard.hear, hm, hcontent]
      rw [if_pos hm, attemptEnd, hhear, Option.filter_some, if_pos (by simpa using hmessage)]
      simp [hm]
    · have hhear : (h.hear m).error = none := by simp [Heard.hear, hm, herror]
      have hresult : (h.hear m).result = m.result.getD h.result := by simp [Heard.hear, hm]
      rw [if_neg hm, ih _ hhear, hresult]
      simp [hm, answerOf]

theorem claudeCodeCli_messages (jsonResult : Option CliResult) (lines : List CliLine) :
    claudeCodeCli.messages jsonResult lines = [] := by
  induction lines generalizing jsonResult with
  | nil => rfl
  | cons line lines ih => cases line <;> exact ih _

theorem claudeCodeCli_final (jsonResult : Option CliResult) (lines : List CliLine) :
    claudeCodeCli.final jsonResult lines = (jsonResult <|> lines.findSome? (·.result?)) := by
  induction lines generalizing jsonResult with
  | nil => simp [Translator.final]
  | cons line lines ih =>
    have hstep : claudeCodeCli.final jsonResult (line :: lines) =
        claudeCodeCli.final (claudeCodeCli.step jsonResult line).1 lines := rfl
    rw [hstep, ih]
    cases line with
    | result r => cases jsonResult <;> simp [claudeCodeCli, CliLine.result?]
    | _ => simp [claudeCodeCli, CliLine.result?]

theorem firstText_ne {last : String} (h : last ≠ "") (texts : List (Option String)) :
    firstText texts last ≠ "" := by
  rw [firstText]
  cases hfind : (texts.filterMap id).find? (· ≠ "") with
  | none => exact h
  | some text => simpa using find?_some hfind

theorem append_ne {text : String} (h : text ≠ "") (more : String) : text ++ more ≠ "" := by
  intro hempty
  exact h (String.append_eq_empty_iff.mp hempty).1

@[simp] theorem error_fails (content : String) :
    (HarnessMessage.error content).fails = decide (content ≠ "") := by
  simp [HarnessMessage.fails, HarnessMessage.error]

theorem claude_success (lines : List CliLine) (ending : ShellEnd) :
    (∃ result, (CliAttempt.claudeCodeCli lines ending).told.ending settings = .success result) ↔
      (CliAttempt.claudeCodeCli lines ending).noticed settings = false := by
  apply (attemptEnd_listen settings {} rfl
    (ClaudeCodeCliHarness.run lines ending.told).messages).trans
  dsimp only [ClaudeCodeCliHarness.run]
  rw [claudeCodeCli_messages, nil_append]
  cases ending with
  | rejected message =>
    have hempty : answerOf "" [.error message] = "" := rfl
    simp [ShellEnd.told, CliAttempt.noticed, hempty, isAnswer_empty]
  | cancelled => simp [ShellEnd.told, CliAttempt.noticed]
  | closed plainText stderr claude rm =>
    by_cases hrm : rm = some 0
    · rw [hrm]
      simp only [ShellEnd.told, CliAttempt.noticed, claudeCodeCli_final, claudeText,
        Option.getD_some, ne_eq, not_true, if_false, append_nil]
      cases plainText.filter (trim · ≠ "") with
      | some text => simp [HarnessMessage.fails, answerOf]
      | none =>
        cases lines.findSome? (·.result?) with
        | some r => simp [HarnessMessage.fails, answerOf, cliResultMessage]
        | none => simp [answerOf]
    · have hcode : rm.getD 1 ≠ 0 := by
        cases rm with
        | none => decide
        | some code => simpa using hrm
      have hmessage : firstText [some stderr] s!"Claude CLI exited with code {rm.getD 1}" ≠ "" :=
        firstText_ne (append_ne (by decide) _) _
      have hfails : ∀ ms : List HarnessMessage, (ms ++ if rm.getD 1 ≠ 0 then
          [HarnessMessage.error
            (firstText [some stderr] s!"Claude CLI exited with code {rm.getD 1}")]
          else []).any (·.fails) = true := by
        intro ms
        rw [if_pos hcode, any_append, any_cons, error_fails, decide_eq_true hmessage,
          Bool.true_or, Bool.or_true]
      dsimp only [ShellEnd.told, CliAttempt.noticed]
      rw [hfails]
      simp [hrm]
section
variable (s : CodexState)

theorem codex_step_fails (e : CodexEvent) : (codex.step s e).2.any (·.fails) = e.reportsError := by
  cases e with
  | itemCompleted item =>
    cases item with
    | none => rfl
    | some item =>
      cases item with
      | other text reports =>
        cases text <;>
          simp [codex, codexItemMessages, HarnessMessage.fails, CodexEvent.reportsError]
      | _ => rfl
  | itemStarted item =>
    cases item with
    | none => rfl
    | some item => cases item <;> rfl
  | turnCompleted => by_cases h : s.lastResult = "" <;> simp [codex, h, HarnessMessage.fails,
      CodexEvent.reportsError]
  | error message error =>
    have hne : firstText [message, error] "Unknown error" ≠ "" := firstText_ne (by decide) _
    simp [codex, hne, CodexEvent.reportsError]
  | _ => rfl

theorem codex_step_said (e : CodexEvent) :
    (codex.step s e).1.lastResult = e.said?.getD s.lastResult := by
  cases e with
  | itemCompleted item =>
    cases item with
    | none => rfl
    | some item =>
      cases item with
      | agentMessage text =>
        cases text with
        | none => rfl
        | some text => by_cases h : text = "" <;> simp [codex, CodexEvent.said?, firstText, h]
      | _ => rfl
  | itemStarted item =>
    cases item with
    | none => rfl
    | some item => cases item <;> rfl
  | _ => rfl

theorem codex_messages_fail (lines : List CodexEvent) :
    (codex.messages s lines).any (·.fails) = lines.any (·.reportsError) := by
  induction lines generalizing s with
  | nil => rfl
  | cons line lines ih =>
    rw [Translator.messages, any_append, codex_step_fails, ih, any_cons]

theorem codex_final_said (lines : List CodexEvent) :
    (codex.final s lines).lastResult = (lines.filterMap (·.said?)).getLastD s.lastResult := by
  induction lines generalizing s with
  | nil => rfl
  | cons line lines ih =>
    have hstep : codex.final s (line :: lines) = codex.final (codex.step s line).1 lines := rfl
    rw [hstep, ih, codex_step_said]
    cases hsaid : line.said? with
    | none => rw [filterMap_cons_none hsaid, Option.getD_none]
    | some text => rw [filterMap_cons_some hsaid, getLastD_cons, Option.getD_some]

theorem codex_step_answer (result : String) (e : CodexEvent) : answerOf result (codex.step s e).2 =
      ((codexAnswers s.lastResult [e]).filter (· ≠ "")).getLastD result := by
  cases e with
  | itemCompleted item =>
    cases item with
    | none => rfl
    | some item =>
      cases item with
      | other text reports =>
        have hempty : answerOf result (codexItemMessages (.other text reports)) = result := by
          rw [codexItemMessages]
          split <;> rfl
        exact hempty
      | _ => rfl
  | itemStarted item =>
    cases item with
    | none => rfl
    | some item => cases item <;> rfl
  | turnCompleted => by_cases h : s.lastResult = "" <;> simp [codex, h, answerOf, codexAnswers]
  | _ => rfl

theorem codexAnswers_cons (said : String) (e : CodexEvent) (lines : List CodexEvent) :
    codexAnswers said (e :: lines) =
      codexAnswers said [e] ++ codexAnswers (e.said?.getD said) lines := by
  cases e with
  | itemCompleted item =>
    cases item with
    | none => rfl
    | some item => cases item <;> rfl
  | _ => rfl

theorem getLastD_append (xs ys : List String) (last : String) :
    (xs ++ ys).getLastD last = ys.getLastD (xs.getLastD last) := by
  cases ys <;> simp [getLastD_eq_getLast?]

theorem codex_answers (result : String) (lines : List CodexEvent) :
    answerOf result (codex.messages s lines) =
      ((codexAnswers s.lastResult lines).filter (· ≠ "")).getLastD result := by
  induction lines generalizing s result with
  | nil => rfl
  | cons line lines ih =>
    rw [Translator.messages, answerOf_append, ih, codex_step_said, codex_step_answer,
      codexAnswers_cons s.lastResult line lines, filter_append, getLastD_append]

end

theorem sliceUnits_eq_empty (text : String) : sliceUnits 500 text = "" ↔ text = "" := by
  have hslice : sliceChars 500 text.toList = [] ↔ text.toList = [] := by
    cases text.toList <;> simp [sliceChars]
  rw [sliceUnits, String.ofList_eq_empty_iff, hslice, String.toList_eq_nil_iff]

theorem stderr_fails {P : Prop} [Decidable P] (stderrText : String) :
    (if P ∧ stderrText ≠ "" then [HarnessMessage.error (sliceUnits 500 (trim stderrText))]
      else []).any (·.fails) = (decide P && trim stderrText ≠ "") := by
  by_cases hblank : trim stderrText = ""
  · split <;> simp [hblank, sliceUnits_eq_empty]
  · have hne : stderrText ≠ "" := by
      rintro rfl
      exact hblank rfl
    by_cases hP : P <;> simp [hP, hne, hblank, sliceUnits_eq_empty]

theorem stderr_answer {P : Prop} [Decidable P] (result text : String) :
    answerOf result (if P then [HarnessMessage.error text] else []) = result := by
  split <;> rfl

theorem codex_success (lines : List CodexEvent) (ending : ProcessEnd) :
    (∃ result, (CliAttempt.codex lines ending).told.ending settings = .success result) ↔
      (CliAttempt.codex lines ending).noticed settings = false := by
  apply (attemptEnd_listen settings {} rfl (CodexHarness.run lines ending).messages).trans
  dsimp only [CodexHarness.run]
  rw [CliAttempt.noticed, any_append, any_append, codex_messages_fail, answerOf_append,
    answerOf_append, codex_answers, codex_final_said]
  obtain ⟨cancelled, timedOut, spawnError, stderrText, exitCode⟩ := ending
  dsimp only [ProcessEnd.cancelledMessages, ProcessEnd.stopped, codexSaid]
  cases cancelled with
  | true => simp
  | false =>
    cases timedOut with
    | some timeoutMs => simp
    | none =>
      cases spawnError with
      | some message => simp
      | none =>
        simp only [Option.toList_none, map_nil, nil_append, Bool.false_eq_true, if_false,
          answerOf_nil, stderr_fails, stderr_answer]
        simp [and_assoc]

variable (s : CursorParserState)

variable (session : Option String)

theorem seeSession_reply : (seeSession s session).1.assistantReply = s.assistantReply ∧
      (seeSession s session).1.terminalEmitted = s.terminalEmitted := by
  rw [seeSession]
  split <;> exact ⟨rfl, rfl⟩

theorem seeSession_heard (result : String) : (seeSession s session).2.any (·.fails) = false ∧
      answerOf result (seeSession s session).2 = result := by
  rw [seeSession]
  split
  · split <;> exact ⟨rfl, rfl⟩
  · exact ⟨rfl, rfl⟩

theorem parsePayload_state (payload : CursorPayload) : (parsePayload s payload).1.assistantReply =
        s.assistantReply ++ CursorEvent.reply ⟨session, payload⟩ ∧
      (parsePayload s payload).1.terminalEmitted = (s.terminalEmitted ||
        CursorEvent.reportsError ⟨session, payload⟩ ||
          !(cursorAnswers s.assistantReply [⟨session, payload⟩]).isEmpty) := by
  cases payload with
  | thinking delta text =>
    cases delta with
    | false => simp [parsePayload, CursorEvent.reply, CursorEvent.reportsError, cursorAnswers]
    | true =>
      cases text with
      | none => simp [parsePayload, CursorEvent.reply, CursorEvent.reportsError, cursorAnswers]
      | some text =>
        by_cases htext : text = "" <;>
          simp [parsePayload, CursorEvent.reply, CursorEvent.reportsError, cursorAnswers, htext]
  | _ => simp [parsePayload, CursorEvent.reply, CursorEvent.reportsError, cursorAnswers]

theorem parsePayload_heard (payload : CursorPayload) (result : String) :
    (parsePayload s payload).2.any (·.fails) = (CursorEvent.reportsError ⟨session, payload⟩ ||
        (cursorAnswers s.assistantReply [⟨session, payload⟩]).contains "") ∧
      ((parsePayload s payload).2.any (·.fails) = false →
        answerOf result (parsePayload s payload).2 =
          (cursorAnswers s.assistantReply [⟨session, payload⟩]).getLastD result) := by
  cases payload with
  | thinking delta text =>
    cases delta with
    | false => exact ⟨rfl, fun _ => rfl⟩
    | true => cases text <;> exact ⟨rfl, fun _ => rfl⟩
  | result isError subtype text error =>
    by_cases herror : isError = true ∨ subtype = some "error"
    · have hne : firstText [text, error] "cursor-agent reported an error" ≠ "" :=
        firstText_ne (by decide) _
      rw [parsePayload, if_pos herror]
      obtain rfl | hsubtype := herror <;> simp_all [CursorEvent.reportsError]
    · have hreports :
          CursorEvent.reportsError ⟨session, .result isError subtype text error⟩ = false := by
        simpa [CursorEvent.reportsError] using herror
      rw [parsePayload, if_neg herror, hreports, cursorAnswers, cursorAnswers]
      by_cases htext : firstText [some s.assistantReply, text] "" = ""
      · simp [htext]
      · have hne : "" ≠ firstText [some s.assistantReply, text] "" := Ne.symm htext
        simp [htext, hne, HarnessMessage.fails, answerOf]
  | error message error =>
    have hne : firstText [message, error] "Unknown cursor-agent error" ≠ "" :=
      firstText_ne (by decide) _
    simp [parsePayload, CursorEvent.reportsError, hne]
  | _ => exact ⟨rfl, fun _ => rfl⟩

theorem cursorAnswers_cons (reply : String) (e : CursorEvent) (lines : List CursorEvent) :
    cursorAnswers reply (e :: lines) =
      cursorAnswers reply [e] ++ cursorAnswers (reply ++ e.reply) lines := by
  obtain ⟨session, payload⟩ := e
  cases payload <;> simp [cursorAnswers, CursorEvent.reply]

theorem cursor_step (e : CursorEvent) (result : String) :
    (cursorCli.step s e).1.assistantReply = s.assistantReply ++ e.reply ∧
    (cursorCli.step s e).1.terminalEmitted =
      (s.terminalEmitted || e.reportsError || !(cursorAnswers s.assistantReply [e]).isEmpty) ∧
    (cursorCli.step s e).2.any (·.fails) =
      (e.reportsError || (cursorAnswers s.assistantReply [e]).contains "") ∧
    ((cursorCli.step s e).2.any (·.fails) = false → answerOf result (cursorCli.step s e).2 =
      (cursorAnswers s.assistantReply [e]).getLastD result) := by
  obtain ⟨session, payload⟩ := e
  obtain ⟨hreply, hterminal⟩ := seeSession_reply s session
  obtain ⟨hinit, hresult⟩ := seeSession_heard s session result
  obtain ⟨hreply', hterminal'⟩ := parsePayload_state (seeSession s session).1 session payload
  obtain ⟨hfails, hanswer⟩ := parsePayload_heard (seeSession s session).1 session payload result
  dsimp only [cursorCli, parseCursorEvent]
  rw [any_append, hinit, Bool.false_or, answerOf_append, hresult, ← hreply, ← hterminal]
  exact ⟨hreply', hterminal', hfails, hanswer⟩

theorem cursor_run (result : String) (lines : List CursorEvent) :
    (cursorCli.final s lines).assistantReply = s.assistantReply ++ cursorReply lines ∧
    (cursorCli.final s lines).terminalEmitted = (s.terminalEmitted ||
      lines.any (·.reportsError) || !(cursorAnswers s.assistantReply lines).isEmpty) ∧
    (cursorCli.messages s lines).any (·.fails) =
      (lines.any (·.reportsError) || (cursorAnswers s.assistantReply lines).contains "") ∧
    ((cursorCli.messages s lines).any (·.fails) = false →
      answerOf result (cursorCli.messages s lines) =
        (cursorAnswers s.assistantReply lines).getLastD result) := by
  induction lines generalizing s result with
  | nil => simp [Translator.final, Translator.messages, cursorReply, cursorAnswers]
  | cons e lines ih =>
    have hfinal : cursorCli.final s (e :: lines) =
        cursorCli.final (cursorCli.step s e).1 lines := rfl
    obtain ⟨hreply, hterminal, hfails, hanswer⟩ := cursor_step s e result
    obtain ⟨hreply', hterminal', hfails', hanswer'⟩ := ih (cursorCli.step s e).1
      ((cursorAnswers s.assistantReply [e]).getLastD result)
    rw [hreply] at hreply' hterminal' hfails' hanswer'
    rw [hfinal, Translator.messages, cursorAnswers_cons s.assistantReply e lines, any_append,
      answerOf_append, hreply', hterminal', hfails, hfails', hterminal, getLastD_append]
    refine ⟨?_, ?_, ?_, ?_⟩
    · simp [cursorReply, String.append_assoc]
    · cases cursorAnswers s.assistantReply [e] <;> simp [Bool.or_left_comm, Bool.or_comm]
    · simp [Bool.or_assoc, Bool.or_left_comm]
    · intro h
      rw [← hfails, ← hfails', Bool.or_eq_false_iff] at h
      rw [hanswer h.1]
      exact hanswer' h.2

theorem cursor_success (lines : List CursorEvent) (ending : ProcessEnd) :
    (∃ result, (CliAttempt.cursorCli lines ending).told.ending settings = .success result) ↔
      (CliAttempt.cursorCli lines ending).noticed settings = false := by
  apply (attemptEnd_listen settings {} rfl (CursorCliHarness.run lines ending).messages).trans
  obtain ⟨hreply, hterminal, hfails, hanswer⟩ := cursor_run {} "" lines
  dsimp only at hreply hterminal hfails hanswer
  dsimp only [CursorCliHarness.run]
  rw [CliAttempt.noticed, any_append, any_append, answerOf_append, answerOf_append]
  obtain ⟨cancelled, timedOut, spawnError, stderrText, exitCode⟩ := ending
  dsimp only [ProcessEnd.cancelledMessages, ProcessEnd.stopped]
  cases cancelled with
  | true => simp
  | false =>
    cases timedOut with
    | some timeoutMs => simp
    | none =>
      cases spawnError with
      | some message => simp
      | none =>
        cases herror : lines.any (·.reportsError) with
        | true => simp [hfails, herror]
        | false =>
          rw [herror, Bool.false_or] at hfails
          rw [herror, Bool.or_self, Bool.false_or] at hterminal
          rw [hfails] at hanswer
          cases hlast : (cursorAnswers "" lines).getLast? with
          | none =>
            have hempty : cursorAnswers "" lines = [] := getLast?_eq_none_iff.mp hlast
            rw [hempty] at hfails hterminal hanswer
            simp only [hfails, hterminal, hanswer rfl, hreply, String.empty_append]
            by_cases hreplied : cursorReply lines ≠ "" ∧ exitCode = some 0
            · simp [hreplied, HarnessMessage.fails, answerOf]
            · have hunanswered :
                  exitCode = some 0 → isAnswer settings (cursorReply lines) = false := by
                intro hexit
                have hreply : cursorReply lines = "" := by
                  by_contra hreply
                  exact hreplied ⟨hreply, hexit⟩
                rw [hreply, isAnswer_empty]
              have hcode : toString "cursor-agent exited with code " ≠ "" := by decide
              by_cases hblank : trim stderrText = ""
              · simpa [hreplied, hcode, hblank] using hunanswered
              · simpa [hreplied, hblank, sliceUnits_eq_empty] using hunanswered
          | some answer =>
            have hne : cursorAnswers "" lines ≠ [] := by
              intro hempty
              simp [hempty] at hlast
            rw [getLastD_eq_getLast?, hlast] at hanswer
            simp only [isEmpty_eq_false_iff.mpr hne, Bool.not_false] at hterminal
            simp only [hfails, hterminal]
            cases hblank : (cursorAnswers "" lines).contains "" with
            | true => simp
            | false => simp [hanswer hblank]

theorem success_iff (a : CliAttempt) :
    (∃ result, a.told.ending settings = .success result) ↔ a.noticed settings = false := by
  cases a with
  | claudeCodeCli lines ending => exact claude_success settings lines ending
  | codex lines ending => exact codex_success settings lines ending
  | cursorCli lines ending => exact cursor_success settings lines ending

theorem again_keeps (p : Prog α) : p.keeps aftermathScript (fun _ g => g ≠ .pending) .again := by
  induction p with
  | ret a => exact Aftermath.noConfusion
  | throw e => exact Aftermath.noConfusion
  | issue c k ih => exact ⟨.inl rfl, ih⟩

def GoesOn (p : Prog α) (R : α → Prop) : Prop :=
  p.keeps aftermathScript (fun r g => g = .pending ∧ ∃ a, r = .ok a ∧ R a) .pending

theorem GoesOn.keeps_bind {p : Prog α} {f : α → Prog β} {T : Except String β → Aftermath → Prop}
    {R : α → Prop} (h : GoesOn p R) (hf : ∀ a, R a → (f a).keeps aftermathScript T .pending) :
    (p.bind f).keeps aftermathScript T .pending := by
  apply Program.keeps_seq h
  · rintro a g ⟨rfl, b, hb, hR⟩
    cases hb
    exact hf a hR
  · rintro e g ⟨_, b, hb, _⟩
    cases hb

theorem addNews_goesOn (type queryId : String) :
    GoesOn (ignoring (addNews type queryId)) fun _ => True :=
  ⟨.inr rfl, fun _ => ⟨rfl, (), rfl, trivial⟩⟩

theorem setSession_none_goesOn : GoesOn (setSession none) fun _ => True :=
  ⟨.inr rfl, fun _ => ⟨rfl, (), rfl, trivial⟩⟩

theorem clearOnFilter_goesOn (source : HarnessFailureSource)
    (classification : HarnessFailureClassification) :
    GoesOn (clearOnFilter source classification) fun _ => True := by
  rw [clearOnFilter]
  split
  · exact setSession_none_goesOn
  · exact ⟨rfl, (), rfl, trivial⟩

theorem prepareRetry_goesOn (job : Job) (s : LoopState)
    (classification : HarnessFailureClassification) :
    GoesOn (prepareRetry settings job s classification) fun _ => True := by
  apply (addNews_goesOn _ _).keeps_bind
  intro _ _
  split
  · apply setSession_none_goesOn.keeps_bind
    intro _ _
    exact ⟨rfl, _, rfl, trivial⟩
  · exact ⟨rfl, _, rfl, trivial⟩

theorem giveUp_goesOn (job : Job) (attempt : Nat) (s : LoopState)
    (message : String) (classification : HarnessFailureClassification) (decision : RetryDecision) :
    GoesOn (giveUp settings job attempt s message classification decision)
      fun ending => ∃ error s, ending = .exhausted error s := by
  rw [giveUp]
  split
  · apply (addNews_goesOn _ _).keeps_bind
    intro _ _
    exact ⟨rfl, _, rfl, _, _, rfl⟩
  · exact ⟨rfl, _, rfl, _, _, rfl⟩

theorem failed_keeps {p : Prog α} (hp : p.Meets (fun c : Stmt => c.counts = false) fun _ => True) :
    p.keeps aftermathScript (fun _ g => g ≠ .pending) .failed := by
  induction p with
  | ret a => exact Aftermath.noConfusion
  | throw e => exact Aftermath.noConfusion
  | issue c k ih => exact ⟨.inr hp.1, fun a => ih a (hp.2 a)⟩

theorem failQuery_keepsFailure (job : Job) (s : LoopState) (error : String) :
    (failQuery job s error).keeps aftermathScript (fun _ g => g ≠ .pending) .pending := by
  refine ⟨.inr rfl, fun (stored : Except String Unit) => ?_⟩
  cases stored with
  | error e => exact Aftermath.noConfusion
  | ok =>
    apply failed_keeps
    have hclear : (clearOnFilterError error).Meets (fun c : Stmt => c.counts = false)
        fun _ => True := by
      rw [clearOnFilterError]
      split
      · exact ⟨rfl, fun _ => trivial⟩
      · trivial
    have hnews : (orThrow (addNews "query.failed" job.queryId)).Meets
        (fun c : Stmt => c.counts = false) fun _ => True :=
      orThrow_meets ⟨rfl, fun _ => trivial⟩
    apply hclear.bind
    intro _ _
    apply hnews.bind
    intro _ _
    rw [sendReplyToSender]
    split
    · exact ⟨rfl, fun _ => trivial⟩
    · trivial

theorem judgeAttempt_keepsFailure {settings : Settings} {h : Heard}
    (hfailed : ∀ result, attemptEnd settings h ≠ .success result) (job : Job) (remaining : Nat)
    (s : LoopState) : ((judgeAttempt settings job (settings.retryPolicy.maxAttempts - remaining) h s
      (retryLoop settings job remaining)).bind (conclude settings job)).keeps aftermathScript
        (fun _ g => g ≠ .pending) .pending := by
  rw [judgeAttempt]
  cases hend : attemptEnd settings h with
  | success result => exact absurd hend (hfailed result)
  | crashed message => exact failQuery_keepsFailure job s message
  | failed source message =>
    dsimp only [Program.bind_eq]
    rw [Program.bind_assoc]
    apply (clearOnFilter_goesOn _ _).keeps_bind
    intro _ _
    split
    · next hretry =>
      -- another attempt is only started where one is left
      rw [retryDecision, evaluateRetry_retry] at hretry
      have hleft := shouldRetry_lt (Bool.and_eq_true_iff.mp hretry).2
      rw [Program.bind_assoc]
      apply (prepareRetry_goesOn _ _ _ _).keeps_bind
      intro s _
      cases remaining with
      | zero => exact absurd hleft (Nat.lt_irrefl _)
      | succ remaining =>
        rw [retryLoop_conclude]
        exact ⟨.inr rfl, fun _ => again_keeps _⟩
    · apply (giveUp_goesOn _ _ _ _ _ _ _).keeps_bind
      rintro _ ⟨error, s, rfl⟩
      exact failQuery_keepsFailure job s error.message

theorem judgeAttempt_counts {settings : Settings} {h : Heard}
    (hsuccess : attemptEnd settings h = .success result) (job : Job) (attempt : Nat)
    (s : LoopState) (again : LoopState → Prog LoopEnd) :
    ¬ ((judgeAttempt settings job attempt h s again).bind (conclude settings job)).keeps
      aftermathScript (fun _ g => g ≠ .pending) .pending := by
  rw [judgeAttempt, hsuccess]
  dsimp only [Program.bind_eq]
  rw [Program.bind_assoc, commitSession]
  cases h.sessionId with
  | none =>
    rintro ⟨hdue | hdue, _⟩
    · cases hdue
    · cases hdue
  | some session =>
    dsimp only
    split
    · rintro ⟨hdue | hdue, _⟩
      · cases hdue
      · cases hdue
    · rintro ⟨hdue | hdue, _⟩
      · cases hdue
      · cases hdue

theorem keepsFailure_iff (job : Job) (remaining : Nat) (s : LoopState)
    (a : CliAttempt) : KeepsFailure settings job remaining s a ↔ a.noticed settings := by
  have hend := success_iff settings a
  rw [← heardOf_end settings a.told s.messages] at hend
  cases hnoticed : a.noticed settings with
  | true =>
    have hfailed :
        ∀ result, attemptEnd settings (heardOf a.told s.messages) ≠ .success result := by
      intro result hsuccess
      have hunnoticed := hend.mp ⟨result, hsuccess⟩
      rw [hnoticed] at hunnoticed
      cases hunnoticed
    exact iff_of_true (judgeAttempt_keepsFailure hfailed job remaining _) rfl
  | false =>
    obtain ⟨result, hsuccess⟩ := hend.mpr hnoticed
    exact iff_of_false (judgeAttempt_counts hsuccess job _ _ _) Bool.false_ne_true

/-- A failure of the runtime is kept as one exactly when the adapter notices it: it is told that
the runtime has failed, or has no text to store. -/
theorem runtimeFailure_kept_iff (settings : Settings) (job : Job) (remaining : Nat) (s : LoopState)
    (a : CliAttempt) : (a.failed → KeepsFailure settings job remaining s a) ↔
      (a.failed → a.noticed settings) := by
  rw [keepsFailure_iff]

def resumingSettings : Settings :=
  { codexSettings with runtimeDisplay := "Claude", allowSessionResume := true }

def unresumed : LoopState where
  sessionId := none

/-- `claude` reports an error and exits with 1, and `rm` with 0. -/
def erroredClaude : CliAttempt :=
  .claudeCodeCli [.result ⟨true, some "API Error: the request was aborted", some "s-1"⟩]
    (.closed none "" (some 1) (some 0))

/-- `codex` exits with 1 after a turn. -/
def crashedCodex : CliAttempt :=
  .codex [.itemCompleted (some (.agentMessage (some "Looking into it"))), .turnCompleted]
    { exitCode := some 1 }

/-- `cursor-agent` is killed after its final event. -/
def killedCursor : CliAttempt :=
  .cursorCli [{ payload := .result false (some "success") (some "Looking into it") none }]
    { exitCode := none }

/-- In each of them the failure counts as a success. -/
theorem failures_count :
    (erroredClaude.failed ∧ ¬ KeepsFailure resumingSettings pushJob 2 unresumed erroredClaude) ∧
      (crashedCodex.failed ∧ ¬ KeepsFailure resumingSettings pushJob 2 unresumed crashedCodex) ∧
        killedCursor.failed ∧ ¬ KeepsFailure resumingSettings pushJob 2 unresumed killedCursor := by
  rw [keepsFailure_iff, keepsFailure_iff, keepsFailure_iff]
  decide +kernel

end IdAgents.Agent
