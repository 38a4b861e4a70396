import IdAgents.Scheduler.FreshRead
import IdAgents.Scheduler.RecoveryBudget

namespace IdAgents
open JsText KeyedTable AtomicProgram

def AgentDone.namedByQuery (args : AgentDone) (w : World) : Option Row :=
  (args.queryId.filter (· ≠ "")).bind fun queryId => w.table.rows.find? (·.queryId = queryId)

def AgentDone.names (args : AgentDone) (w : World) : Option Row :=
  args.namedByQuery w <|> (args.agentQueryId.filter (· ≠ "")).bind fun agentQueryId =>
    w.table.rows.find? (·.agentQueryId = some agentQueryId)

theorem AgentDone.names_mem {args : AgentDone} {w : World} (h : args.names w = some row) :
    row ∈ w.table.rows := by
  unfold names namedByQuery at h
  rw [Option.orElse_eq_some] at h
  obtain hquery | ⟨_, hagent⟩ := h
  · obtain ⟨_, _, hfind⟩ := Option.bind_eq_some_iff.mp hquery
    exact List.mem_of_find?_eq_some hfind
  · obtain ⟨_, _, hfind⟩ := Option.bind_eq_some_iff.mp hagent
    exact List.mem_of_find?_eq_some hfind

inductive Verdict where
  | success (result : Option Json) (reportCandidateRequestJson : Option String)
      (promotionResultJson : Option Json)
  | failure (args : FailureArgs)
  | limited

def AgentDone.succeeds (args : AgentDone) : Verdict :=
  .success (args.result.map Json.obj) args.reportCandidateRequestJson args.promotionResultJson
section
variable (opts : CloseoutOptions)
section
variable (args : AgentDone)

def verdictOf : Option FailedClassification → Verdict
  | none => args.succeeds
  | some failure =>
    if failure.reason = .rateLimitError ∧ failure.matchedPattern = "text:claude-session-limit" then
      .limited
    else if parseStrictModeFlag opts.rawStrictMode = .enforce then
      .failure ⟨.strictModeClassified, strictModeDetail failure⟩
    else args.succeeds

def AgentDone.verdict : Verdict :=
  if args.success = some false then
    .failure ⟨args.failureKind.getD .agentError, args.error.getD "agent reported failure"⟩
  else verdictOf opts args (classifyAgentResponse opts.intl args.result 200 0)

def Verdict.RecordedIn (row : Row) : Verdict → Prop
  | success result request promotion => row.status = .done ∧ row.resultJson = result ∧
    row.reportCandidateRequestJson = request ∧ row.promotionResultJson = promotion
  | failure args => row.status = .failed ∧ row.failureKind = some args.failureKind ∧
    row.failureDetail = some args.detail
  | limited => False

theorem Verdict.RecordedIn.unique {v v' : Verdict} (h : v.RecordedIn row) (h' : v'.RecordedIn row) :
    v = v' := by
  cases v with
  | success result request promotion =>
    obtain ⟨hs, rfl, rfl, rfl⟩ := h
    cases v' with
    | success =>
      obtain ⟨_, rfl, rfl, rfl⟩ := h'
      rfl
    | failure => exact absurd (hs.symm.trans h'.1) (by decide)
    | limited => exact h'.elim
  | failure args =>
    obtain ⟨hs, hkind, hdetail⟩ := h
    cases v' with
    | success => exact absurd (hs.symm.trans h'.1) (by decide)
    | failure args' =>
      obtain ⟨_, hkind', hdetail'⟩ := h'
      obtain ⟨kind, detail⟩ := args
      obtain ⟨kind', detail'⟩ := args'
      obtain rfl := Option.some.inj (hkind.symm.trans hkind')
      obtain rfl := Option.some.inj (hdetail.symm.trans hdetail')
      rfl
    | limited => exact h'.elim
  | limited => exact h.elim

def FailedClassification.timeless (c : FailedClassification) : FailedClassification :=
  { c with providerResetAt := none }

theorem parseClaudeSessionLimit_time (intl : Intl) (text : String) (t t' : Instant) :
    (parseClaudeSessionLimit intl text t).map (·.resetLabel) =
      (parseClaudeSessionLimit intl text t').map (·.resetLabel) := by
  unfold parseClaudeSessionLimit
  dsimp only
  split
  · rfl
  split
  · rfl
  split
  · rfl
  split <;> rfl

theorem matchPlainText_time (intl : Intl) (text : String) (t t' : Instant) :
    (matchPlainText intl text t).map (·.timeless) =
      (matchPlainText intl text t').map (·.timeless) := by
  have hlabel := parseClaudeSessionLimit_time intl text t t'
  unfold matchPlainText
  dsimp only
  cases h : parseClaudeSessionLimit intl text t with
  | none =>
    cases h' : parseClaudeSessionLimit intl text t' with
    | none => rfl
    | some limit' =>
      rw [h, h'] at hlabel
      cases hlabel
  | some limit =>
    cases h' : parseClaudeSessionLimit intl text t' with
    | none =>
      rw [h, h'] at hlabel
      cases hlabel
    | some limit' =>
      rw [h, h'] at hlabel
      have hsame : limit.resetLabel = limit'.resetLabel := Option.some.inj hlabel
      simp [FailedClassification.timeless, hsame]

theorem classifyAgentResponse_time (intl : Intl) (body : Option ResponseBody) (status : Int)
    (t t' : Instant) : (classifyAgentResponse intl body status t).map (·.timeless) =
      (classifyAgentResponse intl body status t').map (·.timeless) := by
  unfold classifyAgentResponse
  split
  · rfl
  split
  · rfl
  split
  · rfl
  dsimp only
  split
  · exact matchPlainText_time intl _ t t'
  · rfl

theorem verdictOf_timeless (c : Option FailedClassification) :
    verdictOf opts args c = verdictOf opts args (c.map (·.timeless)) := by
  cases c <;> rfl

theorem AgentDone.verdict_eq {args : AgentDone} (h : args.success ≠ some false) (t : Instant) :
    verdictOf opts args (classifyAgentResponse opts.intl args.result 200 t) = args.verdict opts := by
  rw [verdict]
  rw [if_neg h, verdictOf_timeless, classifyAgentResponse_time opts.intl args.result 200 t 0,
    ← verdictOf_timeless]

def Ends (p : Prog α) (r : Except ReactorError α) (w : World) : Prop :=
  ∃ w', p.run w = (r, w') ∧ w'.table = w.table ∧ w'.eventLog = w.eventLog

theorem Ends.bind {p : Prog α} {f : α → Prog β} (hp : Ends p (.ok a) w)
    (hf : ∀ w', w'.table = w.table → Ends (f a) r w') : Ends (p.bind f) r w := by
  obtain ⟨w₁, hrun, htable, hlog⟩ := hp
  obtain ⟨w₂, hrun', htable', hlog'⟩ := hf w₁ htable
  exact ⟨w₂, by rw [Program.run_bind_ok hrun, hrun'], htable'.trans htable, hlog'.trans hlog⟩

theorem Ends.map {p : Prog α} (hp : Ends p r w) (f : α → β) : Ends (f <$> p) (f <$> r) w := by
  obtain ⟨w₁, hrun, htable, hlog⟩ := hp
  cases r with
  | ok a => exact ⟨w₁, Program.run_bind_ok hrun _, htable, hlog⟩
  | error e => exact ⟨w₁, Program.run_bind_error hrun _, htable, hlog⟩

theorem Ends.wrapNullable {p : Prog (Option α)} (hp : Ends p (.ok a) w) (operation : String) :
    Ends (wrapNullable operation p) (.ok (foundOr operation a)) w := by
  obtain ⟨w₁, hrun, htable, hlog⟩ := hp
  refine ⟨w₁, ?_, htable, hlog⟩
  have hmap : (foundOr operation <$> p).run w = (.ok (foundOr operation a), w₁) :=
    Program.run_bind_ok hrun _
  rw [IdAgents.wrapNullable, Program.run_tryCatch, hmap]

theorem docByQueryId_ends (w : World) :
    Ends (docByQueryId args) (.ok ((args.namedByQuery w).map rowToDoc)) w := by
  unfold docByQueryId AgentDone.namedByQuery
  cases args.queryId.filter (· ≠ "") with
  | none => exact ⟨w, rfl, rfl, rfl⟩
  | some queryId =>
    have hread : Ends (getByQueryId queryId)
        (.ok ((w.table.rows.find? (·.queryId = queryId)).map rowToDoc)) w :=
      ⟨Stmt.effect .select w, rfl, rfl, rfl⟩
    have hfound := (hread.wrapNullable "getByQueryId").map fun r => r.toOption
    dsimp only [Option.bind_some]
    cases hrow : w.table.rows.find? (·.queryId = queryId) with
    | none | some row =>
      rw [hrow] at hfound
      exact hfound

theorem reportedDoc_ends (w : World) :
    Ends (reportedDoc args) (.ok ((args.names w).map rowToDoc)) w := by
  apply (docByQueryId_ends args w).bind
  intro w₁ htable
  rw [AgentDone.names]
  cases args.namedByQuery w with
  | some row => exact ⟨w₁, rfl, rfl, rfl⟩
  | none =>
    cases args.agentQueryId.filter (· ≠ "") with
    | none => exact ⟨w₁, rfl, rfl, rfl⟩
    | some agentQueryId =>
      refine ⟨Stmt.effect .select w₁, ?_, rfl, rfl⟩
      rw [← htable]
      rfl

end

/-- On the row of a closed dispatch: its document is returned if it is closed by this verdict, and the
report conflicts otherwise; nothing is written. -/
def Reconciles (p : Prog (Option DispatchDoc)) (v : Verdict) (row : Row) (w : World) : Prop :=
  (v.RecordedIn row → Ends p (.ok (some (rowToDoc row))) w) ∧
    (¬ v.RecordedIn row → ∃ message, Ends p (.error (.conflict message)) w)

theorem reconciles_ite {row : Row} {v : Verdict} {doc : DispatchDoc} {message : String} {c : Prop}
    [Decidable c] (hdoc : doc = rowToDoc row) (hc : c ↔ v.RecordedIn row) (w : World) :
    Reconciles (some <$> (if c then .ret doc else agentDoneConflict message : Prog DispatchDoc))
      v row w := by
  subst hdoc
  constructor
  · intro h
    rw [if_pos (hc.mpr h)]
    exact ⟨w, rfl, rfl, rfl⟩
  · intro h
    rw [if_neg fun hcond => h (hc.mp hcond)]
    exact ⟨message, w, rfl, rfl, rfl⟩

theorem failCloseout_reconciles {row : Row} {args : FailureArgs} (ht : isTerminal row.status)
    (w : World) : Reconciles (some <$> failCloseout operation (rowToDoc row) args)
      (.failure args) row w := by
  have hterminal : isTerminal (rowToDoc row).status := ht
  unfold failCloseout reconcileTerminalFailure
  rw [if_pos hterminal]
  apply reconciles_ite rfl
  exact Iff.rfl

theorem succeedCloseout_reconciles {row : Row} {args : AgentDone} (ht : isTerminal row.status)
    (w : World) : Reconciles (succeedCloseout (rowToDoc row) args) args.succeeds row w := by
  have hterminal : isTerminal (rowToDoc row).status := ht
  unfold succeedCloseout reconcileTerminalSuccess
  rw [if_pos hterminal]
  apply reconciles_ite rfl
  exact Iff.rfl

theorem bounceCloseout_reconciles {row : Row} (ht : isTerminal row.status)
    (limit : FailedClassification) (classifiedAt : Instant) (w : World) :
    Reconciles (some <$> bounceCloseout (rowToDoc row) limit classifiedAt) .limited row w := by
  have hterminal : isTerminal (rowToDoc row).status := ht
  have hbounce : ∃ message, bounceCloseout (rowToDoc row) limit classifiedAt =
      (resolveFallbackLane (rowToDoc row)).bind fun _ => agentDoneConflict message := by
    refine ⟨s!"provider-limit bounce conflicts with terminal {(rowToDoc row).status.text}", ?_⟩
    rw [bounceCloseout]
    simp only [hterminal, if_true]
    rfl
  obtain ⟨message, hbounce⟩ := hbounce
  rw [hbounce]
  exact ⟨False.elim, fun _ => ⟨message, _, rfl, rfl, rfl⟩⟩

theorem closeClassified_reconciles {opts : CloseoutOptions} {args : AgentDone} {row : Row}
    (ht : isTerminal row.status) (classifiedAt : Instant) (c : Option FailedClassification)
    (w : World) : Reconciles (closeClassified opts args (rowToDoc row) classifiedAt c)
      (verdictOf opts args c) row w := by
  cases c with
  | none => exact succeedCloseout_reconciles ht w
  | some failure =>
    simp only [closeClassified, verdictOf]
    split
    · exact bounceCloseout_reconciles ht failure classifiedAt w
    split
    · exact failCloseout_reconciles ht w
    · exact succeedCloseout_reconciles ht w

theorem Reconciles.after {p : Prog α} {f : α → Prog (Option DispatchDoc)} {a : α} {w : World}
    (hp : Ends p (.ok a) w)
    (hf : ∀ w', w'.table = w.table → Reconciles (f a) v row w') : Reconciles (p.bind f) v row w := by
  constructor
  · intro h
    exact hp.bind fun w' htable => (hf w' htable).1 h
  · intro h
    obtain ⟨w₁, hrun, htable, hlog⟩ := hp
    obtain ⟨message, w₂, hrun', htable', hlog'⟩ := (hf w₁ htable).2 h
    exact ⟨message, w₂, by rw [Program.run_bind_ok hrun, hrun'], htable'.trans htable,
      hlog'.trans hlog⟩

theorem handleAgentDone_reconciles {opts : CloseoutOptions} {args : AgentDone} {row : Row}
    (hnames : args.names w = some row) (ht : isTerminal row.status) :
    Reconciles (handleAgentDone opts args) (args.verdict opts) row w := by
  have hread := reportedDoc_ends args w
  rw [hnames] at hread
  apply Reconciles.after hread
  intro w₁ _
  dsimp only [Option.map_some]
  by_cases hfails : args.success = some false
  · rw [if_pos hfails, AgentDone.verdict, if_pos hfails]
    exact failCloseout_reconciles ht w₁
  · rw [if_neg hfails]
    have hnow : Ends nowFn (.ok (w₁.env.clock w₁.step)) w₁ := ⟨_, rfl, rfl, rfl⟩
    apply Reconciles.after hnow
    intro w₂ _
    rw [← args.verdict_eq opts hfails (w₁.env.clock w₁.step)]
    exact closeClassified_reconciles ht _ _ w₂

/-- What a closeout of the dispatch `p` that comes to a verdict may issue. -/
def Verdict.Writes (v : Verdict) (p : String) : Stmt → Prop
  | .update u => u.phid = p ∧ match u with
    | .markFailed _ args _ => v = .failure args
    | .doneWithResult _ _ result _ promotion request _ => v = .success result request promotion
    | .markBounced .. => True
    | _ => False
  | c => c.isQuiet

theorem Verdict.writes_quiet (v : Verdict) (p : String) : Quiet (v.Writes p) := by
  intro c hc
  cases c <;> first | exact hc | cases hc

theorem failCloseout_writes {doc : DispatchDoc} {args : FailureArgs} :
    Allowed (Verdict.Writes (.failure args) doc.dispatchPhid) (failCloseout operation doc args) :=
  failCloseout_allowed (Verdict.writes_quiet _ _) fun _ => ⟨rfl, rfl⟩

theorem succeedCloseout_writes {doc : DispatchDoc} {args : AgentDone} :
    Allowed (args.succeeds.Writes doc.dispatchPhid) (succeedCloseout doc args) := by
  have hquiet := Verdict.writes_quiet args.succeeds doc.dispatchPhid
  have hclose : ∀ required operation, Allowed (args.succeeds.Writes doc.dispatchPhid)
      (closeWithResult required operation doc.dispatchPhid
        { result := args.result.map Json.obj
          reportCandidateRequestJson := args.reportCandidateRequestJson
          promotionResultJson := some args.promotionResultJson }) := by
    intro required operation
    apply Transition.exec_allowed hquiet
    · intro _ now _ _
      exact ⟨rfl, rfl⟩
    · intro _
      exact resolveTerminalCasResult_allowed hquiet
  rw [succeedCloseout]
  split
  · apply Allowed.map
    rw [reconcileTerminalSuccess]
    split <;> trivial
  · dsimp only
    split
    · exact hclose .queued _
    · exact hclose .inFlight _

theorem bounceCloseout_writes {doc : DispatchDoc} (v : Verdict) (limit : FailedClassification)
    (classifiedAt : Instant) :
    Allowed (v.Writes doc.dispatchPhid) (bounceCloseout doc limit classifiedAt) := by
  have hquiet := v.writes_quiet doc.dispatchPhid
  refine ⟨hquiet (.fallbackLane doc) rfl, fun (fallback : Option (Provider × Runtime)) => ?_⟩
  dsimp only [Program.bind]
  split
  · trivial
  · apply Allowed.bind
    · apply wrapNullable_allowed
      apply markBounced_allowed hquiet
      intro d now hd _
      exact ⟨hd, trivial⟩
    · intro r
      exact requireAgentDoneMutation_allowed

theorem closeClassified_writes {doc : DispatchDoc} (opts : CloseoutOptions) (args : AgentDone)
    (classifiedAt : Instant) (c : Option FailedClassification) :
    Allowed ((verdictOf opts args c).Writes doc.dispatchPhid)
      (closeClassified opts args doc classifiedAt c) := by
  cases c with
  | none => exact succeedCloseout_writes
  | some failure =>
    simp only [closeClassified, verdictOf]
    generalize parseStrictModeFlag opts.rawStrictMode = flag
    by_cases hlimit : failure.reason = .rateLimitError ∧
        failure.matchedPattern = "text:claude-session-limit"
    · rw [if_pos hlimit, if_pos hlimit]
      exact (bounceCloseout_writes .limited failure classifiedAt).map _
    · rw [if_neg hlimit, if_neg hlimit]
      by_cases henforce : flag = .enforce
      · rw [if_pos henforce, if_pos henforce]
        exact failCloseout_writes.map _
      · rw [if_neg henforce, if_neg henforce]
        exact succeedCloseout_writes

theorem handleAgentDone_writes {opts : CloseoutOptions} {args : AgentDone} {w : World}
    (he : e ∈ (handleAgentDone opts args).trace w) (hu : e.stmt = .update u) :
    ∃ row, args.names w = some row ∧ (args.verdict opts).Writes row.dispatchPhid (.update u) := by
  have hquiet : Quiet fun c => c.isQuiet := fun _ h => h
  obtain ⟨w₁, hread, _, _⟩ := reportedDoc_ends args w
  rw [handleAgentDone] at he
  rw [Program.bind_eq, Program.trace_bind, hread, List.mem_append] at he
  obtain he | he := he
  · have hc := (reportedDoc_allowed hquiet).trace w e he
    rw [hu] at hc
    cases hc
  · cases hnames : args.names w with
    | none =>
      rw [hnames] at he
      cases he
    | some row =>
      rw [hnames] at he
      refine ⟨row, rfl, ?_⟩
      rw [← hu]
      dsimp only [Option.map_some] at he
      by_cases hfails : args.success = some false
      · rw [if_pos hfails] at he
        rw [AgentDone.verdict, if_pos hfails]
        exact (failCloseout_writes.map _).trace _ e he
      · rw [if_neg hfails] at he
        rw [Program.bind_eq, Program.trace_bind, List.mem_append] at he
        obtain he | he := he
        · have hc := (nowFn_allowed hquiet).trace _ e he
          rw [hu] at hc
          cases hc
        · rw [← args.verdict_eq opts hfails (w₁.env.clock w₁.step)]
          exact (closeClassified_writes opts args _ _).trace _ e he

def Row.closeout (row : Row) : SchedulerStatus × Option Instant × Option Json × Option String ×
    Option String × Option Json × Option FailureKind × Option String :=
  (row.status, row.completedAt, row.resultJson, row.artifactPath, row.reportCandidateRequestJson,
    row.promotionResultJson, row.failureKind, row.failureDetail)

theorem Verdict.RecordedIn.congr {v : Verdict} {row row' : Row} (h : v.RecordedIn row)
    (hsame : row'.closeout = row.closeout) : v.RecordedIn row' := by
  simp only [Row.closeout, Prod.mk.injEq] at hsame
  obtain ⟨hs, _, hresult, _, hrequest, hpromotion, hkind, hdetail⟩ := hsame
  cases v with
  | success => exact ⟨hs.trans h.1, hresult.trans h.2.1, hrequest.trans h.2.2.1,
      hpromotion.trans h.2.2.2⟩
  | failure => exact ⟨hs.trans h.1, hkind.trans h.2.1, hdetail.trans h.2.2⟩
  | limited => exact h

theorem Verdict.RecordedIn.terminal {v : Verdict} {row : Row} (h : v.RecordedIn row) :
    isTerminal row.status := by
  cases v with
  | success | failure =>
    rw [h.1]
    rfl
  | limited => exact h.elim

/-- What may rewrite the closeout of a dispatch later on: a direct call that fails it, records a
promotion or a failed resume delivery on it, and its recovery, by a requeue or as landed. -/
def rewritesCloseout (p : String) (c : Label × Stmt) : Bool :=
  match c.2 with
  | .update u => u.phid = p && match c.1, u with
    | .call, .markFailed .. | _, .markResumeDeliveryFailed .. | _, .recordPromotionResult ..
    | _, .requeueForRecovery .. | _, .markRecoveryLanded .. => true
    | _, _ => false
  | _ => false

theorem Phase.Acts.open_of_fails {phase : Phase} (h : phase.Acts policy doc (.markFailed p args now) w)
    (hrow : w.row? p = some row) : isTerminal row.status = false := by
  obtain ⟨hwrites, hshows⟩ | ⟨_, ⟨_, hu⟩, _⟩ := h
  · have hphid : p = doc.dispatchPhid := hwrites.phid
    obtain ⟨hstatus, hhas⟩ := hshows
    rw [World.Has.status_eq hhas (hphid ▸ hrow), hstatus]
    cases phase <;> rfl
  · cases hu

theorem closeout_kept {run : History} (he : e ∈ run.events) (hw : wrote e = some (u, row))
    (hlabel : (e.stmt : Label × Stmt).1 ≠ .closeout) (ht : isTerminal row.status)
    (hspares : rewritesCloseout u.phid e.stmt = false) : (u.set row).closeout = row.closeout := by
  have hlawful := run.lawful he hw
  obtain ⟨⟨l, hl⟩, hrow, hg, _⟩ := wrote_eq_some hw
  rw [hl] at hlabel hspares
  have hopen : isTerminal row.status = false → (u.set row).closeout = row.closeout := by
    intro hopen
    rw [hopen] at ht
    cases ht
  cases u with
  | markResumeDelivered | recordResumeDeliveryRepair | markClarificationStale | markMoot
  | markSuperseded | recordRecoveryOutcome => rfl
  | runClaim | acceptQueued | acceptInFlight | markDone | requeueAfterBounce =>
    apply hopen
    simp only [UpdateStmt.guard, decide_eq_true_eq] at hg
    rw [hg]
    rfl
  | doneWithResult required =>
    apply hopen
    simp only [UpdateStmt.guard, decide_eq_true_eq] at hg
    rw [hg]
    obtain rfl | rfl : required = .inFlight ∨ required = .queued := hlawful <;> rfl
  | markBounced | cancel | markRetryExhausted => exact hopen hlawful
  | markNeedsClarification => exact hopen hlawful.1
  | resumeAfterClarification =>
    apply hopen
    rw [show row.status = .needsClarification from hlawful]
    rfl
  | markResumeDeliveryFailed | recordPromotionResult | requeueForRecovery | markRecoveryLanded =>
    simp [rewritesCloseout] at hspares
  | markFailed p args now =>
    obtain ⟨unsent, hdue⟩ := run.due (P := fun _ => True) (fun _ _ => trivial) he
    rw [hl] at hdue
    obtain ⟨rfl, _⟩ | ⟨rfl, _⟩ | ⟨doc, rfl, hwrites, _⟩ | ⟨_, _, _, _, hu, _⟩ |
      ⟨phase, doc, rfl, hacts⟩ := hdue.update_cases
    · simp [rewritesCloseout] at hspares
    · exact absurd rfl hlabel
    · cases hwrites
    · cases hu
    · exact hopen (hacts.open_of_fails hrow)

theorem attempt_run (p : Prog α) (w : World) :
    (attempt p).run w = (.ok (p.run w).1, (p.run w).2) := by
  rw [attempt]
  rw [Program.run_tryCatch, Program.map_eq, Program.run_bind]
  obtain ⟨r, t⟩ := p.run w
  cases r <;> rfl

theorem agentDone_run (args : AgentDone) (w : World) :
    ((Activity.agentDone opts args).prog.run w).2 = ((handleAgentDone opts args).run w).2 := by
  have hrun : ((attempt (handleAgentDone opts args)).tag Label.closeout).run w =
      (.ok ((handleAgentDone opts args).run w).1, ((handleAgentDone opts args).run w).2) := by
    rw [Program.run_tag, attempt_run]
  exact congrArg Prod.snd (Program.run_bind_ok hrun _)

end

namespace History

section
variable (run : History)

/-- The world after the first `n` activities. -/
def after (n : Nat) : World :=
  ((Program.fold (run.activities.take n) () fun _ a => a.prog).run run.start).2

/-- The events of activity `n`. -/
def eventsAt (n : Nat) : List (Event (sql.tagged Label) World) :=
  match run.activities[n]? with
  | some a => a.prog.trace (run.after n)
  | none => []

theorem activity_run (ha : a ∈ run.activities) (w : World) : ∃ w', a.prog.run w = (.ok (), w') := by
  have hwp := activity_wp (g := []) (w := w) (P := fun _ => True) (run.same_settings a ha) trivial
  obtain ⟨⟨v, hv, _⟩, _⟩ := Program.wp_sound hwp
  exact ⟨_, Prod.ext hv rfl⟩

theorem take_run (n : Nat) :
    (Program.fold (run.activities.take n) () fun _ a => a.prog).run run.start =
      (.ok (), run.after n) := by
  have hfold : ∀ as : List Activity, as ⊆ run.activities → ∀ w,
      ((Program.fold as () fun _ a => a.prog).run w).1 = .ok () := by
    intro as
    induction as with
    | nil =>
      intro _ w
      rfl
    | cons a as ih =>
      intro hsub w
      obtain ⟨w', hrun⟩ := run.activity_run (hsub List.mem_cons_self) w
      rw [Program.fold_cons, Program.run_bind_ok hrun]
      exact ih (fun b hb => hsub (List.mem_cons_of_mem _ hb)) w'
  exact Prod.ext (hfold _ (List.take_subset n _) run.start) rfl

theorem after_succ (ha : run.activities[n]? = some a) :
    run.after (n + 1) = (a.prog.run (run.after n)).2 := by
  obtain ⟨w', hrun⟩ := run.activity_run (List.mem_of_getElem? ha) (run.after n)
  rw [after]
  rw [List.take_add_one, ha, Program.fold_append, Program.run_bind_ok (run.take_run n)]
  change ((a.prog.bind fun _ => .ret ()).run (run.after n)).2 = (a.prog.run (run.after n)).2
  rw [Program.run_bind_ok hrun, hrun]
  rfl

theorem eventsAt_subset (he : e ∈ run.eventsAt n) : e ∈ run.events := by
  rw [eventsAt] at he
  cases ha : run.activities[n]? with
  | none =>
    rw [ha] at he
    cases he
  | some a =>
    rw [ha] at he
    obtain ⟨hn, rfl⟩ := List.getElem?_eq_some_iff.mp ha
    have hsplit : run.activities = run.activities.take n ++
        run.activities[n] :: run.activities.drop (n + 1) := by
      rw [List.getElem_cons_drop, List.take_append_drop]
    unfold events prog
    rw [hsplit, Program.fold_append, Program.trace_bind, run.take_run n]
    apply List.mem_append_right
    dsimp only
    rw [Program.fold_cons, Program.trace_bind]
    exact List.mem_append_left _ he

theorem chain_at (n : Nat) : Chain (run.after n) (run.eventsAt n) (run.after (n + 1)) := by
  rw [eventsAt]
  cases ha : run.activities[n]? with
  | none =>
    have hlength := List.getElem?_eq_none_iff.mp ha
    change run.after n = run.after (n + 1)
    unfold after
    rw [List.take_of_length_le hlength, List.take_of_length_le (Nat.le_succ_of_le hlength)]
  | some a =>
    rw [run.after_succ ha]
    exact a.prog.run_chain _

end

end History

theorem handleAgentDone_spares {opts : CloseoutOptions} {args : AgentDone} {w : World}
    (hrow : w.row? p = some row) (ht : isTerminal row.status) :
    World.row? ((handleAgentDone opts args).run w).2 p = some row := by
  by_cases hnamed : args.names w = some row
  · have hrec : Reconciles (handleAgentDone opts args) (args.verdict opts) row w :=
      handleAgentDone_reconciles hnamed ht
    by_cases hv : (args.verdict opts).RecordedIn row
    · obtain ⟨w', hrun, htable, _⟩ := hrec.1 hv
      rw [hrun]
      exact (World.row?_congr htable p).trans hrow
    · obtain ⟨message, w', hrun, htable, _⟩ := hrec.2 hv
      rw [hrun]
      exact (World.row?_congr htable p).trans hrow
  · have hchain := (handleAgentDone opts args).run_chain w
    apply (hchain.invariant (I := fun w => w.row? p = some row) hrow _).1
    intro e he hI
    obtain hkeep | ⟨u, hu, hp, _, _⟩ := Stmt.row?_effect e.stmt hI
    · exact hkeep
    · exfalso
      obtain ⟨named, hnames, hphid, _⟩ := handleAgentDone_writes he hu
      have hfound : w.row? named.dispatchPhid = some named :=
        World.row?_of_mem (AgentDone.names_mem hnames)
      rw [← hphid, hp, hrow] at hfound
      rw [hnames, ← hfound] at hnamed
      exact hnamed rfl

theorem handleAgentDone_records (opts : CloseoutOptions) {args : AgentDone} {w : World}
    (hnames : args.names w = some row) (hopen : isTerminal row.status = false) :
    ∃ row', World.row? ((handleAgentDone opts args).run w).2 row.dispatchPhid = some row' ∧
      (isTerminal row'.status = false ∨ (args.verdict opts).RecordedIn row') := by
  have hchain := (handleAgentDone opts args).run_chain w
  have hrow : w.row? row.dispatchPhid = some row := World.row?_of_mem (AgentDone.names_mem hnames)
  apply (hchain.invariant (I := fun w => ∃ row', w.row? row.dispatchPhid = some row' ∧
    (isTerminal row'.status = false ∨ (args.verdict opts).RecordedIn row'))
    ⟨row, hrow, .inl hopen⟩ _).1
  rintro e he ⟨row', hrow', hI⟩
  obtain hkeep | ⟨u, hu, hp, hg, hset⟩ := Stmt.row?_effect e.stmt hrow'
  · exact ⟨row', hkeep, hI⟩
  · obtain ⟨named, hnamed, _, hwrites⟩ := handleAgentDone_writes he hu
    refine ⟨_, hset, ?_⟩
    cases u with
    | markFailed =>
      right
      rw [show args.verdict opts = _ from hwrites]
      exact ⟨rfl, rfl, rfl⟩
    | doneWithResult =>
      right
      rw [show args.verdict opts = _ from hwrites]
      exact ⟨rfl, rfl, rfl, rfl⟩
    | markBounced => exact .inl rfl
    | _ => exact hwrites.elim

/-- Activity `n` of the run is a closeout that commits a terminal status; `closed` is the row it
leaves. -/
structure Commits (run : History) (n : Nat) (opts : CloseoutOptions) (args : AgentDone)
    (closed : Row) : Prop where
  activity : run.activities[n]? = some (.agentDone opts args)
  found : ∃ row, args.names (run.after n) = some row ∧
    row.dispatchPhid = closed.dispatchPhid ∧ isTerminal row.status = false
  left : (run.after (n + 1)).row? closed.dispatchPhid = some closed
  terminal : isTerminal closed.status

theorem Commits.recorded (h : Commits run n opts args closed) :
    (args.verdict opts).RecordedIn closed := by
  obtain ⟨row, hnames, hphid, hopen⟩ := h.found
  obtain ⟨row', hrow', hclosed⟩ := handleAgentDone_records opts hnames hopen
  have hleft := h.left
  rw [run.after_succ h.activity, agentDone_run, ← hphid, hrow'] at hleft
  obtain rfl := Option.some.inj hleft
  obtain hopen' | hrecorded := hclosed
  · rw [h.terminal] at hopen'
    cases hopen'
  · exact hrecorded

def Activity.isCloseout : Activity → Bool
  | agentDone .. => true
  | _ => false

theorem closeout_kept_at (run : History) (hrow : (run.after n).row? p = some row)
    (ht : isTerminal row.status)
    (hspares : ∀ e ∈ run.eventsAt n, rewritesCloseout p e.stmt = false) :
    ∃ row', (run.after (n + 1)).row? p = some row' ∧ row'.closeout = row.closeout := by
  by_cases hcloseout : ∃ opts args, run.activities[n]? = some (.agentDone opts args)
  · obtain ⟨opts, args, ha⟩ := hcloseout
    refine ⟨row, ?_, rfl⟩
    rw [run.after_succ ha, agentDone_run]
    exact handleAgentDone_spares hrow ht
  · have hlabel : ∀ e ∈ run.eventsAt n, ∀ u row', wrote e = some (u, row') →
        (e.stmt : Label × Stmt).1 ≠ .closeout := by
      intro e he u row' hw hl
      rw [History.eventsAt] at he
      cases ha : run.activities[n]? with
      | none =>
        rw [ha] at he
        cases he
      | some a =>
        rw [ha] at he
        have hP : a.isCloseout = false := by
          cases a with
          | agentDone opts args => exact absurd ⟨opts, args, ha⟩ hcloseout
          | _ => rfl
        have hwp := activity_wp (g := []) (w := run.after n) (P := fun a => a.isCloseout = false)
          (run.same_settings a (List.mem_of_getElem? ha)) hP
        obtain ⟨es, fs, hsplit⟩ := List.append_of_mem he
        have hdue := (Program.wp_sound hwp).2 es e fs hsplit
        obtain ⟨⟨l, hstmt⟩, _⟩ := wrote_eq_some hw
        rw [hstmt] at hdue hl
        obtain rfl : l = .closeout := hl
        obtain ⟨⟨opts, args, hagent⟩, _⟩ := hdue
        cases hagent
    apply ((run.chain_at n).invariant (I := fun w => ∃ row', w.row? p = some row' ∧
      row'.closeout = row.closeout) ⟨row, hrow, rfl⟩ _).1
    rintro e he ⟨row', hrow', hsame⟩
    obtain hkeep | ⟨u, hw, rfl⟩ := row?_after e hrow'
    · exact ⟨row', hkeep, hsame⟩
    · obtain ⟨_, _, _, hset⟩ := wrote_eq_some hw
      have ht' : isTerminal row'.status := by
        rw [show row'.status = row.status from congrArg Prod.fst hsame]
        exact ht
      exact ⟨_, hset, (closeout_kept (run.eventsAt_subset he) hw (hlabel e he u row' hw) ht'
        (hspares e he)).trans hsame⟩

theorem closeout_kept_until (run : History) (hle : n ≤ m) (hrow : (run.after n).row? p = some row)
    (ht : isTerminal row.status)
    (hspares : ∀ k, n ≤ k → k < m → ∀ e ∈ run.eventsAt k, rewritesCloseout p e.stmt = false) :
    ∃ row', (run.after m).row? p = some row' ∧ row'.closeout = row.closeout := by
  induction m, hle using Nat.le_induction with
  | base => exact ⟨row, hrow, rfl⟩
  | succ m hle ih =>
    obtain ⟨row', hrow', hsame⟩ := ih fun k hk hk' => hspares k hk (Nat.lt_succ_of_lt hk')
    have ht' : isTerminal row'.status := by
      rw [show row'.status = row.status from congrArg Prod.fst hsame]
      exact ht
    obtain ⟨row'', hrow'', hsame'⟩ := closeout_kept_at run hrow' ht'
      (hspares m hle (Nat.lt_succ_self m))
    exact ⟨row'', hrow'', hsame'.trans hsame⟩

def World.byQuery (w : World) (queryId : String) : Option String :=
  (w.table.rows.find? (·.queryId = queryId)).map (·.dispatchPhid)

theorem UpdateStmt.set_queryId (u : UpdateStmt) (row : Row) : (u.set row).queryId = row.queryId := by
  cases u <;> rfl

theorem byQuery_effect (c : Stmt) {w : World} (h : w.byQuery queryId = some p) :
    World.byQuery (c.effect w) queryId = some p := by
  cases c with
  | insert row =>
    change ((w.table.insert row).rows.find? _).map _ = _
    rw [Table.insert]
    split
    · obtain ⟨r, hfind, rfl⟩ := Option.map_eq_some_iff.mp h
      simp [List.find?_append, hfind]
    · exact h
  | update u =>
    change ((w.table.update u.toUpdate).rows.find? _).map _ = _
    rw [Table.rows_update]
    split
    · exact h
    · have hkey : ∀ r : Row, (u.toUpdate.rewrite r).queryId = r.queryId ∧
          (u.toUpdate.rewrite r).dispatchPhid = r.dispatchPhid := by
        intro r
        rw [Update.rewrite]
        split
        · exact ⟨u.set_queryId r, u.set_dispatchPhid r⟩
        · exact ⟨rfl, rfl⟩
      rw [List.find?_map, Option.map_map]
      have hpred : ((fun r : Row => decide (r.queryId = queryId)) ∘ u.toUpdate.rewrite) =
          fun r : Row => decide (r.queryId = queryId) := by
        funext r
        simp [hkey r]
      have hphid : ((fun r : Row => r.dispatchPhid) ∘ u.toUpdate.rewrite) =
          fun r : Row => r.dispatchPhid := by
        funext r
        exact (hkey r).2
      rw [hpred, hphid]
      exact h
  | _ => exact h

theorem byQuery_until (run : History) (hle : n ≤ m) (h : (run.after n).byQuery queryId = some p) :
    (run.after m).byQuery queryId = some p := by
  induction m, hle using Nat.le_induction with
  | base => exact h
  | succ m hle ih =>
    apply ((run.chain_at m).invariant (I := fun w => w.byQuery queryId = some p) ih _).1
    intro e _ hI
    exact byQuery_effect (e.stmt : Label × Stmt).2 hI

/-- Activity `m` is a later report on the dispatch: it repeats the query id the closeout found it by,
or it names the dispatch there. -/
structure Repeats (run : History) (n m : Nat) (args : AgentDone) (opts' : CloseoutOptions)
    (args' : AgentDone) (p : String) : Prop where
  later : n < m
  activity : run.activities[m]? = some (.agentDone opts' args')
  names : args'.queryId = args.queryId ∧ (args.namedByQuery (run.after n)).isSome ∨
    (args'.names (run.after m)).map (·.dispatchPhid) = some p

theorem Repeats.named (h : Repeats run n m args opts' args' closed.dispatchPhid)
    (hc : Commits run n opts args closed) :
    (args'.names (run.after m)).map (·.dispatchPhid) = some closed.dispatchPhid := by
  obtain ⟨hquery, hsome⟩ | hnames := h.names
  · obtain ⟨row, hnames, hphid, _⟩ := hc.found
    obtain ⟨found, hfound⟩ := Option.isSome_iff_exists.mp hsome
    obtain rfl : found = row := by
      simpa [AgentDone.names, hfound] using hnames
    obtain ⟨queryId, hid, hfind⟩ := Option.bind_eq_some_iff.mp hfound
    have hbefore : (run.after n).byQuery queryId = some closed.dispatchPhid := by
      rw [World.byQuery, hfind, ← hphid]
      rfl
    have hafter := byQuery_until run (Nat.le_of_lt h.later) hbefore
    obtain ⟨row', hfind', hphid'⟩ := Option.map_eq_some_iff.mp hafter
    have hnamed : args'.namedByQuery (run.after m) = some row' := by
      rw [AgentDone.namedByQuery, hquery, hid]
      exact hfind'
    simp [AgentDone.names, hnamed, hphid']
  · exact hnames

/-- After a closeout has committed a dispatch, and as long as it is neither recovered nor directly
failed, and no promotion or failed resume delivery is recorded on it, a later report on it writes
nothing. It returns the document, with what was committed, when it comes to the same verdict, as the
same report does; any other conflicts. -/
theorem closeout_retry_safe (run : History) (hc : Commits run n opts args closed)
    (hr : Repeats run n m args opts' args' closed.dispatchPhid)
    (hspares : ∀ k, n < k → k < m → ∀ e ∈ run.eventsAt k,
      rewritesCloseout closed.dispatchPhid e.stmt = false) :
    ∃ row, (run.after m).row? closed.dispatchPhid = some row ∧ row.closeout = closed.closeout ∧
      (args'.verdict opts' = args.verdict opts →
        Ends (handleAgentDone opts' args') (.ok (some (rowToDoc row))) (run.after m)) ∧
      (args'.verdict opts' ≠ args.verdict opts →
        ∃ message, Ends (handleAgentDone opts' args') (.error (.conflict message)) (run.after m)) := by
  obtain ⟨row, hrow, hsame⟩ := closeout_kept_until run hr.later hc.left hc.terminal
    fun k hk hk' => hspares k hk hk'
  have hrecorded : (args.verdict opts).RecordedIn row := hc.recorded.congr hsame
  obtain ⟨named, hnames, hphid⟩ := Option.map_eq_some_iff.mp (hr.named hc)
  obtain rfl : named = row := by
    have hfound := World.row?_of_mem (AgentDone.names_mem hnames)
    rw [hphid, hrow] at hfound
    exact (Option.some.inj hfound).symm
  have hrec : Reconciles (handleAgentDone opts' args') (args'.verdict opts') named (run.after m) :=
    handleAgentDone_reconciles hnames hrecorded.terminal
  obtain ⟨hsafe, hconflict⟩ := hrec
  refine ⟨named, hrow, hsame, fun hv => ?_, fun hv => ?_⟩
  · apply hsafe
    rw [hv]
    exact hrecorded
  · apply hconflict
    intro hv'
    exact hv (hv'.unique hrecorded)

/-- After a closeout has committed a dispatch, and unless it is requeued for recovery, the same report
returns the same document and writes nothing, and every other report conflicts. -/
structure RetrySafe (run : History) : Prop where
  same : ∀ n m opts args closed, Commits run n opts args closed →
    Repeats run n m args opts args closed.dispatchPhid →
    (∀ k, n < k → k < m → ∀ e ∈ run.eventsAt k, requeues closed.dispatchPhid e = false) →
    ∃ row, row.closeout = closed.closeout ∧
      Ends (handleAgentDone opts args) (.ok (some (rowToDoc row))) (run.after m)
  other : ∀ n m opts args args' closed, Commits run n opts args closed →
    Repeats run n m args opts args' closed.dispatchPhid → args' ≠ args →
    (∀ k, n < k → k < m → ∀ e ∈ run.eventsAt k, requeues closed.dispatchPhid e = false) →
    ∃ message, Ends (handleAgentDone opts args') (.error (.conflict message)) (run.after m)

def noZones : CloseoutOptions where
  intl := ⟨fun _ _ => none⟩

def testsFail (log : String) : AgentDone where
  queryId := some "query-d"
  result := some [("log", .str log)]
  success := some false
  error := some "the tests fail"

def promotedRow : Row :=
  { freshRow "d" with
    status := .inFlight
    promotionResultJson := some (.obj [("completed", .bool true)]) }

def closeoutRun (activities : List Activity)
    (h : ∀ a ∈ activities, a.Under POLICY_DEFAULTS DEFAULT_RECOVERY_CONFIG) : History where
  policy := POLICY_DEFAULTS
  config := DEFAULT_RECOVERY_CONFIG
  activities := activities
  same_settings := h
  start := .start [promotedRow] hourly

def reportedTwice (log : String) : History :=
  closeoutRun [.agentDone noZones (testsFail "1 of 2"), .agentDone noZones (testsFail log)] fun a h => by
    simp only [List.mem_cons, List.not_mem_nil, or_false] at h
    obtain rfl | rfl := h <;> trivial

def reportedAfterRecovery : History :=
  closeoutRun [.agentDone noZones (testsFail "1 of 2"), .recovery recoveryDefaults,
    .agentDone noZones (testsFail "1 of 2")] fun a h => by
    simp only [List.mem_cons, List.not_mem_nil, or_false] at h
    obtain rfl | rfl | rfl := h
    · trivial
    · rfl
    · trivial

theorem commits_of_statuses {run : History} (ha : run.activities[n]? = some (.agentDone opts args))
    (hbefore : (args.names (run.after n)).map (fun row => (row.dispatchPhid, row.status)) =
      some ("d", .inFlight))
    (hafter : ((run.after (n + 1)).row? "d").map (·.status) = some .failed) :
    ∃ closed, Commits run n opts args closed ∧ closed.dispatchPhid = "d" := by
  obtain ⟨row, hnames, hrow⟩ := Option.map_eq_some_iff.mp hbefore
  obtain ⟨closed, hclosed, hstatus⟩ := Option.map_eq_some_iff.mp hafter
  obtain ⟨hphid, hopen⟩ := Prod.mk.inj hrow
  have hd : closed.dispatchPhid = "d" := (World.row?_mem hclosed).2
  refine ⟨closed, ⟨ha, ⟨row, hnames, hphid.trans hd.symm, ?_⟩, hd ▸ hclosed, ?_⟩, hd⟩
  · rw [hopen]
    rfl
  · rw [hstatus]
    rfl

/-- A failure keeps no result, and a report of it with another one is taken for the same; and a
dispatch that a recovery pass has found landed takes no repeated failure. -/
theorem not_retry_safe : ¬ RetrySafe (reportedTwice "2 of 2") ∧ ¬ RetrySafe reportedAfterRecovery := by
  constructor
  · intro h
    obtain ⟨closed, hc, _⟩ : ∃ closed, Commits (reportedTwice "2 of 2") 0 noZones
        (testsFail "1 of 2") closed ∧ closed.dispatchPhid = "d" := by
      apply commits_of_statuses rfl <;> decide +kernel
    have hr : Repeats (reportedTwice "2 of 2") 0 1 (testsFail "1 of 2") noZones
        (testsFail "2 of 2") closed.dispatchPhid := ⟨by decide, rfl, .inl ⟨rfl, by decide +kernel⟩⟩
    have hne : testsFail "2 of 2" ≠ testsFail "1 of 2" := by
      intro hsame
      have hresult := congrArg AgentDone.result hsame
      simp [testsFail] at hresult
    obtain ⟨message, w, hrun, _⟩ := h.other 0 1 _ _ _ closed hc hr hne fun k hk hk' =>
      absurd hk' (Nat.not_lt.mpr hk)
    have hok : ((handleAgentDone noZones (testsFail "2 of 2")).run
        ((reportedTwice "2 of 2").after 1)).1.isOk = true := by decide +kernel
    rw [hrun] at hok
    cases hok
  · intro h
    obtain ⟨closed, hc, hd⟩ : ∃ closed, Commits reportedAfterRecovery 0 noZones
        (testsFail "1 of 2") closed ∧ closed.dispatchPhid = "d" := by
      apply commits_of_statuses rfl <;> decide +kernel
    have hr : Repeats reportedAfterRecovery 0 2 (testsFail "1 of 2") noZones
        (testsFail "1 of 2") closed.dispatchPhid := ⟨by decide, rfl, .inl ⟨rfl, by decide +kernel⟩⟩
    have hrequeue : ∀ k, 0 < k → k < 2 → ∀ e ∈ reportedAfterRecovery.eventsAt k,
        requeues closed.dispatchPhid e = false := by
      intro k hk hk'
      obtain rfl : k = 1 := Nat.le_antisymm (Nat.le_of_lt_succ hk') hk
      rw [hd]
      decide +kernel
    obtain ⟨row, _, w, hrun, _⟩ := h.same 0 2 _ _ closed hc hr hrequeue
    have hok : ((handleAgentDone noZones (testsFail "1 of 2")).run
        (reportedAfterRecovery.after 2)).1.isOk = false := by decide +kernel
    rw [hrun] at hok
    cases hok

/-- A failure that is reported twice alike. -/
theorem retry_safe_reported_twice : ∃ closed row,
    Commits (reportedTwice "1 of 2") 0 noZones (testsFail "1 of 2") closed ∧
      row.closeout = closed.closeout ∧ Ends (handleAgentDone noZones (testsFail "1 of 2"))
        (.ok (some (rowToDoc row))) ((reportedTwice "1 of 2").after 1) := by
  obtain ⟨closed, hc, _⟩ : ∃ closed, Commits (reportedTwice "1 of 2") 0 noZones
      (testsFail "1 of 2") closed ∧ closed.dispatchPhid = "d" := by
    apply commits_of_statuses rfl <;> decide +kernel
  have hr : Repeats (reportedTwice "1 of 2") 0 1 (testsFail "1 of 2") noZones
      (testsFail "1 of 2") closed.dispatchPhid := ⟨by decide, rfl, .inl ⟨rfl, by decide +kernel⟩⟩
  obtain ⟨row, _, hsame, hsafe, _⟩ := closeout_retry_safe _ hc hr fun k hk hk' =>
    absurd hk' (Nat.not_lt.mpr hk)
  exact ⟨closed, row, hc, hsame, hsafe rfl⟩

end IdAgents
