import IdAgents.Scheduler.History

namespace IdAgents
open JsText KeyedTable AtomicProgram

def carriesExternalSideEffect (row : Row) : Bool :=
  row.sideEffect ≠ "none" || isExternalChannel row.channel

def resends (e : Event (sql.tagged Label) World) : Bool :=
  match (e.stmt : Label × Stmt).1, wrote e with
  | .recover _, some (.requeueForRecovery .., row) => carriesExternalSideEffect row
  | _, _ => false

def NeverResends (run : History) : Prop := ∀ e ∈ run.events, resends e = false

def Activity.optsIn : Activity → Bool
  | call (.markBounced _ bounce) => bounce.allowAutoRetry = some true
  | _ => false

def bouncesInternal (e : Event (sql.tagged Label) World) : Bool :=
  match (e.stmt : Label × Stmt).1, wrote e with
  | .closeout, some (.markBounced .., row) => !carriesExternalSideEffect row
  | _, _ => true

def NotOptedIn (row : Row) : Prop :=
  SIDE_EFFECT_VALUES.contains row.sideEffect ∧
    (carriesExternalSideEffect row → row.allowAutoRetry = false)

instance : Decidable (NotOptedIn row) := inferInstanceAs (Decidable (_ ∧ _))
section
variable (u : UpdateStmt)

@[simp] theorem UpdateStmt.set_sideEffect (row : Row) :
    (u.set row).sideEffect = row.sideEffect := by
  cases u <;> rfl

@[simp] theorem UpdateStmt.set_channel (row : Row) : (u.set row).channel = row.channel := by
  cases u <;> rfl

@[simp] theorem UpdateStmt.set_carries (row : Row) :
    carriesExternalSideEffect (u.set row) = carriesExternalSideEffect row := by
  simp only [carriesExternalSideEffect, UpdateStmt.set_sideEffect, UpdateStmt.set_channel]

theorem UpdateStmt.set_allowAutoRetry (row : Row) :
    (u.set row).allowAutoRetry = match u with
      | .markBounced doc bounce _ => bounce.allowAutoRetry = some true || doc.allowAutoRetry
      | _ => row.allowAutoRetry := by
  cases u <;> rfl

end

theorem bounce_source {doc : DispatchDoc} {bounce : BounceInput}
    (h : HistoryStmt policy config (fun a => a.optsIn = false) unsent
      (l, .update (.markBounced doc bounce now)) w) :
    w.Has doc ∧ (l = .closeout ∨ bounce.allowAutoRetry ≠ some true) := by
  obtain ⟨_, ⟨op, hop, hwrites⟩, hcurrent⟩ | ⟨hl, _, _, hcurrent⟩ | ⟨_, _, hwrites, _⟩ |
    ⟨_, _, _, _, hu, _⟩ | ⟨phase, d, _, hacts⟩ := h.update_cases
  · refine ⟨hcurrent _ _ _ rfl, .inr ?_⟩
    cases op with
    | markBounced p b =>
      obtain ⟨_, rfl, _⟩ := hwrites
      simpa [Activity.optsIn] using hop
    | _ => cases hwrites
  · exact ⟨hcurrent _ _ _ rfl, .inl hl⟩
  · cases hwrites
  · cases hu
  · obtain ⟨hwrites, hshows⟩ | ⟨_, ⟨_, hu⟩, _⟩ := hacts
    · have hflag : doc = d ∧ bounce.allowAutoRetry = none := by
        cases phase <;> first | exact hwrites | cases hwrites
      obtain ⟨rfl, hnone⟩ := hflag
      exact ⟨hshows.2, .inr (by rw [hnone]; simp)⟩
    · cases hu

theorem World.Has.row_eq {w : World} (h : w.Has doc) (hrow : w.row? doc.dispatchPhid = some row) :
    rowToDoc row = doc := by
  obtain ⟨row', hrow', hdoc⟩ := h
  obtain rfl : row' = row := Option.some.inj (hrow'.symm.trans hrow)
  exact hdoc

variable {e : Event (sql.tagged Label) World}

theorem notOptedIn_write
    (h : HistoryStmt policy config (fun a => a.optsIn = false) unsent e.stmt e.before)
    (hc : bouncesInternal e) (hw : wrote e = some (u, row)) (hrow : NotOptedIn row) :
    NotOptedIn (u.set row) := by
  obtain ⟨hdeclared, hflag⟩ := hrow
  refine ⟨by rwa [u.set_sideEffect], fun hex => ?_⟩
  rw [u.set_carries] at hex
  rw [u.set_allowAutoRetry]
  cases u with
  | markBounced doc bounce now =>
    obtain ⟨⟨l, hl⟩, hbefore, _, _⟩ := wrote_eq_some hw
    rw [hl] at h
    obtain ⟨hhas, hsource⟩ := bounce_source h
    have hdoc : doc.allowAutoRetry = false := by
      rw [← hhas.row_eq hbefore]
      exact hflag hex
    have hbounce : bounce.allowAutoRetry ≠ some true := by
      obtain rfl | hne := hsource
      · simp [bouncesInternal, hl, hw, hex] at hc
      · exact hne
    simp [hdoc, hbounce]
  | _ => exact hflag hex

theorem notOptedIn_step
    (h : HistoryStmt policy config (fun a => a.optsIn = false) unsent e.stmt e.before)
    (hc : bouncesInternal e) (hI : ∀ row ∈ e.before.table.rows, NotOptedIn row) :
    ∀ row ∈ e.after.table.rows, NotOptedIn row := by
  intro row hrow
  by_cases hold : (e.before.row? row.dispatchPhid).isSome
  · obtain ⟨r, hr⟩ := Option.isSome_iff_exists.mp hold
    have hafter : e.after.row? row.dispatchPhid = some row := World.row?_of_mem hrow
    have hkept := hI r (World.row?_mem hr).1
    obtain hkeep | ⟨u, hw, hp⟩ := row?_after e hr
    · obtain rfl : r = row := Option.some.inj (hkeep.symm.trans hafter)
      exact hkept
    · obtain ⟨_, _, _, hset⟩ := wrote_eq_some hw
      rw [hp, hafter] at hset
      obtain rfl := Option.some.inj hset
      exact notOptedIn_write h hc hw hkept
  · obtain ⟨⟨l, c⟩, w⟩ := e
    obtain hmem | rfl | ⟨u, _, r, hr, hits, rfl⟩ := Stmt.mem_effect hrow
    · rw [World.row?_of_mem hmem] at hold
      exact absurd rfl hold
    · have henqueued : Enqueued row := by
        cases l with
        | call => exact h.2
        | closeout | recover | tick | on | recovery => cases h
      obtain ⟨input, promotion, phid, now, rfl⟩ := henqueued
      exact ⟨rfl, fun _ => rfl⟩
    · rw [u.set_dispatchPhid, World.row?_of_mem hr] at hold
      exact absurd rfl hold

theorem not_resends (h : HistoryStmt policy config P unsent e.stmt e.before)
    (hI : ∀ row ∈ e.before.table.rows, NotOptedIn row) : resends e = false := by
  rw [resends]
  split
  · next doc d reason at_ now row hl hw =>
    obtain ⟨⟨l, hl'⟩, hbefore, _, _⟩ := wrote_eq_some hw
    obtain rfl : l = .recover doc := by rw [← hl, hl']
    rw [hl'] at h
    obtain ⟨⟨rfl, _, hallow⟩, hshows⟩ := h
    obtain ⟨hdeclared, hflag⟩ := hI row (World.row?_mem hbefore).1
    have hdoc : rowToDoc row = d := hshows.doc_eq hbefore
    have hnormal : normalizeSideEffect row.sideEffect = row.sideEffect := if_pos hdeclared
    by_contra hex
    have hcarries : carriesExternalSideEffect row := eq_true_of_ne_false hex
    have hexternal : hasExternalSideEffect (rowToRecoverable d).input := by
      rw [← hdoc]
      change (decide (normalizeSideEffect row.sideEffect ≠ "none") ||
        isExternalChannel row.channel) = true
      rw [hnormal]
      exact hcarries
    have hallowed : row.allowAutoRetry = true := by
      have hd := hallow hexternal
      rw [← hdoc] at hd
      exact hd
    rw [hflag hcarries] at hallowed
    cases hallowed
  · rfl

/-- When nobody opts a dispatch in and no closeout for a session limit hits one with an external
effect, the recovery service requeues none of those. -/
theorem never_resends (run : History) (ha : ∀ a ∈ run.activities, a.optsIn = false)
    (hs : ∀ row ∈ run.start.table.rows, NotOptedIn row)
    (hc : ∀ e ∈ run.events, bouncesInternal e) : NeverResends run := by
  intro e he
  have hkept : ∀ row ∈ e.before.table.rows, NotOptedIn row := by
    refine (run.chain.invariant (I := fun w => ∀ row ∈ w.table.rows, NotOptedIn row) hs
      fun f hf hI => ?_).2 e he
    obtain ⟨unsent, hdue⟩ := run.due ha hf
    exact notOptedIn_step hdue (hc f hf) hI
  obtain ⟨unsent, hdue⟩ := run.due ha he
  exact not_resends hdue hkept

def emailRow : Row := { freshRow "d" with channel := "email" }

def silentIntl : Intl := ⟨fun _ _ => none⟩

def hourlyClock : Environment := { Environment.quiet with clock := fun n => 3600000 * n }

def recoveryOn : DispatchRecoveryServiceOptions where
  config := DEFAULT_RECOVERY_CONFIG
  enabled := true
  budget := 10
  backoffMs := 60000

/-- The agent reports `first`, and after another tick that its run failed; then a pass follows. -/
def emailRun (first : AgentDone) : History where
  policy := POLICY_DEFAULTS
  config := DEFAULT_RECOVERY_CONFIG
  activities := [.tick { policy := POLICY_DEFAULTS }, .agentDone { intl := silentIntl } first,
    .tick { policy := POLICY_DEFAULTS },
    .agentDone { intl := silentIntl }
      { queryId := "query-d", success := some false, failureKind := some .schedulerWedged },
    .recovery recoveryOn]
  same_settings a h := by
    simp only [List.mem_cons, List.not_mem_nil, or_false] at h
    obtain rfl | rfl | rfl | rfl | rfl := h <;> first | exact rfl | exact trivial
  start := .start [emailRow] hourlyClock

def sessionLimitReport : AgentDone where
  queryId := "query-d"
  result := some [("text", .str "You've hit your session limit")]

theorem session_limit_resends : (emailRun sessionLimitReport).events.any resends := by
  decide +kernel

/-- The closeout for a session limit opts an email in, and the recovery sends it again. -/
theorem not_never_resends : ¬ NeverResends (emailRun sessionLimitReport) := by
  intro h
  obtain ⟨e, he, hresends⟩ := List.any_eq_true.mp session_limit_resends
  rw [h e he] at hresends
  cases hresends

/-- A failure reported in place of the session limit leaves the email to the operator. -/
theorem never_resends_failure :
    NeverResends (emailRun { queryId := "query-d", success := some false }) :=
  never_resends _ (by decide) (by decide) (by decide +kernel)

end IdAgents
