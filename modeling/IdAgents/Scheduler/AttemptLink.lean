import IdAgents.Scheduler.History

namespace IdAgents
open JsText KeyedTable AtomicProgram

def seeStarted (p : String) (started : Option String) (e : Event (sql.tagged Label) World) :
    Option String :=
  match wrote e with
  | some (.runClaim _ p' _ _, _) => if p' = p then none else started
  | some (.acceptQueued p' q _, _) | some (.acceptInFlight p' q _, _) =>
    if p' = p then some q else started
  | _ => started

def startedQuery (p : String) (es : List (Event (sql.tagged Label) World)) : Option String :=
  es.foldl (seeStarted p) none

@[simp] theorem startedQuery_nil (p : String) : startedQuery p [] = none := rfl

@[simp] theorem startedQuery_concat (p : String) (es : List (Event (sql.tagged Label) World))
    (e : Event (sql.tagged Label) World) :
    startedQuery p (es ++ [e]) = seeStarted p (startedQuery p es) e := by
  simp [startedQuery, List.foldl_append]

structure AttemptLinks (run : History) : Prop where
  claimed : ∀ e ∈ run.events, ∀ call p n now row,
    wrote e = some (.runClaim call p n now, row) → row.agentQueryId = none
  linked : ∀ es w p row, run.Reaches es w → w.row? p = some row → row.status = .inFlight →
    row.agentQueryId = startedQuery p es
  accepted : ∀ es w p row q, run.Reaches es w → w.row? p = some row → row.status = .inFlight →
    startedQuery p es = none → trim q ≠ "" → ∃ doc w' row',
      (recordAgentStart p q).run w = (.ok (some doc), w') ∧
      doc.agentQueryId = some (trim q) ∧ w'.row? p = some row' ∧ rowToDoc row' = doc
  closed : ∀ es e fs doc u row, run.events = es ++ e :: fs → e.stmt = (.on .evidence doc, .update u) →
    wrote e = some (u, row) → (u.set row).status = .done ∨ (u.set row).status = .failed →
    ∃ q, doc.agentQueryId = some q ∧ startedQuery doc.dispatchPhid es = some q

def keepsLinkFresh (e : Event (sql.tagged Label) World) : Bool :=
  match wrote e with
  | some (.requeueAfterBounce .., row) | some (.resumeAfterClarification .., row) =>
    row.agentQueryId = none
  | some (.markResumeDelivered _ input _, row) =>
    input.agentQueryId.all (· = "") || !(row.status = .queued || row.status = .inFlight)
  | _ => true

def RowLinked (started : Option String) (row : Row) : Prop :=
  (row.status = .queued → row.agentQueryId = none) ∧
    (row.status = .inFlight → row.agentQueryId = started)

def Linked (es : List (Event (sql.tagged Label) World)) (w : World) : Prop :=
  ∀ row ∈ w.table.rows, RowLinked (startedQuery row.dispatchPhid es) row

variable {e : Event (sql.tagged Label) World}

theorem linked_write (hw : wrote e = some (u, row))
    (hc : keepsLinkFresh e) (h : RowLinked started row) :
    RowLinked (seeStarted u.phid started e) (u.set row) := by
  obtain ⟨_, _, hg, _⟩ := wrote_eq_some hw
  obtain ⟨hqueued, hflight⟩ := h
  unfold seeStarted keepsLinkFresh at *
  rw [hw] at hc ⊢
  cases u with
  | runClaim call p n now =>
    have hs : row.status = .queued := by simpa [UpdateStmt.guard] using hg
    simp [RowLinked, UpdateStmt.set, UpdateStmt.phid, hqueued hs]
  | acceptQueued | acceptInFlight =>
    simp_all [RowLinked, UpdateStmt.set, UpdateStmt.phid, UpdateStmt.guard]
  | requeueAfterBounce | resumeAfterClarification =>
    simp_all [RowLinked, UpdateStmt.set]
  | markResumeDelivered doc input now =>
    simp only [Bool.or_eq_true] at hc
    obtain hc | hc := hc
    · cases hq : input.agentQueryId <;>
      simp_all [RowLinked, UpdateStmt.set]
    · simp_all [RowLinked, UpdateStmt.set]
  | markDone | doneWithResult | markFailed | markBounced | cancel | markRetryExhausted
  | markNeedsClarification | markResumeDeliveryFailed | requeueForRecovery | markRecoveryLanded =>
    simp [RowLinked, UpdateStmt.set]
  | recordResumeDeliveryRepair | markClarificationStale | recordPromotionResult | markMoot
  | markSuperseded | recordRecoveryOutcome => exact ⟨hqueued, hflight⟩

theorem seeStarted_of_ne
    (h : ∀ u row, wrote e = some (u, row) → u.phid ≠ p) : seeStarted p started e = started := by
  rw [seeStarted]
  split
  · next hw => exact if_neg (h _ _ hw)
  · next hw => exact if_neg (h _ _ hw)
  · next hw => exact if_neg (h _ _ hw)
  · rfl

theorem linked_step (h : HistoryStmt policy config P unsent e.stmt e.before) (hc : keepsLinkFresh e)
    (hI : Linked es e.before) : Linked (es ++ [e]) e.after := by
  intro row hrow
  rw [startedQuery_concat]
  have hafter : e.after.row? row.dispatchPhid = some row := World.row?_of_mem hrow
  cases hbefore : e.before.row? row.dispatchPhid with
  | some r =>
    obtain ⟨hmem, hphid⟩ := World.row?_mem hbefore
    have hkept : RowLinked (startedQuery row.dispatchPhid es) r := by
      rw [← hphid]
      exact hI r hmem
    by_cases hw : ∃ u, wrote e = some (u, r) ∧ u.phid = row.dispatchPhid
    · obtain ⟨u, hw, hp⟩ := hw
      obtain ⟨_, _, _, hset⟩ := wrote_eq_some hw
      rw [hp, hafter] at hset
      obtain rfl := Option.some.inj hset
      rw [← hp] at hkept ⊢
      exact linked_write hw hc hkept
    · have hother : ∀ u s, wrote e = some (u, s) → u.phid ≠ row.dispatchPhid := by
        intro u s hws hp
        obtain ⟨_, hs, _⟩ := wrote_eq_some hws
        rw [hp, hbefore] at hs
        obtain rfl := Option.some.inj hs
        exact hw ⟨u, hws, hp⟩
      rw [seeStarted_of_ne hother]
      obtain hkeep | ⟨u, hws, hp⟩ := row?_after e hbefore
      · obtain rfl : r = row := Option.some.inj (hkeep.symm.trans hafter)
        exact hkept
      · exact absurd ⟨u, hws, hp⟩ hw
  | none =>
    obtain ⟨⟨l, c⟩, w⟩ := e
    obtain hmem | rfl | ⟨u, _, r, hr, hits, rfl⟩ := Stmt.mem_effect hrow
    · rw [World.row?_of_mem hmem] at hbefore
      cases hbefore
    · have henqueued : Enqueued row := by
        cases l with
        | call => exact h.2
        | closeout | recover | tick | on | recovery => cases h
      obtain ⟨input, promotion, phid, now, rfl⟩ := henqueued
      exact ⟨fun _ => rfl, fun hs => nomatch hs⟩
    · rw [u.set_dispatchPhid, World.row?_of_mem hr] at hbefore
      cases hbefore

def blindMonitor : Monitor sql World Unit := ⟨fun _ _ _ => (), fun _ _ _ => True⟩

theorem blindMonitor_unmoved : Unmoved blindMonitor := ⟨fun _ _ _ _ => trivial, fun _ _ _ _ => rfl⟩

theorem recordAgentStart_succeeds {w : World} (hrow : w.row? p = some row)
    (hs : row.status = .inFlight) (hlink : row.agentQueryId = none) (hq : trim q ≠ "") :
    ∃ doc w' row', (recordAgentStart p q).run w = (.ok (some doc), w') ∧
      doc.agentQueryId = some (trim q) ∧ w'.row? p = some row' ∧ rowToDoc row' = doc := by
  have hwp : (recordAgentStart p q).wp blindMonitor (fun r _ w' => ∃ now,
      r = .ok (some (rowToDoc ((UpdateStmt.acceptInFlight p (trim q) now).set row))) ∧
      w'.row? p = some ((UpdateStmt.acceptInFlight p (trim q) now).set row)) () w := by
    apply getByPhid_wp blindMonitor_unmoved
    intro w₁ h₁
    rw [hrow]
    simp only [Option.map_some, if_neg hq]
    apply nowFn_wp blindMonitor_unmoved
    intro now w₂ h₂
    have hdoc : (rowToDoc row).status = .inFlight := hs
    have hnone : (rowToDoc row).agentQueryId = none := hlink
    rw [hdoc, hnone]
    dsimp only [Option.filter_none]
    have hrow₂ : w₂.row? p = some row := (World.row?_congr (h₂.trans h₁) p).trans hrow
    have hentry : ∀ r : Row, Schema.entry ((UpdateStmt.acceptInFlight p (trim q) now).set r) =
        Schema.entry r := fun _ => rfl
    have hrefused : w₂.table.updateRefused (UpdateStmt.acceptInFlight p (trim q) now).toUpdate = false :=
      Table.not_refused_of_entry fun r _ => hentry r
    have hg : (UpdateStmt.acceptInFlight p (trim q) now).guard row := by
      simp [UpdateStmt.guard, hs]
    have hafter : World.row? (Stmt.effect (.update (.acceptInFlight p (trim q) now)) w₂) p =
        some ((UpdateStmt.acceptInFlight p (trim q) now).set row) :=
      UpdateStmt.row?_effect_self hrow₂ hg hrefused
    apply execUpdate_wp trivial
    · intro _ _
      split
      · next hzero =>
        have hmiss : (UpdateStmt.acceptInFlight p (trim q) now).guard row = false :=
          Table.rowCount_eq_zero.mp hzero row hrow₂
        rw [hg] at hmiss
        cases hmiss
      · apply getByPhid_wp blindMonitor_unmoved
        intro w₃ h₃
        exact ⟨now, by rw [hafter]; rfl, (World.row?_congr h₃ p).trans hafter⟩
    · intro hbad
      rw [hrefused] at hbad
      cases hbad
  obtain ⟨⟨now, hres, hfound⟩, _⟩ := Program.wp_sound hwp
  exact ⟨_, _, _, Prod.ext hres rfl, rfl, hfound, rfl⟩

theorem closed_source {row : Row}
    (h : HistoryStmt policy config P unsent (.on .evidence doc, .update u) w)
    (hrow : w.row? u.phid = some row)
    (hs : (u.set row).status = .done ∨ (u.set row).status = .failed) :
    u.phid = doc.dispatchPhid ∧ row.status = .inFlight ∧ rowToDoc row = doc ∧
      ∃ q, doc.agentQueryId = some q := by
  obtain ⟨hwrites, hshows⟩ | ⟨hphase, _⟩ := (h : Phase.evidence.Acts policy doc u w)
  · have hphid := hwrites.phid
    rw [hphid] at hrow
    have hdoc : rowToDoc row = doc := hshows.doc_eq hrow
    obtain ⟨hstatus, _⟩ := hshows
    refine ⟨hphid, ?_, hdoc, ?_⟩
    · rw [← hdoc] at hstatus
      exact hstatus
    · cases u with
      | markFailed | markDone | markRetryExhausted => exact hwrites.2
      | markBounced =>
        obtain hs | hs := hs <;> cases hs
      | _ => cases hwrites
  · cases hphase

/-- Run by run: when every step back to the queue finds no query linked, and no resume is
delivered to a dispatch that waits or runs, the linked query is that of the current attempt. -/
theorem attempt_links (run : History)
    (hs : ∀ row ∈ run.start.table.rows, row.status = .queued ∨ row.status = .inFlight →
      row.agentQueryId = none) (hc : ∀ e ∈ run.events, keepsLinkFresh e) : AttemptLinks run := by
  have hstart : Linked [] run.start := by
    intro row hrow
    exact ⟨fun h => hs row hrow (.inl h), fun h => hs row hrow (.inr h)⟩
  have hreach : ∀ es fs w, run.events = es ++ fs → Chain run.start es w → Linked es w := by
    intro es fs w hsplit hchain
    apply hchain.invariant_along (I := Linked) hstart
    intro gs e ks hes hI
    have hmem : e ∈ run.events := by
      rw [hsplit, hes]
      simp
    obtain ⟨unsent, hdue⟩ := run.due (P := fun _ => True) (fun _ _ => trivial) hmem
    exact linked_step hdue (hc e hmem) hI
  have hlinked : ∀ es w p row, run.Reaches es w → w.row? p = some row →
      RowLinked (startedQuery p es) row := by
    rintro es w p row ⟨fs, hsplit, hchain⟩ hrow
    obtain ⟨hmem, rfl⟩ := World.row?_mem hrow
    exact hreach es fs w hsplit hchain row hmem
  have hbefore : ∀ es e fs, run.events = es ++ e :: fs → run.Reaches es e.before := by
    intro es e fs hsplit
    have hchain := run.chain
    rw [hsplit] at hchain
    exact ⟨_, hsplit, hchain.split.1⟩
  constructor
  · intro e he call p n now row hw
    obtain ⟨es, fs, hsplit⟩ := List.append_of_mem he
    obtain ⟨_, hrow, hg, _⟩ := wrote_eq_some hw
    apply (hlinked es _ _ row (hbefore es e fs hsplit) hrow).1
    simpa [UpdateStmt.guard] using hg
  · intro es w p row hr hrow
    exact (hlinked es w p row hr hrow).2
  · intro es w p row q hr hrow hflight hstarted hq
    apply recordAgentStart_succeeds hrow hflight _ hq
    rw [(hlinked es w p row hr hrow).2 hflight, hstarted]
  · intro es e fs doc u row hsplit hstmt hw hclosed
    have hmem : e ∈ run.events := by
      rw [hsplit]
      simp
    obtain ⟨unsent, hdue⟩ := run.due (P := fun _ => True) (fun _ _ => trivial) hmem
    obtain ⟨_, hrow, _, _⟩ := wrote_eq_some hw
    rw [hstmt] at hdue
    obtain ⟨hphid, hflight, hdoc, q, hq⟩ := closed_source hdue hrow hclosed
    refine ⟨q, hq, ?_⟩
    have hlink := (hlinked es _ _ row (hbefore es e fs hsplit) hrow).2 hflight
    rw [← hphid, ← hlink, ← hq, ← hdoc]
    rfl

/-- An outside in which the first start of a dispatch answers `first`, every other one `q2`, and
every query has completed. -/
def answering (first : String) : Environment :=
  { Environment.quiet with
    clock := fun n => 60000 * n
    sendTalk := fun _ doc => .ok (if doc.attemptCount = 1 then first else "q2")
    getEvidence := fun _ _ => .ok (some ⟨"completed", none, none⟩) }

def throttledRun (first : String) : History where
  policy := POLICY_DEFAULTS
  config := DEFAULT_RECOVERY_CONFIG
  activities := [.tick { policy := POLICY_DEFAULTS },
    .call (.markBounced "d" { kind := "throttle", message := "slow down", nextAttemptAt := 0 }),
    .tick { policy := POLICY_DEFAULTS }, .tick { policy := POLICY_DEFAULTS }]
  same_settings a h := by
    simp only [List.mem_cons, List.not_mem_nil, or_false] at h
    obtain rfl | rfl | rfl | rfl := h <;> first | exact rfl | exact trivial
  start := .start [freshRow "d"] (answering first)

/-- The evidence sweep closes the dispatch on the query `q`, after the events `es`. -/
def closesOn (q : String) (es : List (Event (sql.tagged Label) World)) :
    List (Event (sql.tagged Label) World) → Bool
  | ⟨(.on .evidence doc, .update u), w⟩ :: _ =>
    doc.agentQueryId = some q && startedQuery doc.dispatchPhid es = none &&
      match wrote ⟨(.on .evidence doc, .update u), w⟩ with
      | some (_, row) => (u.set row).status = .done
      | none => false
  | _ => false

theorem throttled_closes :
    closesOn "q1" ((throttledRun "q1").events.take 60) ((throttledRun "q1").events.drop 60) := by
  decide +kernel

/-- The bounce keeps the query of the first attempt, the second attempt's own start is refused for
it, and the evidence sweep closes the second attempt on the first one's query. -/
theorem not_attempt_links : ¬ AttemptLinks (throttledRun "q1") := by
  intro h
  have hcloses := throttled_closes
  have hsplit : (throttledRun "q1").events =
      (throttledRun "q1").events.take 60 ++ (throttledRun "q1").events.drop 60 :=
    (List.take_append_drop 60 _).symm
  generalize (throttledRun "q1").events.take 60 = es at hcloses hsplit
  generalize (throttledRun "q1").events.drop 60 = fs at hcloses hsplit
  unfold closesOn at hcloses
  split at hcloses
  · next doc u w gs =>
    simp only [Bool.and_eq_true, decide_eq_true_eq] at hcloses
    obtain ⟨⟨_, hstarted⟩, hclosed⟩ := hcloses
    split at hclosed
    · next v row hw =>
      obtain ⟨⟨_, hv⟩, _⟩ := wrote_eq_some hw
      obtain ⟨_, hv⟩ := Prod.mk.inj hv
      obtain rfl : u = v := Stmt.update.inj hv
      obtain ⟨q, _, hq⟩ := h.closed es _ gs doc u row hsplit rfl hw (.inl (by simpa using hclosed))
      rw [hstarted] at hq
      cases hq
    · cases hclosed
  · cases hcloses

/-- A first start that reports no query leaves nothing behind. -/
theorem attempt_links_unreported : AttemptLinks (throttledRun "") :=
  attempt_links _ (by decide) (by decide +kernel)

end IdAgents
