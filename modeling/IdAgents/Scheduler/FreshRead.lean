import IdAgents.Scheduler.Sweeps

namespace IdAgents
open JsText KeyedTable AtomicProgram Program

def FreshStmt : Stmt → World → Prop
  | .insert row, w => ∃ n, row.dispatchPhid = w.env.mintPhid n
  | .update (.runClaim _ p n _), w => ∀ row, w.row? p = some row → n = row.attemptCount + 1
  | .update (.markNeedsClarification doc _ id _), w =>
    w.Has doc ∧ ∃ n, w.step = n + 1 ∧ id = w.env.mintClarificationId n
  | .update (.resumeAfterClarification doc ..), w => w.Has doc
  | _, _ => True

def LabelledFresh : Label × Stmt → World → Prop
  | (.call, c), w => FreshStmt c w
  | (.closeout, c), _ => c.Issued
  | _, _ => True

def freshMonitor : Monitor (sql.tagged Label) World (List String) where
  see := seeStart
  due _ := LabelledFresh

theorem freshStmt_quiet (h : Stmt.isQuiet c) : FreshStmt c w := by
  cases c with
  | insert | update | sendTalk => cases h
  | _ => trivial

theorem labelledFresh_quiet (h : c.isQuiet) : LabelledFresh (l, c) w := by
  cases l with
  | call => exact freshStmt_quiet h
  | closeout => exact Stmt.issued_quiet c h
  | _ => trivial

theorem freshMonitor_unmoved (l : Label) : Unmoved (freshMonitor.labelled l) where
  due _ _ _ h := labelledFresh_quiet h
  see g c w h := by
    cases c with
    | insert | update | sendTalk => cases h
    | _ => rfl

theorem seeStart_label (l l' : Label) (c : Stmt) (w : World) :
    seeStart g (l, c) w = seeStart g (l', c) w := by
  cases c with
  | update u => cases u <;> rfl
  | _ => rfl

theorem claim_fresh (policy : SchedulerPolicy) :
    (runClaim filter).wp (freshMonitor.labelled .call) (fun _ _ _ => True) g w := by
  have hclaim : (runClaim filter).wp ((tickMonitor policy).labelled .tick)
      (fun r g' w' => ∀ docs, r = .ok docs → Claimed docs g' w') g w := runClaim_wp
  apply wp_mono (R := fun r g' w' => ∀ docs, r = .ok docs → Claimed docs g' w')
  · apply wp_of_due hclaim
    · intro g c w
      exact seeStart_label _ _ c w
    · intro g c w h
      cases c with
      | update u =>
        cases u with
        | runClaim => exact h
        | _ => cases h
      | insert => cases h
      | _ => trivial
  · intros
    trivial

theorem requireDoc_fresh {f : DispatchDoc → Prog β}
    (h : ∀ row w', w'.table = w.table → w.row? p = some row →
      (f (rowToDoc row)).wp (freshMonitor.labelled .call) (fun _ _ _ => True) g w') :
    ((requireDoc operation p).bind f).wp (freshMonitor.labelled .call) (fun _ _ _ => True) g w := by
  rw [requireDoc]
  rw [bind_eq, bind_assoc]
  apply getByPhid_wp (freshMonitor_unmoved _)
  intro w' h'
  cases hrow : w.row? p with
  | none => trivial
  | some row => exact h row w' h' hrow

abbrev FreshAnywhere (c : Stmt) : Prop := ∀ w, FreshStmt c w

theorem fresh_quiet : Quiet FreshAnywhere := fun _ h _ => freshStmt_quiet h

theorem fresh_wp (hp : Allowed FreshAnywhere p) :
    p.wp (freshMonitor.labelled .call) (fun _ _ _ => True) g w :=
  allowed_wp hp fun _ _ w h => h w

theorem enqueue_fresh :
    (enqueue input).wp (freshMonitor.labelled .call) (fun _ _ _ => True) g w := by
  apply wp_seq (fresh_wp (nowFn_allowed fresh_quiet))
  · intro now g w _
    apply wp_seq (fresh_wp (findExisting_allowed fresh_quiet))
    · intro existing g w _
      cases existing with
      | some existing => trivial
      | none =>
        refine ⟨trivial, ?_⟩
        dsimp only
        cases defaultPromotionFields input with
        | error message => trivial
        | ok promotion =>
          refine ⟨⟨w.step, rfl⟩, ?_⟩
          generalize Store.answer (S := sql) (Stmt.insert _) _ = inserted
          cases (inserted : Option Unit) with
          | some _ => trivial
          | none =>
            apply fresh_wp
            apply (findExisting_allowed fresh_quiet).bind
            intro existing
            cases existing <;> trivial
    · intros
      trivial
  · intros
    trivial

theorem markNeedsClarification_fresh :
    (markNeedsClarification p input).wp (freshMonitor.labelled .call) (fun _ _ _ => True) g w := by
  apply requireDoc_fresh
  intro row w₁ h₁ hrow
  by_cases hterminal : isTerminal (rowToDoc row).status
  · rw [if_pos hterminal]
    trivial
  · rw [if_neg hterminal]
    apply nowFn_wp (freshMonitor_unmoved _)
    intro now w₂ h₂
    cases idempotentClarification (rowToDoc row) input now with
    | some active => trivial
    | none =>
      refine ⟨trivial, ?_⟩
      have hhas : (Stmt.effect .mintClarificationId w₂).Has (rowToDoc row) :=
        World.has_of_row ((World.row?_congr (h₂.trans h₁) p).trans hrow)
      apply execUpdate_wp
      · exact ⟨hhas, w₂.step, rfl, rfl⟩
      · intro _ _
        apply fresh_wp
        exact (postUpdateRead_allowed fresh_quiet).bind fun _ => trivial
      · intros
        trivial

theorem resumeAfterClarification_fresh :
    (resumeAfterClarification p input).wp (freshMonitor.labelled .call) (fun _ _ _ => True) g w := by
  apply requireDoc_fresh
  intro row w₁ h₁ hrow
  cases resumeRejection input (rowToDoc row) with
  | some message => trivial
  | none =>
    apply nowFn_wp (freshMonitor_unmoved _)
    intro now w₂ h₂
    apply execUpdate_wp
    · exact World.has_of_row ((World.row?_congr (h₂.trans h₁) p).trans hrow)
    · intro _ _
      exact fresh_wp (postUpdateRead_allowed fresh_quiet)
    · intros
      trivial

theorem op_fresh (policy : SchedulerPolicy) (op : Op) :
    op.prog.wp (freshMonitor.labelled .call) (fun _ _ _ => True) g w := by
  have hmap : ∀ {α} {p : Prog α} (f : α → OpResult),
      p.wp (freshMonitor.labelled .call) (fun _ _ _ => True) g w →
      (f <$> p).wp (freshMonitor.labelled .call) (fun _ _ _ => True) g w := by
    intro α p f h
    apply wp_seq h
    · intros
      trivial
    · intros
      trivial
  have hother : (∀ row, ¬ op.Inserts row) → (∀ u, op.Writes u → FreshAnywhere (.update u)) →
      op.prog.wp (freshMonitor.labelled .call) (fun _ _ _ => True) g w := by
    intro hi hw
    exact fresh_wp (op.prog_allowed fresh_quiet (fun row h => absurd h (hi row)) hw)
  cases op with
  | enqueue input => exact hmap _ enqueue_fresh
  | claim filter => exact hmap _ (claim_fresh policy)
  | markNeedsClarification p input => exact hmap _ markNeedsClarification_fresh
  | resumeAfterClarification p input => exact hmap _ resumeAfterClarification_fresh
  | _ =>
    apply hother
    · intro row h
      cases h
    · intro u h w
      cases u <;> trivial

theorem routine_issued : Routine Stmt.Issued where
  quiet := Stmt.issued_quiet
  reap u hu := by cases u <;> first | exact hu | trivial
  update _ _ hu := hu
  send _ := trivial

def Activity.isBackground : Activity → Bool
  | tick _ | recovery _ => true
  | _ => false

theorem LabelledFresh.of_background
    (h : HistoryStmt policy config (fun a => a.isBackground) unsent c w) : LabelledFresh c w := by
  obtain ⟨l, c⟩ := c
  cases l with
  | call =>
    cases c with
    | insert row =>
      obtain ⟨⟨op, hop⟩, _⟩ := h
      cases hop
    | update u =>
      obtain ⟨⟨op, hop, _⟩, _⟩ := h
      cases hop
    | sendTalk => cases h
    | _ => trivial
  | closeout =>
    cases c with
    | update u =>
      obtain ⟨⟨opts, args, hagent⟩, _⟩ := h
      cases hagent
    | insert | sendTalk => cases h
    | _ => trivial
  | _ => trivial

theorem activity_fresh (a : Activity) (ha : a.Under policy config) :
    a.prog.wp freshMonitor (fun r _ _ => ∃ v, r = .ok v ∧ True) g w := by
  have hbackground : a.isBackground →
      a.prog.wp freshMonitor (fun r _ _ => ∃ v, r = .ok v ∧ True) g w := by
    intro hP
    apply wp_of_due (activity_wp (P := fun a => a.isBackground) ha hP)
    · intros
      rfl
    · intro g c w h
      exact LabelledFresh.of_background h
  cases a with
  | call op =>
    apply wp_then (wp_tag.mpr (attempt_wp (op_fresh policy op)))
    intro r g w _
    exact ⟨(), rfl, trivial⟩
  | agentDone opts args =>
    have hissued : (handleAgentDone opts args).wp (freshMonitor.labelled .closeout)
        (fun _ _ _ => True) g w := allowed_wp (handleAgentDone_allowed routine_issued opts args) fun _ _ _ h => h
    apply wp_then (wp_tag.mpr (attempt_wp hissued))
    intro r g w _
    exact ⟨(), rfl, trivial⟩
  | tick opts => exact hbackground rfl
  | recovery opts => exact hbackground rfl

theorem History.fresh (run : History) (he : e ∈ run.events) : LabelledFresh e.stmt e.before := by
  have hwp : run.prog.wp freshMonitor (fun _ _ _ => True) [] run.start := by
    apply wp_fold (J := fun as _ _ => as ⊆ run.activities) () (List.Subset.refl _)
    · rintro ⟨⟩ a as g w hsub
      have hactivity := activity_fresh (g := g) (w := w) a
        (run.same_settings a (hsub List.mem_cons_self))
      apply wp_mono hactivity
      rintro r g' w' ⟨v, rfl, _⟩
      exact ⟨v, rfl, fun b hb => hsub (List.mem_cons_of_mem _ hb)⟩
    · intros
      trivial
  obtain ⟨es, fs, hsplit⟩ := List.append_of_mem he
  obtain ⟨_, hdue⟩ := wp_sound hwp
  exact hdue es e fs hsplit

def UpdateStmt.Lawful (u : UpdateStmt) (row : Row) (w : World) : Prop :=
  match u with
  | .runClaim _ _ n _ => n = row.attemptCount + 1
  | .markNeedsClarification _ _ id _ =>
    isTerminal row.status = false ∧ ∃ n, w.step = n + 1 ∧ id = w.env.mintClarificationId n
  | .resumeAfterClarification .. => row.status = .needsClarification
  | .markBounced .. | .cancel .. | .markRetryExhausted .. => isTerminal row.status = false
  | .doneWithResult required .. => required = .inFlight ∨ required = .queued
  | _ => True

theorem World.Has.status_eq {w : World} (h : w.Has doc)
    (hrow : w.row? doc.dispatchPhid = some row) : row.status = doc.status := by
  obtain ⟨row', hrow', rfl⟩ := h
  obtain rfl : row' = row := Option.some.inj (hrow'.symm.trans hrow)
  rfl

theorem lawful_of_issued (h : u.Issued) (hfresh : FreshStmt (.update u) w)
    (hrow : w.row? u.phid = some row) (hg : u.guard row) : u.Lawful row w := by
  cases u with
  | runClaim call p n now => exact hfresh row hrow
  | markNeedsClarification doc input id now =>
    obtain ⟨hhas, hid⟩ := hfresh
    refine ⟨?_, hid⟩
    rw [hhas.status_eq hrow]
    exact h
  | resumeAfterClarification doc input target now => exact (hfresh.status_eq hrow).trans h
  | markBounced | cancel | markRetryExhausted =>
    simp only [UpdateStmt.guard, decide_eq_true_eq] at hg
    simp only [UpdateStmt.Lawful, hg]
    exact h
  | doneWithResult => exact h
  | _ => trivial

theorem lawful_of_phase {phase : Phase} (h : phase.Acts policy doc u w)
    (hrow : w.row? u.phid = some row) : u.Lawful row w := by
  obtain ⟨hwrites, hshows⟩ | ⟨_, ⟨now, rfl⟩, _⟩ := h
  · obtain ⟨hstatus, hhas⟩ := hshows
    have hopen : ∀ d, d = doc → u.phid = d.dispatchPhid → isTerminal row.status = false := by
      rintro d rfl hp
      rw [World.Has.status_eq hhas (hp ▸ hrow), hstatus]
      cases phase <;> rfl
    cases u with
    | markBounced d bounce now =>
      have hd : d = doc := by cases phase <;> first | exact hwrites.1 | cases hwrites
      exact hopen d hd rfl
    | markRetryExhausted d detail now =>
      have hd : d = doc := by cases phase <;> first | exact hwrites.1 | exact hwrites | cases hwrites
      exact hopen d hd rfl
    | runClaim | doneWithResult | cancel | markNeedsClarification | resumeAfterClarification =>
      cases phase <;> cases hwrites
    | _ => trivial
  · trivial

theorem History.lawful (run : History) (he : e ∈ run.events) (hw : wrote e = some (u, row)) :
    u.Lawful row e.before := by
  obtain ⟨⟨l, hl⟩, hrow, hg, _⟩ := wrote_eq_some hw
  have hfresh := run.fresh he
  obtain ⟨unsent, hdue⟩ := run.due (P := fun _ => True) (fun _ _ => trivial) he
  rw [hl] at hfresh hdue
  obtain ⟨rfl, ⟨op, _, hwrites⟩, _⟩ | ⟨rfl, _, hwrites, _⟩ | ⟨doc, rfl, hwrites, _⟩ |
    ⟨call, p, n, now, rfl, hclaim⟩ | ⟨phase, doc, rfl, hacts⟩ := hdue.update_cases
  · exact lawful_of_issued hwrites.issued hfresh hrow hg
  · cases u with
    | markBounced | doneWithResult => exact lawful_of_issued hfresh trivial hrow hg
    | markFailed => trivial
    | _ => cases hwrites
  · cases u with
    | requeueForRecovery | markRecoveryLanded | recordRecoveryOutcome => trivial
    | _ => cases hwrites
  · exact hclaim row hrow
  · exact lawful_of_phase hacts hrow

end IdAgents
