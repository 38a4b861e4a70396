import IdAgents.Library.Wp
import IdAgents.MergeQueue.SingleFlight

namespace IdAgents.MergeQueue
open JsText KeyedTable AtomicProgram Program World Stmt Option

def MergeState.isSettled (s : MergeState) : Bool := s = .merged || s = .failed || s.isDrainable

def claims (e : Event sql World) : Option String :=
  match (e.stmt : Stmt) with
  | .update mrId patch => if patch.attempts.isSome then some mrId else none
  | _ => none

/-- One call of `drainOneMergeRequest`. -/
structure Drain where
  repoAlias : String
  deps : MergeWorkerDeps
  start : World

namespace Drain

def prog (d : Drain) : Prog (Option MergeRequest) := drainOneMergeRequest d.repoAlias d.deps

def final (d : Drain) : World := (d.prog.run d.start).2

def events (d : Drain) : List (Event sql World) := d.prog.trace d.start

end Drain

def NotStranded (d : Drain) : Prop :=
  ∀ mrId, d.events.findSome? claims = some mrId →
    ∃ row, d.final.row? mrId = some row ∧ row.state.isSettled

structure Seen where
  claimed : Option String := none
  threw : Bool := false

def strandMonitor : Monitor sql World Seen where
  see g c w := ⟨g.claimed <|> claims ⟨c, w⟩, g.threw || !answersCall ⟨c, w⟩⟩
  due _ _ _ := True

theorem strandMonitor_over (g : Seen) (es : List (Event sql World)) : strandMonitor.over g es =
      ⟨g.claimed <|> es.findSome? claims, g.threw || es.any (!answersCall ·)⟩ := by
  induction es generalizing g with
  | nil => cases g; simp [Monitor.over]
  | cons e es ih =>
    change strandMonitor.over (strandMonitor.see g e.stmt e.before) es = _
    rw [ih]
    cases g with
    | mk claimed threw =>
      cases claimed <;> cases h : claims e <;>
        simp [strandMonitor, h, Bool.or_assoc]

structure Holds (mr : MergeRequest) (g : Seen) (w : World) : Prop where
  claimed : g.claimed = some mr.mrId
  quiet : g.threw = false
  row : w.row? mr.mrId = some mr
  inFlight : mr.state.inFlight

def Left (g : Seen) (w : World) : Prop :=
  ∃ mrId row, g.claimed = some mrId ∧ w.row? mrId = some row ∧
    if g.threw then row.state.inFlight else row.state.isSettled

def Stmt.isIdle : Stmt → Bool
  | .update .. | .call _ => false
  | _ => true

variable {c : Stmt}

theorem see_idle (h : c.isIdle) (g : Seen) (w : World) : strandMonitor.see g c w = g := by
  cases c with
  | update => cases h
  | call => cases h
  | _ => simp [strandMonitor, claims, answersCall]

theorem effect_idle (h : c.isIdle) (w : World) : (effect c w).table = w.table := by
  cases c with
  | update => cases h
  | _ => rfl

theorem Holds.congr (h : Holds mr g w) (ht : w'.table = w.table) : Holds mr g w' where
  claimed := h.claimed
  quiet := h.quiet
  row := by
    rw [row?, ht]
    exact h.row
  inFlight := h.inFlight

theorem Left.congr (h : Left g w) (ht : w'.table = w.table) : Left g w' := by
  obtain ⟨mrId, row, hclaimed, hrow, hstate⟩ := h
  refine ⟨mrId, row, hclaimed, ?_, hstate⟩
  rw [row?, ht]
  exact hrow

variable {R : Except String α → Seen → World → Prop}

theorem idle_wp (hc : c.isIdle)
    (h : ∀ w', w'.table = w.table → (k (answer c w)).wp strandMonitor R g w') :
    (issue (S := sql) c k).wp strandMonitor R g w := by
  refine ⟨trivial, ?_⟩
  rw [see_idle hc]
  exact h _ (effect_idle hc w)

theorem getMergeRequest_wp (h : ∀ w', w'.table = w.table →
      (f (w.table.rows.find? (·.mrId = mrId))).wp strandMonitor R g w') :
    ((getMergeRequest mrId).bind f).wp strandMonitor R g w := idle_wp rfl h

theorem dequeueOldestQueued_wp (h : ∀ picked w', (f picked).wp strandMonitor R g w') :
    ((dequeueOldestQueued repoAlias).bind f).wp strandMonitor R g w := idle_wp rfl fun w' _ => h _ w'

theorem update_wp {k : Unit → Prog α} (h : Holds mr g w) (ha : patch.attempts = none)
    (hk : ∀ w', w'.row? mr.mrId = some (patch.set mr) → (k ()).wp strandMonitor R g w') :
    (issue (S := sql) (.update mr.mrId patch) k).wp strandMonitor R g w := by
  refine ⟨trivial, ?_⟩
  have hsee : strandMonitor.see g (.update mr.mrId patch) w = g := by
    simp [strandMonitor, claims, answersCall, ha]
  rw [hsee]
  apply hk
  change row? (effect (.update mr.mrId patch) w) mr.mrId = _
  rw [row?_update, if_pos rfl, h.row, map_some]

theorem find_rows {w : World} (h : w.row? mrId = some mr) :
    w.table.rows.find? (·.mrId = mrId) = some mr := h

theorem patched_wp (h : Holds mr g w) (ha : patch.attempts = none) (hs : patch.drives) :
    (patched mr patch).wp strandMonitor
      (fun r g w => ∃ mr', r = .ok mr' ∧ mr' = patch.set mr ∧ Holds mr' g w) g w := by
  apply update_wp h ha
  intro w' hrow
  apply idle_wp rfl
  intro w'' ht
  have hrow'' : w''.row? mr.mrId = some (patch.set mr) := by
    rw [row?, ht]
    exact hrow
  refine ⟨patch.set mr, ?_, rfl, h.claimed, h.quiet, hrow'', ?_⟩
  · change (Except.ok ((w'.table.rows.find? (·.mrId = mr.mrId)).getD mr) : Except String _) = _
    rw [find_rows hrow, getD_some]
  · rw [MergeRequestPatch.drives] at hs
    change (patch.state.getD mr.state).inFlight
    cases hstate : patch.state with
    | none => exact h.inFlight
    | some s => simpa [hstate] using hs

theorem settle_wp {f : Option MergeRequest → Prog β} {R : Except String β → Seen → World → Prop}
    (h : Holds mr g w) (ha : patch.attempts = none) (hs : patch.state = some s)
    (hsettled : s.isSettled) (hf : ∀ updated w', Left g w' → (f updated).wp strandMonitor R g w') :
    ((updateMergeRequest mr.mrId patch).bind f).wp strandMonitor R g w := by
  apply update_wp h ha
  intro w' hrow
  apply idle_wp rfl
  intro w'' ht
  apply hf
  refine ⟨mr.mrId, patch.set mr, h.claimed, ?_, ?_⟩
  · rw [row?, ht]
    exact hrow
  · rw [h.quiet, if_neg (by simp)]
    change (patch.state.getD mr.state).isSettled
    rw [hs]
    exact hsettled

theorem callOut_wp {c : Call} {f : c.Result → Prog β} (h : Holds mr g w)
    (hf : ∀ a w', Holds mr g w' → (f a).wp strandMonitor (fun _ => Left) g w') :
    ((callOut c).bind f).wp strandMonitor (fun _ => Left) g w := by
  refine ⟨trivial, ?_⟩
  have hanswer : ∀ result : Except String c.Result, w.env.run w.step c = result →
      Store.answer (S := sql) (.call c) w = result := fun _ h => h
  cases hrun : w.env.run w.step c with
  | ok a =>
    have hsee : strandMonitor.see g (.call c) w = g := by
      simp [strandMonitor, claims, answersCall, hrun]
    rw [hsee, hanswer _ hrun]
    exact hf a _ (h.congr rfl)
  | error e =>
    rw [hanswer _ hrun]
    refine ⟨mr.mrId, mr, ?_, h.row, ?_⟩
    · simp [strandMonitor, h.claimed]
    · have hthrew : (strandMonitor.see g (.call c) w).threw = true := by
        simp [strandMonitor, answersCall, hrun]
      rw [hthrew, if_pos rfl]
      exact h.inFlight

theorem fail_wp (h : Holds mr g w) :
    (fail mr reason detail).wp strandMonitor (fun _ => Left) g w := by
  apply idle_wp rfl
  intro w ht
  apply idle_wp rfl
  intro w' ht'
  apply settle_wp ((h.congr ht).congr ht') rfl rfl rfl
  intro updated w'' hleft
  exact hleft

theorem releaseMerged_wp (h : Left g w) :
    (releaseMerged deps mr).wp strandMonitor (fun _ => Left) g w := by
  rw [releaseMerged]
  split
  · split
    · apply idle_wp rfl
      intro w' ht
      exact h.congr ht
    · exact h
  · exact h

theorem promoteClaimed_wp (h : Holds mr g w) :
    (promoteClaimed deps mr).wp strandMonitor (fun _ => Left) g w := by
  apply callOut_wp h
  intro result w' h'
  cases result.promotedSha.filter fun sha => result.ok && sha ≠ "" with
  | none => exact fail_wp h'
  | some sha =>
    apply idle_wp rfl
    intro w'' ht
    apply settle_wp (h'.congr ht) rfl rfl rfl
    intro updated w''' hleft
    exact releaseMerged_wp hleft

theorem recordHead_wp (h : Holds mr g w) : (recordHead mr newHeadSha).wp strandMonitor
      (fun r g w => ∃ mr', r = .ok mr' ∧ Holds mr' g w) g w := by
  rw [recordHead]
  split
  · apply wp_mono (patched_wp h rfl rfl)
    rintro r g w ⟨mr', hr, _, h'⟩
    exact ⟨mr', hr, h'⟩
  · exact ⟨mr, rfl, h⟩

theorem smokeGate_wp {f : SmokeResult → Prog MergeRequest} (h : Holds mr g w)
    (hf : ∀ smoked w', Holds mr g w' → (f smoked).wp strandMonitor (fun _ => Left) g w') :
    ((smokeGate deps mr).bind f).wp strandMonitor (fun _ => Left) g w := by
  rw [smokeGate]
  by_cases hgate : deps.smoke
  · rw [if_pos hgate]
    exact callOut_wp h hf
  · rw [if_neg hgate]
    exact hf _ w h

theorem finishRebase_wp (h : Holds mr g w) :
    (finishRebase deps mr newHeadSha).wp strandMonitor (fun _ => Left) g w := by
  apply wp_then (recordHead_wp h)
  intro mr g w h
  apply smokeGate_wp h
  intro smoked w' h'
  split
  · exact fail_wp h'
  · apply wp_then (patched_wp h' rfl rfl)
    rintro mr g w ⟨_, h⟩
    exact promoteClaimed_wp h

theorem rebaseClaimed_wp (h : Holds mr g w) :
    (rebaseClaimed deps mr).wp strandMonitor (fun _ => Left) g w := by
  apply wp_then (patched_wp h rfl rfl)
  rintro mr g w ⟨_, h⟩
  apply callOut_wp h
  intro reb w' h'
  split
  · exact fail_wp h'
  split
  · split
    · exact fail_wp h'
    · apply settle_wp h' rfl rfl rfl
      intro updated w'' hleft
      exact hleft
  · exact finishRebase_wp h'

theorem mergeClaimed_wp (h : Holds mr g w) :
    (mergeClaimed deps mr).wp strandMonitor (fun _ => Left) g w := by
  apply callOut_wp h
  intro fetched w' h'
  split
  · exact fail_wp h'
  · apply callOut_wp h'
    intro stale w'' h''
    cases (stale : Bool) with
    | true => exact rebaseClaimed_wp h''
    | false => exact promoteClaimed_wp h''

theorem claim_wp (hrow : w.row? claimed.mrId = some claimed) (t : String) :
    (patched claimed { state := some .merging, attempts := some (claimed.attempts + 1),
                       startedAt := some t }).wp strandMonitor
      (fun r g w => ∃ mr, r = .ok mr ∧ Holds mr g w) {} w := by
  let patch : MergeRequestPatch :=
    { state := some .merging, attempts := some (claimed.attempts + 1), startedAt := some t }
  refine ⟨trivial, ?_⟩
  have hafter : row? (effect (.update claimed.mrId patch) w) claimed.mrId =
      some (patch.set claimed) := by
    rw [row?_update, if_pos rfl, hrow, map_some]
  apply idle_wp rfl
  intro w' ht
  refine ⟨patch.set claimed, ?_, rfl, rfl, ?_, rfl⟩
  · change (Except.ok (((effect (.update claimed.mrId patch) w).table.rows.find?
      (·.mrId = claimed.mrId)).getD claimed) : Except String _) = _
    rw [find_rows hafter, getD_some]
  · rw [row?, ht]
    exact hafter

def Over (g : Seen) (w : World) : Prop := g = {} ∨ Left g w

theorem drainPicked_wp (picked : MergeRequest) (w : World) :
    (drainPicked deps picked).wp strandMonitor (fun _ => Over) {} w := by
  apply getMergeRequest_wp
  intro w' ht
  cases hclaimed : w.table.rows.find? (·.mrId = picked.mrId) with
  | none => exact .inl rfl
  | some claimed =>
    dsimp only
    have hrow : w'.row? claimed.mrId = some claimed := by
      rw [row?, ht]
      exact Table.get?_of_mem (List.mem_of_find?_eq_some hclaimed)
    split
    · exact .inl rfl
    · have hmerge : ∀ t w, w.row? claimed.mrId = some claimed →
          ((patched claimed { state := some .merging, attempts := some (claimed.attempts + 1),
                              startedAt := some t }).bind fun mr =>
            (mergeClaimed deps mr).bind fun mr => .ret (some mr)).wp strandMonitor
              (fun _ => Over) {} w := by
        intro t w hrow
        apply wp_then (claim_wp hrow t)
        intro mr g w h
        apply wp_seq (mergeClaimed_wp h)
        · intro mr g w hleft
          exact .inr hleft
        · intro e g w hleft
          exact .inr hleft
      rw [startTime]
      cases claimed.startedAt with
      | some t => exact hmerge t w' hrow
      | none =>
        apply idle_wp rfl
        intro w'' ht'
        apply hmerge
        rw [row?, ht']
        exact hrow

theorem Over.congr (h : Over g w) (ht : w'.table = w.table) : Over g w' := by
  rcases h with hnone | hleft
  · exact .inl hnone
  · exact .inr (hleft.congr ht)

theorem release_wp {p : Prog α} (h : Over g w)
    (hp : ∀ w', Over g w' → p.wp strandMonitor (fun _ => Over) g w') :
    ((release root).bind fun _ => p).wp strandMonitor (fun _ => Over) g w := by
  apply idle_wp rfl
  intro w' ht
  exact hp w' (h.congr ht)

theorem finally_wp {body : Prog α} (h : body.wp strandMonitor (fun _ => Over) g w) :
    (finally_ body (release root)).wp strandMonitor (fun _ => Over) g w := by
  have hbody : (body.tryCatch fun e => (release root).bind fun _ => Program.throw e).wp
      strandMonitor (fun _ => Over) g w := by
    apply wp_tryCatch h
    · intro a g w hover
      exact hover
    · intro e g w hover
      exact release_wp hover fun _ hover => hover
  apply wp_seq hbody
  · intro a g w hover
    exact release_wp hover fun _ hover => hover
  · intro e g w hover
    exact hover

theorem drain_wp (d : Drain) : d.prog.wp strandMonitor (fun _ => Over) {} d.start := by
  apply dequeueOldestQueued_wp
  intro picked w
  cases picked with
  | none => exact .inl rfl
  | some picked =>
    apply idle_wp rfl
    intro w' _
    have hanswer : ∀ result : Except String Unit, w.env.lock w.step picked.repoRoot = result →
        Store.answer (S := sql) (.acquireRepoLock picked.repoRoot) w = result := fun _ h => h
    cases hlock : w.env.lock w.step picked.repoRoot with
    | error e =>
      rw [show answer (.acquireRepoLock picked.repoRoot) w = _ from hanswer _ hlock]
      exact .inl rfl
    | ok u =>
      rw [show answer (.acquireRepoLock picked.repoRoot) w = _ from hanswer _ hlock]
      exact finally_wp (drainPicked_wp picked w')

theorem settled_of_inFlight {s : MergeState} (h : s.inFlight) : s.isSettled = false := by
  cases s with
  | merging | rebasing => rfl
  | _ => cases h

/-- A drain settles the request it claims exactly when none of its calls of git, of the smoke gate
and of `promote-to-main` throws; what those calls return, and what the other two dependencies do,
makes no difference. -/
theorem settles_claimed (d : Drain) : NotStranded d ↔ ∀ e ∈ d.events, answersCall e := by
  have hover : Over (strandMonitor.over {} d.events) d.final := (wp_sound (drain_wp d)).1
  rw [strandMonitor_over] at hover
  change Over ⟨d.events.findSome? claims, d.events.any (!answersCall ·)⟩ d.final at hover
  rcases hover with hnone | ⟨id, row, hclaimed, hrow, hstate⟩
  · obtain ⟨hnone, hquiet⟩ := Seen.mk.inj hnone
    apply iff_of_true
    · intro mrId hmrId
      rw [hnone] at hmrId
      cases hmrId
    · simpa using hquiet
  · dsimp only at hclaimed hstate
    cases hthrew : d.events.any (!answersCall ·) with
    | true =>
      rw [hthrew, if_pos rfl] at hstate
      apply iff_of_false
      · intro hsettled
        obtain ⟨row', hrow', hsettled⟩ := hsettled id hclaimed
        obtain rfl : row = row' := Option.some.inj (hrow.symm.trans hrow')
        rw [settled_of_inFlight hstate] at hsettled
        cases hsettled
      · intro hanswers
        obtain ⟨e, he, hthrows⟩ := List.any_eq_true.1 hthrew
        rw [hanswers e he] at hthrows
        cases hthrows
    | false =>
      rw [hthrew, if_neg (by simp)] at hstate
      apply iff_of_true
      · intro mrId hmrId
        obtain rfl : id = mrId := Option.some.inj (hclaimed.symm.trans hmrId)
        exact ⟨row, hrow, hstate⟩
      · simpa using hthrew

/-- A drain whose `git merge-base` throws. -/
def thrownDrain : Drain where
  repoAlias := "kapelle"
  deps := {}
  start := twoMerges (.error "fatal: bad revision")

/-- Its request stays in merging, where no drain looks for it. -/
theorem not_settles_claimed : ¬ ∀ d, NotStranded d := by
  intro h
  have hclaimed : thrownDrain.events.findSome? claims = some "mr_1" := by decide +kernel
  obtain ⟨row, hrow, hsettled⟩ := h thrownDrain "mr_1" hclaimed
  have hmerging : (thrownDrain.final.row? "mr_1").map (·.state) = some .merging := by
    decide +kernel
  rw [hrow] at hmerging
  obtain hmerging : row.state = .merging := Option.some.inj hmerging
  rw [hmerging] at hsettled
  cases hsettled

end IdAgents.MergeQueue
