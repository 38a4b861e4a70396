import IdAgents.Library.Rely
import IdAgents.MergeQueue.Worker

namespace IdAgents.MergeQueue
open JsText KeyedTable AtomicProgram List

/-- Drains in progress together: `schedule` names, step by step, the drain whose next statement is
executed. -/
structure Drains where
  calls : List (String × MergeWorkerDeps)
  schedule : List Nat
  start : World

namespace Drains

def threads (run : Drains) : List (Prog (Option MergeRequest)) :=
  run.calls.map fun call => drainOneMergeRequest call.1 call.2

/-- The world after the first `n` steps. -/
def after (run : Drains) (n : Nat) : World :=
  (interleave (run.schedule.take n) run.threads run.start).2

def events (run : Drains) : List (Nat × Event sql World) :=
  interleaveEvents run.schedule run.threads run.start

end Drains

def World.row? (w : World) (mrId : String) : Option MergeRequest := w.table.get? mrId

def MergeState.inFlight (s : MergeState) : Bool := s = .merging || s = .rebasing

structure SingleFlight (run : Drains) : Prop where
  oneMerge : ∀ n, ∀ r ∈ (run.after n).table.rows, ∀ s ∈ (run.after n).table.rows,
    r.repoAlias = s.repoAlias → r.state.inFlight → s.state.inFlight → r = s
  promoted : ∀ e ∈ run.events, ∀ mr, e.2.stmt = .call (.promote mr) → ∀ row,
    e.2.before.row? mr.mrId = some row → row.state ≠ .merged ∧ row.state ≠ .failed
  attempts : ∀ n, ∀ r ∈ (run.after n).table.rows, r.attempts ≤ r.maxAttempts
  settled : ∀ e ∈ run.events, ∀ mrId row, e.2.before.row? mrId = some row →
    row.state = .merged ∨ row.state = .failed →
    ∃ row', e.2.after.row? mrId = some row' ∧ row'.state = row.state

/-- What `acquireRepoLock` is relied on for: it comes back only when the lock is free. -/
def grantsFree (e : Event sql World) : Bool :=
  match (e.stmt : Stmt) with
  | .acquireRepoLock root => match e.before.env.lock e.before.step root with
    | .ok _ => root ∉ e.before.held
    | .error _ => true
  | _ => true

structure Queued (w : World) : Prop where
  idle : ∀ r ∈ w.table.rows, r.state.inFlight = false
  spare : ∀ r ∈ w.table.rows, r.state.isDrainable → r.attempts < r.maxAttempts
  attempts : ∀ r ∈ w.table.rows, r.attempts ≤ r.maxAttempts

/-- No call of git, of the smoke gate or of `promote-to-main` throws. -/
def answersCall (e : Event sql World) : Bool :=
  match (e.stmt : Stmt) with
  | .call c => match e.before.env.run e.before.step c with
    | .ok _ => true
    | .error _ => false
  | _ => true

/-- How far a drain has come: it has read the queue, holds a lock and may have read the queue again,
drives a request as it stands in the queue, has settled it, or has lost track of it by a call that
threw. -/
inductive Phase where
  | idle (picks : List MergeRequest)
  | locked (root : String) (picks seen : List MergeRequest)
  | driving (root : String) (mr : MergeRequest)
  | settled (root : String)
  | lost

def Phase.root? : Phase → Option String
  | locked root _ _ | driving root _ | settled root => some root
  | idle _ | lost => none

def Phase.Releases (root : String) : Phase → Prop
  | locked root' _ _ | settled root' => root' = root
  | lost => True
  | idle _ | driving .. => False

def MergeRequestPatch.drives (patch : MergeRequestPatch) : Bool := patch.state.all (·.inFlight)

def Phase.read (rows : List MergeRequest) : Phase → Phase
  | idle _ => idle rows
  | locked root picks _ => locked root picks rows
  | driving root mr => match rows.find? (·.mrId = mr.mrId) with
    | some found => driving root found
    | none => lost
  | settled root => settled root
  | lost => lost

def Phase.wrote (mrId : String) (patch : MergeRequestPatch) : Phase → Phase
  | locked root _ seen => match seen.find? (·.mrId = mrId) with
    | some claimed => driving root (patch.set claimed)
    | none => lost
  | driving root mr => if patch.drives then driving root (patch.set mr) else settled root
  | g => g

def Phase.Writes (mrId : String) (patch : MergeRequestPatch) : Phase → Prop
  | locked root picks seen =>
    (∃ picked ∈ picks, picked.repoRoot = root ∧ picked.mrId = mrId) ∧
      ∃ claimed, seen.find? (·.mrId = mrId) = some claimed ∧ claimed.state.isDrainable ∧
        patch.state = some .merging ∧ patch.attempts = some (claimed.attempts + 1)
  | driving _ mr => mrId = mr.mrId ∧ patch.attempts = none ∧ ∀ s, patch.state = some s →
      s.inFlight ∨ s = .merged ∨ s = .failed ∨ (s = .conflict ∧ mr.attempts < mr.maxAttempts)
  | lost => True
  | idle _ | settled _ => False

def drainScript : Script sql Phase where
  see g c := match c with
    | .select => fun (rows : List MergeRequest) => g.read rows
    | .update mrId patch => fun _ => g.wrote mrId patch
    | .acquireRepoLock root => fun (result : Except String Unit) => match g, result with
      | .idle picks, .ok _ => .locked root picks []
      | g, _ => g
    | .release _ => fun _ => match g with
      | .lost => .lost
      | _ => .idle []
    | .call c => fun (result : Except String c.Result) => match result with
      | .ok _ => g
      | .error _ => .lost
    | _ => fun _ => g
  due g c := match c with
    | .acquireRepoLock root => g = .lost ∨ ∃ picks, g = .idle picks ∧
      ∃ picked ∈ picks, picked.repoRoot = root
    | .update mrId patch => g.Writes mrId patch
    | .call (.promote mr) => g = .lost ∨ ∃ root, g = .driving root mr
    | .release root => g.Releases root
    | _ => True

theorem drainScript_lost (c : Stmt) (a : c.Ans) : drainScript.see .lost c a = .lost := by
  cases c with
  | acquireRepoLock => rfl
  | call c =>
    change (match (a : Except String c.Result) with
      | .ok _ => Phase.lost
      | .error _ => .lost) = .lost
    split <;> rfl
  | _ => rfl

theorem lost_keeps {p : Prog α} {R : Except String α → Phase → Prop} (h : ∀ r, R r .lost) :
    p.keeps drainScript R .lost := by
  induction p with
  | ret a => exact h _
  | throw e => exact h _
  | issue c k ih =>
    refine ⟨?_, fun a => ?_⟩
    · cases c with
      | acquireRepoLock => exact .inl rfl
      | call c =>
        cases c with
        | promote => exact .inl rfl
        | _ => trivial
      | _ => trivial
    · rw [drainScript_lost]
      exact ih a

variable {R : Except String β → Phase → Prop} {f : Option MergeRequest → Prog β}

theorem getMergeRequest_keeps
    (h : ∀ rows, (f (rows.find? (·.mrId = mrId))).keeps drainScript R (g.read rows)) :
    ((getMergeRequest mrId).bind f).keeps drainScript R g :=
  ⟨trivial, h⟩

theorem dequeue_keeps (h : ∀ rows picked?, (∀ picked, picked? = some picked → picked ∈ rows) →
      (f picked?).keeps drainScript R (g.read rows)) :
    ((dequeueOldestQueued repoAlias).bind f).keeps drainScript R g := by
  refine ⟨trivial, fun (rows : List MergeRequest) => h rows _ ?_⟩
  intro picked hpicked
  have hsorted := mem_of_head? hpicked
  exact mem_of_mem_filter ((perm_insertionSort _ _).subset hsorted)

theorem callOut_keeps {c : Call} {f : c.Result → Prog β}
    (hdue : drainScript.due g (.call c)) (hok : ∀ a, (f a).keeps drainScript R g)
    (herror : ∀ e, R (.error e) .lost) : ((callOut c).bind f).keeps drainScript R g := by
  refine ⟨hdue, fun (result : Except String c.Result) => ?_⟩
  cases result with
  | ok a => exact hok a
  | error e => exact herror e

def Drives (root : String) (r : Except String MergeRequest) (g : Phase) : Prop :=
  g = .lost ∨ ∃ mr, r = .ok mr ∧ g = .driving root mr

abbrev Ends (root : String) (p : Prog α) (g : Phase) : Prop :=
  p.keeps drainScript (fun _ g => g.Releases root) g

theorem read_keeps (h : mr'.mrId = mr.mrId) :
    ((getMergeRequest mr.mrId).bind fun updated => .ret (updated.getD mr)).keeps drainScript
      (Drives root) (.driving root mr') := by
  refine ⟨trivial, fun (rows : List MergeRequest) => ?_⟩
  change Drives root (.ok ((rows.find? (·.mrId = mr.mrId)).getD mr))
    (match rows.find? (·.mrId = mr'.mrId) with
    | some found => .driving root found
    | none => .lost)
  rw [h]
  cases rows.find? (·.mrId = mr.mrId) with
  | none => exact .inl rfl
  | some found => exact .inr ⟨found, rfl, rfl⟩

theorem patched_keeps (hd : patch.drives) (ha : patch.attempts = none) :
    (patched mr patch).keeps drainScript (Drives root) (.driving root mr) := by
  refine ⟨⟨rfl, ha, fun s hs => .inl ?_⟩, fun _ => ?_⟩
  · simpa [MergeRequestPatch.drives, hs] using hd
  · change Program.keeps drainScript _ _ (if patch.drives then Phase.driving root (patch.set mr)
      else .settled root)
    rw [if_pos hd]
    have hid : (patch.set mr).mrId = mr.mrId := rfl
    exact read_keeps hid

theorem settles_keeps (hd : patch.drives = false) (ha : patch.attempts = none)
    (hs : ∀ s, patch.state = some s →
      s = .merged ∨ s = .failed ∨ (s = .conflict ∧ mr.attempts < mr.maxAttempts))
    (hf : ∀ updated, (f updated).keeps drainScript R (.settled root)) :
    ((updateMergeRequest mr.mrId patch).bind f).keeps drainScript R (.driving root mr) := by
  refine ⟨⟨rfl, ha, fun s h => .inr (hs s h)⟩, fun _ => ?_⟩
  change Program.keeps drainScript _ _ (if patch.drives then Phase.driving root (patch.set mr)
    else .settled root)
  rw [hd, if_neg (by simp)]
  exact ⟨trivial, fun _ => hf _⟩

theorem fail_keeps : Ends root (fail mr reason detail) (.driving root mr) := by
  refine ⟨trivial, fun _ => ⟨trivial, fun (emitted : Except String (Option String)) => ?_⟩⟩
  apply settles_keeps rfl rfl
  · rintro s ⟨⟩
    exact .inr (.inl rfl)
  · intro updated
    exact rfl

theorem releaseMerged_keeps : Ends root (releaseMerged deps mr) (.settled root) := by
  rw [releaseMerged]
  split
  · split
    · exact ⟨trivial, fun _ => rfl⟩
    · exact rfl
  · exact rfl

theorem promoteClaimed_keeps : Ends root (promoteClaimed deps mr) (.driving root mr) := by
  apply callOut_keeps
  · exact .inr ⟨root, rfl⟩
  · intro result
    cases result.promotedSha.filter fun sha => result.ok && sha ≠ "" with
    | none => exact fail_keeps
    | some sha =>
      refine ⟨trivial, fun _ => ?_⟩
      apply settles_keeps rfl rfl
      · rintro s ⟨⟩
        exact .inl rfl
      · intro updated
        exact releaseMerged_keeps
  · intro e
    trivial

theorem Drives.ends {p : Prog MergeRequest} {f : MergeRequest → Prog β}
    (hp : p.keeps drainScript (Drives root) g) (hf : ∀ mr, Ends root (f mr) (.driving root mr)) :
    Ends root (p.bind f) g := by
  apply Program.keeps_seq hp
  · rintro mr g (rfl | ⟨mr', hmr, rfl⟩)
    · exact lost_keeps fun _ => trivial
    · obtain rfl := Except.ok.inj hmr
      exact hf mr
  · rintro e g (rfl | ⟨mr', hmr, rfl⟩)
    · trivial
    · cases hmr

theorem recordHead_keeps :
    (recordHead mr newHeadSha).keeps drainScript (Drives root) (.driving root mr) := by
  rw [recordHead]
  split
  · exact patched_keeps rfl rfl
  · exact .inr ⟨mr, rfl, rfl⟩

theorem smokeGate_keeps {f : SmokeResult → Prog MergeRequest}
    (hf : ∀ smoked, Ends root (f smoked) (.driving root mr)) :
    Ends root ((smokeGate deps mr).bind f) (.driving root mr) := by
  rw [smokeGate]
  by_cases hgate : deps.smoke
  · rw [if_pos hgate]
    exact callOut_keeps trivial hf fun _ => trivial
  · rw [if_neg hgate]
    exact hf _

theorem finishRebase_keeps : Ends root (finishRebase deps mr newHeadSha) (.driving root mr) := by
  apply Drives.ends recordHead_keeps
  intro mr
  apply smokeGate_keeps
  intro smoked
  split
  · exact fail_keeps
  · apply Drives.ends (patched_keeps rfl rfl)
    intro mr
    exact promoteClaimed_keeps

theorem rebaseClaimed_keeps : Ends root (rebaseClaimed deps mr) (.driving root mr) := by
  apply Drives.ends (patched_keeps rfl rfl)
  intro mr
  apply callOut_keeps
  · trivial
  · intro reb
    split
    · exact fail_keeps
    split
    · split
      · exact fail_keeps
      · next hspare =>
        apply settles_keeps rfl rfl
        · rintro s ⟨⟩
          exact .inr (.inr ⟨rfl, not_le.mp hspare⟩)
        · intro updated
          exact rfl
    · exact finishRebase_keeps
  · intro e
    trivial

theorem mergeClaimed_keeps : Ends root (mergeClaimed deps mr) (.driving root mr) := by
  apply callOut_keeps
  · trivial
  · intro fetched
    split
    · exact fail_keeps
    · apply callOut_keeps
      · trivial
      · intro stale
        cases (stale : Bool) with
        | true => exact rebaseClaimed_keeps
        | false => exact promoteClaimed_keeps
      · intro e
        trivial
  · intro e
    trivial

theorem startTime_keeps {f : String → Prog β} (hf : ∀ t, Ends root (f t) g) :
    Ends root ((startTime claimed).bind f) g := by
  rw [startTime]
  cases claimed.startedAt with
  | some t => exact hf t
  | none => exact ⟨trivial, fun _ => hf _⟩

theorem claim_keeps (hpicked : picked ∈ picks) (hclaimed : rows.find? (·.mrId = picked.mrId) = some claimed)
    (hstate : claimed.state.isDrainable) :
    (patched claimed { state := some .merging, attempts := some (claimed.attempts + 1),
                       startedAt := some t }).keeps drainScript (Drives picked.repoRoot)
      (.locked picked.repoRoot picks rows) := by
  have hid : claimed.mrId = picked.mrId := by simpa using find?_some hclaimed
  rw [← hid] at hclaimed
  refine ⟨⟨⟨picked, hpicked, rfl, hid.symm⟩, claimed, hclaimed, hstate, rfl, rfl⟩, fun _ => ?_⟩
  change Program.keeps drainScript _ _ (match rows.find? (·.mrId = claimed.mrId) with
    | some claimed => _
    | none => _)
  rw [hclaimed]
  exact read_keeps rfl

theorem drainPicked_keeps (hpicked : picked ∈ picks) :
    Ends picked.repoRoot (drainPicked deps picked) (.locked picked.repoRoot picks []) := by
  apply getMergeRequest_keeps
  intro rows
  cases hclaimed : rows.find? (·.mrId = picked.mrId) with
  | none => exact rfl
  | some claimed =>
    dsimp only
    split
    · exact rfl
    · next hstate =>
      apply startTime_keeps
      intro t
      apply Drives.ends (claim_keeps hpicked hclaimed (by simpa using hstate))
      intro mr
      apply Program.keeps_seq mergeClaimed_keeps
      · intro mr g h
        exact h
      · intro e g h
        exact h

theorem finally_keeps (h : Ends root body g) :
    (finally_ body (release root)).keeps drainScript (fun _ _ => True) g := by
  apply Program.keeps_seq (T := fun r g => ∀ a, r = .ok a → g.Releases root)
  · apply Program.keeps_tryCatch h
    · rintro a g hg _ ⟨⟩
      exact hg
    · intro e g hg
      refine ⟨hg, fun _ => ?_⟩
      rintro a ⟨⟩
  · intro a g hg
    exact ⟨hg a rfl, fun _ => trivial⟩
  · intros
    trivial

theorem drainOneMergeRequest_keeps :
    (drainOneMergeRequest repoAlias deps).keeps drainScript (fun _ _ => True) (.idle []) := by
  apply dequeue_keeps
  intro rows picked? hmem
  cases picked? with
  | none => trivial
  | some picked =>
    refine ⟨.inr ⟨rows, rfl, picked, hmem picked rfl, rfl⟩, fun (result : Except String Unit) => ?_⟩
    cases result with
    | ok => exact finally_keeps (drainPicked_keeps (hmem picked rfl))
    | error e => trivial

theorem row?_update (mrId : String) (patch : MergeRequestPatch) (w : World) (id : String) :
    World.row? (Stmt.effect (.update mrId patch) w) id =
      if mrId = id then (w.row? id).map patch.set else w.row? id := by
  have hfree : w.table.updateRefused (patchUpdate mrId patch) = false :=
    Table.not_refused_of_entry fun _ _ => rfl
  have hafter := Table.get?_update w.table (patchUpdate mrId patch) id
  rw [hfree, if_neg (by simp)] at hafter
  refine hafter.trans ?_
  cases hrow : w.row? id with
  | none =>
    have hnone : w.table.get? id = none := hrow
    simp [hnone]
  | some r =>
    have hget : w.table.get? id = some r := hrow
    have hid : r.mrId = id := (Table.get?_some hget).2
    have hrewrite : (patchUpdate mrId patch).rewrite r = if r.mrId = mrId then patch.set r else r := by
      by_cases h : r.mrId = mrId <;> simp [Update.rewrite, Update.hits, patchUpdate, Schema.key, h]
    rw [hget, Option.map_some, hrewrite, hid]
    by_cases h : mrId = id
    · simp [h]
    · simp [h, Ne.symm h]

def World.Stands (w : World) (x : MergeRequest) : Prop :=
  ∃ row, w.row? x.mrId = some row ∧ row.repoRoot = x.repoRoot

def Phase.Fits (w : World) : Phase → Prop
  | idle picks => ∀ x ∈ picks, w.Stands x
  | locked root picks seen => (∀ x ∈ picks, w.Stands x) ∧
      ∀ x ∈ seen, w.Stands x ∧ (x.repoRoot = root → w.row? x.mrId = some x)
  | driving root mr => w.row? mr.mrId = some mr ∧ mr.repoRoot = root ∧ mr.state.inFlight
  | settled _ => True
  | lost => False

variable {g : Phase}

theorem Phase.Fits.congr (h : g.Fits w) (ht : w'.table = w.table) : g.Fits w' := by
  have hrow : ∀ id, w'.row? id = w.row? id := fun id => by rw [World.row?, World.row?, ht]
  cases g with
  | settled root => trivial
  | lost => exact h
  | _ => simpa only [Fits, World.Stands, hrow] using h

theorem World.Stands.update (h : World.Stands w x) :
    World.Stands (Stmt.effect (.update mrId patch) w) x := by
  obtain ⟨row, hrow, hroot⟩ := h
  rw [World.Stands]
  rw [row?_update, hrow]
  split
  · exact ⟨patch.set row, rfl, hroot⟩
  · exact ⟨row, rfl, hroot⟩

theorem Phase.Fits.update (h : g.Fits w) (hrow : w.row? mrId = some row)
    (hroot : g.root? ≠ some row.repoRoot) : g.Fits (Stmt.effect (.update mrId patch) w) := by
  have hkept : ∀ x : MergeRequest, w.row? x.mrId = some x → g.root? = some x.repoRoot →
      World.row? (Stmt.effect (.update mrId patch) w) x.mrId = some x := by
    intro x hx hroot'
    rw [row?_update, if_neg, hx]
    rintro rfl
    obtain rfl : row = x := Option.some.inj (hrow.symm.trans hx)
    exact hroot hroot'
  cases g with
  | idle picks => exact fun x hx => (h x hx).update
  | locked root picks seen =>
    obtain ⟨hpicks, hseen⟩ := h
    refine ⟨fun x hx => (hpicks x hx).update, fun x hx => ⟨(hseen x hx).1.update, ?_⟩⟩
    intro hx'
    exact hkept x ((hseen x hx).2 hx') (congrArg some hx'.symm)
  | driving root mr =>
    obtain ⟨hmr, hmr', hstate⟩ := h
    exact ⟨hkept mr hmr (congrArg some hmr'.symm), hmr', hstate⟩
  | settled root => trivial
  | lost => exact h

structure Driven (ghost : Nat → Phase) (w : World) : Prop where
  fits : ∀ i, (ghost i).Fits w
  alone : ∀ i j root, (ghost i).root? = some root → (ghost j).root? = some root → i = j
  holds : ∀ i root, (ghost i).root? = some root → root ∈ w.held
  inFlight : ∀ id row, w.row? id = some row → row.state.inFlight →
    ∃ i root, ghost i = .driving root row
  spare : ∀ id row, w.row? id = some row → row.state.isDrainable → row.attempts < row.maxAttempts
  attempts : ∀ id row, w.row? id = some row → row.attempts ≤ row.maxAttempts

theorem Driven.not_lost (h : Driven ghost w) : ghost i ≠ .lost := by
  intro hlost
  have hfits := h.fits i
  rw [hlost] at hfits
  exact hfits

variable {w : World}

theorem Driven.same_table (h : Driven ghost w)
    (ht : w'.table = w.table) (hother : ∀ j, j ≠ i → ghost' j = ghost j) (hfits : (ghost' i).Fits w)
    (hroot : ∀ root, (ghost' i).root? = some root → root ∈ w'.held ∧
      ∀ j, j ≠ i → (ghost j).root? ≠ some root)
    (hheld : ∀ j, j ≠ i → ∀ root, (ghost j).root? = some root → root ∈ w'.held)
    (hdriving : ∀ root mr, ghost i = .driving root mr → ghost' i = .driving root mr) :
    Driven ghost' w' := by
  have hrow : ∀ id, w'.row? id = w.row? id := fun id => by rw [World.row?, World.row?, ht]
  refine ⟨fun j => ?_, fun j k root hj hk => ?_, fun j root hj => ?_, fun id row hr hs => ?_,
    fun id row hr => h.spare id row ((hrow id).symm.trans hr),
    fun id row hr => h.attempts id row ((hrow id).symm.trans hr)⟩
  · by_cases hji : j = i
    · subst hji
      exact hfits.congr ht
    · rw [hother j hji]
      exact (h.fits j).congr ht
  · by_cases hji : j = i <;> by_cases hki : k = i
    · rw [hji, hki]
    · subst hji
      rw [hother k hki] at hk
      exact absurd hk ((hroot root hj).2 k hki)
    · subst hki
      rw [hother j hji] at hj
      exact absurd hj ((hroot root hk).2 j hji)
    · rw [hother j hji] at hj
      rw [hother k hki] at hk
      exact h.alone j k root hj hk
  · by_cases hji : j = i
    · subst hji
      exact (hroot root hj).1
    · rw [hother j hji] at hj
      exact hheld j hji root hj
  · obtain ⟨j, root, hj⟩ := h.inFlight id row ((hrow id).symm.trans hr) hs
    by_cases hji : j = i
    · subst hji
      exact ⟨j, root, hdriving root row hj⟩
    · exact ⟨j, root, (hother j hji).trans hj⟩

theorem Driven.idle (h : Driven ghost w) (ht : w'.table = w.table)
    (hheld : w'.held = w.held) (hsame : ∀ j, ghost' j = ghost j) : Driven ghost' w' := by
  apply h.same_table (i := 0) ht (fun j _ => hsame j)
  · rw [hsame]
    exact h.fits 0
  · intro root hroot
    rw [hsame] at hroot
    exact ⟨hheld ▸ h.holds 0 root hroot, fun j hj hroot' => hj (h.alone j 0 root hroot' hroot)⟩
  · intro j _ root hroot
    rw [hheld]
    exact h.holds j root hroot
  · intro root mr hmr
    rw [hsame]
    exact hmr

theorem Driven.read (h : Driven ghost w) (ht : w'.table = w.table) (hheld : w'.held = w.held)
    (hself : ghost' i = (ghost i).read w.table.rows) (hother : ∀ j, j ≠ i → ghost' j = ghost j) :
    Driven ghost' w' := by
  have hstands : ∀ x ∈ w.table.rows, w.row? x.mrId = some x := fun x hx => Table.get?_of_mem hx
  have hfound : ∀ root mr, ghost i = .driving root mr →
      (ghost i).read w.table.rows = .driving root mr := by
    intro root mr hmr
    have hfits := h.fits i
    rw [hmr] at hfits ⊢
    have hfind : w.table.rows.find? (·.mrId = mr.mrId) = some mr := hfits.1
    simp only [Phase.read, hfind]
  have hroot : ((ghost i).read w.table.rows).root? = (ghost i).root? := by
    cases hg : ghost i with
    | driving root mr => rw [← hg, hfound root mr hg, hg]
    | _ => rfl
  apply h.same_table ht hother
  · rw [hself]
    have hfits := h.fits i
    cases hg : ghost i with
    | idle picks => exact fun x hx => ⟨x, hstands x hx, rfl⟩
    | locked root picks seen =>
      rw [hg] at hfits
      exact ⟨hfits.1, fun x hx => ⟨⟨x, hstands x hx, rfl⟩, fun _ => hstands x hx⟩⟩
    | driving root mr =>
      rw [← hg, hfound root mr hg, ← hg]
      exact hfits
    | settled root => trivial
    | lost => exact absurd hg h.not_lost
  · intro root hr
    rw [hself, hroot] at hr
    exact ⟨hheld ▸ h.holds i root hr, fun j hj hr' => hj (h.alone j i root hr' hr)⟩
  · intro j _ root hr
    rw [hheld]
    exact h.holds j root hr
  · intro root mr hmr
    rw [hself]
    exact hfound root mr hmr

structure WritesRow (patch : MergeRequestPatch) (g g' : Phase) (row : MergeRequest) : Prop where
  root : g.root? = some row.repoRoot
  open_ : row.state.isDrainable ∨ row.state.inFlight
  after : g' = if patch.drives then .driving row.repoRoot (patch.set row) else .settled row.repoRoot
  inFlight : (patch.set row).state.inFlight = patch.drives
  spare : (patch.set row).state.isDrainable → (patch.set row).attempts < (patch.set row).maxAttempts
  attempts : (patch.set row).attempts ≤ (patch.set row).maxAttempts

theorem Phase.Writes.row (h : g.Writes mrId patch) (hfits : g.Fits w)
    (hspare : ∀ id row, w.row? id = some row → row.state.isDrainable → row.attempts < row.maxAttempts)
    (hattempts : ∀ id row, w.row? id = some row → row.attempts ≤ row.maxAttempts) :
    ∃ row, w.row? mrId = some row ∧ WritesRow patch g (g.wrote mrId patch) row := by
  cases g with
  | locked root picks seen =>
    obtain ⟨⟨picked, hpicked, rfl, rfl⟩, claimed, hclaimed, hstate, hmerging, hcount⟩ := h
    obtain ⟨hpicks, hseen⟩ := hfits
    have hid : claimed.mrId = picked.mrId := by simpa using find?_some hclaimed
    obtain ⟨⟨row, hrow, hroot⟩, hcurrent⟩ := hseen claimed (mem_of_find?_eq_some hclaimed)
    obtain ⟨row', hrow', hroot'⟩ := hpicks picked hpicked
    rw [hid, hrow'] at hrow
    obtain rfl := Option.some.inj hrow
    have hsame : claimed.repoRoot = picked.repoRoot := hroot.symm.trans hroot'
    have hnow := hcurrent hsame
    rw [hid] at hnow
    have hless := hspare _ _ hnow hstate
    have hdrives : patch.drives := by simp [MergeRequestPatch.drives, hmerging, MergeState.inFlight]
    refine ⟨claimed, hnow, congrArg some hsame.symm, .inl hstate, ?_, ?_, ?_, ?_⟩
    · simp [wrote, hclaimed, hdrives, hsame]
    · simp [MergeRequestPatch.set, hmerging, hdrives, MergeState.inFlight]
    · intro hdrainable
      simp [MergeRequestPatch.set, hmerging, MergeState.isDrainable] at hdrainable
    · simp only [MergeRequestPatch.set, hcount, Option.getD_some]
      exact hless
  | driving root mr =>
    obtain ⟨rfl, hcount, hstates⟩ := h
    obtain ⟨hmr, rfl, hstate⟩ := hfits
    have hbudget := hattempts _ _ hmr
    refine ⟨mr, hmr, rfl, .inr hstate, rfl, ?_, ?_, ?_⟩
    · cases hpatch : patch.state with
      | none => simp [MergeRequestPatch.set, MergeRequestPatch.drives, hpatch, hstate]
      | some s => simp [MergeRequestPatch.set, MergeRequestPatch.drives, hpatch]
    · intro hdrainable
      simp only [MergeRequestPatch.set, hcount, Option.getD_none]
      cases hpatch : patch.state with
      | none =>
        have hstill : mr.state.isDrainable := by simpa [MergeRequestPatch.set, hpatch] using hdrainable
        cases hs : mr.state <;> simp [hs, MergeState.inFlight, MergeState.isDrainable] at hstate hstill
      | some s =>
        have hs : s.isDrainable := by simpa [MergeRequestPatch.set, hpatch] using hdrainable
        obtain hs' | rfl | rfl | ⟨_, hless⟩ := hstates s hpatch
        · cases s <;> simp [MergeState.inFlight, MergeState.isDrainable] at hs hs'
        · simp [MergeState.isDrainable] at hs
        · simp [MergeState.isDrainable] at hs
        · exact hless
    · simp only [MergeRequestPatch.set, hcount, Option.getD_none]
      exact hbudget
  | lost => exact hfits.elim
  | idle | settled => exact h.elim

theorem Driven.update (h : Driven ghost w)
    (hw : (ghost i).Writes mrId patch) (hself : ghost' i = (ghost i).wrote mrId patch)
    (hother : ∀ j, j ≠ i → ghost' j = ghost j) :
    Driven ghost' (Stmt.effect (.update mrId patch) w) := by
  obtain ⟨row, hrow, hwrites⟩ := hw.row (h.fits i) h.spare h.attempts
  have hid : row.mrId = mrId := (Table.get?_some hrow).2
  have hafter : World.row? (Stmt.effect (.update mrId patch) w) mrId = some (patch.set row) := by
    rw [row?_update, if_pos rfl, hrow, Option.map_some]
  have hroot : (ghost' i).root? = some row.repoRoot := by
    rw [hself, hwrites.after]
    split <;> rfl
  have hrows : ∀ id r, World.row? (Stmt.effect (.update mrId patch) w) id = some r →
      r = patch.set row ∨ (mrId ≠ id ∧ w.row? id = some r) := by
    intro id r hr
    by_cases hsame : mrId = id
    · subst hsame
      exact .inl (Option.some.inj (hr.symm.trans hafter))
    · rw [row?_update, if_neg hsame] at hr
      exact .inr ⟨hsame, hr⟩
  refine ⟨fun j => ?_, fun j k root hj hk => ?_, fun j root hj => ?_, fun id r hr hs => ?_,
    fun id r hr hs => ?_, fun id r hr => ?_⟩
  · by_cases hji : j = i
    · subst hji
      rw [hself, hwrites.after]
      split
      · next hdrives =>
        refine ⟨?_, rfl, hwrites.inFlight.trans hdrives⟩
        have hkey : (patch.set row).mrId = mrId := hid
        rw [hkey]
        exact hafter
      · trivial
    · rw [hother j hji]
      apply (h.fits j).update hrow
      intro hj
      exact hji (h.alone j i _ hj hwrites.root)
  · by_cases hji : j = i <;> by_cases hki : k = i
    · rw [hji, hki]
    · subst hji
      rw [hother k hki] at hk
      rw [hroot, ← hwrites.root] at hj
      exact h.alone j k root hj hk
    · subst hki
      rw [hother j hji] at hj
      rw [hroot, ← hwrites.root] at hk
      exact h.alone j k root hj hk
    · rw [hother j hji] at hj
      rw [hother k hki] at hk
      exact h.alone j k root hj hk
  · by_cases hji : j = i
    · subst hji
      rw [hroot, ← hwrites.root] at hj
      exact h.holds j root hj
    · rw [hother j hji] at hj
      exact h.holds j root hj
  · obtain rfl | ⟨hne, hold⟩ := hrows id r hr
    · rw [hwrites.inFlight] at hs
      refine ⟨i, row.repoRoot, ?_⟩
      rw [hself, hwrites.after, if_pos hs]
    · obtain ⟨j, root, hj⟩ := h.inFlight id r hold hs
      have hfits := h.fits j
      rw [hj] at hfits
      have hkey : r.mrId = id := (Table.get?_some hold).2
      by_cases hji : j = i
      · subst hji
        rw [hj] at hw
        exact absurd (hw.1.trans hkey) hne
      · exact ⟨j, root, (hother j hji).trans hj⟩
  · obtain rfl | ⟨_, hold⟩ := hrows id r hr
    · exact hwrites.spare hs
    · exact h.spare id r hold hs
  · obtain rfl | ⟨_, hold⟩ := hrows id r hr
    · exact hwrites.attempts
    · exact h.attempts id r hold

variable {e : Event sql World}

theorem Driven.step (h : Driven ghost e.before)
    (hdue : drainScript.due (ghost i) e.stmt) (hanswers : answersCall e) (hlock : grantsFree e)
    (hghost : ∀ j, ghost' j = if i = j then
      drainScript.see (ghost i) e.stmt (Store.answer e.stmt e.before) else ghost j) :
    Driven ghost' e.after := by
  have hother : ∀ j, j ≠ i → ghost' j = ghost j := fun j hj => by rw [hghost, if_neg (Ne.symm hj)]
  have hself := hghost i
  rw [if_pos rfl] at hself
  have hstill : drainScript.see (ghost i) e.stmt (Store.answer e.stmt e.before) = ghost i →
      ∀ j, ghost' j = ghost j := by
    intro hsame j
    by_cases hj : j = i
    · subst hj
      exact hself.trans hsame
    · exact hother j hj
  obtain ⟨c, w⟩ := e
  cases c with
  | now | emitFixForward | releaseLease => exact h.idle rfl rfl (hstill rfl)
  | select => exact h.read rfl rfl hself hother
  | update mrId patch => exact h.update hdue hself hother
  | call c =>
    have hsame : drainScript.see (ghost i) (.call c) (Stmt.answer (.call c) w) = ghost i := by
      change (match w.env.run w.step c with
        | .ok _ => ghost i
        | .error _ => .lost) = ghost i
      cases hrun : w.env.run w.step c with
      | ok a => rfl
      | error e => simp [answersCall, hrun] at hanswers
    exact h.idle rfl rfl (hstill hsame)
  | acquireRepoLock root =>
    obtain hlost | ⟨picks, hidle, _⟩ := hdue
    · exact absurd hlost h.not_lost
    · have hfits := h.fits i
      rw [hidle] at hfits
      cases hgrant : w.env.lock w.step root with
      | ok =>
        have hfree : root ∉ w.held := by simpa [grantsFree, hgrant] using hlock
        have hheld : (Stmt.effect (.acquireRepoLock root) w).held = root :: w.held := by
          change (match w.env.lock w.step root with
            | .ok _ => root :: w.held
            | .error _ => w.held) = _
          rw [hgrant]
        have hlocked : ghost' i = .locked root picks [] := by
          rw [hself]
          change (match ghost i, w.env.lock w.step root with
            | .idle picks, .ok _ => Phase.locked root picks []
            | g, _ => g) = _
          rw [hidle, hgrant]
        have hsame : (Stmt.effect (.acquireRepoLock root) w).table = w.table := rfl
        apply h.same_table hsame hother
        · rw [hlocked]
          exact ⟨hfits, by simp⟩
        · intro root' hroot'
          rw [hlocked] at hroot'
          obtain rfl := Option.some.inj hroot'
          refine ⟨hheld ▸ mem_cons_self, fun j _ hj => hfree (h.holds j root hj)⟩
        · intro j _ root' hj
          exact hheld ▸ mem_cons_of_mem _ (h.holds j root' hj)
        · intro root' mr hmr
          rw [hidle] at hmr
          cases hmr
      | error e =>
        have hsame : drainScript.see (ghost i) (.acquireRepoLock root)
            (Stmt.answer (.acquireRepoLock root) w) = ghost i := by
          change (match ghost i, w.env.lock w.step root with
            | .idle picks, .ok _ => Phase.locked root picks []
            | g, _ => g) = _
          rw [hidle, hgrant]
        have hheld : (Stmt.effect (.acquireRepoLock root) w).held = w.held := by
          change (match w.env.lock w.step root with
            | .ok _ => root :: w.held
            | .error _ => w.held) = _
          rw [hgrant]
        exact h.idle rfl hheld (hstill hsame)
  | release root =>
    have hroot : (ghost i).root? = some root ∧ ∀ root' mr, ghost i ≠ .driving root' mr := by
      have hreleases : (ghost i).Releases root := hdue
      cases hg : ghost i with
      | lost => exact absurd hg h.not_lost
      | locked | settled =>
        rw [hg] at hreleases
        exact ⟨congrArg some hreleases, by simp⟩
      | idle | driving =>
        rw [hg] at hreleases
        exact hreleases.elim
    have hidle : ghost' i = .idle [] := by
      rw [hself]
      change (match ghost i with
        | .lost => Phase.lost
        | _ => .idle []) = _
      split
      · next hg => exact absurd hg h.not_lost
      · rfl
    have hsame : (Stmt.effect (.release root) w).table = w.table := rfl
    apply h.same_table hsame hother
    · rw [hidle]
      simp [Phase.Fits]
    · intro root' hroot'
      rw [hidle] at hroot'
      cases hroot'
    · intro j hj root' hroot'
      have hne : root' ≠ root := by
        rintro rfl
        exact hj (h.alone j i _ hroot' hroot.1)
      exact mem_filter.mpr ⟨h.holds j root' hroot', by simpa using hne⟩
    · intro root' mr hmr
      exact absurd hmr (hroot.2 root' mr)

def World.OneRoot (w : World) : Prop :=
  ∀ id id' r s, w.row? id = some r → w.row? id' = some s → r.repoAlias = s.repoAlias →
    r.repoRoot = s.repoRoot

theorem row_before {id : String} (h : e.after.row? id = some row) :
    ∃ old, e.before.row? id = some old ∧ old.repoAlias = row.repoAlias ∧
      old.repoRoot = row.repoRoot := by
  obtain ⟨c, w⟩ := e
  cases c with
  | update mrId patch =>
    change World.row? (Stmt.effect (.update mrId patch) w) id = some row at h
    rw [row?_update] at h
    split at h
    · obtain ⟨old, hold, rfl⟩ := Option.map_eq_some_iff.mp h
      exact ⟨old, hold, rfl, rfl⟩
    · exact ⟨row, h, rfl, rfl⟩
  | _ => exact ⟨row, h, rfl, rfl⟩

theorem World.OneRoot.step (h : e.before.OneRoot) : e.after.OneRoot := by
  intro id id' r s hr hs halias
  obtain ⟨r', hr', hralias, hrroot⟩ := row_before hr
  obtain ⟨s', hs', hsalias, hsroot⟩ := row_before hs
  have hsame : r'.repoAlias = s'.repoAlias := by rw [hralias, hsalias, halias]
  rw [← hrroot, ← hsroot]
  exact h id id' r' s' hr' hs' hsame

theorem Queued.driven (h : Queued w) : Driven (fun _ => .idle []) w where
  fits _ := by simp [Phase.Fits]
  alone _ _ _ hi := by cases hi
  holds _ _ hi := by cases hi
  inFlight id row hrow hstate := by
    have hidle := h.idle row (Table.get?_some hrow).1
    rw [hstate] at hidle
    cases hidle
  spare id row hrow := h.spare row (Table.get?_some hrow).1
  attempts id row hrow := h.attempts row (Table.get?_some hrow).1

theorem Driven.one_merge (h : Driven ghost w) (hroot : w.OneRoot)
    (hr : w.row? r.mrId = some r) (hs : w.row? s.mrId = some s) (halias : r.repoAlias = s.repoAlias)
    (hr' : r.state.inFlight) (hs' : s.state.inFlight) : r = s := by
  obtain ⟨i, root, hi⟩ := h.inFlight _ r hr hr'
  obtain ⟨j, root', hj⟩ := h.inFlight _ s hs hs'
  have hifits := h.fits i
  have hjfits := h.fits j
  rw [hi] at hifits
  rw [hj] at hjfits
  obtain ⟨_, rfl, _⟩ := hifits
  obtain ⟨_, rfl, _⟩ := hjfits
  have hsame := hroot _ _ r s hr hs halias
  have hiroot : (ghost i).root? = some r.repoRoot := by rw [hi]; rfl
  have hjroot : (ghost j).root? = some r.repoRoot := by rw [hj, hsame]; rfl
  obtain rfl := h.alone i j _ hiroot hjroot
  obtain ⟨_, hmr⟩ := Phase.driving.inj (hi.symm.trans hj)
  exact hmr

theorem Driven.promoted (h : Driven ghost w) (hdue : drainScript.due (ghost i) (.call (.promote mr)))
    (hrow : w.row? mr.mrId = some row) : row.state.inFlight := by
  obtain hlost | ⟨root, hdriving⟩ := hdue
  · exact absurd hlost h.not_lost
  · have hfits := h.fits i
    rw [hdriving] at hfits
    obtain ⟨hmr, _, hstate⟩ := hfits
    obtain rfl := Option.some.inj (hrow.symm.trans hmr)
    exact hstate

theorem Driven.settled {id : String} (h : Driven ghost e.before)
    (hdue : drainScript.due (ghost i) e.stmt) (hrow : e.before.row? id = some row)
    (hstate : row.state = .merged ∨ row.state = .failed) : e.after.row? id = some row := by
  obtain ⟨c, w⟩ := e
  cases c with
  | update mrId patch =>
    change World.row? (Stmt.effect (.update mrId patch) w) id = some row
    rw [row?_update]
    split
    · next hid =>
      subst hid
      have hwrites : (ghost i).Writes mrId patch := hdue
      obtain ⟨row', hrow', hwrites⟩ := hwrites.row (h.fits i) h.spare h.attempts
      obtain rfl : row = row' := Option.some.inj (hrow.symm.trans hrow')
      have hopen := hwrites.open_
      obtain hmerged | hfailed := hstate
      · simp [hmerged, MergeState.isDrainable, MergeState.inFlight] at hopen
      · simp [hfailed, MergeState.isDrainable, MergeState.inFlight] at hopen
    · exact hrow
  | _ => exact hrow

/-- Overlapping drains merge one request of a repo at a time, and each within its attempts, if no
call throws and a repo has one working tree. -/
theorem single_flight (run : Drains) (hlocks : ∀ e ∈ run.events, grantsFree e.2) (hqueued : Queued run.start)
    (hroot : run.start.OneRoot) (hanswers : ∀ e ∈ run.events, answersCall e.2) :
    SingleFlight run := by
  have hkeeps := interleave_keeps (m := drainScript) (R := fun _ _ _ => True)
    (g := fun _ => .idle []) run.schedule run.start fun i p hp => by
      have hmem : p ∈ run.threads := mem_of_getElem? hp
      obtain ⟨call, _, rfl⟩ := mem_map.mp hmem
      exact drainOneMergeRequest_keeps
  have hstep : ∀ es i e fs, run.events = es ++ (i, e) :: fs →
      Driven (drainScript.ghost (fun _ => .idle []) es) e.before ∧ e.before.OneRoot →
      Driven (drainScript.ghost (fun _ => .idle []) (es ++ [(i, e)])) e.after ∧
        e.after.OneRoot := by
    rintro es i e fs hsplit ⟨hdriven, hone⟩
    have hmem : (i, e) ∈ run.events := by
      rw [hsplit]
      simp
    exact ⟨hdriven.step (hkeeps es i e fs hsplit) (hanswers _ hmem) (hlocks _ hmem)
      (Script.ghost_concat _ es i · e), hone.step⟩
  have hdriven := interleave_invariant_take
    (I := fun es w => Driven (drainScript.ghost (fun _ => .idle []) es) w ∧ w.OneRoot)
    run.schedule run.start ⟨hqueued.driven, hroot⟩ hstep
  have hbefore := (interleave_invariant
    (I := fun es w => Driven (drainScript.ghost (fun _ => .idle []) es) w ∧ w.OneRoot)
    run.schedule run.start ⟨hqueued.driven, hroot⟩ hstep).2
  constructor
  · intro n r hr s hs halias
    exact (hdriven n).1.one_merge (hdriven n).2 (Table.get?_of_mem hr) (Table.get?_of_mem hs) halias
  · rintro ⟨i, e⟩ he mr hstmt row hrow
    obtain ⟨es, fs, hsplit⟩ := append_of_mem he
    have hdue := hkeeps es i e fs hsplit
    rw [hstmt] at hdue
    have hstate := (hbefore es i e fs hsplit).1.promoted hdue hrow
    constructor <;> rintro hs <;> simp [hs, MergeState.inFlight] at hstate
  · intro n r hr
    exact (hdriven n).1.attempts _ r (Table.get?_of_mem hr)
  · rintro ⟨i, e⟩ he mrId row hrow hstate
    obtain ⟨es, fs, hsplit⟩ := append_of_mem he
    exact ⟨row, (hbefore es i e fs hsplit).1.settled (hkeeps es i e fs hsplit) hrow hstate, rfl⟩

def queuedMerge (mrId : String) (enqueuedAt : String) : MergeRequest where
  mrId := mrId
  idempotencyKey := mrId
  repoAlias := "kapelle"
  repoRoot := "/repos/kapelle"
  poolId := "pool"
  base := "main"
  branch := "build/" ++ mrId
  builder := "builder"
  dispatchId := "d-" ++ mrId
  leaseId := none
  headSha := "c0ffee"
  strategy := .auto
  state := .queued
  attempts := 0
  maxAttempts := 3
  promotedSha := none
  failure := none
  priority := 5
  isNorthStar := false
  enqueuedAt := enqueuedAt
  startedAt := none
  completedAt := none

def twoRequests : Table MergeRequest :=
  .ofRows [queuedMerge "mr_1" "2026-01-01", queuedMerge "mr_2" "2026-01-02"]

variable (needsRebase : Except String Bool)

/-- `git` is asked whether the branch is behind. -/
def twoMerges : World where
  table := twoRequests
  held := []
  step := 0
  env := {
    clock := fun _ => 0
    run := fun _ c => match c with
      | .fetchBase .. => .ok { ok := true }
      | .needsRebase .. => needsRebase
      | .rebaseOntoBase .. => .ok { ok := true, conflict := false }
      | .smoke _ => .ok { ok := true }
      | .promote mr => .ok { ok := true, promotedSha := some mr.headSha }
    lock := fun _ _ => .ok ()
    emitFixForward := fun _ _ _ => .ok none
    releaseLease := fun _ _ => .ok () }

theorem twoRequests_rows : ∀ r ∈ twoRequests.rows, r.state = .queued ∧ r.attempts = 0 ∧
    r.maxAttempts = 3 ∧ r.repoRoot = "/repos/kapelle" := by
  decide +kernel

theorem twoMerges_queued : Queued (twoMerges needsRebase) := by
  constructor
  · intro r hr
    rw [(twoRequests_rows r hr).1]
    rfl
  all_goals
    intro r hr
    obtain ⟨_, hattempts, hmax, _⟩ := twoRequests_rows r hr
    simp [hattempts, hmax]

theorem twoMerges_oneRoot : (twoMerges needsRebase).OneRoot := by
  intro id id' r s hr hs _
  obtain ⟨_, _, _, hr'⟩ := twoRequests_rows r (Table.get?_some hr).1
  obtain ⟨_, _, _, hs'⟩ := twoRequests_rows s (Table.get?_some hs).1
  rw [hr', hs']

/-- Two drains of a repo, the second after the first; `git merge-base` throws. -/
def thrownDrains : Drains where
  calls := [("kapelle", {}), ("kapelle", {})]
  schedule := List.replicate 9 0 ++ List.replicate 6 1
  start := twoMerges (.error "fatal: bad revision")

theorem thrown_two_merging : ((thrownDrains.after 15).table.rows.filter
    (·.state.inFlight)).map (fun r => (r.mrId, r.repoAlias)) =
      [("mr_1", "kapelle"), ("mr_2", "kapelle")] := by
  decide +kernel

theorem not_single_flight : (∀ e ∈ thrownDrains.events, grantsFree e.2) ∧
    Queued thrownDrains.start ∧ thrownDrains.start.OneRoot ∧ ¬ SingleFlight thrownDrains := by
  refine ⟨by decide +kernel, twoMerges_queued _, twoMerges_oneRoot _, fun h => ?_⟩
  have htwo := thrown_two_merging
  obtain ⟨r, s, hrows⟩ : ∃ r s,
      (thrownDrains.after 15).table.rows.filter (·.state.inFlight) = [r, s] := by
    apply length_eq_two.mp
    simpa using congrArg List.length htwo
  rw [hrows] at htwo
  simp only [map_cons, map_nil, List.cons.injEq, Prod.mk.injEq] at htwo
  obtain ⟨⟨hrid, hralias⟩, ⟨hsid, hsalias⟩, _⟩ := htwo
  have hr : r ∈ (thrownDrains.after 15).table.rows.filter (·.state.inFlight) := by simp [hrows]
  have hs : s ∈ (thrownDrains.after 15).table.rows.filter (·.state.inFlight) := by simp [hrows]
  obtain ⟨hr, hr'⟩ := mem_filter.mp hr
  obtain ⟨hs, hs'⟩ := mem_filter.mp hs
  have hsame := h.oneMerge 15 r hr s hs (hralias.trans hsalias.symm) hr' hs'
  rw [hsame, hsid] at hrid
  exact absurd hrid (by decide)

def orderlyDrains : Drains where
  calls := [("kapelle", {}), ("kapelle", {})]
  schedule := [0, 1] ++ List.replicate 12 0 ++ List.replicate 12 1
  start := twoMerges (.ok false)

theorem single_flight_orderly : SingleFlight orderlyDrains :=
  single_flight orderlyDrains (by decide +kernel) (twoMerges_queued _) (twoMerges_oneRoot _)
    (by decide +kernel)

end IdAgents.MergeQueue
