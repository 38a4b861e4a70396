import IdAgents.Library.Sum
import IdAgents.Checkins.Autoclose

namespace IdAgents.Checkins
open JsText KeyedTable AtomicProgram List

def CheckinRow.Within (row : CheckinRow) : Prop :=
  ∀ limit, row.maxIterations = some limit → row.iterationCount ≤ limit

def CheckinRow.hasLeft (row : CheckinRow) : Bool := row.maxIterations.all (row.iterationCount < ·)

/-- How a row may have changed: `closed` and `expired` are for good. -/
structure RowMoves (row row' : CheckinRow) : Prop where
  id : row'.id = row.id
  absorbed : row.status.isTerminal → row'.status = row.status ∧
    row'.nextFireAt = row.nextFireAt ∧ row'.closedAt = row.closedAt ∧
    row'.closedReason = row.closedReason
  cleared : row.status.isTerminal = false → row'.status.isTerminal → row'.nextFireAt = none
  within : row.Within → row'.Within

theorem RowMoves.refl (row : CheckinRow) : RowMoves row row where
  id := rfl
  absorbed _ := ⟨rfl, rfl, rfl, rfl⟩
  cleared hopen hterminal := by
    rw [hopen] at hterminal
    cases hterminal
  within h := h

theorem RowMoves.trans (h : RowMoves r s) (h' : RowMoves s t) : RowMoves r t where
  id := h'.id.trans h.id
  absorbed hr := by
    obtain ⟨hstatus, hnext, hat, hreason⟩ := h.absorbed hr
    have hs : s.status.isTerminal := by
      rw [hstatus]
      exact hr
    obtain ⟨hstatus', hnext', hat', hreason'⟩ := h'.absorbed hs
    exact ⟨hstatus'.trans hstatus, hnext'.trans hnext, hat'.trans hat, hreason'.trans hreason⟩
  cleared hr ht := by
    cases hs : s.status.isTerminal with
    | false => exact h'.cleared hs ht
    | true =>
      rw [(h'.absorbed hs).2.1]
      exact h.cleared hr hs
  within hr := h'.within (h.within hr)

structure CheckinRow.Fresh (row : CheckinRow) : Prop where
  open_ : row.status.isTerminal = false
  within : row.Within

theorem CheckinDraft.row_fresh (draft : CheckinDraft) : draft.row.Fresh where
  open_ := by
    rw [CheckinDraft.row]
    split <;> rfl
  within limit hlimit := by
    obtain ⟨n, _, rfl⟩ := Option.map_eq_some_iff.mp hlimit
    exact Int.le_of_lt n.2

structure Absorbing (s t : World) : Prop where
  kept : ∀ row ∈ s.checkins.rows, ∃ row' ∈ t.checkins.rows, RowMoves row row'
  came : ∀ row' ∈ t.checkins.rows, (∃ row ∈ s.checkins.rows, row.id = row'.id) ∨
    row'.Within ∧ (row'.status.isTerminal → row'.nextFireAt = none)

theorem Absorbing.refl (s : World) : Absorbing s s where
  kept row hrow := ⟨row, hrow, .refl row⟩
  came row hrow := .inl ⟨row, hrow, rfl⟩

theorem Absorbing.trans (h : Absorbing s t) (h' : Absorbing t u) : Absorbing s u where
  kept row hrow := by
    obtain ⟨row', hrow', hmoves⟩ := h.kept row hrow
    obtain ⟨row'', hrow'', hmoves'⟩ := h'.kept row' hrow'
    exact ⟨row'', hrow'', hmoves.trans hmoves'⟩
  came row'' hrow'' := by
    rcases h'.came row'' hrow'' with ⟨row', hrow', hid'⟩ | hfresh
    · rcases h.came row' hrow' with ⟨row, hrow, hid⟩ | ⟨hwithin, hcleared⟩
      · exact .inl ⟨row, hrow, hid.trans hid'⟩
      · obtain ⟨last, hlast, hmoves⟩ := h'.kept row' hrow'
        obtain rfl := Table.eq_of_key hlast hrow'' (hmoves.id.trans hid')
        refine .inr ⟨hmoves.within hwithin, fun hterminal => ?_⟩
        cases hstatus : row'.status.isTerminal with
        | false => exact hmoves.cleared hstatus hterminal
        | true =>
          rw [(hmoves.absorbed hstatus).2.1]
          exact hcleared hstatus
    · exact .inr hfresh

/-- The fields an `updateFields` may set, of a row among those the call has claimed. -/
structure Fits (claimed : List CheckinRow) (id : String) (f : MutableCheckinFields) : Prop where
  silent : f.status = none → f.nextFireAt = none ∧ f.closedAt = none ∧ f.closedReason = none
  cleared : ∀ s, f.status = some s → s.isTerminal → f.nextFireAt = some none
  counted : ∀ n, f.iterationCount = some n → ∃ r ∈ claimed, r.id = id ∧ n = r.iterationCount + 1
  limit : f.maxIterations = none

theorem Fits.mono {id : String} (h : Fits claimed id f) (hsub : claimed ⊆ claimed') : Fits claimed' id f where
  silent := h.silent
  cleared := h.cleared
  counted n hn := by
    obtain ⟨r, hr, hrest⟩ := h.counted n hn
    exact ⟨r, hsub hr, hrest⟩
  limit := h.limit

theorem stamp_fits (seq updatedAt : Int) (claimed : List CheckinRow) (id : String) :
    Fits claimed id { lastEventSeq := some (some seq), updatedAt } where
  silent _ := ⟨rfl, rfl, rfl⟩
  cleared _ h := nomatch h
  counted _ h := nomatch h
  limit := rfl

theorem fired_fits (row : CheckinRow) (now seq : Int) :
    Fits [row] row.id (firedFields row now seq) where
  silent h := nomatch h
  cleared s hs hterminal := by
    obtain rfl : CheckinStatus.active = s := Option.some.inj hs
    cases hterminal
  counted n hn := ⟨row, mem_singleton.mpr rfl, rfl, (Option.some.inj hn).symm⟩
  limit := rfl

theorem expired_fits (reason : ExpireReason) (now seq : Int) (claimed : List CheckinRow)
    (id : String) : Fits claimed id (expiredFields reason now seq) where
  silent h := nomatch h
  cleared _ _ _ := rfl
  counted _ h := nomatch h
  limit := rfl

theorem snoozed_fits (snoozeUntil nowMs : Int) (claimed : List CheckinRow) (id : String) :
    Fits claimed id (snoozedFields snoozeUntil nowMs) where
  silent h := nomatch h
  cleared s hs hterminal := by
    obtain rfl : CheckinStatus.snoozed = s := Option.some.inj hs
    cases hterminal
  counted _ h := nomatch h
  limit := rfl

def Stmt.allowed (claimed : List CheckinRow) : Stmt → Prop
  | .insert row => row.Fresh
  | .updateFields id _ f => Fits claimed id f
  | _ => True

def claims : (c : Stmt) → c.Ans → List CheckinRow
  | .selectDue .., due => due
  | _, _ => []

def checkinScript : Script sql (List CheckinRow) where
  see claimed c a := claimed ++ claims c a
  due claimed c := Stmt.allowed claimed c

variable {c : Stmt}

theorem allowed_mono (h : c.allowed claimed) (hsub : claimed ⊆ claimed') : c.allowed claimed' := by
  cases c with
  | updateFields => exact Fits.mono h hsub
  | insert => exact h
  | _ => trivial

theorem issue_allowed (h : c.allowed claimed) :
    (issue c).Meets (Stmt.allowed claimed) fun _ => True := ⟨h, fun _ => trivial⟩

theorem thrown_allowed (r : Except String α) :
    (thrown r).Meets (Stmt.allowed claimed) fun _ => True := by
  cases r with
  | ok a => trivial
  | error e => trivial

theorem emit_allowed (event : EventEntry) :
    (emit event).Meets (Stmt.allowed claimed) fun _ => True :=
  ⟨trivial, fun _ => thrown_allowed _⟩

theorem assertLinked_allowed (linkedTaskId : Option String) (teamId : String) :
    (assertLinked linkedTaskId teamId).Meets (Stmt.allowed claimed) fun _ => True := by
  cases linkedTaskId with
  | none => trivial
  | some taskId =>
    refine ⟨trivial, fun (rows : List TaskRow) => ?_⟩
    cases rows with
    | nil => trivial
    | cons task rows =>
      change Program.Meets _ _ (if task.teamId = some teamId then _ else _)
      split <;> trivial

theorem updateFields_allowed {id teamId : String} (h : Fits claimed id f) :
    (updateFields id teamId f).Meets (Stmt.allowed claimed) fun _ => True :=
  (assertLinked_allowed _ teamId).bind fun _ _ => issue_allowed h

theorem recordEvent_allowed (event : EventEntry) (id teamId : String) (occurredAt : Int) :
    (recordEvent (emit event) id teamId occurredAt).Meets (Stmt.allowed claimed) fun _ => True := by
  apply (emit_allowed event).bind
  intro seq _
  apply (updateFields_allowed (stamp_fits seq occurredAt claimed id)).bind
  intro _ _
  trivial

theorem fetchTaskById_allowed (taskId : Option String) :
    (fetchTaskById taskId).Meets (Stmt.allowed claimed) fun _ => True := by
  rw [fetchTaskById]
  cases truthy taskId with
  | none => trivial
  | some id => exact ⟨trivial, fun _ => trivial⟩

theorem resolveAgentName_allowed (agentId : Option String) :
    (resolveAgentName agentId).Meets (Stmt.allowed claimed) fun _ => True := by
  rw [resolveAgentName]
  cases truthy agentId with
  | none => trivial
  | some id => exact ⟨trivial, fun _ => trivial⟩

variable (opts : CheckinServiceOptions)

theorem notifyOwner_allowed (row : CheckinRow) (fire : Fire) :
    (notifyOwner opts row fire).Meets (Stmt.allowed claimed) fun _ => True := by
  rw [notifyOwner]
  cases truthy row.ownerAgentId with
  | none => trivial
  | some owner =>
    have hnews : (writeOwnerNews row owner fire).Meets (Stmt.allowed claimed) fun _ => True :=
      ⟨trivial, fun _ => thrown_allowed _⟩
    apply hnews.bind
    intro _ _
    rw [dispatchWake]
    split
    · exact ⟨trivial, fun _ => trivial⟩
    · trivial

theorem fireRow_allowed (row : CheckinRow) (now : Int) :
    (fireRow opts row now).Meets (Stmt.allowed [row]) fun _ => True := by
  apply (fetchTaskById_allowed row.linkedTaskId).bind
  intro linkedTask _
  apply (resolveAgentName_allowed _).bind
  intro taskOwnerName _
  apply (emit_allowed _).bind
  intro seq _
  apply (updateFields_allowed (fired_fits row now seq)).bind
  intro _ _
  exact notifyOwner_allowed opts row _

theorem countExpired_allowed (row : CheckinRow) (now : Int) (reason : ExpireReason)
    (result : TickResult) :
    (countExpired row now reason result).Meets (Stmt.allowed claimed) fun _ => True := by
  apply Program.Meets.tryCatch
  · have hexpire : (expireRow row now reason).Meets (Stmt.allowed claimed) fun _ => True := by
      apply (emit_allowed _).bind
      intro seq _
      exact updateFields_allowed (expired_fits reason now seq claimed row.id)
    exact hexpire.bind fun _ _ => trivial
  · intro e
    trivial

theorem tickRow_allowed (teamId : String) (now : Int) (result : TickResult) (row : CheckinRow) :
    (tickRow opts teamId now result row).Meets (Stmt.allowed [row]) fun _ => True := by
  rw [tickRow]
  split
  · exact countExpired_allowed row now .ttl result
  · have hfire : (((fireRow opts row now).bind fun _ => .ret true).tryCatch
        fun _ => .ret false).Meets (Stmt.allowed [row]) fun _ => True := by
      apply Program.Meets.tryCatch
      · exact (fireRow_allowed opts row now).bind fun _ _ => trivial
      · intro e
        trivial
    apply hfire.bind
    intro fired _
    split
    · refine ⟨trivial, fun (updated : Option CheckinRow) => ?_⟩
      have hread : (Program.ret updated : Prog (Option CheckinRow)).Meets (Stmt.allowed [row])
          (· = updated) := rfl
      apply hread.bind
      intro latest _
      cases (latest : Option CheckinRow).filter shouldExpireForMaxIterations with
      | some updated => exact countExpired_allowed updated now .maxIterations _
      | none => trivial
    · trivial

theorem claimRow_allowed (now : Int) (tasks : List TaskRow)
    (hsub : claimed ⊆ due) (hrow : row ∈ due) :
    (claimRow now tasks claimed row).Meets (Stmt.allowed due) (· ⊆ due) := by
  rw [claimRow]
  cases suppression tasks row with
  | some reason => exact ⟨trivial, fun _ => hsub⟩
  | none => exact append_subset.mpr ⟨hsub, by simpa using hrow⟩

theorem loadLinkedTasks_allowed (rows : List CheckinRow) :
    (loadLinkedTasks rows).Meets (Stmt.allowed claimed) fun _ => True := by
  rw [loadLinkedTasks]
  cases (rows.filterMap fun row => truthy row.linkedTaskId).dedup with
  | nil => trivial
  | cons id ids => exact ⟨trivial, fun _ => trivial⟩

theorem keeps_of_allowed {p : Prog α} (h : p.Meets (Stmt.allowed rows) T) (hrows : rows ⊆ claimed) :
    p.keeps checkinScript (fun r claimed => rows ⊆ claimed ∧ ∀ a, r = .ok a → T a) claimed := by
  apply Program.keeps_of_meets h _ hrows
  intro claimed c hc hsub
  exact ⟨allowed_mono hc hsub, fun a => subset_append_of_subset_left _ hsub⟩

theorem claimDue_keeps (teamId : String) (now limit : Int) (claimed : List CheckinRow) :
    (claimDue teamId now limit).keeps checkinScript
      (fun r claimed => ∀ due, r = .ok due → due ⊆ claimed) claimed := by
  refine ⟨trivial, fun _ => ⟨trivial, fun _ => ⟨trivial, fun (due : List CheckinRow) => ?_⟩⟩⟩
  have hbody : ((loadLinkedTasks due).bind fun tasks =>
      Program.fold due [] (claimRow now tasks)).Meets (Stmt.allowed due) (· ⊆ due) := by
    apply (loadLinkedTasks_allowed due).bind
    intro tasks _
    apply Program.Meets.fold_inv (R := (· ⊆ due)) (nil_subset due)
    intro acc hacc row hrow
    exact claimRow_allowed now tasks hacc hrow
  apply Program.keeps_mono (keeps_of_allowed hbody _)
  · intro r claimed hkept rows hrows
    exact List.Subset.trans (hkept.2 rows hrows) hkept.1
  · exact subset_append_right _ _

theorem tickTeam_keeps (teamId : String) (now : Int) (claimed : List CheckinRow) :
    (tickTeam opts teamId now).keeps checkinScript (fun _ _ => True) claimed := by
  apply Program.keeps_seq (claimDue_keeps teamId now _ claimed)
  · intro due claimed hdue
    have hrows : (Program.fold due { scanned := due.length } (tickRow opts teamId now)).Meets
        (Stmt.allowed due) fun _ => True := by
      apply Program.Meets.fold
      intro result row hrow
      apply (tickRow_allowed opts teamId now result row).mono
      · intro c hc
        exact allowed_mono hc (by simpa using hrow)
      · intro _ _
        trivial
    exact Program.keeps_mono (keeps_of_allowed hrows (hdue due rfl)) fun _ _ _ => trivial
  · intro e claimed _
    trivial

theorem tick_keeps (now : Int) (claimed : List CheckinRow) :
    (tick opts now).keeps checkinScript (fun _ _ => True) claimed := by
  refine ⟨trivial, fun (teams : List String) => ?_⟩
  apply Program.keeps_fold (J := fun _ _ => True) _ trivial
  · intro result teamId teams claimed _
    apply Program.keeps_tryCatch (T := fun _ _ => True)
    · exact Program.keeps_then (tickTeam_keeps opts teamId now claimed) fun _ _ => trivial
    · intro _ _ _
      trivial
    · intro _ _ _
      trivial
  · intro _ _ _
    trivial

theorem create_allowed (draft : CheckinDraft) (announced : Bool) :
    (create draft announced).Meets (Stmt.allowed []) fun _ => True := by
  have hcreate : (createCheckin draft.row).Meets (Stmt.allowed []) fun _ => True := by
    apply (assertLinked_allowed _ _).bind
    intro _ _
    exact ⟨draft.row_fresh, fun _ => thrown_allowed _⟩
  apply hcreate.bind
  intro _ _
  split
  · apply Program.Meets.tryCatch
    · exact (recordEvent_allowed _ _ _ _).bind fun _ _ => trivial
    · intro e
      trivial
  · trivial

theorem closeRoute_allowed (id teamId : String) (reason : Option String) :
    (closeRoute id teamId reason).Meets (Stmt.allowed []) fun _ => True := by
  refine ⟨trivial, fun _ => ⟨trivial, fun _ => ⟨trivial, fun (row : Option CheckinRow) => ?_⟩⟩⟩
  cases row with
  | none => trivial
  | some row => exact (resolveAgentName_allowed _).bind fun _ _ => trivial

theorem snoozeRow_allowed (id teamId : String) (seconds : Int) :
    (snoozeRow id teamId seconds).Meets (Stmt.allowed []) fun _ => True := by
  refine ⟨trivial, fun (nowMs : Int) => ?_⟩
  apply (updateFields_allowed (snoozed_fits (nowMs + seconds * 1000) nowMs [] id)).bind
  intro _ _
  refine ⟨trivial, fun (row : Option CheckinRow) => ?_⟩
  cases row with
  | none => trivial
  | some row => exact (resolveAgentName_allowed _).bind fun _ _ => trivial

theorem snoozeRoute_allowed (id teamId : String) (seconds : Int) :
    (snoozeRoute id teamId seconds).Meets (Stmt.allowed []) fun _ => True := by
  refine ⟨trivial, fun (existing : Option CheckinRow) => ?_⟩
  cases existing with
  | none => trivial
  | some existing =>
    change Program.Meets _ _ (if existing.status.isTerminal then _ else _)
    split
    · trivial
    · exact snoozeRow_allowed id teamId seconds

theorem closeLinked_allowed (input : CloseLinkedCheckinsInput) :
    (closeLinkedCheckinsForTerminalTask input).Meets (Stmt.allowed []) fun _ => True := by
  refine ⟨trivial, fun (linked : List CheckinRow) => ?_⟩
  change Program.Meets _ _ (if linked.isEmpty then _ else _)
  split
  · trivial
  · refine ⟨trivial, fun _ => ?_⟩
    have hrows : (Program.fold linked [] input.recordRow).Meets (Stmt.allowed []) fun _ => True := by
      apply Program.Meets.fold
      intro seqs row _
      exact (recordEvent_allowed _ _ _ _).bind fun _ _ => trivial
    exact hrows.bind fun _ _ => trivial

theorem Call.keeps (call : Call) : call.prog.keeps checkinScript (fun _ _ => True) [] := by
  have hallowed : ∀ {p : Prog Reply}, p.Meets (Stmt.allowed []) (fun _ => True) →
      p.keeps checkinScript (fun _ _ => True) [] := fun h =>
    Program.keeps_mono (keeps_of_allowed h (nil_subset _)) fun _ _ _ => trivial
  cases call with
  | tick opts now => exact Program.keeps_then (tick_keeps opts now []) fun _ _ => trivial
  | create draft announced => exact hallowed (create_allowed draft announced)
  | close id teamId reason => exact hallowed (closeRoute_allowed id teamId reason)
  | snooze id teamId seconds => exact hallowed (snoozeRoute_allowed id teamId seconds)
  | taskTerminal input => exact hallowed ((closeLinked_allowed input).bind fun _ _ => trivial)

def spares (e : Event sql World) : Bool :=
  match (e.stmt : Stmt) with
  | .updateFields id teamId f => f.status.isNone ||
      e.before.checkins.rows.all fun row =>
        !((fieldsSweep id teamId f).guard row && row.status.isTerminal)
  | .selectDue teamId now limit =>
    (claims (.selectDue teamId now limit) (Stmt.answer _ e.before)).all CheckinRow.hasLeft
  | _ => true

def Knows (claimed : List CheckinRow) (w : World) : Prop :=
  ∀ r ∈ claimed, r.hasLeft ∧
    ∃ row ∈ w.checkins.rows, row.id = r.id ∧ row.maxIterations = r.maxIterations

theorem close_moves (closedAt : Int) (reason : String) (guard : CheckinRow → Bool)
    (row : CheckinRow) : RowMoves row ((closeSweep closedAt reason guard).rewrite row) := by
  rw [Sweep.rewrite]
  split
  · next hguard =>
    have hopen : row.status.isTerminal = false := by
      have hboth : guard row && !row.status.isTerminal := hguard
      rw [Bool.and_eq_true, Bool.not_eq_true'] at hboth
      exact hboth.2
    constructor
    case id => rfl
    case absorbed =>
      intro hterminal
      rw [hopen] at hterminal
      cases hterminal
    case cleared =>
      intro _ _
      rfl
    case within =>
      intro hwithin
      exact hwithin
  · exact .refl row

variable {w : World}

theorem fields_moves {id teamId : String} (hfits : Fits claimed id f)
    (hknows : Knows claimed w) (hspares : spares ⟨.updateFields id teamId f, w⟩)
    (hrow : row ∈ w.checkins.rows) : RowMoves row ((fieldsSweep id teamId f).rewrite row) := by
  rw [Sweep.rewrite]
  split
  · next hguard =>
    have hid : row.id = id := by
      have hboth : row.id = id && row.teamId = teamId := hguard
      rw [Bool.and_eq_true] at hboth
      exact of_decide_eq_true hboth.1
    have hsilent : f.status = none ∨ row.status.isTerminal = false := by
      have hor : f.status.isNone || w.checkins.rows.all fun row =>
          !((fieldsSweep id teamId f).guard row && row.status.isTerminal) := hspares
      rw [Bool.or_eq_true, Option.isNone_iff_eq_none, all_eq_true] at hor
      rcases hor with hnone | hall
      · exact .inl hnone
      · have hrow := hall row hrow
        rw [hguard, Bool.true_and, Bool.not_eq_true'] at hrow
        exact .inr hrow
    constructor
    case id => rfl
    case absorbed =>
      intro hterminal
      rcases hsilent with hnone | hopen
      · obtain ⟨hnext, hat, hreason⟩ := hfits.silent hnone
        simp [fieldsSweep, MutableCheckinFields.set, hnone, hnext, hat, hreason]
      · rw [hopen] at hterminal
        cases hterminal
    case cleared =>
      intro hopen hterminal
      change (f.status.getD row.status).isTerminal at hterminal
      change f.nextFireAt.getD row.nextFireAt = none
      cases hstatus : f.status with
      | none =>
        rw [hstatus, Option.getD_none, hopen] at hterminal
        cases hterminal
      | some s =>
        rw [hstatus, Option.getD_some] at hterminal
        rw [hfits.cleared s hstatus hterminal, Option.getD_some]
    case within =>
      intro hwithin limit hlimit
      change f.maxIterations.getD row.maxIterations = some limit at hlimit
      rw [hfits.limit, Option.getD_none] at hlimit
      change f.iterationCount.getD row.iterationCount ≤ limit
      cases hcount : f.iterationCount with
      | none => exact hwithin limit hlimit
      | some n =>
        -- the count written is one more than that of a claimed row, which had one left
        obtain ⟨r, hr, hrid, rfl⟩ := hfits.counted n hcount
        obtain ⟨hleft, row', hrow', hid', hlimit'⟩ := hknows r hr
        obtain rfl := Table.eq_of_key hrow' hrow (hid'.trans (hrid.trans hid.symm))
        rw [CheckinRow.hasLeft, ← hlimit', hlimit, Option.all_some, decide_eq_true_eq] at hleft
        exact hleft
  · exact .refl row

theorem rewrite_moves (hallowed : c.allowed claimed)
    (hknows : Knows claimed w) (hspares : spares ⟨c, w⟩) (hrow : row ∈ w.checkins.rows) :
    RowMoves row ((c.sweep w).rewrite row) := by
  cases c with
  | updateFields => exact fields_moves hallowed hknows hspares hrow
  | close => exact close_moves _ _ _ row
  | closeForTerminalTask => exact close_moves _ _ _ row
  | closeTaskTerminal => exact close_moves _ _ _ row
  | closeRecordOnly => exact close_moves _ _ _ row
  | _ => exact .refl row

theorem rewrite_limit (hallowed : c.allowed claimed) (row : CheckinRow) :
    ((c.sweep w).rewrite row).id = row.id ∧
      ((c.sweep w).rewrite row).maxIterations = row.maxIterations := by
  refine ⟨Sweep.key_rewrite _ row, ?_⟩
  rw [Sweep.rewrite]
  split
  · cases c with
    | updateFields id teamId f =>
      change f.maxIterations.getD row.maxIterations = row.maxIterations
      rw [Fits.limit hallowed, Option.getD_none]
    | _ => rfl
  · rfl

theorem absorbing_step (hallowed : c.allowed claimed)
    (hknows : Knows claimed w) (hspares : spares ⟨c, w⟩) : Absorbing w (c.effect w) where
  kept row hrow := ⟨_, effect_mem c hrow, rewrite_moves hallowed hknows hspares hrow⟩
  came row hrow := by
    rcases mem_effect hrow with ⟨old, hold, rfl⟩ | rfl
    · exact .inl ⟨old, hold, (Sweep.key_rewrite _ old).symm⟩
    · have hfresh : row.Fresh := hallowed
      refine .inr ⟨hfresh.within, fun hterminal => ?_⟩
      rw [hfresh.open_] at hterminal
      cases hterminal

theorem Knows.step (h : Knows rows w) (hallowed : c.allowed claimed) : Knows rows (c.effect w) := by
  intro r hr
  obtain ⟨hleft, row, hrow, hid, hlimit⟩ := h r hr
  obtain ⟨hid', hlimit'⟩ := rewrite_limit (w := w) hallowed row
  exact ⟨hleft, _, effect_mem c hrow, hid'.trans hid, hlimit'.trans hlimit⟩

theorem knows_claims (hspares : spares ⟨c, w⟩) : Knows (claims c (c.answer w)) w := by
  intro r hr
  cases c with
  | selectDue teamId now limit =>
    refine ⟨all_eq_true.mp hspares r hr, r, ?_, rfl, rfl⟩
    have hsorted := mem_of_mem_take hr
    rw [mem_insertionSort] at hsorted
    exact mem_of_mem_filter hsorted
  | _ => cases hr

namespace CheckinRun

def Spares (run : CheckinRun) : Prop := run.events.all fun e => spares e.2

def claimed (es : List (Nat × Event sql World)) (i : Nat) : List CheckinRow :=
  checkinScript.ghost (fun _ => []) es i

theorem threads_keep (run : CheckinRun) : ∀ (i : Nat) (p : Prog Reply), run.threads[i]? = some p →
    p.keeps checkinScript (fun _ _ => True) [] := by
  intro i p hp
  obtain ⟨call, _, rfl⟩ : ∃ call, run.calls[i]? = some call ∧ call.prog = p := by
    simpa [threads] using hp
  exact call.keeps

theorem step_allowed (run : CheckinRun) (hsplit : run.events = es ++ (i, e) :: fs) :
    Stmt.allowed (claimed es i) e.stmt :=
  interleave_keeps (g := fun _ => []) run.schedule run.start run.threads_keep es i e fs hsplit

variable {run : CheckinRun}

theorem step_spares (h : run.Spares) (hsplit : run.events = es ++ (i, e) :: fs) : spares e := by
  rw [Spares, hsplit, all_append, all_cons, Bool.and_eq_true, Bool.and_eq_true] at h
  exact h.2.1

theorem knows_before (h : run.Spares) :
    ∀ es i e fs, run.events = es ++ (i, e) :: fs → ∀ j, Knows (claimed es j) e.before := by
  apply (interleave_invariant (I := fun es w => ∀ j, Knows (claimed es j) w) run.schedule
    run.start _ _).2
  · intro j r hr
    cases hr
  · intro es i e fs hsplit hknows j
    have hallowed := run.step_allowed hsplit
    have hold : Knows (claimed es j) e.after := (hknows j).step hallowed
    rw [claimed, Script.ghost_concat]
    split
    · next hij =>
      subst hij
      intro r hr
      rcases mem_append.mp hr with hr | hr
      · exact hold r hr
      · exact (knows_claims (step_spares h hsplit)).step hallowed r hr
    · exact hold

theorem step_absorbing (h : run.Spares) (he : (i, e) ∈ run.events) :
    Absorbing e.before e.after := by
  obtain ⟨es, fs, hsplit⟩ := append_of_mem he
  exact absorbing_step (run.step_allowed hsplit) (knows_before h es i e fs hsplit i)
    (step_spares h hsplit)

end CheckinRun

/-- In a run whose steps spare the rows they write, `closed` and `expired` are absorbing and no limit
is exceeded. -/
theorem terminal_absorbs (run : CheckinRun) (h : run.Spares) (hmn : m ≤ n) :
    Absorbing (run.after m) (run.after n) := by
  obtain ⟨es, hchain, hevents⟩ := interleave_between run.schedule run.threads run.start hmn
  apply hchain.related .refl
  · intro s t u
    exact .trans
  · intro e he
    obtain ⟨i, hi⟩ := hevents e he
    exact CheckinRun.step_absorbing h hi

def closeAndTick (schedule : List Nat) : CheckinRun where
  calls := [.tick {} 5000, .close "chk_1" "team" none]
  start := ⟨.ofRows [watchRow], 0, 0, quietEnvironment⟩
  schedule := schedule

def closedAfterTick : CheckinRun := closeAndTick (List.replicate 10 0 ++ [1, 1, 1])

theorem terminal_absorbs_closedAfterTick :
    Absorbing (closedAfterTick.after 8) (closedAfterTick.after 13) :=
  terminal_absorbs closedAfterTick (by rw [CheckinRun.Spares]; decide +kernel) (by decide)

def closedMidTick : CheckinRun := closeAndTick (List.replicate 7 0 ++ [1, 1, 0])

theorem closed_row_reopened :
    (closedMidTick.after 9).checkins.rows.map (fun r => (r.id, r.status, r.nextFireAt)) =
        [("chk_1", .closed, none)] ∧
      (closedMidTick.after 10).checkins.rows.map (fun r => (r.id, r.status, r.nextFireAt)) =
        [("chk_1", .active, some 65000)] := by
  decide +kernel

theorem not_terminal_absorbs :
    ¬ ∀ (run : CheckinRun) (m n : Nat), m ≤ n → Absorbing (run.after m) (run.after n) := by
  intro h
  obtain ⟨hbefore, hafter⟩ := closed_row_reopened
  have habsorbing := h closedMidTick 9 10 (by decide)
  obtain ⟨row, hrow⟩ := length_eq_one_iff.mp (by simpa using congrArg List.length hbefore)
  obtain ⟨row', hrow'⟩ := length_eq_one_iff.mp (by simpa using congrArg List.length hafter)
  rw [hrow] at hbefore
  rw [hrow'] at hafter
  simp only [map_cons, map_nil, List.cons.injEq, Prod.mk.injEq, and_true] at hbefore hafter
  obtain ⟨last, hlast, hmoves⟩ := habsorbing.kept row (by simp [hrow])
  obtain rfl : last = row' := by simpa [hrow'] using hlast
  have hterminal : row.status.isTerminal := by simp [hbefore.2.1, CheckinStatus.isTerminal]
  have hstatus := (hmoves.absorbed hterminal).1
  rw [hbefore.2.1, hafter.2.1] at hstatus
  cases hstatus

end IdAgents.Checkins
