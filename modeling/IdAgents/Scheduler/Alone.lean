import IdAgents.Library.Wp
import IdAgents.Scheduler.Operation
import IdAgents.Scheduler.Service

namespace IdAgents
open JsText KeyedTable AtomicProgram Stmt Program IdAgents Transition

theorem Stmt.table_of_isQuiet {c : Stmt} (h : c.isQuiet) (w : World) :
    (c.effect w).table = w.table := by
  cases c <;> first | rfl | cases h

structure Unmoved (M : Monitor sql World γ) : Prop where
  due : ∀ g (c : Stmt) w, c.isQuiet → M.due g c w
  see : ∀ g (c : Stmt) w, c.isQuiet → M.see g c w = g

/-- The UPDATE `u`, issued in the table of `w`, is no concern of the monitor's either. -/
def Cleared (M : Monitor sql World γ) (g : γ) (w : World) (u : UpdateStmt) : Prop :=
  ∀ w', w'.table = w.table → M.due g (.update u) w' ∧ M.see g (.update u) w' = g

/-- `w'` has the table of `w`, but for at most one UPDATE of those in `us`. -/
def Leaves (us : UpdateStmt → Prop) (w w' : World) : Prop :=
  w'.table = w.table ∨ ∃ u, us u ∧ w'.table = w.table.update u.toUpdate

/-- The rows of other dispatches than `p` are in `w'` as they were in `w`. -/
def Spares (p : String) (w w' : World) : Prop := ∀ q, q ≠ p → w'.row? q = w.row? q

theorem World.row?_congr {w w' : World} (h : w'.table = w.table) (q : String) :
    w'.row? q = w.row? q := by
  rw [row?, row?, h]

theorem Spares.trans (h : Spares p w w') (h' : Spares p w' w'') : Spares p w w'' :=
  fun q hq => (h' q hq).trans (h q hq)

theorem Leaves.spares (h : Leaves us w w') (hp : ∀ u, us u → u.phid = p) : Spares p w w' := by
  intro q hq
  obtain h | ⟨u, hu, h⟩ := h
  · exact World.row?_congr h q
  · have hne : u.toUpdate.at_ ≠ q := by
      rw [← hp u hu] at hq
      exact Ne.symm hq
    rw [World.row?, h]
    exact Table.get?_update_ne hne

theorem Leaves.congr (h : Leaves us w w') (hw : w''.table = w'.table) : Leaves us w w'' := by
  obtain h | ⟨u, hu, h⟩ := h
  · exact .inl (hw.trans h)
  · exact .inr ⟨u, hu, hw.trans h⟩

theorem Leaves.row? (h : Leaves us w w') (hr : w.row? p = some row) :
    w'.row? p = some row ∨ ∃ u, us u ∧ u.guard row ∧ w'.row? p = some (u.set row) := by
  obtain h | ⟨u, hu, h⟩ := h
  · exact .inl ((World.row?_congr h p).trans hr)
  · obtain hkeep | ⟨_, hg, hset⟩ := Table.get?_update_cases u.toUpdate hr
    · exact .inl (by rw [World.row?, h]; exact hkeep)
    · exact .inr ⟨u, hu, hg, by rw [World.row?, h]; exact hset⟩

variable {M : Monitor sql World γ}

theorem execUpdate_wp (hdue : M.due g (.update u) w)
    (hok : w.table.updateRefused u.toUpdate = false →
      answer (.update u) w = some (w.table.rowCount u.toUpdate) →
      (f (w.table.rowCount u.toUpdate)).wp M R (M.see g (.update u) w) (effect (.update u) w))
    (herror : w.table.updateRefused u.toUpdate → answer (.update u) w = none →
      R (.error .uniqueConstraint) (M.see g (.update u) w) (effect (.update u) w)) :
    ((execUpdate u).bind f).wp M R g w := by
  refine ⟨hdue, ?_⟩
  change wp M (Program.bind (match answer (.update u) w with
    | some n => .ret n
    | none => .throw .uniqueConstraint) f) R _ _
  by_cases hr : w.table.updateRefused u.toUpdate
  · have hanswer : answer (.update u) w = none := by
      change (if w.table.updateRefused u.toUpdate then none
        else some (w.table.rowCount u.toUpdate)) = none
      rw [if_pos hr]
    rw [hanswer]
    exact herror hr hanswer
  · have hanswer : answer (.update u) w = some (w.table.rowCount u.toUpdate) := by
      change (if w.table.updateRefused u.toUpdate then none
        else some (w.table.rowCount u.toUpdate)) = _
      rw [if_neg hr]
    rw [hanswer]
    exact hok (eq_false_of_ne_true hr) hanswer

theorem sendTalk_wp {β : Type} {f : AgentTransportResult → Prog β}
    {R : Except ReactorError β → γ → World → Prop} (hdue : M.due g (.sendTalk doc) w)
    (h : ∀ result w', w'.table = w.table → (f result).wp M R (M.see g (.sendTalk doc) w) w') :
    ((sendTalk doc).bind f).wp M R g w :=
  ⟨hdue, h _ _ rfl⟩

/-- Alone in `w`, the program issues at most one UPDATE, one of `us`, in the table it found. -/
abbrev SoleWrite (M : Monitor sql World γ) (us : UpdateStmt → Prop) (p : Prog α) (g : γ)
    (w : World) : Prop :=
  p.wp M (fun _ g' w' => g' = g ∧ Leaves us w w') g w

section
variable {M : Monitor sql World γ} (hM : Unmoved M) {α β : Type}
include hM

theorem quiet_wp {T : α → Prop} {p : Prog α} (hp : p.Meets (fun c : Stmt => c.isQuiet) T) :
    p.wp M (fun r g' w' => (g' = g ∧ w'.table = w.table) ∧ ∀ a, r = .ok a → T a) g w := by
  apply wp_of_meets hp ⟨rfl, rfl⟩
  rintro g' c w' hc ⟨rfl, hw⟩
  exact ⟨hM.due _ _ _ hc, hM.see _ _ _ hc, (table_of_isQuiet hc w').trans hw⟩

variable {R : Except ReactorError β → γ → World → Prop}

theorem stmt_wp {c : Stmt} (hc : c.isQuiet) {f : c.Ans → Prog β}
    (h : ∀ a w', w'.table = w.table → (f a).wp M R g w') :
    (Program.bind (stmt (S := sql) c) f).wp M R g w := by
  refine ⟨hM.due _ _ _ hc, ?_⟩
  rw [hM.see _ _ _ hc]
  exact h _ _ (table_of_isQuiet hc w)

theorem nowFn_wp {f : Instant → Prog β}
    (h : ∀ now w', w'.table = w.table → (f now).wp M R g w') : (nowFn.bind f).wp M R g w :=
  stmt_wp hM (c := .now) rfl h

theorem selectRows_wp (h : ∀ w', w'.table = w.table → (f w.table.rows).wp M R g w') :
    (selectRows.bind f).wp M R g w := by
  refine ⟨hM.due _ _ _ rfl, ?_⟩
  rw [hM.see _ _ _ rfl]
  exact h _ rfl

theorem getByPhid_wp (h : ∀ w', w'.table = w.table → (f ((w.row? phid).map rowToDoc)).wp M R g w') :
    ((getByPhid phid).bind f).wp M R g w := by
  refine ⟨hM.due _ _ _ rfl, ?_⟩
  rw [hM.see _ _ _ rfl]
  exact h _ rfl

theorem quiet_after {p : Prog α} (hp : p.Meets (fun c : Stmt => c.isQuiet) fun _ => True)
    (h : Leaves us w w₁) : p.wp M (fun _ g' w' => g' = g ∧ Leaves us w w') g w₁ := by
  apply wp_mono (quiet_wp hM hp)
  rintro r g' w' ⟨⟨rfl, hw'⟩, _⟩
  exact ⟨rfl, h.congr hw'⟩

theorem execUpdate_sole {f : Nat → Prog α} (hu : us u) (hclear : Cleared M g w u)
    (h₀ : w₀.table = w.table) (hf : ∀ n, (f n).Meets (fun c : Stmt => c.isQuiet) fun _ => True) :
    ((execUpdate u).bind f).wp M (fun _ g' w' => g' = g ∧ Leaves us w w') g w₀ := by
  obtain ⟨hdue, hsee⟩ := hclear w₀ h₀
  have hleaves : Leaves us w (effect (.update u) w₀) :=
    .inr ⟨u, hu, congrArg (Table.update · u.toUpdate) h₀⟩
  apply execUpdate_wp hdue
  · intro _ _
    rw [hsee]
    exact quiet_after hM (hf _) hleaves
  · intro _ _
    exact ⟨hsee, hleaves⟩

theorem Transition.exec_wp {t : Transition}
    (hu : ∀ row now, w.row? p = some row → t.reject (rowToDoc row) = none →
      us (t.write (rowToDoc row) now) ∧ Cleared M g w (t.write (rowToDoc row) now))
    (hl : ∀ doc, (t.lost doc).Meets (fun c : Stmt => c.isQuiet) fun _ => True) :
    SoleWrite M us (t.exec p) g w := by
  apply getByPhid_wp hM
  intro w₁ h₁
  cases hrow : w.row? p with
  | none => exact ⟨rfl, .inl h₁⟩
  | some row =>
    simp only [Option.map_some]
    cases hreject : t.reject (rowToDoc row) with
    | some message => exact ⟨rfl, .inl h₁⟩
    | none =>
      apply nowFn_wp hM
      intro now w₂ h₂
      cases t.rejectAt (rowToDoc row) now with
      | some message => exact ⟨rfl, .inl (h₂.trans h₁)⟩
      | none =>
        obtain ⟨hus, hclear⟩ := hu row now hrow hreject
        apply execUpdate_sole hM hus hclear (h₂.trans h₁)
        intro n
        split
        · exact hl _
        · exact getByPhid_allowed fun _ h => h

theorem markDone_wp (hu : ∀ now, us (.markDone p now) ∧ Cleared M g w (.markDone p now)) :
    SoleWrite M us (markDone p) g w :=
  exec_wp hM (fun _ now _ _ => hu now)
    fun _ => resolveTerminalCasResult_allowed fun _ h => h

theorem markBounced_wp (hu : ∀ row now, w.row? p = some row → isTerminal row.status = false →
      us (.markBounced (rowToDoc row) bounce now) ∧
        Cleared M g w (.markBounced (rowToDoc row) bounce now)) :
    SoleWrite M us (markBounced p bounce) g w :=
  exec_wp hM (fun row now h hr => hu row now h (rejectIf_eq_none.mp hr))
    fun _ => by trivial

theorem requeueAfterBounce_wp
    (hu : ∀ now, us (.requeueAfterBounce p now) ∧ Cleared M g w (.requeueAfterBounce p now)) :
    SoleWrite M us (requeueAfterBounce p) g w :=
  exec_wp hM (fun _ now _ _ => hu now) fun _ => by trivial

theorem markRetryExhausted_wp (hu : ∀ row now, w.row? p = some row → isTerminal row.status = false →
      us (.markRetryExhausted (rowToDoc row) detail now) ∧
        Cleared M g w (.markRetryExhausted (rowToDoc row) detail now)) :
    SoleWrite M us (markRetryExhausted p detail) g w :=
  exec_wp hM (fun row now h hr => hu row now h (rejectIf_eq_none.mp hr))
    fun _ => resolveTerminalCasResult_allowed fun _ h => h

theorem markFailed_wp
    (hu : ∀ now, us (.markFailed p args now) ∧ Cleared M g w (.markFailed p args now)) :
    SoleWrite M us (markFailed p args) g w := by
  apply getByPhid_wp hM
  intro w₁ h₁
  cases w.row? p with
  | none => exact ⟨rfl, .inl h₁⟩
  | some row =>
    simp only [Option.map_some]
    split
    · exact quiet_after hM ((recordRejectedTerminalOverwrite_allowed fun _ h => h).bind
        fun _ => by trivial) (.inl h₁)
    · split
      · exact ⟨rfl, .inl h₁⟩
      · apply nowFn_wp hM
        intro now w₂ h₂
        obtain ⟨hus, hclear⟩ := hu now
        apply execUpdate_sole hM hus hclear (h₂.trans h₁)
        intro n
        split
        · exact markFailedLost_allowed fun _ h => h
        · exact getByPhid_allowed fun _ h => h

theorem recordAgentStart_wp (hrow : w.row? p = some row) (hs : row.status = .inFlight)
    (hu : ∀ now, us (.acceptInFlight p (trim q) now) ∧
      Cleared M g w (.acceptInFlight p (trim q) now)) :
    SoleWrite M us (recordAgentStart p q) g w := by
  apply getByPhid_wp hM
  intro w₁ h₁
  rw [hrow]
  simp only [Option.map_some]
  split
  · exact ⟨rfl, .inl h₁⟩
  · apply nowFn_wp hM
    intro now w₂ h₂
    have hdoc : (rowToDoc row).status = .inFlight := hs
    rw [hdoc]
    dsimp only
    split
    · exact ⟨rfl, .inl (h₂.trans h₁)⟩
    · obtain ⟨hus, hclear⟩ := hu now
      apply execUpdate_sole hM hus hclear (h₂.trans h₁)
      intro n
      split
      · trivial
      · exact getByPhid_allowed fun _ h => h

end

theorem wrap_wp {p : Prog α} {R : Result α → γ → World → Prop}
    (h : p.wp M (fun r g' w' => match r with
      | .ok v => R (.ok v) g' w'
      | .error e => R (.error (mapError op e)) g' w') g w) :
    (wrap op p).wp M (fun r g' w' => ∃ v, r = .ok v ∧ R v g' w') g w := by
  apply wp_tryCatch (M := fun r g' w' => match r with
    | .ok v => R v g' w'
    | .error e => R (.error (mapError op e)) g' w')
  · apply wp_seq h
    · intro a g' w' hR
      exact hR
    · intro e g' w' hR
      exact hR
  · intro v g' w' hR
    exact ⟨v, rfl, hR⟩
  · intro e g' w' hR
    exact ⟨_, rfl, hR⟩

theorem wrapNullable_wp (h : p.wp M (fun _ => P) g w) :
    (wrapNullable op p).wp M (fun r g' w' => ∃ v, r = .ok v ∧ P g' w') g w := by
  apply wp_tryCatch (M := fun _ => P)
  · apply wp_seq h
    · intro a g' w' hP
      exact hP
    · intro e g' w' hP
      exact hP
  · intro v g' w' hP
    exact ⟨v, rfl, hP⟩
  · intro e g' w' hP
    exact ⟨_, rfl, hP⟩

end IdAgents
