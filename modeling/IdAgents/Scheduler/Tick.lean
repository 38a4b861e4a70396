import IdAgents.Scheduler.Alone

namespace IdAgents
open JsText KeyedTable AtomicProgram Program World Phase

def Phase.lists : Phase → SchedulerStatus
  | .bounced => .bounced
  | _ => .inFlight

/-- The document shows the dispatch as it stands, in the status `s`. -/
def World.Shows (w : World) (s : SchedulerStatus) (doc : DispatchDoc) : Prop :=
  doc.status = s ∧ ∃ row, w.row? doc.dispatchPhid = some row ∧ rowToDoc row = doc
section
variable (policy : SchedulerPolicy)

def Phase.Writes (doc : DispatchDoc) : Phase → UpdateStmt → Prop
  | .evidence, .markFailed p _ _ | .evidence, .markDone p _ =>
    p = doc.dispatchPhid ∧ ∃ q, doc.agentQueryId = some q
  | .evidence, .markRetryExhausted d _ _ => d = doc ∧ ∃ q, doc.agentQueryId = some q
  | .evidence, .markBounced d bounce _ | .wedged, .markBounced d bounce _
  | .start, .markBounced d bounce _ => d = doc ∧ bounce.allowAutoRetry = none
  | .start, .markRetryExhausted d _ _ => d = doc
  | .stale, .markFailed p _ _ | .start, .markFailed p _ _ | .start, .acceptInFlight p _ _ =>
    p = doc.dispatchPhid
  | .bounced, .markRetryExhausted d _ _ => d = doc ∧ policy.rateLimitMaxAttempts ≤ doc.attemptCount
  | .bounced, .requeueAfterBounce p _ =>
    p = doc.dispatchPhid ∧ doc.attemptCount < policy.rateLimitMaxAttempts
  | _, _ => False

def RequeuesWedged (phase : Phase) (doc : DispatchDoc) (u : UpdateStmt) (w : World) : Prop :=
  phase = .wedged ∧ (∃ now, u = .requeueAfterBounce doc.dispatchPhid now) ∧
    ∃ row, w.row? doc.dispatchPhid = some row ∧ row.attemptCount = doc.attemptCount

/-- A phase writes on a document it shows as it stands, or requeues a wedged one. -/
def Phase.Acts (doc : DispatchDoc) (u : UpdateStmt) (w : World) (phase : Phase) : Prop :=
  (phase.Writes policy doc u ∧ w.Shows phase.lists doc) ∨ RequeuesWedged phase doc u w

/-- What a tick does alone, where `unsent` are the dispatches claimed and not started yet. -/
def TickStmt (unsent : List String) : Label × Stmt → World → Prop
  | (.on phase doc, .update u), w => phase.Acts policy doc u w
  | (.on phase doc, .sendTalk d), w =>
    phase = .start ∧ d = doc ∧ w.Shows .inFlight doc ∧ doc.dispatchPhid ∈ unsent
  | (.tick, .update (.runClaim _ p n _)), w => ∀ row, w.row? p = some row → n = row.attemptCount + 1
  | (_, c), _ => c.isQuiet

/-- A claim that wrote its row adds it to the dispatches to be started, a start takes it away. -/
def seeStart (unsent : List String) : Label × Stmt → World → List String
  | (_, .update (.runClaim call p n now)), w =>
    match Stmt.answer (.update (.runClaim call p n now)) w with
    | some (_ + 1) => p :: unsent
    | _ => unsent
  | (_, .sendTalk doc), _ => unsent.erase doc.dispatchPhid
  | _, _ => unsent

def tickMonitor : Monitor (sql.tagged Label) World (List String) where
  see := seeStart
  due := TickStmt policy

end

theorem TickStmt.cases (h : TickStmt policy unsent (l, c) w) : c.isQuiet ∨
    (∃ call p n now, c = .update (.runClaim call p n now) ∧
      ∀ row, w.row? p = some row → n = row.attemptCount + 1) ∨
    (∃ phase doc u, l = .on phase doc ∧ c = .update u ∧ phase.Acts policy doc u w) ∨
    (∃ doc, c = .sendTalk doc ∧ w.Shows .inFlight doc ∧ doc.dispatchPhid ∈ unsent) := by
  cases c with
  | insert row => cases l <;> cases h
  | update u =>
    cases l with
    | call | closeout | recovery | recover => cases h
    | on phase doc => exact .inr (.inr (.inl ⟨phase, doc, u, rfl, rfl, h⟩))
    | tick =>
      cases u with
      | runClaim call p n now => exact .inr (.inl ⟨call, p, n, now, rfl, h⟩)
      | _ => cases h
  | sendTalk d =>
    cases l with
    | on phase doc =>
      obtain ⟨rfl, rfl, hshows, hmem⟩ := h
      exact .inr (.inr (.inr ⟨d, rfl, hshows, hmem⟩))
    | _ => cases h
  | _ => exact .inl rfl

variable {phase : Phase}

theorem Phase.Writes.phid (h : phase.Writes policy doc u) : u.phid = doc.dispatchPhid := by
  unfold Writes at h
  split at h <;> simp_all [UpdateStmt.phid]

theorem tickMonitor_unmoved (policy : SchedulerPolicy) (l : Label) :
    Unmoved ((tickMonitor policy).labelled l) where
  due g c w h := by
    change TickStmt policy g (l, c) w
    cases c with
    | insert | update | sendTalk => cases h
    | _ => cases l <;> exact rfl
  see g c w h := by
    change seeStart g (l, c) w = g
    cases c with
    | insert | update | sendTalk => cases h
    | _ => rfl

theorem seeStart_update (h : ∀ call p n now, u ≠ .runClaim call p n now) :
    seeStart g (l, .update u) w = g := by
  cases u <;> first | rfl | exact absurd rfl (h _ _ _ _)

theorem Phase.Acts.not_claim (h : phase.Acts policy doc u w) : u ≠ .runClaim call p n now := by
  rintro rfl
  obtain ⟨hwrites, _⟩ | ⟨_, ⟨_, h⟩, _⟩ := h
  · cases phase <;> exact hwrites
  · cases h

theorem Phase.Writes.seeStart (h : phase.Writes policy doc u) :
    seeStart g (l, .update u) w = g := by
  apply seeStart_update
  rintro call p n now rfl
  cases phase <;> exact h

theorem World.Shows.congr {w w' : World} (h : w.Shows s doc)
    (hw : w'.row? doc.dispatchPhid = w.row? doc.dispatchPhid) : w'.Shows s doc := by
  obtain ⟨hs, row, hrow, hdoc⟩ := h
  exact ⟨hs, row, hw.trans hrow, hdoc⟩

theorem World.Shows.doc_eq {w : World} (h : w.Shows s doc)
    (hrow : w.row? doc.dispatchPhid = some row) : rowToDoc row = doc := by
  obtain ⟨_, row', hrow', hdoc⟩ := h
  obtain rfl : row' = row := Option.some.inj (hrow'.symm.trans hrow)
  exact hdoc

theorem Phase.Writes.cleared (h : phase.Writes policy doc u) (hw : w.Shows phase.lists doc) :
    Cleared ((tickMonitor policy).labelled (.on phase doc)) g w u := by
  intro w' h'
  exact ⟨.inl ⟨h, hw.congr (row?_congr h' _)⟩, h.seeStart⟩

/-- A part of a phase that handles one document: it returns, and other dispatches are spared. -/
abbrev Handles (policy : SchedulerPolicy) (phase : Phase) (doc : DispatchDoc) (p : Prog α)
    (g : List String) (w : World) : Prop :=
  p.wp ((tickMonitor policy).labelled (.on phase doc))
    (fun r g' w' => ∃ v, r = .ok v ∧ g' = g ∧ Spares doc.dispatchPhid w w') g w

theorem handles_ret (h : w'.table = w.table) :
    ∃ v, (Except.ok a : Except ReactorError α) = .ok v ∧ g = g ∧ Spares p w w' :=
  ⟨a, rfl, rfl, fun q _ => row?_congr h q⟩

section
variable {policy : SchedulerPolicy} {phase : Phase} {doc : DispatchDoc} {w w₀ : World}

theorem settles_wp {p : Prog (Option DispatchDoc)} {f : Result DispatchDoc → Prog TickReport}
    (h : SoleWrite ((tickMonitor policy).labelled (.on phase doc)) (phase.Writes policy doc) p g w)
    (hw : w.table = w₀.table) (hf : ∀ r, ∃ report, f r = .ret report) :
    ((wrapNullable op p).bind f).wp ((tickMonitor policy).labelled (.on phase doc))
      (fun r g' w' => ∃ v, r = .ok v ∧ g' = g ∧ Spares doc.dispatchPhid w₀ w') g w := by
  apply wp_then (wrapNullable_wp h)
  rintro r g' w' ⟨rfl, hleaves⟩
  obtain ⟨report, hreport⟩ := hf r
  rw [hreport]
  refine ⟨report, rfl, rfl, ?_⟩
  exact Spares.trans (fun q _ => row?_congr hw q) (hleaves.spares fun u hu => hu.phid)

variable (hw : w.Shows phase.lists doc)
include hw

theorem markFailed_sole (h : ∀ now, phase.Writes policy doc (.markFailed doc.dispatchPhid args now)) :
    SoleWrite ((tickMonitor policy).labelled (.on phase doc)) (phase.Writes policy doc)
      (markFailed doc.dispatchPhid args) g w :=
  markFailed_wp (tickMonitor_unmoved _ _) fun now => ⟨h now, (h now).cleared hw⟩

theorem markDone_sole (h : ∀ now, phase.Writes policy doc (.markDone doc.dispatchPhid now)) :
    SoleWrite ((tickMonitor policy).labelled (.on phase doc)) (phase.Writes policy doc)
      (markDone doc.dispatchPhid) g w :=
  markDone_wp (tickMonitor_unmoved _ _) fun now => ⟨h now, (h now).cleared hw⟩

theorem markBounced_sole (h : ∀ now, phase.Writes policy doc (.markBounced doc bounce now)) :
    SoleWrite ((tickMonitor policy).labelled (.on phase doc)) (phase.Writes policy doc)
      (markBounced doc.dispatchPhid bounce) g w := by
  apply markBounced_wp (tickMonitor_unmoved _ _)
  intro row now hrow _
  rw [hw.doc_eq hrow]
  exact ⟨h now, (h now).cleared hw⟩

theorem markRetryExhausted_sole
    (h : ∀ now, phase.Writes policy doc (.markRetryExhausted doc detail now)) :
    SoleWrite ((tickMonitor policy).labelled (.on phase doc)) (phase.Writes policy doc)
      (markRetryExhausted doc.dispatchPhid detail) g w := by
  apply markRetryExhausted_wp (tickMonitor_unmoved _ _)
  intro row now hrow _
  rw [hw.doc_eq hrow]
  exact ⟨h now, (h now).cleared hw⟩

theorem requeueAfterBounce_sole
    (h : ∀ now, phase.Writes policy doc (.requeueAfterBounce doc.dispatchPhid now)) :
    SoleWrite ((tickMonitor policy).labelled (.on phase doc)) (phase.Writes policy doc)
      (requeueAfterBounce doc.dispatchPhid) g w :=
  requeueAfterBounce_wp (tickMonitor_unmoved _ _) fun now => ⟨h now, (h now).cleared hw⟩

end

variable {policy : SchedulerPolicy}

theorem settles_report {p : Prog (Option DispatchDoc)}
    (h : SoleWrite ((tickMonitor policy).labelled (.on phase doc)) (phase.Writes policy doc) p g w)
    (hw : w.table = w₀.table) (yes no : TickReport) :
    ((wrapNullable op p).bind fun r => match r with
      | .ok _ => ret yes
      | .error _ => ret no).wp ((tickMonitor policy).labelled (.on phase doc))
      (fun r g' w' => ∃ v, r = .ok v ∧ g' = g ∧ Spares doc.dispatchPhid w₀ w') g w := by
  apply settles_wp h hw
  intro r
  cases r <;> exact ⟨_, rfl⟩

theorem applyEvidence_handles (hw : w.Shows .inFlight doc) :
    Handles policy .evidence doc (applyEvidence policy nowMs report doc) g w := by
  rw [applyEvidence]
  cases hlink : doc.agentQueryId.filter (· ≠ "") with
  | none => exact handles_ret rfl
  | some q =>
    have hq : ∃ q, doc.agentQueryId = some q := by
      obtain ⟨h, _⟩ := Option.filter_eq_some_iff.mp hlink
      exact ⟨q, h⟩
    apply stmt_wp (tickMonitor_unmoved _ _) (c := .getEvidence q) rfl
    intro (evidence : Except String (Option QueryEvidence)) w₁ h₁
    have hw₁ : w₁.Shows Phase.evidence.lists doc := hw.congr (World.row?_congr h₁ _)
    match evidence with
    | .error e => exact handles_ret h₁
    | .ok none => exact handles_ret h₁
    | .ok (some evidence) =>
      dsimp only
      split
      · exact settles_report (markFailed_sole hw₁ fun now => ⟨rfl, hq⟩) h₁ _ _
      split
      · exact settles_report (markDone_sole hw₁ fun now => ⟨rfl, hq⟩) h₁ _ _
      split
      · exact settles_report (markFailed_sole hw₁ fun now => ⟨rfl, hq⟩) h₁ _ _
      split
      · exact handles_ret h₁
      split
      · exact handles_ret h₁
      split
      · exact handles_ret h₁
      split
      · exact settles_wp (markRetryExhausted_sole hw₁ fun now => ⟨rfl, hq⟩) h₁ fun r => ⟨_, rfl⟩
      · exact settles_report (markBounced_sole hw₁ fun now => ⟨rfl, rfl⟩) h₁ _ _

variable {R : Except ReactorError β → γ → World → Prop} {M : Monitor sql World γ}

theorem lastActivity_wp (hM : Unmoved M) (h : ∀ a w', w'.table = w.table → (f a).wp M R g w') :
    ((lastActivity queryEvidence startedMs q).bind f).wp M R g w := by
  rw [lastActivity]
  split
  · exact h _ w rfl
  · rw [bind_eq, bind_assoc]
    apply stmt_wp hM (c := .getEvidence q) rfl
    intro (evidence : Except String (Option QueryEvidence)) w₁ h₁
    cases evidence with
    | error e => exact h _ w₁ h₁
    | ok evidence =>
      dsimp only
      split <;> exact h _ w₁ h₁

variable {opts : SchedulerServiceOptions}

theorem failStale_handles (hw : w.Shows .inFlight doc) :
    Handles opts.policy .stale doc (failStale opts nowMs report doc) g w := by
  rw [failStale]
  cases doc.agentQueryId.filter (· ≠ "") with
  | none => exact handles_ret rfl
  | some q =>
    apply lastActivity_wp (tickMonitor_unmoved _ _)
    intro activity w₁ h₁
    have hw₁ : w₁.Shows stale.lists doc := hw.congr (row?_congr h₁ _)
    dsimp only
    split
    · exact handles_ret h₁
    · exact settles_report (markFailed_sole hw₁ fun now => rfl) h₁ _ _

theorem getByPhid_client_wp (hM : Unmoved M) (h : ∀ r w', w'.table = w.table → (f r).wp M R g w') :
    ((Client.getByPhid p).bind f).wp M R g w := by
  have hread : (getByPhid p).wp M (fun r g' w' => g' = g ∧ w'.table = w.table) g w := by
    apply wp_mono (quiet_wp hM (getByPhid_allowed fun _ h => h))
    rintro r g' w' ⟨hw', _⟩
    exact hw'
  apply wp_then (wrapNullable_wp hread)
  rintro r g' w' ⟨rfl, hw'⟩
  exact h r w' hw'

theorem docIsTerminal_wp (hM : Unmoved M) (h : ∀ a w', w'.table = w.table → (f a).wp M R g w') :
    ((docIsTerminal p report).bind f).wp M R g w := by
  rw [docIsTerminal]
  rw [bind_eq, bind_assoc]
  apply getByPhid_client_wp hM
  intro r w₁ h₁
  cases r with
  | error e => exact h _ w₁ h₁
  | ok doc =>
    dsimp only
    split <;> exact h _ w₁ h₁

theorem sweepBouncedDoc_handles (hw : w.Shows .bounced doc) :
    Handles policy .bounced doc (sweepBouncedDoc policy now report doc) g w := by
  rw [sweepBouncedDoc]
  split
  · exact handles_ret rfl
  · apply docIsTerminal_wp (tickMonitor_unmoved _ _)
    intro terminal w₁ h₁
    have hw₁ : w₁.Shows bounced.lists doc := hw.congr (row?_congr h₁ _)
    dsimp only
    split
    · exact handles_ret h₁
    split
    · next hmax =>
      exact settles_wp (markRetryExhausted_sole hw₁ fun now => ⟨rfl, hmax⟩) h₁ fun r => ⟨_, rfl⟩
    · next hmax =>
      exact settles_report (requeueAfterBounce_sole hw₁ fun now => ⟨rfl, not_le.mp hmax⟩) h₁ _ _

theorem wedged_attempt (hw : w.Shows .inFlight doc) (h : Leaves (wedged.Writes policy doc) w w') :
    ∃ row, w'.row? doc.dispatchPhid = some row ∧ row.attemptCount = doc.attemptCount := by
  obtain ⟨_, row, hrow, rfl⟩ := hw
  obtain hkeep | ⟨u, hu, _, hset⟩ := h.row? hrow
  · exact ⟨row, hkeep, rfl⟩
  · refine ⟨u.set row, hset, ?_⟩
    cases u with
    | markBounced => rfl
    | _ => cases hu

theorem reapWedged_handles (hw : w.Shows .inFlight doc) :
    Handles policy .wedged doc (reapWedged policy nowMs report doc) g w := by
  rw [reapWedged]
  split
  · exact handles_ret rfl
  · exact handles_ret rfl
  · dsimp only
    split
    · exact handles_ret rfl
    · apply docIsTerminal_wp (tickMonitor_unmoved _ _)
      intro terminal w₁ h₁
      have hw₁ : w₁.Shows wedged.lists doc := hw.congr (row?_congr h₁ _)
      split
      · exact handles_ret h₁
      · apply wp_then (wrapNullable_wp (markBounced_sole hw₁ fun now => ⟨rfl, rfl⟩))
        rintro r g' w₂ ⟨rfl, hleaves⟩
        have hspares : Spares doc.dispatchPhid w w₂ :=
          Spares.trans (fun q _ => row?_congr h₁ q) (hleaves.spares fun u hu => hu.phid)
        cases r with
        | error e => exact ⟨_, rfl, rfl, hspares⟩
        | ok bounced =>
          obtain ⟨row, hrow, hattempt⟩ := wedged_attempt hw₁ hleaves
          have hclear : ∀ now, Cleared ((tickMonitor policy).labelled (.on .wedged doc)) g' w₂
              (.requeueAfterBounce doc.dispatchPhid now) := fun now w' h' =>
            ⟨.inr ⟨rfl, ⟨now, rfl⟩, row, (row?_congr h' _).trans hrow, hattempt⟩, rfl⟩
          have hrequeue : SoleWrite ((tickMonitor policy).labelled (.on .wedged doc))
              (fun u => u.phid = doc.dispatchPhid) (requeueAfterBounce doc.dispatchPhid) g' w₂ :=
            requeueAfterBounce_wp (tickMonitor_unmoved _ _) fun now => ⟨rfl, hclear now⟩
          apply wp_then (wrapNullable_wp hrequeue)
          rintro r g' w₃ ⟨rfl, hleaves'⟩
          have hspares' := hspares.trans (hleaves'.spares fun u hu => hu)
          cases r <;> exact ⟨_, rfl, rfl, hspares'⟩

theorem failStart_handles (hw : w.Shows .inFlight doc) :
    Handles policy .start doc (failStart doc classified report) g w := by
  have hw₀ : w.Shows start.lists doc := hw
  rw [failStart]
  split
  · apply nowFn_wp (tickMonitor_unmoved _ _)
    intro now w₁ h₁
    have hw₁ : w₁.Shows start.lists doc := hw.congr (row?_congr h₁ _)
    dsimp only
    split
    · split
      · apply stmt_wp (tickMonitor_unmoved _ _) (c := .fallbackLane doc) rfl
        intro (fallback : Option (Provider × Runtime)) w₂ h₂
        have hw₂ : w₂.Shows start.lists doc := hw₁.congr (row?_congr h₂ _)
        exact settles_report (markBounced_sole hw₂ fun now => ⟨rfl, rfl⟩) (h₂.trans h₁) _ _
      · exact settles_report (markBounced_sole hw₁ fun now => ⟨rfl, rfl⟩) h₁ _ _
    · split
      · exact settles_report (markRetryExhausted_sole hw₁ fun now => rfl) h₁ _ _
      · exact settles_report (markFailed_sole hw₁ fun now => rfl) h₁ _ _
  · exact settles_report (markFailed_sole hw₀ fun now => rfl) rfl _ _

theorem startOne_handles (hw : w.Shows .inFlight doc) (hg : doc.dispatchPhid ∈ g) :
    (startOne provider report doc).wp ((tickMonitor policy).labelled (.on .start doc))
      (fun r g' w' => ∃ v, r = .ok v ∧ g' = g.erase doc.dispatchPhid ∧
        Spares doc.dispatchPhid w w') g w := by
  have hdue : ((tickMonitor policy).labelled (.on .start doc)).due g (.sendTalk doc) w :=
    ⟨rfl, rfl, hw, hg⟩
  apply sendTalk_wp hdue
  intro result w₁ h₁
  have hw₁ : w₁.Shows .inFlight doc := hw.congr (row?_congr h₁ _)
  split
  · apply wp_mono (failStart_handles hw₁)
    rintro r g' w' ⟨v, hr, rfl, hspares⟩
    exact ⟨v, hr, rfl, Spares.trans (fun q _ => row?_congr h₁ q) hspares⟩
  · split
    · exact handles_ret h₁
    · obtain ⟨hs, row, hrow, hdoc⟩ := id hw₁
      have hrowStatus : row.status = .inFlight := by
        rw [← hs, ← hdoc]
        rfl
      apply settles_report (recordAgentStart_wp (tickMonitor_unmoved _ _) hrow hrowStatus _) h₁
      intro now
      have hwrite : ∀ q, start.Writes policy doc (.acceptInFlight doc.dispatchPhid q now) :=
        fun _ => rfl
      exact ⟨hwrite _, (hwrite _).cleared hw₁⟩
  · exact handles_ret h₁

/-- What a loop knows of the documents it has still to handle: each shows its dispatch as it
stands, and no dispatch is among them twice. -/
structure Worklist (s : SchedulerStatus) (K : DispatchDoc → γ → Prop) (docs : List DispatchDoc)
    (g : γ) (w : World) : Prop where
  shows_ : ∀ doc ∈ docs, w.Shows s doc
  known : ∀ doc ∈ docs, K doc g
  nodup : (docs.map (·.dispatchPhid)).Nodup

theorem Worklist.tail {K : DispatchDoc → γ → Prop} (h : Worklist s K (doc :: docs) g w)
    (hw : Spares doc.dispatchPhid w w')
    (hK : ∀ d ∈ docs, d.dispatchPhid ≠ doc.dispatchPhid → K d g → K d g') :
    Worklist s K docs g' w' := by
  obtain ⟨hshows, hknown, hnodup⟩ := h
  rw [List.map_cons, List.nodup_cons] at hnodup
  have hne : ∀ d ∈ docs, d.dispatchPhid ≠ doc.dispatchPhid := by
    intro d hd he
    apply hnodup.1
    rw [← he]
    exact List.mem_map_of_mem hd
  refine ⟨fun d hd => ?_, fun d hd => ?_, hnodup.2⟩
  · exact (hshows d (List.mem_cons_of_mem _ hd)).congr (hw _ (hne d hd))
  · exact hK d hd (hne d hd) (hknown d (List.mem_cons_of_mem _ hd))

theorem worklist_wp {M : Monitor (sql.tagged Label) World γ} {label : DispatchDoc → Label}
    {body : ρ → DispatchDoc → Prog ρ} {K : DispatchDoc → γ → Prop} (next : γ → DispatchDoc → γ)
    (acc : ρ) (h : Worklist s K docs g w)
    (hK : ∀ d doc g, d.dispatchPhid ≠ doc.dispatchPhid → K d g → K d (next g doc))
    (hbody : ∀ report doc g w, w.Shows s doc → K doc g →
      (body report doc).wp (M.labelled (label doc))
        (fun r g' w' => ∃ v, r = .ok v ∧ g' = next g doc ∧ Spares doc.dispatchPhid w w') g w) :
    (fold docs acc fun report doc => (body report doc).tag (label doc)).wp
      M (fun r _ _ => ∃ v, r = .ok v ∧ True) g w := by
  apply wp_fold (J := Worklist s K) acc h
  · intro report doc docs g w hJ
    rw [wp_tag]
    apply wp_mono (hbody report doc g w (hJ.shows_ doc (by simp)) (hJ.known doc (by simp)))
    rintro r g' w' ⟨v, rfl, rfl, hspares⟩
    exact ⟨v, rfl, hJ.tail hspares fun d _ hne hd => hK d doc g hne hd⟩
  · intro report g w _
    exact ⟨report, rfl, trivial⟩

theorem orderBy_perm (le : Row → Row → Bool) (rows : List Row) : (orderBy le rows).Perm rows :=
  List.perm_insertionSort _ rows

theorem World.nodup_phids (w : World) : (w.table.rows.map (·.dispatchPhid)).Nodup :=
  w.table.key_nodup

theorem listed_worklist {w w' : World} {p : Row → Bool} {K : DispatchDoc → γ → Prop} (le : Row → Row → Bool)
    (hw : w'.table = w.table) (hs : ∀ row, p row → row.status = s) (hK : ∀ doc g, K doc g) :
    Worklist s K ((orderBy le (w.table.rows.filter p)).map rowToDoc) g w' where
  shows_ doc hdoc := by
    obtain ⟨row, hrow, rfl⟩ := List.mem_map.mp hdoc
    obtain ⟨hmem, hp⟩ := List.mem_filter.mp ((orderBy_perm le _).subset hrow)
    exact ⟨hs row hp, row, (row?_congr hw _).trans (row?_of_mem hmem), rfl⟩
  known doc _ := hK doc g
  nodup := by
    rw [List.map_map]
    change ((orderBy le (w.table.rows.filter p)).map (·.dispatchPhid)).Nodup
    rw [((orderBy_perm le _).map _).nodup_iff]
    exact (w.nodup_phids).sublist (List.filter_sublist.map _)

theorem listByStatus_wp (hM : Unmoved M) : (wrap op (listByStatus s le provider runtime)).wp M
      (fun r _ w' => ∃ v, r = .ok v ∧ ∀ docs, v = .ok docs → ∀ g : γ,
        Worklist s (fun _ _ => True) docs g w') g w := by
  have hlist : (listByStatus s le provider runtime).wp M (fun r _ w' =>
      ∀ docs, r = .ok docs → ∀ g : γ, Worklist s (fun _ _ => True) docs g w') g w := by
    apply selectRows_wp hM
    rintro w' hw' docs hdocs g
    cases hdocs
    apply listed_worklist le hw'
    · intro row hrow
      simp only [Bool.and_eq_true, decide_eq_true_eq] at hrow
      exact hrow.1
    · intro _ _
      trivial
  apply wrap_wp
  apply wp_mono hlist
  intro r g' w' h
  cases r with
  | ok docs => exact fun docs' hdocs => by cases hdocs; exact h docs rfl
  | error e => exact fun docs' hdocs => by cases hdocs

theorem sweep_wp (phase : Phase)
    {body : Instant → TickReport → DispatchDoc → Prog TickReport} {le : Row → Row → Bool}
    (hbody : ∀ now report doc g w, w.Shows phase.lists doc →
      Handles policy phase doc (body now report doc) g w) (report : TickReport) :
    (do match ← (wrap op (listByStatus phase.lists le provider runtime)).tag Label.tick with
        | .error _ => return report
        | .ok docs =>
          let now ← nowFn.tag Label.tick
          fold docs report fun report doc =>
            (body now report doc).tag (Label.on phase doc) : Labelled TickReport).wp
      (tickMonitor policy) (fun r _ _ => ∃ v, r = .ok v ∧ True) g w := by
  apply wp_then (wp_tag.mpr (listByStatus_wp (tickMonitor_unmoved _ _)))
  intro v g' w' hlisted
  cases v with
  | error e => exact ⟨report, rfl, trivial⟩
  | ok docs =>
    have hwork : ∀ g : List String, Worklist phase.lists (fun _ _ => True) docs g w' := hlisted docs rfl
    apply wp_then (N := fun _ _ w'' => w''.table = w'.table)
    · exact ⟨rfl, _, rfl, rfl⟩
    · intro now g'' w'' hw''
      have hwork' : Worklist phase.lists (fun _ _ => True) docs g'' w'' :=
        ⟨fun doc hdoc => ((hwork g'').shows_ doc hdoc).congr (row?_congr hw'' _),
          fun _ _ => trivial, (hwork g'').nodup⟩
      exact worklist_wp (fun g _ => g) report hwork' (fun _ _ _ _ h => h)
        fun report doc g w hw _ => hbody now report doc g w hw

abbrev Claimed (docs : List DispatchDoc) (g : List String) (w : World) : Prop :=
  Worklist .inFlight (fun doc g => doc.dispatchPhid ∈ g) docs g w

/-- What the claiming loop keeps: the rows to come are as they were read, the claimed are in
flight and wait, and the two do not overlap. -/
structure ClaimLoop (rows : List Row) (claimed : List DispatchDoc) (g : List String) (w : World) :
    Prop where
  rows_ : ∀ row ∈ rows, w.row? row.dispatchPhid = some row
  nodup : (rows.map (·.dispatchPhid)).Nodup
  claimed_ : Claimed claimed g w
  apart : ∀ row ∈ rows, ∀ doc ∈ claimed, doc.dispatchPhid ≠ row.dispatchPhid

theorem ClaimLoop.congr (h : ClaimLoop rows claimed g w) (hw : ∀ q, w'.row? q = w.row? q) :
    ClaimLoop rows claimed g w' where
  rows_ r hr := (hw _).trans (h.rows_ r hr)
  nodup := h.nodup
  claimed_ := ⟨fun d hd => (h.claimed_.shows_ d hd).congr (hw _), h.claimed_.known,
    h.claimed_.nodup⟩
  apart := h.apart

theorem ClaimLoop.skip (h : ClaimLoop (row :: rows) claimed g w)
    (hw : ∀ q, w'.row? q = w.row? q) : ClaimLoop rows claimed g w' where
  rows_ r hr := (h.congr hw).rows_ r (List.mem_cons_of_mem _ hr)
  nodup := (List.nodup_cons.mp h.nodup).2
  claimed_ := (h.congr hw).claimed_
  apart r hr := h.apart r (List.mem_cons_of_mem _ hr)

theorem ClaimLoop.claim (h : ClaimLoop (row :: rows) claimed g w)
    (hspares : Spares row.dispatchPhid w w') (hrow : w'.row? row.dispatchPhid = some row')
    (hs : row'.status = .inFlight) :
    ClaimLoop rows (claimed ++ [rowToDoc row']) (row.dispatchPhid :: g) w' := by
  have hphid : row'.dispatchPhid = row.dispatchPhid := (row?_mem hrow).2
  obtain ⟨hhead, htail⟩ := List.nodup_cons.mp h.nodup
  have hne : ∀ r ∈ rows, r.dispatchPhid ≠ row.dispatchPhid := by
    intro r hr he
    exact hhead (List.mem_map.mpr ⟨r, hr, he⟩)
  have hold : ∀ d ∈ claimed, d.dispatchPhid ≠ row.dispatchPhid := h.apart row (by simp)
  refine ⟨fun r hr => ?_, htail, ⟨fun d hd => ?_, fun d hd => ?_, ?_⟩, fun r hr d hd => ?_⟩
  · exact (hspares _ (hne r hr)).trans (h.rows_ r (List.mem_cons_of_mem _ hr))
  · obtain hd | hd := List.mem_append.mp hd
    · exact (h.claimed_.shows_ d hd).congr (hspares _ (hold d hd))
    · obtain rfl := List.mem_singleton.mp hd
      exact ⟨hs, row', (congrArg w'.row? hphid).trans hrow, rfl⟩
  · obtain hd | hd := List.mem_append.mp hd
    · exact List.mem_cons_of_mem _ (h.claimed_.known d hd)
    · obtain rfl := List.mem_singleton.mp hd
      exact List.mem_cons.mpr (.inl hphid)
  · rw [List.map_append, List.nodup_append]
    refine ⟨h.claimed_.nodup, List.nodup_singleton _, fun a ha b hb => ?_⟩
    obtain ⟨d, hd, rfl⟩ := List.mem_map.mp ha
    obtain rfl := List.mem_singleton.mp hb
    exact fun he => hold d hd (he.trans hphid)
  · obtain hd | hd := List.mem_append.mp hd
    · exact h.apart r (List.mem_cons_of_mem _ hr) d hd
    · obtain rfl := List.mem_singleton.mp hd
      exact fun he => hne r hr (he.symm.trans hphid)

theorem row?_of_rowCount_zero (h : w.table.rowCount u.toUpdate = 0) (q : String) :
    row? (Stmt.effect (.update u) w) q = w.row? q := by
  cases hq : w.row? q with
  | none =>
    have hnone := Table.get?_isSome_update w.table u.toUpdate q
    change ((row? (Stmt.effect (.update u) w) q).isSome) = (w.row? q).isSome at hnone
    rw [hq] at hnone
    simpa using hnone
  | some row =>
    obtain hkeep | ⟨hat, hg, _⟩ := Table.get?_update_cases u.toUpdate hq
    · exact hkeep
    · have hfalse := Table.rowCount_eq_zero.mp h row (hat ▸ hq)
      rw [hfalse] at hg
      cases hg

theorem tickMonitor_see : ((tickMonitor policy).labelled l).see g c w = seeStart g (l, c) w := rfl

theorem seeStart_claim (h : Stmt.answer (.update (.runClaim call p n now)) w = some k) :
    seeStart g (l, .update (.runClaim call p n now)) w = if k = 0 then g else p :: g := by
  simp only [seeStart, h]
  cases k <;> rfl

theorem update_spares : Spares u.phid w (Stmt.effect (.update u) w) :=
  fun _ hq => Table.get?_update_ne (Ne.symm hq)

theorem claimRows_wp (rows : List Row) (claimed : List DispatchDoc)
    (h : ClaimLoop rows claimed g w) :
    (claimRows filter inFlight now rows claimed).wp ((tickMonitor policy).labelled .tick)
      (fun r g' w' => ∀ docs, r = .ok docs → Claimed docs g' w') g w := by
  induction rows generalizing claimed g w with
  | nil =>
    intro docs hdocs
    cases hdocs
    exact h.claimed_
  | cons row rows ih =>
    have hrow := h.rows_ row (by simp)
    have hdue : ∀ call, ((tickMonitor policy).labelled .tick).due g
        (.update (.runClaim call row.dispatchPhid (row.attemptCount + 1) now)) w := by
      intro call r hr
      rw [Option.some.inj (hr.symm.trans hrow)]
    apply execUpdate_wp (hdue _)
    · intro hrefused hanswer
      rw [tickMonitor_see, seeStart_claim hanswer]
      split
      · next hzero => exact ih claimed (h.skip fun q => row?_of_rowCount_zero hzero q)
      · next hcount =>
        obtain ⟨row₂, hrow₂, hguard⟩ := UpdateStmt.exists_of_rowCount hcount
        obtain rfl : row₂ = row := Option.some.inj (hrow₂.symm.trans hrow)
        have hset : row? _ row₂.dispatchPhid = _ :=
          UpdateStmt.row?_effect_self hrow hguard hrefused
        apply getByPhid_wp (tickMonitor_unmoved _ _)
        intro w' hw'
        rw [hset]
        have hspares := update_spares (w := w) (u := .runClaim ⟨filter, inFlight, claimed.length⟩
          row₂.dispatchPhid (row₂.attemptCount + 1) now)
        exact ih _ ((h.claim hspares hset rfl).congr fun q => row?_congr hw' q)
    · intro _ _ docs hdocs
      cases hdocs

theorem claimEligible_wp :
    (claimEligible filter inFlight limit now).wp ((tickMonitor policy).labelled .tick)
      (fun r g' w' => ∀ docs, r = .ok docs → Claimed docs g' w') g w := by
  rw [claimEligible]
  split
  · intro docs hdocs
    cases hdocs
    exact ⟨by simp, by simp, by simp⟩
  · apply selectRows_wp (tickMonitor_unmoved _ _)
    intro w₁ h₁
    have hperm := orderBy_perm claimOrder (w.table.rows.filter (eligible filter now))
    have hlimit := limitTo_sublist limit (orderBy claimOrder (w.table.rows.filter (eligible filter now)))
    apply wp_seq (quiet_wp (tickMonitor_unmoved _ _)
      (graphFilteredRows_sublist (fun _ h => h) _))
    · rintro ready g' w₂ ⟨⟨rfl, h₂⟩, hready⟩
      have hsub := (hready ready rfl).trans hlimit
      have htable : w₂.table = w.table := h₂.trans h₁
      apply claimRows_wp
      refine ⟨fun row hrow => ?_, ?_, ⟨by simp, by simp, by simp⟩, by simp⟩
      · rw [row?_congr htable]
        exact row?_of_mem (List.mem_of_mem_filter (hperm.subset (hsub.subset hrow)))
      · have hnodup : ((orderBy claimOrder (w.table.rows.filter (eligible filter now))).map
            (·.dispatchPhid)).Nodup := by
          rw [(hperm.map _).nodup_iff]
          exact (w.nodup_phids).sublist (List.filter_sublist.map _)
        exact hnodup.sublist (hsub.map _)
    · rintro e g' w₂ _ docs hdocs
      cases hdocs

theorem runClaim_wp : (runClaim filter).wp ((tickMonitor policy).labelled .tick)
      (fun r g' w' => ∀ docs, r = .ok docs → Claimed docs g' w') g w := by
  have hnow : (filter.now.elim nowFn .ret).Meets (fun c : Stmt => c.isQuiet) fun _ => True := by
    cases filter.now with
    | none => exact nowFn_allowed fun _ h => h
    | some now => trivial
  apply wp_seq (quiet_wp (tickMonitor_unmoved _ _) hnow)
  · rintro now g' w₁ ⟨⟨rfl, _⟩, _⟩
    dsimp only
    cases filter.maxInFlight with
    | none => exact claimEligible_wp
    | some m =>
      apply selectRows_wp (tickMonitor_unmoved _ _)
      intro w₂ _
      exact claimEligible_wp
  · rintro e g' w₁ _ docs hdocs
    cases hdocs

theorem computeExcludedAgents_wp (hM : Unmoved M)
    (h : ∀ a w', w'.table = w.table → (f a).wp M R g w') :
    ((computeExcludedAgents present gate).bind f).wp M R g w := by
  rw [computeExcludedAgents]
  split
  · exact h _ w rfl
  · rw [bind_eq, bind_assoc]
    apply stmt_wp hM (c := .excludedAgents gate) rfl
    intro (agents : Except String (List String)) w₁ h₁
    cases agents <;> exact h _ w₁ h₁

theorem wrap_quiet_wp (hM : Unmoved M)
    (hp : Allowed (fun c : Stmt => c.isQuiet) p) (h : ∀ r w', (f r).wp M R g w') :
    ((wrap op p).bind f).wp M R g w := by
  have hquiet : p.wp M (fun _ g' _ => g' = g) g w := by
    apply wp_mono (quiet_wp hM hp)
    rintro r g' w' ⟨⟨hg, _⟩, _⟩
    exact hg
  have hcall : (wrap op p).wp M (fun r g' _ => ∃ v, r = .ok v ∧ g' = g) g w := by
    apply wrap_wp (R := fun _ g' _ => g' = g)
    apply wp_mono hquiet
    intro r g' w' hg
    cases r <;> exact hg
  apply wp_then hcall
  rintro r g' w' rfl
  exact h r w'

theorem getExcludedAgents_wp (hM : Unmoved M)
    (h : ∀ a w', (f a).wp M R g w') : ((getExcludedAgents opts state).bind f).wp M R g w := by
  rw [getExcludedAgents]
  cases state.excludeCache with
  | some agents => exact h _ w
  | none =>
    dsimp only
    rw [bind_eq, bind_assoc]
    apply computeExcludedAgents_wp hM
    intro usage w₁ _
    rw [bind_eq, bind_assoc]
    apply computeExcludedAgents_wp hM
    intro admission w₂ _
    exact h _ w₂

theorem countInFlight_wp (hM : Unmoved M) (h : ∀ n w', (f n).wp M R g w') :
    ((countInFlight provider).bind f).wp M R g w := by
  rw [countInFlight]
  rw [bind_eq, bind_assoc]
  apply wrap_quiet_wp hM (listByStatus_allowed fun _ h => h)
  intro inflight w₁
  cases inflight <;> exact h _ w₁

theorem laneFilter_wp (hM : Unmoved M) :
    (laneFilter opts provider state).wp M (fun r _ _ => ∃ v, r = .ok v ∧ True) g w := by
  apply countInFlight_wp hM
  intro currentInFlight w₁
  apply wrap_quiet_wp hM (snapshot_allowed fun _ h => h)
  intro snap w₂
  cases snap with
  | error e => exact ⟨_, rfl, trivial⟩
  | ok snap =>
    dsimp only
    split
    · exact ⟨_, rfl, trivial⟩
    · apply getExcludedAgents_wp hM
      intro agents w₃
      apply nowFn_wp hM
      intro now w₄ _
      exact ⟨_, rfl, trivial⟩

theorem claimAndStartLane_wp : (claimAndStartLane opts provider state).wp (tickMonitor opts.policy)
      (fun r _ _ => ∃ v, r = .ok v ∧ True) g w := by
  apply wp_then (wp_tag.mpr (laneFilter_wp (tickMonitor_unmoved _ _)))
  rintro ⟨filter, state⟩ g w _
  cases filter with
  | none => exact ⟨state, rfl, trivial⟩
  | some filter =>
    have hclaim : (Client.claimForStart filter).wp ((tickMonitor opts.policy).labelled .tick)
        (fun r g' w' => ∃ v, r = .ok v ∧ ∀ docs, v = .ok docs → Claimed docs g' w') g w := by
      apply wrap_wp
      apply wp_mono runClaim_wp
      intro r g' w' h
      cases r with
      | ok docs => exact fun docs' hdocs => by cases hdocs; exact h docs rfl
      | error e => exact fun docs' hdocs => by cases hdocs
    apply wp_then (wp_tag.mpr hclaim)
    intro v g' w' hclaimed
    cases v with
    | error e => exact ⟨_, rfl, trivial⟩
    | ok docs =>
      apply wp_then (worklist_wp
        (fun g doc => g.erase doc.dispatchPhid) _ (hclaimed docs rfl) _
        fun report doc g w hw hg => startOne_handles hw hg)
      · intro report g'' w'' _
        exact ⟨_, rfl, trivial⟩
      · intro d doc g hne hd
        exact (List.mem_erase_of_ne hne).mpr hd

theorem applyQueryEvidenceToInFlight_wp :
    (applyQueryEvidenceToInFlight opts provider report).wp (tickMonitor opts.policy)
      (fun r _ _ => ∃ v, r = .ok v ∧ True) g w := by
  rw [applyQueryEvidenceToInFlight]
  split
  · exact ⟨_, rfl, trivial⟩
  · exact sweep_wp .evidence (fun _ _ _ _ _ hw => applyEvidence_handles hw) report

theorem tickLane_wp : (tickLane opts state provider).wp (tickMonitor opts.policy)
      (fun r _ _ => ∃ v, r = .ok v ∧ True) g w := by
  apply wp_then applyQueryEvidenceToInFlight_wp
  intro report g w _
  apply wp_then (sweep_wp .wedged
    (fun _ _ _ _ _ hw => reapWedged_handles hw) report)
  intro report g w _
  apply wp_then (sweep_wp .stale
    (fun _ _ _ _ _ hw => failStale_handles hw) report)
  intro report g w _
  apply wp_then (sweep_wp .bounced
    (fun _ _ _ _ _ hw => sweepBouncedDoc_handles hw) report)
  intro report g w _
  exact claimAndStartLane_wp

theorem tick_wp (opts : SchedulerServiceOptions) :
    (tick opts).wp (tickMonitor opts.policy) (fun r _ _ => ∃ v, r = .ok v ∧ True) g w := by
  apply wp_then (N := fun _ _ _ => True)
  · apply wp_fold (J := fun _ _ _ => True) _ trivial
    · intro state provider lanes g w _
      exact tickLane_wp
    · intro state g w _
      exact ⟨state, rfl, trivial⟩
  · intro state g w _
    exact ⟨_, rfl, trivial⟩

end IdAgents
