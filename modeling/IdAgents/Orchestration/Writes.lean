import IdAgents.Orchestration.Storage

namespace IdAgents.Orchestration
open JsText JsMap AtomicProgram

/-- The statement is no insert, and every UPDATE is `Q`. -/
def Stmt.Updates (Q : UpdateStmt → Prop) : Stmt → Prop
  | .insert _ => False
  | .update u => Q u
  | _ => True

def Stmt.Quiet (Q : UpdateStmt → Prop) : Stmt → Prop
  | .insert _ | .enqueuePayload _ | .scheduler _ => False
  | .update u => Q u
  | _ => True

variable {Q : UpdateStmt → Prop}

theorem Stmt.Quiet.updates {R : UpdateStmt → Prop} {c : Stmt} (h : c.Quiet Q)
    (hQ : ∀ u, Q u → R u) : c.Updates R := by
  cases c with
  | update u => exact hQ u h
  | insert row => exact h.elim
  | _ => trivial

theorem returned_meets {Q : Stmt → Prop} (r : Except String α) :
    (returned r).Meets Q fun _ => True := by
  cases r with
  | ok a => trivial
  | error e => trivial

theorem execUpdate_meets {Q : Stmt → Prop} {u : UpdateStmt} (h : Q (.update u)) :
    (execUpdate u).Meets Q fun _ => True :=
  ⟨h, fun r => returned_meets r⟩

theorem insertFleshLog_meets {Q : Stmt → Prop} {itemId : String} (h : Q (.insertFleshLog itemId)) :
    (insertFleshLog itemId).Meets Q fun _ => True :=
  ⟨h, fun r => returned_meets r⟩

theorem getBacklogItem_meets {Q : Stmt → Prop} (itemId : String) (h : Q .select) :
    (getBacklogItem itemId).Meets Q fun item => ∀ row, item = some row → row.itemId = itemId := by
  refine ⟨h, fun rows row hrow => ?_⟩
  simpa using List.find?_some hrow

theorem recordFleshOutcome_meets (outcome : FleshOutcome)
    (h : ∀ item now, item.itemId = outcome.itemId → isFleshable item.readinessState →
      Q (.recordFleshOutcome item outcome now)) :
    (recordFleshOutcome outcome).Meets (Stmt.Quiet Q) fun _ => True := by
  apply (getBacklogItem_meets outcome.itemId trivial).bind
  intro item hitem
  cases item with
  | none => trivial
  | some item =>
    by_cases hstate : isFleshable item.readinessState
    · simp only [hstate, Bool.not_true, Bool.false_eq_true, if_false]
      refine ⟨trivial, fun now => ?_⟩
      apply (execUpdate_meets (h item now (hitem item rfl) hstate)).bind
      intro _ _
      exact (getBacklogItem_meets outcome.itemId trivial).mono (fun _ hc => hc) fun _ _ => trivial
    · simp only [hstate, Bool.not_false, if_true]
      trivial

theorem appendDecisions_meets {Q : Stmt → Prop} (h : Q .appendDecisions) :
    appendDecisions.Meets Q fun _ => True :=
  ⟨h, fun r => returned_meets r⟩

theorem promoteToReady_meets (itemId approvedBy : String) (retrySafe : Bool)
    (h : ∀ item now, item.itemId = itemId → isFleshable item.readinessState →
      promotionRefusal item retrySafe = none → Q (.promoteToReady item approvedBy retrySafe now)) :
    (promoteToReady itemId approvedBy retrySafe).Meets (Stmt.Quiet Q) fun _ => True := by
  apply (getBacklogItem_meets itemId trivial).bind
  intro item hitem
  cases item with
  | none => trivial
  | some item =>
    cases hrefusal : promotionRefusal item retrySafe with
    | some reason =>
      simp only [hrefusal]
      trivial
    | none =>
      have hstate : isFleshable item.readinessState := by
        cases hstate : isFleshable item.readinessState with
        | true => rfl
        | false => simp [promotionRefusal, hstate] at hrefusal
      have hwrite : (writePromotion item approvedBy retrySafe).Meets (Stmt.Quiet Q)
          fun _ => True := by
        refine ⟨trivial, fun now => ?_⟩
        apply (execUpdate_meets (h item now (hitem item rfl) hstate hrefusal)).bind
        intro _ _
        apply (getBacklogItem_meets item.itemId trivial).bind
        intro _ _
        trivial
      simp only [hrefusal]
      cases given item.logicalKey with
      | none => exact hwrite
      | some key =>
        refine ⟨trivial, fun (rows : List BacklogRow) => ?_⟩
        have hread : (Program.ret rows : Prog (List BacklogRow)).Meets (Stmt.Quiet Q)
            fun _ => True := trivial
        apply hread.bind
        intro rows _
        dsimp only
        cases peerRefusal item (logicalPeer rows key) with
        | some reason => trivial
        | none => exact hwrite

theorem reconcileRow_meets (states : Dict String ReadinessState)
    (dryRun : Bool) (actor : String) (transitions : List DependencyTransition) (item : BacklogRow)
    (h : ∀ toState dependencies now, Q (.reconcileDependencies item toState dependencies actor now)) :
    (reconcileRow states dryRun actor transitions item).Meets (Stmt.Quiet Q) fun _ => True := by
  rw [reconcileRow]
  cases dependencyTransition states item with
  | none => trivial
  | some transition =>
    cases dryRun with
    | true => trivial
    | false =>
      refine ⟨trivial, fun now => ?_⟩
      apply (execUpdate_meets (h transition.toState transition.dependenciesAfter now)).bind
      intro rowCount _
      split
      · trivial
      · apply (appendDecisions_meets trivial).bind
        intro _ _
        trivial

theorem reconcileTerminalBacklogDependencies_meets (limit : Int) (dryRun : Bool) (actor : String)
    (h : ∀ item toState dependencies now,
      Q (.reconcileDependencies item toState dependencies actor now)) :
    (reconcileTerminalBacklogDependencies limit dryRun actor).Meets (Stmt.Quiet Q)
      fun _ => True := by
  rw [reconcileTerminalBacklogDependencies]
  dsimp only
  split
  · trivial
  · refine ⟨trivial, fun rows => ⟨trivial, fun rows' => ?_⟩⟩
    apply Program.Meets.fold
    intro transitions item _
    exact reconcileRow_meets _ dryRun actor transitions item (h item)

/-- The statement inserts no row but one that is `P`. -/
def Stmt.InsertsOnly (P : BacklogRow → Prop) : Stmt → Prop
  | .insert row => P row
  | _ => True

variable {P : BacklogRow → Prop}

theorem Stmt.Quiet.insertsOnly {c : Stmt} (h : c.Quiet Q) : c.InsertsOnly P := by
  cases c with
  | insert row => exact h.elim
  | _ => trivial

theorem insertBacklogItem_meets (input : NewBacklogItem)
    (h : ∀ itemId now, P (insertedRow input itemId now)) :
    (insertBacklogItem input).Meets (Stmt.InsertsOnly P) fun _ => True := by
  refine ⟨trivial, fun now => ⟨trivial, fun uuid => ⟨h _ now, fun r => ?_⟩⟩⟩
  apply (returned_meets r).bind
  intro _ _
  apply (getBacklogItem_meets _ trivial).bind
  intro got _
  cases got with
  | none => trivial
  | some item => trivial

theorem insertBacklogItemIfAbsent_meets (input : NewBacklogItem)
    (h : ∀ itemId now, P (insertedRow input itemId now)) :
    (insertBacklogItemIfAbsentByLogicalKey input).Meets (Stmt.InsertsOnly P) fun _ => True := by
  have hinsert := (insertBacklogItem_meets input h).bind
    (f := fun item => Program.ret (item, true)) (T := fun _ => True) fun _ _ => trivial
  rw [insertBacklogItemIfAbsentByLogicalKey]
  cases lookupKey input with
  | none => exact hinsert
  | some key =>
    refine ⟨trivial, fun (rows : List BacklogRow) => ?_⟩
    have hread : (Program.ret rows : Prog (List BacklogRow)).Meets (Stmt.InsertsOnly P)
        fun _ => True := trivial
    apply hread.bind
    intro rows _
    cases logicalPeer rows key with
    | some existing => trivial
    | none => exact hinsert

end IdAgents.Orchestration
