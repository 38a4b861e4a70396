import IdAgents.Orchestration.FleshGate

namespace IdAgents.Orchestration
open JsText JsMap KeyedTable AtomicProgram List Option Program

inductive DependencyCall where
  | clear (itemId dependency actor reason : String)
  | reconcile (limit : Int) (dryRun : Bool) (actor : String)
  | edit (itemId : String) (patch : BacklogPatch) (updatedBy : Option (Option String))

def DependencyCall.prog : DependencyCall → Prog Unit
  | clear itemId dependency actor reason =>
    (clearBacklogDependencyBlocker itemId dependency actor reason).bind fun _ => .ret ()
  | reconcile limit dryRun actor =>
    (reconcileTerminalBacklogDependencies limit dryRun actor).bind fun _ => .ret ()
  | edit itemId patch updatedBy =>
    (updateBacklogFields itemId patch updatedBy).bind fun _ => .ret ()

def DependencyCall.isEdit : DependencyCall → Bool
  | edit .. => true
  | _ => false

structure DependencyRun where
  calls : List DependencyCall
  schedule : List Nat
  start : World

namespace DependencyRun

def threads (run : DependencyRun) : List (Prog Unit) := run.calls.map DependencyCall.prog

def events (run : DependencyRun) : List (Nat × Event sql World) :=
  interleaveEvents run.schedule run.threads run.start

end DependencyRun

def hasLanded (rows : List BacklogRow) (dependency : String) : Bool :=
  (upstreamOf rows dependency).any (isLanded ·.readinessState) ||
    ((dependencyIndex (·.readinessState) rows).get? dependency).any isLanded

def UpdateStmt.removesFrom : UpdateStmt → Option BacklogRow
  | reconcileDependencies item .. | clearDependencyBlocker item .. => some item
  | _ => none

structure DependencyRun.KeepsDependencies (run : DependencyRun) : Prop where
  emptied : ∀ i e, (i, e) ∈ run.events → ∀ itemId row row', e.before.row? itemId = some row →
    World.row? e.after itemId = some row' → row.readinessState = .blockedDependency →
    row'.readinessState = .ready → row'.dependencies = []
  landed : ∀ es i e fs, run.events = es ++ (i, e) :: fs →
    ∀ call, run.calls[i]? = some call → call.isEdit = false →
    ∀ itemId row row', e.before.row? itemId = some row → World.row? e.after itemId = some row' →
    ∀ d ∈ row.dependencies, d ∉ row'.dependencies →
    ∃ f, (i, f) ∈ es ∧ f.stmt = .select ∧ hasLanded f.before.backlog.rows d
  added : ∀ i e, (i, e) ∈ run.events → ∀ u item, e.stmt = .update u → u.removesFrom = some item →
    ∀ row row', e.before.row? u.itemId = some row → World.row? e.after u.itemId = some row' →
    ∀ d ∈ row.dependencies, d ∉ item.dependencies → d ∈ row'.dependencies

def isExact (e : Event sql World) : Bool :=
  match e.stmt with
  | .update (.reconcileDependencies item _ _ _ _) => e.before.env.fails e.before.step ||
      (e.before.row? item.itemId).all fun row => row.readinessState ≠ .blockedDependency ||
        row.dependencies.all item.dependencies.contains
  | .update (.clearDependencyBlocker item dependencies _ _ _) =>
      e.before.env.fails e.before.step ||
      (e.before.row? item.itemId).all fun row => row.dependencies.all item.dependencies.contains &&
        (row.readinessState ≠ .blockedDependency || dependencies.isEmpty)
  | _ => true

def DependencyRun.Exact (run : DependencyRun) : Prop := ∀ x ∈ run.events, isExact x.2

instance (run : DependencyRun) : Decidable run.Exact :=
  inferInstanceAs (Decidable (∀ x ∈ run.events, isExact x.2 = true))

structure Reader where
  isEdit : Bool
  reads : List (List BacklogRow)

def Reader.Drops (g : Reader) (item : BacklogRow) (dependencies : List String) : Prop :=
  dependencies ⊆ item.dependencies ∧
    ∀ d ∈ item.dependencies, d ∉ dependencies → ∃ rows ∈ g.reads, hasLanded rows d

def dependencyScript : Script sql Reader where
  see g c := match c with
    | .select => fun (rows : List BacklogRow) => { g with reads := g.reads ++ [rows] }
    | _ => fun _ => g
  due g c := match c with
    | .update (.reconcileDependencies item toState dependencies _ _) =>
      g.Drops item dependencies ∧ (toState = .ready → dependencies = []) ∧
        (toState = .ready ∨ toState = .blockedDependency)
    | .update (.clearDependencyBlocker item dependencies _ _ _) => g.Drops item dependencies
    | .update (.updateBacklogFields ..) => g.isEdit
    | .update _ | .insert _ => False
    | _ => True

theorem dependencyTransition_drops
    (h : dependencyTransition (dependencyIndex (·.readinessState) rows) item = some t) :
    t.dependenciesAfter ⊆ item.dependencies ∧
      (∀ d ∈ item.dependencies, d ∉ t.dependenciesAfter → hasLanded rows d) ∧
      (t.toState = .ready → t.dependenciesAfter = []) ∧
      (t.toState = .ready ∨ t.toState = .blockedDependency) := by
  rw [dependencyTransition] at h
  dsimp only at h
  split at h
  · cases h
  · cases h
    dsimp only
    refine ⟨fun d hd => mem_of_mem_filter hd, ?_, ?_, ?_⟩
    · intro d hd hgone
      have hresolved : d ∈ (resolvedDependencies (dependencyIndex (·.readinessState) rows)
          item).map Prod.fst := by
        by_contra hnot
        exact hgone (mem_filter.mpr ⟨hd, by simpa using hnot⟩)
      obtain ⟨⟨d', state⟩, hmem, rfl⟩ := mem_map.mp hresolved
      rw [resolvedDependencies] at hmem
      obtain ⟨d', _, hsome⟩ := mem_filterMap.mp hmem
      obtain ⟨state', hstate, heq⟩ := map_eq_some_iff.mp hsome
      cases heq
      obtain ⟨hget, hlanded⟩ := filter_eq_some_iff.mp hstate
      rw [hasLanded]
      rw [hget, any_some, hlanded, Bool.or_true]
    · intro hready
      split at hready
      · next hempty => exact isEmpty_iff.mp hempty
      · cases hready
    · split
      · exact .inl rfl
      · exact .inr rfl

variable {g : Reader}

theorem reconcileRow_keeps (dryRun : Bool) (actor : String)
    (transitions : List DependencyTransition) (item : BacklogRow) (h : rows ∈ g.reads) :
    (reconcileRow (dependencyIndex (·.readinessState) rows) dryRun actor transitions item).keeps
      dependencyScript (fun _ g => rows ∈ g.reads) g := by
  rw [reconcileRow]
  cases ht : dependencyTransition (dependencyIndex (·.readinessState) rows) item with
  | none => exact h
  | some t =>
    dsimp only
    split
    · exact h
    · obtain ⟨hsub, hdrops, hready, hstate⟩ := dependencyTransition_drops ht
      refine ⟨trivial, fun (now : Instant) => ?_⟩
      refine ⟨⟨⟨hsub, fun d hd hgone => ⟨rows, h, hdrops d hd hgone⟩⟩, hready, hstate⟩,
        fun (updated : Except String Nat) => ?_⟩
      cases updated with
      | error e => exact h
      | ok rowCount =>
        change keeps dependencyScript (if rowCount ≠ 1 then _ else _) _ _
        split
        · exact h
        · refine ⟨trivial, fun (appended : Except String Unit) => ?_⟩
          cases appended with
          | error e => exact h
          | ok _ => exact h

theorem reconcile_keeps (limit : Int) (dryRun : Bool) (actor : String) (g : Reader) :
    (reconcileTerminalBacklogDependencies limit dryRun actor).keeps dependencyScript
      (fun _ _ => True) g := by
  rw [reconcileTerminalBacklogDependencies]
  dsimp only
  split
  · trivial
  · refine ⟨trivial, fun (rows : List BacklogRow) => ⟨trivial, fun (states : List BacklogRow) => ?_⟩⟩
    apply keeps_fold (J := fun _ g => states ∈ g.reads) [] (by simp [dependencyScript])
    · intro transitions item items g h
      apply keeps_mono (reconcileRow_keeps dryRun actor transitions item h)
      intro r g hg
      cases r with
      | ok _ => exact hg
      | error _ => trivial
    · intro _ _ _
      trivial

def Reader.read (g : Reader) (rows : List BacklogRow) : Reader :=
  { g with reads := g.reads ++ [rows] }

theorem selectRows_keeps {f : List BacklogRow → Prog α} {R : Except String α → Reader → Prop}
    (h : ∀ rows, (f rows).keeps dependencyScript R (g.read rows)) :
    (selectRows.bind f).keeps dependencyScript R g := ⟨trivial, h⟩

theorem getBacklogItem_keeps {f : Option BacklogRow → Prog α} {R : Except String α → Reader → Prop}
    (h : ∀ rows found, (f found).keeps dependencyScript R (g.read rows)) :
    ((getBacklogItem itemId).bind f).keeps dependencyScript R g :=
  ⟨trivial, fun rows => h rows _⟩

theorem appendDecisions_keeps (h : (f ()).keeps dependencyScript (fun _ _ => True) g) :
    (appendDecisions.bind f).keeps dependencyScript (fun _ _ => True) g := by
  refine ⟨trivial, fun (appended : Except String Unit) => ?_⟩
  cases appended with
  | error e => trivial
  | ok _ => exact h

variable {u : UpdateStmt}

theorem execUpdate_keeps {f : Nat → Prog α} (hdue : dependencyScript.due g (.update u))
    (h : ∀ rowCount, (f rowCount).keeps dependencyScript (fun _ _ => True) g) :
    ((execUpdate u).bind f).keeps dependencyScript (fun _ _ => True) g := by
  refine ⟨hdue, fun (updated : Except String Nat) => ?_⟩
  cases updated with
  | error e => trivial
  | ok rowCount => exact h rowCount

theorem clear_keeps (itemId dependency actor reason : String) (g : Reader) :
    (clearBacklogDependencyBlocker itemId dependency actor reason).keeps dependencyScript
      (fun _ _ => True) g := by
  rw [clearBacklogDependencyBlocker]
  generalize trim dependency = dependency
  generalize trim actor = actor
  generalize trim reason = reason
  split
  · trivial
  split
  · trivial
  split
  · trivial
  apply getBacklogItem_keeps
  intro rows found
  cases found with
  | none => trivial
  | some item =>
    dsimp only
    cases clearRefusal item dependency with
    | some refusal => trivial
    | none =>
      apply selectRows_keeps
      intro states
      cases hupstream : (upstreamOf states dependency).filter (isLanded ·.readinessState) with
      | none => trivial
      | some upstream =>
        obtain ⟨hfound, hlanded⟩ := filter_eq_some_iff.mp hupstream
        have hdrops : ((g.read rows).read states).Drops item
            (item.dependencies.filter (· ≠ dependency)) := by
          refine ⟨fun d hd => mem_of_mem_filter hd, fun d hd hgone => ?_⟩
          have hsame : d = dependency := by
            by_contra hne
            exact hgone (mem_filter.mpr ⟨hd, by simpa using hne⟩)
          refine ⟨states, by simp [Reader.read], ?_⟩
          rw [hasLanded]
          rw [hsame, hfound, any_some, hlanded, Bool.true_or]
        refine ⟨trivial, fun (now : Instant) => ?_⟩
        apply execUpdate_keeps
        · exact hdrops
        · intro _
          apply appendDecisions_keeps
          apply getBacklogItem_keeps
          intro _ updated
          cases updated with
          | none => trivial
          | some updated => trivial

theorem edit_keeps (itemId : String) (patch : BacklogPatch) (updatedBy : Option (Option String))
    (h : g.isEdit) :
    (updateBacklogFields itemId patch updatedBy).keeps dependencyScript (fun _ _ => True) g := by
  rw [updateBacklogFields]
  split
  · exact ⟨trivial, fun _ => trivial⟩
  · refine ⟨trivial, fun (now : Instant) => ?_⟩
    apply execUpdate_keeps
    · exact h
    · exact fun _ => ⟨trivial, fun _ => trivial⟩

theorem DependencyCall.keeps (c : DependencyCall) :
    c.prog.keeps dependencyScript (fun _ _ => True) ⟨c.isEdit, []⟩ := by
  cases c with
  | clear itemId dependency actor reason =>
    have hclear := clear_keeps itemId dependency actor reason
    rw [DependencyCall.prog]
    generalize clearBacklogDependencyBlocker itemId dependency actor reason = p at hclear ⊢
    exact keeps_then (hclear _) fun _ _ => trivial
  | reconcile limit dryRun actor =>
    exact keeps_then (reconcile_keeps limit dryRun actor _) fun _ _ => trivial
  | edit itemId patch updatedBy =>
    exact keeps_then (edit_keeps itemId patch updatedBy rfl) fun _ _ => trivial

namespace DependencyRun
variable {run : DependencyRun}

/-- What call `i` is known as at the start. -/
def known (run : DependencyRun) (i : Nat) : Reader := ⟨run.calls[i]?.any (·.isEdit), []⟩

theorem threads_keep (run : DependencyRun) (i : Nat) (p : Prog Unit)
    (hp : run.threads[i]? = some p) : p.keeps dependencyScript (fun _ _ => True) (run.known i) := by
  rw [threads, getElem?_map, map_eq_some_iff] at hp
  obtain ⟨c, hc, rfl⟩ := hp
  rw [known, hc]
  exact c.keeps

theorem read_before (g : Reader) (h : rows ∈ (dependencyScript.over g es).reads) :
    rows ∈ g.reads ∨ ∃ f ∈ es, f.stmt = .select ∧ f.before.backlog.rows = rows := by
  induction es generalizing g with
  | nil => exact .inl h
  | cons e es ih =>
    rw [Script.over_cons] at h
    rcases ih _ h with hold | ⟨f, hf, hread⟩
    · obtain ⟨c, w⟩ := e
      cases c with
      | select =>
        rcases mem_append.mp (show rows ∈ g.reads ++ [w.backlog.rows] from hold) with
          hold | hnew
        · exact .inl hold
        · exact .inr ⟨⟨.select, w⟩, mem_cons_self, rfl, (mem_singleton.mp hnew).symm⟩
      | _ => exact .inl hold
    · exact .inr ⟨f, mem_cons_of_mem _ hf, hread⟩

theorem over_isEdit (g : Reader) (es : List (Event sql World)) :
    (dependencyScript.over g es).isEdit = g.isEdit := by
  induction es generalizing g with
  | nil => rfl
  | cons e es ih =>
    rw [Script.over_cons, ih]
    obtain ⟨c, w⟩ := e
    cases c <;> rfl

theorem due (hsplit : run.events = es ++ (i, e) :: fs) :
    dependencyScript.due (dependencyScript.ghost run.known es i) e.stmt :=
  interleave_keeps (g := run.known) (R := fun _ _ _ => True) run.schedule run.start
    run.threads_keep es i e fs hsplit

theorem drops_landed
    (h : (dependencyScript.ghost run.known es i).Drops item dependencies) (hd : d ∈ item.dependencies)
    (hgone : d ∉ dependencies) :
    ∃ f, (i, f) ∈ es ∧ f.stmt = .select ∧ hasLanded f.before.backlog.rows d := by
  obtain ⟨rows, hrows, hlanded⟩ := h.2 d hd hgone
  rcases read_before _ hrows with hnone | ⟨f, hf, hselect, rfl⟩
  · cases hnone
  · exact ⟨f, mem_eventsOf.mp hf, hselect, hlanded⟩

end DependencyRun

variable {w : World}

theorem row_written {c : Stmt} (h : w.row? itemId = some row)
    (h' : World.row? (c.effect w) itemId = some row') :
    row' = row ∨ ∃ u, c = .update u ∧ u.itemId = itemId ∧ w.env.fails w.step = false ∧
      u.guard row ∧ row' = u.set row := by
  rcases c.row?_effect h with hsame | ⟨u, rfl, hid, hguard, hset⟩
  · exact .inl (Option.some.inj (h'.symm.trans hsame))
  · cases hfails : w.env.fails w.step with
    | true =>
      left
      have hkeeps : World.row? (Stmt.effect (.update u) w) itemId = w.row? itemId := by
        simp only [World.row?, Stmt.effect_backlog, Stmt.backlog, hfails, if_true]
      exact Option.some.inj (h'.symm.trans (hkeeps.trans h))
    | false =>
      exact .inr ⟨u, rfl, hid, rfl, hguard, Option.some.inj (h'.symm.trans hset)⟩

theorem row_update (h : w.row? u.itemId = some row)
    (hguard : u.guard row) (hfails : w.env.fails w.step = false) :
    World.row? (Stmt.effect (.update u) w) u.itemId = some (u.set row) := by
  simp only [World.row?, Stmt.effect_backlog, Stmt.backlog, hfails, Bool.false_eq_true, if_false]
  exact Table.get?_update_self (u := u.toUpdate) h hguard
    (Table.not_refused_of_entry fun _ _ => rfl)

theorem exact_clear (h : isExact ⟨.update (.clearDependencyBlocker item dependencies
      receipt actor now), w⟩) (hrow : w.row? item.itemId = some row)
    (hfails : w.env.fails w.step = false) : row.dependencies ⊆ item.dependencies ∧
      (row.readinessState = .blockedDependency → dependencies = []) := by
  have hall : (∀ d ∈ row.dependencies, d ∈ item.dependencies) ∧
      (¬ row.readinessState = .blockedDependency ∨ dependencies = []) := by
    simpa [isExact, hfails, hrow] using h
  exact ⟨hall.1, fun hblocked => hall.2.resolve_left fun hnot => hnot hblocked⟩

theorem exact_subset (h : isExact ⟨.update u, w⟩)
    (hitem : u.removesFrom = some item) (hrow : w.row? u.itemId = some row)
    (hguard : u.guard row) (hfails : w.env.fails w.step = false) :
    row.dependencies ⊆ item.dependencies := by
  cases u with
  | reconcileDependencies read toState dependencies actor now =>
    cases hitem
    have hblocked : row.readinessState = .blockedDependency := by
      simpa [UpdateStmt.guard] using hguard
    have hrow' : w.row? item.itemId = some row := hrow
    have hall : ∀ d ∈ row.dependencies, d ∈ item.dependencies := by
      simpa [isExact, hfails, hrow', hblocked] using h
    exact hall
  | clearDependencyBlocker read dependencies receipt actor now =>
    cases hitem
    exact (exact_clear h hrow hfails).1
  | _ => cases hitem

namespace DependencyRun
variable {run : DependencyRun}

theorem Exact.keepsDependencies (h : run.Exact) : run.KeepsDependencies := by
  constructor
  case emptied =>
    intro i e he itemId row row' hrow hrow' hblocked hready
    obtain ⟨es, fs, hsplit⟩ := append_of_mem he
    have hdue := due hsplit
    have hexact := h _ he
    obtain ⟨c, w⟩ := e
    rcases row_written hrow hrow' with rfl | ⟨u, rfl, rfl, hfails, hguard, rfl⟩
    · rw [hblocked] at hready
      cases hready
    · cases u with
      | reconcileDependencies item toState dependencies actor now => exact hdue.2.1 hready
      | clearDependencyBlocker item dependencies receipt actor now =>
        exact (exact_clear hexact hrow hfails).2 hblocked
      | updateBacklogFields itemId patch updatedBy now =>
        cases hblocked.symm.trans hready
      | _ => exact hdue.elim
  case landed =>
    intro es i e fs hsplit call hcall hedit itemId row row' hrow hrow' d hd hgone
    have hdue := due hsplit
    have he : (i, e) ∈ run.events := hsplit ▸ by simp
    have hexact := h _ he
    obtain ⟨c, w⟩ := e
    rcases row_written hrow hrow' with rfl | ⟨u, rfl, rfl, hfails, hguard, rfl⟩
    · exact absurd hd hgone
    · cases u with
      | reconcileDependencies item toState dependencies actor now =>
        exact drops_landed hdue.1 (exact_subset hexact rfl hrow hguard hfails hd) hgone
      | clearDependencyBlocker item dependencies receipt actor now =>
        exact drops_landed hdue (exact_subset hexact rfl hrow hguard hfails hd) hgone
      | updateBacklogFields itemId patch updatedBy now =>
        have hknown : (run.known i).isEdit = false := by
          rw [known, hcall]
          exact hedit
        have hfalse : (run.known i).isEdit = true := (over_isEdit _ _).symm.trans hdue
        rw [hknown] at hfalse
        cases hfalse
      | _ => exact hdue.elim
  case added =>
    intro i e he u item hstmt hitem row row' hrow hrow' d hd hnot
    have hexact := h _ he
    obtain ⟨c, w⟩ := e
    rcases row_written hrow hrow' with rfl | ⟨u', rfl, _, hfails, hguard, _⟩
    · exact hd
    · cases hstmt
      exact absurd (exact_subset hexact hitem hrow hguard hfails hd) hnot

theorem KeepsDependencies.subset (h : run.KeepsDependencies)
    (he : (i, ⟨.update u, w⟩) ∈ run.events) (hitem : u.removesFrom = some item)
    (hwritten : (u.set row).dependencies ⊆ item.dependencies) (hrow : w.row? u.itemId = some row)
    (hguard : u.guard row) (hfails : w.env.fails w.step = false) :
    row.dependencies ⊆ item.dependencies := by
  intro d hd
  by_contra hnot
  exact hnot (hwritten (h.added i _ he u item rfl hitem row _ hrow
    (row_update hrow hguard hfails) d hd hnot))

theorem KeepsDependencies.exact (h : run.KeepsDependencies) : run.Exact := by
  rintro ⟨i, c, w⟩ he
  obtain ⟨es, fs, hsplit⟩ := append_of_mem he
  have hdue := due hsplit
  cases c with
  | update u =>
    cases hfails : w.env.fails w.step with
    | true => cases u <;> simp [isExact, hfails]
    | false =>
      cases u with
      | reconcileDependencies item toState dependencies actor now =>
        cases hrow : w.row? item.itemId with
        | none => simp [isExact, hrow]
        | some row =>
          by_cases hblocked : row.readinessState = .blockedDependency
          · have hall := h.subset he rfl hdue.1.1 hrow (decide_eq_true hblocked) hfails
            have hmem : ∀ d ∈ row.dependencies, d ∈ item.dependencies := hall
            simpa [isExact, hfails, hrow, hblocked] using hmem
          · simp [isExact, hrow, hblocked]
      | clearDependencyBlocker item dependencies receipt actor now =>
        cases hrow : w.row? item.itemId with
        | none => simp [isExact, hrow]
        | some row =>
          have hmem : ∀ d ∈ row.dependencies, d ∈ item.dependencies :=
            h.subset he rfl hdue.1 hrow rfl hfails
          have hempty : row.readinessState = .blockedDependency → dependencies = [] :=
            fun hblocked => h.emptied i _ he item.itemId row _ hrow (row_update hrow rfl hfails)
              hblocked rfl
          have hall : (∀ d ∈ row.dependencies, d ∈ item.dependencies) ∧
              (¬ row.readinessState = .blockedDependency ∨ dependencies = []) :=
            ⟨hmem, Decidable.not_or_of_imp hempty⟩
          simpa [isExact, hfails, hrow] using hall
      | _ => rfl
  | _ => rfl

end DependencyRun

/-- No dependency is lost exactly when every UPDATE finds only what its call has read, and a clear of
a blocked row its last dependency. -/
theorem keepsDependencies_iff (run : DependencyRun) : run.KeepsDependencies ↔ run.Exact :=
  ⟨fun h => h.exact, fun h => h.keepsDependencies⟩

def heldRows : List BacklogRow :=
  [insertedRow {
      title := "t", readinessState := some .blockedDependency
      dependencies := some ["done", "open"] } "item" 0,
    insertedRow { title := "d", readinessState := some .done } "done" 0,
    insertedRow { title := "o", readinessState := some .queued } "open" 0]

def clearedOne : DependencyRun where
  calls := [.clear "item" "done" "operator" "landed"]
  schedule := [0, 0, 0, 0, 0, 0]
  start := World.holding heldRows

/-- The row is ready while the other dependency still holds. -/
theorem not_keepsDependencies : ¬ ∀ run : DependencyRun, run.KeepsDependencies := by
  intro h
  exact absurd (h clearedOne).exact (by decide +kernel)

end IdAgents.Orchestration
