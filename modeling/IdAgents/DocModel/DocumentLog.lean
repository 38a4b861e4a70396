import IdAgents.Library.Precedence
import IdAgents.Library.Rely
import IdAgents.DocModel.ArtifactDocument

namespace IdAgents.DocModel
open AtomicProgram List

inductive DocCall where
  | author (input : AuthorInput)
  | comment (actor body now : String)
  | receipt (actor : String) (kind : ArtifactDocumentReceiptKind) (note : Option String)
      (now : String)

inductive DocAnswer where
  | authored (inserted : Bool)
  | appended (revision : Nat)

def DocCall.prog (documentId : String) : DocCall → Prog DocAnswer
  | author input => (authorArtifactDocument documentId input).bind fun b => .ret (.authored b)
  | comment actor body now =>
    (appendArtifactComment documentId actor body now).bind fun r => .ret (.appended r)
  | receipt actor kind note now =>
    (appendArtifactReceipt documentId actor kind note now).bind fun r => .ret (.appended r)

def DocCall.input? : DocCall → Option AppendInput
  | author _ => none
  | comment actor body now => some { actor, payload := .comment body, now }
  | receipt actor kind note now => some { actor, payload := .receipt kind note, now }

structure DocCalls where
  documentId : String
  calls : List DocCall
  schedule : List Nat
  env : Env

namespace DocCalls

variable (run : DocCalls)

def programs : List (Prog DocAnswer) := run.calls.map (·.prog run.documentId)

def start : World where
  document := none
  ops := []
  step := 0
  env := run.env

def pool (n : Nat) : List (Prog DocAnswer) × World :=
  interleave (run.schedule.take n) run.programs run.start

/-- The row and the operations after `n` steps. -/
def state (n : Nat) : World := (run.pool n).2

def events (n : Nat) : List (Nat × Event sql World) :=
  interleaveEvents (run.schedule.take n) run.programs run.start

/-- Call `i` has answered `a` after `n` steps. -/
def Answers (n i : Nat) (a : DocAnswer) : Prop :=
  (run.pool n).1[i]? = some (.ret a)

def Authored (n : Nat) : Prop := ∃ i inserted, run.Answers n i (.authored inserted)

end DocCalls

def AppendInput.In (input : AppendInput) (opId : Nat) (p : ArtifactDocumentProjection) : Prop :=
  match input.payload with
  | .comment body => p.comments.filter (·.opId = opId) = [⟨opId, input.actor, input.now, body⟩]
  | .receipt kind note =>
    p.receipts.filter (·.opId = opId) = [⟨opId, input.actor, input.now, kind, note⟩]
  | .authored .. => False

/-- The document's log is sound after `n` steps. -/
structure DocCalls.SoundAt (run : DocCalls) (n : Nat) : Prop where
  projected : ∃ p, projectArtifactDocument run.documentId (run.state n) = .ok (some p) ∧
    ∀ i call input r, run.calls[i]? = some call → call.input? = some input →
      run.Answers n i (.appended r) →
      ∃ op ∈ (run.state n).ops, op.toNewOp = input.op r ∧ input.In op.opId p
  revisions : (run.state n).ops.map (·.revision) = List.range' 1 (run.state n).ops.length
  row : ∃ row, (run.state n).document = some row ∧ row.revision = (run.state n).ops.length
  apart : ∀ i j r, run.Answers n i (.appended r) → run.Answers n j (.appended r) → i = j

def isUndisturbed (e : Event sql World) : Bool :=
  match e.stmt with
  | .insertDocument _ => e.before.fails.isSome || e.before.document.isNone ||
      e.before.ops.any (·.isAuthored)
  | .insertOp op => e.before.fails.isSome || op.isAuthored || e.before.ops.length + 1 = op.revision
  | .updateRevision .. => e.before.fails.isNone
  | .selectRevision => true

def DocCalls.Undisturbed (run : DocCalls) : Prop :=
  ∀ x ∈ interleaveEvents run.schedule run.programs run.start, isUndisturbed x.2

instance (run : DocCalls) : Decidable run.Undisturbed :=
  inferInstanceAs (Decidable (∀ x ∈ interleaveEvents run.schedule run.programs run.start,
    isUndisturbed x.2 = true))

def isAppend (e : Event sql World) : Bool :=
  match e.stmt with
  | .insertOp op => e.before.fails.isNone && !op.isAuthored
  | _ => false

/-- Call `i` stands between the INSERT and the UPDATE of an append. -/
def DocCalls.Midway (run : DocCalls) (n i : Nat) : Prop :=
  (eventsOf i (run.events n)).getLast?.any isAppend

inductive Phase where
  | start
  | authoring
  | seen (revision : Nat)
  | wrote (revision : Nat)
  | done
deriving DecidableEq

def Phase.inserted : Except String Nat → Phase
  | .ok 0 | .error _ => .done
  | .ok _ => .authoring

def Phase.written (op : NewOp) : Except String Unit → Phase
  | .ok _ => if op.isAuthored then .done else .wrote op.revision
  | .error _ => .done

def Phase.selected : Except String (Option Nat) → Phase
  | .ok (some revision) => .seen revision
  | _ => .done

def docScript : Script sql Phase where
  see _ c := match c with
    | .insertDocument _ => fun (r : Except String Nat) => .inserted r
    | .insertOp op => fun (r : Except String Unit) => .written op r
    | .selectRevision => fun (r : Except String (Option Nat)) => .selected r
    | .updateRevision .. => fun _ => .done
  due g c := match c with
    | .insertDocument row => g = .start ∧ row.revision = 1
    | .insertOp op => if op.isAuthored then g = .authoring ∧ op.revision = 1 else
        ∃ revision, g = .seen revision ∧ op.revision = revision + 1
    | .selectRevision => g = .start
    | .updateRevision revision _ => g = .wrote revision

theorem author_keeps (documentId : String) (input : AuthorInput) :
    ((DocCall.author input).prog documentId).keeps docScript (fun _ g => g = .done) .start := by
  refine ⟨⟨rfl, rfl⟩, fun (inserted : Except String Nat) => ?_⟩
  cases inserted with
  | error e => exact rfl
  | ok rowCount =>
    cases rowCount with
    | zero => exact rfl
    | succ rowCount =>
      refine ⟨⟨rfl, rfl⟩, fun (written : Except String Unit) => ?_⟩
      cases written with
      | error e => exact rfl
      | ok _ => exact rfl

theorem append_keeps (h : (input.op 0).isAuthored = false) (documentId : String) :
    ((appendOp documentId input).bind fun r => .ret (DocAnswer.appended r)).keeps docScript
      (fun _ g => g = .done) .start := by
  have hphase : ∀ revision, Phase.written (input.op revision) (.ok ()) = .wrote revision := by
    intro revision
    exact if_neg (by rw [show (input.op revision).isAuthored = false from h]; decide)
  refine ⟨rfl, fun (selected : Except String (Option Nat)) => ?_⟩
  rcases selected with e | _ | revision
  · exact rfl
  · exact rfl
  · refine ⟨?_, fun (written : Except String Unit) => ?_⟩
    · change if (input.op (revision + 1)).isAuthored then _ else _
      rw [if_neg (by rw [show (input.op (revision + 1)).isAuthored = false from h]; decide)]
      exact ⟨revision, rfl, rfl⟩
    · cases written with
      | error e => exact rfl
      | ok _ =>
        refine ⟨hphase (revision + 1), fun (updated : Except String Unit) => ?_⟩
        cases updated with
        | error e => exact rfl
        | ok _ => exact rfl

theorem DocCall.keeps (c : DocCall) (documentId : String) :
    (c.prog documentId).keeps docScript (fun _ g => g = .done) .start := by
  cases c with
  | author input => exact author_keeps documentId input
  | comment actor body now => exact append_keeps rfl documentId
  | receipt actor kind note now => exact append_keeps rfl documentId

structure Consistent (phase : Nat → Phase) (w : World) : Prop where
  revisions : w.ops.map (·.revision) = List.range' 1 w.ops.length
  rising : w.ops.Pairwise (·.opId < ·.opId)
  hasRow : w.ops ≠ [] → w.document.isSome
  authored : w.ops ≠ [] → ∃ op ∈ w.ops, op.isAuthored
  positive : ∀ row, w.document = some row → 1 ≤ row.revision
  row : ∀ row, w.document = some row → (∀ i r, phase i ≠ .wrote r) →
    row.revision = max 1 w.ops.length
  seen : ∀ i v, phase i = .seen v → 1 ≤ v ∧ ∃ row, w.document = some row ∧ v ≤ row.revision
  authoring : ∀ i, phase i = .authoring → w.ops = [] ∧ w.document.isSome
  oneAuthor : ∀ i j, phase i = .authoring → phase j = .authoring → i = j
  wrote : ∀ i r, phase i = .wrote r →
    r = w.ops.length ∧ ∃ row, w.document = some row ∧ row.revision + 1 = r
  oneWriter : ∀ i j r s, phase i = .wrote r → phase j = .wrote s → i = j

theorem Consistent.empty (env : Env) :
    Consistent (fun _ => .start) { document := none, ops := [], step := 0, env } := by
  constructor <;> simp

variable {phase' phase : Nat → Phase}

theorem Consistent.reads (h : Consistent phase w) (hi : ∀ r, phase i ≠ .wrote r)
    (hself : phase' i = .done ∨ ∃ row, w.document = some row ∧ phase' i = .seen row.revision)
    (hother : ∀ j, j ≠ i → phase' j = phase j) (hdocument : w'.document = w.document)
    (hops : w'.ops = w.ops) : Consistent phase' w' := by
  have hwas : ∀ {j g}, phase' j = g → g ≠ .done → (∀ v, g ≠ .seen v) → phase j = g := by
    intro j g hj hdone hseen
    have hne : j ≠ i := by
      rintro rfl
      rcases hself with hself | ⟨row, _, hself⟩
      · exact hdone (hj.symm.trans hself)
      · exact hseen _ (hj.symm.trans hself)
    exact (hother j hne).symm.trans hj
  constructor
  case revisions => rw [hops]; exact h.revisions
  case rising => rw [hops]; exact h.rising
  case hasRow => rw [hops, hdocument]; exact h.hasRow
  case authored => rw [hops]; exact h.authored
  case positive => rw [hdocument]; exact h.positive
  case row =>
    intro row hrow hnone
    rw [hdocument] at hrow
    rw [hops]
    apply h.row row hrow
    intro j r hj
    by_cases heq : j = i
    · exact hi r (heq ▸ hj)
    · exact hnone j r ((hother j heq).trans hj)
  case seen =>
    intro j v hj
    rw [hdocument]
    by_cases heq : j = i
    · subst heq
      rcases hself with hself | ⟨row, hrow, hself⟩
      · cases hj.symm.trans hself
      · obtain rfl : row.revision = v := by simpa [hself] using hj
        exact ⟨h.positive row hrow, row, hrow, Nat.le_refl _⟩
    · exact h.seen j v ((hother j heq).symm.trans hj)
  case authoring =>
    intro j hj
    rw [hdocument, hops]
    exact h.authoring j (hwas hj (by simp) (by simp))
  case oneAuthor =>
    intro j k hj hk
    exact h.oneAuthor j k (hwas hj (by simp) (by simp)) (hwas hk (by simp) (by simp))
  case wrote =>
    intro j r hj
    rw [hdocument, hops]
    exact h.wrote j r (hwas hj (by simp) (by simp))
  case oneWriter =>
    intro j k r s hj hk
    exact h.oneWriter j k r s (hwas hj (by simp) (by simp)) (hwas hk (by simp) (by simp))

theorem Consistent.makeRow {w w' : World} {row : DocumentRow}
    (h : Consistent phase w) (hself : phase' i = .authoring)
    (hother : ∀ j, j ≠ i → phase' j = phase j) (hnone : w.document = none)
    (hdocument : w'.document = some row) (hrevision : row.revision = 1) (hops : w'.ops = w.ops) :
    Consistent phase' w' := by
  have hempty : w.ops = [] := by
    by_contra hne
    have hsome := h.hasRow hne
    rw [hnone] at hsome
    cases hsome
  have hquiet : ∀ j v, phase' j ≠ .seen v ∧ phase' j ≠ .wrote v ∧ (phase' j = .authoring → j = i) := by
    intro j v
    by_cases heq : j = i
    · subst heq
      simp [hself]
    · rw [hother j heq]
      refine ⟨fun hj => ?_, fun hj => ?_, fun hj => ?_⟩
      · obtain ⟨_, row, hrow, _⟩ := h.seen j v hj
        rw [hnone] at hrow
        cases hrow
      · obtain ⟨_, row, hrow, _⟩ := h.wrote j v hj
        rw [hnone] at hrow
        cases hrow
      · have hsome := (h.authoring j hj).2
        rw [hnone] at hsome
        cases hsome
  constructor
  case revisions => rw [hops]; exact h.revisions
  case rising => rw [hops]; exact h.rising
  case hasRow => exact fun _ => hdocument ▸ rfl
  case authored => rw [hops]; exact h.authored
  case positive =>
    intro row' hrow
    obtain rfl := Option.some.inj (hdocument.symm.trans hrow)
    omega
  case row =>
    intro row' hrow _
    obtain rfl := Option.some.inj (hdocument.symm.trans hrow)
    rw [hops, hempty, hrevision]
    rfl
  case seen => exact fun j v hj => absurd hj (hquiet j v).1
  case authoring => exact fun _ _ => ⟨hops.trans hempty, hdocument ▸ rfl⟩
  case oneAuthor => exact fun j k hj hk => ((hquiet j 0).2.2 hj).trans ((hquiet k 0).2.2 hk).symm
  case wrote => exact fun j r hj => absurd hj (hquiet j r).2.1
  case oneWriter => exact fun j _ r _ hj => absurd hj (hquiet j r).2.1

theorem Consistent.author
    (h : Consistent phase w) (hi : phase i = .authoring) (hself : phase' i = .done)
    (hother : ∀ j, j ≠ i → phase' j = phase j) (hdocument : w'.document = w.document)
    (hops : w'.ops = w.ops ++ [op]) (hauthored : op.isAuthored) (hrevision : op.revision = 1) :
    Consistent phase' w' := by
  obtain ⟨hempty, hsome⟩ := h.authoring i hi
  rw [hempty, nil_append] at hops
  have hwas : ∀ {j g}, phase' j = g → g ≠ .done → j ≠ i ∧ phase j = g := by
    intro j g hj hg
    have hne : j ≠ i := fun heq => hg (hj ▸ heq ▸ hself)
    exact ⟨hne, (hother j hne).symm.trans hj⟩
  have hnoWriter : ∀ j r, phase j ≠ .wrote r := by
    intro j r hj
    obtain ⟨hlength, row, _, hrow⟩ := h.wrote j r hj
    rw [hempty, length_nil] at hlength
    omega
  constructor
  case revisions => rw [hops]; simp [hrevision]
  case rising => rw [hops]; exact pairwise_singleton _ _
  case hasRow => exact fun _ => hdocument ▸ hsome
  case authored => exact fun _ => ⟨op, hops ▸ mem_singleton_self op, hauthored⟩
  case positive => rw [hdocument]; exact h.positive
  case row =>
    intro row hrow _
    rw [hdocument] at hrow
    have hone := h.row row hrow hnoWriter
    rw [hempty] at hone
    rw [hops]
    exact hone
  case seen =>
    intro j v hj
    rw [hdocument]
    exact h.seen j v (hwas hj (by simp)).2
  case authoring =>
    intro j hj
    obtain ⟨hne, hwas⟩ := hwas hj (by simp)
    exact absurd (h.oneAuthor j i hwas hi) hne
  case oneAuthor =>
    intro j k hj _
    obtain ⟨hne, hwas⟩ := hwas hj (by simp)
    exact absurd (h.oneAuthor j i hwas hi) hne
  case wrote => exact fun j r hj => absurd (hwas hj (by simp)).2 (hnoWriter j r)
  case oneWriter => exact fun j _ r _ hj => absurd (hwas hj (by simp)).2 (hnoWriter j r)

theorem Consistent.append
    (h : Consistent phase w) (hi : phase i = .seen v) (hself : phase' i = .wrote op.revision)
    (hother : ∀ j, j ≠ i → phase' j = phase j) (hdocument : w'.document = w.document)
    (hops : w'.ops = w.ops ++ [op]) (hrevision : op.revision = v + 1)
    (hnext : w.ops.length + 1 = op.revision) (hrising : ∀ old ∈ w.ops, old.opId < op.opId) :
    Consistent phase' w' := by
  obtain ⟨hpos, row, hrow, hle⟩ := h.seen i v hi
  have hlength : w'.ops.length = op.revision := by
    rw [hops, length_append]
    exact hnext
  have hne : w.ops ≠ [] := by
    intro hempty
    rw [hempty, length_nil] at hnext
    omega
  have hnoWriter : ∀ j r, phase j ≠ .wrote r := by
    intro j r hj
    obtain ⟨_, row', hrow', hlate⟩ := h.wrote j r hj
    obtain rfl := Option.some.inj (hrow.symm.trans hrow')
    omega
  have hcurrent := h.row row hrow hnoWriter
  have hwas : ∀ {j g}, phase' j = g → g ≠ .wrote op.revision → phase j = g := by
    intro j g hj hg
    have hij : j ≠ i := fun heq => hg (hj ▸ heq ▸ hself)
    exact (hother j hij).symm.trans hj
  have hwriter : ∀ j r, phase' j = .wrote r → j = i ∧ r = op.revision := by
    intro j r hj
    by_cases heq : j = i
    · subst heq
      exact ⟨rfl, by simpa [hself, eq_comm] using hj⟩
    · exact absurd ((hother j heq).symm.trans hj) (hnoWriter j r)
  constructor
  case revisions =>
    rw [hlength, hops, map_append, h.revisions, ← hnext, range'_concat]
    simp [hnext, Nat.add_comm 1]
  case rising =>
    rw [hops, pairwise_append]
    refine ⟨h.rising, pairwise_singleton _ _, fun a ha b hb => ?_⟩
    obtain rfl := mem_singleton.mp hb
    exact hrising a ha
  case hasRow => exact fun _ => by rw [hdocument, hrow]; rfl
  case authored =>
    obtain ⟨old, hold, hauthored⟩ := h.authored hne
    exact fun _ => ⟨old, hops ▸ mem_append_left _ hold, hauthored⟩
  case positive => rw [hdocument]; exact h.positive
  case row => exact fun _ _ hnone => absurd hself (hnone i op.revision)
  case seen =>
    intro j v' hj
    rw [hdocument]
    exact h.seen j v' (hwas hj (by simp))
  case authoring => exact fun j hj => absurd (h.authoring j (hwas hj (by simp))).1 hne
  case oneAuthor => exact fun j _ hj => absurd (h.authoring j (hwas hj (by simp))).1 hne
  case wrote =>
    intro j r hj
    obtain ⟨_, rfl⟩ := hwriter j r hj
    rw [hdocument]
    exact ⟨hlength.symm, row, hrow, by omega⟩
  case oneWriter =>
    exact fun j k r s hj hk => (hwriter j r hj).1.trans (hwriter k s hk).1.symm

theorem Consistent.update
    (h : Consistent phase w) (hi : phase i = .wrote r) (hself : phase' i = .done)
    (hother : ∀ j, j ≠ i → phase' j = phase j) (hdocument : w'.document =
      w.document.map fun row => { row with revision := r, updatedAt := now })
    (hops : w'.ops = w.ops) : Consistent phase' w' := by
  obtain ⟨hlength, row, hrow, hlate⟩ := h.wrote i r hi
  have hne : w.ops ≠ [] := by
    intro hempty
    rw [hempty, length_nil] at hlength
    omega
  rw [hrow, Option.map_some] at hdocument
  have hwas : ∀ {j g}, phase' j = g → g ≠ .done → j ≠ i ∧ phase j = g := by
    intro j g hj hg
    have hij : j ≠ i := fun heq => hg (hj ▸ heq ▸ hself)
    exact ⟨hij, (hother j hij).symm.trans hj⟩
  have hnoWriter : ∀ j s, phase' j ≠ .wrote s := by
    intro j s hj
    obtain ⟨hij, hwas⟩ := hwas hj (by simp)
    exact hij (h.oneWriter j i s r hwas hi)
  constructor
  case revisions => rw [hops]; exact h.revisions
  case rising => rw [hops]; exact h.rising
  case hasRow => exact fun _ => hdocument ▸ rfl
  case authored => rw [hops]; exact h.authored
  case positive =>
    intro row' hrow'
    obtain rfl := Option.some.inj (hdocument.symm.trans hrow')
    change 1 ≤ r
    omega
  case row =>
    intro row' hrow' _
    obtain rfl := Option.some.inj (hdocument.symm.trans hrow')
    rw [hops]
    change r = _
    omega
  case seen =>
    intro j v hj
    obtain ⟨hpos, row', hrow', hle⟩ := h.seen j v (hwas hj (by simp)).2
    obtain rfl := Option.some.inj (hrow.symm.trans hrow')
    refine ⟨hpos, _, hdocument, ?_⟩
    change v ≤ r
    omega
  case authoring => exact fun j hj => absurd (h.authoring j (hwas hj (by simp)).2).1 hne
  case oneAuthor => exact fun j _ hj => absurd (h.authoring j (hwas hj (by simp)).2).1 hne
  case wrote => exact fun j s hj => absurd hj (hnoWriter j s)
  case oneWriter => exact fun j _ s _ hj => absurd hj (hnoWriter j s)

theorem opId_lt_next {w : World} (h : w.ops.Pairwise (·.opId < ·.opId)) (hold : old ∈ w.ops) :
    old.opId < w.nextOpId := by
  obtain ⟨ops, last, hops⟩ : ∃ ops last, w.ops = ops ++ [last] :=
    (eq_nil_or_concat' w.ops).resolve_left (ne_nil_of_mem hold)
  have hnext : last.opId < w.nextOpId := by
    simp only [World.nextOpId, hops, getLast?_concat, Option.elim_some]
    omega
  rw [hops] at h hold
  rw [pairwise_append] at h
  rcases mem_append.mp hold with hbefore | hlast
  · exact Nat.lt_trans (h.2.2 old hbefore last mem_cons_self) hnext
  · rwa [mem_singleton.mp hlast]

theorem Consistent.step {e : Event sql World}
    (h : Consistent phase e.before) (hdue : docScript.due (phase i) e.stmt)
    (hcalm : isUndisturbed e)
    (hphase : ∀ j, phase' j = if i = j then
      docScript.see (phase i) e.stmt (Store.answer e.stmt e.before) else phase j) :
    Consistent phase' e.after := by
  have hother : ∀ j, j ≠ i → phase' j = phase j := fun j hj => by rw [hphase, if_neg (Ne.symm hj)]
  have hself := hphase i
  rw [if_pos rfl] at hself
  obtain ⟨c, w⟩ := e
  cases hfails : w.fails with
  | some error =>
    have hsame : (Stmt.effect c w).document = w.document ∧ (Stmt.effect c w).ops = w.ops := by
      simp [Stmt.effect, hfails]
    have hanswer : ∀ α (a : α), Stmt.answerOr w.fails a = .error error := by
      intro α a
      rw [hfails]
      rfl
    apply h.reads (i := i) _ (.inl _) hother hsame.1 hsame.2
    · intro r hr
      cases c with
      | insertDocument => cases hr.symm.trans hdue.1
      | insertOp op =>
        change if op.isAuthored then _ else _ at hdue
        split at hdue
        · cases hr.symm.trans hdue.1
        · obtain ⟨v, hseen, _⟩ := hdue
          cases hr.symm.trans hseen
      | selectRevision => cases hr.symm.trans hdue
      | updateRevision revision now =>
        have hok : w.fails.isNone := hcalm
        rw [hfails] at hok
        cases hok
    · rw [hself]
      cases c with
      | insertDocument =>
        change Phase.inserted (Stmt.answerOr w.fails _) = _
        rw [hanswer]
        rfl
      | insertOp op =>
        change Phase.written op (Stmt.answerOr w.fails _) = _
        rw [hanswer]
        rfl
      | selectRevision =>
        change Phase.selected (Stmt.answerOr w.fails _) = _
        rw [hanswer]
        rfl
      | updateRevision => rfl
  | none =>
    have heffect : Stmt.effect c w = { c.change w with step := w.step + 1 } := by
      simp [Stmt.effect, hfails]
    have hanswer : ∀ α (a : α), Stmt.answerOr w.fails a = .ok a := by
      intro α a
      rw [hfails]
      rfl
    have hdocument : (Stmt.effect c w).document = (c.change w).document := by rw [heffect]
    have hops : (Stmt.effect c w).ops = (c.change w).ops := by rw [heffect]
    cases c with
    | insertDocument row =>
      obtain ⟨hstart, hrevision⟩ := hdue
      have hi : ∀ r, phase i ≠ .wrote r := fun r hr => by cases hr.symm.trans hstart
      change phase' i = Phase.inserted (Stmt.answerOr w.fails _) at hself
      rw [hanswer] at hself
      cases hrow : w.document with
      | none =>
        rw [hrow] at hself
        have hmade : (Stmt.effect (.insertDocument row) w).document = some row := by
          rw [hdocument]
          change w.document.or (some row) = _
          rw [hrow]
          rfl
        exact h.makeRow hself hother hrow hmade hrevision hops
      | some old =>
        rw [hrow] at hself
        apply h.reads hi (.inl hself) hother _ hops
        rw [hdocument]
        change w.document.or (some row) = _
        rw [hrow]
        rfl
    | insertOp op =>
      change phase' i = Phase.written op (Stmt.answerOr w.fails _) at hself
      rw [hanswer] at hself
      change phase' i = if op.isAuthored then Phase.done else .wrote op.revision at hself
      change if op.isAuthored then _ else _ at hdue
      have hwritten : (Stmt.effect (.insertOp op) w).ops =
          w.ops ++ [{ op with opId := w.nextOpId }] := hops
      cases hauthored : op.isAuthored with
      | true =>
        rw [if_pos hauthored] at hself hdue
        exact h.author hdue.1 hself hother hdocument hwritten hauthored hdue.2
      | false =>
        rw [if_neg (by rw [hauthored]; decide)] at hself hdue
        obtain ⟨v, hseen, hrevision⟩ := hdue
        have hnext : w.ops.length + 1 = op.revision := by
          simpa [isUndisturbed, hfails, hauthored] using hcalm
        exact h.append hseen hself hother hdocument hwritten hrevision hnext
          fun old hold => opId_lt_next h.rising hold
    | selectRevision =>
      have hi : ∀ r, phase i ≠ .wrote r := fun r hr => by cases hr.symm.trans hdue
      change phase' i = Phase.selected (Stmt.answerOr w.fails _) at hself
      rw [hanswer] at hself
      cases hrow : w.document with
      | none =>
        rw [hrow] at hself
        exact h.reads hi (.inl hself) hother (hdocument.trans rfl) hops
      | some row =>
        rw [hrow] at hself
        exact h.reads hi (.inr ⟨_, hrow, hself⟩) hother (hdocument.trans rfl) hops
    | updateRevision revision now =>
      have hwritten : (Stmt.effect (.updateRevision revision now) w).document =
          w.document.map fun row => { row with revision, updatedAt := now } := hdocument
      exact h.update hdue hself hother hwritten hops

end IdAgents.DocModel
