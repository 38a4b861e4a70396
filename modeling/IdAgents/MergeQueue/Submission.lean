import IdAgents.Library.Sum
import IdAgents.MergeQueue.SingleFlight

namespace IdAgents.MergeQueue
open JsText KeyedTable AtomicProgram List

structure MergeRequestSubmission where
  repoAlias : String
  repoRoot : String
  poolId : String
  branch : String
  base : Option String := none
  headSha : String
  builder : String
  dispatchId : String
  leaseId : Option String := none
  strategy : Option MergeStrategy := none
  priority : Option Int := none
  isNorthStar : Option Bool := none

def defaultMaxAttempts : Nat := 3

def mergeIdempotencyKey (repoAlias branch headSha : String) : String :=
  repoAlias ++ ":" ++ branch ++ ":" ++ headSha

/-- `[a-zA-Z0-9]` -/
def isAlnum (c : Char) : Bool := c.isAlphanum

/-- `s.replace(/[^a-zA-Z0-9]+/g, "-")` -/
def dashed : List Char → List Char
  | [] => []
  | c :: cs =>
    if isAlnum c then c :: dashed cs
    else match dashed cs with
      | '-' :: rest => '-' :: rest
      | rest => '-' :: rest

def branchSlug (branch : String) : String :=
  let slug := ((dashed branch.toList).dropWhile (· = '-')).reverse.dropWhile (· = '-')
  String.ofList (slug.reverse.take 40)

def orElse (text fallback : String) : String := if text = "" then fallback else text

/-- `mr_<yyyymmdd>_<short-dispatch>_<branch-slug>_<head>` -/
def defaultMrId (ts : String) (sub : MergeRequestSubmission) : String :=
  let alnum (s : String) : List Char := s.toList.filter isAlnum
  let shortDisp := orElse
    (String.ofList ((alnum sub.dispatchId).drop ((alnum sub.dispatchId).length - 8))) "nodisp"
  let headFrag := orElse (String.ofList ((alnum sub.headSha).take 8)) "nohead"
  "mr_" ++ String.ofList ((ts.toList.take 10).filter (· ≠ '-')) ++ "_" ++ shortDisp ++ "_" ++
    branchSlug sub.branch ++ "_" ++ headFrag

/-- The statement `INSERT INTO merge_requests`, which throws where a row has its id or its key. -/
abbrev insertSql : Signature := ⟨MergeRequest, fun _ => Except String Unit⟩

instance : Store insertSql World where
  answer mr w :=
    if w.table.insertRefused mr then .error "UNIQUE constraint failed" else .ok ()
  effect mr w := { w with table := w.table.insert mr, step := w.step + 1 }

abbrev queueSql : Signature := sql.sum insertSql

abbrev QueueProg (α : Type) := Program queueSql String α

def submitted (sub : MergeRequestSubmission) (idGen : Option String) (ts : String) :
    MergeRequest where
  mrId := idGen.getD (defaultMrId ts sub)
  idempotencyKey := mergeIdempotencyKey sub.repoAlias sub.branch sub.headSha
  repoAlias := sub.repoAlias
  repoRoot := sub.repoRoot
  poolId := sub.poolId
  base := sub.base.getD "main"
  branch := sub.branch
  builder := sub.builder
  dispatchId := sub.dispatchId
  leaseId := sub.leaseId
  headSha := sub.headSha
  strategy := sub.strategy.getD .auto
  state := .queued
  attempts := 0
  maxAttempts := defaultMaxAttempts
  promotedSha := none
  failure := none
  priority := sub.priority.getD 5
  isNorthStar := sub.isNorthStar.getD false
  enqueuedAt := ts
  startedAt := none
  completedAt := none

structure EnqueueResult where
  mr : MergeRequest
  created : Bool

def getByIdempotencyKey (key : String) : Prog (Option MergeRequest) := do
  let rows ← selectRows
  return rows.find? (·.idempotencyKey = key)

def insertRow (mr : MergeRequest) : QueueProg Unit := do
  match ← (Program.other (S := sql) (T := insertSql) mr : QueueProg (Except String Unit)) with
  | .ok _ => return ()
  | .error e => throw e

def readBack (mrId : String) : QueueProg EnqueueResult := do
  match ← (getMergeRequest mrId).inl with
  | some mr => return ⟨mr, true⟩
  | none => throw ("enqueueMergeRequest: row vanished after insert (" ++ mrId ++ ")")

/-- `idGen` is what the caller's generator returns, where it gives one. -/
def enqueueMergeRequest (sub : MergeRequestSubmission) (idGen : Option String) :
    QueueProg EnqueueResult := do
  let key := mergeIdempotencyKey sub.repoAlias sub.branch sub.headSha
  match ← (getByIdempotencyKey key).inl with
  | some existing => return ⟨existing, false⟩
  | none =>
    let ts ← nowIso.inl
    let row := submitted sub idGen ts
    let _ ← insertRow row
    readBack row.mrId

inductive QueueCall where
  | enqueue (sub : MergeRequestSubmission) (idGen : Option String)
  | drain (repoAlias : String) (deps : MergeWorkerDeps)

inductive Reply where
  | enqueued (result : EnqueueResult)
  | drained (mr : Option MergeRequest)

def QueueCall.prog : QueueCall → QueueProg Reply
  | enqueue sub idGen => Reply.enqueued <$> enqueueMergeRequest sub idGen
  | drain repoAlias deps => Reply.drained <$> (drainOneMergeRequest repoAlias deps).inl

def QueueCall.key? : QueueCall → Option String
  | enqueue sub _ => some (mergeIdempotencyKey sub.repoAlias sub.branch sub.headSha)
  | drain .. => none

structure Submissions where
  calls : List QueueCall
  schedule : List Nat
  start : World

namespace Submissions
section
variable (run : Submissions)

def threads : List (QueueProg Reply) := run.calls.map QueueCall.prog

/-- The world after the first `n` steps. -/
def after (n : Nat) : World :=
  (interleave (run.schedule.take n) run.threads run.start).2

def final : World := (interleave run.schedule run.threads run.start).2

def Returned (i : Nat) (result : EnqueueResult) : Prop :=
  (interleave run.schedule run.threads run.start).1[i]? = some (.ret (.enqueued result))

/-- The call `i` submits the key. -/
def Submits (i : Nat) (key : String) : Prop :=
  run.calls[i]?.bind QueueCall.key? = some key

end

end Submissions

structure Sight where
  key? : Option String
  seen : List MergeRequest := []
  inserted : List MergeRequest := []

def submitScript : Script queueSql Sight where
  see g c := match c with
    | .inl .select => fun (rows : List MergeRequest) => { g with seen := g.seen ++ rows }
    | .inl _ => fun _ => g
    | .inr mr => fun (result : Except String Unit) => match result with
      | .ok _ => { g with inserted := g.inserted ++ [mr] }
      | .error _ => g
  due g c := match c with
    | .inl _ => True
    | .inr mr => g.key? = some mr.idempotencyKey

def Sight.Returns (g : Sight) (result : EnqueueResult) : Prop :=
  result.mr ∈ g.seen ∧
    if result.created then ∃ mr ∈ g.inserted, result.mr.mrId = mr.mrId
    else g.key? = some result.mr.idempotencyKey ∧ g.inserted = []

def Sight.Ends (g : Sight) : Except String Reply → Prop
  | .ok (.enqueued result) => g.Returns result
  | .ok (.drained _) => g.inserted = []
  | .error _ => True

theorem drain_ends (repoAlias : String) (deps : MergeWorkerDeps) :
    (QueueCall.drain repoAlias deps).prog.keeps submitScript (fun r g => g.Ends r)
      ⟨none, [], []⟩ := by
  have hany : ∀ (p : Prog (Option MergeRequest)) (g : Sight), g.inserted = [] →
      (p.inl (T := insertSql)).keeps submitScript (fun _ g => g.inserted = []) g := by
    intro p
    induction p with
    | ret a => exact fun _ h => h
    | throw e => exact fun _ h => h
    | issue c k ih =>
      intro g h
      refine ⟨trivial, fun a => ih a _ ?_⟩
      cases c with
      | select => exact h
      | _ => exact h
  apply Program.keeps_seq (hany _ _ rfl)
  · intro mr g h
    exact h
  · intro e g _
    trivial

def Sight.read (g : Sight) (rows : List MergeRequest) : Sight := { g with seen := g.seen ++ rows }

def ReadsBack (mrId : String) (g : Sight) (r : Except String EnqueueResult) (g' : Sight) : Prop :=
  ∀ result, r = .ok result →
    result.created ∧ result.mr.mrId = mrId ∧ result.mr ∈ g'.seen ∧ g'.inserted = g.inserted

theorem readBack_keeps (mrId : String) (g : Sight) :
    (readBack mrId).keeps submitScript (ReadsBack mrId g) g := by
  have hfound : ∀ (rows : List MergeRequest) (found? : Option MergeRequest),
      found? = rows.find? (·.mrId = mrId) →
      Program.keeps submitScript (match found? with
        | some mr => (Program.ret ⟨mr, true⟩ : QueueProg EnqueueResult)
        | none => Program.throw
            ("enqueueMergeRequest: row vanished after insert (" ++ mrId ++ ")"))
        (ReadsBack mrId g) (g.read rows) := by
    intro rows found? hback
    cases found? with
    | none =>
      intro result hresult
      cases hresult
    | some mr =>
      intro result hresult
      cases hresult
      exact ⟨rfl, by simpa using find?_some hback.symm,
        mem_append_right _ (mem_of_find?_eq_some hback.symm), rfl⟩
  exact ⟨trivial, fun (rows : List MergeRequest) => hfound rows _ rfl⟩

theorem enqueue_ends (sub : MergeRequestSubmission) (idGen : Option String) :
    (QueueCall.enqueue sub idGen).prog.keeps submitScript (fun r g => g.Ends r)
      ⟨some (mergeIdempotencyKey sub.repoAlias sub.branch sub.headSha), [], []⟩ := by
  refine ⟨trivial, fun (rows : List MergeRequest) => ?_⟩
  change Program.keeps submitScript (Program.bind (match rows.find? (·.idempotencyKey =
      mergeIdempotencyKey sub.repoAlias sub.branch sub.headSha) with
    | some existing => _
    | none => _) _) _ _
  cases hfound : rows.find? (·.idempotencyKey =
      mergeIdempotencyKey sub.repoAlias sub.branch sub.headSha) with
  | some existing =>
    have hkey : existing.idempotencyKey =
        mergeIdempotencyKey sub.repoAlias sub.branch sub.headSha := by
      simpa using find?_some hfound
    exact ⟨mem_append_right _ (mem_of_find?_eq_some hfound), by
      rw [if_neg (by simp), hkey]; exact ⟨rfl, rfl⟩⟩
  | none =>
    refine ⟨trivial, fun (now : Instant) => ⟨rfl, fun (inserted : Except String Unit) => ?_⟩⟩
    cases inserted with
    | error e => trivial
    | ok _ =>
      apply Program.keeps_seq (readBack_keeps (submitted sub idGen (toISOString now)).mrId _)
      · intro result g hresult
        obtain ⟨hcreated, hid, hseen, hinserted⟩ := hresult result rfl
        refine ⟨hseen, ?_⟩
        rw [if_pos hcreated, hinserted]
        exact ⟨_, mem_append_right _ (mem_singleton_self _), hid⟩
      · intro e g _
        trivial

theorem call_ends (call : QueueCall) :
    call.prog.keeps submitScript (fun r g => g.Ends r) ⟨call.key?, [], []⟩ := by
  cases call with
  | enqueue sub idGen => exact enqueue_ends sub idGen
  | drain repoAlias deps => exact drain_ends repoAlias deps

def World.Keeps (w : World) (mr : MergeRequest) : Prop :=
  ∃ row, w.row? mr.mrId = some row ∧ row.idempotencyKey = mr.idempotencyKey

variable {w : World}

theorem World.Keeps.of_mem (h : mr ∈ w.table.rows) : w.Keeps mr :=
  ⟨mr, Table.get?_of_mem h, rfl⟩

theorem World.Keeps.drain (h : w.Keeps mr) (c : Stmt) : World.Keeps (Stmt.effect c w) mr := by
  obtain ⟨row, hrow, hkey⟩ := h
  cases c with
  | update mrId patch =>
    rw [World.Keeps]
    rw [row?_update, hrow]
    split
    · exact ⟨patch.set row, rfl, hkey⟩
    · exact ⟨row, rfl, hkey⟩
  | _ => exact ⟨row, hrow, hkey⟩

theorem World.Keeps.insert (h : w.Keeps mr) (new : MergeRequest) :
    World.Keeps (Store.effect (S := insertSql) new w) mr := by
  obtain ⟨row, hrow, hkey⟩ := h
  exact ⟨row, Table.get?_insert new hrow, hkey⟩

theorem World.Keeps.unique (h : w.Keeps mr) (h' : w.Keeps nr)
    (hkey : mr.idempotencyKey = nr.idempotencyKey) : mr.mrId = nr.mrId := by
  obtain ⟨row, hrow, hmr⟩ := h
  obtain ⟨row', hrow', hnr⟩ := h'
  obtain ⟨hmem, hid⟩ := Table.get?_some hrow
  obtain ⟨hmem', hid'⟩ := Table.get?_some hrow'
  have hsame : row = row' := Table.eq_of_entry hmem hmem' rfl
    (congrArg some ((hnr.trans hkey.symm).trans hmr.symm))
  rw [← hid, ← hid', hsame]

structure Kept (start : World) (ghost : Nat → Sight) (w : World) : Prop where
  seen : ∀ i, ∀ mr ∈ (ghost i).seen, w.Keeps mr
  inserted : ∀ i, ∀ mr ∈ (ghost i).inserted, w.Keeps mr
  older : ∀ mr ∈ start.table.rows, w.Keeps mr
  origin : ∀ row ∈ w.table.rows,
    (∃ mr ∈ start.table.rows, mr.idempotencyKey = row.idempotencyKey) ∨
      ∃ i, ∃ mr ∈ (ghost i).inserted, mr.idempotencyKey = row.idempotencyKey
  fresh : ∀ i, ∀ mr ∈ (ghost i).inserted, ∀ row ∈ start.table.rows,
    row.idempotencyKey ≠ mr.idempotencyKey
  once : ∀ i j, ∀ mr ∈ (ghost i).inserted, ∀ nr ∈ (ghost j).inserted,
    mr.idempotencyKey = nr.idempotencyKey → i = j
  keyed : ∀ i, ∀ mr ∈ (ghost i).inserted, (ghost i).key? = some mr.idempotencyKey

theorem Kept.start {start : World} {ghost : Nat → Sight}
    (h : ∀ i, (ghost i).seen = [] ∧ (ghost i).inserted = []) : Kept start ghost start where
  seen := by
    intro i mr hmr
    rw [(h i).1] at hmr
    cases hmr
  inserted := by
    intro i mr hmr
    rw [(h i).2] at hmr
    cases hmr
  older := fun _ hmr => .of_mem hmr
  origin := fun row hrow => .inl ⟨row, hrow, rfl⟩
  fresh := by
    intro i mr hmr
    rw [(h i).2] at hmr
    cases hmr
  once := by
    intro i j mr hmr
    rw [(h i).2] at hmr
    cases hmr
  keyed := by
    intro i mr hmr
    rw [(h i).2] at hmr
    cases hmr

theorem origin_drain (h : row ∈ (Stmt.effect c w).table.rows) :
    ∃ row₀ ∈ w.table.rows, row₀.idempotencyKey = row.idempotencyKey := by
  cases c with
  | update mrId patch =>
    rcases Table.mem_update h with hrow | ⟨row₀, hrow₀, _, rfl⟩
    · exact ⟨row, hrow, rfl⟩
    · exact ⟨row₀, hrow₀, rfl⟩
  | _ => exact ⟨row, h, rfl⟩

theorem Kept.drain {start : World} {ghost ghost' : Nat → Sight} (h : Kept start ghost w) (c : Stmt)
    (hg : ∀ j, (ghost' j).key? = (ghost j).key? ∧ (ghost' j).inserted = (ghost j).inserted ∧
      ∀ mr ∈ (ghost' j).seen, mr ∈ (ghost j).seen ∨ mr ∈ w.table.rows) :
    Kept start ghost' (Stmt.effect c w) where
  seen := by
    intro i mr hmr
    rcases (hg i).2.2 mr hmr with hseen | hrow
    · exact (h.seen i mr hseen).drain c
    · exact (World.Keeps.of_mem hrow).drain c
  inserted := by
    intro i mr hmr
    rw [(hg i).2.1] at hmr
    exact (h.inserted i mr hmr).drain c
  older := fun mr hmr => (h.older mr hmr).drain c
  origin := by
    intro row hrow
    obtain ⟨row₀, hrow₀, hkey⟩ := origin_drain hrow
    rcases h.origin row₀ hrow₀ with ⟨mr, hmr, hsame⟩ | ⟨i, mr, hmr, hsame⟩
    · exact .inl ⟨mr, hmr, hsame.trans hkey⟩
    · rw [← (hg i).2.1] at hmr
      exact .inr ⟨i, mr, hmr, hsame.trans hkey⟩
  fresh := by
    intro i mr hmr
    rw [(hg i).2.1] at hmr
    exact h.fresh i mr hmr
  once := by
    intro i j mr hmr nr hnr
    rw [(hg i).2.1] at hmr
    rw [(hg j).2.1] at hnr
    exact h.once i j mr hmr nr hnr
  keyed := by
    intro i mr hmr
    rw [(hg i).2.1] at hmr
    rw [(hg i).1]
    exact h.keyed i mr hmr

theorem Kept.insert {start : World} {ghost ghost' : Nat → Sight} (h : Kept start ghost w)
    {mr : MergeRequest} (hfree : w.table.insertRefused mr = false)
    (hkey : (ghost i).key? = some mr.idempotencyKey)
    (hg : ∀ j, ghost' j = if i = j then { ghost i with inserted := (ghost i).inserted ++ [mr] }
      else ghost j) : Kept start ghost' (Store.effect (S := insertSql) mr w) := by
  have hnone : ∀ nr, w.Keeps nr → nr.idempotencyKey ≠ mr.idempotencyKey := by
    rintro nr ⟨row, hrow, hnr⟩ hsame
    exact Table.entry_ne_of_insert hfree (Table.get?_some hrow).1 rfl
      (congrArg some (hnr.trans hsame))
  have hkey' : ∀ j, (ghost' j).key? = (ghost j).key? := by
    intro j
    rw [hg]
    split
    · next hij => rw [hij]
    · rfl
  have hseen' : ∀ j, (ghost' j).seen = (ghost j).seen := by
    intro j
    rw [hg]
    split
    · next hij => rw [hij]
    · rfl
  have hinserted' : ∀ j nr, nr ∈ (ghost' j).inserted ↔
      nr ∈ (ghost j).inserted ∨ (i = j ∧ nr = mr) := by
    intro j nr
    rw [hg]
    split
    · next hij => simp [hij]
    · next hij => simp [hij]
  have hmr : World.Keeps (Store.effect (S := insertSql) mr w) mr :=
    ⟨mr, (Table.get?_insert_self hfree).2, rfl⟩
  constructor
  case seen =>
    intro j nr hnr
    rw [hseen'] at hnr
    exact (h.seen j nr hnr).insert mr
  case inserted =>
    intro j nr hnr
    rcases (hinserted' j nr).1 hnr with hnr | ⟨_, rfl⟩
    · exact (h.inserted j nr hnr).insert mr
    · exact hmr
  case older => exact fun nr hnr => (h.older nr hnr).insert mr
  case origin =>
    intro row hrow
    rcases Table.mem_insert hrow with hrow | rfl
    · rcases h.origin row hrow with hstart | ⟨j, nr, hnr, hsame⟩
      · exact .inl hstart
      · exact .inr ⟨j, nr, (hinserted' j nr).2 (.inl hnr), hsame⟩
    · exact .inr ⟨i, row, (hinserted' i row).2 (.inr ⟨rfl, rfl⟩), rfl⟩
  case fresh =>
    intro j nr hnr row hrow
    rcases (hinserted' j nr).1 hnr with hnr | ⟨_, rfl⟩
    · exact h.fresh j nr hnr row hrow
    · exact hnone row (h.older row hrow)
  case once =>
    intro j k nr hnr or hor hsame
    rcases (hinserted' j nr).1 hnr with hnr | ⟨rfl, rfl⟩ <;>
      rcases (hinserted' k or).1 hor with hor | ⟨rfl, rfl⟩
    · exact h.once j k nr hnr or hor hsame
    · exact absurd hsame (hnone nr (h.inserted j nr hnr))
    · exact absurd hsame.symm (hnone or (h.inserted k or hor))
    · rfl
  case keyed =>
    intro j nr hnr
    rw [hkey']
    rcases (hinserted' j nr).1 hnr with hnr | ⟨rfl, rfl⟩
    · exact h.keyed j nr hnr
    · exact hkey

namespace Submissions

def known (run : Submissions) (i : Nat) : Sight := ⟨run.calls[i]?.bind QueueCall.key?, [], []⟩

def ghost (run : Submissions) (es : List (Nat × Event queueSql World)) (i : Nat) : Sight :=
  submitScript.ghost run.known es i

variable (run : Submissions)

theorem threads_keep : ∀ i (p : QueueProg Reply), run.threads[i]? = some p →
    p.keeps submitScript (fun r g => g.Ends r) (run.known i) := by
  intro i p hp
  obtain ⟨call, hcall, rfl⟩ : ∃ call, run.calls[i]? = some call ∧ call.prog = p := by
    simpa [threads] using hp
  rw [known, hcall]
  exact call_ends call

theorem kept_step (h : Kept run.start (run.ghost es) e.before)
    (hdue : submitScript.due (run.ghost es i) e.stmt) :
    Kept run.start (run.ghost (es ++ [(i, e)])) e.after := by
  have hghost : ∀ j, run.ghost (es ++ [(i, e)]) j = if i = j then
      submitScript.see (run.ghost es i) e.stmt (Store.answer e.stmt e.before) else run.ghost es j :=
    fun j => Script.ghost_concat _ es i j e
  obtain ⟨c, w⟩ := e
  cases c with
  | inl c =>
    apply h.drain c
    intro j
    rw [hghost]
    split
    · next hij =>
      subst hij
      cases c with
      | select => exact ⟨rfl, rfl, fun mr hmr => mem_append.1 hmr⟩
      | _ => exact ⟨rfl, rfl, fun mr hmr => .inl hmr⟩
    · exact ⟨rfl, rfl, fun mr hmr => .inl hmr⟩
  | inr mr =>
    cases hfree : w.table.insertRefused mr with
    | false =>
      apply h.insert hfree hdue
      intro j
      rw [hghost]
      have hanswer : (Store.answer (S := insertSql) mr w : Except String Unit) = .ok () := by
        change (if w.table.insertRefused mr = true then _ else _) = _
        rw [hfree, if_neg (by simp)]
      have hsee : submitScript.see (run.ghost es i) (.inr mr) (Store.answer (S := insertSql) mr w) =
          { run.ghost es i with inserted := (run.ghost es i).inserted ++ [mr] } := by
        rw [hanswer]
        rfl
      exact congrArg (fun g => if i = j then g else run.ghost es j) hsee
    | true =>
      have hanswer : (Store.answer (S := insertSql) mr w : Except String Unit) =
          .error "UNIQUE constraint failed" := by
        change (if w.table.insertRefused mr = true then _ else _) = _
        rw [hfree, if_pos rfl]
      have hsee : submitScript.see (run.ghost es i) (.inr mr) (Store.answer (S := insertSql) mr w) =
          run.ghost es i := by
        rw [hanswer]
        rfl
      have hsame : run.ghost (es ++ [(i, ⟨.inr mr, w⟩)]) = run.ghost es := by
        funext j
        rw [hghost]
        split
        · next hij => rw [← hij]; exact hsee
        · rfl
      have htable : (Store.effect (S := insertSql) mr w : World).table = w.table :=
        Table.insert_of_refused hfree
      rw [hsame]
      have hafter : ∀ nr, w.Keeps nr → World.Keeps (Store.effect (S := insertSql) mr w) nr :=
        fun nr hnr => hnr.insert mr
      exact ⟨fun j nr hnr => hafter nr (h.seen j nr hnr),
        fun j nr hnr => hafter nr (h.inserted j nr hnr), fun nr hnr => hafter nr (h.older nr hnr),
        fun row hrow => h.origin row (htable ▸ hrow), h.fresh, h.once, h.keyed⟩

theorem keeps_step {e : Event queueSql World} (h : e.before.Keeps mr) : e.after.Keeps mr := by
  obtain ⟨c, w⟩ := e
  cases c with
  | inl c => exact World.Keeps.drain h c
  | inr new => exact World.Keeps.insert h new

theorem see_key (g : Sight) (e : Event queueSql World) :
    (submitScript.see g e.stmt (Store.answer e.stmt e.before)).key? = g.key? := by
  obtain ⟨c, w⟩ := e
  cases c with
  | inl c => cases c <;> rfl
  | inr mr =>
    change (submitScript.see g (.inr mr) (Store.answer (S := insertSql) mr w)).key? = g.key?
    cases (Store.answer (S := insertSql) mr w : Except String Unit) <;> rfl

theorem ghost_key (es : List (Nat × Event queueSql World)) (i : Nat) :
    (run.ghost es i).key? = run.calls[i]?.bind QueueCall.key? := by
  have hover : ∀ (g : Sight) (es : List (Event queueSql World)),
      (submitScript.over g es).key? = g.key? := by
    intro g es
    induction es generalizing g with
    | nil => rfl
    | cons e es ih => rw [Script.over_cons, ih, see_key]
  rw [ghost, Script.ghost, hover, known]

def knows (run : Submissions) (i : Nat) : Sight :=
  run.ghost (interleaveEvents run.schedule run.threads run.start) i

theorem kept_final : Kept run.start run.knows run.final := by
  have hkeeps := interleave_keeps (g := run.known) run.schedule run.start run.threads_keep
  apply (interleave_invariant (I := fun es w => Kept run.start (run.ghost es) w) run.schedule
    run.start _ _).1
  · exact .start fun i => ⟨rfl, rfl⟩
  · intro es i e fs hsplit h
    exact run.kept_step h (hkeeps es i e fs hsplit)

variable {run : Submissions}

theorem returned_sight (h : run.Returned i result) : (run.knows i).Returns result :=
  interleave_ends (g := run.known) run.schedule run.start run.threads_keep i _ h

theorem returned_keeps (h : run.Returned i result) (hkey : run.Submits i key) :
    run.final.Keeps result.mr ∧ result.mr.idempotencyKey = key := by
  have hkept := run.kept_final
  obtain ⟨hseen, hresult⟩ := returned_sight h
  have hstands := hkept.seen i _ hseen
  refine ⟨hstands, ?_⟩
  cases hcreated : result.created with
  | false =>
    rw [hcreated, if_neg (by simp)] at hresult
    exact Option.some.inj (hresult.1.symm.trans ((run.ghost_key _ i).trans hkey))
  | true =>
    rw [hcreated, if_pos rfl] at hresult
    obtain ⟨mr, hmr, hid⟩ := hresult
    have hmrKey := Option.some.inj ((hkept.keyed i mr hmr).symm.trans ((run.ghost_key _ i).trans hkey))
    obtain ⟨row, hrow, hrowKey⟩ := hstands
    obtain ⟨row', hrow', hrowKey'⟩ := hkept.inserted i mr hmr
    rw [← hid] at hrow'
    obtain rfl := Option.some.inj (hrow.symm.trans hrow')
    rw [← hrowKey, hrowKey', hmrKey]

theorem created_inserted (h : run.Returned i result) (hkey : run.Submits i key)
    (hcreated : result.created) : ∃ mr ∈ (run.knows i).inserted, mr.idempotencyKey = key := by
  obtain ⟨_, hresult⟩ := returned_sight h
  rw [if_pos hcreated] at hresult
  obtain ⟨mr, hmr, _⟩ := hresult
  exact ⟨mr, hmr, Option.some.inj ((run.kept_final.keyed i mr hmr).symm.trans ((run.ghost_key _ i).trans hkey))⟩

end Submissions

structure SubmitsOnce (run : Submissions) : Prop where
  /-- One request for a repo, a branch and a submitted head, whatever heads drains have recorded. -/
  unique : ∀ n repoAlias branch headSha, ∀ r ∈ (run.after n).table.rows,
    ∀ s ∈ (run.after n).table.rows,
      r.idempotencyKey = mergeIdempotencyKey repoAlias branch headSha →
      s.idempotencyKey = mergeIdempotencyKey repoAlias branch headSha → r = s
  /-- It stays in the queue under its key. -/
  stays : ∀ m n, m ≤ n → ∀ r ∈ (run.after m).table.rows, (run.after n).Keeps r
  /-- Two calls that return, return the same request. -/
  same : ∀ i j key r s, run.Submits i key → run.Submits j key → run.Returned i r →
    run.Returned j s → r.mr.mrId = s.mr.mrId ∧ r.mr.idempotencyKey = key ∧ run.final.Keeps r.mr
  /-- At most one of them has created it. -/
  once : ∀ i j key r s, run.Submits i key → run.Submits j key → run.Returned i r →
    run.Returned j s → r.created → s.created → i = j
  /-- One of them has, if it was not there before and they have all returned. -/
  created : ∀ key, (∀ row ∈ run.start.table.rows, row.idempotencyKey ≠ key) →
    (∃ i, run.Submits i key) → (∀ i, run.Submits i key → ∃ r, run.Returned i r) →
    ∃ i r, run.Submits i key ∧ run.Returned i r ∧ r.created

/-- Every run of submissions and drains, in any interleaving. -/
theorem submits_once (run : Submissions) : SubmitsOnce run := by
  have hkept := run.kept_final
  constructor
  case unique =>
    intro n repoAlias branch headSha r hr s hs hrkey hskey
    exact Table.eq_of_entry hr hs (congrArg some hrkey) (congrArg some hskey)
  case stays =>
    intro m n hmn r hr
    obtain ⟨es, hchain, _⟩ := interleave_between run.schedule run.threads run.start hmn
    exact (hchain.invariant (I := (·.Keeps r)) (.of_mem hr) fun e _ h =>
      Submissions.keeps_step h).1
  case same =>
    intro i j key r s hi hj hr hs
    obtain ⟨hrkeeps, hrkey⟩ := Submissions.returned_keeps hr hi
    obtain ⟨hskeeps, hskey⟩ := Submissions.returned_keeps hs hj
    exact ⟨hrkeeps.unique hskeeps (hrkey.trans hskey.symm), hrkey, hrkeeps⟩
  case once =>
    intro i j key r s hi hj hr hs hrc hsc
    obtain ⟨mr, hmr, hmrKey⟩ := Submissions.created_inserted hr hi hrc
    obtain ⟨nr, hnr, hnrKey⟩ := Submissions.created_inserted hs hj hsc
    exact hkept.once i j mr hmr nr hnr (hmrKey.trans hnrKey.symm)
  case created =>
    rintro key hnew ⟨i, hi⟩ hall
    obtain ⟨r, hr⟩ := hall i hi
    obtain ⟨⟨row, hrow, hrowKey⟩, hrkey⟩ := Submissions.returned_keeps hr hi
    -- the row came with some call, which has returned as well
    rcases hkept.origin row (Table.get?_some hrow).1 with ⟨mr, hmr, hsame⟩ | ⟨j, mr, hmr, hsame⟩
    · exact absurd (hsame.trans (hrowKey.trans hrkey)) (hnew mr hmr)
    · have hmrKey := hsame.trans (hrowKey.trans hrkey)
      have hj : run.Submits j key := by
        have hkeyed := hkept.keyed j mr hmr
        rw [hmrKey] at hkeyed
        exact (run.ghost_key _ j).symm.trans hkeyed
      obtain ⟨s, hs⟩ := hall j hj
      obtain ⟨_, hresult⟩ := Submissions.returned_sight hs
      refine ⟨j, s, hj, hs, ?_⟩
      by_contra hnot
      rw [if_neg hnot] at hresult
      rw [hresult.2] at hmr
      cases hmr

def buildSubmission (headSha : String) : MergeRequestSubmission where
  repoAlias := "id-agents"
  repoRoot := "/repos/id-agents"
  poolId := "pool"
  branch := "build/feature"
  headSha := headSha
  builder := "builder"
  dispatchId := "d-1"

def resubmittedBranch : Submissions where
  calls := [.enqueue (buildSubmission "aaaa1111") none, .drain "id-agents" {},
    .enqueue (buildSubmission "bbbb2222") none]
  schedule := List.replicate 4 0 ++ List.replicate 20 1 ++ List.replicate 4 2
  start := {
    table := .ofRows []
    held := []
    step := 0
    env := {
      clock := fun _ => 0
      run := fun _ c => match c with
        | .fetchBase .. => .ok { ok := true }
        | .needsRebase .. => .ok true
        | .rebaseOntoBase .. => .ok { ok := true, conflict := false, newHeadSha := some "bbbb2222" }
        | .smoke _ => .ok { ok := true }
        | .promote mr => .ok { ok := true, promotedSha := some mr.headSha }
      lock := fun _ _ => .ok ()
      emitFixForward := fun _ _ _ => .ok none
      releaseLease := fun _ _ => .ok () } }

theorem two_per_head : ((resubmittedBranch.after 28).table.rows.map fun r =>
    (r.mrId, r.repoAlias, r.branch, r.headSha, r.state)) =
      [("mr_19700101_d1_build-feature_aaaa1111", "id-agents", "build/feature", "bbbb2222", .merged),
        ("mr_19700101_d1_build-feature_bbbb2222", "id-agents", "build/feature", "bbbb2222",
          .queued)] := by
  decide +kernel

theorem not_submits_once : ¬ ∀ (run : Submissions) n, ∀ r ∈ (run.after n).table.rows,
    ∀ s ∈ (run.after n).table.rows, r.state ≠ .failed → s.state ≠ .failed →
      r.repoAlias = s.repoAlias → r.branch = s.branch → r.headSha = s.headSha → r = s := by
  intro h
  have htwo := two_per_head
  obtain ⟨r, s, hrows⟩ : ∃ r s, (resubmittedBranch.after 28).table.rows = [r, s] := by
    apply length_eq_two.mp
    simpa using congrArg List.length htwo
  rw [hrows] at htwo
  simp only [map_cons, map_nil, List.cons.injEq, Prod.mk.injEq] at htwo
  obtain ⟨⟨hrid, hrrepo, hrbranch, hrhead, hrstate⟩, ⟨hsid, hsrepo, hsbranch, hshead, hsstate⟩,
    _⟩ := htwo
  have hsame := h resubmittedBranch 28 r (by simp [hrows]) s (by simp [hrows]) (by simp [hrstate])
    (by simp [hsstate]) (hrrepo.trans hsrepo.symm) (hrbranch.trans hsbranch.symm)
    (hrhead.trans hshead.symm)
  rw [hsame, hsid] at hrid
  exact absurd hrid (by decide)

end IdAgents.MergeQueue
