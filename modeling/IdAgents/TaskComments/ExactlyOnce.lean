import IdAgents.TaskComments.Storage

namespace IdAgents.TaskComments
open JsText AtomicProgram List Store Function Option Prod

section
variable {sha256Hex : String → String}

namespace AppendTaskCommentInput

def key (sha256Hex : String → String) (input : AppendTaskCommentInput) : String × String :=
  (input.teamId, stableTaskCommentHash sha256Hex input)

def SameComment (a b : AppendTaskCommentInput) : Prop :=
  a.task.id = b.task.id ∧ a.task.uuid = b.task.uuid ∧ trim a.actor = trim b.actor ∧
    normalizeCommentText a.text = normalizeCommentText b.text

/-- What the two uniqueness keys need of a call beside another: one content has one operation id,
one operation id has one content, and a row id belongs to one content. -/
structure Compatible (sha256Hex : String → String) (a b : AppendTaskCommentInput) : Prop where
  sameContent : a.key sha256Hex = b.key sha256Hex → a.opId = b.opId ∧ a.SameComment b
  sameOp : a.teamId = b.teamId → a.opId = b.opId → a.opId.isSome →
    a.key sha256Hex = b.key sha256Hex
  sameId : taskCommentId sha256Hex a = taskCommentId sha256Hex b →
    a.key sha256Hex = b.key sha256Hex

def OpIdKept (input : AppendTaskCommentInput) : Prop :=
  ∀ op, input.opId = some op → normalizeClientOpId (some op) = some op

end AppendTaskCommentInput

open AppendTaskCommentInput

def CompatibleCalls (sha256Hex : String → String) (calls : List AppendTaskCommentInput) : Prop :=
  ∀ a ∈ calls, a.OpIdKept ∧ ∀ b ∈ calls, a.Compatible sha256Hex b

namespace TaskCommentRow

def key (row : TaskCommentRow) : String × String := (row.teamId, row.hash)

def Records (row : TaskCommentRow) (input : AppendTaskCommentInput) : Prop :=
  row.taskId = input.task.id ∧ row.taskUuid = input.task.uuid ∧ row.actor = trim input.actor ∧
    normalizeCommentText row.commentText = normalizeCommentText input.text

end TaskCommentRow

theorem commentRow_key (a : AppendTaskCommentInput) :
    (commentRow sha256Hex a).key = a.key sha256Hex := rfl

theorem commentRow_records (h : a.SameComment b) : (commentRow sha256Hex a).Records b := by
  obtain ⟨htask, huuid, hactor, htext⟩ := h
  refine ⟨htask, huuid, hactor, ?_⟩
  rw [← htext]
  simp only [commentRow, normalizeCommentText, trim_trim]

/-- Where a call stands: before its first look-up, before its insert, before its read-back, or
returned. The last two follow a row under its key; `own` tells that the call inserted it. -/
inductive Stage (sha256Hex : String → String) (rows : List TaskCommentRow)
    (a : AppendTaskCommentInput) : Bool → Prog AppendTaskCommentResult → Prop where
  | start : Stage sha256Hex rows a false (appendTaskComment sha256Hex a)
  | insert : Stage sha256Hex rows a false (insertComment sha256Hex a)
  | readBack (n : Nat) (h : ∃ r ∈ rows, r.key = a.key sha256Hex) :
      Stage sha256Hex rows a (decide (0 < n)) (readBack sha256Hex a n)
  | returned (r : TaskCommentRow) (own : Bool) (hr : r ∈ rows) (h : r.key = a.key sha256Hex) :
      Stage sha256Hex rows a own (.ret ⟨r, own⟩)

theorem Stage.mono (h : Stage sha256Hex rows a own p) (hrows : ∀ r ∈ rows, r ∈ rows') :
    Stage sha256Hex rows' a own p := by
  cases h with
  | start => exact .start
  | insert => exact .insert
  | readBack n h =>
    obtain ⟨r, hr, hkey⟩ := h
    exact .readBack n ⟨r, hrows r hr, hkey⟩
  | returned r own hr h => exact .returned r own (hrows r hr) h

structure TableOf (sha256Hex : String → String) (calls : List AppendTaskCommentInput)
    (rows : List TaskCommentRow) : Prop where
  recorded : ∀ r ∈ rows, ∃ a ∈ calls, r = commentRow sha256Hex a
  unique : ∀ r ∈ rows, ∀ s ∈ rows, r.key = s.key → r = s

theorem TableOf.concat (h : TableOf sha256Hex calls rows) (ha : a ∈ calls)
    (hnew : ∀ r ∈ rows, r.key ≠ a.key sha256Hex) :
    TableOf sha256Hex calls (rows ++ [commentRow sha256Hex a]) := by
  constructor
  · intro r hr
    obtain hr | rfl := mem_append.mp hr |>.imp_right mem_singleton.mp
    · exact h.recorded r hr
    · exact ⟨a, ha, rfl⟩
  · intro r hr s hs hkey
    obtain hr | rfl := mem_append.mp hr |>.imp_right mem_singleton.mp
    · obtain hs | rfl := mem_append.mp hs |>.imp_right mem_singleton.mp
      · exact h.unique r hr s hs hkey
      · exact absurd hkey (hnew r hr)
    · obtain hs | rfl := mem_append.mp hs |>.imp_right mem_singleton.mp
      · exact absurd hkey.symm (hnew s hs)
      · rfl

section
variable {calls : List AppendTaskCommentInput} {rows : List TaskCommentRow}
  {a : AppendTaskCommentInput}

theorem found_by_op (h : TableOf sha256Hex calls rows) (hcalls : CompatibleCalls sha256Hex calls)
    (ha : a ∈ calls) (hop : a.opId = some op)
    (hfind : rows.find? (fun r => r.teamId = a.teamId && r.clientOpId = some op) = some r) :
    r ∈ rows ∧ r.key = a.key sha256Hex := by
  have hr := mem_of_find?_eq_some hfind
  have hmatch := find?_some hfind
  simp only [Bool.and_eq_true, decide_eq_true_eq] at hmatch
  obtain ⟨b, hb, rfl⟩ := h.recorded r hr
  refine ⟨hr, ?_⟩
  rw [commentRow_key]
  exact (((hcalls a ha).2 b hb).sameOp hmatch.1.symm (hop.trans hmatch.2.symm)
    (by rw [hop]; rfl)).symm

theorem op_finds (h : TableOf sha256Hex calls rows) (hcalls : CompatibleCalls sha256Hex calls)
    (ha : a ∈ calls) (hop : a.opId = some op) (hr : r ∈ rows) (hkey : r.key = a.key sha256Hex) :
    ∃ s, rows.find? (fun r => r.teamId = a.teamId && r.clientOpId = some op) = some s := by
  rw [← isSome_iff_exists, find?_isSome]
  obtain ⟨b, hb, rfl⟩ := h.recorded r hr
  have hsame := (((hcalls a ha).2 b hb).sameContent hkey.symm).1
  refine ⟨_, hr, ?_⟩
  have hteam : b.teamId = a.teamId := congrArg Prod.fst hkey
  simp [commentRow, hteam, ← hsame, hop]

theorem insertAnswer_cases (h : TableOf sha256Hex calls rows)
    (hcalls : CompatibleCalls sha256Hex calls) (ha : a ∈ calls) :
    (insertAnswer rows (commentRow sha256Hex a) = .ok 0 ∧ ∃ r ∈ rows, r.key = a.key sha256Hex) ∨
    (insertAnswer rows (commentRow sha256Hex a) = .ok 1 ∧ ∀ r ∈ rows, r.key ≠ a.key sha256Hex) := by
  rw [insertAnswer]
  by_cases hconflict : conflictsOnHash rows (commentRow sha256Hex a) = true
  · rw [if_pos hconflict]
    left
    obtain ⟨r, hr, hkey⟩ := any_eq_true.mp hconflict
    simp only [Bool.and_eq_true, decide_eq_true_eq] at hkey
    exact ⟨rfl, r, hr, Prod.ext hkey.1 hkey.2⟩
  · rw [if_neg hconflict]
    have hnew : ∀ r ∈ rows, r.key ≠ a.key sha256Hex := by
      intro r hr hkey
      apply hconflict
      rw [conflictsOnHash, List.any_eq_true]
      have hteam : r.teamId = a.teamId := congrArg Prod.fst hkey
      have hhash : r.hash = stableTaskCommentHash sha256Hex a := congrArg Prod.snd hkey
      exact ⟨r, hr, by simp [commentRow, hteam, hhash]⟩
    have hid : ¬ (rows.any fun r => r.id = (commentRow sha256Hex a).id) = true := by
      rw [List.any_eq_true]
      rintro ⟨r, hr, hid⟩
      obtain ⟨b, hb, rfl⟩ := h.recorded r hr
      rw [decide_eq_true_eq] at hid
      exact hnew _ hr (((hcalls b hb).2 a ha).sameId hid)
    have hop : ¬ (rows.any fun r => r.teamId = (commentRow sha256Hex a).teamId &&
        r.clientOpId.isSome && r.clientOpId = (commentRow sha256Hex a).clientOpId) = true := by
      rw [List.any_eq_true]
      rintro ⟨r, hr, hop⟩
      obtain ⟨b, hb, rfl⟩ := h.recorded r hr
      simp only [Bool.and_eq_true, decide_eq_true_eq] at hop
      exact hnew _ hr (((hcalls b hb).2 a ha).sameOp hop.1.1 hop.2 hop.1.2)
    right
    rw [brokenKey, if_neg hid, if_neg hop]
    exact ⟨rfl, hnew⟩

end

structure PoolSound (sha256Hex : String → String) (calls : List AppendTaskCommentInput)
    (own : Nat → Bool) (ps : List (Prog AppendTaskCommentResult)) (rows : List TaskCommentRow) :
    Prop where
  table : TableOf sha256Hex calls rows
  length : ps.length = calls.length
  stage : ∀ i a p, calls[i]? = some a → ps[i]? = some p → Stage sha256Hex rows a (own i) p
  owner : ∀ r ∈ rows, ∃ i a, calls[i]? = some a ∧ own i = true ∧ a.key sha256Hex = r.key
  owned : ∀ i a, calls[i]? = some a → own i = true → ∃ r ∈ rows, r.key = a.key sha256Hex
  single : ∀ i j a b, calls[i]? = some a → calls[j]? = some b → own i = true → own j = true →
    a.key sha256Hex = b.key sha256Hex → i = j

section
variable {calls : List AppendTaskCommentInput} {rows : List TaskCommentRow}
  {ps : List (Prog AppendTaskCommentResult)} {a : AppendTaskCommentInput} {i j : Nat}

theorem PoolSound.start : PoolSound sha256Hex calls (fun _ => false)
    (calls.map (appendTaskComment sha256Hex)) [] where
  table := ⟨by simp, by simp⟩
  length := length_map _
  stage := by
    intro i a p ha hp
    rw [getElem?_map, ha] at hp
    rw [← Option.some.inj hp]
    exact .start
  owner := by simp
  owned := by simp
  single := by simp

theorem PoolSound.move (h : PoolSound sha256Hex calls own ps rows) (ha : calls[j]? = some a)
    (hj : ps[j]? = some (.issue c k)) (hstage : Stage sha256Hex rows a (own j) (k x)) :
    PoolSound sha256Hex calls own (ps.set j (k x)) rows where
  table := h.table
  length := length_set.trans h.length
  stage := by
    intro i b p hb hp
    obtain ⟨rfl, rfl⟩ | ⟨_, hi⟩ := getElem?_step hj hp
    · rw [Option.some.inj (hb.symm.trans ha)]
      exact hstage
    · exact h.stage i b p hb hi
  owner := h.owner
  owned := h.owned
  single := h.single

theorem PoolSound.record (h : PoolSound sha256Hex calls own ps rows) (ha : calls[j]? = some a)
    (hj : ps[j]? = some (.issue c k)) (hnew : ∀ r ∈ rows, r.key ≠ a.key sha256Hex)
    (hk : k x = readBack sha256Hex a 1) :
    PoolSound sha256Hex calls (update own j true) (ps.set j (k x))
      (rows ++ [commentRow sha256Hex a]) where
  table := h.table.concat (mem_of_getElem? ha) hnew
  length := length_set.trans h.length
  stage := by
    intro i b p hb hp
    obtain ⟨rfl, rfl⟩ | ⟨hne, hi⟩ := getElem?_step hj hp
    · rw [Option.some.inj (hb.symm.trans ha), update_self, hk]
      exact .readBack 1 ⟨commentRow sha256Hex a, by simp, rfl⟩
    · rw [update_of_ne hne]
      exact (h.stage i b p hb hi).mono fun r hr => mem_append_left _ hr
  owner := by
    intro r hr
    obtain hr | rfl := mem_append.mp hr |>.imp_right mem_singleton.mp
    · obtain ⟨i, b, hb, hown, hkey⟩ := h.owner r hr
      refine ⟨i, b, hb, ?_, hkey⟩
      rw [update_apply, hown, ite_self]
    · exact ⟨j, a, ha, update_self .., rfl⟩
  owned := by
    intro i b hb hown
    by_cases hij : i = j
    · subst hij
      rw [Option.some.inj (hb.symm.trans ha)]
      exact ⟨commentRow sha256Hex a, by simp, rfl⟩
    · rw [update_of_ne hij] at hown
      obtain ⟨r, hr, hkey⟩ := h.owned i b hb hown
      exact ⟨r, mem_append_left _ hr, hkey⟩
  single := by
    have hfresh : ∀ i b, calls[i]? = some b → i ≠ j → update own j true i = true →
        b.key sha256Hex ≠ a.key sha256Hex := by
      intro i b hb hij hown hkey
      rw [update_of_ne hij] at hown
      obtain ⟨r, hr, hr'⟩ := h.owned i b hb hown
      exact hnew r hr (hr'.trans hkey)
    intro i i' b b' hb hb' hown hown' hkey
    by_cases hij : i = j
    · by_cases hij' : i' = j
      · rw [hij, hij']
      · subst hij
        rw [Option.some.inj (hb.symm.trans ha)] at hkey
        exact absurd hkey.symm (hfresh i' b' hb' hij' hown')
    · by_cases hij' : i' = j
      · subst hij'
        rw [Option.some.inj (hb'.symm.trans ha)] at hkey
        exact absurd hkey (hfresh i b hb hij hown)
      · rw [update_of_ne hij] at hown
        rw [update_of_ne hij'] at hown'
        exact h.single i i' b b' hb hb' hown hown' hkey

theorem getByOp_eq (hkept : a.OpIdKept) (hop : a.opId = some op) :
    getTaskCommentByClientOpId a.teamId op =
      .issue (.selectByClientOpId a.teamId op) fun row => .ret row := by
  rw [getTaskCommentByClientOpId, hkept op hop]

theorem PoolSound.insertStep (h : PoolSound sha256Hex calls own ps rows)
    (hcalls : CompatibleCalls sha256Hex calls) (ha : calls[j]? = some a)
    (hj : ps[j]? = some (.issue c k)) (hown : own j = false)
    (hp : insertComment sha256Hex a = .issue c k) :
    ∃ own', PoolSound sha256Hex calls own' (ps.set j (k (answer c rows))) (effect c rows) := by
  cases hp
  obtain ⟨hanswer, hfound⟩ | ⟨hanswer, hnew⟩ :=
    insertAnswer_cases h.table hcalls (mem_of_getElem? ha)
  · have heffect : effect (S := sql) (.insert (commentRow sha256Hex a)) rows = rows := by
      simp only [effect, hanswer]
    refine ⟨own, ?_⟩
    rw [heffect]
    apply h.move ha hj
    rw [hown]
    simp only [answer, hanswer]
    exact .readBack 0 hfound
  · have heffect : effect (S := sql) (.insert (commentRow sha256Hex a)) rows =
        rows ++ [commentRow sha256Hex a] := by
      simp only [effect, hanswer]
    refine ⟨update own j true, ?_⟩
    rw [heffect]
    apply h.record ha hj hnew
    simp only [answer, hanswer]

theorem PoolSound.step (h : ∃ own, PoolSound sha256Hex calls own ps rows)
    (hcalls : CompatibleCalls sha256Hex calls) (hj : ps[j]? = some (.issue c k)) :
    ∃ own, PoolSound sha256Hex calls own (ps.set j (k (answer c rows))) (effect c rows) := by
  obtain ⟨own, h⟩ := h
  obtain ⟨a, ha⟩ : ∃ a, calls[j]? = some a := by
    have hlt := (List.getElem?_eq_some_iff.mp hj).1
    rw [h.length] at hlt
    exact ⟨_, getElem?_eq_getElem hlt⟩
  have hmem := mem_of_getElem? ha
  have hkept := (hcalls a hmem).1
  have hstage := h.stage j a _ ha hj
  generalize hp : Program.issue c k = p at hstage
  generalize hown : own j = b at hstage
  cases hstage with
  | start =>
    cases hop : a.opId with
    | none =>
      rw [appendTaskComment, hop] at hp
      exact h.insertStep hcalls ha hj hown hp.symm
    | some op =>
      rw [appendTaskComment, hop] at hp
      dsimp only at hp
      rw [getByOp_eq hkept hop] at hp
      cases hp
      refine ⟨own, h.move ha hj ?_⟩
      rw [hown]
      simp only [answer, Program.ret_bind]
      cases hfind : rows.find? fun r => r.teamId = a.teamId && r.clientOpId = some op with
      | none => exact .insert
      | some r =>
        obtain ⟨hr, hkey⟩ := found_by_op h.table hcalls hmem hop hfind
        exact .returned r false hr hkey
  | insert => exact h.insertStep hcalls ha hj hown hp.symm
  | readBack n hfound =>
    obtain ⟨r, hr, hkey⟩ := hfound
    cases hop : a.opId with
    | none =>
      rw [readBack, hop] at hp
      cases hp
      refine ⟨own, h.move ha hj ?_⟩
      rw [hown]
      simp only [answer]
      obtain ⟨s, hs⟩ : ∃ s, (rows.find? fun r => r.teamId = a.teamId &&
          r.hash = stableTaskCommentHash sha256Hex a) = some s := by
        rw [← isSome_iff_exists, find?_isSome]
        have hteam : r.teamId = a.teamId := congrArg Prod.fst hkey
        have hhash : r.hash = stableTaskCommentHash sha256Hex a := congrArg Prod.snd hkey
        exact ⟨r, hr, by simp [hteam, hhash]⟩
      rw [hs]
      have hmatch := find?_some hs
      simp only [Bool.and_eq_true, decide_eq_true_eq] at hmatch
      exact .returned s _ (List.mem_of_find?_eq_some hs) (Prod.ext hmatch.1 hmatch.2)
    | some op =>
      rw [readBack, hop] at hp
      dsimp only at hp
      rw [getByOp_eq hkept hop] at hp
      cases hp
      refine ⟨own, h.move ha hj ?_⟩
      rw [hown]
      simp only [answer]
      obtain ⟨s, hs⟩ := op_finds h.table hcalls hmem hop hr hkey
      rw [hs]
      obtain ⟨hs', hkey'⟩ := found_by_op h.table hcalls hmem hop hs
      exact .returned s _ hs' hkey'
  | returned r own hr hkey => cases hp

theorem getByOp_within (teamId op : String) : (getTaskCommentByClientOpId teamId op).Within 1 := by
  rw [getTaskCommentByClientOpId]
  split
  · trivial
  · exact fun row => trivial

variable (a : AppendTaskCommentInput)

theorem readBack_within (n : Nat) : (readBack sha256Hex a n).Within 1 := by
  have hlast (row) : (recordedComment n row).Within 0 := by
    cases row <;> trivial
  rw [readBack]
  cases a.opId with
  | none => exact hlast
  | some op => exact (getByOp_within a.teamId op).bind hlast

theorem insertComment_within : (insertComment sha256Hex a).Within 2 := by
  intro inserted
  cases inserted with
  | error e => trivial
  | ok n => exact readBack_within a n

theorem appendTaskComment_within : (appendTaskComment sha256Hex a).Within 3 := by
  rw [appendTaskComment]
  cases a.opId with
  | none => exact (insertComment_within a).mono (by decide)
  | some op =>
    apply Program.Within.bind (m := 1) (n := 2) (getByOp_within a.teamId op)
    intro existing
    cases existing with
    | none => exact insertComment_within a
    | some row => trivial

end

end

/-- Every history of the calls, in whatever order their statements come, records each comment
exactly once: with three turns each, every call has returned a row of its comment, calls with one
operation id have returned one row, and one call says of each returned row that it inserted it. -/
def RecordedOnce (sha256Hex : String → String) (calls : List AppendTaskCommentInput) : Prop :=
  ∀ is : List Nat, (∀ i < calls.length, 3 ≤ is.count i) →
    let final := (interleave is (calls.map (appendTaskComment sha256Hex)) []).1
    (∀ (i : Nat) (a : AppendTaskCommentInput), calls[i]? = some a → trim a.text ≠ "" →
      ∃ result, final[i]? = some (.ret result) ∧ result.row.Records a) ∧
    (∀ (i j : Nat) (a b : AppendTaskCommentInput) (result result' : AppendTaskCommentResult), calls[i]? = some a → calls[j]? = some b →
      a.teamId = b.teamId → a.opId = b.opId → a.opId.isSome →
      final[i]? = some (.ret result) → final[j]? = some (.ret result') →
      result.row = result'.row) ∧
    ∀ (i : Nat) (result : AppendTaskCommentResult), final[i]? = some (.ret result) →
      ∃! j : Nat, final[j]? = some (.ret ⟨result.row, true⟩)

theorem Stage.of_ended (h : Stage sha256Hex rows a own p) (hend : p.ended) (hkept : a.OpIdKept) :
    ∃ r ∈ rows, r.key = a.key sha256Hex ∧ p = .ret ⟨r, own⟩ := by
  cases h with
  | start =>
    cases hop : a.opId with
    | none =>
      rw [appendTaskComment, hop] at hend
      cases hend
    | some op =>
      rw [appendTaskComment, hop] at hend
      dsimp only at hend
      rw [getByOp_eq hkept hop] at hend
      cases hend
  | insert => cases hend
  | readBack n h =>
    cases hop : a.opId with
    | none =>
      rw [TaskComments.readBack, hop] at hend
      cases hend
    | some op =>
      rw [TaskComments.readBack, hop] at hend
      dsimp only at hend
      rw [getByOp_eq hkept hop] at hend
      cases hend
  | returned r own hr h => exact ⟨r, hr, h, rfl⟩

/-- Calls whose keys are in order are recorded exactly once. -/
theorem appendTaskComment_recordedOnce (sha256Hex : String → String)
    (calls : List AppendTaskCommentInput) (hcalls : CompatibleCalls sha256Hex calls) :
    RecordedOnce sha256Hex calls := by
  intro is hturns
  obtain ⟨own, hpool⟩ := interleave_pool
    (I := fun ps rows => ∃ own, PoolSound sha256Hex calls own ps rows) is ⟨_, .start⟩
    fun ps rows j c k h hj => PoolSound.step h hcalls hj
  generalize hfinal : interleave is (calls.map (appendTaskComment sha256Hex)) [] = final at hpool
  have hreturned : ∀ (i : Nat) (a : AppendTaskCommentInput), calls[i]? = some a →
      ∃ r ∈ final.2, r.key = a.key sha256Hex ∧ final.1[i]? = some (.ret ⟨r, own i⟩) := by
    intro i a ha
    have hi := (List.getElem?_eq_some_iff.mp ha).1
    have hkept := (hcalls a (List.mem_of_getElem? ha)).1
    obtain ⟨p, hp, hend⟩ := interleave_within is []
      (by rw [getElem?_map, ha]; rfl) (appendTaskComment_within a) (hturns i hi)
    rw [hfinal] at hp
    obtain ⟨r, hr, hkey, rfl⟩ := (hpool.stage i a p ha hp).of_ended hend hkept
    exact ⟨r, hr, hkey, hp⟩
  have hcall : ∀ (i : Nat) (result : AppendTaskCommentResult),
      final.1[i]? = some (.ret result) → ∃ a, calls[i]? = some a ∧ result.row ∈ final.2 ∧
        result.row.key = a.key sha256Hex ∧ result.inserted = own i := by
    intro i result hresult
    have hi := (List.getElem?_eq_some_iff.mp hresult).1
    rw [hpool.length] at hi
    obtain ⟨r, hr, hkey, hret⟩ := hreturned i _ (getElem?_eq_getElem hi)
    rw [hresult] at hret
    cases hret
    exact ⟨_, getElem?_eq_getElem hi, hr, hkey, rfl⟩
  refine ⟨?_, ?_, ?_⟩
  · intro i a ha _
    obtain ⟨r, hr, hkey, hret⟩ := hreturned i a ha
    obtain ⟨b, hb, rfl⟩ := hpool.table.recorded r hr
    exact ⟨_, hret, commentRow_records (((hcalls b hb).2 a (mem_of_getElem? ha)).sameContent
      hkey).2⟩
  · intro i j a b result result' ha hb hteam hop hsome hresult hresult'
    obtain ⟨a', ha', hr, hkey, _⟩ := hcall i result hresult
    obtain ⟨b', hb', hr', hkey', _⟩ := hcall j result' hresult'
    cases ha.symm.trans ha'
    cases hb.symm.trans hb'
    have hsame := ((hcalls a (mem_of_getElem? ha)).2 b (mem_of_getElem? hb)).sameOp
      hteam hop hsome
    exact hpool.table.unique _ hr _ hr' (by rw [hkey, hkey', hsame])
  · intro i result hresult
    obtain ⟨a, _, hr, _, _⟩ := hcall i result hresult
    obtain ⟨j, b, hb, hown, hkey⟩ := hpool.owner _ hr
    obtain ⟨r, hr', hkey', hret⟩ := hreturned j b hb
    refine ⟨j, ?_, ?_⟩
    · have hrow : r = result.row := hpool.table.unique r hr' _ hr (hkey'.trans hkey)
      rw [hrow, hown] at hret
      exact hret
    · intro j' hj'
      obtain ⟨b', hb', _, hkey'', hown'⟩ := hcall j' _ hj'
      exact hpool.single j' j b' b hb' hb hown'.symm hown (hkey''.symm.trans hkey.symm)

def reversedText (text : String) : String := String.ofList text.toList.reverse

def repostedComment : List AppendTaskCommentInput :=
  let task : TaskRow := ⟨"task-1", "ship", some "u-1", "Ship it"⟩
  [⟨"team", task, none, none, "done", "kay", some 1, none, 2, 3⟩,
    ⟨"team", task, none, none, "done", "kay", some 4, some "op-1", 5, 6⟩]

/-- The second of the calls finds no row under its operation id, inserts none and throws. -/
theorem repostedComment_throws : ¬ RecordedOnce reversedText repostedComment := by
  intro h
  obtain ⟨hreturns, _⟩ := h [0, 0, 0, 1, 1, 1] (by decide)
  obtain ⟨result, hresult, _⟩ := hreturns 1 _ rfl (by decide +kernel)
  have hthrown : ((interleave [0, 0, 0, 1, 1, 1]
      (repostedComment.map (appendTaskComment reversedText)) []).1[1]?).any
      (fun p => (p.run ([] : List TaskCommentRow)).1.isOk) = false := by decide +kernel
  rw [hresult] at hthrown
  cases hthrown

def retriedComment : List AppendTaskCommentInput :=
  let task : TaskRow := ⟨"task-1", "ship", some "u-1", "Ship it"⟩
  [⟨"team", task, none, none, "done", "kay", some 1, some "op-1", 2, 3⟩,
    ⟨"team", task, none, none, " done ", "kay", some 4, some "op-1", 5, 6⟩,
    ⟨"team", task, none, none, "thanks", "kay", some 7, none, 8, 9⟩]

theorem retriedComment_once : CompatibleCalls reversedText retriedComment ∧
      RecordedOnce reversedText retriedComment := by
  have hkeys : ∀ a ∈ retriedComment,
      (∀ op ∈ a.opId, normalizeClientOpId (some op) = some op) ∧ ∀ b ∈ retriedComment,
        (a.key reversedText = b.key reversedText → a.opId = b.opId ∧
          a.task.id = b.task.id ∧ a.task.uuid = b.task.uuid ∧ trim a.actor = trim b.actor ∧
          normalizeCommentText a.text = normalizeCommentText b.text) ∧
        (a.teamId = b.teamId → a.opId = b.opId → a.opId.isSome →
          a.key reversedText = b.key reversedText) ∧
        (taskCommentId reversedText a = taskCommentId reversedText b →
          a.key reversedText = b.key reversedText) := by decide +kernel
  have hcalls : CompatibleCalls reversedText retriedComment := by
    intro a ha
    obtain ⟨hkept, hpairs⟩ := hkeys a ha
    refine ⟨hkept, fun b hb => ?_⟩
    obtain ⟨hcontent, hop, hid⟩ := hpairs b hb
    exact ⟨hcontent, hop, hid⟩
  exact ⟨hcalls, appendTaskComment_recordedOnce _ _ hcalls⟩

end IdAgents.TaskComments
