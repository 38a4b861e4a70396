import IdAgents.AgentSharing.Grants

namespace IdAgents.AgentSharing
open JsText AtomicProgram List

inductive Call where
  | insert (g : BuiltGrant)
  | revoke (grantId revokedBy : String) (nowIso : Instant)

inductive Answer where
  | granted (result : InsertGrantResult)
  | revoked (result : RevokeResult)

def granted (result : InsertGrantResult) : Prog Answer := .ret (.granted result)

def revoked (result : RevokeResult) : Prog Answer := .ret (.revoked result)

def Call.prog : Call → Prog Answer
  | insert g => (insertGrant g.grant).bind granted
  | revoke grantId revokedBy nowIso => (revokeGrant grantId revokedBy nowIso).bind AgentSharing.revoked

def after (calls : List Call) (is : List Nat) : List (Prog Answer) × List GrantRow :=
  interleave is (calls.map Call.prog) []

structure DistinctGrants (calls : List Call) : Prop where
  ids : ∀ (i j : Nat) (g h : BuiltGrant), calls[i]? = some (.insert g) →
    calls[j]? = some (.insert h) → g.grant.grantId = h.grant.grantId → i = j
  keys : ∀ g h, Call.insert g ∈ calls → Call.insert h ∈ calls →
    grantIdentityKey g.grant.toGrantTuple = grantIdentityKey h.grant.toGrantTuple →
    g.grant.toGrantTuple = h.grant.toGrantTuple

/-- What a call has looked up still holds when it writes: no active grant has taken the identity
of the one it inserts, and the grant it changes has not been revoked. -/
def StillCurrent : Stmt → List GrantRow → Prop
  | .insert row, rows => ∀ r ∈ rows, r.isActive → r.identityKey ≠ row.identityKey
  | .updateScope _ grantId, rows => ∀ r ∈ rows, r.grantId = grantId → r.isActive
  | .updateRevoked _ _ grantId, rows => ∀ r ∈ rows, r.grantId = grantId → r.isActive
  | _, _ => True

instance (c : Stmt) (rows : List GrantRow) : Decidable (StillCurrent c rows) :=
  match c with
  | .insert row => inferInstanceAs
      (Decidable (∀ r ∈ rows, r.isActive → r.identityKey ≠ row.identityKey))
  | .updateScope _ grantId => inferInstanceAs
      (Decidable (∀ r ∈ rows, r.grantId = grantId → r.isActive))
  | .updateRevoked _ _ grantId => inferInstanceAs
      (Decidable (∀ r ∈ rows, r.grantId = grantId → r.isActive))
  | .selectActive _ | .selectById _ => isTrue trivial

def AsAsked (grant : Grant) (result : InsertGrantResult) (rows : List GrantRow) : Prop :=
  result.grant.toGrantTuple = grant.toGrantTuple ∧ result.grant.revokedAt = none ∧
  (grant.scope = .collaborate → result.grant.scope = .collaborate) ∧
  ∃ row ∈ rows, row.grantId = result.grant.grantId ∧ row.isActive ∧
    row.toGrantTuple = grant.toGrantTuple ∧ row.scope = result.grant.scope

def raiseScope (existing : Grant) : Prog Answer :=
  .issue (.updateScope .collaborate existing.grantId) fun _ =>
    .ret (.granted ⟨{ existing with scope := .collaborate }, false⟩)

inductive Stage (rows : List GrantRow) : Call → Prog Answer → Prop where
  | lookUp (hnew : ∀ r ∈ rows, r.grantId ≠ g.grant.grantId) :
      Stage rows (.insert g) (Call.insert g).prog
  | create (hnew : ∀ r ∈ rows, r.grantId ≠ g.grant.grantId) :
      Stage rows (.insert g) ((createGrant g.grant).bind granted)
  | raise (existing : Grant) (htuple : existing.toGrantTuple = g.grant.toGrantTuple)
      (hactive : existing.revokedAt = none)
      (hrow : ∃ r ∈ rows, r.grantId = existing.grantId ∧
        r.toGrantTuple = existing.toGrantTuple) :
      Stage rows (.insert g) (raiseScope existing)
  | granted (result : InsertGrantResult) : Stage rows (.insert g) (.ret (.granted result))
  | lookUpId : Stage rows (.revoke grantId by_ now) (Call.revoke grantId by_ now).prog
  | revoke (current : Grant) : Stage rows (.revoke grantId by_ now)
      (.issue (.updateRevoked now by_ grantId) fun _ =>
        .ret (.revoked (.revoked { current with revokedAt := some now, revokedBy := some by_ })))
  | revoked (result : RevokeResult) : Stage rows (.revoke grantId by_ now) (.ret (.revoked result))

theorem Stage.frame (h : Stage rows call p)
    (hkept : ∀ r ∈ rows, ∃ s ∈ rows', s.grantId = r.grantId ∧ s.toGrantTuple = r.toGrantTuple)
    (hfrom : ∀ s ∈ rows', ∃ r ∈ rows, s.grantId = r.grantId) : Stage rows' call p := by
  have hids (id : String) (hnew : ∀ r ∈ rows, r.grantId ≠ id) : ∀ s ∈ rows', s.grantId ≠ id := by
    intro s hs heq
    obtain ⟨r, hr, hid⟩ := hfrom s hs
    exact hnew r hr (hid.symm.trans heq)
  cases h with
  | lookUp hnew => exact .lookUp (hids _ hnew)
  | create hnew => exact .create (hids _ hnew)
  | raise existing htuple hactive hrow =>
    obtain ⟨r, hr, hid, ht⟩ := hrow
    obtain ⟨s, hs, hid', ht'⟩ := hkept r hr
    exact .raise existing htuple hactive ⟨s, hs, hid'.trans hid, ht'.trans ht⟩
  | granted result => exact .granted result
  | lookUpId => exact .lookUpId
  | revoke current => exact .revoke current
  | revoked result => exact .revoked result

theorem Stage.concat (h : Stage rows call p)
    (hne : ∀ g, call = .insert g → row.grantId ≠ g.grant.grantId) :
    Stage (rows ++ [row]) call p := by
  have hids (g : BuiltGrant) (hg : row.grantId ≠ g.grant.grantId)
      (hnew : ∀ r ∈ rows, r.grantId ≠ g.grant.grantId) :
      ∀ r ∈ rows ++ [row], r.grantId ≠ g.grant.grantId := by
    intro r hr
    obtain hr | rfl := mem_append.mp hr |>.imp_right mem_singleton.mp
    · exact hnew r hr
    · exact hg
  cases h with
  | lookUp hnew => exact .lookUp (hids _ (hne _ rfl) hnew)
  | create hnew => exact .create (hids _ (hne _ rfl) hnew)
  | raise existing htuple hactive hrow =>
    obtain ⟨r, hr, hrest⟩ := hrow
    exact .raise existing htuple hactive ⟨r, mem_append_left _ hr, hrest⟩
  | granted result => exact .granted result
  | lookUpId => exact .lookUpId
  | revoke current => exact .revoke current
  | revoked result => exact .revoked result

structure GrantTable (calls : List Call) (rows : List GrantRow) : Prop where
  ids : ∀ r ∈ rows, ∀ s ∈ rows, r.grantId = s.grantId → r = s
  active : ∀ r ∈ rows, ∀ s ∈ rows, r.isActive → s.isActive → r.identityKey = s.identityKey →
    r = s
  keyed : ∀ r ∈ rows, r.identityKey = grantIdentityKey r.toGrantTuple
  source : ∀ r ∈ rows, ∃ g, Call.insert g ∈ calls ∧ r.toGrantTuple = g.grant.toGrantTuple

structure GrantPool (calls : List Call) (ps : List (Prog Answer)) (rows : List GrantRow) :
    Prop where
  table : GrantTable calls rows
  length : ps.length = calls.length
  stage : ∀ (i : Nat) (call : Call) (p : Prog Answer), calls[i]? = some call → ps[i]? = some p →
    Stage rows call p

structure Keeps (set : GrantRow → GrantRow) : Prop where
  grantId : ∀ r, (set r).grantId = r.grantId
  tuple : ∀ r, (set r).toGrantTuple = r.toGrantTuple
  key : ∀ r, (set r).identityKey = r.identityKey
  active : ∀ r, (set r).isActive → r.isActive

theorem keeps_where (h : Keeps change) (grantId : String) :
    Keeps fun row => if row.grantId = grantId then change row else row := by
  constructor <;> intro r <;> split
  · exact h.grantId r
  · rfl
  · exact h.tuple r
  · rfl
  · exact h.key r
  · rfl
  · exact h.active r
  · exact fun hr => hr

theorem keeps_scope (scope : GrantScope) : Keeps fun row => { row with scope := scope } :=
  ⟨fun _ => rfl, fun _ => rfl, fun _ => rfl, fun _ h => h⟩

theorem keeps_revoked (at_ : Instant) (by_ : String) :
    Keeps fun row => { row with revokedAt := some at_, revokedBy := some by_ } :=
  ⟨fun _ => rfl, fun _ => rfl, fun _ => rfl, fun _ h => by cases h⟩

theorem GrantTable.map (h : GrantTable calls rows)
    (hset : Keeps change) : GrantTable calls (rows.map change) where
  ids := by
    intro r hr s hs heq
    obtain ⟨r, hr', rfl⟩ := mem_map.mp hr
    obtain ⟨s, hs', rfl⟩ := mem_map.mp hs
    rw [hset.grantId, hset.grantId] at heq
    rw [h.ids r hr' s hs' heq]
  active := by
    intro r hr s hs har has heq
    obtain ⟨r, hr', rfl⟩ := mem_map.mp hr
    obtain ⟨s, hs', rfl⟩ := mem_map.mp hs
    rw [hset.key, hset.key] at heq
    rw [h.active r hr' s hs' (hset.active r har) (hset.active s has) heq]
  keyed := by
    intro r hr
    obtain ⟨r, hr', rfl⟩ := mem_map.mp hr
    rw [hset.key, hset.tuple]
    exact h.keyed r hr'
  source := by
    intro r hr
    obtain ⟨r, hr', rfl⟩ := mem_map.mp hr
    rw [hset.tuple]
    exact h.source r hr'

theorem GrantTable.concat (h : GrantTable calls rows) (hg : Call.insert g ∈ calls)
    (hnew : ∀ r ∈ rows, r.grantId ≠ g.grant.grantId)
    (hfree : ∀ r ∈ rows, r.isActive → r.identityKey ≠ (grantRow g.grant).identityKey) :
    GrantTable calls (rows ++ [grantRow g.grant]) where
  ids := by
    intro r hr s hs heq
    obtain hr | rfl := mem_append.mp hr |>.imp_right mem_singleton.mp
    · obtain hs | rfl := mem_append.mp hs |>.imp_right mem_singleton.mp
      · exact h.ids r hr s hs heq
      · exact absurd heq (hnew r hr)
    · obtain hs | rfl := mem_append.mp hs |>.imp_right mem_singleton.mp
      · exact absurd heq.symm (hnew s hs)
      · rfl
  active := by
    intro r hr s hs har has heq
    obtain hr | rfl := mem_append.mp hr |>.imp_right mem_singleton.mp
    · obtain hs | rfl := mem_append.mp hs |>.imp_right mem_singleton.mp
      · exact h.active r hr s hs har has heq
      · exact absurd heq (hfree r hr har)
    · obtain hs | rfl := mem_append.mp hs |>.imp_right mem_singleton.mp
      · exact absurd heq.symm (hfree s hs has)
      · rfl
  keyed := by
    intro r hr
    obtain hr | rfl := mem_append.mp hr |>.imp_right mem_singleton.mp
    · exact h.keyed r hr
    · rfl
  source := by
    intro r hr
    obtain hr | rfl := mem_append.mp hr |>.imp_right mem_singleton.mp
    · exact h.source r hr
    · exact ⟨g, hg, rfl⟩

section
variable {calls : List Call} {ps : List (Prog Answer)} {rows : List GrantRow} {j : Nat}
  {call : Call} {c : sql.Stmt} {k : sql.Ans c → Prog Answer}

variable {a : sql.Ans c}

theorem GrantPool.move (h : GrantPool calls ps rows)
    (hcall : calls[j]? = some call) (hj : ps[j]? = some (.issue c k))
    (hstage : Stage rows call (k a)) : GrantPool calls (ps.set j (k a)) rows where
  table := h.table
  length := length_set.trans h.length
  stage := by
    intro i call' p hcall' hp
    obtain ⟨rfl, rfl⟩ | ⟨_, hi⟩ := getElem?_step hj hp
    · cases hcall.symm.trans hcall'
      exact hstage
    · exact h.stage i call' p hcall' hi

theorem GrantPool.change {change : GrantRow → GrantRow}
    (h : GrantPool calls ps rows) (hcall : calls[j]? = some call)
    (hj : ps[j]? = some (.issue c k)) (hchange : Keeps change)
    (hstage : Stage (rows.map change) call (k a)) :
    GrantPool calls (ps.set j (k a)) (rows.map change) where
  table := h.table.map hchange
  length := length_set.trans h.length
  stage := by
    intro i call' p hcall' hp
    obtain ⟨rfl, rfl⟩ | ⟨_, hi⟩ := getElem?_step hj hp
    · cases hcall.symm.trans hcall'
      exact hstage
    · apply (h.stage i call' p hcall' hi).frame
      · intro r hr
        exact ⟨change r, mem_map_of_mem hr, hchange.grantId r, hchange.tuple r⟩
      · intro s hs
        obtain ⟨r, hr, rfl⟩ := mem_map.mp hs
        exact ⟨r, hr, hchange.grantId r⟩

variable {g : BuiltGrant}

theorem GrantPool.create (h : GrantPool calls ps rows)
    (hcalls : DistinctGrants calls) (hcall : calls[j]? = some (.insert g))
    (hj : ps[j]? = some (.issue c k)) (hnew : ∀ r ∈ rows, r.grantId ≠ g.grant.grantId)
    (hfree : ∀ r ∈ rows, r.isActive → r.identityKey ≠ (grantRow g.grant).identityKey)
    (hk : k a = .ret (.granted ⟨g.grant, true⟩)) :
    GrantPool calls (ps.set j (k a)) (rows ++ [grantRow g.grant]) where
  table := h.table.concat (mem_of_getElem? hcall) hnew hfree
  length := length_set.trans h.length
  stage := by
    intro i call' p hcall' hp
    obtain ⟨rfl, rfl⟩ | ⟨hne, hi⟩ := getElem?_step hj hp
    · cases hcall.symm.trans hcall'
      rw [hk]
      exact .granted _
    · apply (h.stage i call' p hcall' hi).concat
      intro g' hg' hid
      rw [hg'] at hcall'
      exact hne (hcalls.ids i j g' g hcall' hcall hid.symm)

theorem createGrant_bind (grant : Grant) :
    (createGrant grant).bind granted = .issue (.insert (grantRow grant)) fun inserted =>
      (match inserted with
        | .error message => .throw message
        | .ok _ => .ret ⟨grant, true⟩ : Prog InsertGrantResult).bind granted := rfl

theorem GrantTable.found (h : GrantTable calls rows)
    (hcalls : DistinctGrants calls) (hg : Call.insert g ∈ calls)
    (hfind : rows.find? (fun row => row.identityKey = grantIdentityKey g.grant.toGrantTuple &&
      row.isActive) = some row) :
    row ∈ rows ∧ row.isActive ∧ row.toGrantTuple = g.grant.toGrantTuple := by
  have hrow := mem_of_find?_eq_some hfind
  have hmatch := find?_some hfind
  simp only [Bool.and_eq_true, decide_eq_true_eq] at hmatch
  obtain ⟨g', hg', htuple⟩ := h.source row hrow
  refine ⟨hrow, hmatch.2, ?_⟩
  rw [htuple]
  apply hcalls.keys g' g hg' hg
  rw [← htuple, ← h.keyed row hrow]
  exact hmatch.1

theorem reuseGrant_cases (grant existing : Grant) :
    (reuseGrant grant existing).bind granted = raiseScope existing ∨
    ((reuseGrant grant existing).bind granted = .ret (.granted ⟨existing, false⟩) ∧
      (grant.scope = .collaborate → existing.scope = .collaborate)) := by
  rw [reuseGrant]
  by_cases hraise : existing.scope ≠ grant.scope ∧ grant.scope = .collaborate
  · left
    rw [if_pos hraise, hraise.2]
    rfl
  · right
    rw [if_neg hraise]
    refine ⟨rfl, fun hscope => ?_⟩
    by_contra hne
    exact hraise ⟨by rw [hscope]; exact hne, hscope⟩

def StepSound (calls : List Call) (ps : List (Prog Answer)) (j : Nat) (p : Prog Answer)
    (rows : List GrantRow) : Prop :=
  GrantPool calls (ps.set j p) rows ∧
    ∀ g, calls[j]? = some (.insert g) → p.ended →
      ∃ result, p = .ret (.granted result) ∧ AsAsked g.grant result rows

theorem GrantPool.lookUpStep (h : GrantPool calls ps rows)
    (hcalls : DistinctGrants calls) (hcall : calls[j]? = some (.insert g))
    (hnew : ∀ r ∈ rows, r.grantId ≠ g.grant.grantId)
    (hj : ps[j]? = some (.issue c k)) (hp : .issue c k = (Call.insert g).prog) :
    StepSound calls ps j (k (Store.answer c rows)) (Store.effect c rows) := by
  rw [Call.prog, insertGrant] at hp
  cases hp
  simp only [Store.effect, Store.answer] at hj ⊢
  cases hfind : rows.find? fun row =>
      row.identityKey = grantIdentityKey g.grant.toGrantTuple && row.isActive with
  | none =>
    refine ⟨h.move (a := none) hcall hj ?_, fun _ _ hend => by cases hend⟩
    exact .create hnew
  | some row =>
    obtain ⟨hrow, hactive, htuple⟩ := h.table.found hcalls (mem_of_getElem? hcall) hfind
    have hnone : row.revokedAt = none := Option.isNone_iff_eq_none.mp hactive
    obtain hraise | ⟨hret, hscope⟩ := reuseGrant_cases g.grant row.toGrant
    · have hk := hraise
      refine ⟨h.move (a := some row.toGrant) hcall hj ?_, fun _ _ hend => ?_⟩
      · change Stage rows _ ((reuseGrant g.grant row.toGrant).bind granted)
        rw [hraise]
        exact .raise _ htuple hnone ⟨row, hrow, rfl, rfl⟩
      · change ((reuseGrant g.grant row.toGrant).bind granted).ended = true at hend
        rw [hraise] at hend
        cases hend
    · refine ⟨h.move (a := some row.toGrant) hcall hj ?_, fun g' hg' _ => ?_⟩
      · change Stage rows _ ((reuseGrant g.grant row.toGrant).bind granted)
        rw [hret]
        exact .granted _
      · cases hcall.symm.trans hg'
        exact ⟨_, hret, htuple, hnone, hscope, row, hrow, rfl, hactive, htuple, rfl⟩

theorem GrantPool.step (h : GrantPool calls ps rows) (hcalls : DistinctGrants calls)
    (hcurrent : StillCurrent c rows) (hj : ps[j]? = some (.issue c k)) :
    StepSound calls ps j (k (Store.answer c rows)) (Store.effect c rows) := by
  obtain ⟨call, hcall⟩ : ∃ call, calls[j]? = some call := by
    have hlt := (List.getElem?_eq_some_iff.mp hj).1
    rw [h.length] at hlt
    exact ⟨_, getElem?_eq_getElem hlt⟩
  have hstage := h.stage j call _ hcall hj
  generalize hp : Program.issue c k = p at hstage
  cases hstage with
  | lookUp hnew => exact h.lookUpStep hcalls hcall hnew hj hp
  | @create g hnew =>
    rw [createGrant_bind] at hp
    cases hp
    have hanswer : insertAnswer rows (grantRow g.grant) = .ok () := by
      have hid : ¬ (rows.any fun r => r.grantId = (grantRow g.grant).grantId) = true := by
        rw [any_eq_true]
        rintro ⟨r, hr, hid⟩
        exact hnew r hr (of_decide_eq_true hid)
      have hfree : ¬ ((grantRow g.grant).isActive && rows.any fun r =>
          r.isActive && r.identityKey = (grantRow g.grant).identityKey) = true := by
        rw [Bool.and_eq_true, any_eq_true]
        rintro ⟨_, r, hr, hr'⟩
        rw [Bool.and_eq_true, decide_eq_true_eq] at hr'
        exact hcurrent r hr hr'.1 hr'.2
      rw [insertAnswer, if_neg hid, if_neg hfree]
    simp only [Store.effect, Store.answer, hanswer] at hj ⊢
    have hpool := h.create (a := (Except.ok () : Except String Unit)) hcalls hcall hj hnew hcurrent
      rfl
    refine ⟨hpool, fun g' hg' _ => ?_⟩
    cases hcall.symm.trans hg'
    obtain ⟨input, nowIso, grantId, hbuilt⟩ := g.built
    obtain ⟨_, hnone, _⟩ := buildGrant_fresh hbuilt
    exact ⟨_, rfl, rfl, hnone, fun hscope => hscope, grantRow g.grant, by simp, rfl, rfl, rfl, rfl⟩
  | @raise g existing htuple hnone hrow =>
    cases hp
    obtain ⟨row, hrow, hid, hsame⟩ := hrow
    have hactive := hcurrent row hrow hid
    refine ⟨h.change (a := ()) hcall hj (keeps_where (keeps_scope _) _) (.granted _), fun g' hg' _ => ?_⟩
    cases hcall.symm.trans hg'
    refine ⟨_, rfl, htuple, hnone, fun _ => rfl, _, mem_map_of_mem hrow, ?_⟩
    rw [if_pos hid]
    exact ⟨hid, hactive, hsame.trans htuple, rfl⟩
  | @lookUpId grantId by_ now =>
    rw [Call.prog, revokeGrant] at hp
    cases hp
    refine ⟨h.move hcall hj ?_, fun g' hg' _ => by cases hcall.symm.trans hg'⟩
    simp only [Store.answer]
    cases rows.find? fun row => row.grantId = grantId with
    | none => exact .revoked _
    | some row =>
      change Stage rows _ ((revokeFound grantId by_ now row.toGrant).bind AgentSharing.revoked)
      rw [revokeFound]
      cases row.revokedAt with
      | some t => exact .revoked _
      | none => exact .revoke _
  | revoke current =>
    cases hp
    exact ⟨h.change (a := ()) hcall hj (keeps_where (keeps_revoked _ _) _) (.revoked _),
      fun g' hg' _ => by cases hcall.symm.trans hg'⟩
  | granted result => cases hp
  | revoked result => cases hp

theorem revocation_step (hcurrent : StillCurrent c rows) (hr : r ∈ rows)
    (hrevoked : r.revokedAt = some at_) :
    ∃ s ∈ Store.effect c rows, s.grantId = r.grantId ∧ s.revokedAt = some at_ ∧
      s.revokedBy = r.revokedBy := by
  have hne (grantId : String) (h : ∀ r ∈ rows, r.grantId = grantId → r.isActive) :
      r.grantId ≠ grantId := by
    intro hid
    have hactive := h r hr hid
    rw [GrantRow.isActive, hrevoked] at hactive
    cases hactive
  have hkept (grantId : String) (change : GrantRow → GrantRow) (hid : r.grantId ≠ grantId) :
      r ∈ setWhere grantId change rows := by
    rw [setWhere, mem_map]
    exact ⟨r, hr, if_neg hid⟩
  cases c with
  | selectActive identity => exact ⟨r, hr, rfl, hrevoked, rfl⟩
  | selectById grantId => exact ⟨r, hr, rfl, hrevoked, rfl⟩
  | updateScope scope grantId => exact ⟨r, hkept _ _ (hne _ hcurrent), rfl, hrevoked, rfl⟩
  | updateRevoked revokedAt revokedBy grantId =>
    exact ⟨r, hkept _ _ (hne _ hcurrent), rfl, hrevoked, rfl⟩
  | insert row =>
    simp only [Store.effect]
    split
    · exact ⟨r, mem_append_left _ hr, rfl, hrevoked, rfl⟩
    · exact ⟨r, hr, rfl, hrevoked, rfl⟩

theorem GrantPool.start : GrantPool calls (calls.map Call.prog) [] where
  table := ⟨by simp, by simp, by simp, by simp⟩
  length := length_map _
  stage := by
    intro i call p hcall hp
    rw [getElem?_map, hcall] at hp
    rw [← Option.some.inj hp]
    cases call with
    | insert g => exact .lookUp (by simp)
    | revoke grantId revokedBy nowIso => exact .lookUpId

end

theorem insert_within (g : BuiltGrant) : (Call.insert g).prog.Within 2 := by
  intro existing
  cases existing with
  | none =>
    intro inserted
    cases inserted <;> trivial
  | some existing =>
    obtain hraise | ⟨hret, _⟩ := reuseGrant_cases g.grant existing
    · change ((reuseGrant g.grant existing).bind granted).Within 1
      rw [hraise]
      exact fun _ => trivial
    · change ((reuseGrant g.grant existing).bind granted).Within 1
      rw [hret]
      trivial

def RunCurrent (calls : List Call) (is : List Nat) : Prop :=
  ∀ e ∈ interleaveEvents is (calls.map Call.prog) [], StillCurrent e.2.stmt e.2.before

/-- A run of the calls means what was asked: an insert that gets its two turns has returned, at the
moment it returns its grant is as asked, at no moment are two grants of one tuple active, and a
revoked grant keeps when and by whom it was revoked. -/
structure MeansWhatWasAsked (calls : List Call) (is : List Nat) : Prop where
  returns : ∀ (j : Nat) (g : BuiltGrant), calls[j]? = some (.insert g) → 2 ≤ is.count j →
    ∃ result, (after calls is).1[j]? = some (.ret (.granted result))
  asked : ∀ (xs ys : List Nat) (j : Nat) (g : BuiltGrant) (p q : Prog Answer),
    is = xs ++ j :: ys → calls[j]? = some (.insert g) →
    (after calls xs).1[j]? = some p → p.ended = false →
    (after calls (xs ++ [j])).1[j]? = some q → q.ended →
    ∃ result, q = .ret (.granted result) ∧ AsAsked g.grant result (after calls (xs ++ [j])).2
  single : ∀ xs ys, is = xs ++ ys → ∀ r ∈ (after calls xs).2, ∀ s ∈ (after calls xs).2,
    r.isActive → s.isActive → r.toGrantTuple = s.toGrantTuple → r = s
  revoked : ∀ xs ys zs, is = xs ++ ys ++ zs → ∀ r ∈ (after calls xs).2, ∀ at_,
    r.revokedAt = some at_ → ∃ s ∈ (after calls (xs ++ ys)).2,
      s.grantId = r.grantId ∧ s.revokedAt = some at_ ∧ s.revokedBy = r.revokedBy

theorem after_append (calls : List Call) (xs ys : List Nat) :
    after calls (xs ++ ys) = interleave ys (after calls xs).1 (after calls xs).2 :=
  interleave_append xs ys _ _

theorem RunCurrent.append (h : RunCurrent calls (xs ++ ys)) :
    RunCurrent calls xs ∧ ∀ e ∈ interleaveEvents ys (after calls xs).1 (after calls xs).2,
      StillCurrent e.2.stmt e.2.before := by
  rw [RunCurrent, interleaveEvents_append] at h
  exact ⟨fun e he => h e (mem_append_left _ he), fun e he => h e (mem_append_right _ he)⟩

theorem RunCurrent.pool (h : RunCurrent calls is) (hcalls : DistinctGrants calls) :
    GrantPool calls (after calls is).1 (after calls is).2 :=
  interleave_pool_of (I := GrantPool calls) is .start h
    fun _ _ _ _ _ hpool hcurrent hj => (hpool.step hcalls hcurrent hj).1

theorem Stage.of_insert (h : Stage rows (.insert g) p) (hend : p.ended) :
    ∃ result, p = .ret (.granted result) := by
  cases h with
  | granted result => exact ⟨result, rfl⟩
  | lookUp => cases hend
  | create => cases hend
  | raise => cases hend

/-- Calls whose grants are told apart, in a run in which no look-up is overtaken, mean what was
asked. -/
theorem grants_meanWhatWasAsked (calls : List Call) (hcalls : DistinctGrants calls)
    (is : List Nat) (hrun : RunCurrent calls is) : MeansWhatWasAsked calls is where
  returns := by
    intro j g hg hturns
    obtain ⟨p, hp, hend⟩ := interleave_within is [] (by rw [getElem?_map, hg]; rfl)
      (insert_within g) hturns
    obtain ⟨result, rfl⟩ := ((hrun.pool hcalls).stage j _ p hg hp).of_insert hend
    exact ⟨result, hp⟩
  asked := by
    intro xs ys j g p q his hg hp hopen hq hend
    rw [his] at hrun
    obtain ⟨hxs, hys⟩ := hrun.append
    have hpool := hxs.pool hcalls
    rw [after_append] at hq ⊢
    cases p with
    | ret a => cases hopen
    | throw e => cases hopen
    | issue c k =>
      have hcurrent : StillCurrent c (after calls xs).2 := by
        rw [interleaveEvents, hp] at hys
        exact hys _ mem_cons_self
      have hsound := hpool.step hcalls hcurrent hp
      rw [interleave_issue hp] at hq ⊢
      rw [AtomicProgram.interleave,
        List.getElem?_set_self (List.getElem?_eq_some_iff.mp hp).1] at hq
      cases hq
      exact hsound.2 g hg hend
  single := by
    intro xs ys his r hr s hs har has htuple
    rw [his] at hrun
    have htable := (hrun.append.1.pool hcalls).table
    apply htable.active r hr s hs har has
    rw [htable.keyed r hr, htable.keyed s hs, htuple]
  revoked := by
    intro xs ys zs his r hr at_ hrevoked
    rw [his] at hrun
    obtain ⟨hxys, _⟩ := hrun.append
    rw [after_append]
    apply interleave_pool_of (C := StillCurrent) (I := fun _ rows => ∃ s ∈ rows,
      s.grantId = r.grantId ∧ s.revokedAt = some at_ ∧ s.revokedBy = r.revokedBy) ys
      ⟨r, hr, rfl, hrevoked, rfl⟩ hxys.append.2
    intro ps rows j c k hkept hcurrent _
    obtain ⟨s, hs, hid, hat, hby⟩ := hkept
    obtain ⟨s', hs', hid', hat', hby'⟩ := revocation_step hcurrent hs hat
    exact ⟨s', hs', hid'.trans hid, hat', hby'.trans hby⟩

def sharedProject (scope : String) : BuildGrantInput :=
  ⟨some (.str "share"), some (.str "chris"), some (.str "project"), some (.str "blowout"),
    some (.str "liz"), some (.str scope)⟩

def sharedGrant (grantId : String) (scope : GrantScope) : Grant :=
  ⟨⟨.share, .chris, "project", "blowout", .user, "user:liz"⟩, grantId, scope, 0, none, none⟩

def sharedTwice : List Call :=
  [.insert ⟨sharedGrant "g1" .view, sharedProject "view", 0, "g1", by decide +kernel⟩,
    .insert ⟨sharedGrant "g2" .collaborate, sharedProject "collaborate", 0, "g2",
      by decide +kernel⟩]

/-- When the two look-ups come first, the second insert breaks the index and throws. -/
theorem sharedTwice_throws : ¬ ∀ is, MeansWhatWasAsked sharedTwice is := by
  intro h
  obtain ⟨result, hresult⟩ := (h [0, 1, 0, 1]).returns 1 _ rfl (by decide)
  have hthrown : ((after sharedTwice [0, 1, 0, 1]).1[1]?).any
      (fun p => (p.run ([] : List GrantRow)).1.isOk) = false := by decide +kernel
  rw [hresult] at hthrown
  cases hthrown

/-- One after the other they raise the scope of one grant. -/
theorem sharedTwice_inTurn : DistinctGrants sharedTwice ∧ RunCurrent sharedTwice [0, 0, 1, 1] ∧
      MeansWhatWasAsked sharedTwice [0, 0, 1, 1] := by
  have htuple : ∀ g, Call.insert g ∈ sharedTwice →
      g.grant.toGrantTuple = ⟨.share, .chris, "project", "blowout", .user, "user:liz"⟩ := by
    intro g hg
    simp only [sharedTwice, mem_cons, not_mem_nil, or_false, Call.insert.injEq] at hg
    obtain rfl | rfl := hg <;> rfl
  have hcalls : DistinctGrants sharedTwice := by
    refine ⟨fun i j g h hi hj heq => ?_, fun g h hg hh _ => (htuple g hg).trans (htuple h hh).symm⟩
    have hid : ∀ (i : Nat) (g : BuiltGrant), sharedTwice[i]? = some (.insert g) →
        i = 0 ∧ g.grant.grantId = "g1" ∨ i = 1 ∧ g.grant.grantId = "g2" := by
      intro i g hi
      rcases i with _ | _ | i
      · cases hi
        exact .inl ⟨rfl, rfl⟩
      · cases hi
        exact .inr ⟨rfl, rfl⟩
      · cases hi
    obtain ⟨rfl, hg⟩ | ⟨rfl, hg⟩ := hid i g hi <;> obtain ⟨rfl, hh⟩ | ⟨rfl, hh⟩ := hid j h hj
    · rfl
    · rw [hg, hh] at heq
      exact absurd heq (by decide)
    · rw [hg, hh] at heq
      exact absurd heq (by decide)
    · rfl
  have hrun : RunCurrent sharedTwice [0, 0, 1, 1] := by
    rw [RunCurrent]
    decide +kernel
  exact ⟨hcalls, hrun, grants_meanWhatWasAsked _ hcalls _ hrun⟩

end IdAgents.AgentSharing
