import IdAgents.WorkLeases.Canary

namespace IdAgents.WorkLeases
open JsMap KeyedTable List Option Table WorkLeaseStore LeaseUpdate

namespace WorkLeaseStore

def issued (db : WorkLeaseStore) (resource : String) : List Int :=
  (db.operations.filter fun op => op.operation = .acquired && op.resource = resource).map
    (·.fencingToken)

def history (db : WorkLeaseStore) (leaseId : String) : List WorkLeaseState :=
  (db.operations.filter (·.leaseId = leaseId)).map (·.operation)

end WorkLeaseStore

def Lifetime (h : List WorkLeaseState) : Prop :=
  ∃ n close, h = .acquired :: (List.replicate n .renewed ++ close) ∧
    (close = [] ∨ close = [.released] ∨ close = [.expired])

structure Fencing (calls : List Call) : Prop where
  single : ∀ a ∈ (WorkLeaseStore.after calls).leases.rows,
    ∀ b ∈ (WorkLeaseStore.after calls).leases.rows,
      a.resource = b.resource → a.isLive → b.isLive → a = b
  rising : ∀ resource, ((WorkLeaseStore.after calls).issued resource).Pairwise (· < ·)
  closed : ∀ more leaseId a, (WorkLeaseStore.after calls).byId leaseId = some a →
    a.isLive = false →
    ∃ b, (WorkLeaseStore.after (calls ++ more)).byId leaseId = some b ∧ b.isLive = false
  fence : ∀ resource leaseId token now lease db,
    (WorkLeaseStore.after calls).assertFence resource leaseId token now = (.ok lease, db) →
    lease.leaseId = leaseId ∧ lease.resource = resource ∧ lease.fencingToken = token ∧
      token ∈ (WorkLeaseStore.after calls).issued resource ∧
      ∀ t ∈ (WorkLeaseStore.after calls).issued resource, t ≤ token
  log : ∀ a ∈ (WorkLeaseStore.after calls).leases.rows,
    Lifetime ((WorkLeaseStore.after calls).history a.leaseId) ∧
      ((WorkLeaseStore.after calls).history a.leaseId).getLast? = some a.state

/-- The history of a lease in state `s`. -/
def Recorded (h : List WorkLeaseState) (s : WorkLeaseState) : Prop :=
  Lifetime h ∧ h.getLast? = some s

theorem Recorded.acquired : Recorded [.acquired] .acquired :=
  ⟨⟨0, [], rfl, .inl rfl⟩, rfl⟩

theorem Recorded.next (h : Recorded ops s) (hlive : s.isLive) (u : LeaseUpdate) :
    Recorded (ops ++ [u.state]) u.state := by
  obtain ⟨⟨n, close, rfl, hclose⟩, hlast⟩ := h
  refine ⟨?_, getLast?_concat⟩
  rcases hclose with rfl | rfl | rfl
  · cases u with
    | expire => exact ⟨n, [.expired], by simp [state], .inr (.inr rfl)⟩
    | release now => exact ⟨n, [.released], by simp [state], .inr (.inl rfl)⟩
    | renew now expiresAtMs =>
      refine ⟨n + 1, [], ?_, .inl rfl⟩
      simp [state, replicate_succ']
  · obtain rfl := Option.some.inj (getLast?_concat (l := _ :: _) |>.symm.trans hlast)
    cases hlive
  · obtain rfl := Option.some.inj (getLast?_concat (l := _ :: _) |>.symm.trans hlast)
    cases hlive

theorem LeaseUpdate.state_ne_acquired (u : LeaseUpdate) : u.state ≠ .acquired := by
  cases u <;> nofun

theorem LeaseUpdate.rewrite_eq (u : LeaseUpdate) (leaseId : String) (l : WorkLease) :
    (u.at_ leaseId).rewrite l = if l.leaseId = leaseId then u.set l else l := by
  by_cases h : l.leaseId = leaseId
  · have hkey : Schema.key l = leaseId := h
    have hits : (u.at_ leaseId).hits l := by simp [Update.hits, at_, hkey]
    rw [Update.rewrite_of_hits hits, if_pos h]
    rfl
  · have hkey : Schema.key l ≠ leaseId := h
    have hits : (u.at_ leaseId).hits l = false := by simp [Update.hits, at_, hkey]
    rw [Update.rewrite_of_not_hits hits, if_neg h]

namespace WorkLeaseStore

abbrev Issue := String × String × Int

def issueOfLease (l : WorkLease) : Issue := (l.leaseId, l.resource, l.fencingToken)

def issueOfOperation (op : LeaseOperation) : Issue := (op.leaseId, op.resource, op.fencingToken)

/-- The invariant of the store: a live lease carries the last token taken for its resource, tokens
rise in the order of the rows, and the operations tell the rows. -/
structure Kept (db : WorkLeaseStore) : Prop where
  newest : ∀ a ∈ db.leases.rows, a.isLive →
    db.nextTokens.get? a.resource = some (a.fencingToken + 1)
  below : ∀ a ∈ db.leases.rows, ∃ n, db.nextTokens.get? a.resource = some n ∧ a.fencingToken < n
  rising : db.leases.rows.Pairwise fun a b => a.resource = b.resource →
    a.fencingToken < b.fencingToken
  issues : (db.operations.filter (·.operation = .acquired)).map issueOfOperation =
    db.leases.rows.map issueOfLease
  known : ∀ op ∈ db.operations, (db.byId op.leaseId).isSome
  recorded : ∀ a ∈ db.leases.rows, Recorded (db.history a.leaseId) a.state

structure Moves (db db' : WorkLeaseStore) : Prop where
  kept : db'.Kept
  stays : ∀ leaseId a, db.byId leaseId = some a → a.isLive = false →
    ∃ b, db'.byId leaseId = some b ∧ b.state = a.state

variable {db : WorkLeaseStore}

theorem Kept.refl (h : db.Kept) : db.Moves db :=
  ⟨h, fun _ a ha _ => ⟨a, ha, rfl⟩⟩

theorem Moves.trans {a b c : WorkLeaseStore} (h : a.Moves b) (g : b.Moves c) : a.Moves c := by
  refine ⟨g.kept, fun leaseId l hl hclosed => ?_⟩
  obtain ⟨l', hl', hstate⟩ := h.stays leaseId l hl hclosed
  have hclosed' : l'.isLive = false := by rw [WorkLease.isLive, hstate]; exact hclosed
  obtain ⟨l'', hl'', hstate'⟩ := g.stays leaseId l' hl' hclosed'
  exact ⟨l'', hl'', hstate'.trans hstate⟩

theorem rows_execUpdate (db : WorkLeaseStore) (leaseId : String) (u : LeaseUpdate) :
    (db.execUpdate leaseId u).leases.rows =
      db.leases.rows.map fun l => if l.leaseId = leaseId then u.set l else l := by
  have hfree : db.leases.updateRefused (u.at_ leaseId) = false :=
    not_refused_of_entry fun _ _ => rfl
  rw [execUpdate, rows_update, hfree, if_neg (by simp)]
  exact map_congr_left fun l _ => u.rewrite_eq leaseId l

theorem byId_execUpdate (db : WorkLeaseStore) (leaseId id : String) (u : LeaseUpdate) :
    (db.execUpdate leaseId u).byId id =
      (db.byId id).map fun l => if l.leaseId = leaseId then u.set l else l := by
  have hfree : db.leases.updateRefused (u.at_ leaseId) = false :=
    not_refused_of_entry fun _ _ => rfl
  rw [byId, execUpdate, get?_update, hfree, if_neg (by simp), byId]
  congr 1
  funext l
  exact u.rewrite_eq leaseId l

theorem byId_some (h : db.byId leaseId = some a) : a ∈ db.leases.rows ∧ a.leaseId = leaseId :=
  get?_some h

theorem byId_of_mem (h : a ∈ db.leases.rows) : db.byId a.leaseId = some a :=
  get?_of_mem h

theorem history_record (db : WorkLeaseStore) (l : WorkLease) (s : WorkLeaseState) (now : Int)
    (leaseId : String) : (db.record l s now).history leaseId =
      if l.leaseId = leaseId then db.history leaseId ++ [s] else db.history leaseId := by
  simp only [history, record, filter_append, map_append]
  split
  · next h => simp [h]
  · next h => simp [h]

theorem Kept.stamp (h : db.Kept) (ha : db.byId leaseId = some a)
    (hlive : a.isLive) (u : LeaseUpdate) (hl : l.leaseId = leaseId) (now : Int) :
    db.Moves ((db.execUpdate leaseId u).record l u.state now) := by
  have hmem : ∀ b ∈ (db.execUpdate leaseId u).leases.rows,
      ∃ b₀ ∈ db.leases.rows, (b₀.leaseId = leaseId ∧ b = u.set b₀) ∨
        (b₀.leaseId ≠ leaseId ∧ b = b₀) := by
    intro b hb
    rw [rows_execUpdate] at hb
    obtain ⟨b₀, hb₀, rfl⟩ := mem_map.mp hb
    split
    · next heq => exact ⟨b₀, hb₀, .inl ⟨heq, rfl⟩⟩
    · next hne => exact ⟨b₀, hb₀, .inr ⟨hne, rfl⟩⟩
  have hsame : ∀ b₀ ∈ db.leases.rows, b₀.leaseId = leaseId → b₀ = a := by
    intro b₀ hb₀ hid
    have hget := byId_of_mem hb₀
    rw [hid, ha] at hget
    exact (Option.some.inj hget).symm
  have hissue : ∀ l : WorkLease,
      issueOfLease (if l.leaseId = leaseId then u.set l else l) = issueOfLease l := by
    intro l
    split
    · simp [issueOfLease, u.set_leaseId]
    · rfl
  constructor
  · constructor
    · intro b hb hblive
      obtain ⟨b₀, hb₀, ⟨hid, rfl⟩ | ⟨_, rfl⟩⟩ := hmem b hb
      · have hnewest := h.newest b₀ hb₀ (by rw [hsame b₀ hb₀ hid]; exact hlive)
        rw [← u.set_resource b₀, ← u.set_fencingToken b₀] at hnewest
        exact hnewest
      · exact h.newest b hb₀ hblive
    · intro b hb
      obtain ⟨b₀, hb₀, ⟨_, rfl⟩ | ⟨_, rfl⟩⟩ := hmem b hb
      · have hbelow := h.below b₀ hb₀
        rw [← u.set_resource b₀, ← u.set_fencingToken b₀] at hbelow
        exact hbelow
      · exact h.below b hb₀
    · change (db.execUpdate leaseId u).leases.rows.Pairwise _
      rw [rows_execUpdate, pairwise_map]
      apply h.rising.imp
      intro b c hbc
      split <;> split <;> simpa using hbc
    · change ((db.operations ++ [_]).filter _).map _ = (db.execUpdate leaseId u).leases.rows.map _
      rw [rows_execUpdate, List.map_map, List.filter_append, List.map_append, h.issues]
      simp [Function.comp_def, hissue, u.state_ne_acquired]
    · intro op hop
      change ((db.execUpdate leaseId u).byId op.leaseId).isSome
      rw [byId_execUpdate, isSome_map]
      rcases mem_append.mp hop with hold | hnew
      · exact h.known op hold
      · obtain rfl := mem_singleton.mp hnew
        change (db.byId l.leaseId).isSome
        rw [hl, ha]
        rfl
    · intro b hb
      rw [history_record]
      obtain ⟨b₀, hb₀, ⟨hid, rfl⟩ | ⟨hne, rfl⟩⟩ := hmem b hb
      · have hrecorded := h.recorded b₀ hb₀
        rw [hsame b₀ hb₀ hid] at hrecorded
        rw [u.set_leaseId, hid, if_pos hl, u.set_state]
        have haid := (byId_some ha).2
        rw [haid] at hrecorded
        exact hrecorded.next hlive u
      · rw [if_neg (by rw [hl]; exact Ne.symm hne)]
        exact h.recorded b hb₀
  · intro id b hb hclosed
    change ∃ b', (db.execUpdate leaseId u).byId id = some b' ∧ _
    rw [byId_execUpdate, hb]
    have hne : b.leaseId ≠ leaseId := by
      intro hid
      rw [hsame b (byId_some hb).1 hid, hlive] at hclosed
      cases hclosed
    exact ⟨b, by simp [hne], rfl⟩

theorem Kept.expire_one (h : db.Kept) (ha : db.byId a.leaseId = some a)
    (hlive : a.isLive) (now : Int) : db.Moves (expire now db a) :=
  h.stamp ha hlive .expire rfl now

theorem Kept.expire_all {ls : List WorkLease} (h : db.Kept)
    (hmem : ∀ l ∈ ls, l ∈ db.leases.rows ∧ l.isLive) (hnodup : (ls.map (·.leaseId)).Nodup)
    (now : Int) : db.Moves (ls.foldl (expire now) db) ∧
      ∀ b ∈ (ls.foldl (expire now) db).leases.rows, b.isLive → b ∈ db.leases.rows ∧ b ∉ ls := by
  induction ls generalizing db with
  | nil => exact ⟨h.refl, fun b hb _ => ⟨hb, by simp⟩⟩
  | cons l ls ih =>
    obtain ⟨hl, hlive⟩ := hmem l (by simp)
    rw [map_cons, nodup_cons] at hnodup
    have hmove := h.expire_one (byId_of_mem hl) hlive now
    have hrows : ∀ b, b.leaseId ≠ l.leaseId →
        (b ∈ (expire now db l).leases.rows ↔ b ∈ db.leases.rows) := by
      intro b hne
      change b ∈ (db.execUpdate l.leaseId .expire).leases.rows ↔ _
      rw [rows_execUpdate, List.mem_map]
      constructor
      · rintro ⟨b₀, hb₀, rfl⟩
        split at hne
        · next hid => exact absurd hid (by simpa [LeaseUpdate.set] using hne)
        · next hid => rwa [if_neg hid]
      · intro hb
        exact ⟨b, hb, if_neg hne⟩
    have hothers : ∀ b ∈ ls, b.leaseId ≠ l.leaseId := fun b hb hid =>
      hnodup.1 (mem_map.mpr ⟨b, hb, hid⟩)
    obtain ⟨hmoves, hrest⟩ := ih hmove.kept (fun b hb => by
      obtain ⟨hrow, hblive⟩ := hmem b (by simp [hb])
      exact ⟨(hrows b (hothers b hb)).mpr hrow, hblive⟩) hnodup.2
    refine ⟨hmove.trans hmoves, fun b hb hblive => ?_⟩
    obtain ⟨hrow, hnot⟩ := hrest b hb hblive
    by_cases hid : b.leaseId = l.leaseId
    · -- the row of `l` has been expired
      change b ∈ (db.execUpdate l.leaseId .expire).leases.rows at hrow
      rw [rows_execUpdate] at hrow
      obtain ⟨b₀, hb₀, rfl⟩ := mem_map.mp hrow
      split at hblive
      · cases hblive
      · next hne => exact absurd (by rwa [if_neg hne] at hid) hne
    · refine ⟨(hrows b hid).mp hrow, ?_⟩
      rw [mem_cons, not_or]
      exact ⟨fun heq => hid (congrArg (·.leaseId) heq), hnot⟩

theorem Kept.expireResource (h : db.Kept) (resource : String) (now : Int) :
    db.Moves (db.expireResource resource now) ∧
      ∀ b ∈ (db.expireResource resource now).leases.rows, b.isLive → b ∈ db.leases.rows ∧
        (b.resource = resource → now < b.expiresAtMs) := by
  have hnodup : ((db.leases.rows.filter (isElapsed resource now)).map (·.leaseId)).Nodup :=
    db.leases.key_nodup.sublist (filter_sublist.map _)
  have hmem : ∀ l ∈ db.leases.rows.filter (isElapsed resource now),
      l ∈ db.leases.rows ∧ l.isLive := by
    intro l hl
    obtain ⟨hrow, helapsed⟩ := mem_filter.mp hl
    simp only [isElapsed, Bool.and_eq_true] at helapsed
    exact ⟨hrow, helapsed.1.2⟩
  obtain ⟨hmoves, hrest⟩ := h.expire_all hmem hnodup now
  refine ⟨hmoves, fun b hb hlive => ?_⟩
  obtain ⟨hrow, hnot⟩ := hrest b hb hlive
  refine ⟨hrow, fun hresource => ?_⟩
  by_contra hle
  apply hnot
  simp [mem_filter, hrow, isElapsed, hresource, hlive, Int.not_lt.mp hle]

theorem current_some (h : db.current resource = some a) :
    a ∈ db.leases.rows ∧ a.resource = resource ∧ a.isLive := by
  have hmem := mem_of_head? h
  rw [mem_insertionSort, mem_filter] at hmem
  simpa using hmem

theorem current_none (h : db.current resource = none)
    (ha : a ∈ db.leases.rows) (hresource : a.resource = resource) : a.isLive = false := by
  cases hlive : a.isLive with
  | false => rfl
  | true =>
    have hempty : (db.leases.rows.filter fun l => l.resource = resource && l.isLive) = [] := by
      have hlength := congrArg List.length (head?_eq_none_iff.mp h)
      rw [length_insertionSort] at hlength
      exact eq_nil_of_length_eq_zero hlength
    have hmem : a ∈ db.leases.rows.filter fun l => l.resource = resource && l.isLive := by
      simp [mem_filter, ha, hresource, hlive]
    rw [hempty] at hmem
    cases hmem

theorem takeToken_fst (db : WorkLeaseStore) (resource : String) :
    (db.takeToken resource).2.nextTokens.get? resource = some ((db.takeToken resource).1 + 1) := by
  simp [takeToken]

theorem Kept.token_above (h : db.Kept) (ha : a ∈ db.leases.rows) :
    a.fencingToken < (db.takeToken a.resource).1 := by
  obtain ⟨n, hn, hlt⟩ := h.below a ha
  simp [takeToken, hn, hlt]

theorem takeToken_ne (db : WorkLeaseStore) (h : r ≠ resource) :
    (db.takeToken resource).2.nextTokens.get? r = db.nextTokens.get? r :=
  Dict.get?_set_ne h

theorem Kept.grant (h : db.Kept)
    (hnone : ∀ a ∈ db.leases.rows, a.resource = l.resource → a.isLive = false)
    (htoken : l.fencingToken = (db.takeToken l.resource).1) (hstate : l.state = .acquired)
    (hfree : db.leases.insertRefused l = false) (now : Int) :
    db.Moves (record { (db.takeToken l.resource).2 with leases := db.leases.insert l }
      l .acquired now) := by
  have hrows : (db.leases.insert l).rows = db.leases.rows ++ [l] := by
    have hnew : ((db.leases.rows ++ [l]).map Schema.key).Nodup ∧
        ((db.leases.rows ++ [l]).filterMap Schema.entry).Nodup := by
      simpa [insertRefused] using hfree
    rw [Table.insert, dif_pos hnew]
  obtain ⟨hfresh, hfound⟩ := get?_insert_self hfree
  have hne : ∀ a ∈ db.leases.rows, a.leaseId ≠ l.leaseId := by
    intro a ha hid
    have hget := byId_of_mem ha
    rw [hid] at hget
    cases hfresh.symm.trans hget
  have hnext : ∀ a ∈ db.leases.rows, a.resource = l.resource →
      ∃ n, (db.takeToken l.resource).2.nextTokens.get? a.resource = some n ∧ a.fencingToken < n := by
    intro a ha hresource
    have habove := h.token_above ha
    rw [hresource] at habove ⊢
    exact ⟨_, takeToken_fst db l.resource, by omega⟩
  constructor
  · constructor
    · intro a ha hlive
      change a ∈ (db.leases.insert l).rows at ha
      change (db.takeToken l.resource).2.nextTokens.get? a.resource = _
      rw [hrows, mem_append, mem_singleton] at ha
      rcases ha with ha | rfl
      · have hother : a.resource ≠ l.resource := fun hsame => by
          rw [hnone a ha hsame] at hlive
          cases hlive
        rw [takeToken_ne db hother]
        exact h.newest a ha hlive
      · rw [takeToken_fst, htoken]
    · intro a ha
      change a ∈ (db.leases.insert l).rows at ha
      change ∃ n, (db.takeToken l.resource).2.nextTokens.get? a.resource = some n ∧ _
      rw [hrows, mem_append, mem_singleton] at ha
      rcases ha with ha | rfl
      · by_cases hsame : a.resource = l.resource
        · exact hnext a ha hsame
        · rw [takeToken_ne db hsame]
          exact h.below a ha
      · exact ⟨_, takeToken_fst db a.resource, by omega⟩
    · change (db.leases.insert l).rows.Pairwise _
      rw [hrows, pairwise_append]
      refine ⟨h.rising, pairwise_singleton _ _, fun a ha b hb hsame => ?_⟩
      obtain rfl := mem_singleton.mp hb
      have habove := h.token_above ha
      rwa [hsame, ← htoken] at habove
    · change ((db.operations ++ [_]).filter _).map _ = (db.leases.insert l).rows.map _
      rw [hrows, filter_append, map_append, map_append, h.issues]
      rfl
    · intro op hop
      change ((db.leases.insert l).get? op.leaseId).isSome
      rcases mem_append.mp hop with hold | hnew
      · obtain ⟨a, ha⟩ := isSome_iff_exists.mp (h.known op hold)
        exact isSome_of_eq_some (get?_insert l ha)
      · obtain rfl := mem_singleton.mp hnew
        exact isSome_of_eq_some hfound
    · intro a ha
      change a ∈ (db.leases.insert l).rows at ha
      rw [hrows, mem_append, mem_singleton] at ha
      rw [history_record]
      rcases ha with ha | rfl
      · rw [if_neg (Ne.symm (hne a ha))]
        exact h.recorded a ha
      · have hempty : db.history a.leaseId = [] := by
          rw [history, map_eq_nil_iff, filter_eq_nil_iff]
          intro op hop hid
          have hknown := h.known op hop
          have hnone : db.byId op.leaseId = none := by
            rw [of_decide_eq_true hid]
            exact hfresh
          rw [hnone] at hknown
          cases hknown
        change Recorded (if a.leaseId = a.leaseId then db.history a.leaseId ++ [.acquired] else _) _
        rw [if_pos rfl, hempty, hstate]
        exact .acquired
  · intro leaseId a ha _
    exact ⟨a, get?_insert l ha, rfl⟩

theorem Kept.transaction {body : WorkLeaseStore → Except WorkLeaseError α × WorkLeaseStore}
    (h : db.Kept) (hbody : ∀ a db', body db = (.ok a, db') → db.Moves db') :
    db.Moves (transaction body db).2 := by
  rw [WorkLeaseStore.transaction]
  split
  · next a db' hrun => exact hbody a db' hrun
  · exact h.refl

theorem insertLease_ok (hrun : insertLease l db = (.ok (), db')) :
    db.leases.insertRefused l = false ∧ db' = { db with leases := db.leases.insert l } := by
  rw [insertLease] at hrun
  split at hrun
  · cases hrun
  · next hfree => exact ⟨by simpa using hfree, (Prod.mk.inj hrun).2.symm⟩

theorem grantLease_moves (h : db.Kept)
    (hnone : ∀ a ∈ db.leases.rows, a.resource = input.resource → a.isLive = false)
    (hrun : grantLease input uuid db = (.ok l, db')) : db.Moves db' := by
  rw [grantLease] at hrun
  split at hrun
  next token db₁ htake =>
    dsimp only at hrun
    split at hrun
    · next hinsert =>
      obtain ⟨hfree, rfl⟩ := insertLease_ok hinsert
      obtain rfl := (Prod.mk.inj hrun).2
      obtain ⟨rfl, rfl⟩ := Prod.mk.inj htake
      exact h.grant hnone rfl rfl hfree input.nowMs
    · cases hrun

theorem acquireLive_moves (h : db.Kept)
    (hrun : acquireLive input uuid db = (.ok l, db')) : db.Moves db' := by
  obtain ⟨hmoves, hlive⟩ := h.expireResource input.resource input.nowMs
  rw [acquireLive] at hrun
  cases hcurrent : (db.expireResource input.resource input.nowMs).current input.resource with
  | none =>
    rw [hcurrent] at hrun
    exact hmoves.trans (grantLease_moves hmoves.kept (fun a => current_none hcurrent) hrun)
  | some live =>
    obtain ⟨hrow, hresource, hlives⟩ := current_some hcurrent
    have hholds : input.nowMs < live.expiresAtMs := (hlive live hrow hlives).2 hresource
    rw [hcurrent] at hrun
    dsimp only at hrun
    rw [if_pos hholds] at hrun
    split at hrun
    · obtain rfl := (Prod.mk.inj hrun).2
      exact hmoves
    · cases hrun

theorem assertFence_spec (h : db.Kept) (resource leaseId : String) (token now : Int) :
    db.Moves (assertFence resource leaseId token now db).2 ∧
      ∀ lease, (assertFence resource leaseId token now db).1 = .ok lease →
        (assertFence resource leaseId token now db).2.byId leaseId = some lease ∧
          lease.isLive ∧ lease.fencingToken = token ∧ lease.resource = resource ∧
          lease ∈ db.leases.rows := by
  obtain ⟨hmoves, hlive⟩ := h.expireResource resource now
  rw [assertFence]
  cases hid : (db.expireResource resource now).byId leaseId with
  | none => exact ⟨hmoves, nofun⟩
  | some lease =>
    dsimp only
    split
    · exact ⟨hmoves, nofun⟩
    · next hfence =>
      split
      · exact ⟨hmoves, nofun⟩
      · next hactive =>
        refine ⟨hmoves, fun lease' hlease => ?_⟩
        obtain rfl := Except.ok.inj hlease
        obtain ⟨htoken, hcurrent⟩ := not_or.mp hfence
        obtain ⟨live, hfound, hsame⟩ := map_eq_some_iff.mp (not_not.mp hcurrent)
        obtain ⟨hrow, hresource, hlives⟩ := current_some hfound
        have hlease : live = lease := by
          have hget := byId_of_mem hrow
          rw [hsame, hid] at hget
          exact (Option.some.inj hget).symm
        subst hlease
        exact ⟨hid, hlives, not_not.mp htoken, hresource, (hlive live hrow hlives).1⟩

theorem requireFence_spec (h : db.Kept) (leaseId : String) (token now : Int) :
    db.Moves (requireFence leaseId token now db).2 ∧
      ∀ lease, (requireFence leaseId token now db).1 = .ok lease →
        (requireFence leaseId token now db).2.byId leaseId = some lease ∧ lease.isLive := by
  rw [requireFence]
  cases db.byId leaseId with
  | none => exact ⟨h.refl, nofun⟩
  | some lease =>
    dsimp only
    split
    · exact ⟨h.refl, nofun⟩
    · obtain ⟨hmoves, hok⟩ := assertFence_spec h lease.resource leaseId token now
      exact ⟨hmoves, fun l hl => ⟨(hok l hl).1, (hok l hl).2.1⟩⟩

theorem fencedUpdate_moves (h : db.Kept)
    (hrun : fencedUpdate leaseId token now u db = (.ok l, db')) : db.Moves db' := by
  obtain ⟨hmoves, hok⟩ := requireFence_spec h leaseId token now
  rw [fencedUpdate] at hrun
  split at hrun
  · cases hrun
  · next lease db₁ hrequire =>
    rw [hrequire] at hmoves hok
    obtain ⟨hid, hlive⟩ := hok lease rfl
    obtain rfl := (Prod.mk.inj hrun).2
    have hupdated : ((db₁.execUpdate leaseId u).byId leaseId).getD lease = u.set lease := by
      rw [byId_execUpdate, hid, map_some, if_pos (byId_some hid).2, getD_some]
    rw [hupdated]
    exact hmoves.trans (hmoves.kept.stamp hid hlive u
      ((u.set_leaseId lease).trans (byId_some hid).2) now)

theorem recover_moves (h : db.Kept) (now : Int) : db.Moves (recover now db).2 := by
  change db.Moves (List.foldl (fun db resource => db.expireResource resource now) db _)
  generalize (db.leases.rows.map (·.resource)).dedup = resources
  induction resources generalizing db with
  | nil => exact h.refl
  | cons resource resources ih =>
    have hmoves := (h.expireResource resource now).1
    exact hmoves.trans (ih hmoves.kept)

end WorkLeaseStore

open WorkLeaseStore

variable {db : WorkLeaseStore}

theorem Call.moves (h : db.Kept) (call : Call) : db.Moves (call.apply db) := by
  cases call with
  | acquire input uuid =>
    change db.Moves (WorkLeaseStore.acquire input uuid db).2
    rw [WorkLeaseStore.acquire]
    split
    · exact h.refl
    · exact h.transaction fun _ _ => acquireLive_moves h
  | renew leaseId fencingToken ttlMs now =>
    change db.Moves (WorkLeaseStore.renew leaseId fencingToken ttlMs now db).2
    rw [WorkLeaseStore.renew]
    split
    · exact h.refl
    · exact h.transaction fun _ _ => fencedUpdate_moves h
  | release => exact h.transaction fun _ _ => fencedUpdate_moves h
  | assertFence resource leaseId fencingToken now =>
    exact (assertFence_spec h resource leaseId fencingToken now).1
  | recover now => exact recover_moves h now
  | current => exact h.refl

theorem run_moves (h : db.Kept) (calls : List Call) : db.Moves (calls.foldl Call.apply db) := by
  induction calls generalizing db with
  | nil => exact h.refl
  | cons call calls ih =>
    have hmoves := call.moves h
    exact hmoves.trans (ih hmoves.kept)

theorem kept_empty : empty.Kept where
  newest := nofun
  below := nofun
  rising := .nil
  issues := rfl
  known := nofun
  recorded := nofun

theorem kept_after (calls : List Call) : (after calls).Kept :=
  (run_moves kept_empty calls).kept

theorem WorkLeaseStore.Kept.issued_eq (h : db.Kept) (resource : String) : db.issued resource =
      (db.leases.rows.filter (·.resource = resource)).map (·.fencingToken) := by
  have hissues := congrArg (fun is : List Issue => (is.filter (·.2.1 = resource)).map (·.2.2)) h.issues
  simp only [List.filter_map, List.map_map, List.filter_filter] at hissues
  rw [issued]
  simp only [Bool.and_comm (decide (_ = WorkLeaseState.acquired))]
  exact hissues

theorem WorkLeaseStore.Kept.single (h : db.Kept) (ha : a ∈ db.leases.rows)
    (hb : b ∈ db.leases.rows) (hresource : a.resource = b.resource) (halive : a.isLive)
    (hblive : b.isLive) : a = b := by
  have hnext := h.newest a ha halive
  rw [hresource, h.newest b hb hblive] at hnext
  have htoken : b.fencingToken = a.fencingToken := by
    have := Option.some.inj hnext
    omega
  by_contra hne
  have hdistinct : db.leases.rows.Pairwise fun a b => a.resource = b.resource →
      a.fencingToken ≠ b.fencingToken := by
    apply h.rising.imp
    intro a b hab hsame heq
    have := hab hsame
    omega
  have : Std.Symm fun a b : WorkLease => a.resource = b.resource →
      a.fencingToken ≠ b.fencingToken := ⟨fun _ _ h hsame => (h hsame.symm).symm⟩
  exact hdistinct.forall ha hb hne hresource htoken.symm

/-- The store fences its resources, whatever calls are made and whatever their clocks show. -/
theorem workLeaseStore_fencing (calls : List Call) : Fencing calls := by
  have h := kept_after calls
  constructor
  case single =>
    intro a ha b hb
    exact h.single ha hb
  case rising =>
    intro resource
    rw [h.issued_eq, pairwise_map, pairwise_filter]
    apply h.rising.imp
    intro a b hab ha hb
    exact hab ((of_decide_eq_true ha).trans (of_decide_eq_true hb).symm)
  case closed =>
    intro more leaseId a ha hclosed
    rw [WorkLeaseStore.after, List.foldl_append]
    obtain ⟨b, hb, hstate⟩ := (run_moves h more).stays leaseId a ha hclosed
    refine ⟨b, hb, ?_⟩
    rw [WorkLease.isLive, hstate]
    exact hclosed
  case fence =>
    intro resource leaseId token now lease db hrun
    obtain ⟨_, hok⟩ := assertFence_spec h resource leaseId token now
    rw [hrun] at hok
    obtain ⟨hid, hlive, rfl, rfl, hrow⟩ := hok lease rfl
    refine ⟨(byId_some hid).2, rfl, rfl, ?_, ?_⟩
    · rw [h.issued_eq]
      exact mem_map.mpr ⟨lease, by simp [hrow], rfl⟩
    · intro t ht
      rw [h.issued_eq] at ht
      obtain ⟨a, ha, rfl⟩ := mem_map.mp ht
      obtain ⟨harow, hsame⟩ := mem_filter.mp ha
      obtain ⟨n, hn, hlt⟩ := h.below a harow
      rw [of_decide_eq_true hsame, h.newest lease hrow hlive] at hn
      have := Option.some.inj hn
      omega
  case log =>
    intro a ha
    exact h.recorded a ha

end IdAgents.WorkLeases
