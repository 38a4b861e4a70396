import IdAgents.Scheduler.Operation

namespace IdAgents
open JsText KeyedTable AtomicProgram

structure LaneClaim where
  limit : Option Int := none
  now : Option Instant := none
  excludeAgents : List String := []

structure ClaimRun where
  provider : Provider
  runtime : Option Runtime
  maxInFlight : Nat
  calls : List LaneClaim
  schedule : List Nat
  start : World

namespace ClaimRun
section
variable (run : ClaimRun)

def filter (call : LaneClaim) : QueueEligibleFilter where
  provider := run.provider
  runtime := run.runtime
  limit := call.limit
  now := call.now
  maxInFlight := some run.maxInFlight
  excludeAgents := call.excludeAgents

def threads : List (Prog (List DispatchDoc)) :=
  run.calls.map fun call => runClaim (run.filter call)

def after (n : Nat) : World :=
  (interleave (run.schedule.take n) run.threads run.start).2

def events : List (Nat × Event sql World) :=
  interleaveEvents run.schedule run.threads run.start

def inFlight (w : World) : Nat :=
  laneInFlight run.provider run.runtime w.table.rows

/-- Call `i` has returned `docs` by the end of the schedule. -/
def Returned (i : Nat) (docs : List DispatchDoc) : Prop :=
  (interleave run.schedule run.threads run.start).1[i]? = some (.ret docs)

end

structure SingleWriter (run : ClaimRun) : Prop where
  capped : run.inFlight run.start ≤ run.maxInFlight →
    ∀ n, run.inFlight (run.after n) ≤ run.maxInFlight
  unique : ∀ i j docs docs' d d', i ≠ j → run.Returned i docs → run.Returned j docs' →
    d ∈ docs → d' ∈ docs' → d.dispatchPhid ≠ d'.dispatchPhid

end ClaimRun

/-- A claim writes a row only while its lane holds no more rows in flight than the call counted
and has claimed since: no other call has claimed in the meantime. -/
def claimsWithinCount (e : Event sql World) : Bool :=
  match e.stmt with
  | .update (.runClaim call phid _ _) =>
    !(e.before.row? phid).any (·.status = .queued) ||
      laneInFlight call.filter.provider call.filter.runtime e.before.table.rows ≤
        call.inFlight + call.claimed
  | _ => true

/-- The statements of a claim call under the cap `m`: each row it writes is still below it. -/
def ClaimStmt (filter : QueueEligibleFilter) (m : Nat) (c : Stmt) : Prop :=
  c.isQuiet ∨ ∃ call phid n now, c = .update (.runClaim call phid n now) ∧
    call.filter = filter ∧ call.inFlight + call.claimed < m

theorem claimStmt_quiet : Quiet (ClaimStmt filter m) := fun _ h => .inl h

theorem limitTo_length (h : 0 ≤ limit) (rows : List α) :
    ((limitTo limit rows).length : Int) ≤ limit := by
  have hlt : ¬ limit < 0 := by omega
  rw [limitTo, if_neg hlt]
  have := List.length_take_le limit.toNat rows
  omega

theorem claimRows_capped (rows : List Row) (claimed : List DispatchDoc)
    (h : inFlight + claimed.length + rows.length ≤ m) :
    Allowed (ClaimStmt filter m) (claimRows filter inFlight now rows claimed) := by
  induction rows generalizing claimed with
  | nil => trivial
  | cons row rows ih =>
    rw [List.length_cons] at h
    have hwrite : ClaimStmt filter m (.update (.runClaim ⟨filter, inFlight, claimed.length⟩
        row.dispatchPhid (row.attemptCount + 1) now)) :=
      .inr ⟨_, _, _, _, rfl, rfl, by simp only; omega⟩
    apply (execUpdate_allowed hwrite).bind
    intro n
    have hskip := ih claimed (by omega)
    split
    · exact hskip
    · apply getByPhid_bind_allowed claimStmt_quiet hskip
      intro fresh _
      apply ih
      rw [List.length_append, List.length_singleton]
      omega

theorem claimEligible_capped {inFlight m : Nat} (h0 : 0 ≤ limit)
    (h : (inFlight : Int) + limit ≤ m) :
    Allowed (ClaimStmt filter m) (claimEligible filter inFlight limit now) := by
  rw [claimEligible]
  split
  · trivial
  · apply (selectRows_allowed claimStmt_quiet).bind
    intro rows
    apply (graphFilteredRows_sublist claimStmt_quiet _).bind
    intro ready hready
    have hlength := hready.length_le
    apply claimRows_capped
    have hlimit := limitTo_length h0 (orderBy claimOrder (rows.filter (eligible filter now)))
    rw [List.length_nil]
    omega

theorem runClaim_capped {m : Nat} (hm : filter.maxInFlight = some (m : Int))
    (hl : filter.limit.all (0 ≤ ·)) : Allowed (ClaimStmt filter m) (runClaim filter) := by
  have hnow : Allowed (ClaimStmt filter m) (filter.now.elim nowFn .ret) := by
    cases filter.now with
    | none => exact nowFn_allowed claimStmt_quiet
    | some now => trivial
  have hlimit : 0 ≤ filter.limit.getD 10 := by
    cases hf : filter.limit with
    | none => decide
    | some limit => simpa [hf] using hl
  apply hnow.bind
  intro now
  rw [hm]
  apply (selectRows_allowed claimStmt_quiet).bind
  intro rows
  dsimp only
  by_cases hfull : (m : Int) ≤ laneInFlight filter.provider filter.runtime rows
  · have hzero : min (filter.limit.getD 10)
        (max 0 ((m : Int) - laneInFlight filter.provider filter.runtime rows)) = 0 := by omega
    rw [hzero]
    trivial
  · apply claimEligible_capped <;> omega

theorem inFlight_step (hq : ClaimStmt filter m e.stmt) (hc : claimsWithinCount e)
    (h : laneInFlight filter.provider filter.runtime e.before.table.rows ≤ m) :
    laneInFlight filter.provider filter.runtime e.after.table.rows ≤ m := by
  obtain ⟨c, w⟩ := e
  obtain hquiet | ⟨call, phid, n, now, rfl, rfl, hlt⟩ := hq
  · cases c <;> first | exact h | cases hquiet
  · have hle : laneInFlight call.filter.provider call.filter.runtime
        (w.table.update (UpdateStmt.runClaim call phid n now).toUpdate).rows ≤
        laneInFlight call.filter.provider call.filter.runtime w.table.rows + 1 :=
      Table.countP_update_le _ _ _
    by_cases hqueued : (w.row? phid).any (·.status = .queued)
    · have hcount : laneInFlight call.filter.provider call.filter.runtime w.table.rows ≤
          call.inFlight + call.claimed := by
        simpa [claimsWithinCount, hqueued] using hc
      exact hle.trans (by omega)
    · have hsame : (w.table.update (UpdateStmt.runClaim call phid n now).toUpdate).rows =
          w.table.rows := by
        rw [Table.rows_update]
        split
        · rfl
        · conv_rhs => rw [← List.map_id w.table.rows]
          apply List.map_congr_left
          intro row hrow
          apply Update.rewrite_of_not_hits
          rw [← Bool.not_eq_true, UpdateStmt.hits_iff]
          rintro ⟨hphid, hguard⟩
          apply hqueued
          have hfound := World.row?_of_mem hrow
          rw [hphid] at hfound
          change w.row? phid = some row at hfound
          rw [hfound]
          exact hguard
      change laneInFlight call.filter.provider call.filter.runtime
        (w.table.update (UpdateStmt.runClaim call phid n now).toUpdate).rows ≤ m
      rwa [hsame]

namespace ClaimRun

variable {run : ClaimRun}

theorem thread_call {i : Nat} (h : run.threads[i]? = some p) :
    ∃ call ∈ run.calls, p = runClaim (run.filter call) := by
  obtain ⟨call, hcall, rfl⟩ := List.mem_map.mp (List.mem_of_getElem? h)
  exact ⟨call, hcall, rfl⟩

theorem events_meet {Q : Stmt → Prop}
    (h : ∀ call ∈ run.calls, Allowed Q (runClaim (run.filter call))) :
    ∀ e ∈ run.events, Q e.2.stmt := fun e he =>
  interleaveEvents_meet (Q := fun _ => Q) (R := fun _ => True) run.schedule run.start
    (fun i p hp => by
      obtain ⟨call, hcall, rfl⟩ := thread_call hp
      exact h call hcall) e he

theorem capped_of_withinCount (hl : ∀ call ∈ run.calls, call.limit.all (0 ≤ ·))
    (hc : ∀ e ∈ run.events, claimsWithinCount e.2)
    (h : run.inFlight run.start ≤ run.maxInFlight) (n : Nat) :
    run.inFlight (run.after n) ≤ run.maxInFlight := by
  have hstmt := events_meet
    (Q := fun c => ∃ call, ClaimStmt (run.filter call) run.maxInFlight c) fun call hcall => by
      have hcap : Allowed (ClaimStmt (run.filter call) run.maxInFlight)
          (runClaim (run.filter call)) := runClaim_capped rfl (hl call hcall)
      exact hcap.mono (fun c hcs => ⟨call, hcs⟩) fun _ _ => trivial
  obtain ⟨es, hchain, hes⟩ := interleave_between run.schedule run.threads run.start
    (Nat.zero_le n)
  apply (hchain.invariant (I := fun w => run.inFlight w ≤ run.maxInFlight) _ _).1
  · simpa [interleave] using h
  · intro e he hb
    obtain ⟨i, hi⟩ := hes e he
    obtain ⟨call, hcs⟩ := hstmt _ hi
    exact inFlight_step hcs (hc _ hi) hb

end ClaimRun

theorem execUpdate_leads (h : Leads (execUpdate u) os (.ret n)) :
    os = [(⟨.update u, (some n : Option Nat)⟩ : Observation sql)] := by
  obtain ⟨a, os', rfl, h'⟩ := h.of_issue
  cases a with
  | none => cases h'.of_throw.2
  | some k =>
    obtain ⟨rfl, hk⟩ := h'.of_ret
    cases hk
    rfl

theorem getByPhid_leads (h : Leads (getByPhid phid) os (.ret (some doc))) :
    doc.dispatchPhid = phid :=
  (h.meets (getByPhid_meets (Q := fun _ => True) fun _ _ => trivial)).1 doc rfl

variable {os : List (Observation sql)} {docs : List DispatchDoc}

theorem claimRows_returned
    (h : Leads (claimRows filter inFlight now rows claimed) os (.ret docs)) (hd : d ∈ docs) :
    d ∈ claimed ∨ ∃ call attempt k, (⟨.update (.runClaim call d.dispatchPhid attempt now),
      (some (k + 1) : Option Nat)⟩ : Observation sql) ∈ os := by
  induction rows generalizing claimed os with
  | nil =>
    obtain ⟨_, hret⟩ := h.of_ret
    cases hret
    exact .inl hd
  | cons row rows ih =>
    obtain ⟨n, os₁, os₂, rfl, hexec, hrest⟩ := Leads.of_bind (p := execUpdate _) h
    have hos := execUpdate_leads hexec
    cases n with
    | zero =>
      obtain hcl | ⟨call, attempt, k, hmem⟩ := ih hrest
      · exact .inl hcl
      · exact .inr ⟨call, attempt, k, List.mem_append_right _ hmem⟩
    | succ n =>
      obtain ⟨doc?, os₃, os₄, rfl, hget, hrest⟩ := Leads.of_bind (p := getByPhid _) hrest
      cases doc? with
      | none =>
        obtain hcl | ⟨call, attempt, k, hmem⟩ := ih hrest
        · exact .inl hcl
        · exact .inr ⟨call, attempt, k, by simp [hmem]⟩
      | some fresh =>
        obtain hcl | ⟨call, attempt, k, hmem⟩ := ih hrest
        · obtain hcl | hcl := List.mem_append.mp hcl
          · exact .inl hcl
          · obtain rfl := List.mem_singleton.mp hcl
            refine .inr ⟨⟨filter, inFlight, claimed.length⟩, row.attemptCount + 1, n, ?_⟩
            rw [getByPhid_leads hget, hos]
            simp
        · exact .inr ⟨call, attempt, k, by simp [hmem]⟩

theorem claimEligible_returned
    (h : Leads (claimEligible filter inFlight limit now) os (.ret docs)) (hd : d ∈ docs) :
    ∃ call attempt k, (⟨.update (.runClaim call d.dispatchPhid attempt now),
      (some (k + 1) : Option Nat)⟩ : Observation sql) ∈ os := by
  rw [claimEligible] at h
  split at h
  · cases h.of_ret.2
    cases hd
  · obtain ⟨rows, os₁, os₂, rfl, _, h⟩ := Leads.of_bind (p := selectRows) h
    obtain ⟨ready, os₃, os₄, rfl, _, h⟩ := Leads.of_bind (p := graphFilteredRows _) h
    obtain hnil | ⟨call, attempt, k, hmem⟩ := claimRows_returned h hd
    · cases hnil
    · exact ⟨call, attempt, k, by simp [hmem]⟩

theorem runClaim_returned (h : Leads (runClaim filter) os (.ret docs)) (hd : d ∈ docs) :
    ∃ call attempt now k, (⟨.update (.runClaim call d.dispatchPhid attempt now),
      (some (k + 1) : Option Nat)⟩ : Observation sql) ∈ os := by
  obtain ⟨now, os₁, os₂, rfl, _, h⟩ := Leads.of_bind (p := filter.now.elim nowFn .ret) h
  cases hm : filter.maxInFlight with
  | none =>
    rw [hm] at h
    obtain ⟨call, attempt, k, hmem⟩ := claimEligible_returned h hd
    exact ⟨call, attempt, now, k, List.mem_append_right _ hmem⟩
  | some m =>
    rw [hm] at h
    obtain ⟨rows, os₃, os₄, rfl, _, h⟩ := Leads.of_bind (p := selectRows) h
    obtain ⟨call, attempt, k, hmem⟩ := claimEligible_returned h hd
    exact ⟨call, attempt, now, k, by simp [hmem]⟩

def ClaimsOnly (c : Stmt) : Prop := c.isQuiet ∨ ∃ call phid n now, c = .update (.runClaim call phid n now)

theorem inFlight_stays {e : Event sql World} (hq : ClaimsOnly e.stmt)
    (h : ∃ row, e.before.row? phid = some row ∧ row.status = .inFlight) :
    ∃ row, e.after.row? phid = some row ∧ row.status = .inFlight := by
  obtain ⟨row, hrow, hs⟩ := h
  obtain hkeep | ⟨u, hu, _, hg, hset⟩ := e.stmt.row?_effect hrow
  · exact ⟨row, hkeep, hs⟩
  · obtain hquiet | ⟨call, phid', n, now, hc⟩ := hq
    · rw [hu] at hquiet
      cases hquiet
    · rw [hu] at hc
      cases hc
      exact ⟨_, hset, rfl⟩

theorem not_claimed_twice {es : List (Event sql World)} {w w' : World}
    (hq : ∀ e ∈ es, ClaimsOnly e.stmt)
    (hfirst : Stmt.answer (.update (.runClaim call phid n now)) w = some (k + 1))
    (hchain : Chain (Stmt.effect (.update (.runClaim call phid n now)) w) es w')
    (hsecond : Stmt.answer (.update (.runClaim call' phid n' now')) w' = some (k' + 1)) :
    False := by
  obtain ⟨hrefused, hcount⟩ := UpdateStmt.answer_some hfirst
  obtain ⟨row, hrow, hg⟩ := UpdateStmt.exists_of_rowCount (by rw [hcount]; omega)
  have hafter := UpdateStmt.row?_effect_self hrow hg hrefused
  obtain ⟨⟨row', hrow', hs⟩, _⟩ := hchain.invariant
    (I := fun w => ∃ row, w.row? phid = some row ∧ row.status = .inFlight) ⟨_, hafter, rfl⟩
    fun e he => inFlight_stays (hq e he)
  obtain ⟨_, hcount'⟩ := UpdateStmt.answer_some hsecond
  obtain ⟨row₂, hrow₂, hg₂⟩ := UpdateStmt.exists_of_rowCount (by rw [hcount']; omega)
  cases hrow'.symm.trans hrow₂
  simp [UpdateStmt.guard, hs] at hg₂

namespace ClaimRun

variable {run : ClaimRun}

theorem returned_event {docs : List DispatchDoc} (h : run.Returned i docs)
    (hd : d ∈ docs) : ∃ call n now k w,
      (i, (⟨.update (.runClaim call d.dispatchPhid n now), w⟩ : Event sql World)) ∈ run.events ∧
      Stmt.answer (.update (.runClaim call d.dispatchPhid n now)) w = some (k + 1) := by
  have hi : i < run.threads.length := by
    rw [← interleave_length run.schedule run.threads run.start]
    exact (List.getElem?_eq_some_iff.mp h).1
  obtain ⟨q, hq, hleads⟩ := interleave_leads run.schedule run.start (List.getElem?_eq_getElem hi)
  cases h.symm.trans hq
  obtain ⟨call, _, hcall⟩ := thread_call (List.getElem?_eq_getElem hi)
  rw [hcall] at hleads
  obtain ⟨call', n, now, k, hmem⟩ := runClaim_returned hleads hd
  obtain ⟨⟨c, w⟩, he, hobs⟩ := List.mem_map.mp hmem
  obtain ⟨rfl, hans⟩ := Sigma.mk.inj hobs
  exact ⟨call', n, now, k, w, mem_eventsOf.mp he, eq_of_heq hans⟩

theorem events_claimsOnly (run : ClaimRun) : ∀ e ∈ run.events, ClaimsOnly e.2.stmt :=
  events_meet fun _ _ => runClaim_allowed (fun _ h => .inl h)
    fun _ _ _ _ _ _ => .inr ⟨_, _, _, _, rfl⟩

theorem not_claimed_later {es fs : List (Nat × Event sql World)}
    (hsplit : run.events = es ++ (i, ⟨.update (.runClaim call phid n now), w⟩) :: fs)
    (hans : Stmt.answer (.update (.runClaim call phid n now)) w = some (k + 1))
    (he : (j, (⟨.update (.runClaim call' phid n' now'), w'⟩ : Event sql World)) ∈ fs)
    (hans' : Stmt.answer (.update (.runClaim call' phid n' now')) w' = some (k' + 1)) : False := by
  have hclaims := run.events_claimsOnly
  have hchain := interleave_chain run.schedule run.threads run.start
  change Chain _ (run.events.map Prod.snd) _ at hchain
  obtain ⟨gs, hs, rfl⟩ := List.append_of_mem he
  rw [hsplit, List.map_append, List.map_cons, List.map_append, List.map_cons] at hchain
  refine not_claimed_twice ?_ hans hchain.split.2.split.1 hans'
  intro e hmem
  obtain ⟨⟨m, e⟩, hg, rfl⟩ := List.mem_map.mp hmem
  apply hclaims (m, e)
  rw [hsplit]
  simp [hg]

theorem unique_of_events (hij : i ≠ j)
    (hi : run.Returned i docs) (hj : run.Returned j docs') (hd : d ∈ docs) (hd' : d' ∈ docs') :
    d.dispatchPhid ≠ d'.dispatchPhid := by
  intro hphid
  obtain ⟨call, n, now, k, w, he, hans⟩ := returned_event hi hd
  obtain ⟨call', n', now', k', w', he', hans'⟩ := returned_event hj hd'
  rw [← hphid] at he' hans'
  obtain ⟨es, fs, hsplit⟩ := List.append_of_mem he
  rw [hsplit] at he'
  obtain hbefore | hafter := List.mem_append.mp he'
  · obtain ⟨es₁, es₂, rfl⟩ := List.append_of_mem hbefore
    rw [List.append_assoc, List.cons_append] at hsplit
    exact not_claimed_later hsplit hans' (List.mem_append_right _ List.mem_cons_self) hans
  · obtain heq | hafter := List.mem_cons.mp hafter
    · exact hij (congrArg Prod.fst heq).symm
    · exact not_claimed_later hsplit hans hafter hans'

end ClaimRun

/-- When no limit is negative and no call writes after another has claimed since its count, the
calls of all instances together keep the cap. -/
theorem single_writer (run : ClaimRun) (hl : ∀ call ∈ run.calls, call.limit.all (0 ≤ ·))
    (hc : ∀ e ∈ run.events, claimsWithinCount e.2) : run.SingleWriter where
  capped h n := ClaimRun.capped_of_withinCount hl hc h n
  unique _ _ _ _ _ _ hij hi hj hd hd' := ClaimRun.unique_of_events hij hi hj hd hd'

def overlappingClaims : ClaimRun where
  provider := .anthropic
  runtime := none
  maxInFlight := 1
  calls := [{ now := some 5 }, { now := some 5 }]
  schedule := [0, 1, 0, 0, 0, 0, 1, 1, 1, 1]
  start := .start [freshRow "d1", freshRow "d2"] .quiet

theorem overlapping_claims_count : overlappingClaims.inFlight overlappingClaims.start = 0 ∧
      overlappingClaims.inFlight (overlappingClaims.after 10) = 2 := by
  decide +kernel

theorem not_single_writer : ¬ overlappingClaims.SingleWriter := by
  intro h
  obtain ⟨hstart, hend⟩ := overlapping_claims_count
  have hcap := h.capped (by rw [hstart]; exact Nat.zero_le _) 10
  rw [hend] at hcap
  exact absurd hcap (by decide)

def serialClaims : ClaimRun :=
  { overlappingClaims with schedule := [0, 0, 0, 0, 0, 1] }

theorem single_writer_serial : serialClaims.SingleWriter :=
  single_writer _ (by decide) (by decide +kernel)

end IdAgents
