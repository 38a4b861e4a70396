import Mathlib.Data.List.Perm.Lattice
import IdAgents.Orchestration.Daemon
import IdAgents.Orchestration.Safety

namespace IdAgents.Orchestration
open List Nat

theorem nodup_eraseDups [BEq α] [LawfulBEq α] (l : List α) : l.eraseDups.Nodup := by
  induction h : l.length using Nat.strong_induction_on generalizing l with
  | _ n ih =>
    cases l with
    | nil => exact nodup_nil
    | cons a l =>
      rw [eraseDups_cons, nodup_cons]
      constructor
      · intro hmem
        simp at hmem
      · apply ih _ _ _ rfl
        have hle := length_filter_le (fun b => !b == a) l
        rw [← h, length_cons]
        omega

/-- `while (out.length < wanted)`, which passes over the buckets at most `fuel` times. -/
def interleaveLoop (wanted : Nat) : Nat → List (List α) → List α → Option (List α)
  | 0, _, out => if wanted ≤ out.length then some out else none
  | fuel + 1, buckets, out =>
    if wanted ≤ out.length then some out
    else interleaveLoop wanted fuel (buckets.map List.tail) (out ++ buckets.filterMap List.head?)

/-- What `fairInterleaveByLane` returns, if it does so within that many passes. -/
def fairInterleaveWithin (fuel : Nat) (ordered : List BacklogRow) : Option (List BacklogRow) :=
  let buckets := laneBuckets ordered
  if buckets.length ≤ 1 then some ordered
  else interleaveLoop ordered.length fuel buckets []

/-- After `out` the lane has rows left. -/
def Unexhausted (ordered out : List BacklogRow) (lane : String) : Prop :=
  out.countP (laneKeyOf · = lane) < ordered.countP (laneKeyOf · = lane)

structure FairOrder (ordered out : List BacklogRow) : Prop where
  perm : out.Perm ordered
  first : out.head? = ordered.head?
  within : ∀ lane, out.filter (laneKeyOf · = lane) = ordered.filter (laneKeyOf · = lane)
  level : ∀ n lane lane', Unexhausted ordered (out.take n) lane →
    Unexhausted ordered (out.take n) lane' →
    (out.take n).countP (laneKeyOf · = lane) ≤ (out.take n).countP (laneKeyOf · = lane') + 1

theorem heads_map (keys : List κ) (f : κ → List α) :
    (keys.map f).filterMap head? = keys.filterMap fun k => (f k).head? := by
  rw [filterMap_map]
  rfl

theorem tails_map (keys : List κ) (f : κ → List α) :
    (keys.map f).map List.tail = keys.map fun k => (f k).tail :=
  map_map

section Rounds
variable {κ α : Type} [DecidableEq κ] {key : α → κ} {keys : List κ} {f : κ → List α}

theorem filter_heads (hnodup : keys.Nodup) (hkey : ∀ k, ∀ x ∈ f k, key x = k) (k : κ) :
    (keys.filterMap fun k => (f k).head?).filter (key · = k) =
      if k ∈ keys then (f k).head?.toList else [] := by
  induction keys with
  | nil => rfl
  | cons k' keys ih =>
    rw [nodup_cons] at hnodup
    have hrest := ih hnodup.2
    cases hhead : (f k').head? with
    | none =>
      rw [filterMap_cons_none (f := fun k => (f k).head?) hhead, hrest]
      by_cases hk : k = k'
      · subst hk
        rw [if_neg hnodup.1, if_pos mem_cons_self, hhead]
        rfl
      · simp [hk]
    | some x =>
      have hx : key x = k' := hkey k' x (mem_of_mem_head? hhead)
      rw [filterMap_cons_some (f := fun k => (f k).head?) hhead, filter_cons, hrest, hx]
      by_cases hk : k = k'
      · subst hk
        rw [if_neg hnodup.1, if_pos mem_cons_self, hhead]
        simp
      · simp [hk, Ne.symm hk]

theorem filter_rounds (hnodup : keys.Nodup) (hkey : ∀ k, ∀ x ∈ f k, key x = k) (n : Nat)
    (k : κ) : (rounds n (keys.map f)).filter (key · = k) =
      if k ∈ keys then (f k).take n else [] := by
  induction n generalizing f with
  | zero => simp [rounds]
  | succ n ih =>
    have htail : ∀ k, ∀ x ∈ (f k).tail, key x = k :=
      fun k x hx => hkey k x (mem_of_mem_tail hx)
    rw [rounds, heads_map, tails_map, filter_append, filter_heads hnodup hkey, ih htail]
    split
    · cases f k with
      | nil => simp
      | cons x xs => rfl
    · rfl

theorem countP_heads (hnodup : keys.Nodup) (hkey : ∀ k, ∀ x ∈ f k, key x = k) (hk : k ∈ keys) :
    (keys.filterMap fun k => (f k).head?).countP (key · = k) = min 1 (f k).length := by
  rw [countP_eq_length_filter, filter_heads hnodup hkey, if_pos hk]
  cases f k with
  | nil => rfl
  | cons x xs => simp

theorem rounds_level (hnodup : keys.Nodup) (hkey : ∀ k, ∀ x ∈ f k, key x = k) (n m : Nat)
    (hk : k ∈ keys) (hk' : k' ∈ keys)
    (hleft : ((rounds n (keys.map f)).take m).countP (key · = k) < (f k).length)
    (hleft' : ((rounds n (keys.map f)).take m).countP (key · = k') < (f k').length) :
    ((rounds n (keys.map f)).take m).countP (key · = k) ≤
      ((rounds n (keys.map f)).take m).countP (key · = k') + 1 := by
  induction n generalizing f m with
  | zero => simp [rounds]
  | succ n ih =>
    have htail : ∀ k, ∀ x ∈ (f k).tail, key x = k :=
      fun k x hx => hkey k x (mem_of_mem_tail hx)
    have hone := countP_heads hnodup hkey hk
    have hone' := countP_heads hnodup hkey hk'
    rw [rounds, heads_map, tails_map] at hleft hleft' ⊢
    rw [take_append] at hleft hleft' ⊢
    generalize keys.filterMap (fun k => (f k).head?) = heads at *
    by_cases hm : m ≤ heads.length
    · -- the prefix ends in the first round
      have hle := (List.take_sublist m heads).countP_le (p := (key · = k))
      simp only [Nat.sub_eq_zero_of_le hm, List.take_zero, List.append_nil] at *
      omega
    · simp only [List.take_of_length_le (Nat.le_of_not_le hm), List.countP_append] at *
      have hrest := ih htail (m - heads.length)
      simp only [List.length_tail] at hrest
      omega

end Rounds

def lanesOf (ordered : List BacklogRow) : List String := (ordered.map laneKeyOf).eraseDups

theorem laneBuckets_eq (ordered : List BacklogRow) : laneBuckets ordered =
    (lanesOf ordered).map fun lane => ordered.filter (laneKeyOf · = lane) := rfl

variable {ordered : List BacklogRow}

theorem mem_lanesOf {lane : String} :
    lane ∈ lanesOf ordered ↔ ∃ item ∈ ordered, laneKeyOf item = lane := by
  rw [lanesOf]
  rw [mem_eraseDups, mem_map]

theorem mem_bucket (ordered : List BacklogRow) :
    ∀ lane, ∀ item ∈ ordered.filter (laneKeyOf · = lane), laneKeyOf item = lane :=
  fun _ _ hitem => of_decide_eq_true (mem_filter.mp hitem).2

theorem filter_laneRounds (ordered : List BacklogRow) (hfuel : ordered.length ≤ fuel)
    (lane : String) : (rounds fuel (laneBuckets ordered)).filter (laneKeyOf · = lane) =
      ordered.filter (laneKeyOf · = lane) := by
  have hnodup : (lanesOf ordered).Nodup := nodup_eraseDups _
  rw [laneBuckets_eq, filter_rounds hnodup (mem_bucket ordered)]
  split
  · exact take_of_length_le ((length_filter_le _ _).trans hfuel)
  · next hlane =>
    symm
    rw [filter_eq_nil_iff]
    intro item hitem hkey
    exact hlane (mem_lanesOf.mpr ⟨item, hitem, of_decide_eq_true hkey⟩)

theorem perm_of_filter_lane {out : List BacklogRow}
    (h : ∀ lane, out.filter (laneKeyOf · = lane) = ordered.filter (laneKeyOf · = lane)) :
    out.Perm ordered := by
  classical
  rw [perm_iff_count]
  intro item
  have hcount (items : List BacklogRow) : items.count item =
      (items.filter (laneKeyOf · = laneKeyOf item)).count item :=
    (count_filter (by simp)).symm
  rw [hcount out, h, ← hcount ordered]

theorem rounds_nil (n : Nat) : rounds n ([] : List (List α)) = [] := by
  induction n with
  | zero => rfl
  | succ n ih => exact ih
section
variable (ordered : List BacklogRow)

theorem head?_laneRounds (hfuel : ordered.length ≤ fuel) :
    (rounds fuel (laneBuckets ordered)).head? = ordered.head? := by
  cases ordered with
  | nil => exact congrArg head? (rounds_nil fuel)
  | cons item items =>
    cases fuel with
    | zero => simp at hfuel
    | succ fuel =>
      have hbucket : laneBuckets (item :: items) =
          (item :: items.filter (laneKeyOf · = laneKeyOf item)) ::
            (laneBuckets (item :: items)).tail := by
        rw [laneBuckets]
        rw [map_cons, eraseDups_cons, map_cons]
        simp
      rw [rounds, hbucket]
      rfl

theorem length_laneRounds (hfuel : ordered.length ≤ fuel) :
    (rounds fuel (laneBuckets ordered)).length = ordered.length :=
  (perm_of_filter_lane (filter_laneRounds ordered hfuel)).length_eq

theorem interleaveLoop_eq (h : (rounds fuel buckets).length + out.length = wanted) :
    interleaveLoop wanted fuel buckets out = some (out ++ rounds fuel buckets) := by
  induction fuel generalizing buckets out with
  | zero =>
    have hlen : wanted ≤ out.length := by simpa [rounds] using h.ge
    simp [interleaveLoop, hlen, rounds]
  | succ fuel ih =>
    rw [interleaveLoop]
    split
    · next hlen =>
      have hnil : rounds (fuel + 1) buckets = [] := eq_nil_of_length_eq_zero (by omega)
      rw [hnil, append_nil]
    · rw [ih, rounds, append_assoc]
      rw [rounds, length_append] at h
      rw [length_append]
      omega

theorem rounds_extends (h : n ≤ m) (buckets : List (List α)) :
    rounds n buckets <+: rounds m buckets := by
  induction n generalizing m buckets with
  | zero => exact nil_prefix
  | succ n ih =>
    obtain ⟨m, rfl⟩ := Nat.exists_eq_add_of_lt h
    exact (List.prefix_append_right_inj _).mpr (ih (by omega) _)

theorem laneRounds_eq (hfuel : ordered.length ≤ fuel) :
    rounds fuel (laneBuckets ordered) = rounds ordered.length (laneBuckets ordered) := by
  apply (List.IsPrefix.eq_of_length (rounds_extends hfuel _) _).symm
  rw [length_laneRounds ordered hfuel, length_laneRounds ordered (le_refl _)]

theorem fairInterleaveWithin_eq (hfuel : ordered.length ≤ fuel) :
    fairInterleaveWithin fuel ordered = some (fairInterleaveByLane ordered) := by
  unfold fairInterleaveWithin fairInterleaveByLane
  dsimp only
  split
  · rfl
  · have hloop : interleaveLoop ordered.length fuel (laneBuckets ordered) [] =
        some ([] ++ rounds fuel (laneBuckets ordered)) :=
      interleaveLoop_eq (length_laneRounds ordered hfuel)
    rw [hloop, nil_append, laneRounds_eq ordered hfuel]

end

theorem fairOrder_rounds (ordered : List BacklogRow) :
    FairOrder ordered (rounds ordered.length (laneBuckets ordered)) where
  perm := perm_of_filter_lane (filter_laneRounds ordered (le_refl _))
  first := head?_laneRounds ordered (le_refl _)
  within := filter_laneRounds ordered (le_refl _)
  level := by
    intro n lane lane' hleft hleft'
    have hmem {lane : String} {out : List BacklogRow} (h : Unexhausted ordered out lane) :
        lane ∈ lanesOf ordered := by
      obtain ⟨item, hitem, hlane⟩ := countP_pos_iff.mp (zero_lt_of_lt h)
      exact mem_lanesOf.mpr ⟨item, hitem, of_decide_eq_true hlane⟩
    have hlane := hmem hleft
    have hlane' := hmem hleft'
    unfold Unexhausted at hleft hleft'
    rw [countP_eq_length_filter (l := ordered)] at hleft hleft'
    exact rounds_level (nodup_eraseDups _) (mem_bucket ordered) _ n hlane hlane' hleft hleft'

theorem lane_of_single (h : (laneBuckets ordered).length ≤ 1)
    (hitem : item ∈ ordered) (hitem' : item' ∈ ordered) : laneKeyOf item = laneKeyOf item' := by
  have hmem : laneKeyOf item ∈ lanesOf ordered := mem_lanesOf.mpr ⟨item, hitem, rfl⟩
  have hmem' : laneKeyOf item' ∈ lanesOf ordered := mem_lanesOf.mpr ⟨item', hitem', rfl⟩
  rw [laneBuckets_eq, length_map] at h
  cases hlanes : lanesOf ordered with
  | nil =>
    rw [hlanes] at hmem
    cases hmem
  | cons only lanes =>
    rw [hlanes, length_cons] at h
    have hnil : lanes = [] := eq_nil_of_length_eq_zero (by omega)
    rw [hlanes, hnil, mem_singleton] at hmem hmem'
    rw [hmem, hmem']

theorem fairOrder_single (h : (laneBuckets ordered).length ≤ 1) : FairOrder ordered ordered where
  perm := .refl _
  first := rfl
  within _ := rfl
  level := by
    intro n lane lane' hleft hleft'
    obtain ⟨item, hitem, hlane⟩ := countP_pos_iff.mp (zero_lt_of_lt hleft)
    obtain ⟨item', hitem', hlane'⟩ := countP_pos_iff.mp (zero_lt_of_lt hleft')
    have hsame := lane_of_single h hitem hitem'
    rw [of_decide_eq_true hlane, of_decide_eq_true hlane'] at hsame
    rw [hsame]
    exact le_succ _

/-- The loop over the lanes ends, and the order that it leaves is fair to them. -/
theorem fairInterleaveByLane_fair (ordered : List BacklogRow) : (∀ fuel, ordered.length ≤ fuel →
      fairInterleaveWithin fuel ordered = some (fairInterleaveByLane ordered)) ∧
    FairOrder ordered (fairInterleaveByLane ordered) := by
  refine ⟨fun fuel hfuel => fairInterleaveWithin_eq ordered hfuel, ?_⟩
  unfold fairInterleaveByLane
  dsimp only
  split
  · next h => exact fairOrder_single h
  · exact fairOrder_rounds ordered

end IdAgents.Orchestration
