import Mathlib.Data.List.Basic

namespace Batches
open List

variable {α : Type}

/-- The queue after a round, where `keeps` tells the elements the round leaves unfinished. -/
def round (size : Nat) (keeps : α → Bool) (queue : List α) : List α :=
  (queue.take size).filter keeps ++ queue.drop size

/-- The queue after `n` rounds. -/
def after (size : Nat) (keeps : Nat → α → Bool) (queue : List α) : Nat → List α
  | 0 => queue
  | n + 1 => round size (keeps n) (after size keeps queue n)

/-- The elements that round `n` takes. -/
def batch (size : Nat) (keeps : Nat → α → Bool) (queue : List α) (n : Nat) : List α :=
  (after size keeps queue n).take size

/-- The stretches fit, one in each round from the `n`-th on: a round has room for the elements
carried into it and for its stretch, and carries on those it leaves unfinished. -/
def Fits (size : Nat) (keeps : Nat → α → Bool) : Nat → List α → List (List α) → Prop
  | _, _, [] => True
  | n, carried, stretch :: stretches => (carried ++ stretch).length ≤ size ∧
      Fits size keeps (n + 1) ((carried ++ stretch).filter (keeps n)) stretches

/-- The elements not yet taken after `n` more rounds, where `carried` and then `rest` stand in the
queue before round `start`. -/
def untouched (size : Nat) (keeps : Nat → α → Bool) : Nat → List α → List α → Nat → List α
  | _, _, rest, 0 => rest
  | start, carried, rest, n + 1 =>
    let stretch := rest.take (size - carried.length)
    untouched size keeps (start + 1) ((carried ++ stretch).filter (keeps start))
      (rest.drop (size - carried.length)) n

variable {size : Nat} {keeps : Nat → α → Bool}

theorem round_append (h : carried.length ≤ size) (keeps : α → Bool) (rest : List α) :
    round size keeps (carried ++ rest) =
      (carried ++ rest.take (size - carried.length)).filter keeps ++
        rest.drop (size - carried.length) := by
  rw [round, take_append, take_of_length_le h, drop_append,
    drop_of_length_le h, nil_append]

theorem carried_length (h : carried.length ≤ size) (keeps : α → Bool) (rest : List α) :
    ((carried ++ rest.take (size - carried.length)).filter keeps).length ≤ size := by
  have hfilter := length_filter_le keeps (carried ++ rest.take (size - carried.length))
  have htake := length_take_le (size - carried.length) rest
  rw [length_append] at hfilter
  omega

/-- What the rounds take of the rest are stretches that fit. -/
theorem exists_fits (keeps : Nat → α → Bool) (start : Nat) (h : carried.length ≤ size)
    (rest : List α) (n : Nat) :
    ∃ stretches : List (List α), stretches.length = n ∧ Fits size keeps start carried stretches ∧
      stretches.flatten ++ untouched size keeps start carried rest n = rest := by
  induction n generalizing start carried rest with
  | zero => exact ⟨[], rfl, trivial, rfl⟩
  | succ n ih =>
    obtain ⟨stretches, hlength, hfits, hflatten⟩ :=
      ih (start + 1) (carried_length h (keeps start) rest) (rest.drop (size - carried.length))
    refine ⟨rest.take (size - carried.length) :: stretches, by simp [hlength], ⟨?_, hfits⟩, ?_⟩
    · have htake := length_take_le (size - carried.length) rest
      rw [length_append]
      omega
    · rw [flatten_cons, append_assoc, untouched, hflatten, take_append_drop]

/-- Taking from the front leaves no more untouched than any stretches that fit: what it carries is
carried there too or stands in a stretch to come. -/
theorem untouched_of_fits (ahead : List α) (hfits : Fits size keeps start others stretches)
    (hahead : stretches.flatten = ahead ++ rest) (hsub : carried.Sublist (others ++ ahead)) :
    untouched size keeps start carried rest stretches.length = [] := by
  induction stretches generalizing start carried rest others ahead with
  | nil => exact (append_eq_nil_iff.mp hahead.symm).2
  | cons stretch stretches ih =>
    obtain ⟨hroom, hfits⟩ := hfits
    have hlen := hsub.length_le
    rw [length_append] at hlen hroom
    rw [flatten_cons] at hahead
    -- the stretch lies within what is ahead together with what this round takes
    have hprefix : stretch <+: ahead ++ rest.take (size - carried.length) := by
      have hwhole : stretch <+: ahead ++ rest := ⟨_, hahead⟩
      have htaken : ahead ++ rest.take (size - carried.length) <+: ahead ++ rest := by
        rw [prefix_append_right_inj]
        exact take_prefix _ _
      by_cases hshort : rest.length ≤ size - carried.length
      · rwa [take_of_length_le hshort]
      · apply prefix_of_prefix_length_le hwhole htaken
        rw [length_append, length_take]
        omega
    obtain ⟨ahead', hahead'⟩ := hprefix
    rw [length_cons, untouched]
    apply ih ahead' hfits
    · have hall : stretch ++ stretches.flatten =
          stretch ++ (ahead' ++ rest.drop (size - carried.length)) := by
        rw [hahead, ← append_assoc, hahead', append_assoc, take_append_drop]
      exact append_cancel_left hall
    · have hstep : (carried ++ rest.take (size - carried.length)).Sublist
          (others ++ stretch ++ ahead') := by
        rw [append_assoc, hahead', ← append_assoc]
        exact hsub.append_right _
      have hsplit : (others ++ stretch ++ ahead').filter (keeps start) =
          (others ++ stretch).filter (keeps start) ++ ahead'.filter (keeps start) :=
        filter_append _ _
      have hkept := hstep.filter (keeps start)
      rw [hsplit] at hkept
      exact hkept.trans (List.Sublist.append (List.Sublist.refl _) filter_sublist)

/-- The queue before a round is what is carried into it and what is untouched. -/
theorem after_eq (size : Nat) (keeps : Nat → α → Bool) (queue : List α) (n : Nat) :
    ∃ carried, carried.length ≤ size ∧
      after size keeps queue n = carried ++ untouched size keeps 0 [] queue n ∧
      ∀ k, untouched size keeps 0 [] queue (n + k) =
        untouched size keeps n carried (untouched size keeps 0 [] queue n) k := by
  induction n with
  | zero => exact ⟨[], Nat.zero_le _, rfl, fun k => by rw [Nat.zero_add]; rfl⟩
  | succ n ih =>
    obtain ⟨carried, hlen, hafter, hrest⟩ := ih
    have hone := hrest 1
    refine ⟨_, carried_length hlen (keeps n) (untouched size keeps 0 [] queue n), ?_, fun k => ?_⟩
    · rw [after, hafter, round_append hlen, hone]
      rfl
    · have hk := hrest (k + 1)
      rw [show n + 1 + k = n + (k + 1) by omega, hk, hone]
      rfl

theorem round_sublist (size : Nat) (keeps : α → Bool) (queue : List α) :
    (round size keeps queue).Sublist queue := by
  have hparts : (round size keeps queue).Sublist (queue.take size ++ queue.drop size) :=
    List.Sublist.append filter_sublist (List.Sublist.refl _)
  rwa [take_append_drop] at hparts

theorem after_sublist (queue : List α) (n : Nat) : (after size keeps queue n).Sublist queue := by
  induction n with
  | zero => exact List.Sublist.refl queue
  | succ n ih => exact (round_sublist size (keeps n) _).trans ih

/-- The untouched elements are those no round has taken. -/
theorem mem_untouched (hnodup : queue.Nodup) (n : Nat) (hx : x ∈ queue) :
    x ∈ untouched size keeps 0 [] queue n ↔ ∀ k < n, x ∉ batch size keeps queue k := by
  induction n with
  | zero => exact ⟨fun _ k hk => absurd hk (Nat.not_lt_zero k), fun _ => hx⟩
  | succ n ih =>
    obtain ⟨carried, hlen, hafter, hrest⟩ := after_eq size keeps queue n
    have hdrop : untouched size keeps 0 [] queue (n + 1) =
        (untouched size keeps 0 [] queue n).drop (size - carried.length) := hrest 1
    have hbatch : batch size keeps queue n =
        carried ++ (untouched size keeps 0 [] queue n).take (size - carried.length) := by
      rw [batch, hafter, take_append, take_of_length_le hlen]
    have hapart : (carried ++ untouched size keeps 0 [] queue n).Nodup := by
      rw [← hafter]
      exact hnodup.sublist (after_sublist queue n)
    generalize untouched size keeps 0 [] queue n = rest at hdrop hbatch hapart ih
    obtain ⟨_, hrestNodup, hdisjoint⟩ := nodup_append.mp hapart
    rw [← take_append_drop (size - carried.length) rest, nodup_append] at hrestNodup
    rw [hdrop]
    constructor
    · intro hin k hk
      have hmem : x ∈ rest := mem_of_mem_drop hin
      rcases Nat.lt_succ_iff_lt_or_eq.mp hk with hk | rfl
      · exact ih.mp hmem k hk
      · rw [hbatch, mem_append, not_or]
        exact ⟨fun hc => hdisjoint x hc x hmem rfl,
          fun ht => hrestNodup.2.2 x ht x hin rfl⟩
    · intro hnone
      have hmem : x ∈ rest := ih.mpr fun k hk => hnone k (Nat.lt_succ_of_lt hk)
      rw [← take_append_drop (size - carried.length) rest, mem_append] at hmem
      rcases hmem with ht | hd
      · have hout := hnone n (Nat.lt_succ_self n)
        rw [hbatch, mem_append, not_or] at hout
        exact absurd ht hout.2
      · exact hd

/-- Every element is taken within `n` rounds exactly when the queue can be cut into `n` stretches
that fit. -/
theorem all_taken_iff (hnodup : queue.Nodup) (n : Nat) :
    (∀ x ∈ queue, ∃ k < n, x ∈ batch size keeps queue k) ↔
      ∃ stretches : List (List α), stretches.length = n ∧ stretches.flatten = queue ∧
        Fits size keeps 0 [] stretches := by
  have hempty : ([] : List α).length ≤ size := Nat.zero_le size
  have huntouched : (∀ x ∈ queue, ∃ k < n, x ∈ batch size keeps queue k) ↔
      untouched size keeps 0 [] queue n = [] := by
    obtain ⟨stretches, _, _, hflatten⟩ :=
      exists_fits keeps 0 hempty queue n
    rw [eq_nil_iff_forall_not_mem]
    constructor
    · intro hall x hx
      have hmem : x ∈ queue := by
        rw [← hflatten]
        exact mem_append_right _ hx
      obtain ⟨k, hk, hbatch⟩ := hall x hmem
      exact (mem_untouched hnodup n hmem).mp hx k hk hbatch
    · intro hnone x hx
      by_contra hout
      push Not at hout
      exact hnone x ((mem_untouched hnodup n hx).mpr hout)
  rw [huntouched]
  constructor
  · intro hnone
    obtain ⟨stretches, hlength, hfits, hflatten⟩ :=
      exists_fits keeps 0 hempty queue n
    rw [hnone, append_nil] at hflatten
    exact ⟨stretches, hlength, hflatten, hfits⟩
  · rintro ⟨stretches, rfl, rfl, hfits⟩
    exact untouched_of_fits [] hfits (nil_append _).symm (nil_sublist _)

end Batches
