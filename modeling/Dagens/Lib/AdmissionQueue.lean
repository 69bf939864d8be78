import Mathlib

/-!
# Claims in a queue with a limited number of places

Claims line up in the order of their arrival and the first `places` of them are
admitted. A claim may leave from anywhere, which moves up the ones behind it. What
is counted are the admitted claims with some property: leaving costs at most the
claim itself.
-/

namespace Dagens.Lib.AdmissionQueue

open List

variable {Claim : Type}

/-- The admitted claims with the property. -/
def admitted (places : Nat) (queue : List Claim) (counts : Claim → Bool) : Nat :=
  (queue.take places).countP counts

variable {queue : List Claim} {counts : Claim → Bool} {places : Nat} {others : Claim → Bool}

theorem admitted_mono (more : ∀ claim ∈ queue, counts claim = true → others claim = true) :
    admitted places queue counts ≤ admitted places queue others :=
  countP_mono_left fun claim member => more claim (mem_of_mem_take member)

theorem admitted_join (places : Nat) (queue joining : List Claim) (counts : Claim → Bool) :
    admitted places queue counts ≤ admitted places (queue ++ joining) counts := by
  unfold admitted
  rw [take_append, countP_append]
  exact Nat.le_add_right _ _

theorem countP_gain {claim : Claim} (member : claim ∈ queue) (before : counts claim = false)
    (after : others claim = true) (more : ∀ one, counts one = true → others one = true) :
    queue.countP counts + 1 ≤ queue.countP others := by
  induction queue with
  | nil => cases member
  | cons head rest ih =>
    have tails : rest.countP counts ≤ rest.countP others :=
      countP_mono_left fun one _ => more one
    rcases mem_cons.mp member with rfl | later
    · simp only [countP_cons, before, after]
      simpa using tails
    · have step := ih later
      simp only [countP_cons]
      by_cases held : counts head = true
      · simp only [held, more head held, if_true]
        omega
      · rw [if_neg held]
        omega

section Leaving

variable [DecidableEq Claim]

theorem take_leave_sublist (places : Nat) (queue : List Claim) (claim : Claim) :
    ((queue.take places).filter fun one => !decide (one = claim)).Sublist
      ((queue.filter fun one => !decide (one = claim)).take places) := by
  have short : ((queue.take places).filter fun one => !decide (one = claim)).length ≤ places :=
    (length_filter_le _ _).trans (by simp)
  have front : ((queue.take places).filter fun one => !decide (one = claim)) <+:
      queue.filter fun one => !decide (one = claim) := by
    conv_rhs => rw [← take_append_drop places queue, filter_append]
    exact prefix_append _ _
  exact (prefix_take_iff.mpr ⟨front, short⟩).sublist

theorem countP_leave (distinct : queue.Nodup) (claim : Claim) (counts : Claim → Bool) :
    (queue.filter fun one => !decide (one = claim)).countP counts +
      (if claim ∈ queue ∧ counts claim = true then 1 else 0) = queue.countP counts := by
  induction queue with
  | nil => simp
  | cons head rest ih =>
    obtain ⟨absent, distinct⟩ := nodup_cons.mp distinct
    have later := ih distinct
    by_cases same : head = claim
    · subst same
      have kept : rest.filter (fun one => !decide (one = head)) = rest :=
        filter_eq_self.mpr fun one member => by
          have other : one ≠ head := fun equal => absent (equal ▸ member)
          simpa using other
      simp [kept, countP_cons]
    · simp only [filter_cons, same, decide_false, Bool.not_false, if_true,
        countP_cons, mem_cons, Ne.symm same, false_or]
      omega

theorem admitted_leave (distinct : queue.Nodup) (places : Nat) (claim : Claim)
    (counts : Claim → Bool) :
    admitted places queue counts ≤
      admitted places (queue.filter fun one => !decide (one = claim)) counts +
        (if counts claim = true then 1 else 0) := by
  have kept := countP_leave (distinct.sublist (take_sublist places queue)) claim counts
  have moved : ((queue.take places).filter fun one => !decide (one = claim)).countP counts ≤
      admitted places (queue.filter fun one => !decide (one = claim)) counts :=
    (take_leave_sublist places queue claim).countP_le
  have cost : (if claim ∈ queue.take places ∧ counts claim = true then 1 else 0) ≤
      if counts claim = true then 1 else 0 := by
    split_ifs with both one
    · exact le_refl 1
    · exact absurd both.2 one
    · exact Nat.zero_le 1
    · exact le_refl 0
  unfold admitted at moved ⊢
  omega

end Leaving

theorem holders_le_places {Class : Type} [DecidableEq Class] {classOf : Claim → Class}
    {holders : List Class}
    (covered : ∀ one, holders.count one ≤ admitted places queue fun claim => decide (classOf claim =
      one) && counts claim) :
    holders.length ≤ places := by
  have counted : ∀ one, (((queue.take places).filter counts).map classOf).count one =
      admitted places queue fun claim => decide (classOf claim = one) && counts claim := by
    intro one
    simp only [admitted, List.count, countP_map, countP_filter, Function.comp_def]
    rfl
  have inside := subperm_ext_iff.mpr fun one _ => (covered one).trans (counted one).ge
  calc holders.length ≤ (((queue.take places).filter counts).map classOf).length := inside.length_le
    _ = ((queue.take places).filter counts).length := length_map _
    _ ≤ (queue.take places).length := length_filter_le _ _
    _ ≤ places := by simp

end Dagens.Lib.AdmissionQueue
