/-
Module: Airdrop.Library.Schedule
Purpose: Amounts released linearly over time and rounded down, and shares of a
  pool proportional to weights and rounded down.
Trusted boundary: none
Main exports: scheduled, scheduled_le, scheduled_mono, share, share_mul_le,
  sum_share_le, share_multiple_eq_iff, sum_share_multiple_eq_iff, Proportional,
  Proportional.grant, Proportional.le_pool
-/
import Mathlib.Algebra.BigOperators.Ring.Finset
import Mathlib.Algebra.Order.BigOperators.Group.Finset
import Mathlib.Tactic.Ring

namespace Schedule

/-! ## Linear release -/

/-- What is released of `amount` at `now`: nothing before `start`, all of it from
`stop` on, and the elapsed part rounded down in between. -/
def scheduled (amount : Nat) (start stop now : Int) : Nat :=
  if now < start then 0
  else if stop ≤ now then amount
  else (now - start).toNat * amount / (stop - start).toNat

section Scheduled

variable {amount : Nat} {start stop now later : Int}

theorem scheduled_of_lt (early : now < start) :
    scheduled amount start stop now = 0 := if_pos early

theorem scheduled_of_ge (begun : start ≤ now) (ended : stop ≤ now) :
    scheduled amount start stop now = amount := by
  rw [scheduled, if_neg (not_lt.mpr begun), if_pos ended]

theorem scheduled_between (begun : start ≤ now) (running : now < stop) :
    scheduled amount start stop now =
      (now - start).toNat * amount / (stop - start).toNat := by
  rw [scheduled, if_neg (not_lt.mpr begun), if_neg (not_le.mpr running)]

/-- No more than the amount is ever released. -/
theorem scheduled_le : scheduled amount start stop now ≤ amount := by
  rcases lt_or_ge now start with early | begun
  · rw [scheduled_of_lt early]
    exact Nat.zero_le amount
  · rcases le_or_gt stop now with ended | running
    · rw [scheduled_of_ge begun ended]
    · rw [scheduled_between begun running]
      apply Nat.div_le_of_le_mul
      apply Nat.mul_le_mul_right
      omega

/-- What has been released stays released. -/
theorem scheduled_mono (passes : now ≤ later) :
    scheduled amount start stop now ≤ scheduled amount start stop later := by
  rcases lt_or_ge now start with early | begun
  · rw [scheduled_of_lt early]
    exact Nat.zero_le _
  · rcases le_or_gt stop later with ended | running
    · rw [scheduled_of_ge (begun.trans passes) ended]
      exact scheduled_le
    · rw [scheduled_between begun (by omega),
        scheduled_between (begun.trans passes) running]
      apply Nat.div_le_div_right
      apply Nat.mul_le_mul_right
      omega

end Scheduled

/-! ## Proportional shares -/

/-- The part of `pool` due to `weight` out of `whole`, rounded down. -/
def share (pool whole weight : Nat) : Nat := weight * pool / whole

theorem share_mul_le (pool whole weight : Nat) :
    share pool whole weight * whole ≤ weight * pool :=
  Nat.div_mul_le_self _ _

/-- Shares of weights that make up no more than the whole never exceed the
pool. -/
theorem sum_share_le {Member : Type*} (members : Finset Member)
    (weight : Member → Nat) (pool : Nat) {whole : Nat}
    (bounded : ∑ member ∈ members, weight member ≤ whole) :
    ∑ member ∈ members, share pool whole (weight member) ≤ pool := by
  rcases Nat.eq_zero_or_pos whole with rfl | positive
  · simp [share]
  · have scaled : (∑ member ∈ members, share pool whole (weight member)) * whole ≤
        pool * whole :=
      calc (∑ member ∈ members, share pool whole (weight member)) * whole
          = ∑ member ∈ members, share pool whole (weight member) * whole :=
            Finset.sum_mul _ _ _
        _ ≤ ∑ member ∈ members, weight member * pool :=
            Finset.sum_le_sum fun member _ => share_mul_le pool whole (weight member)
        _ = (∑ member ∈ members, weight member) * pool :=
            (Finset.sum_mul _ _ _).symm
        _ ≤ whole * pool := Nat.mul_le_mul_right _ bounded
        _ = pool * whole := Nat.mul_comm _ _
    exact Nat.le_of_mul_le_mul_right scaled positive

/-! ## Pools that are a multiple of a part of the whole -/

section Multiple

variable {part rest factor : Nat}

/-- The pool is the multiple of one part of the whole, and is shared over the whole.  A
share is the multiple of its weight only where the rest is empty, or both are nothing. -/
theorem share_multiple_eq_iff (positive : 0 < part + rest) (weight : Nat) :
    share (part * factor) (part + rest) weight = factor * weight ↔
      rest = 0 ∨ factor = 0 ∨ weight = 0 := by
  have reordered : weight * (part * factor) = factor * weight * part := by ring
  rw [share, reordered]
  constructor
  · intro whole
    by_contra some
    rw [not_or, not_or] at some
    have nonzero : 0 < factor * weight :=
      Nat.mul_pos (Nat.pos_of_ne_zero some.2.1) (Nat.pos_of_ne_zero some.2.2)
    have less : factor * weight * part / (part + rest) < factor * weight := by
      rw [Nat.div_lt_iff_lt_mul positive]
      exact Nat.mul_lt_mul_of_pos_left (by omega) nonzero
    omega
  · rintro (rfl | rfl | rfl)
    · exact Nat.mul_div_cancel _ positive
    · simp
    · simp

/-- Shares of weights that make up the part never exceed what the part is due. -/
theorem sum_share_list_le (weights : List Nat) (pool whole : Nat) :
    (weights.map (share pool whole)).sum * whole ≤ weights.sum * pool := by
  induction weights with
  | nil => simp
  | cons weight weights inductionHypothesis =>
      rw [List.map_cons, List.sum_cons, List.sum_cons, Nat.add_mul, Nat.add_mul]
      exact Nat.add_le_add (share_mul_le pool whole weight) inductionHypothesis

/-- The shares of all the weights of the part use the pool up only where the rest is
empty, or there is nothing to share. -/
theorem sum_share_multiple_eq_iff (positive : 0 < part + rest) {weights : List Nat}
    (total : weights.sum = part) :
    (weights.map (share (part * factor) (part + rest))).sum = part * factor ↔
      rest = 0 ∨ factor = 0 ∨ part = 0 := by
  constructor
  · intro usedUp
    have bound := sum_share_list_le weights (part * factor) (part + rest)
    rw [usedUp, total] at bound
    by_contra some
    rw [not_or, not_or] at some
    have nonzero : 0 < part * factor :=
      Nat.mul_pos (Nat.pos_of_ne_zero some.2.2) (Nat.pos_of_ne_zero some.2.1)
    have within := Nat.le_of_mul_le_mul_right (Nat.mul_comm (part * factor) _ ▸ bound) nonzero
    omega
  · intro nothing
    have each : ∀ weight ∈ weights,
        share (part * factor) (part + rest) weight = factor * weight := by
      intro weight member
      rw [share_multiple_eq_iff positive]
      rcases nothing with empty | none | zero
      · exact .inl empty
      · exact .inr (.inl none)
      · have below := List.le_sum_of_mem member
        exact .inr (.inr (by omega))
    rw [List.map_congr_left each, List.sum_map_mul_left, List.map_id', total, Nat.mul_comm]

end Multiple

/-! ## Pools granted along with payments -/

/-- What was granted out of a pool is proportional, at most, to what was paid
besides: `granted / paid ≤ pool / whole`, cleared of denominators. -/
def Proportional (pool whole granted paid : Nat) : Prop :=
  granted * whole ≤ pool * paid

section Proportional

variable {pool whole granted paid : Nat}

theorem Proportional.zero (pool whole : Nat) : Proportional pool whole 0 0 := by
  simp [Proportional]

/-- A payment with at most its share granted on top keeps the proportion. -/
theorem Proportional.grant (sofar : Proportional pool whole granted paid)
    {more weight : Nat} (bounded : more ≤ share pool whole weight) :
    Proportional pool whole (granted + more) (paid + weight) := by
  unfold Proportional at sofar ⊢
  have scaled : more * whole ≤ weight * pool :=
    (Nat.mul_le_mul_right whole bounded).trans (share_mul_le pool whole weight)
  rw [Nat.add_mul, Nat.mul_add, Nat.mul_comm pool weight]
  exact Nat.add_le_add sofar scaled

/-- Under a common cap of the whole and the pool, a proportional grant never
exceeds the pool. -/
theorem Proportional.le_pool (sofar : Proportional pool whole granted paid)
    (capped : granted + paid ≤ whole + pool) : granted ≤ pool := by
  unfold Proportional at sofar
  rcases Nat.eq_zero_or_pos (whole + pool) with empty | positive
  · omega
  · have scaled : granted * (whole + pool) ≤ pool * (whole + pool) :=
      calc granted * (whole + pool)
          = granted * whole + pool * granted := by ring
        _ ≤ pool * paid + pool * granted := Nat.add_le_add_right sofar _
        _ = pool * (granted + paid) := by ring
        _ ≤ pool * (whole + pool) := Nat.mul_le_mul_left pool capped
    exact Nat.le_of_mul_le_mul_right scaled positive

end Proportional

end Schedule
