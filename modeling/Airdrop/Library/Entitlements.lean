/-
Module: Airdrop.Library.Entitlements
Purpose: Members entitled to parts of a common pool.  While everybody is paid
  within the own entitlement, the payments to some never use up what is due to
  another, in whatever order they are made.
Trusted boundary: none
Main exports: Scheme, Scheme.Within, Scheme.Within.room, Scheme.withBonus
-/
import Airdrop.Library.Schedule

namespace Entitlements

open Schedule

/-- What is due to each member, covered by a pool. -/
structure Scheme (Member : Type*) where
  members : Finset Member
  due : Member → Nat
  pool : Nat
  covered : ∑ member ∈ members, due member ≤ pool

namespace Scheme

variable {Member : Type*} {scheme : Scheme Member} {paid : Member → Nat}

/-- Every member has been paid within its entitlement. -/
def Within (scheme : Scheme Member) (paid : Member → Nat) : Prop :=
  ∀ member ∈ scheme.members, paid member ≤ scheme.due member

/-- Whatever the others were paid, the pool has room for everything that is still
due to a member. -/
theorem Within.room (within : scheme.Within paid) {member : Member}
    (listed : member ∈ scheme.members) {more : Nat}
    (stillDue : paid member + more ≤ scheme.due member) :
    ∑ other ∈ scheme.members, paid other + more ≤ scheme.pool := by
  classical
  have others : ∑ other ∈ scheme.members.erase member, paid other ≤
      ∑ other ∈ scheme.members.erase member, scheme.due other := by
    apply Finset.sum_le_sum
    intro other remains
    exact within other (Finset.mem_of_mem_erase remains)
  calc ∑ other ∈ scheme.members, paid other + more
      = (paid member + more) + ∑ other ∈ scheme.members.erase member, paid other := by
        rw [← Finset.add_sum_erase _ _ listed]
        omega
    _ ≤ scheme.due member + ∑ other ∈ scheme.members.erase member, scheme.due other :=
        Nat.add_le_add stillDue others
    _ = ∑ other ∈ scheme.members, scheme.due other :=
        Finset.add_sum_erase _ _ listed
    _ ≤ scheme.pool := scheme.covered

/-- Amounts that are due in full, and on top of the first of the two a share of a
bonus pool, where the amounts make up no more than the whole. -/
def withBonus (members : Finset Member) (first second : Member → Nat)
    (bonusPool whole : Nat)
    (bounded : ∑ member ∈ members, first member +
      ∑ member ∈ members, second member ≤ whole) : Scheme Member where
  members := members
  due := fun member =>
    first member + share bonusPool whole (first member) + second member
  pool := whole + bonusPool
  covered := by
    have bonuses : ∑ member ∈ members, share bonusPool whole (first member) ≤
        bonusPool :=
      sum_share_le members first bonusPool (by omega)
    rw [Finset.sum_add_distrib, Finset.sum_add_distrib]
    omega

end Scheme

end Entitlements
