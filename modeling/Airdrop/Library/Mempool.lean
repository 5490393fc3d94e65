/-
Module: Airdrop.Library.Mempool
Purpose: Transactions that are in flight from their submission until they are settled,
  each once; and when at most one transaction of a kind succeeds or still may.
Trusted boundary: none
Main exports: Mempool, Mempool.submit, Mempool.settle, Mempool.submitted, Mempool.live,
  Mempool.Exclusive, Mempool.Exclusive.submit, Mempool.Exclusive.settle,
  Mempool.Exclusive.sum_le
-/
import Mathlib.Algebra.BigOperators.Group.List.Basic
import Mathlib.Data.List.Nodup
import Mathlib.Tactic.Ring

/-- The transactions in flight and the settled ones with their outcomes, the latest first.
A transaction is told apart by what it says, so it is there once. -/
structure Mempool (Tx Outcome : Type) where
  inFlight : List Tx
  settled : List (Tx × Outcome)
  distinct : (inFlight ++ settled.map Prod.fst).Nodup

namespace Mempool

variable {Tx Outcome : Type}

/-- Before anything is submitted. -/
def empty : Mempool Tx Outcome :=
  { inFlight := [], settled := [], distinct := List.nodup_nil }

section Operations

variable [DecidableEq Tx]

/-- Submit a transaction.  One that was submitted before changes nothing. -/
def submit (pool : Mempool Tx Outcome) (tx : Tx) : Mempool Tx Outcome :=
  if known : tx ∈ pool.inFlight ++ pool.settled.map Prod.fst then pool
  else
    { inFlight := tx :: pool.inFlight
      settled := pool.settled
      distinct := List.nodup_cons.mpr ⟨known, pool.distinct⟩ }

theorem settle_distinct {pool : Mempool Tx Outcome} {tx : Tx} (outcome : Outcome)
    (pending : tx ∈ pool.inFlight) :
    (pool.inFlight.erase tx ++ ((tx, outcome) :: pool.settled).map Prod.fst).Nodup := by
  have moved : (pool.inFlight.erase tx ++ tx :: pool.settled.map Prod.fst).Perm
      (pool.inFlight ++ pool.settled.map Prod.fst) :=
    List.perm_middle.trans ((List.perm_cons_erase pending).symm.append_right _)
  exact moved.nodup_iff.mpr pool.distinct

/-- Settle a transaction that is in flight. -/
def settle (pool : Mempool Tx Outcome) (tx : Tx) (outcome : Outcome) :
    Option (Mempool Tx Outcome) :=
  if pending : tx ∈ pool.inFlight then
    some
      { inFlight := pool.inFlight.erase tx
        settled := (tx, outcome) :: pool.settled
        distinct := settle_distinct outcome pending }
  else none

/-- Every transaction that was submitted. -/
def submitted (pool : Mempool Tx Outcome) : List Tx :=
  pool.inFlight ++ pool.settled.map Prod.fst

/-- How a transaction was settled, if it was. -/
def outcome? (pool : Mempool Tx Outcome) (tx : Tx) : Option Outcome :=
  (pool.settled.find? fun entry => entry.1 = tx).map Prod.snd

end Operations

/-! ## Transactions that succeeded or still may -/

variable (succeeded : Outcome → Bool)

/-- The transactions that succeeded. -/
def successes (pool : Mempool Tx Outcome) : List Tx :=
  (pool.settled.filter fun entry => succeeded entry.2).map Prod.fst

/-- The transactions that are in flight or succeeded. -/
def live (pool : Mempool Tx Outcome) : List Tx :=
  pool.inFlight ++ pool.successes succeeded

/-- At most one transaction of this kind is in flight or succeeded. -/
def Exclusive (concerns : Tx → Prop) (pool : Mempool Tx Outcome) : Prop :=
  ∀ one ∈ pool.live succeeded, ∀ other ∈ pool.live succeeded,
    concerns one → concerns other → one = other

variable {succeeded} {pool after : Mempool Tx Outcome} {tx other : Tx} {outcome : Outcome}

theorem mem_successes :
    tx ∈ pool.successes succeeded ↔
      ∃ outcome, (tx, outcome) ∈ pool.settled ∧ succeeded outcome = true := by
  simp [successes]

theorem successes_nodup (pool : Mempool Tx Outcome) :
    (pool.successes succeeded).Nodup := by
  have settled : (pool.settled.map Prod.fst).Nodup :=
    pool.distinct.sublist (List.sublist_append_right _ _)
  exact settled.sublist (List.filter_sublist.map _)

section Operations

variable [DecidableEq Tx]

theorem settled_submit : (pool.submit tx).settled = pool.settled := by
  rw [submit]
  split <;> rfl

theorem mem_inFlight_submit (flying : other ∈ (pool.submit tx).inFlight) :
    other = tx ∨ other ∈ pool.inFlight := by
  rw [submit] at flying
  split at flying
  · exact .inr flying
  · exact List.mem_cons.mp flying

theorem mem_live_submit (isLive : other ∈ (pool.submit tx).live succeeded) :
    other = tx ∨ other ∈ pool.live succeeded := by
  rw [live, successes, settled_submit, List.mem_append] at isLive
  rcases isLive with flying | success
  · rcases mem_inFlight_submit flying with rfl | flying
    · exact .inl rfl
    · exact .inr (List.mem_append_left _ flying)
  · exact .inr (List.mem_append_right _ success)

theorem settle_eq_some :
    pool.settle tx outcome = some after ↔
      tx ∈ pool.inFlight ∧ after.inFlight = pool.inFlight.erase tx ∧
        after.settled = (tx, outcome) :: pool.settled := by
  rw [settle]
  split
  case isFalse idle => simp [idle]
  case isTrue pending =>
    constructor
    · rintro ⟨⟩
      exact ⟨pending, rfl, rfl⟩
    · rintro ⟨_, flying, settled⟩
      cases after
      simp_all

/-- What is settled stays submitted. -/
theorem submitted_settle (settled : pool.settle tx outcome = some after) :
    after.submitted.Perm pool.submitted := by
  obtain ⟨pending, flying, entries⟩ := settle_eq_some.mp settled
  rw [submitted, flying, entries, List.map_cons]
  exact List.perm_middle.trans ((List.perm_cons_erase pending).symm.append_right _)

/-- A transaction counts once. -/
theorem submitted_submit :
    (pool.submit tx).submitted =
      if tx ∈ pool.submitted then pool.submitted else tx :: pool.submitted := by
  rw [submit]
  split
  case isTrue known => exact (if_pos known).symm
  case isFalse new => exact (if_neg new).symm

/-- A transaction has one outcome at most. -/
theorem outcome?_eq_some : pool.outcome? tx = some outcome ↔ (tx, outcome) ∈ pool.settled := by
  have distinct : (pool.settled.map Prod.fst).Nodup :=
    pool.distinct.sublist (List.sublist_append_right _ _)
  rw [outcome?]
  constructor
  · intro found
    rcases Option.map_eq_some_iff.mp found with ⟨entry, isEntry, rfl⟩
    have here := List.find?_some isEntry
    rw [← of_decide_eq_true here]
    exact List.mem_of_find?_eq_some isEntry
  · intro listed
    have some : ∃ entry, pool.settled.find? (fun entry => entry.1 = tx) = some entry := by
      rw [← Option.isSome_iff_exists, List.find?_isSome]
      exact ⟨_, listed, by simp⟩
    rcases some with ⟨entry, isEntry⟩
    have here := List.find?_some isEntry
    have same : entry = (tx, outcome) := List.inj_on_of_nodup_map distinct
      (List.mem_of_find?_eq_some isEntry) listed (of_decide_eq_true here)
    rw [isEntry, same]
    rfl

/-- What is settled is not in flight any more. -/
theorem not_mem_inFlight (settled : pool.outcome? tx = some outcome) : tx ∉ pool.inFlight := by
  intro pending
  have listed := List.mem_map_of_mem (f := Prod.fst) (outcome?_eq_some.mp settled)
  exact (List.nodup_append.mp pool.distinct).2.2 tx pending tx listed rfl

/-- A transaction that is not in flight, and was not settled with success, is out of the
game. -/
theorem not_mem_live (idle : tx ∉ pool.inFlight)
    (notSuccess : ∀ outcome, pool.outcome? tx = some outcome → succeeded outcome = false) :
    tx ∉ pool.live succeeded := by
  rw [live, List.mem_append, mem_successes, not_or]
  refine ⟨idle, ?_⟩
  rintro ⟨outcome, listed, success⟩
  have failure := notSuccess outcome (outcome?_eq_some.mpr listed)
  rw [failure] at success
  cases success

theorem mem_live_settle (settled : pool.settle tx outcome = some after)
    (isLive : other ∈ after.live succeeded) : other ∈ pool.live succeeded := by
  obtain ⟨pending, flying, entries⟩ := settle_eq_some.mp settled
  rw [live, flying, List.mem_append, mem_successes, entries] at isLive
  rw [live, List.mem_append, mem_successes]
  rcases isLive with flying | ⟨found, listed, success⟩
  · exact .inl (List.mem_of_mem_erase flying)
  · rcases List.mem_cons.mp listed with same | listed
    · cases same
      exact .inl pending
    · exact .inr ⟨found, listed, success⟩

end Operations

namespace Exclusive

variable {concerns : Tx → Prop}

theorem empty : (empty : Mempool Tx Outcome).Exclusive succeeded concerns := by
  intro one isLive
  simp [live, successes, Mempool.empty] at isLive

theorem settle [DecidableEq Tx] (exclusive : pool.Exclusive succeeded concerns)
    (settled : pool.settle tx outcome = some after) :
    after.Exclusive succeeded concerns :=
  fun one isOne other isOther =>
    exclusive one (mem_live_settle settled isOne) other (mem_live_settle settled isOther)

/-- Submitting a transaction of the kind needs that none is in flight or succeeded. -/
theorem submit [DecidableEq Tx] (exclusive : pool.Exclusive succeeded concerns)
    (free : concerns tx → ∀ other ∈ pool.live succeeded, ¬ concerns other) :
    (pool.submit tx).Exclusive succeeded concerns := by
  intro one isOne other isOther ofOne ofOther
  rcases mem_live_submit isOne with rfl | wasOne
  · rcases mem_live_submit isOther with rfl | wasOther
    · rfl
    · exact absurd ofOther (free ofOne other wasOther)
  · rcases mem_live_submit isOther with rfl | wasOther
    · exact absurd ofOne (free ofOther one wasOne)
    · exact exclusive one wasOne other wasOther ofOne ofOther

/-- Whatever is measured of the one transaction of the kind that may succeed bounds what
the successful ones add up to. -/
theorem sum_le (exclusive : pool.Exclusive succeeded concerns) {measure : Tx → Nat}
    {bound : Nat} (measured : ∀ tx, measure tx ≠ 0 → concerns tx)
    (bounded : ∀ tx ∈ pool.successes succeeded, measure tx ≤ bound) :
    ((pool.successes succeeded).map measure).sum ≤ bound := by
  have apart : (pool.successes succeeded).Nodup := pool.successes_nodup
  have one : ∀ one ∈ pool.successes succeeded, ∀ other ∈ pool.successes succeeded,
      measure one ≠ 0 → measure other ≠ 0 → one = other := by
    intro one isOne other isOther ofOne ofOther
    exact exclusive one (List.mem_append_right _ isOne) other
      (List.mem_append_right _ isOther) (measured one ofOne) (measured other ofOther)
  generalize pool.successes succeeded = successes at apart one bounded
  induction successes with
  | nil => exact Nat.zero_le bound
  | cons tx successes inductionHypothesis =>
      rw [List.map_cons, List.sum_cons]
      by_cases nothing : measure tx = 0
      · rw [nothing, Nat.zero_add]
        apply inductionHypothesis
        · exact apart.of_cons
        · intro first isFirst second isSecond
          exact one first (List.mem_cons_of_mem _ isFirst) second
            (List.mem_cons_of_mem _ isSecond)
        · intro other isOther
          exact bounded other (List.mem_cons_of_mem _ isOther)
      · have rest : (successes.map measure).sum = 0 := by
          apply List.sum_eq_zero_iff_forall_eq_nat.mpr
          intro amount member
          rcases List.mem_map.mp member with ⟨other, isOther, rfl⟩
          by_contra something
          have same := one tx List.mem_cons_self other (List.mem_cons_of_mem _ isOther)
            nothing something
          exact (List.nodup_cons.mp apart).1 (same ▸ isOther)
        rw [rest, Nat.add_zero]
        exact bounded tx List.mem_cons_self

end Exclusive

end Mempool
