/-
Module: Airdrop.Proofs.Supply
Purpose: The supply of a mint: no transaction changes what its token accounts
  hold in all, so that a transfer never overflows its destination.
Trusted boundary: none
Main exports: Bank.Holder, SupplyFits, SupplyFits.reached, Bank.Holder.reached,
  SupplyFits.pair
-/
import Airdrop.Proofs.LedgerConservation

namespace Airdrop

open Checked Transition

/-- The address holds a token account of the mint. -/
def Bank.Holder (bank : Bank) (mint key : Pubkey) : Prop :=
  ∃ account, bank key = some (.token account) ∧ account.mint = mint

/-- All accounts of a mint together hold a `u64`, which is the mint's supply. -/
def SupplyFits (mint : Pubkey) (bank : Bank) : Prop :=
  ∃ holders : Finset Pubkey, (∀ key, key ∈ holders ↔ bank.Holder mint key) ∧
    ∑ key ∈ holders, bank.balance key < 2 ^ 64

section Supply

variable {before after : Bank} {transfers : List Transfer} {mint key : Pubkey}

/-- Transactions neither make nor end holders of a mint. -/
theorem TokensMoved.holder_iff (moved : TokensMoved before after transfers) :
    after.Holder mint key ↔ before.Holder mint key := by
  constructor
  · rintro ⟨account, reached, isMint⟩
    obtain ⟨earlier, present⟩ := moved.only reached
    obtain ⟨amount, again, _⟩ := moved.kept present
    rw [Bank.token_unique reached again] at isMint
    exact ⟨earlier, present, isMint⟩
  · rintro ⟨account, present, isMint⟩
    obtain ⟨amount, reached, _⟩ := moved.kept present
    exact ⟨_, reached, isMint⟩

/-- Every transfer is between two holders of a mint or between two others. -/
theorem TokensMoved.between (moved : TokensMoved before after transfers)
    {transfer : Transfer} (member : transfer ∈ transfers) :
    before.Holder mint transfer.source ↔ before.Holder mint transfer.destination := by
  obtain ⟨source, destination, isSource, isDestination, sameMint⟩ :=
    moved.sameMint transfer member
  constructor
  · rintro ⟨account, present, isMint⟩
    rw [Bank.token_unique present isSource, sameMint] at isMint
    exact ⟨destination, isDestination, isMint⟩
  · rintro ⟨account, present, isMint⟩
    rw [Bank.token_unique present isDestination, ← sameMint] at isMint
    exact ⟨source, isSource, isMint⟩

/-- Among accounts that trade only with each other, as much comes in as goes
out. -/
theorem sum_inflow_eq_sum_outflow {holders : Finset Pubkey}
    (closed : ∀ transfer ∈ transfers,
      transfer.source ∈ holders ↔ transfer.destination ∈ holders) :
    ∑ key ∈ holders, inflow key transfers =
      ∑ key ∈ holders, outflow key transfers := by
  induction transfers with
  | nil => simp
  | cons transfer rest ih =>
      have others := ih fun other member =>
        closed other (List.mem_cons_of_mem _ member)
      have here := closed transfer List.mem_cons_self
      simp only [inflow, outflow, List.map_cons, List.sum_cons] at others ⊢
      rw [Finset.sum_add_distrib, Finset.sum_add_distrib, others]
      congr 1
      by_cases apart : transfer.source = transfer.destination
      · simp only [apart, and_not_self]
      · have comesIn (key : Pubkey) :
            (transfer.destination = key ∧ transfer.source ≠ key) ↔
              transfer.destination = key := by
          constructor
          · exact And.left
          · rintro rfl
            exact ⟨rfl, apart⟩
        have goesOut (key : Pubkey) :
            (transfer.source = key ∧ transfer.destination ≠ key) ↔
              transfer.source = key := by
          constructor
          · exact And.left
          · rintro rfl
            exact ⟨rfl, Ne.symm apart⟩
        simp only [comesIn, goesOut, Finset.sum_ite_eq, here]

theorem SupplyFits.step (fits : SupplyFits mint before)
    (moved : TokensMoved before after transfers) : SupplyFits mint after := by
  obtain ⟨holders, isHolder, total⟩ := fits
  refine ⟨holders, fun key => (isHolder key).trans moved.holder_iff.symm, ?_⟩
  have flows : ∑ key ∈ holders, inflow key transfers =
      ∑ key ∈ holders, outflow key transfers := by
    apply sum_inflow_eq_sum_outflow
    intro transfer member
    rw [isHolder, isHolder]
    exact moved.between member
  have balances : ∑ key ∈ holders, (after.balance key + outflow key transfers) =
      ∑ key ∈ holders, (before.balance key + inflow key transfers) := by
    apply Finset.sum_congr rfl
    intro key member
    obtain ⟨account, present, _⟩ := (isHolder key).mp member
    exact moved.balance present
  rw [Finset.sum_add_distrib, Finset.sum_add_distrib] at balances
  omega

/-- The supply of a mint fits in every state that a run reaches. -/
theorem SupplyFits.reached {env : Env} {start bank : Bank} {history : History env}
    (fits : SupplyFits mint start) (run : Reaches env start history bank) :
    SupplyFits mint bank := by
  refine Run.state_invariant (SupplyFits mint) fits ?_ run
  intro bank tx receipt holds accepted
  exact holds.step (tokensMoved accepted)

/-- A holder of a mint stays one. -/
theorem Bank.Holder.reached {env : Env} {start bank : Bank} {history : History env}
    (holds : start.Holder mint key) (run : Reaches env start history bank) :
    bank.Holder mint key := by
  refine Run.state_invariant (fun bank : Bank => bank.Holder mint key) holds ?_ run
  intro bank tx receipt holds accepted
  exact (tokensMoved accepted).holder_iff.mpr holds

/-- Two accounts of a mint hold no more than its supply. -/
theorem SupplyFits.pair {bank : Bank} (fits : SupplyFits mint bank)
    {one two : Pubkey} (apart : one ≠ two) (isOne : bank.Holder mint one)
    (isTwo : bank.Holder mint two) :
    bank.balance one + bank.balance two < 2 ^ 64 := by
  obtain ⟨holders, isHolder, total⟩ := fits
  have both : ({one, two} : Finset Pubkey) ⊆ holders := by
    intro key member
    rw [Finset.mem_insert, Finset.mem_singleton] at member
    rcases member with rfl | rfl
    · exact (isHolder _).mpr isOne
    · exact (isHolder _).mpr isTwo
  calc bank.balance one + bank.balance two
      = ∑ key ∈ ({one, two} : Finset Pubkey), bank.balance key :=
        (Finset.sum_pair apart).symm
    _ ≤ ∑ key ∈ holders, bank.balance key := Finset.sum_le_sum_of_subset both
    _ < 2 ^ 64 := total

end Supply

end Airdrop
