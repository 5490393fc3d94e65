/-
Module: Airdrop.Proofs.LedgerConservation
Purpose: The counters of a distributor and the balance of its vault against
  everything that its transactions moved, over its whole life.
Trusted boundary: none
Main exports: Bank.balance, LedgerBalanced, Lifetime.ledger,
  Lifetime.clawedOut_eq_zero, Lifetime.extend, ledger_conserved
-/
import Airdrop.Proofs.Lifetime

namespace Airdrop

open Checked Transition

/-- The balance of a token account, and nothing where there is none. -/
def Bank.balance (bank : Bank) (key : Pubkey) : Nat :=
  (bank.token? key).elim 0 fun account => account.amount.toNat

theorem Bank.balance_of_token {bank : Bank} {key : Pubkey} {account : TokenAccount}
    (present : bank key = some (.token account)) :
    bank.balance key = account.amount.toNat := by
  rw [Bank.balance, Bank.token?_eq_some.mpr present, Option.elim_some]

/-- A balance changes by exactly what the transfers move. -/
theorem TokensMoved.balance {before after : Bank} {transfers : List Transfer}
    (moved : TokensMoved before after transfers) {key : Pubkey}
    {account : TokenAccount} (present : before key = some (.token account)) :
    after.balance key + outflow key transfers =
      before.balance key + inflow key transfers := by
  obtain ⟨amount, reached, value⟩ := moved.kept present
  rw [Bank.balance_of_token present, Bank.balance_of_token reached]
  exact value

/-! ## The ledger -/

/-- The books of the distributor at `key`, whose vault held `opening` tokens when
it was created, after the transactions `done`. -/
structure LedgerBalanced {env : Env} (key : Pubkey)
    (created : MerkleDistributor) (opening : Nat) (done : Commits env)
    (current : MerkleDistributor) (vaultBalance : Nat) : Prop where
  claimed : current.totalAmountClaimed.toNat =
    claimPayments key created.tokenVault done
  bonuses : current.airdropBonus.totalClaimedBonus.toNat =
    bonusesGranted key created.tokenVault done
  claimCap : current.totalAmountClaimed.toNat ≤ current.maxTotalClaim.toNat
  nodeCap : current.numNodesClaimed.toNat ≤ current.maxNumNodes.toNat
  vault : vaultBalance + current.totalAmountClaimed.toNat +
      clawedOut key created.tokenVault done =
    opening + deposits created.tokenVault done
  terms : SameTerms created current

section Ledger

variable {env : Env} {earlier history : History env} {key : Pubkey}
variable {founding : Commit Bank (Transaction env) Receipt}
variable {created before after : MerkleDistributor} {bank : Bank}
variable {tx : Transaction env} {receipt : Receipt} {done : Commits env}

/-- What one successful transaction adds to each book. -/
theorem LivingStep.books (step : LivingStep env tx bank receipt key before after) :
    let commit : Commit Bank (Transaction env) Receipt := ⟨bank, tx, receipt⟩
    after.totalAmountClaimed.toNat = before.totalAmountClaimed.toNat +
        claimPayments key before.tokenVault [commit] ∧
      after.airdropBonus.totalClaimedBonus.toNat =
        before.airdropBonus.totalClaimedBonus.toNat +
          bonusesGranted key before.tokenVault [commit] ∧
      claimPayments key before.tokenVault [commit] +
          clawedOut key before.tokenVault [commit] =
        outflow before.tokenVault receipt.transfers := by
  cases step with
  | other notClaimed notClawedBack nothing =>
      simp [claimPayments, bonusesGranted, clawedOut, notClaimed, notClawedBack,
        nothing, grantedBonus_of_elsewhere]
  | @claimed accounts amountUnlocked amountLocked proof bonus paid moved instruction
      here checks effect flow =>
      have granted : paid.toNat - amountUnlocked.toNat = bonus.toNat := by
        rw [checks.paidValue]
        omega
      rw [effect.advanced.paid, effect.advanced.bonus]
      simp [claimPayments, bonusesGranted, grantedBonus, clawedOut, instruction, here,
        flow, granted, Instruction.claimedFrom, Instruction.clawedBack]
  | withdrawn instruction here checks effect flow =>
      rw [effect.advanced.paid, effect.advanced.bonus]
      simp [claimPayments, bonusesGranted, grantedBonus, clawedOut, instruction, here,
        flow, Instruction.claimedFrom, Instruction.clawedBack]
  | clawedBack instruction here checks effect =>
      simp [claimPayments, bonusesGranted, grantedBonus, clawedOut, instruction, here,
        Instruction.claimedFrom, Instruction.clawedBack]
  | tuned tuning effect nothing =>
      obtain ⟨_, notClaimed, notClawedBack, _⟩ := tuning.only
      rw [effect.retuned]
      simp [claimPayments, bonusesGranted, clawedOut, notClaimed, notClawedBack,
        nothing, grantedBonus_of_elsewhere]

/-- In the life of a distributor its books balance. -/
theorem Lifetime.ledger
    (life : Lifetime env earlier founding key created history bank)
    {current : MerkleDistributor}
    (found : bank key = some (.distributor current)) :
    LedgerBalanced key created (founding.outcome.bank.balance created.tokenVault)
      (commits history) current (bank.balance created.tokenVault) := by
  suffices books : ∀ current, bank key = some (.distributor current) →
      current.totalAmountClaimed.toNat =
          claimPayments key created.tokenVault (commits history) ∧
        current.airdropBonus.totalClaimedBonus.toNat =
          bonusesGranted key created.tokenVault (commits history) ∧
        bank.balance created.tokenVault +
            claimPayments key created.tokenVault (commits history) +
            clawedOut key created.tokenVault (commits history) =
          founding.outcome.bank.balance created.tokenVault +
            deposits created.tokenVault (commits history) by
    obtain ⟨claimed, bonuses, vault⟩ := books current found
    exact
      { claimed
        bonuses
        claimCap := (life.wellFormed found).claimCap
        nodeCap := (life.wellFormed found).nodeCap
        vault := claimed ▸ vault
        terms := life.sameTerms found }
  refine life.invariant (fun done bank => ∀ current,
    bank key = some (.distributor current) →
      current.totalAmountClaimed.toNat = claimPayments key created.tokenVault done ∧
        current.airdropBonus.totalClaimedBonus.toNat =
          bonusesGranted key created.tokenVault done ∧
        bank.balance created.tokenVault + claimPayments key created.tokenVault done +
            clawedOut key created.tokenVault done =
          founding.outcome.bank.balance created.tokenVault +
            deposits created.tokenVault done) ?_ ?_
  · intro effect current found
    obtain rfl := Bank.distributor_unique found life.born
    obtain ⟨unpaid, _, noBonus, _⟩ := effect.unclaimed
    rw [unpaid, noBonus]
    exact ⟨rfl, rfl, rfl⟩
  · intro history bank tx receipt sofar books accepted unclosed current reached
    obtain ⟨before, found, same⟩ := sofar.current
    obtain ⟨after, isAfter, step⟩ := sofar.step found accepted unclosed
    obtain rfl := Bank.distributor_unique reached isAfter
    obtain ⟨claimed, bonuses, vault⟩ := books before found
    obtain ⟨moreClaimed, moreBonus, outgoing⟩ := step.books
    obtain ⟨account, isVault, _⟩ := sofar.vault
    have moved := (tokensMoved accepted).balance isVault
    rw [same.tokenVault] at moreClaimed moreBonus outgoing
    simp only [claimPayments, bonusesGranted, clawedOut, deposits, List.map_cons,
      List.map_nil, List.sum_cons, List.sum_nil] at *
    refine ⟨by omega, by omega, by omega⟩

/-! ## After the clawback -/

/-- Nothing takes back a clawback. -/
theorem LivingStep.clawedBack_eq_false
    (step : LivingStep env tx bank receipt key before after)
    (notClawedBack : after.clawedBack = false) :
    before.clawedBack = false ∧ tx.instruction.clawedBack ≠ some key := by
  cases step with
  | other notClaimed notNow nothing => exact ⟨notClawedBack, notNow⟩
  | claimed instruction here checks effect flow =>
      exact ⟨notClawedBack, by simp [instruction, Instruction.clawedBack]⟩
  | withdrawn instruction here checks effect flow =>
      exact ⟨notClawedBack, by simp [instruction, Instruction.clawedBack]⟩
  | clawedBack instruction here checks effect => exact absurd notClawedBack (by simp)
  | tuned tuning effect nothing =>
      rw [effect.retuned] at notClawedBack
      exact ⟨notClawedBack, by simp [tuning.only]⟩

/-- A distributor that has not been clawed back has lost nothing to clawbacks. -/
theorem Lifetime.clawedOut_eq_zero
    (life : Lifetime env earlier founding key created history bank)
    {current : MerkleDistributor}
    (found : bank key = some (.distributor current))
    (notClawedBack : current.clawedBack = false) :
    clawedOut key created.tokenVault (commits history) = 0 := by
  refine life.invariant (fun done bank => ∀ current,
    bank key = some (.distributor current) → current.clawedBack = false →
      clawedOut key created.tokenVault done = 0) ?_ ?_ current found notClawedBack
  · intro _ _ _ _
    rfl
  · intro history bank tx receipt sofar kept accepted unclosed after reached stillOpen
    obtain ⟨before, found, _⟩ := sofar.current
    obtain ⟨next, isNext, step⟩ := sofar.step found accepted unclosed
    obtain rfl := Bank.distributor_unique reached isNext
    obtain ⟨openBefore, notNow⟩ := step.clawedBack_eq_false stillOpen
    have earlier := kept before found openBefore
    simp only [clawedOut, List.map_cons, List.sum_cons] at earlier ⊢
    rw [if_neg notNow, earlier]

/-- A living distributor goes on living. -/
theorem Lifetime.extend
    (life : Lifetime env earlier founding key created history bank)
    {later : History env} {final : Bank} (more : Reaches env bank later final)
    (unclosed : ∀ commit ∈ commits later,
      commit.input.instruction.closed ≠ some key) :
    Lifetime env earlier founding key created (later ++ history) final where
  origin := life.origin
  accepted := life.accepted
  creates := life.creates
  born := life.born
  run := life.run.trans more
  unclosed := by
    intro commit member
    rw [commits_append, List.mem_append] at member
    rcases member with isLater | isEarlier
    · exact unclosed commit isLater
    · exact life.unclosed commit isEarlier

/-- Once clawed back, a distributor stays clawed back and pays no more claims. -/
theorem Lifetime.clawback_final
    (life : Lifetime env earlier founding key created history bank)
    (found : bank key = some (.distributor before))
    (clawedBack : before.clawedBack = true)
    {later : History env} {final : Bank} (more : Reaches env bank later final)
    (unclosed : ∀ commit ∈ commits later,
      commit.input.instruction.closed ≠ some key) :
    (∃ current, final key = some (.distributor current) ∧
        current.clawedBack = true) ∧
      ∀ commit ∈ commits later, commit.input.instruction.claimedFrom ≠ some key := by
  refine Run.commit_invariant (fun done bank =>
    (∀ commit ∈ done, commit.input.instruction.closed ≠ some key) →
    (∃ current, bank key = some (.distributor current) ∧
        current.clawedBack = true) ∧
      ∀ commit ∈ done, commit.input.instruction.claimedFrom ≠ some key)
    ?_ ?_ more unclosed
  · intro _
    exact ⟨⟨before, found, clawedBack⟩, by simp⟩
  · intro later middle tx receipt sofar holds accepted unclosed
    have earlierUnclosed : ∀ commit ∈ commits later,
        commit.input.instruction.closed ≠ some key :=
      fun commit member => unclosed commit (List.mem_cons_of_mem _ member)
    obtain ⟨⟨current, isCurrent, marked⟩, silent⟩ := holds earlierUnclosed
    obtain ⟨after, reached, step⟩ := (life.extend sofar earlierUnclosed).step isCurrent
      accepted (unclosed _ List.mem_cons_self)
    have kept : after.clawedBack = true ∧
        tx.instruction.claimedFrom ≠ some key := by
      cases step with
      | other notClaimed notClawedBack nothing => exact ⟨marked, notClaimed⟩
      | claimed instruction here checks effect flow =>
          exact absurd checks.notClawedBack (by simp [marked])
      | withdrawn instruction here checks effect flow =>
          exact absurd checks.notClawedBack (by simp [marked])
      | clawedBack instruction here checks effect =>
          exact absurd checks.notClawedBack (by simp [marked])
      | tuned tuning effect nothing =>
          refine ⟨?_, by simp [tuning.only]⟩
          rw [effect.retuned]
          exact marked
    refine ⟨⟨after, reached, kept.1⟩, ?_⟩
    intro commit member
    rcases List.mem_cons.mp member with rfl | isEarlier
    · exact kept.2
    · exact silent commit isEarlier

/-- From the creation of a distributor until it is closed, in every reachable
state: the counters are what its claims paid and granted, the caps hold, the
vault holds what it held at the creation with every deposit and without what
claims and clawbacks took out, and the terms are those of the creation.  After a
clawback nothing is claimed any more. -/
theorem ledger_conserved
    (life : Lifetime env earlier founding key created history bank) :
    ∃ current, bank key = some (.distributor current) ∧
      LedgerBalanced key created (founding.outcome.bank.balance created.tokenVault)
        (commits history) current (bank.balance created.tokenVault) ∧
      (current.clawedBack = true →
        ∀ later final, Reaches env bank later final →
          (∀ commit ∈ commits later, commit.input.instruction.closed ≠ some key) →
          (∃ next, final key = some (.distributor next) ∧ next.clawedBack = true) ∧
            ∀ commit ∈ commits later,
              commit.input.instruction.claimedFrom ≠ some key) := by
  obtain ⟨current, found, _⟩ := life.current
  refine ⟨current, found, life.ledger found, ?_⟩
  intro clawedBack later final more unclosed
  exact life.clawback_final found clawedBack more unclosed

end Ledger

/-- After both claims and the clawback the vault of the small deployment is
empty. -/
theorem ledger_conserved_sample :
    ∃ current,
      sampleThen sampleTree.merkleRoot false sampleSeason sampleKey =
          some (.distributor current) ∧
        LedgerBalanced sampleKey (sampleDistributor sampleTree.merkleRoot false) 220
          (commits (sampleRecord sampleTree.merkleRoot false sampleSeason)) current
          0 := by
  obtain ⟨current, found, balanced, _⟩ := ledger_conserved
    (sample_lifetime sampleTree.merkleRoot false sampleSeason (by decide))
  have opening : (sampleFounding sampleTree.merkleRoot false).outcome.bank.balance
      sampleVault = 220 := by decide +kernel
  have closing : (sampleThen sampleTree.merkleRoot false sampleSeason).balance
      sampleVault = 0 := by decide +kernel
  refine ⟨current, found, ?_⟩
  rw [← opening, ← closing]
  exact balanced

end Airdrop
