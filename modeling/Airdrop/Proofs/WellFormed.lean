/-
Module: Airdrop.Proofs.WellFormed
Purpose: What holds of every distributor in every reachable state, and the rules
  by which such facts are proved of distributors and of claim statuses.
Trusted boundary: none
Main exports: distributor_invariant, claimStatus_invariant, WellFormed,
  reachable_wellFormed, bonusPool_not_oversubscribed
-/
import Airdrop.Library.Schedule
import Airdrop.Proofs.Deployment
import Airdrop.Proofs.Steps

namespace Airdrop

open Checked Schedule Transition

/-! ## The rules -/

/-- A fact about a distributor and its address holds in every reachable state
once every creation establishes it and every instruction keeps it. -/
theorem distributor_invariant {env : Env} {start bank : Bank}
    {history : History env} {Inv : Pubkey → MerkleDistributor → Prop}
    (genesis : Genesis start)
    (created : ∀ {clock before receipt key after},
      CreationEffect env clock before receipt key after → Inv key after)
    (claimed : ∀ {clock signers before accounts amountUnlocked amountLocked proof
        distributor bonus paid moved},
      NewClaimChecks env clock signers before accounts amountUnlocked amountLocked
        proof distributor bonus paid moved →
      Advanced distributor (distributor.counted 1 paid bonus) 1 paid.toNat
        bonus.toNat →
      Inv accounts.distributor distributor →
      Inv accounts.distributor (distributor.counted 1 paid bonus))
    (withdrawn : ∀ {clock signers before accounts distributor status amount moved},
      ClaimLockedChecks env clock signers before accounts distributor status amount
        moved →
      Advanced distributor (distributor.counted 0 amount 0) 0 amount.toNat 0 →
      Inv accounts.distributor distributor →
      Inv accounts.distributor (distributor.counted 0 amount 0))
    (clawedBack : ∀ {key distributor}, Inv key distributor →
      Inv key { distributor with clawedBack := true })
    (tuned : ∀ {key before after instruction},
      Tuning key before after instruction → Inv key before → Inv key after)
    (run : Reaches env start history bank) :
    ∀ key distributor, bank key = some (.distributor distributor) →
      Inv key distributor := by
  refine Run.state_invariant (fun bank : Bank => ∀ key distributor,
    bank key = some (.distributor distributor) → Inv key distributor) ?_ ?_ run
  · intro key distributor found
    exact absurd found ((genesis key).1 distributor)
  · intro before tx receipt holds accepted key distributor found
    change receipt.bank key = some (.distributor distributor) at found
    cases distributorStep accepted key with
    | other elsewhere same notPaid =>
        rw [← Bank.distributor?_eq_some, same, Bank.distributor?_eq_some] at found
        exact holds key distributor found
    | created creation effect =>
        obtain rfl := Bank.eq_of_update found effect.distributors
        exact created effect
    | claimed instruction here checks effect =>
        obtain rfl := Bank.eq_of_update found effect.distributors
        subst here
        exact claimed checks effect.advanced (holds _ _ effect.isDistributor)
    | withdrawn instruction here checks effect =>
        obtain rfl := Bank.eq_of_update found effect.distributors
        subst here
        exact withdrawn checks effect.advanced (holds _ _ effect.isDistributor)
    | clawedBack instruction here checks effect =>
        obtain rfl := Bank.eq_of_update found effect.distributors
        exact clawedBack (holds _ _ effect.isDistributor)
    | closed instruction here checks effect =>
        rw [← Bank.distributor?_eq_some, effect.distributors, Function.update_self]
          at found
        exact absurd found (by simp)
    | tuned tuning effect =>
        obtain rfl := Bank.eq_of_update found effect.distributors
        exact tuned tuning (holds _ _ effect.isDistributor)

/-- A fact about the claim status at an address and the transactions so far holds
along a run once every opening establishes it, every withdrawal keeps it, and so
does every transaction that leaves the claim status alone. -/
theorem claimStatus_invariant {env : Env} {start bank : Bank} {history : History env}
    {account : Pubkey}
    (Inv : List (Commit Bank (Transaction env) Receipt) → ClaimStatus → Prop)
    (initial : ∀ status, start account = some (.claimStatus status) → Inv [] status)
    (kept : ∀ {history bank tx receipt status}, Reaches env start history bank →
      execute env bank tx = .ok receipt →
      (∀ accounts, tx.instruction = .claimLocked accounts →
        accounts.claimStatus ≠ account) →
      tx.instruction.statusKey ≠ some account → Inv (commits history) status →
      Inv (⟨bank, tx, receipt⟩ :: commits history) status)
    (opened : ∀ {history bank tx receipt accounts amountUnlocked amountLocked proof
        distributor bonus paid moved}, Reaches env start history bank →
      tx.instruction = .newClaim accounts amountUnlocked amountLocked proof →
      accounts.claimStatus = account →
      NewClaimChecks env tx.clock tx.signers bank accounts amountUnlocked amountLocked
        proof distributor bonus paid moved →
      ClaimEffect bank receipt accounts.distributor account accounts.toAccount
        accounts.claimant distributor (distributor.counted 1 paid bonus)
        (newClaimStatus accounts distributor amountLocked paid) 1 paid.toNat
        bonus.toNat →
      Inv (⟨bank, tx, receipt⟩ :: commits history)
        (newClaimStatus accounts distributor amountLocked paid))
    (withdrawn : ∀ {history bank tx receipt accounts distributor status amount moved},
      Reaches env start history bank → execute env bank tx = .ok receipt →
      tx.instruction = .claimLocked accounts → accounts.claimStatus = account →
      ClaimLockedChecks env tx.clock tx.signers bank accounts distributor status amount
        moved →
      ClaimEffect bank receipt accounts.distributor account accounts.toAccount
        accounts.claimant distributor (distributor.counted 0 amount 0)
        (status.withdrawn amount) 0 amount.toNat 0 →
      Inv (commits history) status →
      Inv (⟨bank, tx, receipt⟩ :: commits history) (status.withdrawn amount))
    (run : Reaches env start history bank) :
    ∀ status, bank account = some (.claimStatus status) →
      Inv (commits history) status := by
  refine Run.commit_invariant (fun done (bank : Bank) => ∀ status,
    bank account = some (.claimStatus status) → Inv done status) initial ?_ run
  intro history bank tx receipt earlier holds accepted status found
  change receipt.bank account = _ at found
  rw [← Bank.claimStatus?_eq_some] at found
  cases statusStep accepted account with
  | other same notClaimed notWithdrawn notClosed =>
      rw [same, Bank.claimStatus?_eq_some] at found
      refine kept earlier accepted notWithdrawn ?_ (holds status found)
      intro works
      cases instruction : tx.instruction with
      | newClaim accounts amountUnlocked amountLocked proof =>
          rw [instruction] at works
          exact notClaimed _ _ _ _ instruction (Option.some.inj works)
      | claimLocked accounts =>
          rw [instruction] at works
          exact notWithdrawn _ instruction (Option.some.inj works)
      | closeClaimStatus accounts =>
          rw [instruction] at works
          exact notClosed _ instruction (Option.some.inj works)
      | _ => simp [instruction, Instruction.statusKey] at works
  | opened instruction here checks effect =>
      rw [effect.statuses, Function.update_self, Option.some.injEq] at found
      exact found ▸ opened earlier instruction here checks effect
  | withdrawn instruction here checks effect =>
      rw [effect.statuses, Function.update_self, Option.some.injEq] at found
      exact found ▸ withdrawn earlier accepted instruction here checks effect
        (holds _ (here ▸ checks.valid.isClaimStatus))
  | closed instruction here checks removed =>
      rw [removed] at found
      exact absurd found (by simp)

/-! ## Well-formed distributors -/

/-- What every distributor satisfies from its creation on. -/
structure WellFormed (env : Env) (key : Pubkey)
    (distributor : MerkleDistributor) : Prop where
  derived : env.findProgramAddress
    (distributorSeeds distributor.base distributor.mint distributor.version) =
      (key, distributor.bump)
  vaultAssociated : distributor.tokenVault =
    env.associatedTokenAddress key distributor.mint
  ordered : distributor.startTs.toInt < distributor.endTs.toInt
  clawbackAfterEnd : distributor.endTs.toInt ≤ distributor.clawbackStartTs.toInt
  activation : ∃ activationType,
    ActivationType.tryFrom distributor.activationType = some activationType
  claimCap : distributor.totalAmountClaimed.toNat ≤ distributor.maxTotalClaim.toNat
  nodeCap : distributor.numNodesClaimed.toNat ≤ distributor.maxNumNodes.toNat
  bonusWithinCap : distributor.airdropBonus.totalBonus.toNat ≤
    distributor.maxTotalClaim.toNat
  bonusPaid : distributor.airdropBonus.totalClaimedBonus.toNat ≤
    distributor.totalAmountClaimed.toNat
  proportional : Proportional distributor.airdropBonus.totalBonus.toNat
    (distributor.maxTotalClaim.toNat - distributor.airdropBonus.totalBonus.toNat)
    distributor.airdropBonus.totalClaimedBonus.toNat
    (distributor.totalAmountClaimed.toNat -
      distributor.airdropBonus.totalClaimedBonus.toNat)

section WellFormed

variable {env : Env} {key : Pubkey} {before after : MerkleDistributor}

/-- Counters that advance within the caps, with at most the proportional bonus,
keep a distributor well formed. -/
theorem WellFormed.advance (formed : WellFormed env key before)
    {nodes paid bonus : Nat} (advanced : Advanced before after nodes paid bonus)
    (claimRoom : before.totalAmountClaimed.toNat + paid ≤
      before.maxTotalClaim.toNat)
    (nodeRoom : before.numNodesClaimed.toNat + nodes ≤ before.maxNumNodes.toNat)
    (withinPaid : bonus ≤ paid)
    (bounded : bonus ≤ share before.airdropBonus.totalBonus.toNat
      (before.maxTotalClaim.toNat - before.airdropBonus.totalBonus.toNat)
      (paid - bonus)) :
    WellFormed env key after := by
  have bonusPaid := formed.bonusPaid
  have granted := formed.proportional.grant bounded
  have weights : before.totalAmountClaimed.toNat -
        before.airdropBonus.totalClaimedBonus.toNat + (paid - bonus) =
      before.totalAmountClaimed.toNat + paid -
        (before.airdropBonus.totalClaimedBonus.toNat + bonus) := by omega
  rw [weights, ← advanced.paid, ← advanced.bonus] at granted
  rw [advanced.rest] at granted ⊢
  exact
    { derived := formed.derived
      vaultAssociated := formed.vaultAssociated
      ordered := formed.ordered
      clawbackAfterEnd := formed.clawbackAfterEnd
      activation := formed.activation
      claimCap := by
        rw [← advanced.paid] at claimRoom
        exact claimRoom
      nodeCap := by
        rw [← advanced.nodes] at nodeRoom
        exact nodeRoom
      bonusWithinCap := formed.bonusWithinCap
      bonusPaid := by
        have paidNow := advanced.paid
        have bonusNow := advanced.bonus
        simp only
        omega
      proportional := granted }

theorem WellFormed.of_creation {clock : Clock} {bank : Bank} {receipt : Receipt}
    (effect : CreationEffect env clock bank receipt key after) :
    WellFormed env key after := by
  obtain ⟨unpaid, noNodes, noBonus, _⟩ := effect.unclaimed
  have zero : (0 : U64).toNat = 0 := rfl
  exact
    { derived := effect.derived
      vaultAssociated := effect.vaultAssociated
      ordered := effect.ordered
      clawbackAfterEnd := effect.clawbackAfterEnd
      activation := effect.activation
      claimCap := by
        rw [unpaid]
        exact Nat.zero_le _
      nodeCap := by
        rw [noNodes]
        exact Nat.zero_le _
      bonusWithinCap := effect.bonusWithinCap
      bonusPaid := by
        rw [noBonus]
        exact Nat.zero_le _
      proportional := by
        rw [unpaid, noBonus]
        exact Proportional.zero _ _ }

theorem WellFormed.tune {instruction : Instruction}
    (formed : WellFormed env key before)
    (tuning : Tuning key before after instruction) : WellFormed env key after := by
  cases tuning with
  | activationPoint here => exact { formed with }
  | clawbackReceiver here => exact { formed with }
  | admin here => exact { formed with }

end WellFormed

/-- Every distributor is well formed in every reachable state. -/
theorem reachable_wellFormed {env : Env} {start bank : Bank}
    {history : History env} (genesis : Genesis start)
    (run : Reaches env start history bank) {key : Pubkey}
    {distributor : MerkleDistributor}
    (found : bank key = some (.distributor distributor)) :
    WellFormed env key distributor := by
  refine distributor_invariant genesis ?_ ?_ ?_ ?_ ?_ run key distributor found
  · intro clock before receipt key after effect
    exact .of_creation effect
  · intro clock signers before accounts amountUnlocked amountLocked proof
      distributor bonus paid moved checks advanced formed
    obtain ⟨handler, _, granted⟩ := checks.granted
    have bound := (bonus_bound granted).2
    have paidValue := checks.paidValue
    have unlocked : paid.toNat - bonus.toNat = amountUnlocked.toNat := by omega
    apply formed.advance advanced checks.claimRoom checks.nodeRoom (by omega)
    rw [unlocked]
    exact bound
  · intro clock signers before accounts distributor status amount moved checks
      advanced formed
    exact formed.advance advanced checks.claimRoom formed.nodeCap (Nat.zero_le _)
      (Nat.zero_le _)
  · intro key distributor formed
    exact { formed with }
  · intro key before after instruction tuning formed
    exact formed.tune tuning

/-- The bonus pool is never oversubscribed, although no instruction compares what
was claimed of it with its size. -/
theorem bonusPool_not_oversubscribed {env : Env} {start bank : Bank}
    {history : History env} (genesis : Genesis start)
    (run : Reaches env start history bank) {key : Pubkey}
    {distributor : MerkleDistributor}
    (found : bank key = some (.distributor distributor)) :
    distributor.airdropBonus.totalClaimedBonus.toNat ≤
      distributor.airdropBonus.totalBonus.toNat := by
  have formed := reachable_wellFormed genesis run found
  have claimCap := formed.claimCap
  have bonusWithinCap := formed.bonusWithinCap
  have bonusPaid := formed.bonusPaid
  exact formed.proportional.le_pool (by omega)

theorem bonusPool_not_oversubscribed_sample :
    ∃ distributor,
      sampleAfter [createSample sampleTree.merkleRoot false, aliceClaims 55,
        aliceWithdraws 150, bobClaims 170] sampleKey =
          some (.distributor distributor) ∧
      distributor.airdropBonus.totalClaimedBonus.toNat ≤
        distributor.airdropBonus.totalBonus.toNat := by
  have found : sampleAfter [createSample sampleTree.merkleRoot false,
      aliceClaims 55, aliceWithdraws 150, bobClaims 170] sampleKey =
        some (.distributor { sampleDistributor sampleTree.merkleRoot false with
          totalAmountClaimed := 184
          numNodesClaimed := 2
          airdropBonus :=
            { totalBonus := 20
              vestingDuration := 10
              totalClaimedBonus := 9 } }) := by
    decide +kernel
  exact ⟨_, found,
    bonusPool_not_oversubscribed sampleBank_genesis (sample_reaches _) found⟩

end Airdrop
