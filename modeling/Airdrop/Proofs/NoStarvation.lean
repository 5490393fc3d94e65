/-
Module: Airdrop.Proofs.NoStarvation
Purpose: Whatever the others have claimed, a claimant of a deployed tree can still
  make its new claim and withdraw what has vested.
Trusted boundary: none
Main exports: Bank.Receives, TreeNode.claim, TreeNode.claimLocked,
  ClaimStatus.withdrawableAt, no_claimant_starved
-/
import Airdrop.Proofs.Solvency

namespace Airdrop

open Checked Schedule Transition

/-! ## The claims that a claimant can make -/

/-- The address holds a token account of the mint that belongs to the claimant. -/
def Bank.Receives (bank : Bank) (mint claimant toAccount : Pubkey) : Prop :=
  ∃ account, bank toAccount = some (.token account) ∧ account.owner = claimant ∧
    account.mint = mint

/-- The new claim of a node, with its stored amounts and a proof. -/
def TreeNode.claim (node : TreeNode) (env : Env) (key vault toAccount : Pubkey)
    (proof : List Hash) : Instruction :=
  .newClaim
    { distributor := key
      claimStatus := env.claimStatusAddress node.claimant key
      fromAccount := vault
      toAccount
      claimant := node.claimant }
    node.amount node.lockedAmount proof

/-- The claim of locked tokens by the claimant of a node. -/
def TreeNode.claimLocked (node : TreeNode) (env : Env) (key vault toAccount : Pubkey) :
    Instruction :=
  .claimLocked
    { distributor := key
      claimStatus := env.claimStatusAddress node.claimant key
      fromAccount := vault
      toAccount
      claimant := node.claimant }

/-- What has vested of a claim status by a time and has not been withdrawn. -/
def ClaimStatus.withdrawableAt (self : ClaimStatus) (terms : MerkleDistributor)
    (now : Int64) : Nat :=
  scheduled self.lockedAmount.toNat terms.startTs.toInt terms.endTs.toInt now.toInt -
    self.lockedAmountWithdrawn.toNat

/-! ## Computations that succeed -/

section Computations

variable {env : Env} {bank : Bank} {key : Pubkey} {distributor : MerkleDistributor}

/-- The bonus for an amount can be computed whenever there is something to claim
besides the bonus pool and the end of the schedule is a `u64`. -/
theorem exists_bonus (formed : WellFormed env key distributor)
    (positive : distributor.airdropBonus.totalBonus.toNat <
      distributor.maxTotalClaim.toNat)
    (schedule : distributor.airdropBonus.vestingDuration.toNat +
      distributor.activationPoint.toNat < 2 ^ 64)
    (clock : Clock) (amountUnlocked : U64) :
    ∃ handler bonus, distributor.getActivationHandler clock = .ok handler ∧
      distributor.getBonusForAClaimaint amountUnlocked handler = .ok bonus := by
  obtain ⟨activationType, isType⟩ := formed.activation
  let handler : ActivationHandler :=
    { currPoint := activationType.currPoint clock
      activationPoint := distributor.activationPoint
      airdropBonus := distributor.airdropBonus }
  have isHandler : distributor.getActivationHandler clock = .ok handler :=
    getActivationHandler_eq_ok.mpr ⟨activationType, isType, rfl⟩
  have isMax := getMaxBonusForAClaimant_eq_ok.mpr
    ⟨positive, BitVec.toNat_ofNat (share distributor.airdropBonus.totalBonus.toNat
      (distributor.maxTotalClaim.toNat - distributor.airdropBonus.totalBonus.toNat)
      amountUnlocked.toNat) 64⟩
  obtain ⟨bonus, released, _⟩ :=
    @exists_getBonusForAClaimaint handler schedule (BitVec.ofNat 64 _)
  refine ⟨handler, bonus, isHandler, ?_⟩
  rw [MerkleDistributor.getBonusForAClaimaint, isMax, ok_bind]
  exact released

/-- What can be withdrawn is computed exactly, while no more was withdrawn than has
vested. -/
theorem exists_amountWithdrawable {status : ClaimStatus} {now : Int64}
    (notNegative : 0 ≤ distributor.startTs.toInt)
    (within : status.lockedAmountWithdrawn.toNat ≤
      scheduled status.lockedAmount.toNat distributor.startTs.toInt
        distributor.endTs.toInt now.toInt) :
    ∃ amount, status.amountWithdrawable now distributor.startTs distributor.endTs =
        .ok amount ∧
      amount.toNat = status.withdrawableAt distributor now := by
  have endBound := distributor.endTs.toInt_lt
  have lockedBound := status.lockedAmount.isLt
  have vestedBound := @scheduled_le status.lockedAmount.toNat distributor.startTs.toInt
    distributor.endTs.toInt now.toInt
  have due : (BitVec.ofNat 64 (status.withdrawableAt distributor now)).toNat =
      status.withdrawableAt distributor now := by
    rw [BitVec.toNat_ofNat]
    apply Nat.mod_eq_of_lt
    unfold ClaimStatus.withdrawableAt
    omega
  refine ⟨_, (amountWithdrawable_eq_ok fun _ _ => by omega).mpr ?_, due⟩
  rw [due, ClaimStatus.withdrawableAt, Nat.sub_add_cancel within]

/-- A distributor can pay what its vault holds, where the recipient has room. -/
theorem WellFormed.pays (formed : WellFormed env key distributor)
    {signers : List Pubkey} {vault recipient : TokenAccount} {toAccount : Pubkey}
    {amount : U64}
    (isVault : bank distributor.tokenVault = some (.token vault))
    (vaultOwner : vault.owner = key)
    (isRecipient : bank toAccount = some (.token recipient))
    (sameMint : vault.mint = recipient.mint)
    (funded : amount.toNat ≤ vault.amount.toNat)
    (fits : distributor.tokenVault ≠ toAccount →
      recipient.amount.toNat + amount.toNat < 2 ^ 64) :
    ∃ moved, transferSigned env bank signers distributor.signerSeeds
      distributor.tokenVault toAccount key amount = .ok moved := by
  have made := env.create_find
    (distributorSeeds distributor.base distributor.mint distributor.version)
  rw [formed.derived] at made
  refine ⟨bank.moved distributor.tokenVault toAccount vault recipient amount, ?_⟩
  rw [transferSigned, MerkleDistributor.signerSeeds, made]
  simp only [bind_eq_ok, okOr_eq_ok, require_eq_ok]
  refine ⟨key, rfl, (), List.mem_cons_self, tokenTransfer_eq_ok.mpr ?_⟩
  exact ⟨vault, recipient, isVault, isRecipient, funded, sameMint, vaultOwner,
    List.mem_cons_self, fits, rfl⟩

end Computations

/-! ## Claims that succeed -/

section Claims

variable {env : Env} {earlier history : History env} {key claimant toAccount : Pubkey}
variable {founding : Commit Bank (Transaction env) Receipt}
variable {created current : MerkleDistributor} {bank : Bank} {tx : Transaction env}
variable {treeNodes : List TreeNode} {tree : AirdropMerkleTree} {node : TreeNode}

section TreeRun

variable (season : TreeRun env earlier founding key created treeNodes tree history bank)
include season

/-- Whoever has no claim status has neither claimed nor been paid. -/
theorem TreeRun.unclaimed
    (listed : claimant ∈ tree.claimants)
    (free : bank (env.claimStatusAddress claimant key) = none) :
    newClaimsBy key claimant (commits history) = [] ∧
      paidTo created.tokenVault claimant (commits history) = 0 := by
  cases season.state listed with
  | unclaimed absent unrecorded unpaid => exact ⟨unrecorded, unpaid⟩
  | claimed recorded present =>
      rw [Bank.claimStatus?_eq_some, free] at present
      exact absurd present (by simp)

/-- What is left of the locked amount is still due. -/
theorem TreeRun.stillLocked
    (listed : claimant ∈ tree.claimants) {status : ClaimStatus}
    (present : bank (env.claimStatusAddress claimant key) =
      some (.claimStatus status)) {amount : Nat}
    (locked : status.lockedAmountWithdrawn.toNat + amount ≤
      status.lockedAmount.toNat) :
    paidTo created.tokenVault claimant (commits history) + amount ≤
      claimantSum false claimant treeNodes +
        created.bonusShare (claimantSum false claimant treeNodes) +
          claimantSum true claimant treeNodes := by
  rw [← Bank.claimStatus?_eq_some] at present
  cases (season.state listed).claimHistory season.builtFrom season.inTree with
  | none absent => exact absurd present (by simp [absent])
  | @one amountUnlocked amountLocked other recorded inTree unlockedSum lockedSum present'
      sameLocked unlockedPaid bonusPaid bounded paid =>
      obtain rfl : status = other := by
        rw [present, Option.some.injEq] at present'
        exact present'
      rw [sameLocked] at locked
      rw [← unlockedSum, ← lockedSum, paid]
      omega

section Funded

variable (found : bank key = some (.distributor current))
variable (notClawedBack : current.clawedBack = false)
variable (funded : created.maxTotalClaim.toNat ≤
  founding.outcome.bank.balance created.tokenVault +
    deposits created.tokenVault (commits history))
variable (supply : SupplyFits created.mint founding.outcome.bank)
include found notClawedBack funded supply

/-- Whatever the cap has room for can be paid to any account of the mint. -/
theorem TreeRun.pays
    (signers : List Pubkey) (receives : bank.Holder created.mint toAccount)
    {amount : U64}
    (room : current.totalAmountClaimed.toNat + amount.toNat ≤
      created.maxTotalClaim.toNat) :
    ∃ moved, transferSigned env bank signers current.signerSeeds created.tokenVault
      toAccount key amount = .ok moved := by
  have same := season.lifetime.sameTerms found
  obtain ⟨vault, isVault, vaultOwner⟩ := season.lifetime.vault
  have vaultHolds := season.vaultMint.reached season.run
  obtain ⟨recipient, isRecipient, recipientMint⟩ := receives
  have covers := season.vaultCovers found notClawedBack funded
  rw [Bank.balance_of_token isVault] at covers
  have vaultMint : vault.mint = created.mint := by
    obtain ⟨account, present, isMint⟩ := vaultHolds
    rw [Bank.token_unique isVault present]
    exact isMint
  have enough : amount.toNat ≤ vault.amount.toNat := by omega
  have fits : created.tokenVault ≠ toAccount →
      recipient.amount.toNat + amount.toNat < 2 ^ 64 := by
    intro apart
    have pair := (supply.reached season.run).pair apart vaultHolds
      ⟨recipient, isRecipient, recipientMint⟩
    rw [Bank.balance_of_token isVault, Bank.balance_of_token isRecipient] at pair
    omega
  have formed := season.lifetime.wellFormed found
  rw [← same.tokenVault] at isVault fits ⊢
  exact formed.pays isVault vaultOwner isRecipient
    (vaultMint.trans recipientMint.symm) enough fits

/-- Whoever has no claim status can make its new claim. -/
theorem TreeRun.newClaim_succeeds
    (positive : 0 < tree.totalUnlockedAmount.toNat + tree.totalLockedAmount.toNat)
    (schedule : current.airdropBonus.vestingDuration.toNat +
      current.activationPoint.toNat < 2 ^ 64)
    (member : node ∈ tree.treeNodes)
    (free : bank (env.claimStatusAddress node.claimant key) = none)
    {proof : List Hash} (proved : verify env.sha256 proof tree.merkleRoot
      (claimLeaf env.sha256 node.claimant node.amount node.lockedAmount) = true)
    (signed : node.claimant ∈ tx.signers)
    (receives : bank.Receives created.mint node.claimant toAccount)
    (instruction : tx.instruction =
      node.claim env key created.tokenVault toAccount proof) :
    ∃ receipt paid, execute env bank tx = .ok receipt ∧
      receipt.transfers = [⟨created.tokenVault, toAccount, paid⟩] ∧
      node.amount.toNat ≤ paid.toNat := by
  have listed : node.claimant ∈ tree.claimants :=
    AirdropMerkleTree.mem_claimants.mpr (List.mem_map_of_mem member)
  obtain ⟨unrecorded, unpaid⟩ := season.unclaimed listed free
  have same := season.lifetime.sameTerms found
  have formed := season.lifetime.wellFormed found
  have cap := season.terms.claims
  have amountIs : node.amount.toNat = claimantSum false node.claimant treeNodes :=
    season.builtFrom.amounts node member false
  obtain ⟨handler, bonus, isHandler, granted⟩ := exists_bonus formed
    (by rw [same]; simp only; omega) schedule tx.clock node.amount
  have bonusBound : bonus.toNat ≤
      created.bonusShare (claimantSum false node.claimant treeNodes) := by
    rw [← amountIs, ← same.bonusShare]
    exact (bonus_bound granted).2
  have room : current.totalAmountClaimed.toNat + (node.amount.toNat + bonus.toNat) ≤
      created.maxTotalClaim.toNat := by
    apply season.claimRoom found listed
    omega
  have capBound := created.maxTotalClaim.isLt
  obtain ⟨paid, _, paidValue⟩ := exists_checkedAdd (show
    node.amount.toNat + bonus.toNat < 2 ^ 64 by omega)
  rw [← paidValue] at room
  obtain ⟨recipient, isRecipient, recipientOwner, recipientMint⟩ := receives
  obtain ⟨moved, transferred⟩ := season.pays found notClawedBack funded supply tx.signers
    ⟨recipient, isRecipient, recipientMint⟩ room
  obtain ⟨vault, isVault, vaultOwner⟩ := season.lifetime.vault
  have nodeRoom := season.nodeRoom found listed unrecorded
  have bonusPaid := formed.bonusPaid
  have checks : NewClaimChecks env tx.clock tx.signers bank
      { distributor := key
        claimStatus := env.claimStatusAddress node.claimant key
        fromAccount := created.tokenVault
        toAccount
        claimant := node.claimant }
      node.amount node.lockedAmount proof current bonus paid moved :=
    { valid :=
        { isDistributor := found
          vault := ⟨vault, isVault, vaultOwner⟩
          vaultAssociated := same.tokenVault ▸ formed.vaultAssociated
          vaultAddress := same.tokenVault.symm
          recipient := ⟨recipient, isRecipient, recipientOwner,
            recipientMint.trans same.mint.symm⟩
          signed
          statusAddress := rfl
          statusFree := free }
      notClawedBack
      nodeRoom := same.maxNumNodes ▸ nodeRoom
      proved := by
        rw [same.root, season.terms.root]
        exact proved
      granted := ⟨handler, isHandler, granted⟩
      paidValue
      transferred
      claimRoom := same.maxTotalClaim ▸ room
      bonusRoom := by omega }
  simp only [execute, instruction, TreeNode.claim]
  exact ⟨_, paid, newClaim_eq_ok.mpr ⟨current, bonus, paid, moved, checks, rfl⟩, rfl,
    by omega⟩

/-- Whoever has something to withdraw can withdraw it, all of it. -/
theorem TreeRun.claimLocked_succeeds
    (member : node ∈ tree.treeNodes) {status : ClaimStatus}
    (present : bank (env.claimStatusAddress node.claimant key) =
      some (.claimStatus status))
    (positive : 0 < status.withdrawableAt created tx.clock.unixTimestamp)
    (signed : node.claimant ∈ tx.signers)
    (receives : bank.Receives created.mint node.claimant toAccount)
    (instruction : tx.instruction =
      node.claimLocked env key created.tokenVault toAccount) :
    ∃ receipt amount, execute env bank tx = .ok receipt ∧
      receipt.transfers = [⟨created.tokenVault, toAccount, amount⟩] ∧
      amount.toNat = status.withdrawableAt created tx.clock.unixTimestamp := by
  have listed : node.claimant ∈ tree.claimants :=
    AirdropMerkleTree.mem_claimants.mpr (List.mem_map_of_mem member)
  have same := season.lifetime.sameTerms found
  have formed := season.lifetime.wellFormed found
  have sameSchedule : status.withdrawableAt created tx.clock.unixTimestamp =
      status.withdrawableAt current tx.clock.unixTimestamp := by
    rw [same]
    rfl
  rw [sameSchedule] at positive ⊢
  have notNegative : 0 ≤ current.startTs.toInt := by
    have future := season.creation.2.future
    have clock := season.clock
    rw [same]
    simp only
    omega
  have within : status.lockedAmountWithdrawn.toNat ≤
      scheduled status.lockedAmount.toNat current.startTs.toInt current.endTs.toInt
        tx.clock.unixTimestamp.toInt := by
    rw [ClaimStatus.withdrawableAt] at positive
    omega
  obtain ⟨amount, withdrawable, value⟩ := exists_amountWithdrawable notNegative within
  have vested : status.lockedAmountWithdrawn.toNat + amount.toNat ≤
      status.lockedAmount.toNat := by
    have released := @scheduled_le status.lockedAmount.toNat current.startTs.toInt
      current.endTs.toInt tx.clock.unixTimestamp.toInt
    rw [ClaimStatus.withdrawableAt] at positive value
    omega
  have room := season.claimRoom found listed (season.stillLocked listed present vested)
  obtain ⟨recipient, isRecipient, recipientOwner, recipientMint⟩ := receives
  obtain ⟨moved, transferred⟩ := season.pays found notClawedBack funded supply tx.signers
    ⟨recipient, isRecipient, recipientMint⟩ room
  obtain ⟨vault, isVault, vaultOwner⟩ := season.lifetime.vault
  obtain ⟨activationType, isType⟩ := formed.activation
  have checks : ClaimLockedChecks env tx.clock tx.signers bank
      { distributor := key
        claimStatus := env.claimStatusAddress node.claimant key
        fromAccount := created.tokenVault
        toAccount
        claimant := node.claimant }
      current status amount moved :=
    { valid :=
        { isDistributor := found
          isClaimStatus := present
          vault := ⟨vault, isVault, vaultOwner⟩
          vaultAssociated := same.tokenVault ▸ formed.vaultAssociated
          vaultAddress := same.tokenVault.symm
          recipient := ⟨recipient, isRecipient, recipientOwner⟩
          signed
          statusAddress := rfl }
      notClawedBack
      activation := ⟨_, getActivationHandler_eq_ok.mpr ⟨activationType, isType, rfl⟩⟩
      withdrawable
      positive := by omega
      transferred
      lockedRoom := by omega
      claimRoom := same.maxTotalClaim ▸ room }
  simp only [execute, instruction, TreeNode.claimLocked]
  exact ⟨_, amount, claimLocked_eq_ok.mpr ⟨current, status, amount, moved, checks, rfl⟩,
    rfl, value⟩

end Funded

end TreeRun

/-- No claimant of a deployed tree is starved.  In every state reached from the
deployment by any transactions at any times, as long as the vault has been funded
with the cap on claims and there was no clawback, everybody without a claim status
can make the new claim with the stored amounts and proof, and everybody with one can
withdraw whatever has vested. -/
theorem no_claimant_starved
    (season : TreeRun env earlier founding key created treeNodes tree history bank)
    (positive : 0 < tree.totalUnlockedAmount.toNat + tree.totalLockedAmount.toNat)
    (supply : SupplyFits created.mint founding.outcome.bank)
    (funded : created.maxTotalClaim.toNat ≤
      founding.outcome.bank.balance created.tokenVault +
        deposits created.tokenVault (commits history))
    (found : bank key = some (.distributor current))
    (notClawedBack : current.clawedBack = false)
    (schedule : current.airdropBonus.vestingDuration.toNat +
      current.activationPoint.toNat < 2 ^ 64) :
    (∀ node ∈ tree.treeNodes, bank (env.claimStatusAddress node.claimant key) = none →
      ∃ proof, node.proof = some proof ∧
        ∀ (tx : Transaction env) toAccount, node.claimant ∈ tx.signers →
          bank.Receives created.mint node.claimant toAccount →
          tx.instruction = node.claim env key created.tokenVault toAccount proof →
          ∃ receipt paid, execute env bank tx = .ok receipt ∧
            receipt.transfers = [⟨created.tokenVault, toAccount, paid⟩] ∧
            node.amount.toNat ≤ paid.toNat) ∧
      ∀ node ∈ tree.treeNodes, ∀ status,
        bank (env.claimStatusAddress node.claimant key) = some (.claimStatus status) →
        ∀ (tx : Transaction env) toAccount, node.claimant ∈ tx.signers →
          bank.Receives created.mint node.claimant toAccount →
          0 < status.withdrawableAt created tx.clock.unixTimestamp →
          tx.instruction = node.claimLocked env key created.tokenVault toAccount →
          ∃ receipt amount, execute env bank tx = .ok receipt ∧
            receipt.transfers = [⟨created.tokenVault, toAccount, amount⟩] ∧
            amount.toNat = status.withdrawableAt created tx.clock.unixTimestamp := by
  constructor
  · intro node member free
    obtain ⟨proof, stored, proved⟩ := season.builtFrom.proofs node member
    refine ⟨proof, stored, ?_⟩
    intro tx toAccount signed receives instruction
    exact season.newClaim_succeeds found notClawedBack funded supply positive schedule
      member free proved signed receives instruction
  · intro node member status present tx toAccount signed receives withdrawable instruction
    exact season.claimLocked_succeeds found notClawedBack funded supply member present
      withdrawable signed receives instruction

end Claims

/-! ## The small deployment -/

section Sample

theorem sample_supply :
    SupplyFits sampleMint (sampleFounding sampleTree.merkleRoot false).outcome.bank := by
  refine ⟨{sampleVault, aliceToken, bobToken, adminToken}, ?_, by decide +kernel⟩
  intro key
  simp only [Finset.mem_insert, Finset.mem_singleton]
  constructor
  · rintro (rfl | rfl | rfl | rfl)
    · exact ⟨⟨sampleMint, sampleKey, 220⟩, by decide +kernel, rfl⟩
    · exact ⟨⟨sampleMint, alice, 0⟩, by decide +kernel, rfl⟩
    · exact ⟨⟨sampleMint, bob, 0⟩, by decide +kernel, rfl⟩
    · exact ⟨⟨sampleMint, sampleAdmin, 0⟩, by decide +kernel, rfl⟩
  · rintro ⟨account, present, _⟩
    simp only [sampleFounding, Receipt.quiet, sampleBank, Bank.set,
      Function.update_apply] at present
    split_ifs at present with isKey isAdmin isBob isAlice isVault isMint
    all_goals simp_all

theorem sample_season :
    TreeRun sampleEnv [] (sampleFounding sampleTree.merkleRoot false) sampleKey
      (sampleDistributor sampleTree.merkleRoot false) sampleNodes sampleTree
      (sampleRecord sampleTree.merkleRoot false [aliceClaims 55, aliceWithdraws 150])
      (sampleThen sampleTree.merkleRoot false [aliceClaims 55, aliceWithdraws 150]) where
  toFounded := sample_founded _ _
  fresh := by simp
  built := ⟨0, sampleTree_built⟩
  deploys := .withBonus ⟨rfl, rfl, rfl, rfl⟩
  clock := by decide
  vaultMint := ⟨⟨sampleMint, sampleKey, 220⟩, by decide +kernel, rfl⟩
  run := (sample_lifetime _ _ _ (by decide)).run
  noCollision := by decide +kernel
  distinct := by decide +kernel

/-- After Alice's claim and withdrawal, Bob can still claim, and Alice can withdraw
what vests later. -/
theorem no_claimant_starved_sample :
    (∃ receipt paid,
      execute sampleEnv (sampleThen sampleTree.merkleRoot false
          [aliceClaims 55, aliceWithdraws 150]) (bobClaims 170) = .ok receipt ∧
        receipt.transfers = [⟨sampleVault, bobToken, paid⟩] ∧ 30 ≤ paid.toNat) ∧
      ∃ receipt amount,
        execute sampleEnv (sampleThen sampleTree.merkleRoot false
            [aliceClaims 55, aliceWithdraws 150]) (aliceWithdraws 190) = .ok receipt ∧
          receipt.transfers = [⟨sampleVault, aliceToken, amount⟩] ∧
          amount.toNat = 20 := by
  obtain ⟨newClaims, withdrawals⟩ := no_claimant_starved sample_season (by decide)
    sample_supply (by decide +kernel)
    (show sampleThen sampleTree.merkleRoot false [aliceClaims 55, aliceWithdraws 150]
      sampleKey = some (.distributor { sampleDistributor sampleTree.merkleRoot false with
        totalAmountClaimed := 151
        numNodesClaimed := 1
        airdropBonus :=
          { totalBonus := 20, vestingDuration := 10, totalClaimedBonus := 6 } }) by
      decide +kernel)
    rfl (by decide)
  constructor
  · obtain ⟨proof, stored, succeeds⟩ :=
      newClaims sampleTree.treeNodes[1] (by decide) (by decide +kernel)
    obtain rfl := Option.some.inj stored
    exact succeeds (bobClaims 170) bobToken (by decide)
      ⟨⟨sampleMint, bob, 0⟩, by decide +kernel, rfl, rfl⟩ (by decide +kernel)
  · exact withdrawals sampleTree.treeNodes[0] (by decide)
      { claimant := alice, lockedAmount := 50, lockedAmountWithdrawn := 25
        unlockedAmount := 126, closable := false, admin := sampleAdmin }
      (by decide +kernel) (aliceWithdraws 190) aliceToken (by decide)
      ⟨⟨sampleMint, alice, 151⟩, by decide +kernel, rfl, rfl⟩ (by decide +kernel)
      (by decide +kernel)

end Sample

end Airdrop
