/-
Module: Airdrop.Proofs.BonusMultiplier
Purpose: The bonus multiplier of the command that creates a distributor against what the
  program grants: the pool is a multiple of the unlocked total, and is shared over the
  unlocked and the locked total.
Trusted boundary: none
Main exports: MultipliedDeployment, ClaimsAfterEnd, grantedBonus_of_ended,
  bonusMultiplier_exact_iff
-/
import Airdrop.Cli.NewDistributor
import Airdrop.Proofs.BonusSchedule
import Airdrop.Proofs.ClaimRecords

namespace Airdrop

open Checked Schedule Transition

/-! ## The deployment -/

/-- The distributor is created with the instruction that the command builds for the tree
and the multiplier.  The unlocked total of the tree is the sum over its nodes. -/
structure MultipliedDeployment (env : Env) (earlier : History env)
    (founding : Commit Bank (Transaction env) Receipt) (key : Pubkey)
    (created : MerkleDistributor) (tree : AirdropMerkleTree) (bonusMultiplier : U64) :
    Prop extends Founded env earlier founding key created where
  total : tree.totalUnlockedAmount.toNat =
    (tree.treeNodes.map fun node => node.amount.toNat).sum
  built : ∃ findProgramAddress associatedTokenAddress args command totalBonus
    bonusVestingDuration,
    checkedMul tree.totalUnlockedAmount bonusMultiplier = some totalBonus ∧
    newDistributorInstruction findProgramAddress associatedTokenAddress args command tree
      totalBonus bonusVestingDuration = .ok founding.input.instruction

section Deployment

variable {env : Env} {earlier history : History env} {key : Pubkey} {bank : Bank}
variable {founding : Commit Bank (Transaction env) Receipt}
variable {created : MerkleDistributor} {tree : AirdropMerkleTree} {bonusMultiplier : U64}

/-- What the command makes of the multiplier: the pool, and what can be claimed without
it. -/
theorem MultipliedDeployment.terms
    (deployment : MultipliedDeployment env earlier founding key created tree
      bonusMultiplier) :
    created.airdropBonus.totalBonus.toNat =
        tree.totalUnlockedAmount.toNat * bonusMultiplier.toNat ∧
      created.maxTotalClaim.toNat =
        tree.totalUnlockedAmount.toNat + tree.totalLockedAmount.toNat +
          created.airdropBonus.totalBonus.toNat := by
  obtain ⟨findProgramAddress, associatedTokenAddress, args, command, totalBonus,
    bonusVestingDuration, multiplied, built⟩ := deployment.built
  have pool := checkedMul_eq_some.mp multiplied
  have creation := deployment.creation.1
  simp only [newDistributorInstruction, bind_eq_ok] at built
  obtain ⟨claim, isClaim, built⟩ := built
  have value := checkedAdd_eq_some.mp (unwrap_eq_ok.mp isClaim)
  split at built
  case isTrue none =>
    rw [pure_eq, Except.ok.injEq] at built
    rw [← built] at creation
    cases creation with
    | plain here written =>
        rw [written]
        refine ⟨?_, value⟩
        rw [← pool, none]
        rfl
  case isFalse some =>
    rw [pure_eq, Except.ok.injEq] at built
    rw [← built] at creation
    cases creation with
    | withBonus here isMax written =>
        rw [written]
        refine ⟨pool, isMax.trans ?_⟩
        rw [← value]
        rfl

end Deployment

/-! ## Claims after the end of the schedule -/

/-- The new claim of a node from the distributor at `key`, made when the bonus schedule
has ended. -/
structure ClaimsAfterEnd {env : Env} (key : Pubkey) (node : TreeNode)
    (commit : Commit Bank (Transaction env) Receipt) : Prop where
  claims : newClaimOf key commit =
    some
      { claimant := node.claimant
        amountUnlocked := node.amount
        amountLocked := node.lockedAmount }
  ended : ∀ distributor ∈ commit.before.distributor? key,
    distributor.BonusEnded commit.input.clock

instance {env : Env} (key : Pubkey) (node : TreeNode)
    (commit : Commit Bank (Transaction env) Receipt) :
    Decidable (ClaimsAfterEnd key node commit) :=
  decidable_of_iff (_ ∧ _) ⟨fun both => ⟨both.1, both.2⟩, fun claim => ⟨claim.1, claim.2⟩⟩

section Granted

variable {env : Env} {earlier history : History env} {key : Pubkey} {bank : Bank}
variable {founding commit : Commit Bank (Transaction env) Receipt}
variable {created : MerkleDistributor} {node : TreeNode}

/-- A claim after the end of the schedule is granted the share of its amount, where the
amount is within what can be claimed without bonus. -/
theorem grantedBonus_of_ended
    (life : Lifetime env earlier founding key created history bank)
    (member : commit ∈ commits history) (claim : ClaimsAfterEnd key node commit)
    (within : node.amount.toNat ≤
      created.maxTotalClaim.toNat - created.airdropBonus.totalBonus.toNat) :
    created.airdropBonus.totalBonus.toNat < created.maxTotalClaim.toNat ∧
      grantedBonus key created.tokenVault commit =
        share created.airdropBonus.totalBonus.toNat
          (created.maxTotalClaim.toNat - created.airdropBonus.totalBonus.toNat)
          node.amount.toNat := by
  obtain ⟨before, after, found, same, step⟩ := life.stepOf member
  have claims := claim.claims
  cases step with
  | @claimed accounts amountUnlocked amountLocked proof bonus paid moved instruction here
      checks effect flow =>
      rw [newClaimOf_eq_some instruction here, Option.some.injEq,
        ClaimRecord.mk.injEq] at claims
      obtain ⟨_, rfl, _⟩ := claims
      obtain ⟨handler, isHandler, granted⟩ := checks.granted
      have ended := claim.ended before (Bank.distributor?_eq_some.mpr found)
      obtain ⟨positive, value⟩ := bonus_of_ended isHandler ended granted
      have sameCap := same.maxTotalClaim
      have samePool : before.airdropBonus.totalBonus = created.airdropBonus.totalBonus := by
        rw [same]
      rw [sameCap, samePool] at positive
      have fits : before.ShareFits node.amount := by
        apply shareFits_of_le
        · rwa [sameCap, samePool]
        · rwa [sameCap, samePool]
      have paidValue := checks.paidValue
      rw [(share_mod_eq_iff (by rwa [sameCap, samePool])).mpr fits, sameCap, samePool]
        at value
      refine ⟨positive, ?_⟩
      unfold grantedBonus
      rw [instruction]
      simp only
      rw [if_pos here, ← same.tokenVault, flow, paidValue, Nat.add_sub_cancel_left, value]
      rfl
  | other notClaimed notClawedBack nothing =>
      rw [newClaimOf_eq_none notClaimed] at claims
      cases claims
  | withdrawn instruction here checks effect flow =>
      rw [newClaimOf_of_other (by simp [instruction])] at claims
      cases claims
  | clawedBack instruction here checks effect =>
      rw [newClaimOf_of_other (by simp [instruction])] at claims
      cases claims
  | tuned tuning effect nothing =>
      rw [newClaimOf_eq_none (by simp [tuning.only])] at claims
      cases claims

end Granted

/-! ## What the multiplier means -/

/-- A claimant is granted the multiple of its unlocked amount only if the tree locks
nothing, or there is nothing to multiply; and only then do the bonuses of all the
claimants use up the pool. -/
theorem bonusMultiplier_exact_iff {env : Env} {earlier history : History env}
    {founding : Commit Bank (Transaction env) Receipt} {key : Pubkey} {bank : Bank}
    {created : MerkleDistributor} {tree : AirdropMerkleTree} {bonusMultiplier : U64}
    (deployment : MultipliedDeployment env earlier founding key created tree
      bonusMultiplier)
    (life : Lifetime env earlier founding key created history bank)
    (positive : 0 < tree.totalUnlockedAmount.toNat + tree.totalLockedAmount.toNat) :
    (∀ node ∈ tree.treeNodes, ∀ commit ∈ commits history,
      ClaimsAfterEnd key node commit →
      (grantedBonus key created.tokenVault commit =
          bonusMultiplier.toNat * node.amount.toNat ↔
        tree.totalLockedAmount.toNat = 0 ∨ bonusMultiplier.toNat = 0 ∨
          node.amount.toNat = 0)) ∧
    ∀ claims : Commits env,
      List.Forall₂ (fun node commit => commit ∈ commits history ∧
        ClaimsAfterEnd key node commit) tree.treeNodes claims →
      (bonusesGranted key created.tokenVault claims =
          created.airdropBonus.totalBonus.toNat ↔
        tree.totalLockedAmount.toNat = 0 ∨ bonusMultiplier.toNat = 0 ∨
          tree.totalUnlockedAmount.toNat = 0) := by
  obtain ⟨pool, cap⟩ := deployment.terms
  have whole : created.maxTotalClaim.toNat - created.airdropBonus.totalBonus.toNat =
      tree.totalUnlockedAmount.toNat + tree.totalLockedAmount.toNat := by omega
  have granted (node : TreeNode) (among : node ∈ tree.treeNodes)
      (commit : Commit Bank (Transaction env) Receipt) (member : commit ∈ commits history)
      (claim : ClaimsAfterEnd key node commit) :
      grantedBonus key created.tokenVault commit =
        share (tree.totalUnlockedAmount.toNat * bonusMultiplier.toNat)
          (tree.totalUnlockedAmount.toNat + tree.totalLockedAmount.toNat)
          node.amount.toNat := by
    have below : node.amount.toNat ≤ tree.totalUnlockedAmount.toNat := by
      rw [deployment.total]
      exact List.le_sum_of_mem (List.mem_map_of_mem among)
    rw [(grantedBonus_of_ended life member claim (by omega)).2, whole, pool]
  constructor
  · intro node among commit member claim
    rw [granted node among commit member claim]
    exact share_multiple_eq_iff positive _
  · intro claims claimed
    have sums : bonusesGranted key created.tokenVault claims =
        ((tree.treeNodes.map fun node => node.amount.toNat).map
          (share (tree.totalUnlockedAmount.toNat * bonusMultiplier.toNat)
            (tree.totalUnlockedAmount.toNat + tree.totalLockedAmount.toNat))).sum := by
      have among := (List.forall₂_and_left _ _).mpr
        ⟨fun node (member : node ∈ tree.treeNodes) => member, claimed⟩
      have same : List.Forall₂ (· = ·) _ _ := List.forall₂_map_left_iff.mpr
        (List.forall₂_map_right_iff.mpr (among.imp fun node commit related =>
          (granted node related.1 commit related.2.1 related.2.2).symm))
      rw [List.forall₂_eq_eq_eq] at same
      rw [bonusesGranted, List.map_map, ← same]
      rfl
    rw [sums, pool]
    exact sum_share_multiple_eq_iff positive deployment.total.symm

/-! ## Two trees -/

section Sample

/-- The founding of a distributor for a tree and a bonus. -/
def bonusFounding (tree : AirdropMerkleTree) (totalBonus : U64) :
    Commit Bank (Transaction sampleEnv) Receipt :=
  { before := sampleBank
    input := createBonus tree totalBonus
    outcome := .quiet (sampleBank.set sampleKey (.distributor
      (createdDistributor sampleAccounts (treeArgs tree) 254
        ((treeArgs tree).maxTotalClaim + totalBonus) totalBonus 10))) }

theorem bonus_founded (tree : AirdropMerkleTree) {totalBonus : U64}
    (fits : checkedAdd (treeArgs tree).maxTotalClaim totalBonus =
      some ((treeArgs tree).maxTotalClaim + totalBonus)) :
    Founded sampleEnv [] (bonusFounding tree totalBonus) sampleKey
      (createdDistributor sampleAccounts (treeArgs tree) 254
        ((treeArgs tree).maxTotalClaim + totalBonus) totalBonus 10) where
  origin := ⟨sampleBank, sampleBank_genesis, .start⟩
  accepted := by
    refine newDistributor2_eq_ok.mpr ⟨254, _, ?_, checkedAdd_eq_some.mp fits, rfl⟩
    exact
      { valid := sampleAccounts_valid
        ordered := show (100 : Int64).toInt < (200 : Int64).toInt by decide
        future := show (10 : Int64).toInt < (100 : Int64).toInt by decide
        clawbackAfterEnd := show (200 : Int64).toInt ≤ (300 : Int64).toInt by decide
        activation := ⟨.timestamp, rfl⟩ }
  creates := rfl
  born := by simp [bonusFounding, Receipt.quiet, Bank.set]

/-- The arguments of the command for these terms. -/
def bonusCommand : NewDistributorCommand :=
  { startVestingTs := 100
    endVestingTs := 200
    clawbackStartTs := 300
    activationPoint := 50
    activationType := 1
    airdropVersion := none
    closable := false
    skipVerify := false
    base := sampleBase
    keypair := sampleAdmin
    clawbackReceiverOwner := sampleAdmin
    priorityFee := none }

/-- The token accounts that the command derives. -/
def bonusTokenAddress (wallet _mint : Pubkey) : Pubkey :=
  if wallet = sampleKey then sampleVault else adminToken

/-- The multiplier 2 over the tree that locks nothing. -/
theorem unlockedDeployment :
    MultipliedDeployment sampleEnv [] (bonusFounding unlockedTree 100) sampleKey
      (createdDistributor sampleAccounts (treeArgs unlockedTree) 254 150 100 10)
        unlockedTree 2 where
  toFounded := bonus_founded unlockedTree rfl
  total := by decide
  built := ⟨fun _ _ => (sampleKey, 254), bonusTokenAddress,
    { mint := sampleMint, base := sampleBase, programId := sampleKey }, bonusCommand, 100,
    10, rfl, by decide +kernel⟩

/-- The record and the accounts after the creation and some transactions. -/
def bonusPlay (tree : AirdropMerkleTree) (totalBonus : U64)
    (transactions : List (Transaction sampleEnv)) : History sampleEnv × Bank :=
  (machine sampleEnv).play (bonusFounding tree totalBonus).outcome.bank transactions

theorem bonus_lifetime (tree : AirdropMerkleTree) {totalBonus : U64}
    (fits : checkedAdd (treeArgs tree).maxTotalClaim totalBonus =
      some ((treeArgs tree).maxTotalClaim + totalBonus))
    (transactions : List (Transaction sampleEnv))
    (unclosed : ∀ tx ∈ transactions, tx.instruction.closed ≠ some sampleKey) :
    Lifetime sampleEnv [] (bonusFounding tree totalBonus) sampleKey
      (createdDistributor sampleAccounts (treeArgs tree) 254
        ((treeArgs tree).maxTotalClaim + totalBonus) totalBonus 10)
      (bonusPlay tree totalBonus transactions).1
      (bonusPlay tree totalBonus transactions).2 :=
  (bonus_founded tree fits).played transactions unclosed

/-- Alice claims on the second the schedule ends, and Bob later. -/
def unlockedClaims : List (Transaction sampleEnv) :=
  [aliceClaimsUnlocked 60, bobClaimsUnlocked 75]

/-- Under the multiplier 2 Alice is granted 40 for her 20 and Bob 60 for his 30, which
together is the whole pool. -/
theorem bonusMultiplier_exact_iff_sample :
    ∃ alices ∈ commits (bonusPlay unlockedTree 100 unlockedClaims).1,
      ∃ bobs ∈ commits (bonusPlay unlockedTree 100 unlockedClaims).1,
        grantedBonus sampleKey sampleVault alices = 2 * 20 ∧
        grantedBonus sampleKey sampleVault bobs = 2 * 30 ∧
        bonusesGranted sampleKey sampleVault [alices, bobs] = 100 := by
  have claims : ∃ alices ∈ commits (bonusPlay unlockedTree 100 unlockedClaims).1,
      ∃ bobs ∈ commits (bonusPlay unlockedTree 100 unlockedClaims).1,
        ClaimsAfterEnd sampleKey aliceUnlocked alices ∧
        ClaimsAfterEnd sampleKey bobUnlocked bobs := by
    decide +kernel
  obtain ⟨alices, alicesMember, bobs, bobsMember, alicesClaim, bobsClaim⟩ := claims
  obtain ⟨each, together⟩ := bonusMultiplier_exact_iff unlockedDeployment
    (bonus_lifetime unlockedTree rfl unlockedClaims (by decide)) (by decide)
  refine ⟨alices, alicesMember, bobs, bobsMember, ?_, ?_, ?_⟩
  · exact (each aliceUnlocked (by decide) alices alicesMember alicesClaim).mpr (.inl rfl)
  · exact (each bobUnlocked (by decide) bobs bobsMember bobsClaim).mpr (.inl rfl)
  · exact (together [alices, bobs]
      (.cons ⟨alicesMember, alicesClaim⟩ (.cons ⟨bobsMember, bobsClaim⟩ .nil))).mpr
      (.inl rfl)

/-- The multiplier 1 over the tree of both, which locks 50 of 200. -/
theorem lockedDeployment :
    MultipliedDeployment sampleEnv [] (bonusFounding sampleTree 150) sampleKey
      (createdDistributor sampleAccounts (treeArgs sampleTree) 254 350 150 10) sampleTree
        1 where
  toFounded := bonus_founded sampleTree rfl
  total := by decide
  built := ⟨fun _ _ => (sampleKey, 254), bonusTokenAddress,
    { mint := sampleMint, base := sampleBase, programId := sampleKey }, bonusCommand, 150,
    10, rfl, by decide +kernel⟩

/-- Alice, with 120 unlocked, is granted 90 and not 120. -/
theorem locked_part_dilutes :
    MultipliedDeployment sampleEnv [] (bonusFounding sampleTree 150) sampleKey
      (createdDistributor sampleAccounts (treeArgs sampleTree) 254 350 150 10) sampleTree
        1 ∧
    ∃ node ∈ sampleTree.treeNodes,
      ∃ commit ∈ commits (bonusPlay sampleTree 150 [aliceClaims 60]).1,
        ClaimsAfterEnd sampleKey node commit ∧ node.amount = 120 ∧
        grantedBonus sampleKey sampleVault commit = 90 :=
  ⟨lockedDeployment, by decide +kernel⟩

end Sample

end Airdrop
