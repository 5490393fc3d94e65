/-
Module: Airdrop.Proofs.ClaimSoundness
Purpose: What a distributor over a built tree can have paid to one claimant, from
  the nodes given to the builder to the tokens received, in any run.
Trusted boundary: none
Main exports: ClaimHistory, Lifetime.claimHistory, claims_sound
-/
import Airdrop.Proofs.Payouts

namespace Airdrop

open Checked Transition

/-- The claims of one claimant under a tree built from `treeNodes`: none, or a
single new claim with exactly the claimant's sums, and a claim status that says
what was paid. -/
inductive ClaimHistory (env : Env) (key : Pubkey) (created : MerkleDistributor)
    (treeNodes : List TreeNode) (claimant : Pubkey) (done : Commits env)
    (bank : Bank) : Prop where
  | none
      (absent : bank.claimStatus? (env.claimStatusAddress claimant key) = none)
      (unrecorded : newClaimsBy key claimant done = [])
      (unpaid : paidTo created.tokenVault claimant done = 0)
  | one {amountUnlocked amountLocked : U64} {status : ClaimStatus}
      (recorded : newClaimsBy key claimant done =
        [{ claimant, amountUnlocked, amountLocked }])
      (listed : claimant ∈ treeNodes.map TreeNode.claimant)
      (unlockedSum : amountUnlocked.toNat = claimantSum false claimant treeNodes)
      (lockedSum : amountLocked.toNat = claimantSum true claimant treeNodes)
      (present : bank.claimStatus? (env.claimStatusAddress claimant key) =
        some status)
      (sameLocked : status.lockedAmount = amountLocked)
      (unlockedPaid : amountUnlocked.toNat ≤ status.unlockedAmount.toNat)
      (bonusPaid : status.unlockedAmount.toNat ≤
        amountUnlocked.toNat + created.bonusShare amountUnlocked.toNat)
      (bounded : status.lockedAmountWithdrawn.toNat ≤ status.lockedAmount.toNat)
      (paid : paidTo created.tokenVault claimant done =
        status.unlockedAmount.toNat + status.lockedAmountWithdrawn.toNat)

section Sound

variable {env : Env} {earlier history : History env} {key claimant : Pubkey}
variable {founding : Commit Bank (Transaction env) Receipt}
variable {created : MerkleDistributor} {bank : Bank} {done : Commits env}
variable {treeNodes : List TreeNode} {tree : AirdropMerkleTree} {airdropVersion : U64}

/-- The new claims of one claimant are among the new claims, and are its own. -/
theorem mem_newClaimsBy {record : ClaimRecord} :
    record ∈ newClaimsBy key claimant done ↔
      record ∈ newClaims key done ∧ record.claimant = claimant := by
  rw [newClaimsBy, List.mem_filter, decide_eq_true_eq]

theorem ClaimHistory.not_listed
    (claims : ClaimHistory env key created treeNodes claimant done bank)
    (unlisted : claimant ∉ treeNodes.map TreeNode.claimant) :
    newClaimsBy key claimant done = [] ∧
      paidTo created.tokenVault claimant done = 0 := by
  cases claims with
  | none absent unrecorded unpaid => exact ⟨unrecorded, unpaid⟩
  | one recorded listed => exact absurd listed unlisted

/-- Nobody gets more than its sums and one bonus. -/
theorem ClaimHistory.paid_le
    (claims : ClaimHistory env key created treeNodes claimant done bank) :
    paidTo created.tokenVault claimant done ≤
      claimantSum false claimant treeNodes +
        created.bonusShare (claimantSum false claimant treeNodes) +
          claimantSum true claimant treeNodes := by
  cases claims with
  | none absent unrecorded unpaid =>
      rw [unpaid]
      exact Nat.zero_le _
  | one recorded listed unlockedSum lockedSum present sameLocked unlockedPaid bonusPaid
      bounded paid =>
      rw [sameLocked] at bounded
      rw [← unlockedSum, ← lockedSum, paid]
      exact Nat.add_le_add bonusPaid bounded

/-- The standing of a claimant, with the node that its record proves. -/
theorem ClaimantState.claimHistory
    (state : ClaimantState env key created claimant done bank)
    (built : BuiltFrom env.sha256 treeNodes tree)
    (inTree : ∀ record ∈ newClaims key done, ∃ node ∈ tree.treeNodes,
      node.claimant = record.claimant ∧ node.amount = record.amountUnlocked ∧
        node.lockedAmount = record.amountLocked) :
    ClaimHistory env key created treeNodes claimant done bank := by
  cases state with
  | unclaimed absent unrecorded unpaid => exact .none absent unrecorded unpaid
  | @claimed record status recorded present fixed sameLocked unlockedPaid bonusPaid
      bounded paid =>
      have among : record ∈ newClaimsBy key claimant done := by
        rw [recorded]
        exact List.mem_singleton_self record
      obtain ⟨isNewClaim, rfl⟩ := mem_newClaimsBy.mp among
      obtain ⟨node, member, sameClaimant, sameUnlocked, sameLockedAmount⟩ :=
        inTree record isNewClaim
      have unlockedSum := built.amounts node member false
      have lockedSum := built.amounts node member true
      rw [sameClaimant] at unlockedSum lockedSum
      have listed := List.mem_map_of_mem (f := TreeNode.claimant) member
      rw [sameClaimant, built.members] at listed
      refine .one recorded listed ?_ ?_ present sameLocked unlockedPaid bonusPaid
        bounded paid
      · rw [← sameUnlocked]
        exact unlockedSum
      · rw [← sameLockedAmount]
        exact lockedSum

/-- End to end: whatever is attempted on a distributor that is not closable, at
an address never used before and with the root of a built tree, a public key
that is not in the tree is paid nothing, and one that is in it at most its sums
and one bonus.  It has made at most one new claim, with exactly its sums, and its
claim status says what it was paid. -/
theorem claims_sound (founded : Founded env earlier founding key created)
    (fresh : ∀ commit ∈ commits earlier, commit.input.instruction.created ≠ some key)
    (fixed : created.closable = false)
    (built : AirdropMerkleTree.new env.sha256 treeNodes airdropVersion = .ok tree)
    (rooted : created.root = tree.merkleRoot)
    (run : Reaches env founding.outcome.bank history bank)
    (noCollision : NoCollision env.sha256
      (builderInputs env.sha256 tree.treeNodes ++ committedInputs (commits history)))
    (claimant : Pubkey)
    (distinct : env.DistinctAddresses (claimStatusSeeds claimant key ::
      usedSeeds (commits history ++ founding :: commits earlier))) :
    (claimant ∉ treeNodes.map TreeNode.claimant →
        newClaimsBy key claimant (commits history) = [] ∧
          paidTo created.tokenVault claimant (commits history) = 0) ∧
      paidTo created.tokenVault claimant (commits history) ≤
        claimantSum false claimant treeNodes +
          created.bonusShare (claimantSum false claimant treeNodes) +
            claimantSum true claimant treeNodes ∧
      ClaimHistory env key created treeNodes claimant (commits history) bank := by
  have life := founded.lifetime fixed run
  have claims : ClaimHistory env key created treeNodes claimant (commits history)
      bank :=
    (life.claimantState fresh fixed claimant distinct).claimHistory
      (builtFrom_of_new built) (life.newClaims_in_tree built rooted noCollision)
  exact ⟨claims.not_listed, claims.paid_le, claims⟩

end Sound

/-- After her claim and a withdrawal at half of the vesting, Alice has been paid
her 120 unlocked tokens, a bonus of 6 and 25 locked tokens. -/
theorem claims_sound_sample :
    paidTo sampleVault alice
        (commits (sampleRecord sampleTree.merkleRoot false
          [aliceClaims 55, aliceWithdraws 150])) = 151 ∧
      151 ≤ claimantSum false alice sampleNodes +
        (sampleDistributor sampleTree.merkleRoot false).bonusShare
          (claimantSum false alice sampleNodes) +
        claimantSum true alice sampleNodes := by
  have sound := claims_sound (sample_founded sampleTree.merkleRoot false)
    (by simp) rfl sampleTree_built rfl
    (sample_lifetime sampleTree.merkleRoot false [aliceClaims 55, aliceWithdraws 150]
      (by decide)).run
    (by decide +kernel) alice (by decide +kernel)
  have paid : paidTo sampleVault alice
      (commits (sampleRecord sampleTree.merkleRoot false
        [aliceClaims 55, aliceWithdraws 150])) = 151 := by
    decide +kernel
  exact ⟨paid, paid ▸ sound.2.1⟩

end Airdrop
