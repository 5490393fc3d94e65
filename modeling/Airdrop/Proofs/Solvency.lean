/-
Module: Airdrop.Proofs.Solvency
Purpose: A distributor deployed for a built tree as a scheme of entitlements: the
  cap on claims is their pool, its claim counter is the sum of what the claimants
  were paid, and everybody is paid within the own entitlement.
Trusted boundary: none
Main exports: Instruction.Deploys, TreeDeployment, TreeRun, BuiltFrom.scheme,
  TreeRun.claimed_eq_sum, TreeRun.within, TreeRun.claimRoom, TreeRun.nodeRoom
-/
import Airdrop.Library.Entitlements
import Airdrop.Proofs.ClaimSoundness
import Airdrop.Proofs.Supply

namespace Airdrop

open Checked Entitlements Schedule Transition

/-! ## Deployments -/

/-- The arguments by which a tree is deployed: its root, its totals as the cap on
claims, its number of nodes, and claim statuses that cannot be closed. -/
structure NewDistributorArgs.Deploys (args : NewDistributorArgs)
    (tree : AirdropMerkleTree) : Prop where
  root : args.root = tree.merkleRoot
  claims : args.maxTotalClaim.toNat =
    tree.totalUnlockedAmount.toNat + tree.totalLockedAmount.toNat
  nodes : args.maxNumNodes = tree.maxNumNodes
  fixed : args.closable = false

/-- The instruction deploys the tree, without a bonus or with any. -/
inductive Instruction.Deploys (tree : AirdropMerkleTree) : Instruction → Prop where
  | plain {accounts : NewDistributor} {args : NewDistributorArgs}
      (deploys : args.Deploys tree) : Deploys tree (.newDistributor accounts args)
  | withBonus {accounts : NewDistributor} {args : NewDistributorArgs}
      {totalBonus bonusVestingDuration : U64} (deploys : args.Deploys tree) :
      Deploys tree (.newDistributor2 accounts args totalBonus bonusVestingDuration)

/-- The transaction `founding` deploys a built tree at an address never used
before, at a time that is not negative.  The vault is an account of the mint, as
the associated token program creates it at the address that the program checks. -/
structure TreeDeployment (env : Env) (earlier : History env)
    (founding : Commit Bank (Transaction env) Receipt) (key : Pubkey)
    (created : MerkleDistributor) (treeNodes : List TreeNode)
    (tree : AirdropMerkleTree) : Prop extends
    Founded env earlier founding key created where
  fresh : ∀ commit ∈ commits earlier, commit.input.instruction.created ≠ some key
  built : ∃ airdropVersion,
    AirdropMerkleTree.new env.sha256 treeNodes airdropVersion = .ok tree
  deploys : founding.input.instruction.Deploys tree
  clock : 0 ≤ founding.input.clock.unixTimestamp.toInt
  vaultMint : founding.outcome.bank.Holder created.mint created.tokenVault

/-- What the deployment of a tree gives the distributor. -/
structure MerkleDistributor.DeployedFor (distributor : MerkleDistributor)
    (tree : AirdropMerkleTree) : Prop where
  root : distributor.root = tree.merkleRoot
  fixed : distributor.closable = false
  nodes : distributor.maxNumNodes = tree.maxNumNodes
  claims : distributor.maxTotalClaim.toNat =
    tree.totalUnlockedAmount.toNat + tree.totalLockedAmount.toNat +
      distributor.airdropBonus.totalBonus.toNat

theorem Creation.deployedFor {key : Pubkey} {created : MerkleDistributor}
    {instruction : Instruction} {tree : AirdropMerkleTree}
    (creation : Creation key created instruction)
    (deploys : instruction.Deploys tree) : created.DeployedFor tree := by
  cases creation with
  | plain here written =>
      cases deploys with
      | plain deploys =>
          subst written
          exact
            { root := deploys.root
              fixed := deploys.fixed
              nodes := deploys.nodes
              claims := deploys.claims }
  | withBonus here isMax written =>
      cases deploys with
      | withBonus deploys =>
          subst written
          exact
            { root := deploys.root
              fixed := deploys.fixed
              nodes := deploys.nodes
              claims := by
                rw [← deploys.claims]
                exact isMax }

/-- A run from the deployment of a tree on, in which the hash has no collision
and distinct seeds have distinct addresses. -/
structure TreeRun (env : Env) (earlier : History env)
    (founding : Commit Bank (Transaction env) Receipt) (key : Pubkey)
    (created : MerkleDistributor) (treeNodes : List TreeNode)
    (tree : AirdropMerkleTree) (history : History env) (bank : Bank) : Prop extends
    TreeDeployment env earlier founding key created treeNodes tree where
  run : Reaches env founding.outcome.bank history bank
  noCollision : NoCollision env.sha256
    (builderInputs env.sha256 tree.treeNodes ++ committedInputs (commits history))
  distinct : env.DistinctAddresses
    ((tree.treeNodes.map fun node => claimStatusSeeds node.claimant key) ++
      usedSeeds (commits history ++ founding :: commits earlier))

/-! ## Payments by claimant -/

section Payments

variable {env : Env} {earlier history : History env} {key : Pubkey}
variable {founding : Commit Bank (Transaction env) Receipt}
variable {created before after : MerkleDistributor} {bank : Bank}
variable {tx : Transaction env} {receipt : Receipt}

/-- What a transaction pays as claims is what it pays to the claimants, where
they contain its own. -/
theorem LivingStep.payouts (step : LivingStep env tx bank receipt key before after)
    {claimants : Finset Pubkey}
    (listed : ∀ claimant, tx.instruction.claimant key = some claimant →
      claimant ∈ claimants) :
    claimPayments key before.tokenVault [⟨bank, tx, receipt⟩] =
      ∑ claimant ∈ claimants,
        payout before.tokenVault claimant ⟨bank, tx, receipt⟩ := by
  have idle (notClaimed : tx.instruction.claimedFrom ≠ some key)
      (unpaid : ∀ claimant,
        payout before.tokenVault claimant ⟨bank, tx, receipt⟩ = 0) :
      claimPayments key before.tokenVault [⟨bank, tx, receipt⟩] =
        ∑ claimant ∈ claimants,
          payout before.tokenVault claimant ⟨bank, tx, receipt⟩ := by
    simp [claimPayments, notClaimed, unpaid]
  have nothing (noOutflow : outflow before.tokenVault receipt.transfers = 0)
      (claimant : Pubkey) :
      payout before.tokenVault claimant ⟨bank, tx, receipt⟩ = 0 :=
    Nat.le_zero.mp (noOutflow ▸ payout_le_outflow)
  -- A claim pays everything to its claimant.
  have claim {owner : Pubkey} {paid : Nat}
      (claims : tx.instruction.claimant key = some owner)
      (flow : outflow before.tokenVault receipt.transfers = paid)
      (pays : ∀ claimant,
        payout before.tokenVault claimant ⟨bank, tx, receipt⟩ =
          if owner = claimant then paid else 0) :
      claimPayments key before.tokenVault [⟨bank, tx, receipt⟩] =
        ∑ claimant ∈ claimants,
          payout before.tokenVault claimant ⟨bank, tx, receipt⟩ := by
    simp only [pays, Finset.sum_ite_eq, listed owner claims, if_true]
    simp [claimPayments, (Instruction.claims_of_claimant claims).1, flow]
  cases step with
  | other notClaimed notClawedBack noOutflow => exact idle notClaimed (nothing noOutflow)
  | @claimed accounts amountUnlocked amountLocked proof bonus paid moved instruction here
      checks effect flow =>
      have claims : tx.instruction.claimant key = some accounts.claimant := by
        rw [instruction]
        exact if_pos here
      have claimed := (Instruction.claims_of_claimant claims).1
      exact claim claims flow (payout_of_claim effect flow claimed)
  | @withdrawn accounts status amount moved instruction here checks effect flow =>
      have claims : tx.instruction.claimant key = some accounts.claimant := by
        rw [instruction]
        exact if_pos here
      have claimed := (Instruction.claims_of_claimant claims).1
      exact claim claims flow (payout_of_claim effect flow claimed)
  | clawedBack instruction here checks effect =>
      refine idle ?_ ?_
      · simp [instruction, Instruction.claimedFrom]
      · simp [payout, instruction]
  | tuned tuning effect noOutflow => exact idle (by simp [tuning.only]) (nothing noOutflow)

/-- Whoever claims has made a new claim, now or before. -/
theorem LivingStep.claimant_recorded {claimant : Pubkey} {done : Commits env}
    (step : LivingStep env tx bank receipt key before after)
    (state : ClaimantState env key created claimant done bank)
    (claims : tx.instruction.claimant key = some claimant) :
    ∃ record ∈ newClaims key (⟨bank, tx, receipt⟩ :: done),
      record.claimant = claimant := by
  have claimed := (Instruction.claims_of_claimant claims).1
  cases step with
  | other notClaimed notClawedBack noOutflow => exact absurd claimed notClaimed
  | claimed instruction here checks effect flow =>
      rw [instruction, Instruction.claimant, if_pos here, Option.some.injEq] at claims
      rw [newClaims_cons_some (newClaimOf_eq_some instruction here)]
      exact ⟨_, List.mem_cons_self, claims⟩
  | withdrawn instruction here checks effect flow =>
      rw [instruction, Instruction.claimant, if_pos here, Option.some.injEq] at claims
      rw [newClaims_cons_none (newClaimOf_of_other (by simp [instruction]))]
      cases state with
      | unclaimed absent unrecorded unpaid =>
          have present := checks.valid.isClaimStatus
          rw [checks.valid.statusAddress, here, claims, ← Bank.claimStatus?_eq_some]
            at present
          exact absurd present (by simp [absent])
      | @claimed record status recorded present fixed sameLocked unlockedPaid bonusPaid
          bounded paid =>
          have among : record ∈ newClaimsBy key claimant done := by
            rw [recorded]
            exact List.mem_singleton_self record
          obtain ⟨member, own⟩ := mem_newClaimsBy.mp among
          exact ⟨record, member, own⟩
  | clawedBack instruction here checks effect =>
      exact absurd claimed (by simp [instruction, Instruction.claimedFrom])
  | tuned tuning effect noOutflow => exact absurd claimed (by simp [tuning.only])

/-- All that was paid as claims was paid to the claimants, where they contain
everybody with a new claim. -/
theorem Lifetime.claimPayments_eq
    (life : Lifetime env earlier founding key created history bank)
    (fresh : ∀ commit ∈ commits earlier, commit.input.instruction.created ≠ some key)
    (fixed : created.closable = false)
    (distinct : env.DistinctAddresses
      (usedSeeds (commits history ++ founding :: commits earlier)))
    {claimants : Finset Pubkey}
    (listed : ∀ record ∈ newClaims key (commits history),
      record.claimant ∈ claimants) :
    claimPayments key created.tokenVault (commits history) =
      ∑ claimant ∈ claimants,
        paidTo created.tokenVault claimant (commits history) := by
  refine life.invariant (fun done _ =>
    env.DistinctAddresses (usedSeeds (done ++ founding :: commits earlier)) →
    (∀ record ∈ newClaims key done, record.claimant ∈ claimants) →
    claimPayments key created.tokenVault done =
      ∑ claimant ∈ claimants, paidTo created.tokenVault claimant done)
    ?_ ?_ distinct listed
  · intro _ _ _
    simp [claimPayments, paidTo]
  · intro history bank tx receipt sofar balanced accepted unclosed distinct listed
    obtain ⟨before, found, same⟩ := sofar.current
    obtain ⟨after, _, step⟩ := sofar.step found accepted unclosed
    have now : ∀ claimant, tx.instruction.claimant key = some claimant →
        claimant ∈ claimants := by
      intro claimant claims
      have used := (Instruction.claims_of_claimant claims).2
      have state := sofar.claimantState fresh fixed claimant (distinct.mono
        (List.cons_subset.mpr ⟨List.mem_append_left _ used,
          List.subset_append_right _ _⟩))
      obtain ⟨record, member, own⟩ := step.claimant_recorded state claims
      exact own ▸ listed record member
    have earlier : claimPayments key created.tokenVault (commits history) =
        ∑ claimant ∈ claimants,
          paidTo created.tokenVault claimant (commits history) := by
      apply balanced (distinct.mono (List.subset_append_right _ _))
      intro record member
      exact listed record
        (((List.sublist_cons_self _ _).filterMap (newClaimOf key)).subset member)
    have current := step.payouts now
    rw [same.tokenVault] at current
    simp only [claimPayments, paidTo, List.map_cons, List.map_nil, List.sum_cons,
      List.sum_nil, Nat.add_zero] at earlier current ⊢
    rw [earlier, current, Finset.sum_add_distrib]

end Payments

/-! ## The scheme of a deployment -/

/-- The claimants of a tree. -/
def AirdropMerkleTree.claimants (self : AirdropMerkleTree) : Finset Pubkey :=
  (self.treeNodes.map TreeNode.claimant).toFinset

section Scheme

variable {sha256 : Bytes → Hash} {treeNodes : List TreeNode}
variable {tree : AirdropMerkleTree} {claimant : Pubkey}

theorem AirdropMerkleTree.mem_claimants :
    claimant ∈ tree.claimants ↔ claimant ∈ tree.treeNodes.map TreeNode.claimant :=
  List.mem_toFinset

/-- The sums of the claimants make up the totals of the tree. -/
theorem BuiltFrom.sum_claimants (built : BuiltFrom sha256 treeNodes tree)
    (locked : Bool) :
    ∑ claimant ∈ tree.claimants, claimantSum locked claimant treeNodes =
      totalSum locked tree.treeNodes := by
  rw [AirdropMerkleTree.claimants, List.sum_toFinset _ built.distinct, List.map_map,
    totalSum]
  congr 1
  apply List.map_congr_left
  intro node member
  exact (built.amounts node member locked).symm

/-- The claimants of a tree are entitled to their sums and a share of the bonus,
out of the totals and the bonus. -/
def BuiltFrom.scheme (built : BuiltFrom sha256 treeNodes tree) (totalBonus : Nat) :
    Scheme Pubkey :=
  .withBonus tree.claimants (fun claimant => claimantSum false claimant treeNodes)
    (fun claimant => claimantSum true claimant treeNodes) totalBonus
    (tree.totalUnlockedAmount.toNat + tree.totalLockedAmount.toNat) (by
      rw [built.sum_claimants, built.sum_claimants, ← built.totalUnlocked,
        ← built.totalLocked])

end Scheme

section TreeRun

variable {env : Env} {earlier history : History env} {key claimant : Pubkey}
variable {founding : Commit Bank (Transaction env) Receipt}
variable {created current : MerkleDistributor} {bank : Bank}
variable {treeNodes : List TreeNode} {tree : AirdropMerkleTree}

theorem TreeDeployment.builtFrom
    (deployment : TreeDeployment env earlier founding key created treeNodes tree) :
    BuiltFrom env.sha256 treeNodes tree := by
  obtain ⟨airdropVersion, built⟩ := deployment.built
  exact builtFrom_of_new built

theorem TreeDeployment.terms
    (deployment : TreeDeployment env earlier founding key created treeNodes tree) :
    created.DeployedFor tree :=
  deployment.creation.1.deployedFor deployment.deploys

namespace TreeRun

variable (season : TreeRun env earlier founding key created treeNodes tree history bank)
include season

theorem lifetime : Lifetime env earlier founding key created history bank :=
  season.toFounded.lifetime season.terms.fixed season.run

/-- Every new claim is a node of the tree. -/
theorem inTree :
    ∀ record ∈ newClaims key (commits history), ∃ node ∈ tree.treeNodes,
      node.claimant = record.claimant ∧ node.amount = record.amountUnlocked ∧
        node.lockedAmount = record.amountLocked := by
  obtain ⟨airdropVersion, built⟩ := season.built
  exact season.lifetime.newClaims_in_tree built season.terms.root season.noCollision

/-- The standing of every claimant of the tree is in order. -/
theorem state (listed : claimant ∈ tree.claimants) :
    ClaimantState env key created claimant (commits history) bank := by
  refine season.lifetime.claimantState season.fresh season.terms.fixed claimant
    (season.distinct.mono (List.cons_subset.mpr
      ⟨List.mem_append_left _ ?_, List.subset_append_right _ _⟩))
  obtain ⟨node, member, rfl⟩ := List.mem_map.mp (AirdropMerkleTree.mem_claimants.mp listed)
  exact List.mem_map.mpr ⟨node, member, rfl⟩

/-- The claim counter is the sum of what the claimants were paid. -/
theorem claimed_eq_sum (found : bank key = some (.distributor current)) :
    current.totalAmountClaimed.toNat = ∑ claimant ∈ tree.claimants,
      paidTo created.tokenVault claimant (commits history) := by
  rw [(season.lifetime.ledger found).claimed]
  apply season.lifetime.claimPayments_eq season.fresh season.terms.fixed
    (season.distinct.mono (List.subset_append_right _ _))
  intro record member
  obtain ⟨node, inTree, own, _⟩ := season.inTree record member
  rw [AirdropMerkleTree.mem_claimants, ← own]
  exact List.mem_map_of_mem inTree

/-- A claimant is entitled to its sums and one bonus. -/
theorem due_eq (claimant : Pubkey) :
    (season.builtFrom.scheme created.airdropBonus.totalBonus.toNat).due claimant =
      claimantSum false claimant treeNodes +
        created.bonusShare (claimantSum false claimant treeNodes) +
          claimantSum true claimant treeNodes := by
  have whole : created.maxTotalClaim.toNat - created.airdropBonus.totalBonus.toNat =
      tree.totalUnlockedAmount.toNat + tree.totalLockedAmount.toNat := by
    rw [season.terms.claims, Nat.add_sub_cancel]
  rw [MerkleDistributor.bonusShare, whole]
  rfl

/-- Every claimant has been paid within its entitlement. -/
theorem within :
    (season.builtFrom.scheme created.airdropBonus.totalBonus.toNat).Within
      fun claimant => paidTo created.tokenVault claimant (commits history) := by
  intro claimant listed
  rw [season.due_eq]
  exact ((season.state listed).claimHistory season.builtFrom season.inTree).paid_le

/-- The cap on claims has room for all that is still due to a claimant. -/
theorem claimRoom (found : bank key = some (.distributor current))
    (listed : claimant ∈ tree.claimants) {more : Nat}
    (stillDue : paidTo created.tokenVault claimant (commits history) + more ≤
      claimantSum false claimant treeNodes +
        created.bonusShare (claimantSum false claimant treeNodes) +
          claimantSum true claimant treeNodes) :
    current.totalAmountClaimed.toNat + more ≤ created.maxTotalClaim.toNat := by
  rw [← season.due_eq] at stillDue
  rw [season.claimed_eq_sum found, season.terms.claims]
  exact season.within.room listed stillDue

/-- The node counter has room for everybody who has not claimed. -/
theorem nodeRoom (found : bank key = some (.distributor current))
    (listed : claimant ∈ tree.claimants)
    (unrecorded : newClaimsBy key claimant (commits history) = []) :
    current.numNodesClaimed.toNat < created.maxNumNodes.toNat := by
  have distinct : (claimant ::
      (newClaims key (commits history)).map ClaimRecord.claimant).Nodup := by
    rw [List.nodup_cons]
    refine ⟨?_, (season.lifetime.newClaims_nodup season.terms.fixed).1⟩
    intro again
    obtain ⟨record, member, own⟩ := List.mem_map.mp again
    have among : record ∈ newClaimsBy key claimant (commits history) :=
      mem_newClaimsBy.mpr ⟨member, own⟩
    rw [unrecorded] at among
    exact absurd among (by simp)
  have within : (claimant ::
      (newClaims key (commits history)).map ClaimRecord.claimant) ⊆
        tree.treeNodes.map TreeNode.claimant := by
    rw [List.cons_subset]
    refine ⟨AirdropMerkleTree.mem_claimants.mp listed, ?_⟩
    intro other member
    obtain ⟨record, isRecord, rfl⟩ := List.mem_map.mp member
    obtain ⟨node, inTree, own, _⟩ := season.inTree record isRecord
    exact own ▸ List.mem_map_of_mem inTree
  have few := (List.subperm_of_subset distinct within).length_le
  rw [List.length_cons, List.length_map, List.length_map,
    ← season.lifetime.newClaims_length found, ← season.builtFrom.nodeCount,
    ← season.terms.nodes] at few
  exact few

/-- A funded vault that was not clawed back holds all that is still to be
claimed. -/
theorem vaultCovers (found : bank key = some (.distributor current))
    (notClawedBack : current.clawedBack = false)
    (funded : created.maxTotalClaim.toNat ≤
      founding.outcome.bank.balance created.tokenVault +
        deposits created.tokenVault (commits history)) :
    created.maxTotalClaim.toNat ≤
      bank.balance created.tokenVault + current.totalAmountClaimed.toNat := by
  have books := (season.lifetime.ledger found).vault
  rw [season.lifetime.clawedOut_eq_zero found notClawedBack] at books
  omega

end TreeRun

end TreeRun

end Airdrop
