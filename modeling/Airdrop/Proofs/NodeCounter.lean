/-
Module: Airdrop.Proofs.NodeCounter
Purpose: When the node counter of a distributor counts claimants, and when the
  node cap can reject a claimant who has not claimed.
Trusted boundary: none
Main exports: newClaim_maxNodesExceeded, CounterExact, NobodyCrowdedOut,
  counterExact_of_not_closable, counter_exact_iff
-/
import Airdrop.Proofs.ClaimRecords

namespace Airdrop

open Checked Transition

/-! ## Who is rejected by the node cap -/

section NodeCap

variable {env : Env} {clock : Clock} {signers : List Pubkey} {bank : Bank}
variable {accounts : NewClaim} {amountUnlocked amountLocked : U64}
variable {proof : List Hash} {distributor : MerkleDistributor}

theorem loadToken_avoids (key : Pubkey) (code : ErrorCode) :
    Avoids (bank.loadToken key) (.errorCode code) := by
  unfold Bank.loadToken
  split <;> simp [Avoids, throw, throwThe, MonadExceptOf.throw]

theorem loadDistributor_avoids (key : Pubkey) (code : ErrorCode) :
    Avoids (bank.loadDistributor key) (.errorCode code) := by
  unfold Bank.loadDistributor
  split <;> simp [Avoids, throw, throwThe, MonadExceptOf.throw]

theorem NewClaim.tryAccounts_avoids :
    Avoids (accounts.tryAccounts env signers bank)
      (.errorCode .maxNodesExceeded) := by
  unfold NewClaim.tryAccounts
  refine .bind (loadDistributor_avoids _ _) fun found _ => ?_
  refine .bind (loadToken_avoids _ _) fun fromAccount _ => ?_
  refine .bind (loadToken_avoids _ _) fun toAccount _ => ?_
  refine .bind (.require (by simp)) fun _ _ => ?_
  refine .bind ?_ fun _ _ => ?_
  · unfold requireInit
    exact .bind (.require (by simp)) fun _ _ =>
      .bind (.require (by simp)) fun _ _ => .ok _
  refine .bind ?_ fun _ _ => ?_
  · unfold requireAssociatedToken
    exact .bind (.require (by simp)) fun _ _ => .require (by simp)
  exact .bind (.require (by simp)) fun _ _ =>
    .bind (.require (by simp)) fun _ _ =>
      .bind (.require (by simp)) fun _ _ =>
        .bind (.require (by simp)) fun _ _ => .ok _

theorem transferSigned_avoids {seeds : List Bytes}
    {source destination authority : Pubkey} {amount : U64} (code : ErrorCode) :
    Avoids (transferSigned env bank signers seeds source destination authority
      amount) (.errorCode code) := by
  unfold transferSigned tokenTransfer
  refine .bind (.okOr (by simp)) fun signer _ => ?_
  refine .bind (.require (by simp)) fun _ _ => ?_
  refine .bind (loadToken_avoids _ _) fun sourceAccount _ => ?_
  refine .bind (loadToken_avoids _ _) fun destinationAccount _ => ?_
  refine .bind (.require (by simp)) fun _ _ => ?_
  refine .bind (.require (by simp)) fun _ _ => ?_
  refine .bind (.require (by simp)) fun _ _ => ?_
  refine .bind (.require (by simp)) fun _ _ => ?_
  split
  · exact .ok _
  · exact .bind (.okOr (by simp)) fun _ _ => .bind (.okOr (by simp)) fun _ _ => .ok _

theorem getBonusForAClaimaint_avoids {handler : ActivationHandler} :
    Avoids (distributor.getBonusForAClaimaint amountUnlocked handler)
      (.errorCode .maxNodesExceeded) := by
  unfold MerkleDistributor.getBonusForAClaimaint
    MerkleDistributor.getMaxBonusForAClaimant ActivationHandler.getBonusForAClaimaint
  have arithmetic {α : Type} {value : Option α} :
      Avoids (okOrArithmetic value) (.errorCode .maxNodesExceeded) :=
    .okOr (by simp)
  refine .bind ?_ fun maxBonus _ => ?_
  · exact .bind arithmetic fun _ _ => .bind arithmetic fun _ _ =>
      .bind arithmetic fun _ _ => .ok _
  refine .bind arithmetic fun endPoint _ => ?_
  split
  · split
    · exact .ok _
    · exact .bind arithmetic fun _ _ => .bind arithmetic fun _ _ =>
        .bind arithmetic fun _ _ => .ok _
  · exact .ok _

/-- A new claim is rejected for the node cap only where the cap is reached. -/
theorem newClaim_maxNodesExceeded
    (found : bank accounts.distributor = some (.distributor distributor))
    (rejected : newClaim env clock signers bank accounts amountUnlocked amountLocked
      proof = .error (.errorCode .maxNodesExceeded)) :
    distributor.maxNumNodes.toNat ≤ distributor.numNodesClaimed.toNat := by
  by_contra room
  revert rejected
  change Avoids _ _
  have arithmetic {α : Type} {value : Option α} :
      Avoids (okOrArithmetic value) (.errorCode .maxNodesExceeded) :=
    .okOr (by simp)
  unfold newClaim
  refine .bind NewClaim.tryAccounts_avoids fun loaded isLoaded => ?_
  have same := Bank.distributor_unique found
    (NewClaim.tryAccounts_eq_ok.mp isLoaded).isDistributor
  subst same
  unfold handleNewClaim
  refine .bind (.require (by simp)) fun _ _ => ?_
  refine .bind ?_ fun handler _ => ?_
  · unfold MerkleDistributor.getActivationHandler
    exact .bind (.okOr (by simp)) fun _ _ => .ok _
  refine .bind (.ok _) fun _ _ => ?_
  refine .bind arithmetic fun nodes isNodes => ?_
  -- The counter plus one is within the cap, so this check passes.
  rw [okOrArithmetic_eq_ok, checkedAdd_eq_some] at isNodes
  have within : nodes ≤ distributor.maxNumNodes := by
    have one : (1 : U64).toNat = 1 := rfl
    rw [BitVec.le_def, isNodes]
    omega
  rw [require_of within, ok_bind]
  refine .bind (.require (by simp)) fun _ _ => ?_
  refine .bind getBonusForAClaimaint_avoids fun bonus _ => ?_
  refine .bind arithmetic fun paid _ => ?_
  refine .bind (transferSigned_avoids _) fun moved _ => ?_
  refine .bind arithmetic fun total _ => ?_
  refine .bind ?_ fun _ _ => ?_
  · unfold MerkleDistributor.accumulateBonus
    exact .bind arithmetic fun _ _ => .ok _
  exact .bind (.require (by simp)) fun _ _ => .ok _

end NodeCap

/-! ## What the counter counts -/

/-- The node counter is the number of distinct claimants that have claimed. -/
def CounterExact {env : Env} (key : Pubkey) (done : Commits env)
    (distributor : MerkleDistributor) : Prop :=
  distributor.numNodesClaimed.toNat =
    ((newClaims key done).map ClaimRecord.claimant).dedup.length

/-- No claimant of the tree that has not claimed yet is rejected for the node
cap, with whatever accounts, amounts and proof it claims. -/
def NobodyCrowdedOut (env : Env) (key : Pubkey) (tree : AirdropMerkleTree)
    (done : Commits env) (bank : Bank) : Prop :=
  ∀ (tx : Transaction env) (accounts : NewClaim) (amountUnlocked amountLocked : U64)
    (proof : List Hash),
    tx.instruction = .newClaim accounts amountUnlocked amountLocked proof →
    accounts.distributor = key →
    accounts.claimant ∈ tree.treeNodes.map TreeNode.claimant →
    accounts.claimant ∉ (newClaims key done).map ClaimRecord.claimant →
    execute env bank tx ≠ .error (.errorCode .maxNodesExceeded)

section Counter

variable {env : Env} {earlier history : History env} {key : Pubkey}
variable {founding : Commit Bank (Transaction env) Receipt}
variable {created distributor : MerkleDistributor} {bank : Bank}

/-- The counter counts claimants exactly as long as nobody has claimed twice. -/
theorem counterExact_iff_nodup
    (life : Lifetime env earlier founding key created history bank)
    (found : bank key = some (.distributor distributor)) :
    CounterExact key (commits history) distributor ↔
      ((newClaims key (commits history)).map ClaimRecord.claimant).Nodup := by
  rw [CounterExact, life.newClaims_length found]
  constructor
  · intro exact
    have whole := (List.dedup_sublist
      ((newClaims key (commits history)).map ClaimRecord.claimant)).eq_of_length
        (by rw [← exact, List.length_map])
    exact List.dedup_eq_self.mp whole
  · intro distinct
    rw [List.dedup_eq_self.mpr distinct, List.length_map]

/-- A distributor that is not closable counts its claimants. -/
theorem counterExact_of_not_closable
    (life : Lifetime env earlier founding key created history bank)
    (found : bank key = some (.distributor distributor))
    (fixed : created.closable = false) :
    CounterExact key (commits history) distributor :=
  (counterExact_iff_nodup life found).mpr (life.newClaims_nodup fixed).1

/-- Where nobody has claimed twice, a tree with as many leaves as the node cap
crowds nobody out. -/
theorem nobodyCrowdedOut_of_nodup
    (life : Lifetime env earlier founding key created history bank)
    {treeNodes : List TreeNode} {airdropVersion : U64} {tree : AirdropMerkleTree}
    (built : AirdropMerkleTree.new env.sha256 treeNodes airdropVersion = .ok tree)
    (rooted : created.root = tree.merkleRoot)
    (capped : created.maxNumNodes.toNat = tree.treeNodes.length)
    (noCollision : NoCollision env.sha256
      (builderInputs env.sha256 tree.treeNodes ++ committedInputs (commits history)))
    (distinct : ((newClaims key (commits history)).map ClaimRecord.claimant).Nodup) :
    NobodyCrowdedOut env key tree (commits history) bank := by
  intro tx accounts amountUnlocked amountLocked proof instruction here inTree fresh
    rejected
  obtain ⟨distributor, found, same⟩ := life.current
  simp only [execute, instruction] at rejected
  have full := newClaim_maxNodesExceeded (here ▸ found) rejected
  have counted := life.newClaims_length found
  have cap : distributor.maxNumNodes = created.maxNumNodes := by rw [same]
  have claimed : accounts.claimant ::
      (newClaims key (commits history)).map ClaimRecord.claimant ⊆
        tree.treeNodes.map TreeNode.claimant := by
    rw [List.cons_subset]
    refine ⟨inTree, ?_⟩
    intro claimant member
    obtain ⟨record, isRecord, rfl⟩ := List.mem_map.mp member
    obtain ⟨node, isNode, sameClaimant, _⟩ :=
      life.newClaims_in_tree built rooted noCollision record isRecord
    exact List.mem_map.mpr ⟨node, isNode, sameClaimant⟩
  have fewer := (List.subperm_of_subset (List.nodup_cons.mpr ⟨fresh, distinct⟩)
    claimed).length_le
  simp only [List.length_cons, List.length_map] at fewer
  rw [cap] at full
  omega

/-- The node counter counts claimants, and the node cap crowds nobody out,
exactly as long as nobody has claimed twice. -/
theorem counter_exact_iff
    (life : Lifetime env earlier founding key created history bank)
    (found : bank key = some (.distributor distributor)) :
    (CounterExact key (commits history) distributor ∧
      ∀ (treeNodes : List TreeNode) (airdropVersion : U64) (tree : AirdropMerkleTree),
        AirdropMerkleTree.new env.sha256 treeNodes airdropVersion = .ok tree →
        created.root = tree.merkleRoot →
        created.maxNumNodes.toNat = tree.treeNodes.length →
        NoCollision env.sha256 (builderInputs env.sha256 tree.treeNodes ++
          committedInputs (commits history)) →
        NobodyCrowdedOut env key tree (commits history) bank) ↔
      ((newClaims key (commits history)).map ClaimRecord.claimant).Nodup := by
  constructor
  · intro ⟨exact, _⟩
    exact (counterExact_iff_nodup life found).mp exact
  · intro distinct
    refine ⟨(counterExact_iff_nodup life found).mpr distinct, ?_⟩
    intro treeNodes airdropVersion tree built rooted capped noCollision
    exact nobodyCrowdedOut_of_nodup life built rooted capped noCollision distinct

end Counter

theorem counter_exact_iff_sample :
    ∃ distributor,
      sampleThen sampleTree.merkleRoot true [bobClaims 55, aliceClaims 56] sampleKey =
          some (.distributor distributor) ∧
        CounterExact sampleKey (commits (sampleRecord sampleTree.merkleRoot true
          [bobClaims 55, aliceClaims 56])) distributor := by
  have life := sample_lifetime sampleTree.merkleRoot true
    [bobClaims 55, aliceClaims 56] (by decide)
  obtain ⟨distributor, found, _⟩ := life.current
  exact ⟨distributor, found,
    ((counter_exact_iff life found).mpr (by decide +kernel)).1⟩

/-- Bob claims, the admin closes his claim status and Bob claims again: the
counter is at two with one claimant, and Alice is rejected. -/
theorem second_claim_crowds_out :
    let done := commits (sampleRecord sampleTree.merkleRoot true
      [bobClaims 55, adminClosesBob 56, bobClaims 57])
    (∃ distributor,
      sampleThen sampleTree.merkleRoot true
          [bobClaims 55, adminClosesBob 56, bobClaims 57] sampleKey =
            some (.distributor distributor) ∧
        ¬ CounterExact sampleKey done distributor) ∧
      ¬ NobodyCrowdedOut sampleEnv sampleKey sampleTree done
        (sampleThen sampleTree.merkleRoot true
          [bobClaims 55, adminClosesBob 56, bobClaims 57]) := by
  intro done
  constructor
  · have life := sample_lifetime sampleTree.merkleRoot true
      [bobClaims 55, adminClosesBob 56, bobClaims 57] (by decide)
    obtain ⟨distributor, found, _⟩ := life.current
    refine ⟨distributor, found, ?_⟩
    rw [CounterExact, life.newClaims_length found]
    decide +kernel
  · intro nobody
    refine nobody (aliceClaims 58) _ _ _ _ rfl rfl (by decide) (by decide +kernel) ?_
    rw [← failure?_eq_some]
    decide +kernel

end Airdrop
