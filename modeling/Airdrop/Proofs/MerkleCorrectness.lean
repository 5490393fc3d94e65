/-
Module: Airdrop.Proofs.MerkleCorrectness
Purpose: The tree builder and the on-chain proof check agree: every built node
  has an accepted proof, and only built nodes have one.
Trusted boundary: none
Main exports: builderInputs, builtTree_sound, exists_new_iff, newTree_complete,
  newTree_sound
-/
import Airdrop.Proofs.BuiltTree

namespace Airdrop

open Checked HashTree

/-! ## The inputs hashed by the builder -/

/-- Every byte string hashed while the tree over `nodes` is built. -/
def builderInputs (sha256 : Bytes → Hash) (nodes : List TreeNode) : List Bytes :=
  (nodes.map fun node => nodeInput node.claimant node.amount node.lockedAmount) ++
    (nodes.map fun node => leafInput (node.hash sha256)) ++
      (treePairs (hashPair sha256) (nodeLeaves sha256 nodes)).map pairInput

section Sound

variable {sha256 : Bytes → Hash}

theorem nodeInput_mem_builderInputs {nodes : List TreeNode} {node : TreeNode}
    (member : node ∈ nodes) :
    nodeInput node.claimant node.amount node.lockedAmount ∈
      builderInputs sha256 nodes := by
  apply List.mem_append_left
  apply List.mem_append_left
  exact List.mem_map_of_mem member

theorem leafInput_mem_builderInputs {nodes : List TreeNode} {node : TreeNode}
    (member : node ∈ nodes) :
    leafInput (node.hash sha256) ∈ builderInputs sha256 nodes := by
  apply List.mem_append_left
  apply List.mem_append_right
  exact List.mem_map_of_mem member

theorem pairInput_mem_builderInputs {nodes : List TreeNode} {pair : Hash × Hash}
    (member : pair ∈ treePairs (hashPair sha256) (nodeLeaves sha256 nodes)) :
    pairInput pair ∈ builderInputs sha256 nodes := by
  apply List.mem_append_right
  exact List.mem_map_of_mem member

theorem TreeNode.hash_eq (sha256 : Bytes → Hash) (node : TreeNode) :
    node.hash sha256 =
      sha256 (nodeInput node.claimant node.amount node.lockedAmount) := by
  simp [TreeNode.hash, hashv, nodeInput]

/-- The root of a tree is grown from the leaves over its nodes' digests. -/
theorem nodeRoot_grown {nodes : List TreeNode} {digest : Hash}
    {inputs : List Bytes} (used : builderInputs sha256 nodes ⊆ inputs)
    (top : nodeRoot sha256 nodes = some digest) :
    Grown (hashLeafNode sha256) (hashPair sha256)
      {node | ∃ source ∈ nodes, source.hash sha256 = node}
      {pair | pairInput pair ∈ inputs} digest := by
  rw [nodeRoot, combineNodes_sorted] at top
  refine root_grown ?_ ?_ top
  · intro leaf member
    obtain ⟨i, atIndex⟩ := List.mem_iff_getElem?.mp member
    rw [nodeLeaves_getElem?, Option.map_eq_some_iff] at atIndex
    obtain ⟨node, present, rfl⟩ := atIndex
    rw [claimLeaf_eq, ← TreeNode.hash_eq sha256 node]
    exact .leaf ⟨node, List.mem_of_getElem? present, rfl⟩
  · intro pair member
    exact used (pairInput_mem_builderInputs member)

/-- No proof of any length makes a claim acceptable under the root of a tree
unless the tree has a node with exactly the claim's data. -/
theorem builtTree_sound {nodes : List TreeNode} {digest : Hash}
    {inputs : List Bytes} (noCollision : NoCollision sha256 inputs)
    (used : builderInputs sha256 nodes ⊆ inputs)
    (top : nodeRoot sha256 nodes = some digest)
    {claimant : Pubkey} {amountUnlocked amountLocked : U64} {proof : List Hash}
    (claimUsed :
      claimInputs sha256 claimant amountUnlocked amountLocked proof ⊆ inputs)
    (accepted : verify sha256 proof digest
      (claimLeaf sha256 claimant amountUnlocked amountLocked) = true) :
    ∃ node ∈ nodes, node.claimant = claimant ∧
      node.amount = amountUnlocked ∧ node.lockedAmount = amountLocked := by
  have nodesUsed : ∀ digest ∈ {digest | ∃ source ∈ nodes,
      source.hash sha256 = digest}, leafInput digest ∈ inputs := by
    rintro _ ⟨node, member, rfl⟩
    exact used (leafInput_mem_builderInputs member)
  obtain ⟨node, member, sameHash⟩ :=
    claimLeaf_sound noCollision nodesUsed (nodeRoot_grown used top) claimUsed
      accepted
  rw [TreeNode.hash_eq] at sameHash
  have sameInput := noCollision _ (used (nodeInput_mem_builderInputs member)) _
    (claimUsed (by simp [claimInputs])) sameHash
  exact ⟨node, member, nodeInput_inj sameInput⟩

end Sound

/-! ## A small tree -/

section Sample

/-- Two recipients. -/
def alice : Pubkey := .replicate 9

@[inherit_doc alice]
def bob : Pubkey := .replicate 10

/-- SHA-256 on every input that the trees over `sampleNodes` and `unlockedNodes` hash,
and zero elsewhere. -/
def sampleSha256 (input : Bytes) : Hash :=
  let aliceNode : Hash := .ofNat
    0x0da9ed72863e95eecac8f815c866924992cb2e52de2bb55ac8b0473b74574852
  let bobNode : Hash := .ofNat
    0x86f3937b793d118a7ed39e32c8bdb4eac0368cc249e8b11c33f048f8060e37e3
  let aliceLeaf : Hash := .ofNat
    0x76b5631520fcd037fa30e9eebec7772790db1547f9f753d7cb97dc6b566eb9eb
  let bobLeaf : Hash := .ofNat
    0x541bcd624879566c509d27cb94b884c1af1eae9b135d8e083255f610b02616a8
  let unlockedNode : Hash := .ofNat
    0x1b97be1731af19fa9bafbe2b465dd2426cdc23c88b44c4f50625b1b7ca44acf9
  let unlockedLeaf : Hash := .ofNat
    0xb72364cc65318d5da2ed487dc0fdba8d936d9b5b6ab4ec940203792389eeeecd
  if input = nodeInput alice 120 50 then aliceNode
  else if input = nodeInput bob 30 0 then bobNode
  else if input = leafInput aliceNode then aliceLeaf
  else if input = leafInput bobNode then bobLeaf
  else if input = pairInput (bobLeaf, aliceLeaf) then
    .ofNat 0xf7ee42d8dca9251e9a8b541fb631815e4f6600eac9af2e9b97d7a6ff944b01be
  else if input = nodeInput alice 20 0 then unlockedNode
  else if input = leafInput unlockedNode then unlockedLeaf
  else if input = pairInput (bobLeaf, unlockedLeaf) then
    .ofNat 0x3b48b475345093f2e82c0e0d0e8b74e5883193152df0b33bad3558aa4184c447
  else .ofNat 0

/-- Three rows, two of them for one recipient. -/
def sampleNodes : List TreeNode :=
  [{ claimant := alice, amount := 100, lockedAmount := 50, proof := none },
   { claimant := bob, amount := 30, lockedAmount := 0, proof := none },
   { claimant := alice, amount := 20, lockedAmount := 0, proof := none }]

/-- The tree that `AirdropMerkleTree::new` builds from `sampleNodes`. -/
def sampleTree : AirdropMerkleTree :=
  { merkleRoot := .ofNat
      0xf7ee42d8dca9251e9a8b541fb631815e4f6600eac9af2e9b97d7a6ff944b01be
    airdropVersion := 0
    maxNumNodes := 2
    totalUnlockedAmount := 150
    totalLockedAmount := 50
    treeNodes :=
      [{ claimant := alice, amount := 120, lockedAmount := 50
         proof := some [.ofNat
          0x541bcd624879566c509d27cb94b884c1af1eae9b135d8e083255f610b02616a8] },
       { claimant := bob, amount := 30, lockedAmount := 0
         proof := some [.ofNat
          0x76b5631520fcd037fa30e9eebec7772790db1547f9f753d7cb97dc6b566eb9eb] }] }

theorem sampleTree_built :
    AirdropMerkleTree.new sampleSha256 sampleNodes 0 = .ok sampleTree := by
  decide +kernel

/-- Two rows that lock nothing. -/
def unlockedNodes : List TreeNode :=
  [{ claimant := alice, amount := 20, lockedAmount := 0, proof := none },
   { claimant := bob, amount := 30, lockedAmount := 0, proof := none }]

/-- Alice's node of `unlockedTree`. -/
def aliceUnlocked : TreeNode :=
  { claimant := alice, amount := 20, lockedAmount := 0
    proof := some [.ofNat
      0x541bcd624879566c509d27cb94b884c1af1eae9b135d8e083255f610b02616a8] }

/-- Bob's node of `unlockedTree`. -/
def bobUnlocked : TreeNode :=
  { claimant := bob, amount := 30, lockedAmount := 0
    proof := some [.ofNat
      0xb72364cc65318d5da2ed487dc0fdba8d936d9b5b6ab4ec940203792389eeeecd] }

/-- The tree that `AirdropMerkleTree::new` builds from `unlockedNodes`. -/
def unlockedTree : AirdropMerkleTree :=
  { merkleRoot := .ofNat
      0x3b48b475345093f2e82c0e0d0e8b74e5883193152df0b33bad3558aa4184c447
    airdropVersion := 0
    maxNumNodes := 2
    totalUnlockedAmount := 50
    totalLockedAmount := 0
    treeNodes := [aliceUnlocked, bobUnlocked] }

example : AirdropMerkleTree.new sampleSha256 unlockedNodes 0 = .ok unlockedTree := by
  decide +kernel

end Sample

/-! ## Completeness -/

/-- The merged nodes are as many as the distinct claimants. -/
theorem merged_length {treeNodes merged : List TreeNode}
    (done : (treeNodes.foldlM mergeTreeNode [] :
      Except (Stop MerkleTreeError) _) = .ok merged) :
    merged.length = (treeNodes.map TreeNode.claimant).dedup.length := by
  obtain ⟨distinct, members, _⟩ :=
    mergeTreeNodes_ok (by exact List.nodup_nil) done
  have same : (merged.map TreeNode.claimant).Perm
      (treeNodes.map TreeNode.claimant).dedup := by
    rw [List.perm_ext_iff_of_nodup distinct (List.nodup_dedup _)]
    intro claimant
    rw [members, List.mem_dedup]
    simp
  rw [← same.length_eq, List.length_map]

/-- The builder succeeds exactly where there are rows, for fewer than `2 ^ 32`
claimants, and both totals fit.  That a claimant's own sums fit follows from the
totals. -/
theorem exists_new_iff {sha256 : Bytes → Hash} {treeNodes : List TreeNode}
    {airdropVersion : U64} :
    (∃ tree, AirdropMerkleTree.new sha256 treeNodes airdropVersion = .ok tree) ↔
      treeNodes ≠ [] ∧ (treeNodes.map TreeNode.claimant).dedup.length < 2 ^ 32 ∧
        ∀ locked, totalSum locked treeNodes < 2 ^ 64 := by
  constructor
  · rintro ⟨tree, built⟩
    obtain ⟨merged, done, few, _, _, unlocked, locked, top, _⟩ :=
      AirdropMerkleTree.new_eq_ok.mp built
    obtain ⟨_, _, totals, _⟩ := mergeTreeNodes_ok (by exact List.nodup_nil) done
    refine ⟨?_, ?_, ?_⟩
    · rintro rfl
      cases done
      have none : nodeLeaves sha256 [] = [] := rfl
      rw [nodeRoot, none, root, if_neg (by decide)] at top
      cases top
    · rw [← merged_length done]
      omega
    · rintro (_ | _)
      · rw [← Nat.zero_add (totalSum false treeNodes), ← totalSum_nil false, ← totals,
          ← unlocked]
        exact tree.totalUnlockedAmount.isLt
      · rw [← Nat.zero_add (totalSum true treeNodes), ← totalSum_nil true, ← totals,
          ← locked]
        exact tree.totalLockedAmount.isLt
  · rintro ⟨nonempty, few, totalsFit⟩
    have claimantsFit (locked : Bool) (claimant : Pubkey) :
        claimantSum locked claimant [] + claimantSum locked claimant treeNodes <
          2 ^ 64 := by
      have bound := claimantSum_le_totalSum locked claimant treeNodes
      have total := totalsFit locked
      rw [claimantSum_nil]
      omega
    obtain ⟨merged, done⟩ := exists_mergeTreeNodes MerkleTreeError claimantsFit
    obtain ⟨distinct, members, totals, _⟩ :=
      mergeTreeNodes_ok (by exact List.nodup_nil) done
    have length := merged_length done
    have mergedNonempty : merged ≠ [] := by
      rintro rfl
      rw [List.length_nil, eq_comm, List.length_eq_zero_iff] at length
      rw [List.dedup_eq_nil, List.map_eq_nil_iff] at length
      exact nonempty length
    obtain ⟨digest, top⟩ : ∃ digest, nodeRoot sha256 merged = some digest :=
      exists_nodeRoot mergedNonempty
    simp only [totalSum_nil, Nat.zero_add] at totals
    let tree : AirdropMerkleTree :=
      { merkleRoot := digest
        airdropVersion
        maxNumNodes := BitVec.ofNat 64 merged.length
        totalUnlockedAmount := BitVec.ofNat 64 (totalSum false merged)
        totalLockedAmount := BitVec.ofNat 64 (totalSum true merged)
        treeNodes := provedNodes sha256 merged }
    have fits (locked : Bool) :
        (BitVec.ofNat 64 (totalSum locked merged)).toNat = totalSum locked merged := by
      rw [BitVec.toNat_ofNat, totals, Nat.mod_eq_of_lt (totalsFit locked)]
    have count : tree.maxNumNodes.toNat = merged.length := by
      change (BitVec.ofNat 64 merged.length).toNat = merged.length
      rw [BitVec.toNat_ofNat]
      omega
    exact ⟨tree, AirdropMerkleTree.new_eq_ok.mpr ⟨merged, done, by omega, rfl, count,
      fits false, fits true, top, rfl⟩⟩

/-- Completeness: the builder succeeds wherever the sums fit, and every node of
its tree carries a proof that the on-chain check accepts.  The hash function is
arbitrary. -/
theorem newTree_complete (sha256 : Bytes → Hash) {treeNodes : List TreeNode}
    (airdropVersion : U64) (nonempty : treeNodes ≠ [])
    (few : (treeNodes.map TreeNode.claimant).dedup.length < 2 ^ 32)
    (totalsFit : ∀ locked, totalSum locked treeNodes < 2 ^ 64) :
    ∃ tree,
      AirdropMerkleTree.new sha256 treeNodes airdropVersion = .ok tree ∧
      ∀ node ∈ tree.treeNodes, ∃ proof, node.proof = some proof ∧
        verify sha256 proof tree.merkleRoot
          (claimLeaf sha256 node.claimant node.amount node.lockedAmount) =
            true := by
  obtain ⟨tree, built⟩ := exists_new_iff.mpr ⟨nonempty, few, totalsFit⟩
  exact ⟨tree, built, (builtFrom_of_new built).proofs⟩

theorem newTree_complete_sample :
    ∃ tree,
      AirdropMerkleTree.new sampleSha256 sampleNodes 0 = .ok tree ∧
      ∀ node ∈ tree.treeNodes, ∃ proof, node.proof = some proof ∧
        verify sampleSha256 proof tree.merkleRoot
          (claimLeaf sampleSha256 node.claimant node.amount
            node.lockedAmount) = true := by
  apply newTree_complete sampleSha256 0
  · decide
  · decide
  · decide

/-! ## Soundness -/

/-- Soundness: whatever amounts and whatever proof a claimant sends, an accepted
check means that the built tree has a node with exactly these data. -/
theorem newTree_sound {sha256 : Bytes → Hash} {treeNodes : List TreeNode}
    {airdropVersion : U64} {tree : AirdropMerkleTree}
    (built : AirdropMerkleTree.new sha256 treeNodes airdropVersion = .ok tree)
    (claimant : Pubkey) (amountUnlocked amountLocked : U64) (proof : List Hash)
    (noCollision : NoCollision sha256
      (builderInputs sha256 tree.treeNodes ++
        claimInputs sha256 claimant amountUnlocked amountLocked proof))
    (accepted : verify sha256 proof tree.merkleRoot
      (claimLeaf sha256 claimant amountUnlocked amountLocked) = true) :
    ∃ node ∈ tree.treeNodes, node.claimant = claimant ∧
      node.amount = amountUnlocked ∧ node.lockedAmount = amountLocked := by
  exact builtTree_sound noCollision (List.subset_append_left _ _)
    (builtFrom_of_new built).top (List.subset_append_right _ _) accepted

theorem newTree_sound_sample :
    ∃ node ∈ sampleTree.treeNodes, node.claimant = alice ∧
      node.amount = 120 ∧ node.lockedAmount = 50 := by
  apply newTree_sound sampleTree_built alice 120 50
    [.ofNat 0x541bcd624879566c509d27cb94b884c1af1eae9b135d8e083255f610b02616a8]
  · decide +kernel
  · decide +kernel

end Airdrop
