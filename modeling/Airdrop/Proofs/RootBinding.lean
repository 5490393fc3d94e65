/-
Module: Airdrop.Proofs.RootBinding
Purpose: The root of a tree binds what the tree grants: without a collision among the inputs
  hashed, two trees with the same root grant the same.
Trusted boundary: none
Main exports: storedProof_used, allocations_subset, allocations_root, root_binds
-/
import Airdrop.Proofs.Allocations

namespace Airdrop

open Checked HashTree

section Binding

variable {sha256 : Bytes → Hash} {rows others : List TreeNode}
variable {version otherVersion : U64} {tree other : AirdropMerkleTree}

/-- The stored proof of a node is checked with inputs that were hashed to build the tree. -/
theorem storedProof_used (built : AirdropMerkleTree.new sha256 rows version = .ok tree)
    {node : TreeNode} (member : node ∈ tree.treeNodes) {proof : List Hash}
    (stored : node.proof = some proof) :
    claimInputs sha256 node.claimant node.amount node.lockedAmount proof ⊆
      builderInputs sha256 tree.treeNodes := by
  obtain ⟨merged, _, _, _, _, _, _, _, nodes⟩ := AirdropMerkleTree.new_eq_ok.mp built
  have sameLeaves : nodeLeaves sha256 tree.treeNodes = nodeLeaves sha256 merged := by
    rw [nodeLeaves, nodeLeaves, nodes, hashedNodes_provedNodes]
  rcases List.mem_iff_getElem?.mp member with ⟨i, atIndex⟩
  have isPath : proof = nodePath sha256 merged i := by
    rw [nodes, provedNodes_getElem?] at atIndex
    rcases Option.map_eq_some_iff.mp atIndex with ⟨source, _, rfl⟩
    exact (Option.some.inj stored).symm
  have isLeaf : (nodeLeaves sha256 tree.treeNodes)[i]? =
      some (hashLeafNode sha256
        (sha256 (nodeInput node.claimant node.amount node.lockedAmount))) := by
    rw [nodeLeaves_getElem?, atIndex, Option.map_some, claimLeaf_eq]
  rw [claimInputs]
  intro input used
  rcases List.mem_cons.mp used with rfl | used
  · exact nodeInput_mem_builderInputs member
  · rcases List.mem_cons.mp used with rfl | used
    · have hashed : leafInput (node.hash sha256) ∈ builderInputs sha256 tree.treeNodes :=
        leafInput_mem_builderInputs member
      rw [TreeNode.hash_eq] at hashed
      exact hashed
    · rcases List.mem_map.mp used with ⟨pair, folded, rfl⟩
      apply pairInput_mem_builderInputs
      apply foldPairs_path (hashPair sha256) isLeaf pair
      rw [sameLeaves, ← combineNodes_sorted]
      rw [isPath, nodePath] at folded
      exact folded

/-- What one of two trees with the same root grants, the other one grants too. -/
theorem allocations_subset
    (built : AirdropMerkleTree.new sha256 rows version = .ok tree)
    (otherBuilt : AirdropMerkleTree.new sha256 others otherVersion = .ok other)
    {inputs : List Bytes} (noCollision : NoCollision sha256 inputs)
    (used : builderInputs sha256 tree.treeNodes ⊆ inputs)
    (otherUsed : builderInputs sha256 other.treeNodes ⊆ inputs)
    (sameRoot : tree.merkleRoot = other.merkleRoot) :
    other.treeNodes.map TreeNode.allocation ⊆ tree.treeNodes.map TreeNode.allocation := by
  intro granted isGranted
  rcases List.mem_map.mp isGranted with ⟨node, member, rfl⟩
  rcases (builtFrom_of_new otherBuilt).proofs node member with ⟨proof, stored, accepted⟩
  have checked := storedProof_used otherBuilt member stored
  rw [← sameRoot] at accepted
  -- the other tree's proof is accepted under the root of this one
  obtain ⟨source, isSource, claimant, amount, lockedAmount⟩ := builtTree_sound noCollision
    used (builtFrom_of_new built).top (List.Subset.trans checked otherUsed) accepted
  have same : source.allocation = node.allocation := by
    rw [TreeNode.allocation, TreeNode.allocation, claimant, amount, lockedAmount]
  rw [← same]
  exact List.mem_map_of_mem isSource

/-- The root is a function of what the nodes grant, in their order. -/
theorem allocations_root
    (built : AirdropMerkleTree.new sha256 rows version = .ok tree)
    (otherBuilt : AirdropMerkleTree.new sha256 others otherVersion = .ok other)
    (same : tree.treeNodes.map TreeNode.allocation =
      other.treeNodes.map TreeNode.allocation) :
    tree.merkleRoot = other.merkleRoot := by
  have hashed (nodes : List TreeNode) : hashedNodes sha256 nodes =
      (nodes.map TreeNode.allocation).map fun granted =>
        (sha256 (nodeInput granted.1 granted.2.1 granted.2.2)).toBytes := by
    rw [hashedNodes, List.map_map]
    apply List.map_congr_left
    intro node _
    exact congrArg Bytes32.toBytes (TreeNode.hash_eq sha256 node)
  have top := (builtFrom_of_new built).top
  have otherTop := (builtFrom_of_new otherBuilt).top
  rw [nodeRoot, nodeLeaves, hashed, same, ← hashed, ← nodeLeaves, ← nodeRoot, otherTop] at top
  exact (Option.some.inj top).symm

/-- Two trees with the same root grant the same to the same claimants, so that their counts
and totals agree too; and trees with different roots differ in what their nodes grant, or in
the order of the nodes. -/
theorem root_binds (built : AirdropMerkleTree.new sha256 rows version = .ok tree)
    (otherBuilt : AirdropMerkleTree.new sha256 others otherVersion = .ok other)
    (noCollision : NoCollision sha256
      (builderInputs sha256 tree.treeNodes ++ builderInputs sha256 other.treeNodes)) :
    (tree.merkleRoot = other.merkleRoot → SameAllocations tree other) ∧
    (tree.merkleRoot ≠ other.merkleRoot →
      tree.treeNodes.map TreeNode.allocation ≠ other.treeNodes.map TreeNode.allocation) := by
  constructor
  · intro sameRoot
    apply SameAllocations.of_perm (builtFrom_of_new built) (builtFrom_of_new otherBuilt)
    rw [List.perm_ext_iff_of_nodup (allocations_nodup (builtFrom_of_new built).distinct)
      (allocations_nodup (builtFrom_of_new otherBuilt).distinct)]
    intro granted
    constructor
    · intro isGranted
      exact allocations_subset otherBuilt built noCollision (List.subset_append_right _ _)
        (List.subset_append_left _ _) sameRoot.symm isGranted
    · intro isGranted
      exact allocations_subset built otherBuilt noCollision (List.subset_append_left _ _)
        (List.subset_append_right _ _) sameRoot isGranted
  · intro otherRoot same
    exact otherRoot (allocations_root built otherBuilt same)

end Binding

section Sample

/-- The same allocation, in another order and without the row that was merged. -/
def reorderedNodes : List TreeNode :=
  [{ claimant := bob, amount := 30, lockedAmount := 0, proof := none },
   { claimant := alice, amount := 120, lockedAmount := 50, proof := none }]

/-- The tree over these rows. -/
def reorderedTree : AirdropMerkleTree :=
  { sampleTree with treeNodes := sampleTree.treeNodes.reverse }

theorem reorderedTree_built :
    AirdropMerkleTree.new sampleSha256 reorderedNodes 0 = .ok reorderedTree := by
  decide +kernel

theorem root_binds_sample : SameAllocations sampleTree reorderedTree := by
  have binds := root_binds sampleTree_built reorderedTree_built (by decide +kernel)
  exact binds.1 rfl

end Sample

end Airdrop
