/-
Module: Airdrop.MerkleTree.AirdropMerkleTree
Purpose: The off-chain airdrop tree: `tree_node.rs`, `airdrop_merkle_tree.rs`
  and the totals of `utils.rs`, from merging duplicate claimants to the tree's
  own validation.
Trusted boundary: file and JSON access are left out
Main exports: TreeNode, AirdropMerkleTree, AirdropMerkleTree.new,
  AirdropMerkleTree.validate
-/
import Airdrop.MerkleTree.Tree
import Mathlib.Data.List.Dedup

namespace Airdrop

open Checked

structure TreeNode where
  claimant : Pubkey
  amount : U64
  lockedAmount : U64
  proof : Option (List Hash)
deriving DecidableEq

/-- `TreeNode::hash` -/
def TreeNode.hash (sha256 : Bytes → Hash) (node : TreeNode) : Hash :=
  hashv sha256
    [node.claimant.toBytes, toLeBytes node.amount, toLeBytes node.lockedAmount]

/-- The errors of `error.rs` that building and validating a tree can return. -/
inductive MerkleTreeError where
  | merkleValidationError (message : String)
  | merkleRootError
deriving DecidableEq

structure AirdropMerkleTree where
  merkleRoot : Hash
  airdropVersion : U64
  maxNumNodes : U64
  totalUnlockedAmount : U64
  totalLockedAmount : U64
  treeNodes : List TreeNode
deriving DecidableEq

/-- `get_total_unlocked_amount`, which panics on overflow. -/
def getTotalUnlockedAmount {ε : Type} (nodes : List TreeNode) :
    Except (Stop ε) U64 :=
  unwrap (nodes.foldlM (fun acc n => checkedAdd acc n.amount) 0)

/-- `get_total_locked_amount`, which panics on overflow. -/
def getTotalLockedAmount {ε : Type} (nodes : List TreeNode) :
    Except (Stop ε) U64 :=
  unwrap (nodes.foldlM (fun acc n => checkedAdd acc n.lockedAmount) 0)

/-- `entry(claimant).and_modify(..).or_insert(..)` on the `IndexMap` of
`AirdropMerkleTree::new`: add to the claimant's node where there is one, else
append a node. -/
def mergeTreeNode {ε : Type} :
    List TreeNode → TreeNode → Except (Stop ε) (List TreeNode)
  | [], treeNode => pure [treeNode]
  | n :: rest, treeNode =>
      if n.claimant = treeNode.claimant then do
        let amount ← unwrap (checkedAdd n.amount treeNode.amount)
        let lockedAmount ←
          unwrap (checkedAdd n.lockedAmount treeNode.lockedAmount)
        pure ({ n with amount, lockedAmount } :: rest)
      else do
        let rest ← mergeTreeNode rest treeNode
        pure (n :: rest)

namespace AirdropMerkleTree

/-- `AirdropMerkleTree::get_max_total_claim` -/
def getMaxTotalClaim {ε : Type} (self : AirdropMerkleTree) :
    Except (Stop ε) U64 :=
  unwrap (checkedAdd self.totalUnlockedAmount self.totalLockedAmount)

/-- `AirdropMerkleTree::get_node`, which panics where there is no node. -/
def getNode {ε : Type} (self : AirdropMerkleTree) (claimant : Pubkey) :
    Except (Stop ε) TreeNode :=
  unwrap (self.treeNodes.find? fun i => i.claimant = claimant)

/-- `AirdropMerkleTree::verify_proof` -/
def verifyProof (sha256 : Bytes → Hash) (self : AirdropMerkleTree) :
    Except (Stop MerkleTreeError) Unit := do
  let root := self.merkleRoot
  let invalid := Stop.err (.merkleValidationError "invalid merkle proof")
  -- Recreate root given nodes.
  let hashedNodes := self.treeNodes.map fun n => (n.hash sha256).toBytes
  let mk ← MerkleTree.new sha256 hashedNodes true
  let mkRoot ← okOr mk.getRoot invalid
  require (mkRoot = root) .panic
  -- Verify each node against the root.
  hashedNodes.zipIdx.forM fun (hashedNode, i) => do
    let node := hashv sha256 [leafPrefix, hashedNode]
    let proof ← getProof mk i
    require (verify sha256 proof root node) invalid

/-- `AirdropMerkleTree::validate` -/
def validate (sha256 : Bytes → Hash) (self : AirdropMerkleTree) :
    Except (Stop MerkleTreeError) Unit := do
  let reject (message : String) : Stop MerkleTreeError :=
    .err (.merkleValidationError message)
  require (self.maxNumNodes.toNat ≤ 2 ^ 32 - 1)
    (reject ("Max num nodes " ++ toString self.maxNumNodes.toNat ++
      " is greater than 2^32 - 1"))
  require (self.treeNodes.length = self.maxNumNodes.toNat)
    (reject ("Tree nodes length " ++ toString self.treeNodes.length ++
      " does not match max_num_nodes " ++ toString self.maxNumNodes.toNat))
  let uniqueNodes := (self.treeNodes.map TreeNode.claimant).dedup
  require (uniqueNodes.length = self.treeNodes.length)
    (reject "Duplicate claimants found")
  let totalUnlockedAmount ← getTotalUnlockedAmount self.treeNodes
  require (totalUnlockedAmount = self.totalUnlockedAmount)
    (reject ("Tree nodes total_unlocked_amount " ++
      toString totalUnlockedAmount.toNat ++ " does not match " ++
      toString self.totalUnlockedAmount.toNat))
  let totalLockedAmount ← getTotalLockedAmount self.treeNodes
  require (totalLockedAmount = self.totalLockedAmount)
    (reject ("Tree nodes total_locked_amount " ++
      toString totalLockedAmount.toNat ++ " does not match " ++
      toString self.totalLockedAmount.toNat))
  replaceErr (self.verifyProof sha256)
    (.merkleValidationError "Merkle root is invalid given nodes")

/-- `AirdropMerkleTree::new` -/
def new (sha256 : Bytes → Hash) (treeNodes : List TreeNode)
    (airdropVersion : U64) :
    Except (Stop MerkleTreeError) AirdropMerkleTree := do
  -- Combine tree nodes with the same claimant, while retaining original order.
  let treeNodes ← treeNodes.foldlM mergeTreeNode []
  let hashedNodes := treeNodes.map fun claimInfo =>
    (claimInfo.hash sha256).toBytes
  let tree ← MerkleTree.new sha256 hashedNodes true
  let treeNodes ← treeNodes.zipIdx.mapM fun (treeNode, i) => do
    let proof ← getProof tree i
    pure { treeNode with proof := some proof }
  let totalUnlockedAmount ← getTotalUnlockedAmount treeNodes
  let totalLockedAmount ← getTotalLockedAmount treeNodes
  let merkleRoot ← okOr tree.getRoot (.err .merkleRootError)
  let tree : AirdropMerkleTree :=
    { merkleRoot, airdropVersion, maxNumNodes := BitVec.ofNat 64 treeNodes.length,
      totalUnlockedAmount, totalLockedAmount, treeNodes }
  tree.validate sha256
  pure tree

end AirdropMerkleTree

end Airdrop
