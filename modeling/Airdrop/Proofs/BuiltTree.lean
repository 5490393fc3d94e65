/-
Module: Airdrop.Proofs.BuiltTree
Purpose: When `AirdropMerkleTree::new` succeeds and what it returns, in terms of
  the merged nodes and the hash tree over them; the tree's own validation
  accepts exactly the trees whose fields agree with their nodes.
Trusted boundary: none
Main exports: nodeLeaves, provedNodes, verify_path, AirdropMerkleTree.validate_eq_ok,
  AirdropMerkleTree.new_eq_ok, BuiltFrom, builtFrom_of_new
-/
import Airdrop.Proofs.MergedNodes
import Airdrop.Proofs.TreeRefinement

namespace Airdrop

open Checked HashTree

section BuiltTree

variable (sha256 : Bytes → Hash)

/-- The bytes of a node's digest, which are the items of the tree. -/
def hashedNodes (nodes : List TreeNode) : List Bytes :=
  nodes.map fun node => (node.hash sha256).toBytes

/-- The leaves of the tree over some nodes. -/
def nodeLeaves (nodes : List TreeNode) : List Hash :=
  leavesOf sha256 (hashedNodes sha256 nodes)

/-- The root of the tree over some nodes. -/
def nodeRoot (nodes : List TreeNode) : Option Hash :=
  root (combineNodes sha256 true) (nodeLeaves sha256 nodes)

/-- The proof of node `i`. -/
def nodePath (nodes : List TreeNode) (i : Nat) : List Hash :=
  path (combineNodes sha256 true) (nodeLeaves sha256 nodes) i

/-- The nodes with their proofs stored. -/
def provedNodes (nodes : List TreeNode) : List TreeNode :=
  nodes.zipIdx.map fun (node, i) =>
    { node with proof := some (nodePath sha256 nodes i) }

variable {sha256}

@[simp] theorem hashedNodes_length (nodes : List TreeNode) :
    (hashedNodes sha256 nodes).length = nodes.length := List.length_map _

theorem hashedNodes_getElem? (nodes : List TreeNode) (i : Nat) :
    (hashedNodes sha256 nodes)[i]? =
      nodes[i]?.map fun node => (node.hash sha256).toBytes :=
  List.getElem?_map

/-- Leaf `i` is the leaf that a claim with the data of node `i` is checked
against. -/
theorem nodeLeaves_getElem? (nodes : List TreeNode) (i : Nat) :
    (nodeLeaves sha256 nodes)[i]? =
      nodes[i]?.map fun node =>
        claimLeaf sha256 node.claimant node.amount node.lockedAmount := by
  rw [nodeLeaves, leavesOf, List.getElem?_map, hashedNodes_getElem?,
    Option.map_map]
  rfl

@[simp] theorem nodeLeaves_length (nodes : List TreeNode) :
    (nodeLeaves sha256 nodes).length = nodes.length := by
  simp [nodeLeaves]

/-- Whatever does not read the proofs is the same for the stored nodes. -/
theorem map_provedNodes {α : Type*} (field : TreeNode → α)
    (keeps : ∀ node proof, field { node with proof := proof } = field node)
    (nodes : List TreeNode) :
    (provedNodes sha256 nodes).map field = nodes.map field := by
  have same :
      field ∘ (fun entry : TreeNode × Nat =>
        { entry.1 with proof := some (nodePath sha256 nodes entry.2) }) =
          field ∘ Prod.fst := by
    funext entry
    exact keeps entry.1 _
  rw [provedNodes, List.map_map, same, ← List.map_map, List.zipIdx_map_fst]

@[simp] theorem totalSum_provedNodes (locked : Bool) (nodes : List TreeNode) :
    totalSum locked (provedNodes sha256 nodes) = totalSum locked nodes :=
  congrArg List.sum (map_provedNodes _ (fun _ _ => rfl) nodes)

@[simp] theorem claimantSum_provedNodes (locked : Bool) (claimant : Pubkey)
    (nodes : List TreeNode) :
    claimantSum locked claimant (provedNodes sha256 nodes) =
      claimantSum locked claimant nodes :=
  congrArg List.sum (map_provedNodes _ (fun _ _ => rfl) nodes)

@[simp] theorem hashedNodes_provedNodes (nodes : List TreeNode) :
    hashedNodes sha256 (provedNodes sha256 nodes) = hashedNodes sha256 nodes :=
  map_provedNodes _ (fun _ _ => rfl) nodes

@[simp] theorem nodeRoot_provedNodes (nodes : List TreeNode) :
    nodeRoot sha256 (provedNodes sha256 nodes) = nodeRoot sha256 nodes := by
  simp [nodeRoot, nodeLeaves]

@[simp] theorem provedNodes_length (nodes : List TreeNode) :
    (provedNodes sha256 nodes).length = nodes.length := by
  simp [provedNodes]

theorem provedNodes_getElem? (nodes : List TreeNode) (i : Nat) :
    (provedNodes sha256 nodes)[i]? =
      nodes[i]?.map fun node =>
        { node with proof := some (nodePath sha256 nodes i) } := by
  simp [provedNodes, List.getElem?_zipIdx, Function.comp_def]

/-- The root exists exactly where there are nodes. -/
theorem exists_nodeRoot {nodes : List TreeNode} (nonempty : nodes ≠ []) :
    ∃ digest, nodeRoot sha256 nodes = some digest := by
  apply root_isSome
  intro empty
  apply nonempty
  rw [← List.length_eq_zero_iff, ← nodeLeaves_length nodes, empty,
    List.length_nil]

/-- The path of a node is a proof of its leaf. -/
theorem verify_path {nodes : List TreeNode} {i : Nat} {node : TreeNode}
    (present : nodes[i]? = some node) {digest : Hash}
    (top : nodeRoot sha256 nodes = some digest) :
    verify sha256 (nodePath sha256 nodes i) digest
      (claimLeaf sha256 node.claimant node.amount node.lockedAmount) = true := by
  have leaf : (nodeLeaves sha256 nodes)[i]? =
      some (claimLeaf sha256 node.claimant node.amount node.lockedAmount) := by
    rw [nodeLeaves_getElem?, present]
    rfl
  rw [nodeRoot, combineNodes_sorted] at top
  rw [verify_iff_foldl, nodePath, combineNodes_sorted]
  have folded :=
    foldl_path (combineSorted (hashPair sha256)) (combineSorted_comm _) leaf
  rw [top] at folded
  exact (Option.some.inj folded).symm

end BuiltTree

/-! ## The tree's own validation -/

namespace AirdropMerkleTree

variable {sha256 : Bytes → Hash}

/-- `verify_proof` accepts exactly the root of the stored nodes: once the root
is right, no recomputed proof is ever rejected. -/
theorem verifyProof_eq_ok {self : AirdropMerkleTree} :
    self.verifyProof sha256 = .ok () ↔
      nodeRoot sha256 self.treeNodes = some self.merkleRoot := by
  have built := MerkleTree.new_eq (Stop MerkleTreeError) sha256 true
    (hashedNodes sha256 self.treeNodes)
  have inner := MerkleTree.new_eq MerkleTreeError sha256 true
    (hashedNodes sha256 self.treeNodes)
  obtain ⟨mk, made⟩ : ∃ mk,
      (MerkleTree.new sha256 (hashedNodes sha256 self.treeNodes) true :
        Except (Stop MerkleTreeError) MerkleTree) = .ok mk := ⟨_, inner⟩
  have top := MerkleTree.getRoot_of_new MerkleTreeError sha256 true made
  unfold verifyProof
  change (MerkleTree.new sha256 (hashedNodes sha256 self.treeNodes) true >>=
    _) = _ ↔ _
  rw [made, ok_bind]
  simp only [bind_eq_ok, okOr_eq_ok, require_eq_ok, top]
  change (∃ digest, nodeRoot sha256 self.treeNodes = some digest ∧ _) ↔ _
  constructor
  · rintro ⟨digest, isRoot, _, same, _⟩
    rw [isRoot, same]
  · intro isRoot
    refine ⟨self.merkleRoot, isRoot, (), rfl, ?_⟩
    rw [forM_eq_ok]
    rintro ⟨hashedNode, i⟩ member
    have atIndex : (hashedNodes sha256 self.treeNodes)[i]? = some hashedNode :=
      List.mk_mem_zipIdx_iff_getElem?.mp member
    have inside : i < (hashedNodes sha256 self.treeNodes).length :=
      (List.getElem?_eq_some_iff.mp atIndex).1
    rw [hashedNodes_getElem?, Option.map_eq_some_iff] at atIndex
    obtain ⟨node, present, rfl⟩ := atIndex
    rw [getProof_of_new MerkleTreeError made inside, ok_bind]
    exact require_of (verify_path present isRoot)

theorem dedup_length_eq_iff {nodes : List TreeNode} :
    (nodes.map TreeNode.claimant).dedup.length = nodes.length ↔
      (nodes.map TreeNode.claimant).Nodup := by
  have width : (nodes.map TreeNode.claimant).length = nodes.length :=
    List.length_map _
  constructor
  · intro same
    exact List.dedup_eq_self.mp
      ((List.dedup_sublist _).eq_of_length (same.trans width.symm))
  · intro distinct
    rw [List.dedup_eq_self.mpr distinct, width]

/-- `validate` accepts exactly the trees whose counts, totals and root agree with
their nodes.  The proofs stored in the nodes are not looked at. -/
theorem validate_eq_ok {self : AirdropMerkleTree} :
    self.validate sha256 = .ok () ↔
      self.maxNumNodes.toNat ≤ 2 ^ 32 - 1 ∧
      self.treeNodes.length = self.maxNumNodes.toNat ∧
      (self.treeNodes.map TreeNode.claimant).Nodup ∧
      self.totalUnlockedAmount.toNat = totalSum false self.treeNodes ∧
      self.totalLockedAmount.toNat = totalSum true self.treeNodes ∧
      nodeRoot sha256 self.treeNodes = some self.merkleRoot := by
  unfold validate
  simp only [bind_eq_ok, require_eq_ok, getTotalUnlockedAmount_eq_ok,
    getTotalLockedAmount_eq_ok, dedup_length_eq_iff, replaceErr_eq_ok,
    verifyProof_eq_ok]
  constructor
  · rintro ⟨_, few, _, counted, _, distinct, total, isTotal, _, rfl, lockedTotal,
      isLocked, _, rfl, isRoot⟩
    exact ⟨few, counted, distinct, isTotal, isLocked, isRoot⟩
  · rintro ⟨few, counted, distinct, isTotal, isLocked, isRoot⟩
    exact ⟨(), few, (), counted, (), distinct, _, isTotal, (), rfl, _, isLocked,
      (), rfl, isRoot⟩

/-! ## Building -/

/-- The loop of `AirdropMerkleTree::new` stores each node's path. -/
theorem storeProofs_eq {nodes : List TreeNode} {mk : MerkleTree}
    (made : (MerkleTree.new sha256 (hashedNodes sha256 nodes) true :
      Except (Stop MerkleTreeError) MerkleTree) = .ok mk) :
    (nodes.zipIdx.mapM fun (treeNode, i) => do
      let proof ← getProof mk i
      pure { treeNode with proof := some proof } :
        Except (Stop MerkleTreeError) (List TreeNode)) =
      .ok (provedNodes sha256 nodes) := by
  apply mapM_eq_ok_map
  rintro ⟨node, i⟩ member
  have inside : i < nodes.length :=
    (List.getElem?_eq_some_iff.mp (List.mk_mem_zipIdx_iff_getElem?.mp member)).1
  simp only [getProof_of_new MerkleTreeError made
    ((hashedNodes_length nodes).symm ▸ inside)]
  rfl

/-- Of the tree that `AirdropMerkleTree::new` puts together, `validate` can only
reject the number of nodes, the totals and the root. -/
theorem validate_provedNodes_eq_ok {nodes : List TreeNode}
    {airdropVersion unlocked locked : U64} {digest : Hash}
    (distinct : (nodes.map TreeNode.claimant).Nodup) :
    ({ merkleRoot := digest, airdropVersion,
       maxNumNodes := BitVec.ofNat 64 (provedNodes sha256 nodes).length,
       totalUnlockedAmount := unlocked, totalLockedAmount := locked,
       treeNodes := provedNodes sha256 nodes } :
      AirdropMerkleTree).validate sha256 = .ok () ↔
      nodes.length ≤ 2 ^ 32 - 1 ∧ unlocked.toNat = totalSum false nodes ∧
        locked.toNat = totalSum true nodes ∧
        nodeRoot sha256 nodes = some digest := by
  rw [validate_eq_ok]
  simp only [provedNodes_length, BitVec.toNat_ofNat, totalSum_provedNodes,
    nodeRoot_provedNodes, map_provedNodes TreeNode.claimant (fun _ _ => rfl)]
  constructor
  · rintro ⟨few, counted, _, rest⟩
    exact ⟨by omega, rest⟩
  · rintro ⟨few, rest⟩
    exact ⟨by omega, by omega, distinct, rest⟩

/-- `AirdropMerkleTree::new` returns exactly the merged nodes with their proofs,
their count, totals and root, and it returns at all exactly where the merging
and the totals do not overflow and the number of nodes is between 1 and
`2 ^ 32 - 1`. -/
theorem new_eq_ok {treeNodes : List TreeNode} {airdropVersion : U64}
    {tree : AirdropMerkleTree} :
    AirdropMerkleTree.new sha256 treeNodes airdropVersion = .ok tree ↔
      ∃ merged,
        (treeNodes.foldlM mergeTreeNode [] :
          Except (Stop MerkleTreeError) _) = .ok merged ∧
        merged.length ≤ 2 ^ 32 - 1 ∧
        tree.airdropVersion = airdropVersion ∧
        tree.maxNumNodes.toNat = merged.length ∧
        tree.totalUnlockedAmount.toNat = totalSum false merged ∧
        tree.totalLockedAmount.toNat = totalSum true merged ∧
        nodeRoot sha256 merged = some tree.merkleRoot ∧
        tree.treeNodes = provedNodes sha256 merged := by
  have noClaimants : (([] : List TreeNode).map TreeNode.claimant).Nodup :=
    List.nodup_nil
  unfold AirdropMerkleTree.new
  simp only [bind_eq_ok]
  constructor
  · rintro ⟨merged, done, mk, made, nodes, stored, unlocked, isUnlocked, locked,
      isLocked, digest, isRoot, _, valid, result⟩
    change MerkleTree.new sha256 (hashedNodes sha256 merged) true = _ at made
    rw [storeProofs_eq made, Except.ok.injEq] at stored
    subst stored
    obtain ⟨distinct, _⟩ := mergeTreeNodes_ok noClaimants done
    rw [validate_provedNodes_eq_ok distinct] at valid
    rw [pure_eq, Except.ok.injEq] at result
    subst result
    refine ⟨merged, done, valid.1, rfl, ?_, valid.2.1, valid.2.2.1, valid.2.2.2,
      rfl⟩
    have few := valid.1
    simp only [provedNodes_length, BitVec.toNat_ofNat]
    omega
  · rintro ⟨merged, done, few, rfl, counted, isUnlocked, isLocked, isRoot, stored⟩
    obtain ⟨distinct, _⟩ := mergeTreeNodes_ok noClaimants done
    have made := MerkleTree.new_eq MerkleTreeError sha256 true
      (hashedNodes sha256 merged)
    have top := MerkleTree.getRoot_of_new MerkleTreeError sha256 true made
    have count : BitVec.ofNat 64 (provedNodes sha256 merged).length =
        tree.maxNumNodes := by
      rw [← BitVec.toNat_inj, provedNodes_length, BitVec.toNat_ofNat, counted]
      omega
    refine ⟨merged, done, _, made, _, storeProofs_eq made, tree.totalUnlockedAmount, ?_,
      tree.totalLockedAmount, ?_, tree.merkleRoot, ?_, (),
      (validate_provedNodes_eq_ok distinct).mpr ⟨few, isUnlocked, isLocked, isRoot⟩,
      ?_⟩
    · rw [getTotalUnlockedAmount_eq_ok, totalSum_provedNodes, isUnlocked]
    · rw [getTotalLockedAmount_eq_ok, totalSum_provedNodes, isLocked]
    · rw [okOr_eq_ok, top]
      exact isRoot
    · rw [count, ← stored, pure_eq]

end AirdropMerkleTree

/-! ## What a built tree holds -/

/-- The tree stores one node for each claimant of `treeNodes`, with the claimant's
sums and an accepted proof, and its counts and its root are those of its nodes. -/
structure BuiltFrom (sha256 : Bytes → Hash) (treeNodes : List TreeNode)
    (tree : AirdropMerkleTree) : Prop where
  distinct : (tree.treeNodes.map TreeNode.claimant).Nodup
  members : ∀ claimant, claimant ∈ tree.treeNodes.map TreeNode.claimant ↔
    claimant ∈ treeNodes.map TreeNode.claimant
  amounts : ∀ node ∈ tree.treeNodes, ∀ locked,
    (node.amountOf locked).toNat = claimantSum locked node.claimant treeNodes
  nodeCount : tree.maxNumNodes.toNat = tree.treeNodes.length
  totalUnlocked : tree.totalUnlockedAmount.toNat = totalSum false tree.treeNodes
  totalLocked : tree.totalLockedAmount.toNat = totalSum true tree.treeNodes
  top : nodeRoot sha256 tree.treeNodes = some tree.merkleRoot
  proofs : ∀ node ∈ tree.treeNodes, ∃ proof, node.proof = some proof ∧
    verify sha256 proof tree.merkleRoot
      (claimLeaf sha256 node.claimant node.amount node.lockedAmount) = true

theorem builtFrom_of_new {sha256 : Bytes → Hash} {treeNodes : List TreeNode}
    {airdropVersion : U64} {tree : AirdropMerkleTree}
    (built : AirdropMerkleTree.new sha256 treeNodes airdropVersion = .ok tree) :
    BuiltFrom sha256 treeNodes tree := by
  obtain ⟨merged, done, _, _, count, unlocked, locked, top, stored⟩ :=
    AirdropMerkleTree.new_eq_ok.mp built
  obtain ⟨distinct, members, _, sums⟩ :=
    mergeTreeNodes_ok (by exact List.nodup_nil) done
  have claimants : tree.treeNodes.map TreeNode.claimant =
      merged.map TreeNode.claimant := by
    rw [stored, map_provedNodes TreeNode.claimant (fun _ _ => rfl)]
  exact
    { distinct := claimants ▸ distinct
      members := by
        intro claimant
        rw [claimants, members]
        simp
      amounts := by
        intro node member locked
        rw [← claimantSum_of_mem (claimants ▸ distinct) member, stored,
          claimantSum_provedNodes, sums, claimantSum_nil, Nat.zero_add]
      nodeCount := by rw [count, stored, provedNodes_length]
      totalUnlocked := by rw [unlocked, stored, totalSum_provedNodes]
      totalLocked := by rw [locked, stored, totalSum_provedNodes]
      top := by rw [stored, nodeRoot_provedNodes, top]
      proofs := by
        intro node member
        obtain ⟨i, atIndex⟩ := List.mem_iff_getElem?.mp member
        rw [stored, provedNodes_getElem?, Option.map_eq_some_iff] at atIndex
        obtain ⟨source, present, rfl⟩ := atIndex
        exact ⟨nodePath sha256 merged i, rfl, verify_path present top⟩ }

end Airdrop
