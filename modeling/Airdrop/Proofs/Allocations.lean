/-
Module: Airdrop.Proofs.Allocations
Purpose: What a tree grants to whom, as a function of the rows it is built from: the order of
  its nodes, their exact sums, and that the order of the rows does not matter for them.
Trusted boundary: none
Main exports: TreeNode.allocation, merged_claimants, MergedFrom, mergedFrom_of_new,
  mem_allocations, SameAllocations, SameAllocations.of_perm, new_merges
-/
import Airdrop.Proofs.MerkleCorrectness

namespace Airdrop

open Checked

/-- What a node grants: the claimant with the two amounts. -/
def TreeNode.allocation (node : TreeNode) : Pubkey × U64 × U64 :=
  (node.claimant, node.amount, node.lockedAmount)

/-! ## The order of the nodes -/

/-- One more element is added at the end, unless it is there already. -/
theorem eraseDups_concat {α : Type*} [BEq α] [LawfulBEq α] [DecidableEq α] (items : List α)
    (item : α) :
    (items ++ [item]).eraseDups =
      if item ∈ items.eraseDups then items.eraseDups else items.eraseDups ++ [item] := by
  rw [List.eraseDups_append]
  by_cases known : item ∈ items
  · rw [if_pos (List.mem_eraseDups.mpr known)]
    simp [List.removeAll, known]
  · rw [if_neg fun among => known (List.mem_eraseDups.mp among)]
    simp [List.removeAll, known, List.eraseDups_cons]

/-- The merged nodes stand in the order in which their claimants first appear. -/
theorem merged_claimants {ε : Type} {nodes merged : List TreeNode}
    (done : (nodes.foldlM mergeTreeNode [] : Except (Stop ε) _) = .ok merged) :
    merged.map TreeNode.claimant = (nodes.map TreeNode.claimant).eraseDups := by
  induction nodes using List.reverseRecOn generalizing merged with
  | nil =>
      cases done
      rfl
  | append_singleton nodes node inductionHypothesis =>
      rw [List.foldlM_append, bind_eq_ok] at done
      obtain ⟨before, earlier, last⟩ := done
      rw [List.foldlM_cons, bind_eq_ok] at last
      obtain ⟨after, inserted, same⟩ := last
      cases same
      rw [(mergeTreeNode_ok inserted).1, inductionHypothesis earlier, List.map_append,
        List.map_singleton, eraseDups_concat]

/-! ## What is granted -/

/-- A tree with these rows: the nodes of their claimants, each once and in the order of
first appearance, with the exact sums of every claimant and of all. -/
structure MergedFrom (rows : List TreeNode) (tree : AirdropMerkleTree) : Prop where
  claimants : tree.treeNodes.map TreeNode.claimant =
    (rows.map TreeNode.claimant).eraseDups
  distinct : (tree.treeNodes.map TreeNode.claimant).Nodup
  amounts : ∀ node ∈ tree.treeNodes,
    node.amount.toNat = claimantSum false node.claimant rows ∧
      node.lockedAmount.toNat = claimantSum true node.claimant rows
  nodeCount : tree.maxNumNodes.toNat = (rows.map TreeNode.claimant).eraseDups.length
  totalUnlocked : tree.totalUnlockedAmount.toNat = totalSum false rows
  totalLocked : tree.totalLockedAmount.toNat = totalSum true rows

section Built

variable {sha256 : Bytes → Hash} {rows : List TreeNode} {version : U64}
variable {tree : AirdropMerkleTree}

theorem mergedFrom_of_new (built : AirdropMerkleTree.new sha256 rows version = .ok tree) :
    MergedFrom rows tree := by
  have isBuilt := builtFrom_of_new built
  obtain ⟨merged, done, _, _, count, unlocked, locked, _, stored⟩ :=
    AirdropMerkleTree.new_eq_ok.mp built
  obtain ⟨_, _, totals, _⟩ := mergeTreeNodes_ok (by exact List.nodup_nil) done
  have claimants : tree.treeNodes.map TreeNode.claimant =
      (rows.map TreeNode.claimant).eraseDups := by
    rw [stored, map_provedNodes TreeNode.claimant (fun _ _ => rfl), merged_claimants done]
  constructor
  · exact claimants
  · exact isBuilt.distinct
  · intro node member
    exact ⟨isBuilt.amounts node member false, isBuilt.amounts node member true⟩
  · rw [← claimants, List.length_map]
    exact isBuilt.nodeCount
  · rw [unlocked, totals, totalSum_nil, Nat.zero_add]
  · rw [locked, totals, totalSum_nil, Nat.zero_add]

/-- The rows decide what is granted. -/
theorem mem_allocations (merged : MergedFrom rows tree) {claimant : Pubkey}
    {amount lockedAmount : U64} :
    (claimant, amount, lockedAmount) ∈ tree.treeNodes.map TreeNode.allocation ↔
      claimant ∈ rows.map TreeNode.claimant ∧
        amount.toNat = claimantSum false claimant rows ∧
        lockedAmount.toNat = claimantSum true claimant rows := by
  constructor
  · intro granted
    rcases List.mem_map.mp granted with ⟨node, member, same⟩
    cases same
    have listed : node.claimant ∈ (rows.map TreeNode.claimant).eraseDups :=
      merged.claimants ▸ List.mem_map_of_mem member
    exact ⟨List.mem_eraseDups.mp listed, merged.amounts node member⟩
  · rintro ⟨listed, isAmount, isLocked⟩
    have held : claimant ∈ tree.treeNodes.map TreeNode.claimant := by
      rw [merged.claimants]
      exact List.mem_eraseDups.mpr listed
    rcases List.mem_map.mp held with ⟨node, member, rfl⟩
    obtain ⟨unlocked, locked⟩ := merged.amounts node member
    have sameAmount : node.amount = amount :=
      BitVec.eq_of_toNat_eq (unlocked.trans isAmount.symm)
    have sameLocked : node.lockedAmount = lockedAmount :=
      BitVec.eq_of_toNat_eq (locked.trans isLocked.symm)
    rw [← sameAmount, ← sameLocked]
    exact List.mem_map_of_mem member

theorem allocations_nodup (distinct : (tree.treeNodes.map TreeNode.claimant).Nodup) :
    (tree.treeNodes.map TreeNode.allocation).Nodup := by
  apply List.Nodup.of_map Prod.fst
  rw [List.map_map]
  exact distinct

end Built

/-- Two trees that grant the same, up to the order of their nodes. -/
structure SameAllocations (one other : AirdropMerkleTree) : Prop where
  granted : (one.treeNodes.map TreeNode.allocation).Perm
    (other.treeNodes.map TreeNode.allocation)
  maxNumNodes : one.maxNumNodes = other.maxNumNodes
  totalUnlockedAmount : one.totalUnlockedAmount = other.totalUnlockedAmount
  totalLockedAmount : one.totalLockedAmount = other.totalLockedAmount

/-- Trees that grant the same have the same count and the same totals. -/
theorem SameAllocations.of_perm {sha256 : Bytes → Hash} {rows others : List TreeNode}
    {one other : AirdropMerkleTree} (isBuilt : BuiltFrom sha256 rows one)
    (otherIsBuilt : BuiltFrom sha256 others other)
    (granted : (one.treeNodes.map TreeNode.allocation).Perm
      (other.treeNodes.map TreeNode.allocation)) :
    SameAllocations one other := by
  have totals (nodes : List TreeNode) (locked : Bool) : totalSum locked nodes =
      ((nodes.map TreeNode.allocation).map fun granted =>
        (if locked then granted.2.2 else granted.2.1).toNat).sum := by
    rw [totalSum, List.map_map]
    rfl
  constructor
  · exact granted
  · apply BitVec.eq_of_toNat_eq
    have lengths := granted.length_eq
    rw [isBuilt.nodeCount, otherIsBuilt.nodeCount]
    simpa using lengths
  · apply BitVec.eq_of_toNat_eq
    rw [isBuilt.totalUnlocked, otherIsBuilt.totalUnlocked, totals, totals]
    exact (granted.map _).sum_eq
  · apply BitVec.eq_of_toNat_eq
    rw [isBuilt.totalLocked, otherIsBuilt.totalLocked, totals, totals]
    exact (granted.map _).sum_eq

section Reordered

variable {rows others : List TreeNode}

theorem claimantSum_perm (reordered : rows.Perm others) (locked : Bool)
    (claimant : Pubkey) :
    claimantSum locked claimant rows = claimantSum locked claimant others :=
  (reordered.map _).sum_eq

theorem totalSum_perm (reordered : rows.Perm others) (locked : Bool) :
    totalSum locked rows = totalSum locked others :=
  (reordered.map _).sum_eq

/-- The order of the rows does not matter for what is granted. -/
theorem allocations_perm {one other : AirdropMerkleTree} (ofRows : MergedFrom rows one)
    (ofOthers : MergedFrom others other) (reordered : rows.Perm others) :
    (one.treeNodes.map TreeNode.allocation).Perm
      (other.treeNodes.map TreeNode.allocation) := by
  rw [List.perm_ext_iff_of_nodup (allocations_nodup ofRows.distinct)
    (allocations_nodup ofOthers.distinct)]
  rintro ⟨claimant, amount, lockedAmount⟩
  rw [mem_allocations ofRows, mem_allocations ofOthers, claimantSum_perm reordered,
    claimantSum_perm reordered, (reordered.map TreeNode.claimant).mem_iff]

/-- The builder fails on both or on none. -/
theorem exists_new_perm {sha256 : Bytes → Hash} {version : U64}
    {tree : AirdropMerkleTree} (reordered : rows.Perm others)
    (built : AirdropMerkleTree.new sha256 rows version = .ok tree) :
    ∃ other, AirdropMerkleTree.new sha256 others version = .ok other := by
  obtain ⟨nonempty, few, fits⟩ := exists_new_iff.mp ⟨tree, built⟩
  apply exists_new_iff.mpr
  refine ⟨?_, ?_, ?_⟩
  · rintro rfl
    exact nonempty reordered.eq_nil
  · rw [← (reordered.map TreeNode.claimant).dedup.length_eq]
    exact few
  · intro locked
    rw [← totalSum_perm reordered]
    exact fits locked

end Reordered

/-- The builder merges the rows of each claimant, in the order of first appearance and with
exact sums; another order of the rows changes the order of the nodes, their proofs and the
root alone; and it fails only for no rows, for too many claimants, or where a total does
not fit. -/
theorem new_merges (sha256 : Bytes → Hash) (rows : List TreeNode) (version : U64) :
    (∀ tree, AirdropMerkleTree.new sha256 rows version = .ok tree →
      MergedFrom rows tree ∧
      ∀ others, rows.Perm others →
        ∃ other, AirdropMerkleTree.new sha256 others version = .ok other ∧
          SameAllocations tree other) ∧
    ((∃ tree, AirdropMerkleTree.new sha256 rows version = .ok tree) ↔
      rows ≠ [] ∧ (rows.map TreeNode.claimant).dedup.length ≤ 2 ^ 32 - 1 ∧
        ∀ locked, totalSum locked rows < 2 ^ 64) := by
  constructor
  · intro tree built
    have merged := mergedFrom_of_new built
    refine ⟨merged, ?_⟩
    intro others reordered
    rcases exists_new_perm reordered built with ⟨other, otherBuilt⟩
    refine ⟨other, otherBuilt, ?_⟩
    apply SameAllocations.of_perm (builtFrom_of_new built) (builtFrom_of_new otherBuilt)
    exact allocations_perm merged (mergedFrom_of_new otherBuilt) reordered
  · rw [exists_new_iff]
    constructor
    · rintro ⟨nonempty, few, fits⟩
      exact ⟨nonempty, Nat.le_pred_of_lt few, fits⟩
    · rintro ⟨nonempty, few, fits⟩
      exact ⟨nonempty, Nat.lt_of_le_pred (by decide) few, fits⟩

end Airdrop
