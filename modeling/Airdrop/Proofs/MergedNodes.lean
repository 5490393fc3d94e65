/-
Module: Airdrop.Proofs.MergedNodes
Purpose: What merging duplicate claimants keeps: every claimant's sums, the
  totals and the set of claimants, and when it runs without an overflow.
Trusted boundary: none
Main exports: amountOf, claimantSum, totalSum, mergeTreeNodes_ok,
  exists_mergeTreeNodes
-/
import Airdrop.MerkleTree.AirdropMerkleTree
import Mathlib.Algebra.BigOperators.Group.List.Lemmas

namespace Airdrop

open Checked

/-! ## Sums over nodes -/

/-- One of the two amounts of a node: the locked one or the unlocked one. -/
def TreeNode.amountOf (locked : Bool) (node : TreeNode) : U64 :=
  if locked then node.lockedAmount else node.amount

/-- What the nodes of one claimant hold together. -/
def claimantSum (locked : Bool) (claimant : Pubkey) (nodes : List TreeNode) : Nat :=
  (nodes.map fun node =>
    if node.claimant = claimant then (node.amountOf locked).toNat else 0).sum

/-- What all nodes hold together. -/
def totalSum (locked : Bool) (nodes : List TreeNode) : Nat :=
  (nodes.map fun node => (node.amountOf locked).toNat).sum

@[simp] theorem claimantSum_nil (locked : Bool) (claimant : Pubkey) :
    claimantSum locked claimant [] = 0 := rfl

@[simp] theorem claimantSum_cons (locked : Bool) (claimant : Pubkey)
    (node : TreeNode) (nodes : List TreeNode) :
    claimantSum locked claimant (node :: nodes) =
      (if node.claimant = claimant then (node.amountOf locked).toNat else 0) +
        claimantSum locked claimant nodes := by
  simp [claimantSum]

@[simp] theorem totalSum_nil (locked : Bool) : totalSum locked [] = 0 := rfl

@[simp] theorem totalSum_cons (locked : Bool) (node : TreeNode)
    (nodes : List TreeNode) :
    totalSum locked (node :: nodes) =
      (node.amountOf locked).toNat + totalSum locked nodes := by
  simp [totalSum]

/-- One claimant never holds more than all together. -/
theorem claimantSum_le_totalSum (locked : Bool) (claimant : Pubkey)
    (nodes : List TreeNode) :
    claimantSum locked claimant nodes ≤ totalSum locked nodes := by
  induction nodes with
  | nil => rfl
  | cons node nodes inductionHypothesis =>
      rw [claimantSum_cons, totalSum_cons]
      apply Nat.add_le_add _ inductionHypothesis
      split
      · exact le_rfl
      · exact Nat.zero_le _

/-- A claimant that occurs in no node holds nothing. -/
theorem claimantSum_eq_zero {locked : Bool} {claimant : Pubkey}
    {nodes : List TreeNode} (absent : claimant ∉ nodes.map TreeNode.claimant) :
    claimantSum locked claimant nodes = 0 := by
  induction nodes with
  | nil => rfl
  | cons node nodes inductionHypothesis =>
      simp only [List.map_cons, List.mem_cons, not_or] at absent
      rw [claimantSum_cons, if_neg (Ne.symm absent.1),
        inductionHypothesis absent.2]

/-- Where claimants are distinct, a node holds all that its claimant has. -/
theorem claimantSum_of_mem {locked : Bool} {nodes : List TreeNode}
    (distinct : (nodes.map TreeNode.claimant).Nodup) {node : TreeNode}
    (member : node ∈ nodes) :
    claimantSum locked node.claimant nodes = (node.amountOf locked).toNat := by
  induction nodes with
  | nil => simp at member
  | cons first nodes inductionHypothesis =>
      rw [List.map_cons, List.nodup_cons] at distinct
      rw [claimantSum_cons]
      rcases List.mem_cons.mp member with rfl | later
      · rw [if_pos rfl, claimantSum_eq_zero distinct.1, Nat.add_zero]
      · have other : first.claimant ≠ node.claimant := by
          intro same
          exact distinct.1 (same ▸ List.mem_map_of_mem later)
        rw [if_neg other, inductionHypothesis distinct.2 later, Nat.zero_add]

/-! ## One insertion -/

/-- What one insertion into the map of nodes does.  The two amounts of the
claimant grow by the new node's, nothing else changes, and a new claimant goes
to the end. -/
theorem mergeTreeNode_ok {ε : Type} {nodes merged : List TreeNode}
    {treeNode : TreeNode}
    (inserted : (mergeTreeNode nodes treeNode : Except (Stop ε) _) = .ok merged) :
    (merged.map TreeNode.claimant =
      if treeNode.claimant ∈ nodes.map TreeNode.claimant then
        nodes.map TreeNode.claimant
      else
        nodes.map TreeNode.claimant ++ [treeNode.claimant]) ∧
    (∀ locked, totalSum locked merged =
      totalSum locked nodes + (treeNode.amountOf locked).toNat) ∧
    ∀ locked claimant, claimantSum locked claimant merged =
      claimantSum locked claimant nodes +
        claimantSum locked claimant [treeNode] := by
  induction nodes generalizing merged with
  | nil =>
      simp only [mergeTreeNode, pure_eq, Except.ok.injEq] at inserted
      subst inserted
      simp
  | cons first rest inductionHypothesis =>
      rw [mergeTreeNode] at inserted
      by_cases same : first.claimant = treeNode.claimant
      · rw [if_pos same] at inserted
        simp only [bind_eq_ok, unwrap_eq_ok, checkedAdd_eq_some, pure_eq,
          Except.ok.injEq] at inserted
        obtain ⟨amount, amountValue, lockedAmount, lockedValue, rfl⟩ := inserted
        have grows (locked : Bool) :
            (TreeNode.amountOf locked { first with amount, lockedAmount }).toNat =
              (first.amountOf locked).toNat +
                (treeNode.amountOf locked).toNat := by
          cases locked
          · exact amountValue
          · exact lockedValue
        refine ⟨by simp [same], ?_, ?_⟩
        · intro locked
          simp only [totalSum_cons, grows]
          omega
        · intro locked claimant
          simp only [claimantSum_cons, claimantSum_nil, grows]
          simp only [same]
          split <;> omega
      · rw [if_neg same] at inserted
        simp only [bind_eq_ok, pure_eq, Except.ok.injEq] at inserted
        obtain ⟨tail, insertedTail, rfl⟩ := inserted
        obtain ⟨claimants, totals, sums⟩ := inductionHypothesis insertedTail
        refine ⟨?_, ?_, ?_⟩
        · rw [List.map_cons, claimants, List.map_cons]
          by_cases known : treeNode.claimant ∈ rest.map TreeNode.claimant
          · rw [if_pos known, if_pos (List.mem_cons_of_mem _ known)]
          · rw [if_neg known, if_neg (by simp [Ne.symm same, known])]
            rfl
        · intro locked
          rw [totalSum_cons, totalSum_cons, totals]
          omega
        · intro locked claimant
          rw [claimantSum_cons, claimantSum_cons, sums]
          omega

/-- An insertion does not overflow where the claimant's sums fit. -/
theorem exists_mergeTreeNode (ε : Type) {nodes : List TreeNode}
    {treeNode : TreeNode}
    (fits : ∀ locked, claimantSum locked treeNode.claimant nodes +
      (treeNode.amountOf locked).toNat < 2 ^ 64) :
    ∃ merged,
      (mergeTreeNode nodes treeNode : Except (Stop ε) _) = .ok merged := by
  induction nodes with
  | nil => exact ⟨_, rfl⟩
  | cons first rest inductionHypothesis =>
      simp only [claimantSum_cons] at fits
      rw [mergeTreeNode]
      by_cases same : first.claimant = treeNode.claimant
      · simp only [if_pos same] at fits ⊢
        obtain ⟨amount, sum, _⟩ :=
          exists_checkedAdd (a := first.amount) (b := treeNode.amount) (by
            have bound := fits false
            simp only [TreeNode.amountOf, Bool.false_eq_true, if_false] at bound
            omega)
        obtain ⟨lockedAmount, lockedSum, _⟩ :=
          exists_checkedAdd (a := first.lockedAmount)
            (b := treeNode.lockedAmount) (by
              have bound := fits true
              simp only [TreeNode.amountOf, if_true] at bound
              omega)
        rw [sum, unwrap_some, ok_bind, lockedSum, unwrap_some, ok_bind]
        exact ⟨_, rfl⟩
      · obtain ⟨tail, insertedTail⟩ := inductionHypothesis (by
          intro locked
          have bound := fits locked
          rw [if_neg same] at bound
          omega)
        rw [if_neg same, insertedTail, ok_bind]
        exact ⟨_, rfl⟩

/-! ## The whole merge -/

/-- What the merging loop keeps, started from any nodes with distinct
claimants. -/
theorem mergeTreeNodes_ok {ε : Type} {nodes start merged : List TreeNode}
    (distinct : (start.map TreeNode.claimant).Nodup)
    (done : (nodes.foldlM mergeTreeNode start : Except (Stop ε) _) = .ok merged) :
    (merged.map TreeNode.claimant).Nodup ∧
    (∀ claimant, claimant ∈ merged.map TreeNode.claimant ↔
      claimant ∈ start.map TreeNode.claimant ∨
        claimant ∈ nodes.map TreeNode.claimant) ∧
    (∀ locked, totalSum locked merged =
      totalSum locked start + totalSum locked nodes) ∧
    ∀ locked claimant, claimantSum locked claimant merged =
      claimantSum locked claimant start + claimantSum locked claimant nodes := by
  induction nodes generalizing start with
  | nil =>
      simp only [List.foldlM_nil, pure_eq, Except.ok.injEq] at done
      subst done
      simp [distinct]
  | cons node nodes inductionHypothesis =>
      rw [List.foldlM_cons, bind_eq_ok] at done
      obtain ⟨next, inserted, rest⟩ := done
      obtain ⟨claimants, totals, sums⟩ := mergeTreeNode_ok inserted
      have nextDistinct : (next.map TreeNode.claimant).Nodup := by
        rw [claimants]
        split
        · exact distinct
        · rename_i fresh
          exact List.nodup_append.mpr ⟨distinct, by simp, by
            rintro old oldMember new newMember rfl
            exact fresh (List.mem_singleton.mp newMember ▸ oldMember)⟩
      have nextMember (claimant : Pubkey) :
          claimant ∈ next.map TreeNode.claimant ↔
            claimant ∈ start.map TreeNode.claimant ∨ claimant = node.claimant := by
        rw [claimants]
        split
        · rename_i known
          constructor
          · exact Or.inl
          · rintro (old | rfl)
            · exact old
            · exact known
        · rw [List.mem_append, List.mem_singleton]
      obtain ⟨mergedDistinct, members, restTotals, restSums⟩ :=
        inductionHypothesis nextDistinct rest
      refine ⟨mergedDistinct, ?_, ?_, ?_⟩
      · intro claimant
        rw [members, nextMember, List.map_cons, List.mem_cons, or_assoc]
      · intro locked
        rw [restTotals, totals, totalSum_cons, Nat.add_assoc]
      · intro locked claimant
        rw [restSums, sums, claimantSum_cons, claimantSum_cons, claimantSum_nil]
        omega

/-- The merging loop does not overflow where every claimant's sums fit. -/
theorem exists_mergeTreeNodes (ε : Type) {nodes start : List TreeNode}
    (fits : ∀ locked claimant, claimantSum locked claimant start +
      claimantSum locked claimant nodes < 2 ^ 64) :
    ∃ merged, (nodes.foldlM mergeTreeNode start : Except (Stop ε) _) =
      .ok merged := by
  induction nodes generalizing start with
  | nil => exact ⟨start, rfl⟩
  | cons node nodes inductionHypothesis =>
      have nodeFits (locked : Bool) :
          claimantSum locked node.claimant start +
            (node.amountOf locked).toNat < 2 ^ 64 := by
        have bound := fits locked node.claimant
        rw [claimantSum_cons, if_pos rfl] at bound
        omega
      obtain ⟨next, inserted⟩ := exists_mergeTreeNode ε nodeFits
      obtain ⟨_, _, sums⟩ := mergeTreeNode_ok inserted
      rw [List.foldlM_cons, inserted, ok_bind]
      apply inductionHypothesis
      intro locked claimant
      have bound := fits locked claimant
      rw [sums]
      simp only [claimantSum_cons, claimantSum_nil] at bound ⊢
      omega

/-! ## The totals of the source -/

theorem getTotalUnlockedAmount_eq_ok {ε : Type} {nodes : List TreeNode}
    {total : U64} :
    (getTotalUnlockedAmount nodes : Except (Stop ε) U64) = .ok total ↔
      total.toNat = totalSum false nodes := by
  simp [getTotalUnlockedAmount, foldlM_checkedAdd_eq_some, totalSum,
    TreeNode.amountOf]

theorem getTotalLockedAmount_eq_ok {ε : Type} {nodes : List TreeNode}
    {total : U64} :
    (getTotalLockedAmount nodes : Except (Stop ε) U64) = .ok total ↔
      total.toNat = totalSum true nodes := by
  simp [getTotalLockedAmount, foldlM_checkedAdd_eq_some, totalSum,
    TreeNode.amountOf]

end Airdrop
