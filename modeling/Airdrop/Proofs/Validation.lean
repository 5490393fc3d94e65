/-
Module: Airdrop.Proofs.Validation
Purpose: What the validation of a tree says about a tree of arbitrary fields, as one read
  from a file: which of its checks return an error, where it panics, and what it accepts.
Trusted boundary: none
Main exports: AirdropMerkleTree.Consistent, AirdropMerkleTree.Valid, validate_exact_iff
-/
import Airdrop.Library.HashLevels
import Airdrop.Proofs.MerkleCorrectness

namespace Airdrop

open Checked

namespace AirdropMerkleTree

/-- The counts and the totals of a tree agree with its nodes. -/
structure Consistent (tree : AirdropMerkleTree) : Prop where
  few : tree.maxNumNodes.toNat ≤ 2 ^ 32 - 1
  counted : tree.treeNodes.length = tree.maxNumNodes.toNat
  distinct : (tree.treeNodes.map TreeNode.claimant).Nodup
  unlocked : tree.totalUnlockedAmount.toNat = totalSum false tree.treeNodes
  locked : tree.totalLockedAmount.toNat = totalSum true tree.treeNodes

/-- The root is the root over the nodes in their order. -/
def Rooted (sha256 : Bytes → Hash) (tree : AirdropMerkleTree) : Prop :=
  nodeRoot sha256 tree.treeNodes = some tree.merkleRoot

/-- Every node stores a proof, which the root accepts for the node. -/
def ProofsVerify (sha256 : Bytes → Hash) (tree : AirdropMerkleTree) : Prop :=
  ∀ node ∈ tree.treeNodes, ∃ proof, node.proof = some proof ∧
    verify sha256 proof tree.merkleRoot
      (claimLeaf sha256 node.claimant node.amount node.lockedAmount) = true

/-- What a well-formed tree is. -/
structure Valid (sha256 : Bytes → Hash) (tree : AirdropMerkleTree) : Prop extends
    Consistent tree where
  rooted : tree.Rooted sha256
  proofsVerify : tree.ProofsVerify sha256

variable {sha256 : Bytes → Hash} {self : AirdropMerkleTree}

/-- `validate` goes by the counts, the totals and the root; the stored proofs are not looked
at. -/
theorem validate_eq_ok_iff :
    self.validate sha256 = .ok () ↔ self.Consistent ∧ self.Rooted sha256 := by
  rw [validate_eq_ok]
  constructor
  · rintro ⟨few, counted, distinct, unlocked, locked, rooted⟩
    exact ⟨⟨few, counted, distinct, unlocked, locked⟩, rooted⟩
  · rintro ⟨⟨few, counted, distinct, unlocked, locked⟩, rooted⟩
    exact ⟨few, counted, distinct, unlocked, locked, rooted⟩

/-! ## The comparison of the roots -/

theorem nodeRoot_nil : nodeRoot sha256 [] = none :=
  (HashTree.root_eq_none_iff _).mpr rfl

/-- `verify_proof` up to the comparison of the roots: a tree without nodes is an error, and
another root is a panic. -/
theorem verifyProof_eq_error (wrong : ¬ self.Rooted sha256) :
    self.verifyProof sha256 =
      if self.treeNodes = [] then
        .error (.err (.merkleValidationError "invalid merkle proof"))
      else .error .panic := by
  have made := MerkleTree.new_eq MerkleTreeError sha256 true (hashedNodes sha256 self.treeNodes)
  have top := MerkleTree.getRoot_of_new MerkleTreeError sha256 true made
  change MerkleTree.getRoot _ = nodeRoot sha256 self.treeNodes at top
  unfold verifyProof
  change (MerkleTree.new sha256 (hashedNodes sha256 self.treeNodes) true >>= _) = _
  rw [made, ok_bind]
  dsimp only
  rw [top]
  split
  case isTrue empty =>
    rw [empty, nodeRoot_nil]
    rfl
  case isFalse nonempty =>
    obtain ⟨digest, isRoot⟩ : ∃ digest, nodeRoot sha256 self.treeNodes = some digest :=
      exists_nodeRoot nonempty
    have other : ¬ digest = self.merkleRoot := by
      rintro rfl
      exact wrong isRoot
    rw [isRoot]
    rw [okOr, ok_bind, require, if_neg other]
    rfl

/-! ## The checks before it -/

/-- Where the sums fit and the roots are not compared in vain, `validate` does not panic. -/
theorem validate_avoids_panic (fits : ∀ locked, totalSum locked self.treeNodes < 2 ^ 64)
    (guarded : self.Consistent → self.treeNodes ≠ [] → self.Rooted sha256) :
    Avoids (self.validate sha256) .panic := by
  have total (locked : Bool) :
      ∃ sum : U64, sum.toNat = totalSum locked self.treeNodes := by
    refine ⟨.ofNat 64 (totalSum locked self.treeNodes), ?_⟩
    rw [BitVec.toNat_ofNat, Nat.mod_eq_of_lt (fits locked)]
  obtain ⟨unlockedSum, isUnlocked⟩ := total false
  obtain ⟨lockedSum, isLocked⟩ := total true
  have unlockedTotal : (getTotalUnlockedAmount self.treeNodes :
      Except (Stop MerkleTreeError) U64) = .ok unlockedSum :=
    getTotalUnlockedAmount_eq_ok.mpr isUnlocked
  have lockedTotal : (getTotalLockedAmount self.treeNodes :
      Except (Stop MerkleTreeError) U64) = .ok lockedSum :=
    getTotalLockedAmount_eq_ok.mpr isLocked
  unfold validate
  refine .bind (.require (by simp)) fun _ few => ?_
  refine .bind (.require (by simp)) fun _ counted => ?_
  refine .bind (.require (by simp)) fun _ distinct => ?_
  rw [unlockedTotal, ok_bind]
  refine .bind (.require (by simp)) fun _ unlocked => ?_
  rw [lockedTotal, ok_bind]
  refine .bind (.require (by simp)) fun _ locked => ?_
  rw [require_eq_ok] at few counted distinct unlocked locked
  have consistent : self.Consistent :=
    { few
      counted
      distinct := dedup_length_eq_iff.mp distinct
      unlocked := unlocked ▸ isUnlocked
      locked := locked ▸ isLocked }
  by_cases rooted : self.Rooted sha256
  · rw [verifyProof_eq_ok.mpr rooted]
    exact .ok ()
  · have empty : self.treeNodes = [] := by
      by_contra nonempty
      exact rooted (guarded consistent nonempty)
    rw [verifyProof_eq_error rooted, if_pos empty]
    simp [Avoids, replaceErr]

/-- The counts and the totals are right and the root is not: `validate` panics. -/
theorem validate_eq_panic (consistent : self.Consistent) (nonempty : self.treeNodes ≠ [])
    (wrong : ¬ self.Rooted sha256) : self.validate sha256 = .error .panic := by
  have unlockedTotal : (getTotalUnlockedAmount self.treeNodes :
      Except (Stop MerkleTreeError) U64) = .ok self.totalUnlockedAmount :=
    getTotalUnlockedAmount_eq_ok.mpr consistent.unlocked
  have lockedTotal : (getTotalLockedAmount self.treeNodes :
      Except (Stop MerkleTreeError) U64) = .ok self.totalLockedAmount :=
    getTotalLockedAmount_eq_ok.mpr consistent.locked
  unfold validate
  dsimp only
  rw [require_of consistent.few, ok_bind, require_of consistent.counted, ok_bind,
    require_of (dedup_length_eq_iff.mpr consistent.distinct), ok_bind, unlockedTotal, ok_bind,
    require_of rfl, ok_bind, lockedTotal, ok_bind, require_of rfl, ok_bind,
    verifyProof_eq_error wrong, if_neg nonempty]
  rfl

/-- `validate` returns `Ok` for the valid trees and an error for all others, exactly if a
tree with nodes that passes the checks of the counts and the totals has the right root and
proofs that verify. -/
theorem validate_exact_iff (fits : ∀ locked, totalSum locked self.treeNodes < 2 ^ 64) :
    ((self.validate sha256 = .ok () ↔ self.Valid sha256) ∧
      (¬ self.Valid sha256 → ∃ error, self.validate sha256 = .error (.err error))) ↔
    (self.Consistent → self.treeNodes ≠ [] →
      self.Rooted sha256 ∧ self.ProofsVerify sha256) := by
  constructor
  · rintro ⟨accepts, rejects⟩ consistent nonempty
    by_cases rooted : self.Rooted sha256
    · exact ⟨rooted, (accepts.mp (validate_eq_ok_iff.mpr ⟨consistent, rooted⟩)).proofsVerify⟩
    · obtain ⟨error, rejected⟩ := rejects fun valid => rooted valid.rooted
      rw [validate_eq_panic consistent nonempty rooted] at rejected
      cases rejected
  · intro guarded
    have accepts : self.validate sha256 = .ok () ↔ self.Valid sha256 := by
      rw [validate_eq_ok_iff]
      constructor
      · rintro ⟨consistent, rooted⟩
        have nonempty : self.treeNodes ≠ [] := by
          intro empty
          rw [Rooted, empty, nodeRoot_nil] at rooted
          cases rooted
        exact ⟨consistent, rooted, (guarded consistent nonempty).2⟩
      · intro valid
        exact ⟨valid.toConsistent, valid.rooted⟩
    refine ⟨accepts, ?_⟩
    intro invalid
    have noPanic : Avoids (self.validate sha256) .panic :=
      validate_avoids_panic fits fun consistent nonempty => (guarded consistent nonempty).1
    cases result : self.validate sha256 with
    | ok value => exact absurd (accepts.mp result) invalid
    | error stop =>
        cases stop with
        | panic => exact absurd result noPanic
        | err error => exact ⟨error, rfl⟩

section Sample

theorem validate_exact_iff_sample :
    (sampleTree.validate sampleSha256 = .ok () ↔ sampleTree.Valid sampleSha256) ∧
      (¬ sampleTree.Valid sampleSha256 →
        ∃ error, sampleTree.validate sampleSha256 = .error (.err error)) := by
  have built := builtFrom_of_new sampleTree_built
  exact (validate_exact_iff (by decide)).mpr fun _ _ => ⟨built.top, built.proofs⟩

/-- The sample tree under another root. -/
def misrootedTree : AirdropMerkleTree := { sampleTree with merkleRoot := .replicate 0 }

/-- The sample tree with proofs that are empty. -/
def unprovedTree : AirdropMerkleTree :=
  { sampleTree with
    treeNodes := sampleTree.treeNodes.map fun node => { node with proof := some [] } }

/-- Neither of the two trees is valid; `validate` panics on the first one and accepts the
second one. -/
theorem invalid_trees_not_rejected :
    (∀ locked, totalSum locked misrootedTree.treeNodes < 2 ^ 64) ∧
    (∀ locked, totalSum locked unprovedTree.treeNodes < 2 ^ 64) ∧
    ¬ misrootedTree.Valid sampleSha256 ∧ ¬ unprovedTree.Valid sampleSha256 ∧
    misrootedTree.validate sampleSha256 = .error .panic ∧
    unprovedTree.validate sampleSha256 = .ok () := by
  refine ⟨by decide, by decide, ?_, ?_, by decide +kernel, by decide +kernel⟩
  · intro valid
    have same := (builtFrom_of_new sampleTree_built).top.symm.trans valid.rooted
    rw [Option.some.injEq] at same
    exact absurd same (by decide)
  · intro valid
    obtain ⟨proof, same, accepted⟩ := valid.proofsVerify _ List.mem_cons_self
    cases same
    exact absurd accepted (by decide +kernel)

end Sample

end AirdropMerkleTree

end Airdrop
