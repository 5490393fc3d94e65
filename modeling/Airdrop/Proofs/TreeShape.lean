/-
Module: Airdrop.Proofs.TreeShape
Purpose: The levels of the flat tree of the source by number, and where the entries of the
  paths that are read from it stand in them.
Trusted boundary: none
Main exports: TreeLevels, FlatTree, flatTree_refines, EntryOnPath, findPath_shape
-/
import Airdrop.Library.HashLevels
import Airdrop.Proofs.TreeRefinement

namespace Airdrop

open Checked HashTree

/-- The levels over the items: each has half the width of the one below it, rounded up, and
its nodes join those of that level two by two, the last one with itself where it has no
neighbour. -/
structure TreeLevels (sha256 : Bytes → Hash) (sortedHashes : Bool) (items : List Bytes)
    (level : Nat → List Hash) : Prop where
  leaves : level 0 = items.map (hashLeaf sha256)
  width : ∀ k, (level k).length = levelWidth items.length k
  node : ∀ k i, i < (level (k + 1)).length → ∃ left right,
    (level k)[2 * i]? = some left ∧
    (level k)[min (2 * i + 1) ((level k).length - 1)]? = some right ∧
    (level (k + 1))[i]? = some (combineNodes sha256 sortedHashes left right)

/-- The tree is that of the levels, up to the one with a single node. -/
structure FlatTree (sha256 : Bytes → Hash) (sortedHashes : Bool) (items : List Bytes)
    (tree : MerkleTree) (level : Nat → List Hash) : Prop extends
    TreeLevels sha256 sortedHashes items level where
  nodes : tree.nodes = ((List.range (Nat.clog 2 items.length + 1)).map level).flatten
  top : items ≠ [] → (level (Nat.clog 2 items.length)).length = 1
  noRoot : tree.getRoot = none ↔ items = []
  isRoot : tree.getRoot =
    root (combineNodes sha256 sortedHashes) (items.map (hashLeaf sha256))
  size : tree.nodes.length ≤ 2 * items.length + Nat.log 2 items.length + 1

section Levels

variable (sha256 : Bytes → Hash) (sortedHashes : Bool) (items : List Bytes)

theorem treeLevels : TreeLevels sha256 sortedHashes items
    (levelAt (combineNodes sha256 sortedHashes) (leavesOf sha256 items)) where
  leaves := rfl
  width k := by rw [levelAt_length, leavesOf_length]
  node _ _ := levelAt_succ_getElem _

/-- The builder never panics, and its vector is the recursively defined tree, level after
level. -/
theorem flatTree_refines (ε : Type) : ∃ tree level,
    (MerkleTree.new sha256 items sortedHashes : Except (Stop ε) MerkleTree) = .ok tree ∧
      FlatTree sha256 sortedHashes items tree level := by
  have built := MerkleTree.new_eq ε sha256 sortedHashes items
  have isRoot := MerkleTree.getRoot_of_new ε sha256 sortedHashes built
  refine ⟨_, _, built, treeLevels sha256 sortedHashes items, ?nodes, ?top, ?noRoot, isRoot, ?size⟩
  case nodes =>
    rw [append_upperLevels, leavesOf_length]
  case top =>
    intro nonempty
    rw [levelAt_length, leavesOf_length]
    exact levelWidth_clog (List.length_pos_iff.mpr nonempty)
  case noRoot =>
    rw [isRoot, root_eq_none_iff]
    simp [leavesOf]
  case size =>
    by_cases empty : items = []
    · subst empty
      rw [append_upperLevels]
      simp [leavesOf]
    · have bound := length_nodes_lt (combineNodes sha256 sortedHashes)
        (show leavesOf sha256 items ≠ [] by simpa [leavesOf] using empty)
      have height : Nat.clog 2 items.length ≤ Nat.log 2 items.length + 1 :=
        Nat.clog_le_of_le_pow (Nat.lt_pow_succ_log_self (by decide) _).le
      rw [leavesOf_length] at bound
      exact (bound.trans_le (Nat.add_le_add_left height _)).le

end Levels

/-! ## Paths -/

/-- Entry `k` of the path of the leaf `index`: the ancestor in level `k + 1`, and of its two
children the one that is not the ancestor in level `k`. -/
structure EntryOnPath (level : Nat → List Hash) (index k : Nat) (entry : ProofEntry) : Prop where
  target : (level (k + 1))[index / 2 ^ (k + 1)]? = some entry.target
  left : entry.leftSibling.isSome ↔ index / 2 ^ k % 2 = 1
  right : entry.rightSibling.isSome ↔ index / 2 ^ k % 2 = 0
  leftSibling : ∀ sibling, entry.leftSibling = some sibling →
    (level k)[index / 2 ^ k - 1]? = some sibling
  rightSibling : ∀ sibling, entry.rightSibling = some sibling →
    (level k)[min (index / 2 ^ k + 1) ((level k).length - 1)]? = some sibling

section Paths

variable (combine : Hash → Hash → Hash)

/-- The entries above a node, by number. -/
theorem entriesAbove_getElem? {level : List Hash} {i k : Nat} {entry : ProofEntry}
    (inside : i < level.length)
    (present : (MerkleTree.entriesAbove combine level i)[k]? = some entry) :
    ∃ parent, (levelAt combine level (k + 1))[i / 2 ^ (k + 1)]? = some parent ∧
      entry = MerkleTree.entryOf (levelAt combine level k) (i / 2 ^ k) parent := by
  induction level using upperLevels.induct combine generalizing i k with
  | case1 level wide inductionHypothesis =>
      obtain ⟨parent, isParent⟩ := exists_parent combine inside
      rw [MerkleTree.entriesAbove_of_lt combine wide isParent] at present
      cases k with
      | zero =>
          cases present
          exact ⟨parent, by simpa [levelAt_succ] using isParent, by simp⟩
      | succ k =>
          have half (j : Nat) : i / 2 ^ (j + 1) = i / 2 / 2 ^ j := by
            rw [Nat.div_div_eq_div_mul, pow_succ']
          rw [half, half, levelAt_next, levelAt_next]
          exact inductionHypothesis (half_lt_nextLevel combine inside) present
  | case2 level narrow =>
      rw [MerkleTree.entriesAbove, if_neg narrow] at present
      cases present

theorem entryOnPath_entryOf {level : List Hash} {index k : Nat} {parent : Hash}
    (inside : index < level.length)
    (isParent : (levelAt combine level (k + 1))[index / 2 ^ (k + 1)]? = some parent) :
    EntryOnPath (levelAt combine level) index k
      (MerkleTree.entryOf (levelAt combine level k) (index / 2 ^ k) parent) := by
  have insideLevel := inside_levelAt combine inside k
  obtain ⟨other, found⟩ := exists_sibling insideLevel
  by_cases even : index / 2 ^ k % 2 = 0
  · have entry : MerkleTree.entryOf (levelAt combine level k) (index / 2 ^ k) parent =
        { target := parent, leftSibling := none, rightSibling := some other } := by
      rw [MerkleTree.entryOf, MerkleTree.siblingsOf, if_pos even, found]
    rw [sibling_of_even insideLevel even] at found
    rw [entry]
    exact ⟨isParent, by simp [even], by simp [even], by simp,
      fun sibling isSibling => isSibling ▸ found⟩
  · have odd : index / 2 ^ k % 2 = 1 := by omega
    have entry : MerkleTree.entryOf (levelAt combine level k) (index / 2 ^ k) parent =
        { target := parent, leftSibling := some other, rightSibling := none } := by
      rw [MerkleTree.entryOf, MerkleTree.siblingsOf, if_neg even, found]
    rw [sibling, if_neg even] at found
    rw [entry]
    exact ⟨isParent, by simp [odd], by simp [odd],
      fun sibling isSibling => isSibling ▸ found, by simp⟩

end Paths

/-- A path is found for exactly the indices of the items.  It has an entry for each level
above the leaves, and so has the proof that is made of it. -/
theorem findPath_shape (ε : Type) (sha256 : Bytes → Hash) (sortedHashes : Bool)
    (items : List Bytes) : ∃ tree level,
    (MerkleTree.new sha256 items sortedHashes : Except (Stop ε) MerkleTree) = .ok tree ∧
      TreeLevels sha256 sortedHashes items level ∧
      ∀ index,
        ((tree.findPath index : Except (Stop ε) (Option Proof)) = .ok none ↔
          items.length ≤ index) ∧
        (index < items.length →
          ∃ path, (tree.findPath index : Except (Stop ε) (Option Proof)) = .ok (some path) ∧
            path.length = Nat.clog 2 items.length ∧
            (∀ k entry, path[k]? = some entry → EntryOnPath level index k entry) ∧
            ∃ proof, (getProof tree index : Except (Stop ε) (List Hash)) = .ok proof ∧
              proof.length = Nat.clog 2 items.length) := by
  have built := MerkleTree.new_eq ε sha256 sortedHashes items
  refine ⟨_, _, built, treeLevels sha256 sortedHashes items, fun index => ⟨?outside, ?found⟩⟩
  case outside =>
    by_cases inside : index < items.length
    · rw [findPath_of_new ε built inside]
      simpa using inside
    · exact iff_of_true (by rw [MerkleTree.findPath, if_pos (Nat.not_lt.mp inside)]; rfl)
        (Nat.not_lt.mp inside)
  case found =>
    intro inside
    have insideLeaves : index < (leavesOf sha256 items).length := by simpa using inside
    have proofLength := path_length (combineNodes sha256 sortedHashes) insideLeaves
    rw [leavesOf_length] at proofLength
    have siblings := MerkleTree.mapM_sibling_entriesAbove ε (combineNodes sha256 sortedHashes)
      (leavesOf sha256 items) insideLeaves
    have sameLength := (mapM_eq_ok.mp siblings).length_eq
    refine ⟨_, findPath_of_new ε built inside, sameLength.trans proofLength, ?_, _,
      getProof_of_new ε built inside, proofLength⟩
    intro k entry present
    obtain ⟨parent, isParent, rfl⟩ := entriesAbove_getElem? _ insideLeaves present
    exact entryOnPath_entryOf _ insideLeaves isParent

end Airdrop
