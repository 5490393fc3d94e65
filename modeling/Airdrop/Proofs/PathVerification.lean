/-
Module: Airdrop.Proofs.PathVerification
Purpose: The path that a tree over plain pairs gives for an item is accepted for the leaf of
  the item, and for nothing else where the tree has an inner node.
Trusted boundary: none
Main exports: treeInputs, verifyInputs, verify_entriesAbove, verify_sound, path_exact_iff
-/
import Airdrop.Proofs.MerkleCorrectness

namespace Airdrop

open Checked HashTree MerkleTree

section Plain

variable (sha256 : Bytes → Hash)

/-- Every byte string that is hashed to build the tree over some items. -/
def treeInputs (items : List Bytes) : List Bytes :=
  items.map (leafPrefix ++ ·) ++
    (combinedPairs (combineNodes sha256 false) (leavesOf sha256 items)).map pairInput

/-- The two digests that are hashed for one entry. -/
def ProofEntry.pairWith (entry : ProofEntry) (candidate : Hash) : Hash × Hash :=
  (entry.leftSibling.getD candidate, entry.rightSibling.getD candidate)

/-- Every byte string that is hashed while a path is verified, up to the first entry that
does not match. -/
def verifyInputs : Proof → Hash → List Bytes
  | [], _ => []
  | entry :: path, candidate =>
      let hash := hashPair sha256 (entry.pairWith candidate)
      pairInput (entry.pairWith candidate) ::
        if hash = entry.target then verifyInputs path hash else []

variable {sha256}

/-! ## One entry -/

theorem verify_nil (candidate : Hash) : Proof.verify sha256 [] candidate = true := rfl

theorem verify_cons (entry : ProofEntry) (path : Proof) (candidate : Hash) :
    Proof.verify sha256 (entry :: path) candidate =
      (decide (hashPair sha256 (entry.pairWith candidate) = entry.target) &&
        Proof.verify sha256 path (hashPair sha256 (entry.pairWith candidate))) := by
  have hash : hashIntermediate sha256 (entry.leftSibling.getD candidate)
      (entry.rightSibling.getD candidate) = hashPair sha256 (entry.pairWith candidate) :=
    hashIntermediate_eq sha256 _ _
  rw [Proof.verify, List.foldlM_cons]
  dsimp only
  rw [hash]
  by_cases isTarget : hashPair sha256 (entry.pairWith candidate) = entry.target
  · rw [if_pos isTarget, decide_eq_true isTarget, Bool.true_and]
    rfl
  · rw [if_neg isTarget, decide_eq_false isTarget, Bool.false_and]
    rfl

/-- The entry above a node pairs it with its sibling, as the next level does. -/
theorem levelPairs_entryOf {level : List Hash} {i : Nat} {digest : Hash}
    (present : level[i]? = some digest) (target : Hash) :
    (levelPairs level)[i / 2]? = some ((entryOf level i target).pairWith digest) := by
  rw [levelPairs_getElem?]
  rcases Nat.mod_two_eq_zero_or_one i with even | odd
  · have whole : 2 * (i / 2) = i := by omega
    rw [whole, present, Option.map_some, ProofEntry.pairWith, entryOf, siblingsOf,
      if_pos even, sibling, if_pos even, present]
    cases level[i + 1]? with
    | none => rfl
    | some other => rfl
  · have whole : 2 * (i / 2) = i - 1 := by omega
    have next : i - 1 + 1 = i := by omega
    have inside := (List.getElem?_eq_some_iff.mp present).1
    have left : level[i - 1]? = some level[i - 1] := List.getElem?_eq_getElem (by omega)
    have notEven : ¬ i % 2 = 0 := by omega
    rw [whole, next, left, present, Option.map_some, ProofEntry.pairWith, entryOf, siblingsOf,
      if_neg notEven, sibling, if_neg notEven, left]
    rfl

/-- The entry above a node has the hash of the pair as its target. -/
theorem nextLevel_entryOf {level : List Hash} {i : Nat} {digest : Hash}
    (present : level[i]? = some digest) (target : Hash) :
    (nextLevel (combineNodes sha256 false) level)[i / 2]? =
      some (hashPair sha256 ((entryOf level i target).pairWith digest)) := by
  rw [nextLevel_eq_map, List.getElem?_map, levelPairs_entryOf present target]
  rfl

/-- The candidate takes the place that no sibling takes. -/
theorem pairWith_injective (level : List Hash) {i : Nat} (inside : i < level.length)
    (target : Hash) : Function.Injective (entryOf level i target).pairWith := by
  intro one other same
  obtain ⟨found, isFound⟩ := exists_sibling inside
  rw [ProofEntry.pairWith, ProofEntry.pairWith, Prod.mk.injEq, entryOf, siblingsOf] at same
  split at same
  · exact same.1
  · exact same.2

/-! ## Whole paths -/

/-- Completeness: the path above a node is accepted for the node. -/
theorem verify_entriesAbove {level : List Hash} {i : Nat} {digest : Hash}
    (present : level[i]? = some digest) :
    Proof.verify sha256 (entriesAbove (combineNodes sha256 false) level i) digest = true := by
  induction level using upperLevels.induct (combineNodes sha256 false)
      generalizing i digest with
  | case1 level wide inductionHypothesis =>
      obtain ⟨parent, isParent⟩ := exists_parent (combineNodes sha256 false)
        (List.getElem?_eq_some_iff.mp present).1
      have isPair : (nextLevel (combineNodes sha256 false) level)[i / 2]? =
          some (hashPair sha256 ((entryOf level i parent).pairWith digest)) :=
        nextLevel_entryOf present parent
      rw [isParent, Option.some.injEq] at isPair
      rw [entriesAbove_of_lt _ wide isParent, verify_cons, ← isPair]
      have onward := inductionHypothesis isParent
      rw [onward, Bool.and_true]
      exact decide_eq_true rfl
  | case2 level narrow =>
      rw [entriesAbove, if_neg narrow]
      exact verify_nil digest

/-- Soundness: where the level is not the root alone, the path above a node is accepted for
nothing else.  The first entry decides it. -/
theorem verify_sound {level : List Hash} {i : Nat} {digest candidate : Hash}
    (wide : 1 < level.length) (present : level[i]? = some digest) {inputs : List Bytes}
    (noCollision : NoCollision sha256 inputs)
    (built : ∀ pair ∈ levelPairs level, pairInput pair ∈ inputs)
    (checked : verifyInputs sha256 (entriesAbove (combineNodes sha256 false) level i)
      candidate ⊆ inputs)
    (accepted : Proof.verify sha256 (entriesAbove (combineNodes sha256 false) level i)
      candidate = true) :
    candidate = digest := by
  have inside := (List.getElem?_eq_some_iff.mp present).1
  obtain ⟨parent, isParent⟩ := exists_parent (combineNodes sha256 false) inside
  have isPair : (nextLevel (combineNodes sha256 false) level)[i / 2]? =
      some (hashPair sha256 ((entryOf level i parent).pairWith digest)) :=
    nextLevel_entryOf present parent
  rw [isParent, Option.some.injEq] at isPair
  rw [entriesAbove_of_lt _ wide isParent] at checked accepted
  rw [verify_cons, Bool.and_eq_true, decide_eq_true_eq] at accepted
  have sameHash : hashPair sha256 ((entryOf level i parent).pairWith candidate) =
      hashPair sha256 ((entryOf level i parent).pairWith digest) :=
    accepted.1.trans isPair
  have sameInput := noCollision _ (checked List.mem_cons_self) _
    (built _ (List.mem_of_getElem? (levelPairs_entryOf present parent))) sameHash
  exact pairWith_injective level inside parent (pairInput_injective sameInput)

/-- The path of an item is accepted for the leaf of the item, and without a collision among
the inputs hashed for nothing else, exactly if there are at least two items: over a single
item the path is empty, and an empty path is accepted for every candidate. -/
theorem path_exact_iff (ε : Type) (sha256 : Bytes → Hash) {items : List Bytes} {i : Nat}
    (inside : i < items.length) :
    ∃ tree path,
      (MerkleTree.new sha256 items false : Except (Stop ε) MerkleTree) = .ok tree ∧
      (tree.findPath i : Except (Stop ε) (Option Proof)) = .ok (some path) ∧
      ((∀ candidate,
        NoCollision sha256 (treeInputs sha256 items ++ verifyInputs sha256 path candidate) →
        (Proof.verify sha256 path candidate = true ↔
          candidate = hashLeaf sha256 items[i])) ↔
      2 ≤ items.length) := by
  have built := MerkleTree.new_eq ε sha256 false items
  refine ⟨_, _, built, findPath_of_new ε built inside, ?_⟩
  have width : (leavesOf sha256 items).length = items.length := leavesOf_length sha256 items
  have isLeaf : (leavesOf sha256 items)[i]? = some (hashLeaf sha256 items[i]) := by
    rw [leavesOf, List.getElem?_map, List.getElem?_eq_getElem inside, Option.map_some]
  constructor
  · intro exactly
    by_contra few
    have narrow : ¬ 1 < (leavesOf sha256 items).length := by omega
    obtain ⟨item, single⟩ := List.length_eq_one_iff.mp (show items.length = 1 by omega)
    -- the leaf is all that is hashed, and every candidate would be it
    have anyLeaf (candidate : Hash) : candidate = hashLeaf sha256 items[i] := by
      apply (exactly candidate ?_).mp
      · rw [entriesAbove, if_neg narrow]
        exact verify_nil candidate
      · rw [entriesAbove, if_neg narrow, verifyInputs, List.append_nil, treeInputs,
          combinedPairs, if_neg narrow, List.map_nil, List.append_nil, single]
        intro first isFirst second isSecond _
        rw [List.map_singleton, List.mem_singleton] at isFirst isSecond
        exact isFirst.trans isSecond.symm
    have different : (Bytes32.replicate 0 : Hash) ≠ .replicate 1 := by decide
    exact different ((anyLeaf _).trans (anyLeaf _).symm)
  · intro several candidate noCollision
    have wide : 1 < (leavesOf sha256 items).length := by omega
    constructor
    · apply verify_sound wide isLeaf noCollision
      · intro pair member
        apply List.mem_append_left
        apply List.mem_append_right
        rw [combinedPairs, if_pos wide]
        exact List.mem_map_of_mem (List.mem_append_left _ member)
      · exact List.subset_append_right _ _
    · rintro rfl
      exact verify_entriesAbove isLeaf

end Plain

section Sample

/-- Two items: the digests of two rows. -/
def plainItems : List Bytes :=
  (hashedNodes sampleSha256 sampleTree.treeNodes).reverse

theorem path_exact_iff_sample :
    ∃ (inside : 0 < plainItems.length) (tree : MerkleTree) (path : Proof),
      (MerkleTree.new sampleSha256 plainItems false : Except (Stop Unit) MerkleTree) =
        .ok tree ∧
      (tree.findPath 0 : Except (Stop Unit) (Option Proof)) = .ok (some path) ∧
      ∀ candidate,
        NoCollision sampleSha256
          (treeInputs sampleSha256 plainItems ++ verifyInputs sampleSha256 path candidate) →
        (Proof.verify sampleSha256 path candidate = true ↔
          candidate = hashLeaf sampleSha256 plainItems[0]) := by
  have inside : 0 < plainItems.length := by decide
  obtain ⟨tree, path, built, found, exactly⟩ := path_exact_iff Unit sampleSha256 inside
  exact ⟨inside, tree, path, built, found, exactly.mpr (by decide)⟩

/-- Over a single item another hash is accepted. -/
theorem single_item_accepts :
    ∃ tree path,
      (MerkleTree.new sampleSha256 [[7]] false : Except (Stop Unit) MerkleTree) = .ok tree ∧
      (tree.findPath 0 : Except (Stop Unit) (Option Proof)) = .ok (some path) ∧
      NoCollision sampleSha256
        (treeInputs sampleSha256 [[7]] ++ verifyInputs sampleSha256 path (.replicate 1)) ∧
      Proof.verify sampleSha256 path (.replicate 1) = true ∧
      (.replicate 1 : Hash) ≠ hashLeaf sampleSha256 [7] :=
  ⟨{ leafCount := 1, nodes := [hashLeaf sampleSha256 [7]] }, [], by decide +kernel,
    by decide +kernel, by decide +kernel, rfl, by decide +kernel⟩

end Sample

end Airdrop
