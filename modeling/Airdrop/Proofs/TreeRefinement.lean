/-
Module: Airdrop.Proofs.TreeRefinement
Purpose: The flat builder and the path extraction of the source compute the
  levels, the root and the paths of a hash tree, for every number of items and
  without a panic.
Trusted boundary: none
Main exports: combineNodes, MerkleTree.new_eq, MerkleTree.getRoot_of_new,
  findPath_of_new, getProof_of_new
-/
import Airdrop.MerkleTree.Tree

namespace Airdrop

open Checked HashTree

/-- How `MerkleTree::new` joins two neighbours. -/
def combineNodes (sha256 : Bytes → Hash) (sortedHashes : Bool)
    (left right : Hash) : Hash :=
  if sortedHashes then combineSorted (hashPair sha256) left right
  else hashPair sha256 (left, right)

@[simp] theorem combineNodes_sorted (sha256 : Bytes → Hash) :
    combineNodes sha256 true = combineSorted (hashPair sha256) := by
  funext left right
  simp [combineNodes]

theorem hashIntermediate_eq (sha256 : Bytes → Hash) (left right : Hash) :
    hashIntermediate sha256 left right = hashPair sha256 (left, right) := by
  simp [hashIntermediate, hashv, hashPair, pairInput]

/-- The leaves of the tree over `items`. -/
def leavesOf (sha256 : Bytes → Hash) (items : List Bytes) : List Hash :=
  items.map (hashLeaf sha256)

@[simp] theorem leavesOf_length (sha256 : Bytes → Hash) (items : List Bytes) :
    (leavesOf sha256 items).length = items.length := List.length_map _

namespace MerkleTree

section Builder

variable (ε : Type) (sha256 : Bytes → Hash) (sortedHashes : Bool)

/-- One turn of the inner loop pushes the parent of its two children, whatever
was pushed before it. -/
theorem pushNode_eq (before level pushed : List Hash) {i : Nat}
    (inside : 2 * i < level.length) :
    ∃ parent,
      (nextLevel (combineNodes sha256 sortedHashes) level)[i]? = some parent ∧
      (pushNode sha256 sortedHashes level.length before.length
        (before ++ level ++ pushed) i : Except (Stop ε) (List Hash)) =
          .ok (before ++ level ++ pushed ++ [parent]) := by
  have read (j : Nat) (present : j < level.length) :
      (before ++ level ++ pushed)[before.length + j]? = some level[j] := by
    rw [List.append_assoc, List.getElem?_append_right (Nat.le_add_right _ _),
      Nat.add_sub_cancel_left, List.getElem?_append_left present,
      List.getElem?_eq_getElem present]
  have parent (left right : Hash) :
      (if sortedHashes then
        if left ≤ right then hashIntermediate sha256 left right
        else hashIntermediate sha256 right left
      else hashIntermediate sha256 left right) =
        combineNodes sha256 sortedHashes left right := by
    simp only [hashIntermediate_eq, combineNodes, combineSorted, sortedPair]
    split
    · split <;> rfl
    · rfl
  rw [nextLevel_getElem?, List.getElem?_eq_getElem inside]
  refine ⟨_, rfl, ?_⟩
  unfold pushNode
  by_cases paired : 2 * i + 1 < level.length
  · -- Both children are in the level.
    simp only [read _ inside, unwrap_some, ok_bind, if_pos paired, Nat.add_assoc,
      read _ paired, parent, List.getElem?_eq_getElem paired, Option.getD_some,
      pure_eq]
  · -- The last node of an odd level is its own neighbour.
    have missing : level[2 * i + 1]? = none :=
      List.getElem?_eq_none (Nat.not_lt.mp paired)
    simp only [read _ inside, unwrap_some, ok_bind, if_neg paired, parent,
      missing, Option.getD_none, pure_eq]

/-- The inner loop appends the first nodes of the next level, one a turn. -/
theorem pushNodes_take (before level : List Hash) {count : Nat}
    (inside : count ≤ (level.length + 1) / 2) :
    ((List.range count).foldlM
        (pushNode sha256 sortedHashes level.length before.length)
        (before ++ level) : Except (Stop ε) (List Hash)) =
      .ok (before ++ level ++
        (nextLevel (combineNodes sha256 sortedHashes) level).take count) := by
  induction count with
  | zero => simp
  | succ count inductionHypothesis =>
      obtain ⟨parent, isParent, pushes⟩ :=
        pushNode_eq ε sha256 sortedHashes before level
          ((nextLevel (combineNodes sha256 sortedHashes) level).take count)
          (show 2 * count < level.length by omega)
      rw [List.range_succ, List.foldlM_append, inductionHypothesis (by omega),
        ok_bind, List.foldlM_cons, pushes, ok_bind, List.foldlM_nil, pure_eq,
        List.take_add_one, isParent]
      simp

/-- The outer loop appends all the levels above the one it starts from. -/
theorem buildLevels_eq (before level : List Hash) :
    (buildLevels sha256 sortedHashes (before ++ level)
        (nextLevelLen level.length) (before.length + level.length)
        level.length before.length : Except (Stop ε) (List Hash)) =
      .ok (before ++ level ++
        (upperLevels (combineNodes sha256 sortedHashes) level).flatten) := by
  induction level using
      upperLevels.induct (combineNodes sha256 sortedHashes) generalizing before with
  | case1 level wide inductionHypothesis =>
      have width : nextLevelLen level.length = (level.length + 1) / 2 := by
        rw [nextLevelLen, if_neg (by omega)]
      have start : before.length + level.length = (before ++ level).length :=
        List.length_append.symm
      have full :
          (nextLevel (combineNodes sha256 sortedHashes) level).take
              ((level.length + 1) / 2) =
            nextLevel (combineNodes sha256 sortedHashes) level :=
        List.take_of_length_le (by rw [nextLevel_length])
      rw [buildLevels, dif_pos (by omega), width,
        pushNodes_take ε sha256 sortedHashes before level le_rfl, ok_bind, full,
        upperLevels_of_lt _ wide, List.flatten_cons, start]
      have rest := inductionHypothesis (before ++ level)
      rw [nextLevel_length] at rest
      rw [rest, List.append_assoc (before ++ level)]
  | case2 level narrow =>
      have width : nextLevelLen level.length = 0 := by
        unfold nextLevelLen
        split <;> omega
      rw [width, buildLevels, dif_neg (by omega), pure_eq,
        upperLevels_of_le _ (by omega)]
      simp

/-- The flat builder never panics, and its vector is the concatenation of the
levels of the hash tree. -/
theorem new_eq (items : List Bytes) :
    (MerkleTree.new sha256 items sortedHashes : Except (Stop ε) MerkleTree) =
      .ok
        { leafCount := items.length
          nodes := leavesOf sha256 items ++
            (upperLevels (combineNodes sha256 sortedHashes)
              (leavesOf sha256 items)).flatten } := by
  have levels :=
    buildLevels_eq ε sha256 sortedHashes [] (leavesOf sha256 items)
  simp only [List.nil_append, List.length_nil, Nat.zero_add,
    leavesOf_length] at levels
  simp only [MerkleTree.new]
  change (buildLevels sha256 sortedHashes (leavesOf sha256 items) _ _ _ _ >>= _) = _
  rw [levels, ok_bind, pure_eq]

/-- The stored root is the root of the hash tree. -/
theorem getRoot_of_new {items : List Bytes} {tree : MerkleTree}
    (built : (MerkleTree.new sha256 items sortedHashes :
      Except (Stop ε) MerkleTree) = .ok tree) :
    tree.getRoot =
      root (combineNodes sha256 sortedHashes) (leavesOf sha256 items) := by
  rw [new_eq, Except.ok.injEq] at built
  rw [← built, getRoot, ← root_eq_getLast?]

end Builder

/-! ## Paths -/

section Paths

variable (ε : Type) (combine : Hash → Hash → Hash)

/-- Left and right sibling of a node as `find_path` keeps them. -/
def siblingsOf (level : List Hash) (i : Nat) : Option Hash × Option Hash :=
  if i % 2 = 0 then (none, sibling level i) else (sibling level i, none)

/-- The entry above a node of a level that is not the root's. -/
def entryOf (level : List Hash) (i : Nat) (target : Hash) : ProofEntry :=
  { target
    leftSibling := (siblingsOf level i).1
    rightSibling := (siblingsOf level i).2 }

/-- The entries `find_path` collects above a node: the node's parent with the
node's sibling, and so on up to the root. -/
def entriesAbove (level : List Hash) (i : Nat) : Proof :=
  if 1 < level.length then
    (nextLevel combine level)[i / 2]?.toList.map (entryOf level i) ++
      entriesAbove (nextLevel combine level) (i / 2)
  else
    []
termination_by level.length
decreasing_by
  rw [nextLevel_length]
  omega

theorem entriesAbove_of_lt {level : List Hash} {i : Nat} {parent : Hash}
    (wide : 1 < level.length)
    (isParent : (nextLevel combine level)[i / 2]? = some parent) :
    entriesAbove combine level i =
      entryOf level i parent ::
        entriesAbove combine (nextLevel combine level) (i / 2) := by
  rw [entriesAbove, if_pos wide, isParent]
  rfl

/-- The entry pending at a node when the loop has kept siblings below it. -/
def pendingEntry (target : Hash) (lsib rsib : Option Hash) : Proof :=
  if lsib.isSome || rsib.isSome then
    [{ target, leftSibling := lsib, rightSibling := rsib }]
  else
    []

theorem pendingEntry_siblingsOf {level : List Hash} {i : Nat}
    (inside : i < level.length) (target : Hash) :
    pendingEntry target (siblingsOf level i).1 (siblingsOf level i).2 =
      [entryOf level i target] := by
  obtain ⟨other, found⟩ := exists_sibling inside
  by_cases even : i % 2 = 0
  · simp [pendingEntry, entryOf, siblingsOf, even, found]
  · simp [pendingEntry, entryOf, siblingsOf, even, found]

/-- The slice of one level out of the flat vector. -/
theorem sliceRange_level (before level after : List Hash) :
    (sliceRange (before ++ level ++ after) before.length
      (before.length + level.length) : Except (Stop ε) (List Hash)) =
        .ok level := by
  unfold sliceRange
  rw [require_of (by simp), ok_bind, pure_eq, List.append_assoc,
    List.drop_left, Nat.add_sub_cancel_left, List.take_left]

/-- The assertion of `ProofEntry::new` holds for the siblings the loop keeps. -/
theorem pushEntry_eq {target : Hash} {lsib rsib : Option Hash} (path : Proof)
    (single : lsib = none ∨ rsib = none) :
    (pushEntry path target lsib rsib : Except (Stop ε) Proof) =
      .ok (path ++ pendingEntry target lsib rsib) := by
  unfold pushEntry pendingEntry ProofEntry.new
  rcases single with rfl | rfl
  · cases rsib <;> simp [require_of]
  · cases lsib <;> simp [require_of]

theorem readSiblings_eq {level : List Hash} {i : Nat} (inside : i < level.length) :
    (readSiblings level i : Except (Stop ε) (Option Hash × Option Hash)) =
      .ok (siblingsOf level i) := by
  unfold readSiblings siblingsOf sibling
  by_cases even : i % 2 = 0
  · simp only [if_pos even]
    by_cases neighbour : i + 1 < level.length
    · simp [if_pos neighbour, List.getElem?_eq_getElem neighbour]
    · have missing : level[i + 1]? = none :=
        List.getElem?_eq_none (Nat.not_lt.mp neighbour)
      simp [if_neg neighbour, missing, List.getElem?_eq_getElem inside]
  · have left : level[i - 1]? = some level[i - 1] :=
      List.getElem?_eq_getElem (by omega)
    simp [if_neg even, left]

theorem siblingsOf_single (level : List Hash) (i : Nat) :
    (siblingsOf level i).1 = none ∨ (siblingsOf level i).2 = none := by
  unfold siblingsOf
  split
  · exact Or.inl rfl
  · exact Or.inr rfl

/-- The loop of `find_path`, started at any level, never panics and collects the
pending entry and all entries above. -/
theorem findPathLoop_eq (before level : List Hash) {i : Nat} {target : Hash}
    (present : level[i]? = some target) {lsib rsib : Option Hash}
    (single : lsib = none ∨ rsib = none) (path : Proof) :
    (findPathLoop (before ++ level ++ (upperLevels combine level).flatten)
        level.length before.length i lsib rsib path : Except (Stop ε) Proof) =
      .ok (path ++ pendingEntry target lsib rsib ++
        entriesAbove combine level i) := by
  induction level using upperLevels.induct combine
      generalizing before i target lsib rsib path with
  | case1 level wide inductionHypothesis =>
      obtain ⟨inside, _⟩ := List.getElem?_eq_some_iff.mp present
      obtain ⟨parent, isParent⟩ := exists_parent combine inside
      have width : nextLevelLen level.length = (nextLevel combine level).length := by
        rw [nextLevelLen, if_neg (by omega), nextLevel_length]
      have start : before.length + level.length = (before ++ level).length :=
        List.length_append.symm
      have rest := inductionHypothesis (before ++ level) isParent
        (siblingsOf_single level i) (path ++ pendingEntry target lsib rsib)
      rw [findPathLoop, dif_pos (by omega), sliceRange_level, ok_bind, present,
        unwrap_some, ok_bind, pushEntry_eq ε path single, ok_bind,
        readSiblings_eq ε inside, ok_bind, width, start,
        upperLevels_of_lt combine wide, List.flatten_cons, ← List.append_assoc,
        rest, pendingEntry_siblingsOf inside,
        entriesAbove_of_lt combine wide isParent]
      simp
  | case2 level narrow =>
      obtain ⟨inside, _⟩ := List.getElem?_eq_some_iff.mp present
      have width : nextLevelLen level.length = 0 := by
        rw [nextLevelLen, if_pos (by omega)]
      rw [findPathLoop, dif_pos (by omega), sliceRange_level, ok_bind, present,
        unwrap_some, ok_bind, pushEntry_eq ε path single, ok_bind,
        readSiblings_eq ε inside, ok_bind, width, findPathLoop,
        dif_neg (by omega), pure_eq, entriesAbove, if_neg narrow, List.append_nil]

/-- The siblings of the collected entries are the path of the hash tree. -/
theorem mapM_sibling_entriesAbove (level : List Hash) {i : Nat}
    (inside : i < level.length) :
    ((entriesAbove combine level i).mapM ProofEntry.sibling :
      Except (Stop ε) (List Hash)) = .ok (HashTree.path combine level i) := by
  induction level using upperLevels.induct combine generalizing i with
  | case1 level wide inductionHypothesis =>
      obtain ⟨parent, isParent⟩ := exists_parent combine inside
      obtain ⟨other, found⟩ := exists_sibling inside
      have rest := inductionHypothesis (half_lt_nextLevel combine inside)
      have one : ((entryOf level i parent).sibling : Except (Stop ε) Hash) =
          .ok other := by
        by_cases even : i % 2 = 0
        · simp [ProofEntry.sibling, entryOf, siblingsOf, even, found]
        · simp [ProofEntry.sibling, entryOf, siblingsOf, even, found]
      rw [entriesAbove_of_lt combine wide isParent, HashTree.path, if_pos wide,
        found, List.mapM_cons, one, ok_bind, rest, ok_bind, pure_eq]
      rfl
  | case2 level narrow =>
      rw [entriesAbove, if_neg narrow, HashTree.path, if_neg narrow]
      rfl

end Paths

end MerkleTree

/-- `find_path` on a tree just built returns a path for every index of an item. -/
theorem findPath_of_new (ε : Type) {sha256 : Bytes → Hash} {sortedHashes : Bool}
    {items : List Bytes} {tree : MerkleTree}
    (built : (MerkleTree.new sha256 items sortedHashes :
      Except (Stop ε) MerkleTree) = .ok tree)
    {i : Nat} (inside : i < items.length) :
    (tree.findPath i : Except (Stop ε) (Option Proof)) =
      .ok (some (MerkleTree.entriesAbove (combineNodes sha256 sortedHashes)
        (leavesOf sha256 items) i)) := by
  rw [MerkleTree.new_eq, Except.ok.injEq] at built
  have insideLeaves : i < (leavesOf sha256 items).length := by simpa using inside
  have collected :=
    MerkleTree.findPathLoop_eq ε (combineNodes sha256 sortedHashes) []
      (leavesOf sha256 items) (List.getElem?_eq_getElem insideLeaves)
      (Or.inl rfl : (none : Option Hash) = none ∨ (none : Option Hash) = none) []
  rw [leavesOf_length] at collected
  subst built
  rw [MerkleTree.findPath, if_neg (by simpa using inside)]
  simp only [List.nil_append, List.length_nil] at collected
  rw [collected]
  simp only [ok_bind, pure_eq, MerkleTree.pendingEntry, Option.isSome_none, Bool.or_self,
    Bool.false_eq_true, if_false, List.nil_append]

/-- `get_proof` on a tree just built returns the path of the hash tree, and
panics for no index of an item. -/
theorem getProof_of_new (ε : Type) {sha256 : Bytes → Hash} {sortedHashes : Bool}
    {items : List Bytes} {tree : MerkleTree}
    (built : (MerkleTree.new sha256 items sortedHashes :
      Except (Stop ε) MerkleTree) = .ok tree)
    {i : Nat} (inside : i < items.length) :
    (getProof tree i : Except (Stop ε) (List Hash)) =
      .ok (HashTree.path (combineNodes sha256 sortedHashes)
        (leavesOf sha256 items) i) := by
  rw [getProof, findPath_of_new ε built inside, ok_bind, unwrap_some, ok_bind]
  exact MerkleTree.mapM_sibling_entriesAbove ε _ _ (by simpa using inside)

end Airdrop
