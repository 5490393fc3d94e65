/-
Module: Airdrop.MerkleTree.Tree
Purpose: The flat Merkle tree of `merkle-tree/src/merkle_tree.rs` with its
  builder, its path extraction and verification, and `get_proof` of `utils.rs`.
Trusted boundary: none
Main exports: MerkleTree, Proof.verify, MerkleTree.new, MerkleTree.getRoot,
  MerkleTree.findPath, getProof
-/
import Airdrop.Core.Verify
import Airdrop.Library.Checked

namespace Airdrop

open Checked

/-!
Every index and slice of the source that could be out of range, every `unwrap`
and every assertion is a possible `panic` here, so that a result `.ok` also says
that the code does not panic.  `calculate_vec_capacity` only sizes the vector's
allocation and is left out.
-/

/-- `hash_leaf!` -/
def hashLeaf (sha256 : Bytes → Hash) (item : Bytes) : Hash :=
  hashv sha256 [leafPrefix, item]

/-- `hash_intermediate!` -/
def hashIntermediate (sha256 : Bytes → Hash) (left right : Hash) : Hash :=
  hashv sha256 [intermediatePrefix, left.toBytes, right.toBytes]

structure MerkleTree where
  leafCount : Nat
  nodes : List Hash
deriving DecidableEq

structure ProofEntry where
  target : Hash
  leftSibling : Option Hash
  rightSibling : Option Hash
deriving DecidableEq

/-- `ProofEntry::new`, which asserts that exactly one sibling is given. -/
def ProofEntry.new {ε : Type} (target : Hash)
    (leftSibling rightSibling : Option Hash) :
    Except (Stop ε) ProofEntry := do
  require (leftSibling.isNone ^^ rightSibling.isNone) .panic
  pure { target, leftSibling, rightSibling }

abbrev Proof := List ProofEntry

/-- `Proof::verify`.  An empty proof accepts every candidate. -/
def Proof.verify (sha256 : Bytes → Hash) (self : Proof) (candidate : Hash) : Bool :=
  let result := self.foldlM
    (fun candidate pe =>
      let lsib := pe.leftSibling.getD candidate
      let rsib := pe.rightSibling.getD candidate
      let hash := hashIntermediate sha256 lsib rsib
      if hash = pe.target then some hash else none)
    candidate
  result.isSome

/-- `slice[start..stop]` -/
def sliceRange {ε α : Type} (slice : List α) (start stop : Nat) :
    Except (Stop ε) (List α) := do
  require (start ≤ stop ∧ stop ≤ slice.length) .panic
  pure ((slice.drop start).take (stop - start))

namespace MerkleTree

/-- `MerkleTree::next_level_len` -/
def nextLevelLen (levelLen : Nat) : Nat :=
  if levelLen = 1 then 0 else (levelLen + 1) / 2

theorem nextLevelLen_lt {levelLen : Nat} (positive : 0 < levelLen) :
    nextLevelLen levelLen < levelLen := by
  unfold nextLevelLen
  split <;> omega

/-- One turn of the `for` loop in `MerkleTree::new`: hash the children of node
`i` of the new level and push the digest. -/
def pushNode {ε : Type} (sha256 : Bytes → Hash) (sortedHashes : Bool)
    (prevLevelLen prevLevelStart : Nat) (nodes : List Hash) (i : Nat) :
    Except (Stop ε) (List Hash) := do
  let prevLevelIdx := 2 * i
  let lsib ← unwrap nodes[prevLevelStart + prevLevelIdx]?
  -- Duplicate last entry if the level length is odd.
  let rsib ←
    if prevLevelIdx + 1 < prevLevelLen then
      unwrap nodes[prevLevelStart + prevLevelIdx + 1]?
    else
      unwrap nodes[prevLevelStart + prevLevelIdx]?
  let hash :=
    if sortedHashes then
      if lsib ≤ rsib then hashIntermediate sha256 lsib rsib
      else hashIntermediate sha256 rsib lsib
    else
      hashIntermediate sha256 lsib rsib
  pure (nodes ++ [hash])

/-- The `while` loop of `MerkleTree::new`. -/
def buildLevels {ε : Type} (sha256 : Bytes → Hash) (sortedHashes : Bool)
    (nodes : List Hash)
    (levelLen levelStart prevLevelLen prevLevelStart : Nat) :
    Except (Stop ε) (List Hash) :=
  if _positive : 0 < levelLen then do
    let nodes ← (List.range levelLen).foldlM
      (pushNode sha256 sortedHashes prevLevelLen prevLevelStart) nodes
    buildLevels sha256 sortedHashes nodes (nextLevelLen levelLen)
      (levelStart + levelLen) levelLen levelStart
  else
    pure nodes
termination_by levelLen
decreasing_by exact nextLevelLen_lt (by assumption)

/-- `MerkleTree::new` -/
def new {ε : Type} (sha256 : Bytes → Hash) (items : List Bytes)
    (sortedHashes : Bool) : Except (Stop ε) MerkleTree := do
  let nodes := items.map (hashLeaf sha256)
  let nodes ← buildLevels sha256 sortedHashes nodes
    (nextLevelLen items.length) items.length items.length 0
  pure { leafCount := items.length, nodes }

/-- `MerkleTree::get_root` -/
def getRoot (tree : MerkleTree) : Option Hash := tree.nodes.getLast?

/-- Push the entry of `target`, once the loop of `find_path` has kept a sibling
of the node below it. -/
def pushEntry {ε : Type} (path : Proof) (target : Hash)
    (lsib rsib : Option Hash) : Except (Stop ε) Proof :=
  if lsib.isSome || rsib.isSome then do
    let entry ← ProofEntry.new target lsib rsib
    pure (path ++ [entry])
  else
    pure path

/-- The left and right sibling the loop of `find_path` keeps for the next turn. -/
def readSiblings {ε : Type} (level : List Hash) (nodeIndex : Nat) :
    Except (Stop ε) (Option Hash × Option Hash) :=
  if nodeIndex % 2 = 0 then do
    let right ←
      if nodeIndex + 1 < level.length then unwrap level[nodeIndex + 1]?
      else unwrap level[nodeIndex]?
    pure (none, some right)
  else do
    let left ← unwrap level[nodeIndex - 1]?
    pure (some left, none)

/-- The `while` loop of `MerkleTree::find_path`. -/
def findPathLoop {ε : Type} (nodes : List Hash)
    (levelLen levelStart nodeIndex : Nat) (lsib rsib : Option Hash)
    (path : Proof) : Except (Stop ε) Proof :=
  if _positive : 0 < levelLen then do
    let level ← sliceRange nodes levelStart (levelStart + levelLen)
    let target ← unwrap level[nodeIndex]?
    let path ← pushEntry path target lsib rsib
    let siblings ← readSiblings level nodeIndex
    findPathLoop nodes (nextLevelLen levelLen) (levelStart + levelLen)
      (nodeIndex / 2) siblings.1 siblings.2 path
  else
    pure path
termination_by levelLen
decreasing_by exact nextLevelLen_lt (by assumption)

/-- `MerkleTree::find_path` -/
def findPath {ε : Type} (tree : MerkleTree) (index : Nat) :
    Except (Stop ε) (Option Proof) :=
  if tree.leafCount ≤ index then
    pure none
  else do
    let path ← findPathLoop tree.nodes tree.leafCount 0 index none none []
    pure (some path)

end MerkleTree

/-- The sibling of one path entry, as `get_proof` collects it. -/
def ProofEntry.sibling {ε : Type} (branch : ProofEntry) :
    Except (Stop ε) Hash :=
  match branch.leftSibling, branch.rightSibling with
  | some hash, _ => pure hash
  | none, some hash => pure hash
  | none, none => throw .panic

/-- `get_proof` of `utils.rs` -/
def getProof {ε : Type} (merkleTree : MerkleTree) (index : Nat) :
    Except (Stop ε) (List Hash) := do
  let found ← merkleTree.findPath index
  let path ← unwrap found
  path.mapM ProofEntry.sibling

end Airdrop
