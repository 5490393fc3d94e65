/-
Module: Airdrop.Core.Verify
Purpose: The proof check shared by the tree builder and the on-chain program,
  the leaf that a claim is checked against, and the byte strings the check
  hashes.
Trusted boundary: none
Main exports: verify, claimLeaf, claimInputs, verify_iff_foldl,
  separated_of_noCollision, claimLeaf_sound
-/
import Airdrop.Core.Bytes
import Airdrop.Library.HashTree

namespace Airdrop

open HashTree

/-! ## Source definitions -/

/-- `LEAF_PREFIX` -/
def leafPrefix : Bytes := [0]

/-- `INTERMEDIATE_PREFIX`, written `[1u8]` in `verify`. -/
def intermediatePrefix : Bytes := [1]

/-- `jito_merkle_verify::verify`: fold the proof onto the leaf, the smaller
digest of each pair first, and compare with the root. -/
def verify (sha256 : Bytes → Hash) (proof : List Hash) (root leaf : Hash) : Bool :=
  let computedHash := proof.foldl
    (fun computedHash proofElement =>
      if computedHash ≤ proofElement then
        hashv sha256
          [intermediatePrefix, computedHash.toBytes, proofElement.toBytes]
      else
        hashv sha256
          [intermediatePrefix, proofElement.toBytes, computedHash.toBytes])
    leaf
  computedHash = root

/-- The leaf `handle_new_claim` verifies: the hash of the claim's data, hashed
again behind the leaf prefix. -/
def claimLeaf (sha256 : Bytes → Hash) (claimant : Pubkey)
    (amountUnlocked amountLocked : U64) : Hash :=
  let node := hashv sha256
    [claimant.toBytes, toLeBytes amountUnlocked, toLeBytes amountLocked]
  hashv sha256 [leafPrefix, node.toBytes]

/-! ## The byte strings hashed -/

/-- What is hashed for a claim's data. -/
def nodeInput (claimant : Pubkey) (amountUnlocked amountLocked : U64) : Bytes :=
  claimant.toBytes ++ toLeBytes amountUnlocked ++ toLeBytes amountLocked

/-- What is hashed for a leaf over a node digest. -/
def leafInput (node : Hash) : Bytes := leafPrefix ++ node.toBytes

/-- What is hashed for an inner node over its two children. -/
def pairInput (pair : Hash × Hash) : Bytes :=
  intermediatePrefix ++ pair.1.toBytes ++ pair.2.toBytes

/-- The digest of a leaf over a node digest. -/
def hashLeafNode (sha256 : Bytes → Hash) (node : Hash) : Hash :=
  sha256 (leafInput node)

/-- The digest of an inner node over its two children. -/
def hashPair (sha256 : Bytes → Hash) (pair : Hash × Hash) : Hash :=
  sha256 (pairInput pair)

/-- Every byte string hashed when a claim is checked. -/
def claimInputs (sha256 : Bytes → Hash) (claimant : Pubkey)
    (amountUnlocked amountLocked : U64) (proof : List Hash) : List Bytes :=
  let node := nodeInput claimant amountUnlocked amountLocked
  node :: leafInput (sha256 node) ::
    (foldPairs (hashPair sha256) (hashLeafNode sha256 (sha256 node)) proof).map
      pairInput

section Inputs

variable {sha256 : Bytes → Hash}

theorem claimLeaf_eq (claimant : Pubkey) (amountUnlocked amountLocked : U64) :
    claimLeaf sha256 claimant amountUnlocked amountLocked =
      hashLeafNode sha256
        (sha256 (nodeInput claimant amountUnlocked amountLocked)) := by
  simp [claimLeaf, hashv, hashLeafNode, leafInput, nodeInput]

/-- The check folds the proof with the sorted combiner. -/
theorem verify_iff_foldl {proof : List Hash} {root leaf : Hash} :
    verify sha256 proof root leaf = true ↔
      proof.foldl (combineSorted (hashPair sha256)) leaf = root := by
  have sameStep :
      (fun computedHash proofElement : Hash =>
        if computedHash ≤ proofElement then
          hashv sha256
            [intermediatePrefix, computedHash.toBytes, proofElement.toBytes]
        else
          hashv sha256
            [intermediatePrefix, proofElement.toBytes, computedHash.toBytes]) =
        combineSorted (hashPair sha256) := by
    funext computedHash proofElement
    unfold combineSorted sortedPair
    split <;> simp [hashv, hashPair, pairInput]
  rw [verify, sameStep]
  simp

theorem leafInput_injective : Function.Injective leafInput := by
  intro a b same
  exact Bytes32.ext (List.append_cancel_left same)

theorem pairInput_injective : Function.Injective pairInput := by
  intro a b same
  simp only [pairInput, List.append_assoc] at same
  have tails := List.append_cancel_left same
  have parts := List.append_inj tails (by rw [a.1.length_eq, b.1.length_eq])
  exact Prod.ext (Bytes32.ext parts.1) (Bytes32.ext parts.2)

/-- A leaf input is never an inner input: their first bytes differ. -/
theorem leafInput_ne_pairInput (node : Hash) (pair : Hash × Hash) :
    leafInput node ≠ pairInput pair := by
  simp [leafInput, pairInput, leafPrefix, intermediatePrefix]

/-- The encoding of a claim's data determines the claim. -/
theorem nodeInput_inj {claimant other : Pubkey}
    {amountUnlocked otherUnlocked amountLocked otherLocked : U64}
    (same : nodeInput claimant amountUnlocked amountLocked =
      nodeInput other otherUnlocked otherLocked) :
    claimant = other ∧ amountUnlocked = otherUnlocked ∧
      amountLocked = otherLocked := by
  simp only [nodeInput, List.append_assoc] at same
  have keys := List.append_inj same (by rw [claimant.length_eq, other.length_eq])
  have amounts := List.append_inj keys.2 (by simp)
  exact ⟨Bytes32.ext keys.1, toLeBytes_inj amounts.1, toLeBytes_inj amounts.2⟩

/-- Without a collision among the inputs used, leaves and inner nodes are
separated in the sense of the hash tree. -/
theorem separated_of_noCollision {inputs : List Bytes}
    (noCollision : NoCollision sha256 inputs) :
    Separated (hashLeafNode sha256) (hashPair sha256)
      {node | leafInput node ∈ inputs} {pair | pairInput pair ∈ inputs} where
  leaf_inj := fun _ first _ second same =>
    leafInput_injective (noCollision _ first _ second same)
  node_inj := fun _ first _ second same =>
    pairInput_injective (noCollision _ first _ second same)
  apart := fun node nodeUsed pair pairUsed same =>
    leafInput_ne_pairInput node pair (noCollision _ nodeUsed _ pairUsed same)

/-- If a claim's leaf is proved under a digest grown from the leaves over
`nodes`, then the digest of the claim's data is one of `nodes`. -/
theorem claimLeaf_sound {inputs : List Bytes} {nodes : Set Hash} {root : Hash}
    (noCollision : NoCollision sha256 inputs)
    (nodesUsed : ∀ node ∈ nodes, leafInput node ∈ inputs)
    (grown : Grown (hashLeafNode sha256) (hashPair sha256) nodes
      {pair | pairInput pair ∈ inputs} root)
    {claimant : Pubkey} {amountUnlocked amountLocked : U64}
    {proof : List Hash}
    (claimUsed :
      claimInputs sha256 claimant amountUnlocked amountLocked proof ⊆ inputs)
    (accepted : verify sha256 proof root
      (claimLeaf sha256 claimant amountUnlocked amountLocked) = true) :
    sha256 (nodeInput claimant amountUnlocked amountLocked) ∈ nodes := by
  rw [verify_iff_foldl, claimLeaf_eq] at accepted
  refine grown.sound (separated_of_noCollision noCollision) nodesUsed
    (claimUsed (by simp [claimInputs])) ?_ accepted
  intro pair member
  exact claimUsed (by
    simp only [claimInputs, List.mem_cons, List.mem_map]
    exact Or.inr (Or.inr ⟨pair, member, rfl⟩))

end Inputs

end Airdrop
