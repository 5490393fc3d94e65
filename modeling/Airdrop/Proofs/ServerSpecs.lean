/-
Module: Airdrop.Proofs.ServerSpecs
Purpose: What the server holds once it has loaded a folder, when the loading
  succeeds, and what a request for a claimant returns.
Trusted boundary: none
Main exports: distributorOf, servedEntries, lookup_of_loadTrees, exists_loadTrees,
  getUserInfo_eq_ok
-/
import Airdrop.Api.Server
import Airdrop.Proofs.Deployment

namespace Airdrop

open Checked LastWins

section Loading

variable {findProgramAddress : List Bytes → Pubkey → Pubkey × UInt8} {texts : Texts}
variable {args : ApiArgs}

/-- The distributor that a tree belongs to. -/
def distributorOf (findProgramAddress : List Bytes → Pubkey → Pubkey × UInt8)
    (args : ApiArgs) (tree : AirdropMerkleTree) : Pubkey :=
  (getMerkleDistributorPda findProgramAddress args.programId args.base args.mint
    tree.airdropVersion).1

/-- What the server inserts for a tree. -/
def servedEntries (findProgramAddress : List Bytes → Pubkey → Pubkey × UInt8)
    (args : ApiArgs) (file : TreeFile) : List (Pubkey × (Pubkey × TreeNode)) :=
  file.tree.treeNodes.map fun node =>
    (node.claimant, (distributorOf findProgramAddress args file.tree, node))

/-- What one round does to the map, where it succeeds. -/
theorem loadTree_tree {loading next : Loading} {file : TreeFile}
    (loaded : loadTree findProgramAddress texts args loading file = .ok next) :
    next.tree = insertAll loading.tree (servedEntries findProgramAddress args file) := by
  rw [loadTree] at loaded
  simp only [bind_eq_ok] at loaded
  obtain ⟨_, _, _, _, _, _, result⟩ := loaded
  rw [← Except.ok.inj result, insertAll, servedEntries, List.foldl_map]
  rfl

/-- The tree's two totals together. -/
def claimTotal (file : TreeFile) : Nat :=
  file.tree.totalUnlockedAmount.toNat + file.tree.totalLockedAmount.toNat

/-- One round succeeds where its two sums fit, and then these are the sums. -/
theorem exists_loadTree (findProgramAddress : List Bytes → Pubkey → Pubkey × UInt8)
    (texts : Texts) (args : ApiArgs) (loading : Loading) (file : TreeFile)
    (claimFits : loading.maxTotalClaim.toNat + claimTotal file < 2 ^ 64)
    (nodesFit : loading.maxNumNodes.toNat + file.tree.maxNumNodes.toNat < 2 ^ 64) :
    ∃ next, loadTree findProgramAddress texts args loading file = .ok next ∧
      next.maxTotalClaim.toNat = loading.maxTotalClaim.toNat + claimTotal file ∧
      next.maxNumNodes.toNat =
        loading.maxNumNodes.toNat + file.tree.maxNumNodes.toNat := by
  rw [claimTotal] at claimFits
  obtain ⟨claim, isClaim, claimValue⟩ := exists_checkedAdd
    (a := file.tree.totalUnlockedAmount) (b := file.tree.totalLockedAmount) (by omega)
  obtain ⟨total, isTotal, totalValue⟩ := exists_checkedAdd
    (a := loading.maxTotalClaim) (b := claim) (by omega)
  obtain ⟨nodes, isNodes, nodesValue⟩ := exists_checkedAdd nodesFit
  have called : unwrapCall (file.tree.getMaxTotalClaim : Except (Stop Empty) U64) =
      .ok claim := by
    rw [unwrapCall_eq_ok, AirdropMerkleTree.getMaxTotalClaim, unwrap_eq_ok, isClaim]
  rw [loadTree]
  simp only [called, ok_bind, isTotal, isNodes, okOr]
  refine ⟨_, rfl, ?_, nodesValue⟩
  rw [claimTotal, ← claimValue]
  exact totalValue

/-- What the loop has inserted after some trees. -/
theorem loadTree_foldlM {files : List TreeFile} {loading last : Loading}
    (loaded : files.foldlM (loadTree findProgramAddress texts args) loading = .ok last) :
    last.tree = insertAll loading.tree
      (files.flatMap (servedEntries findProgramAddress args)) := by
  induction files generalizing loading with
  | nil =>
      cases loaded
      rfl
  | cons file files inductionHypothesis =>
      rw [List.foldlM_cons, bind_eq_ok] at loaded
      obtain ⟨next, now, later⟩ := loaded
      rw [inductionHypothesis later, loadTree_tree now, List.flatMap_cons, insertAll,
        insertAll, insertAll, List.foldl_append]

/-- A loaded server holds for each key what was inserted last, in the order of the
file names. -/
theorem lookup_of_loadTrees {listing : List TreeFile} {state : RouterState}
    (loaded : loadTrees findProgramAddress texts args listing = .ok state)
    (key : Pubkey) :
    state.tree.lookup key = lastValue
      ((sortByPath listing).flatMap (servedEntries findProgramAddress args)) key := by
  rw [loadTrees, bind_eq_ok] at loaded
  obtain ⟨loading, done, result⟩ := loaded
  rw [← Except.ok.inj result]
  change loading.tree.lookup key = _
  rw [loadTree_foldlM done, lookup_insertAll, AList.lookup_empty, Option.or_none]

/-- The server loads every folder whose totals and counts fit together. -/
theorem exists_loadTrees {listing : List TreeFile}
    (claimsFit : (listing.map claimTotal).sum < 2 ^ 64)
    (nodesFit : (listing.map fun file => file.tree.maxNumNodes.toNat).sum < 2 ^ 64) :
    ∃ state, loadTrees findProgramAddress texts args listing = .ok state := by
  have order := sortByPath_perm listing
  rw [← (order.map claimTotal).sum_eq] at claimsFit
  rw [← (order.map fun file => file.tree.maxNumNodes.toNat).sum_eq] at nodesFit
  obtain ⟨loading, done, _⟩ := exists_foldlM (loadTree findProgramAddress texts args)
    (sortByPath listing)
    { tree := ∅, maxNumNodes := 0, maxTotalClaim := 0, distributors := [] }
    (fun finished loading =>
      loading.maxTotalClaim.toNat = (finished.map claimTotal).sum ∧
      loading.maxNumNodes.toNat =
        (finished.map fun file => file.tree.maxNumNodes.toNat).sum)
    ⟨rfl, rfl⟩ (by
      rintro finished file loading ⟨later, whole⟩ ⟨claims, nodes⟩
      simp only [← whole, List.map_append, List.sum_append, List.map_singleton,
        List.sum_singleton] at claimsFit nodesFit
      obtain ⟨next, now, nextClaims, nextNodes⟩ := exists_loadTree findProgramAddress
        texts args loading file (by omega) (by omega)
      refine ⟨next, now, ?_⟩
      simp only [List.map_append, List.sum_append, List.map_singleton,
        List.sum_singleton]
      omega)
  rw [loadTrees]
  simp only [done, ok_bind]
  exact ⟨_, rfl⟩

end Loading

/-! ## Requests -/

section Requests

variable {texts : Texts} {state : RouterState} {text : String} {record : UserProof}

/-- A request is answered exactly for the text of a key under which the server holds
a node with a proof. -/
theorem getUserInfo_eq_ok :
    getUserInfo texts state text = .ok record ↔
      ∃ key distributor node proof, texts.parsePubkey text = some key ∧
        state.tree.lookup key = some (distributor, node) ∧ node.proof = some proof ∧
        record =
          { merkleTree := texts.pubkeyText distributor
            amount := node.amount
            lockedAmount := node.lockedAmount
            proof } := by
  rw [getUserInfo]
  simp only [bind_eq_ok, okOr_eq_ok, pure_eq, Except.ok.injEq, Prod.exists]
  constructor
  · rintro ⟨key, parsed, distributor, node, found, proof, proved, rfl⟩
    exact ⟨key, distributor, node, proof, parsed, found, proved, rfl⟩
  · rintro ⟨key, distributor, node, proof, parsed, found, proved, rfl⟩
    exact ⟨key, parsed, distributor, node, found, proof, proved, rfl⟩

end Requests

/-! ## A small folder -/

section Sample

/-- The identifier of the program. -/
def sampleProgramId : Pubkey := .ofNat
  0xc12d2d9461bce7bfb863c78beb262cb99401a0a7f9ab3f7c29d141607c4785df

/-- The addresses of the distributors with base, mint and the first four versions. -/
def folderFind (seeds : List Bytes) (programId : Pubkey) : Pubkey × UInt8 :=
  if programId ≠ sampleProgramId then (.replicate 255, 255)
  else if seeds = distributorSeeds sampleBase sampleMint 0 then (sampleKey, 254)
  else if seeds = distributorSeeds sampleBase sampleMint 1 then
    (.ofNat 0x3eb62914a963093a31d2c41a6c3ceb4af6f16765c6556b6fa7bb506eb8c365a3, 255)
  else if seeds = distributorSeeds sampleBase sampleMint 2 then
    (.ofNat 0x954a81a0ee2b9e510c4e283397cb31ca09f540d6d9cceae6c88e9947718ce4b8, 255)
  else if seeds = distributorSeeds sampleBase sampleMint 3 then
    (.ofNat 0x95fe36a3bc27125856878d379bdd81ee3a82080b76068cfb27bab79be975000a, 254)
  else (.replicate 255, 255)

/-- The server's arguments. -/
def sampleApiArgs : ApiArgs :=
  { base := sampleBase, mint := sampleMint, programId := sampleProgramId }

end Sample

end Airdrop
