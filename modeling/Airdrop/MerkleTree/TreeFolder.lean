/-
Module: Airdrop.MerkleTree.TreeFolder
Purpose: Trees in a folder: the order in which the commands and the server go
  through it, the distributor that belongs to a tree, and the proof that is given to
  a claimant.
Trusted boundary: the derivation of addresses is a parameter; the JSON of the files
  is left out
Main exports: TreeFile, sortByPath, getMerkleDistributorPda, UserProof
-/
import Airdrop.MerkleTree.AirdropMerkleTree
import Airdrop.Program.Accounts
import Mathlib.Data.List.Sort
import Mathlib.Data.String.Basic

namespace Airdrop

/-- A tree in a folder, under the name of its file. -/
structure TreeFile where
  name : String
  tree : AirdropMerkleTree
deriving DecidableEq

/-- `paths.sort_by_key(|dir| dir.path())`, on the files as `fs::read_dir` lists
them. -/
def sortByPath (listing : List TreeFile) : List TreeFile :=
  listing.insertionSort fun one other => one.name ≤ other.name

/-- `get_merkle_distributor_pda` -/
def getMerkleDistributorPda
    (findProgramAddress : List Bytes → Pubkey → Pubkey × UInt8)
    (programId base mint : Pubkey) (version : U64) : Pubkey × UInt8 :=
  findProgramAddress (distributorSeeds base mint version) programId

/-- `UserProof` -/
structure UserProof where
  merkleTree : String
  amount : U64
  lockedAmount : U64
  proof : List Hash
deriving DecidableEq

section SortByPath

variable {listing files : List TreeFile}

theorem sortByPath_perm (listing : List TreeFile) : (sortByPath listing).Perm listing :=
  List.perm_insertionSort _ _

theorem sortByPath_sorted (listing : List TreeFile) :
    (sortByPath listing).Pairwise fun one other => one.name ≤ other.name := by
  have : Std.Total fun one other : TreeFile => one.name ≤ other.name :=
    ⟨fun one other => le_total one.name other.name⟩
  have : IsTrans TreeFile fun one other => one.name ≤ other.name :=
    ⟨fun _ _ _ => le_trans⟩
  exact List.pairwise_insertionSort _ _

/-- The order is that of the names, however the folder was listed. -/
theorem sortByPath_eq (distinct : (files.map TreeFile.name).Nodup)
    (lists : listing.Perm files) : sortByPath listing = sortByPath files := by
  have order := ((sortByPath_perm listing).trans lists).trans (sortByPath_perm files).symm
  refine order.eq_of_pairwise ?_ (sortByPath_sorted listing) (sortByPath_sorted files)
  intro one other isOne isOther before after
  have oneFile : one ∈ files := lists.mem_iff.mp ((sortByPath_perm listing).mem_iff.mp isOne)
  have otherFile : other ∈ files := (sortByPath_perm files).mem_iff.mp isOther
  exact List.inj_on_of_nodup_map distinct oneFile otherFile (le_antisymm before after)

end SortByPath

-- The names are compared as texts: the eleventh tree comes before the third.
example : "tree_10.json" < "tree_2.json" := by decide +kernel

end Airdrop
