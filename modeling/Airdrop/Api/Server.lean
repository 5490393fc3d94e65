/-
Module: Airdrop.Api.Server
Purpose: The API server: how `main.rs` loads a folder of trees, and
  `get_user_info` and `get_distributors` of `router.rs`.
Trusted boundary: the HTTP layer, reading the files, and log messages are left out
Main exports: ApiArgs, RouterState, loadTree, loadTrees, ApiError, getUserInfo,
  getDistributors
-/
import Airdrop.Cli.CreateMerkleTree
import Airdrop.Library.LastWins

namespace Airdrop

open Checked LastWins

/-! ## The state -/

/-- `Args`, without the addresses of the server and of the folder. -/
structure ApiArgs where
  base : Pubkey
  mint : Pubkey
  programId : Pubkey
deriving DecidableEq

structure SingleDistributor where
  distributorPubkey : String
  merkleRoot : Hash
  airdropVersion : U64
  maxNumNodes : U64
  maxTotalClaim : U64
deriving DecidableEq

structure Distributors where
  maxNumNodes : U64
  maxTotalClaim : U64
  trees : List SingleDistributor
deriving DecidableEq

/-- The `HashMap` from claimants to their distributors and nodes. -/
abbrev ClaimantMap := Map Pubkey (Pubkey × TreeNode)

structure RouterState where
  programId : Pubkey
  distributors : Distributors
  tree : ClaimantMap

/-! ## Loading -/

section Loading

variable (findProgramAddress : List Bytes → Pubkey → Pubkey × UInt8) (texts : Texts)
variable (args : ApiArgs)

/-- The variables of the loading loop. -/
structure Loading where
  tree : ClaimantMap
  maxNumNodes : U64
  maxTotalClaim : U64
  distributors : List SingleDistributor

/-- One round of the loop: a single tree. -/
def loadTree (loading : Loading) (file : TreeFile) : Except Halt Loading := do
  let singleTree := file.tree
  let (distributorPubkey, _bump) := getMerkleDistributorPda findProgramAddress
    args.programId args.base args.mint singleTree.airdropVersion
  let claim ← unwrapCall (singleTree.getMaxTotalClaim : Except (Stop Empty) U64)
  let maxTotalClaim ← okOr (checkedAdd loading.maxTotalClaim claim) .panic
  let maxNumNodes ← okOr (checkedAdd loading.maxNumNodes singleTree.maxNumNodes) .panic
  let distributor : SingleDistributor :=
    { distributorPubkey := texts.pubkeyText distributorPubkey
      merkleRoot := singleTree.merkleRoot
      airdropVersion := singleTree.airdropVersion
      maxNumNodes := singleTree.maxNumNodes
      maxTotalClaim := claim }
  let tree := singleTree.treeNodes.foldl
    (fun tree node => tree.insert node.claimant (distributorPubkey, node)) loading.tree
  pure
    { tree, maxNumNodes, maxTotalClaim
      distributors := loading.distributors ++ [distributor] }

/-- The state that `main` serves from, once all trees of the folder are loaded.  The
order of distributors with the same version is open in the source. -/
def loadTrees (listing : List TreeFile) : Except Halt RouterState := do
  let paths := sortByPath listing
  let loading ← paths.foldlM (loadTree findProgramAddress texts args)
    { tree := ∅, maxNumNodes := 0, maxTotalClaim := 0, distributors := [] }
  pure
    { programId := args.programId
      distributors :=
        { maxNumNodes := loading.maxNumNodes
          maxTotalClaim := loading.maxTotalClaim
          trees := loading.distributors.insertionSort fun a b =>
            a.airdropVersion ≤ b.airdropVersion }
      tree := loading.tree }

end Loading

/-! ## Requests -/

/-- The errors of `ApiError` that these requests can return. -/
inductive ApiError where
  | userNotFound (user : String)
  | proofNotFound (user : String)
  | parsePubkeyError
deriving DecidableEq

/-- `get_user_info` -/
def getUserInfo (texts : Texts) (state : RouterState) (userPubkey : String) :
    Except ApiError UserProof := do
  let merkleTree := state.tree
  let userPubkey ← okOr (texts.parsePubkey userPubkey) .parsePubkeyError
  let node ← okOr (merkleTree.lookup userPubkey)
    (.userNotFound (texts.pubkeyText userPubkey))
  let proof ← okOr node.2.proof (.proofNotFound (texts.pubkeyText userPubkey))
  pure
    { merkleTree := texts.pubkeyText node.1
      amount := node.2.amount
      lockedAmount := node.2.lockedAmount
      proof }

/-- `get_distributors` -/
def getDistributors (state : RouterState) : Distributors := state.distributors

end Airdrop
