/-
Module: Airdrop.Cli.Claim
Purpose: The two commands that make a new claim, from the file of a tree and from what
  the API server returns: `process_new_claim.rs` and `process_claim_from_api.rs`.
Trusted boundary: addresses are parameters; the request to the server, the blockhash,
  signing, sending and messages are left out
Main exports: AccountError, getClaimStatusPda, processNewClaim, processClaimFromApi
-/
import Airdrop.Cli.NewDistributor

namespace Airdrop

open Checked

/-- Why the RPC node returned no account.  `process_new_claim` tells the two apart by the
text of the error. -/
inductive AccountError where
  | accountNotFound
  | other
deriving DecidableEq

/-- `get_claim_status_pda` -/
def getClaimStatusPda (findProgramAddress : List Bytes → Pubkey → Pubkey × UInt8)
    (programId claimant distributor : Pubkey) : Pubkey × UInt8 :=
  findProgramAddress (claimStatusSeeds claimant distributor) programId

section Commands

variable (findProgramAddress : List Bytes → Pubkey → Pubkey × UInt8)
variable (associatedTokenAddress : Pubkey → Pubkey → Pubkey)
variable (args : CliArgs) (wallet : WalletArgs)

/-- `process_new_claim`: the instructions of the transaction that it sends.  `account` is
what the RPC node returns for the claimant's token account. -/
def processNewClaim (account : Except AccountError Unit) (merkleTree : AirdropMerkleTree) :
    Except (Stop String) (List CommandInstruction) := do
  let claimant := wallet.keypair
  let (distributor, _bump) := getMerkleDistributorPda findProgramAddress args.programId
    args.base args.mint merkleTree.airdropVersion
  -- Get user's node in claim
  let node ← merkleTree.getNode claimant
  let (claimStatusPda, _bump) := getClaimStatusPda findProgramAddress args.programId claimant
    distributor
  let claimantAta := associatedTokenAddress claimant args.mint
  -- check priority fee
  let fee := wallet.priorityFee.toList.map CommandInstruction.setComputeUnitPrice
  let create ← match account with
    | .ok _ => pure []
    | .error .accountNotFound =>
        pure [CommandInstruction.createAssociatedTokenAccount claimant claimant args.mint]
    | .error .other => throw .panic
  let proof ← unwrap node.proof
  pure (fee ++ create ++
    [.program (.newClaim
      { distributor
        claimStatus := claimStatusPda
        fromAccount := associatedTokenAddress distributor args.mint
        toAccount := claimantAta
        claimant }
      node.amount node.lockedAmount proof)])

/-- `process_claim_from_api`: the instructions of the transaction that it sends, where the
server returned `userProof`. -/
def processClaimFromApi (texts : Texts) (account : Except AccountError Unit)
    (userProof : UserProof) : Except (Stop String) (List CommandInstruction) := do
  let claimant := wallet.keypair
  let distributor ← unwrap (texts.parsePubkey userProof.merkleTree)
  let (claimStatusPda, _bump) := getClaimStatusPda findProgramAddress args.programId claimant
    distributor
  -- check priority fee
  let fee := wallet.priorityFee.toList.map CommandInstruction.setComputeUnitPrice
  let claimantAta := associatedTokenAddress claimant args.mint
  let create := match account with
    | .ok _ => []
    -- `&claimant_ata`, where the other command passes the claimant
    | .error _ =>
        [CommandInstruction.createAssociatedTokenAccount wallet.keypair claimantAta args.mint]
  pure (fee ++ create ++
    [.program (.newClaim
      { distributor
        claimStatus := claimStatusPda
        fromAccount := associatedTokenAddress distributor args.mint
        toAccount := claimantAta
        claimant }
      userProof.amount userProof.lockedAmount userProof.proof)])

end Commands

end Airdrop
