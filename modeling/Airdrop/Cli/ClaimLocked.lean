/-
Module: Airdrop.Cli.ClaimLocked
Purpose: The command that claims what has vested, after the new claim where there was none:
  `process_claim.rs`, as a program that calls the RPC node.
Trusted boundary: addresses are parameters; signing and messages are left out
Main exports: sendOrPanic, newClaimCommand, claimLockedTransaction, processClaim
-/
import Airdrop.Cli.Node

namespace Airdrop

open Checked Interference

/-- Get a blockhash, send a transaction and wait until it is confirmed. -/
def sendOrPanic (transaction : List CommandInstruction) :
    NodeProgram (Except (Stop String) Unit) := do
  match ← Program.ask NodeCall.latestBlockhash with
  | .error _ => pure (.error .panic)
  | .ok _ =>
      match ← Program.ask (NodeCall.send transaction) with
      | .error _ => pure (.error .panic)
      | .ok _ => pure (.ok ())

section Command

variable (findProgramAddress : List Bytes → Pubkey → Pubkey × UInt8)
variable (associatedTokenAddress : Pubkey → Pubkey → Pubkey)
variable (args : CliArgs) (wallet : WalletArgs)

/-- `process_new_claim` with its calls. -/
def newClaimCommand (merkleTree : AirdropMerkleTree) :
    NodeProgram (Except (Stop String) Unit) := do
  let account ← Program.ask
    (NodeCall.account (associatedTokenAddress wallet.keypair args.mint))
  match processNewClaim findProgramAddress associatedTokenAddress args wallet account
    merkleTree with
  | .error stop => pure (.error stop)
  | .ok transaction => sendOrPanic transaction

/-- The transaction that claims what has vested. -/
def claimLockedTransaction (distributor : Pubkey) : List CommandInstruction :=
  let claimant := wallet.keypair
  let (claimStatusPda, _bump) := getClaimStatusPda findProgramAddress args.programId claimant
    distributor
  -- check priority fee
  wallet.priorityFee.toList.map CommandInstruction.setComputeUnitPrice ++
    [.program (.claimLocked
      { distributor
        claimStatus := claimStatusPda
        fromAccount := associatedTokenAddress distributor args.mint
        toAccount := associatedTokenAddress claimant args.mint
        claimant })]

/-- `process_claim` -/
def processClaim (merkleTree : AirdropMerkleTree) :
    NodeProgram (Except (Stop String) Unit) := do
  let claimant := wallet.keypair
  let (distributor, _bump) := getMerkleDistributorPda findProgramAddress args.programId
    args.base args.mint merkleTree.airdropVersion
  let (claimStatusPda, _bump) := getClaimStatusPda findProgramAddress args.programId claimant
    distributor
  let claim := claimLockedTransaction findProgramAddress associatedTokenAddress args wallet
    distributor
  match ← Program.ask (NodeCall.account claimStatusPda) with
  | .ok _ => sendOrPanic claim
  -- PDA does not exist. creating.
  | .error .accountNotFound =>
      match ← newClaimCommand findProgramAddress associatedTokenAddress args wallet
        merkleTree with
      | .error stop => pure (.error stop)
      | .ok _ => sendOrPanic claim
  | .error .other => pure (.error .panic)

end Command

end Airdrop
