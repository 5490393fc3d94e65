/-
Module: Airdrop.Cli.CloseDistributor
Purpose: The command that closes the distributors of a folder of trees:
  `proccess_close_distribitor.rs`, as a program that calls the RPC node.
Trusted boundary: addresses are parameters; signing and other messages are left out
Main exports: CloseDistributorArgs, CloseDistributorReport, closeDistributorTransaction,
  closeDistributorLoop, processCloseDistributor
-/
import Airdrop.Cli.Node

namespace Airdrop

open Interference

/-- `CloseDistributorArgs`, without the path. -/
structure CloseDistributorArgs where
  airdropVersion : Option U64
deriving DecidableEq

/-- What the command says about a tree. -/
inductive CloseDistributorReport where
  | skipVersion (version : U64)
  | doneClose (version : U64) (transaction : List CommandInstruction)
  | failedToClose (version : U64) (transaction : List CommandInstruction)
deriving DecidableEq

section Command

variable (findProgramAddress : List Bytes → Pubkey → Pubkey × UInt8)
variable (associatedTokenAddress : Pubkey → Pubkey → Pubkey)
variable (args : CliArgs) (wallet : WalletArgs)

/-- The transaction for one distributor, where `hasDestination` says that the destination
exists. -/
def closeDistributorTransaction (distributor : Pubkey)
    (merkleDistributorState : MerkleDistributor) (hasDestination : Bool) :
    List CommandInstruction :=
  let destinationTokenAccount := associatedTokenAddress wallet.keypair args.mint
  -- check priority fee
  wallet.priorityFee.toList.map CommandInstruction.setComputeUnitPrice ++
    (if hasDestination then []
      else [.createAssociatedTokenAccount wallet.keypair wallet.keypair args.mint]) ++
    [.program (.closeDistributor
      { distributor
        tokenVault := merkleDistributorState.tokenVault
        admin := wallet.keypair
        destinationTokenAccount })]

/-- The turn of the loop for one tree. -/
def closeDistributorTurn (merkleTree : AirdropMerkleTree) :
    NodeProgram (Except Halt CloseDistributorReport) := do
  let (distributor, _bump) := getMerkleDistributorPda findProgramAddress args.programId
    args.base args.mint merkleTree.airdropVersion
  -- verify distributor is existed
  match ← Program.ask (NodeCall.distributor distributor) with
  | .error _ => pure (.ok (.skipVersion merkleTree.airdropVersion))
  | .ok merkleDistributorState =>
      let destination ← Program.ask
        (NodeCall.account (associatedTokenAddress wallet.keypair args.mint))
      let transaction := closeDistributorTransaction associatedTokenAddress args wallet
        distributor merkleDistributorState destination.toBool
      match ← Program.ask NodeCall.latestBlockhash with
      | .error _ => pure (.error .panic)
      | .ok _ =>
          match ← Program.ask (NodeCall.send transaction) with
          | .ok _ => pure (.ok (.doneClose merkleTree.airdropVersion transaction))
          | .error _ => pure (.ok (.failedToClose merkleTree.airdropVersion transaction))

/-- The transaction of a report. -/
def CloseDistributorReport.attempted : CloseDistributorReport → Bool
  | .skipVersion _ => false
  | .doneClose _ _ => true
  | .failedToClose _ _ => true

/-- The loop over the sorted files.  A version that is skipped does not end it, also where it
is the only one that is asked for. -/
def closeDistributorLoop (closeDistributorArgs : CloseDistributorArgs) :
    List TreeFile → NodeProgram (Except Halt (List CloseDistributorReport))
  | [] => pure (.ok [])
  | file :: paths =>
      if closeDistributorArgs.airdropVersion.any (· ≠ file.tree.airdropVersion) then
        closeDistributorLoop closeDistributorArgs paths
      else do
        match ← closeDistributorTurn findProgramAddress associatedTokenAddress args wallet
          file.tree with
        | .error halt => pure (.error halt)
        | .ok report =>
            if report.attempted && closeDistributorArgs.airdropVersion.isSome then
              pure (.ok [report])
            else
              match ← closeDistributorLoop closeDistributorArgs paths with
              | .error halt => pure (.error halt)
              | .ok later => pure (.ok (report :: later))

/-- `process_close_distributor` -/
def processCloseDistributor (closeDistributorArgs : CloseDistributorArgs)
    (listing : List TreeFile) : NodeProgram (Except Halt (List CloseDistributorReport)) :=
  closeDistributorLoop findProgramAddress associatedTokenAddress args wallet
    closeDistributorArgs (sortByPath listing)

end Command

end Airdrop
