/-
Module: Airdrop.Cli.Verify
Purpose: The command that compares the deployed distributors with a folder of trees:
  `process_verify.rs`, as a program that calls the RPC node, run against the accounts while
  other transactions are executed.
Trusted boundary: addresses are parameters; an answer shows the accounts as they are when it
  is given, or the call fails; the arguments that the command does not look at, and the
  messages, are left out
Main exports: VerifyArgs, VerifyArgs.wants, verifyState, processVerify, verifySystem
-/
import Airdrop.Cli.Node
import Airdrop.Program.Machine

namespace Airdrop

open Checked Interference

/-! ## The command -/

/-- `VerifyArgs`, without the path and what only the commented-out checks use. -/
structure VerifyArgs where
  clawbackStartTs : Int64
  clawbackReceiverOwner : Pubkey
  activationPoint : U64
  activationType : UInt8
  admin : Pubkey
  airdropVersion : Option U64
  closable : Bool
deriving DecidableEq

/-- The tree is of the version that is asked for, if one is. -/
def VerifyArgs.wants (verifyArgs : VerifyArgs) (merkleTree : AirdropMerkleTree) : Bool :=
  verifyArgs.airdropVersion.all (merkleTree.airdropVersion = ·)

section Command

variable (findProgramAddress : List Bytes → Pubkey → Pubkey × UInt8)
variable (associatedTokenAddress : Pubkey → Pubkey → Pubkey)
variable (args : CliArgs) (verifyArgs : VerifyArgs)

/-- The assertions about the distributor of a tree. -/
def verifyState (merkleTree : AirdropMerkleTree) (merkleTreeState : MerkleDistributor) :
    Except Halt Unit := do
  require (merkleTreeState.root = merkleTree.merkleRoot) .panic
  require (merkleTreeState.clawbackStartTs = verifyArgs.clawbackStartTs) .panic
  require (merkleTreeState.closable = verifyArgs.closable) .panic
  require (merkleTreeState.admin = verifyArgs.admin) .panic
  require (merkleTreeState.activationType = verifyArgs.activationType) .panic
  require (merkleTreeState.activationPoint = verifyArgs.activationPoint) .panic
  let clawbackReceiver := associatedTokenAddress verifyArgs.clawbackReceiverOwner args.mint
  require (merkleTreeState.clawbackReceiver = clawbackReceiver) .panic

/-- The turn of the loop for one tree of the wanted version. -/
def verifyTree (merkleTree : AirdropMerkleTree) : NodeProgram (Except Halt Unit) := do
  let (distributorPubkey, _bump) := getMerkleDistributorPda findProgramAddress args.programId
    args.base args.mint merkleTree.airdropVersion
  match ← Program.ask (NodeCall.distributor distributorPubkey) with
  | .error _ => pure (.error .panic)
  | .ok merkleTreeState =>
      pure (verifyState associatedTokenAddress args verifyArgs merkleTree merkleTreeState)

/-- The loop over the sorted files. -/
def verifyLoop : List TreeFile → NodeProgram (Except Halt Unit)
  | [] => pure (.ok ())
  | file :: paths =>
      if verifyArgs.wants file.tree then do
        match ← verifyTree findProgramAddress associatedTokenAddress args verifyArgs
          file.tree with
        | .error halt => pure (.error halt)
        | .ok _ => verifyLoop paths
      else verifyLoop paths

/-- `process_verify` -/
def processVerify (listing : List TreeFile) : NodeProgram (Except Halt Unit) :=
  verifyLoop findProgramAddress associatedTokenAddress args verifyArgs (sortByPath listing)

end Command

/-! ## Against the accounts -/

/-- How a call is answered: it fails, or it shows the account. -/
def answerReading (bank : Bank) : (call : NodeCall) → (reached : Bool) →
    Option (call.Answer × Bank)
  | .distributor address, true =>
      match bank address with
      | some (.distributor distributor) => some (.ok distributor, bank)
      | _ => some (.error (), bank)
  | .distributor _, false => some (.error (), bank)
  | _, _ => none

/-- Any number of runs of the command on one folder, while transactions are executed. -/
def verifySystem (env : Env) (findProgramAddress : List Bytes → Pubkey → Pubkey × UInt8)
    (associatedTokenAddress : Pubkey → Pubkey → Pubkey) (args : CliArgs)
    (verifyArgs : VerifyArgs) (listing : List TreeFile) :
    System Bank NodeCall NodeCall.Answer Bool (Transaction env) Unit (Except Halt Unit) where
  admits := fun _ _ => true
  program := fun _ => processVerify findProgramAddress associatedTokenAddress args verifyArgs
    listing
  answer := answerReading
  change := fun bank tx => (execute env bank tx).toOption.map Receipt.bank

end Airdrop
