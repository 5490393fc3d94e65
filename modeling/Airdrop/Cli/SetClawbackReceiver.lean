/-
Module: Airdrop.Cli.SetClawbackReceiver
Purpose: The command that sets the clawback receiver of the distributors of a folder of
  trees: `process_set_clawback_receiver.rs`, as a program that calls the RPC node.
Trusted boundary: addresses are parameters; the number of attempts is bounded here and not in
  the source; signing and messages are left out
Main exports: setReceiverTransaction, setReceiverRounds, setReceiverLoop,
  processSetClawbackReceiver
-/
import Airdrop.Cli.Node
import Airdrop.Cli.SetOnVersions

namespace Airdrop

open Interference

section Command

variable (findProgramAddress : List Bytes → Pubkey → Pubkey × UInt8)
variable (associatedTokenAddress : Pubkey → Pubkey → Pubkey)
variable (args : CliArgs) (wallet : WalletArgs)

/-- The transaction for one distributor. -/
def setReceiverTransaction (newClawbackAccount distributor : Pubkey) :
    List CommandInstruction :=
  -- check priority fee
  wallet.priorityFee.toList.map CommandInstruction.setComputeUnitPrice ++
    [.program (.setClawbackReceiver
      { distributor, newClawbackAccount, admin := wallet.keypair })]

/-- The `loop` for one tree, for at most `fuel` rounds. -/
def setReceiverRounds (newClawbackAccount distributor : Pubkey) :
    Nat → NodeProgram (Except Halt Unit)
  | 0 => pure (.error .outOfFuel)
  | fuel + 1 => do
      match ← Program.ask (NodeCall.distributor distributor) with
      | .error _ => pure (.error .panic)
      | .ok distributorState =>
          if distributorState.clawbackReceiver = newClawbackAccount then pure (.ok ())
          else
            match ← Program.ask NodeCall.latestBlockhash with
            | .error _ => pure (.error .panic)
            | .ok _ =>
                match ← Program.ask (NodeCall.send
                  (setReceiverTransaction wallet newClawbackAccount distributor)) with
                | .ok _ => pure (.ok ())
                | .error _ => setReceiverRounds newClawbackAccount distributor fuel

/-- The `for` loop over the sorted files. -/
def setReceiverLoop (newClawbackAccount : Pubkey) (fuel : Nat) :
    List TreeFile → NodeProgram (Except Halt Unit)
  | [] => pure (.ok ())
  | file :: paths => do
      let (distributor, _bump) := getMerkleDistributorPda findProgramAddress args.programId
        args.base args.mint file.tree.airdropVersion
      match ← setReceiverRounds wallet newClawbackAccount distributor fuel with
      | .error halt => pure (.error halt)
      | .ok _ => setReceiverLoop newClawbackAccount fuel paths

/-- `process_set_clawback_receiver` -/
def processSetClawbackReceiver (receiver : Pubkey) (fuel : Nat) (listing : List TreeFile) :
    NodeProgram (Except Halt Unit) :=
  setReceiverLoop findProgramAddress args wallet (associatedTokenAddress receiver args.mint)
    fuel (sortByPath listing)

end Command

end Airdrop
