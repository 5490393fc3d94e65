/-
Module: Airdrop.Cli.Clawback
Purpose: The command that claws back the distributors of a range of versions:
  `process_clawback.rs`, as a program that calls the RPC node, run against the accounts
  while transactions that it sent earlier may still be executed.
Trusted boundary: addresses are parameters; an answer shows the accounts as they are when
  it is given; the messages of a pass, signing and the waiting are left out
Main exports: ClawbackTransaction, ClawbackCall, clawbackPass, processClawback,
  ClawbackWorld, clawbackSystem
-/
import Airdrop.Cli.SetOnVersions
import Airdrop.Library.Interference

namespace Airdrop

open Checked Interference

/-! ## The command -/

/-- The transaction that claws back one distributor.  It is signed by the claimant. -/
structure ClawbackTransaction where
  priorityFee : Option U64
  accounts : Clawback
  blockhash : Hash
deriving DecidableEq

/-- The calls to the RPC node. -/
inductive ClawbackCall where
  | account (address : Pubkey)
  | distributor (address : Pubkey)
  | latestBlockhash
  | sendAndConfirm (transaction : ClawbackTransaction)
deriving DecidableEq

/-- What a call returns.  Of an account it is only asked whether there is one. -/
def ClawbackCall.Answer : ClawbackCall → Type
  | .account _ => Except Unit Bool
  | .distributor _ => Except Unit MerkleDistributor
  | .latestBlockhash => Except Unit Hash
  | .sendAndConfirm _ => Except Unit Unit

/-- The programs that make these calls. -/
abbrev ClawbackProgram (Result : Type) : Type :=
  Program ClawbackCall ClawbackCall.Answer Result

/-- `ClawbackArgs` -/
structure ClawbackArgs where
  fromVersion : U64
  toVersion : U64

/-- What `process_clawback` prints: "Done clawback", or that it failed and how many times
it tries again. -/
inductive ClawbackMessage where
  | done
  | retrying (timeRemaining : Nat)
deriving DecidableEq

section Command

variable (findProgramAddress : List Bytes → Pubkey → Pubkey × UInt8)
variable (args : CliArgs) (wallet : WalletArgs)

/-- How a pass ends after its loop. -/
def passEnd (isError : Bool) : Except String Unit :=
  if isError then .error "There are some error when fund merkle tree, retrying"
  else .ok ()

/-- The loop of `clawback` over the versions. -/
def clawbackPass : List U64 → Bool → ClawbackProgram (Except String Unit)
  | [], isError => pure (passEnd isError)
  | version :: versions, isError => do
      let (distributor, _bump) :=
        getMerkleDistributorPda findProgramAddress args.programId args.base args.mint version
      match ← Program.ask (ClawbackCall.account distributor) with
      | .error _ => pure (.error "rpc error")
      | .ok false =>
          -- distributor is not existed, exit
          pure (passEnd isError)
      | .ok true =>
          match ← Program.ask (ClawbackCall.distributor distributor) with
          | .error _ => pure (.error "rpc error")
          | .ok distributorState =>
              if distributorState.clawedBack then clawbackPass versions isError
              else
                match ← Program.ask ClawbackCall.latestBlockhash with
                | .error _ => pure (.error "rpc error")
                | .ok blockhash =>
                    let transaction : ClawbackTransaction :=
                      { priorityFee := wallet.priorityFee
                        accounts :=
                          { distributor
                            fromAccount := distributorState.tokenVault
                            toAccount := distributorState.clawbackReceiver
                            claimant := wallet.keypair }
                        blockhash }
                    match ← Program.ask (ClawbackCall.sendAndConfirm transaction) with
                    | .ok _ => clawbackPass versions isError
                    | .error _ => clawbackPass versions true

/-- `clawback` of the command -/
def clawbackVersions (clawbackArgs : ClawbackArgs) : ClawbackProgram (Except String Unit) :=
  clawbackPass findProgramAddress args wallet
    (versionRange clawbackArgs.fromVersion clawbackArgs.toVersion) false

/-- Print a line before what a program prints. -/
def printFirst (message : ClawbackMessage)
    (rest : ClawbackProgram (List ClawbackMessage × Except Halt Unit)) :
    ClawbackProgram (List ClawbackMessage × Except Halt Unit) := do
  let (printed, result) ← rest
  pure (message :: printed, result)

/-- The loop of `process_clawback`, with its counter: what it prints, and how it ends. -/
def processClawbackLoop (clawbackArgs : ClawbackArgs) :
    Nat → ClawbackProgram (List ClawbackMessage × Except Halt Unit)
  | 0 => pure ([], .ok ())
  | i + 1 => do
      match ← clawbackVersions findProgramAddress args wallet clawbackArgs with
      | .ok _ => pure ([.done], .ok ())
      | .error _ =>
          if i + 1 = 1 then
            match ← clawbackVersions findProgramAddress args wallet clawbackArgs with
            | .ok _ => printFirst (.retrying (i + 1)) (processClawbackLoop clawbackArgs i)
            | .error _ => pure ([.retrying (i + 1)], .error .panic)
          else printFirst (.retrying (i + 1)) (processClawbackLoop clawbackArgs i)

/-- `process_clawback`: the counter goes through `(1..10).rev()`. -/
def processClawback (clawbackArgs : ClawbackArgs) :
    ClawbackProgram (List ClawbackMessage × Except Halt Unit) :=
  processClawbackLoop findProgramAddress args wallet clawbackArgs 9

end Command

/-! ## The world that it is run in -/

/-- The accounts, and the transactions of the command that may still be executed. -/
structure ClawbackWorld where
  bank : Bank
  pending : List ClawbackTransaction

/-- How the RPC node answers a call.  A transaction that was confirmed was executed at some
time; one that failed may have been submitted all the same. -/
inductive ClawbackReply where
  | found
  | blockhash (blockhash : Hash)
  | confirmed (clock : Clock)
  | failed (submitted : Bool)

/-- A transaction that had been given up is executed. -/
structure ClawbackEvent where
  transaction : ClawbackTransaction
  clock : Clock

namespace ClawbackWorld

/-- Execute a transaction. -/
def execute (env : Env) (world : ClawbackWorld) (transaction : ClawbackTransaction)
    (clock : Clock) : Option ClawbackWorld :=
  match clawback env clock [transaction.accounts.claimant] world.bank
      transaction.accounts with
  | .ok receipt => some { world with bank := receipt.bank }
  | .error _ => none

/-- How a call can be answered. -/
def answer (env : Env) (world : ClawbackWorld) :
    (call : ClawbackCall) → ClawbackReply → Option (call.Answer × ClawbackWorld)
  | .account address, .found => some (.ok (world.bank address).isSome, world)
  | .account _, .failed _ => some (.error (), world)
  | .distributor address, .found =>
      match world.bank address with
      | some (.distributor distributor) => some (.ok distributor, world)
      | _ => some (.error (), world)
  | .distributor _, .failed _ => some (.error (), world)
  | .latestBlockhash, .blockhash blockhash => some (.ok blockhash, world)
  | .latestBlockhash, .failed _ => some (.error (), world)
  | .sendAndConfirm transaction, .confirmed clock =>
      (world.execute env transaction clock).map fun left => (.ok (), left)
  | .sendAndConfirm _, .failed false => some (.error (), world)
  | .sendAndConfirm transaction, .failed true =>
      some (.error (), { world with pending := transaction :: world.pending })
  | _, _ => none

/-- What an event makes of the world. -/
def change (env : Env) (world : ClawbackWorld) (event : ClawbackEvent) :
    Option ClawbackWorld :=
  if event.transaction ∈ world.pending then
    (world.execute env event.transaction event.clock).map fun left =>
      { left with pending := world.pending.erase event.transaction }
  else none

end ClawbackWorld

/-- The command is run against the accounts: one program, which is there from the start. -/
def clawbackSystem (env : Env) :
    System ClawbackWorld ClawbackCall ClawbackCall.Answer ClawbackReply ClawbackEvent Empty
      (List ClawbackMessage × Except Halt Unit) where
  admits := fun _ _ => false
  program := nofun
  answer := ClawbackWorld.answer env
  change := ClawbackWorld.change env

/-- The command starts on these accounts; nothing is sent so far. -/
def clawbackStarts (bank : Bank)
    (program : ClawbackProgram (List ClawbackMessage × Except Halt Unit)) :
    Configuration ClawbackWorld ClawbackCall ClawbackCall.Answer
      (List ClawbackMessage × Except Halt Unit) :=
  { world := { bank, pending := [] }, programs := [program] }

end Airdrop
