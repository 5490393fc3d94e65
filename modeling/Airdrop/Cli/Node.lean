/-
Module: Airdrop.Cli.Node
Purpose: What becomes of the transactions that commands send: transactions of several
  instructions, and an RPC node that executes at once what it accepts.
Trusted boundary: a transaction is executed or refused as a whole; the associated token
  account program creates an empty account at an unused address; the waiting, and nodes that
  delay or lose a transaction, are left out
Main exports: Keyring, createAssociatedTokenAccount, CommandInstruction.execute,
  executeTransaction, nodeMachine, NodeCall, NodeProgram, NodeWorld, NodeWorld.answer
-/
import Airdrop.Cli.Claim
import Airdrop.Library.Interference

namespace Airdrop

open Checked Interference Transition

/-! ## Transactions -/

/-- The keys that sign a transaction.  No address derived by the program is among them. -/
structure Keyring (env : Env) where
  keys : List Pubkey
  no_derived_signer : ∀ seeds address,
    env.createProgramAddress seeds = some address → address ∉ keys

/-- `create_associated_token_account` of the associated token account program. -/
def createAssociatedTokenAccount (env : Env) (signers : List Pubkey) (bank : Bank)
    (payer wallet mint : Pubkey) : Except ProgramError Bank := do
  require (payer ∈ signers) .missingRequiredSignature
  bank.loadMint mint
  let address := env.associatedTokenAddress wallet mint
  require (bank address = none) .accountAlreadyInUse
  pure (bank.set address (.token { mint, owner := wallet, amount := 0 }))

section Transactions

variable {env : Env}

/-- The transaction of a single instruction. -/
def Keyring.transaction (keyring : Keyring env) (clock : Clock) (instruction : Instruction) :
    Transaction env :=
  { clock
    signers := keyring.keys
    instruction
    no_derived_signer := keyring.no_derived_signer }

/-- Execute one instruction of a transaction. -/
def CommandInstruction.execute (keyring : Keyring env) (clock : Clock) (bank : Bank) :
    CommandInstruction → Except ProgramError Bank
  | .setComputeUnitPrice _ => pure bank
  | .createAssociatedTokenAccount payer wallet mint =>
      Airdrop.createAssociatedTokenAccount env keyring.keys bank payer wallet mint
  | .program instruction => do
      let receipt ← Airdrop.execute env bank (keyring.transaction clock instruction)
      pure receipt.bank

/-- Execute a transaction. -/
def executeTransaction (keyring : Keyring env) (clock : Clock) (bank : Bank)
    (transaction : List CommandInstruction) : Except ProgramError Bank :=
  transaction.foldlM (fun bank instruction => instruction.execute keyring clock bank) bank

end Transactions

/-- A transaction of several instructions, with its signers and the clock it is executed at. -/
structure NodeTransaction (env : Env) where
  keyring : Keyring env
  clock : Clock
  instructions : List CommandInstruction

/-- The accounts as a machine that executes such transactions. -/
def nodeMachine (env : Env) : Machine Bank (NodeTransaction env) ProgramError Bank :=
  { step := fun bank tx => executeTransaction tx.keyring tx.clock bank tx.instructions
    state := id }

/-- The transaction of the program that an instruction stands for. -/
def CommandInstruction.part {env : Env} (keyring : Keyring env) (clock : Clock) :
    CommandInstruction → Option (Transaction env)
  | .setComputeUnitPrice _ => none
  | .createAssociatedTokenAccount _ _ _ => none
  | .program instruction => some (keyring.transaction clock instruction)

/-- The transactions of the program that such a transaction is made of. -/
def NodeTransaction.parts {env : Env} (tx : NodeTransaction env) : List (Transaction env) :=
  tx.instructions.filterMap (CommandInstruction.part tx.keyring tx.clock)

/-! ## The node -/

/-- The calls to the RPC node.  `account` only asks whether there is an account. -/
inductive NodeCall where
  | account (address : Pubkey)
  | distributor (address : Pubkey)
  | latestBlockhash
  | send (transaction : List CommandInstruction)
deriving DecidableEq

/-- What a call returns. -/
def NodeCall.Answer : NodeCall → Type
  | .account _ => Except AccountError Unit
  | .distributor _ => Except Unit MerkleDistributor
  | .latestBlockhash => Except Unit Unit
  | .send _ => Except Unit Unit

/-- The commands that make these calls. -/
abbrev NodeProgram (Result : Type) : Type := Program NodeCall NodeCall.Answer Result

/-- The accounts, and how many transactions were sent. -/
structure NodeWorld where
  bank : Bank
  sent : Nat

/-- How the node answers.  `clocks` are those at which the transactions are executed. -/
def NodeWorld.answer {env : Env} (keyring : Keyring env) (clocks : Nat → Clock)
    (world : NodeWorld) : (call : NodeCall) → call.Answer × NodeWorld
  | .account address =>
      match world.bank address with
      | some _ => (.ok (), world)
      | none => (.error .accountNotFound, world)
  | .distributor address =>
      match world.bank address with
      | some (.distributor distributor) => (.ok distributor, world)
      | _ => (.error (), world)
  | .latestBlockhash => (.ok (), world)
  | .send transaction =>
      match executeTransaction keyring (clocks world.sent) world.bank transaction with
      | .ok bank => (.ok (), { bank, sent := world.sent + 1 })
      | .error _ => (.error (), { world with sent := world.sent + 1 })

end Airdrop
