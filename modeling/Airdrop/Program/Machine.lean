/-
Module: Airdrop.Program.Machine
Purpose: The instructions of the distributor's admin, and the machine whose
  steps are single-instruction transactions of the program or transfers of the
  token program.
Trusted boundary: a transaction that fails leaves every account as it was; a
  transaction of several instructions is the sequence of its instructions
Main exports: Instruction, Transaction, execute, machine, Genesis
-/
import Airdrop.Library.Transition
import Airdrop.Program.Claims
import Airdrop.Program.Lifecycle

namespace Airdrop

open Checked Transition

/-! ## Admin instructions -/

/-- The accounts of `set_activation_point`. -/
structure SetActivationPoint where
  distributor : Pubkey
  admin : Pubkey
deriving DecidableEq

/-- The accounts of `set_clawback_receiver`. -/
structure SetClawbackReceiver where
  distributor : Pubkey
  newClawbackAccount : Pubkey
  admin : Pubkey
deriving DecidableEq

/-- The accounts of `set_admin`. -/
structure SetAdmin where
  distributor : Pubkey
  admin : Pubkey
  newAdmin : Pubkey
deriving DecidableEq

/-- `merkle_distributor::set_activation_point` -/
def setActivationPoint (signers : List Pubkey) (bank : Bank)
    (accounts : SetActivationPoint) (activationPoint : U64) :
    Except ProgramError Receipt := do
  let distributor ← bank.loadDistributor accounts.distributor
  requireSigner signers accounts.admin
  require (distributor.admin = accounts.admin) (.anchor .constraintHasOne)
  pure (.quiet (bank.set accounts.distributor
    (.distributor { distributor with activationPoint })))

/-- `merkle_distributor::set_clawback_receiver` -/
def setClawbackReceiver (signers : List Pubkey) (bank : Bank)
    (accounts : SetClawbackReceiver) : Except ProgramError Receipt := do
  let distributor ← bank.loadDistributor accounts.distributor
  let newClawbackAccount ← bank.loadToken accounts.newClawbackAccount
  requireSigner signers accounts.admin
  require (newClawbackAccount.mint = distributor.mint)
    (.anchor .constraintTokenMint)
  require (accounts.admin = distributor.admin) (.errorCode .unauthorized)
  require (distributor.clawbackReceiver ≠ accounts.newClawbackAccount)
    (.errorCode .sameClawbackReceiver)
  pure (.quiet (bank.set accounts.distributor
    (.distributor
      { distributor with clawbackReceiver := accounts.newClawbackAccount })))

/-- `merkle_distributor::set_admin` -/
def setAdmin (signers : List Pubkey) (bank : Bank) (accounts : SetAdmin) :
    Except ProgramError Receipt := do
  let distributor ← bank.loadDistributor accounts.distributor
  requireSigner signers accounts.admin
  require (accounts.admin = distributor.admin) (.errorCode .unauthorized)
  require (accounts.admin ≠ accounts.newAdmin) (.errorCode .sameAdmin)
  pure (.quiet (bank.set accounts.distributor
    (.distributor { distributor with admin := accounts.newAdmin })))

/-! ## Transactions -/

/-- The instructions of the program, and the transfer of the token program by
which anyone moves their own tokens. -/
inductive Instruction where
  | newDistributor (accounts : NewDistributor) (args : NewDistributorArgs)
  | newDistributor2 (accounts : NewDistributor) (args : NewDistributorArgs)
      (totalBonus bonusVestingDuration : U64)
  | closeDistributor (accounts : CloseDistributor)
  | closeClaimStatus (accounts : CloseClaimStatus)
  | setActivationPoint (accounts : SetActivationPoint) (activationPoint : U64)
  | newClaim (accounts : NewClaim) (amountUnlocked amountLocked : U64)
      (proof : List Hash)
  | claimLocked (accounts : ClaimLocked)
  | clawback (accounts : Clawback)
  | setClawbackReceiver (accounts : SetClawbackReceiver)
  | setAdmin (accounts : SetAdmin)
  | transfer (source destination authority : Pubkey) (amount : U64)
deriving DecidableEq

/-- A transaction with the clock it is executed at.  Nobody holds a key for an
address derived by the program, so no such address is among the signers. -/
structure Transaction (env : Env) where
  clock : Clock
  signers : List Pubkey
  instruction : Instruction
  no_derived_signer : ∀ seeds address,
    env.createProgramAddress seeds = some address → address ∉ signers

/-- Execute a transaction. -/
def execute (env : Env) (bank : Bank) (tx : Transaction env) :
    Except ProgramError Receipt :=
  match tx.instruction with
  | .newDistributor accounts args =>
      newDistributor env tx.clock tx.signers bank accounts args
  | .newDistributor2 accounts args totalBonus bonusVestingDuration =>
      newDistributor2 env tx.clock tx.signers bank accounts args totalBonus
        bonusVestingDuration
  | .closeDistributor accounts => closeDistributor env tx.signers bank accounts
  | .closeClaimStatus accounts => closeClaimStatus tx.signers bank accounts
  | .setActivationPoint accounts activationPoint =>
      setActivationPoint tx.signers bank accounts activationPoint
  | .newClaim accounts amountUnlocked amountLocked proof =>
      newClaim env tx.clock tx.signers bank accounts amountUnlocked amountLocked
        proof
  | .claimLocked accounts =>
      claimLocked env tx.clock tx.signers bank accounts
  | .clawback accounts => clawback env tx.clock tx.signers bank accounts
  | .setClawbackReceiver accounts =>
      setClawbackReceiver tx.signers bank accounts
  | .setAdmin accounts => setAdmin tx.signers bank accounts
  | .transfer source destination authority amount => do
      let bank ← tokenTransfer bank tx.signers source destination authority amount
      pure { bank, transfers := [⟨source, destination, amount⟩], events := [] }

/-- The program as a machine over the accounts. -/
def machine (env : Env) : Machine Bank (Transaction env) ProgramError Receipt :=
  { step := execute env, state := Receipt.bank }

/-- The record of a run, the latest attempt first. -/
abbrev History (env : Env) : Type :=
  List (Entry Bank (Transaction env) ProgramError Receipt)

/-- The run from `start` with this history ends in `bank`. -/
abbrev Reaches (env : Env) (start : Bank) (history : History env) (bank : Bank) :
    Prop :=
  Run (machine env) start history bank

/-- The seeds whose derived address an instruction checks its accounts
against. -/
def Instruction.seeds : Instruction → List (List Bytes)
  | .newDistributor accounts args =>
      [distributorSeeds accounts.base accounts.mint args.version]
  | .newDistributor2 accounts args _ _ =>
      [distributorSeeds accounts.base accounts.mint args.version]
  | .newClaim accounts _ _ _ =>
      [claimStatusSeeds accounts.claimant accounts.distributor]
  | .claimLocked accounts =>
      [claimStatusSeeds accounts.claimant accounts.distributor]
  | _ => []

/-- The accounts before the program was ever used: token accounts and mints, but
none of the program's own. -/
def Genesis (bank : Bank) : Prop :=
  ∀ key, (∀ data, bank key ≠ some (.distributor data)) ∧
    ∀ data, bank key ≠ some (.claimStatus data)

end Airdrop
