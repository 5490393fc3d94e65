/-
Module: Airdrop.Program.Lifecycle
Purpose: The instructions that create and end distributors and claim statuses:
  `new_distributor.rs`, `clawback.rs`, `close_distributor.rs` and
  `close_claim_status.rs`, with the two entry points of `lib.rs` that create.
Trusted boundary: log messages are left out
Main exports: NewDistributor, newDistributor, newDistributor2, clawback,
  closeDistributor, closeClaimStatus
-/
import Airdrop.Program.Accounts

namespace Airdrop

open Checked

/-! ## Creation -/

/-- The accounts of `new_distributor` and `new_distributor2`. -/
structure NewDistributor where
  distributor : Pubkey
  base : Pubkey
  clawbackReceiver : Pubkey
  mint : Pubkey
  tokenVault : Pubkey
  admin : Pubkey
deriving DecidableEq

/-- The arguments of `new_distributor`.  `new_distributor2` takes the same with
`maxTotalClaim` named `total_claim`. -/
structure NewDistributorArgs where
  version : U64
  root : Hash
  maxTotalClaim : U64
  maxNumNodes : U64
  startVestingTs : Int64
  endVestingTs : Int64
  clawbackStartTs : Int64
  activationPoint : U64
  activationType : UInt8
  closable : Bool
deriving DecidableEq

/-- The validation of the accounts of `new_distributor`.  Returns the bump seed
of the distributor. -/
def NewDistributor.tryAccounts (env : Env) (signers : List Pubkey) (bank : Bank)
    (accounts : NewDistributor) (version : U64) : Except ProgramError UInt8 := do
  requireSigner signers accounts.base
  let clawbackReceiver ← bank.loadToken accounts.clawbackReceiver
  bank.loadMint accounts.mint
  let tokenVault ← bank.loadToken accounts.tokenVault
  requireSigner signers accounts.admin
  let bump ← requireInit env bank accounts.distributor
    (distributorSeeds accounts.base accounts.mint version)
  require (clawbackReceiver.mint = accounts.mint) (.anchor .constraintTokenMint)
  requireAssociatedToken env accounts.tokenVault tokenVault accounts.mint
    accounts.distributor
  pure bump

/-- `handle_new_distributor` -/
def handleNewDistributor (clock : Clock) (bank : Bank)
    (accounts : NewDistributor) (bump : UInt8) (args : NewDistributorArgs)
    (maxTotalClaim totalBonus bonusVestingDuration : U64) :
    Except ProgramError Receipt := do
  let currTs := clock.unixTimestamp
  require (args.startVestingTs < args.endVestingTs)
    (.errorCode .startTimestampAfterEnd)
  -- New distributor parameters must all be set in the future
  require (currTs < args.startVestingTs ∧ currTs < args.endVestingTs)
    (.errorCode .timestampsNotInFuture)
  require (args.endVestingTs ≤ args.clawbackStartTs)
    (.errorCode .clawbackDuringVesting)
  let _activationType ← okOr (ActivationType.tryFrom args.activationType)
    (.errorCode .invalidActivationType)
  let distributor : MerkleDistributor :=
    { bump
      version := args.version
      root := args.root
      mint := accounts.mint
      base := accounts.base
      tokenVault := accounts.tokenVault
      maxTotalClaim
      maxNumNodes := args.maxNumNodes
      totalAmountClaimed := 0
      numNodesClaimed := 0
      startTs := args.startVestingTs
      endTs := args.endVestingTs
      clawbackStartTs := args.clawbackStartTs
      clawbackReceiver := accounts.clawbackReceiver
      admin := accounts.admin
      clawedBack := false
      activationPoint := args.activationPoint
      closable := args.closable
      airdropBonus :=
        { totalBonus
          vestingDuration := bonusVestingDuration
          totalClaimedBonus := 0 }
      activationType := args.activationType }
  pure (.quiet (bank.set accounts.distributor (.distributor distributor)))

/-- `merkle_distributor::new_distributor` -/
def newDistributor (env : Env) (clock : Clock) (signers : List Pubkey)
    (bank : Bank) (accounts : NewDistributor) (args : NewDistributorArgs) :
    Except ProgramError Receipt := do
  let bump ← accounts.tryAccounts env signers bank args.version
  handleNewDistributor clock bank accounts bump args args.maxTotalClaim 0 0

/-- `merkle_distributor::new_distributor2` -/
def newDistributor2 (env : Env) (clock : Clock) (signers : List Pubkey)
    (bank : Bank) (accounts : NewDistributor) (args : NewDistributorArgs)
    (totalBonus bonusVestingDuration : U64) : Except ProgramError Receipt := do
  let bump ← accounts.tryAccounts env signers bank args.version
  let maxTotalClaim ← okOrArithmetic (checkedAdd args.maxTotalClaim totalBonus)
  handleNewDistributor clock bank accounts bump args maxTotalClaim totalBonus
    bonusVestingDuration

/-! ## Clawback -/

/-- The accounts of `clawback`. -/
structure Clawback where
  distributor : Pubkey
  fromAccount : Pubkey
  toAccount : Pubkey
  claimant : Pubkey
deriving DecidableEq

/-- The validation of the accounts of `clawback`.  Returns the distributor and
the loaded vault. -/
def Clawback.tryAccounts (env : Env) (signers : List Pubkey) (bank : Bank)
    (accounts : Clawback) :
    Except ProgramError (MerkleDistributor × TokenAccount) := do
  let distributor ← bank.loadDistributor accounts.distributor
  let fromAccount ← bank.loadToken accounts.fromAccount
  let _toAccount ← bank.loadToken accounts.toAccount
  requireSigner signers accounts.claimant
  requireAssociatedToken env accounts.fromAccount fromAccount distributor.mint
    accounts.distributor
  require (accounts.fromAccount = distributor.tokenVault)
    (.anchor .constraintAddress)
  require (accounts.toAccount = distributor.clawbackReceiver)
    (.anchor .constraintAddress)
  pure (distributor, fromAccount)

/-- `handle_clawback` -/
def handleClawback (env : Env) (clock : Clock) (signers : List Pubkey)
    (bank : Bank) (accounts : Clawback) (distributor : MerkleDistributor)
    (fromAccount : TokenAccount) : Except ProgramError Receipt := do
  require (!distributor.clawedBack) (.errorCode .clawbackAlreadyClaimed)
  let currTs := clock.unixTimestamp
  require (distributor.clawbackStartTs ≤ currTs)
    (.errorCode .clawbackBeforeStart)
  let bank ← transferSigned env bank signers distributor.signerSeeds
    accounts.fromAccount accounts.toAccount accounts.distributor
    fromAccount.amount
  pure
    { bank := bank.set accounts.distributor
        (.distributor { distributor with clawedBack := true })
      transfers :=
        [⟨accounts.fromAccount, accounts.toAccount, fromAccount.amount⟩]
      events := [] }

/-- `merkle_distributor::clawback` -/
def clawback (env : Env) (clock : Clock) (signers : List Pubkey) (bank : Bank)
    (accounts : Clawback) : Except ProgramError Receipt := do
  let (distributor, fromAccount) ← accounts.tryAccounts env signers bank
  handleClawback env clock signers bank accounts distributor fromAccount

/-! ## Closing -/

/-- The accounts of `close_distributor`. -/
structure CloseDistributor where
  distributor : Pubkey
  tokenVault : Pubkey
  admin : Pubkey
  destinationTokenAccount : Pubkey
deriving DecidableEq

/-- The validation of the accounts of `close_distributor`. -/
def CloseDistributor.tryAccounts (signers : List Pubkey) (bank : Bank)
    (accounts : CloseDistributor) :
    Except ProgramError (MerkleDistributor × TokenAccount) := do
  let distributor ← bank.loadDistributor accounts.distributor
  let tokenVault ← bank.loadToken accounts.tokenVault
  requireSigner signers accounts.admin
  let _destination ← bank.loadToken accounts.destinationTokenAccount
  require (distributor.admin = accounts.admin) (.anchor .constraintHasOne)
  require (distributor.tokenVault = accounts.tokenVault)
    (.anchor .constraintHasOne)
  require distributor.closable (.errorCode .cannotCloseDistributor)
  require (accounts.distributor ≠ accounts.admin) (.anchor .constraintClose)
  pure (distributor, tokenVault)

/-- `handle_close_distributor`, with the closing of the account that
`close = admin` asks for. -/
def handleCloseDistributor (env : Env) (signers : List Pubkey) (bank : Bank)
    (accounts : CloseDistributor) (distributor : MerkleDistributor)
    (tokenVault : TokenAccount) : Except ProgramError Receipt := do
  let bank ← transferSigned env bank signers distributor.signerSeeds
    accounts.tokenVault accounts.destinationTokenAccount accounts.distributor
    tokenVault.amount
  pure
    { bank := bank.close accounts.distributor
      transfers :=
        [⟨accounts.tokenVault, accounts.destinationTokenAccount,
          tokenVault.amount⟩]
      events := [] }

/-- `merkle_distributor::close_distributor` -/
def closeDistributor (env : Env) (signers : List Pubkey) (bank : Bank)
    (accounts : CloseDistributor) : Except ProgramError Receipt := do
  let (distributor, tokenVault) ← accounts.tryAccounts signers bank
  handleCloseDistributor env signers bank accounts distributor tokenVault

/-- The accounts of `close_claim_status`. -/
structure CloseClaimStatus where
  claimStatus : Pubkey
  claimant : Pubkey
  admin : Pubkey
deriving DecidableEq

/-- The validation of the accounts of `close_claim_status`. -/
def CloseClaimStatus.tryAccounts (signers : List Pubkey) (bank : Bank)
    (accounts : CloseClaimStatus) : Except ProgramError Unit := do
  let claimStatus ← bank.loadClaimStatus accounts.claimStatus
  requireSigner signers accounts.admin
  require (claimStatus.claimant = accounts.claimant) (.anchor .constraintHasOne)
  require (claimStatus.admin = accounts.admin) (.anchor .constraintHasOne)
  require claimStatus.closable (.errorCode .cannotCloseClaimStatus)
  require (accounts.claimStatus ≠ accounts.claimant) (.anchor .constraintClose)

/-- `merkle_distributor::close_claim_status`, whose handler is empty: the
constraint `close = claimant` closes the account. -/
def closeClaimStatus (signers : List Pubkey) (bank : Bank)
    (accounts : CloseClaimStatus) : Except ProgramError Receipt := do
  accounts.tryAccounts signers bank
  pure (.quiet (bank.close accounts.claimStatus))

end Airdrop
