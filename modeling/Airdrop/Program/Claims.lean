/-
Module: Airdrop.Program.Claims
Purpose: The two instructions by which claimants are paid: `new_claim.rs` and
  `claim_locked.rs`.
Trusted boundary: log messages are left out
Main exports: NewClaim, newClaim, ClaimLocked, claimLocked
-/
import Airdrop.Core.Verify
import Airdrop.Program.Accounts

namespace Airdrop

open Checked

/-! ## New claims -/

/-- The accounts of `new_claim`. -/
structure NewClaim where
  distributor : Pubkey
  claimStatus : Pubkey
  fromAccount : Pubkey
  toAccount : Pubkey
  claimant : Pubkey
deriving DecidableEq

/-- The validation of the accounts of `new_claim`. -/
def NewClaim.tryAccounts (env : Env) (signers : List Pubkey) (bank : Bank)
    (accounts : NewClaim) : Except ProgramError MerkleDistributor := do
  let distributor ← bank.loadDistributor accounts.distributor
  let fromAccount ← bank.loadToken accounts.fromAccount
  let toAccount ← bank.loadToken accounts.toAccount
  requireSigner signers accounts.claimant
  let _bump ← requireInit env bank accounts.claimStatus
    (claimStatusSeeds accounts.claimant accounts.distributor)
  requireAssociatedToken env accounts.fromAccount fromAccount distributor.mint
    accounts.distributor
  require (accounts.fromAccount = distributor.tokenVault)
    (.anchor .constraintAddress)
  require (toAccount.owner = accounts.claimant) (.anchor .constraintTokenOwner)
  require (toAccount.mint = distributor.mint) (.anchor .constraintTokenMint)
  require (accounts.claimant = toAccount.owner) (.errorCode .ownerMismatch)
  pure distributor

/-- `handle_new_claim` -/
def handleNewClaim (env : Env) (clock : Clock) (signers : List Pubkey)
    (bank : Bank) (accounts : NewClaim) (distributor : MerkleDistributor)
    (amountUnlocked amountLocked : U64) (proof : List Hash) :
    Except ProgramError Receipt := do
  require (!distributor.clawedBack) (.errorCode .claimExpired)
  let activationHandler ← distributor.getActivationHandler clock
  activationHandler.validateClaim
  let numNodesClaimed ← okOrArithmetic (checkedAdd distributor.numNodesClaimed 1)
  require (numNodesClaimed ≤ distributor.maxNumNodes)
    (.errorCode .maxNodesExceeded)
  -- Verify the merkle proof.
  let node := claimLeaf env.sha256 accounts.claimant amountUnlocked amountLocked
  require (verify env.sha256 proof distributor.root node)
    (.errorCode .invalidProof)
  let bonus ← distributor.getBonusForAClaimaint amountUnlocked activationHandler
  let unlockedAmount ← safeAdd amountUnlocked bonus
  let claimStatus : ClaimStatus :=
    { claimant := accounts.claimant
      lockedAmount := amountLocked
      lockedAmountWithdrawn := 0
      unlockedAmount
      closable := distributor.closable
      admin := distributor.admin }
  let bank ← transferSigned env bank signers distributor.signerSeeds
    accounts.fromAccount accounts.toAccount accounts.distributor unlockedAmount
  let totalAmountClaimed ← okOrArithmetic
    (checkedAdd distributor.totalAmountClaimed unlockedAmount)
  let distributor := { distributor with numNodesClaimed, totalAmountClaimed }
  let distributor ← distributor.accumulateBonus bonus
  require (distributor.totalAmountClaimed ≤ distributor.maxTotalClaim)
    (.errorCode .exceededMaxClaim)
  let bank := bank.set accounts.claimStatus (.claimStatus claimStatus)
  pure
    { bank := bank.set accounts.distributor (.distributor distributor)
      transfers := [⟨accounts.fromAccount, accounts.toAccount, unlockedAmount⟩]
      events := [.newClaim accounts.claimant clock.unixTimestamp] }

/-- `merkle_distributor::new_claim` -/
def newClaim (env : Env) (clock : Clock) (signers : List Pubkey) (bank : Bank)
    (accounts : NewClaim) (amountUnlocked amountLocked : U64)
    (proof : List Hash) : Except ProgramError Receipt := do
  let distributor ← accounts.tryAccounts env signers bank
  handleNewClaim env clock signers bank accounts distributor amountUnlocked
    amountLocked proof

/-! ## Claims of locked tokens -/

/-- The accounts of `claim_locked`. -/
structure ClaimLocked where
  distributor : Pubkey
  claimStatus : Pubkey
  fromAccount : Pubkey
  toAccount : Pubkey
  claimant : Pubkey
deriving DecidableEq

/-- The validation of the accounts of `claim_locked`. -/
def ClaimLocked.tryAccounts (env : Env) (signers : List Pubkey) (bank : Bank)
    (accounts : ClaimLocked) :
    Except ProgramError (MerkleDistributor × ClaimStatus) := do
  let distributor ← bank.loadDistributor accounts.distributor
  let claimStatus ← bank.loadClaimStatus accounts.claimStatus
  let fromAccount ← bank.loadToken accounts.fromAccount
  let toAccount ← bank.loadToken accounts.toAccount
  requireSigner signers accounts.claimant
  require (accounts.claimStatus =
      env.claimStatusAddress accounts.claimant accounts.distributor)
    (.anchor .constraintSeeds)
  requireAssociatedToken env accounts.fromAccount fromAccount distributor.mint
    accounts.distributor
  require (accounts.fromAccount = distributor.tokenVault)
    (.anchor .constraintAddress)
  require (toAccount.owner = accounts.claimant) (.anchor .constraintTokenOwner)
  require (accounts.claimant = toAccount.owner) (.errorCode .ownerMismatch)
  pure (distributor, claimStatus)

/-- `handle_claim_locked` -/
def handleClaimLocked (env : Env) (clock : Clock) (signers : List Pubkey)
    (bank : Bank) (accounts : ClaimLocked) (distributor : MerkleDistributor)
    (claimStatus : ClaimStatus) : Except ProgramError Receipt := do
  let currTs := clock.unixTimestamp
  require (!distributor.clawedBack) (.errorCode .claimExpired)
  let activationHandler ← distributor.getActivationHandler clock
  activationHandler.validateClaim
  let amount ← claimStatus.amountWithdrawable currTs distributor.startTs
    distributor.endTs
  require (0 < amount) (.errorCode .insufficientUnlockedTokens)
  let bank ← transferSigned env bank signers distributor.signerSeeds
    accounts.fromAccount accounts.toAccount accounts.distributor amount
  let lockedAmountWithdrawn ← okOrArithmetic
    (checkedAdd claimStatus.lockedAmountWithdrawn amount)
  require (lockedAmountWithdrawn ≤ claimStatus.lockedAmount)
    (.errorCode .exceededMaxClaim)
  let totalAmountClaimed ← okOrArithmetic
    (checkedAdd distributor.totalAmountClaimed amount)
  require (totalAmountClaimed ≤ distributor.maxTotalClaim)
    (.errorCode .exceededMaxClaim)
  let bank := bank.set accounts.claimStatus
    (.claimStatus { claimStatus with lockedAmountWithdrawn })
  pure
    { bank := bank.set accounts.distributor
        (.distributor { distributor with totalAmountClaimed })
      transfers := [⟨accounts.fromAccount, accounts.toAccount, amount⟩]
      events := [.claimed accounts.claimant amount] }

/-- `merkle_distributor::claim_locked` -/
def claimLocked (env : Env) (clock : Clock) (signers : List Pubkey) (bank : Bank)
    (accounts : ClaimLocked) : Except ProgramError Receipt := do
  let (distributor, claimStatus) ← accounts.tryAccounts env signers bank
  handleClaimLocked env clock signers bank accounts distributor claimStatus

end Airdrop
