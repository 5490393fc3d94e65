/-
Module: Airdrop.Program.State
Purpose: The account data of the on-chain program and the arithmetic on it:
  `state/merkle_distributor.rs`, `state/claim_status.rs`, `math/safe_math.rs`
  and `error.rs`.
Trusted boundary: none
Main exports: ProgramError, MerkleDistributor, ClaimStatus, Clock,
  MerkleDistributor.getBonusForAClaimaint, ClaimStatus.amountWithdrawable
-/
import Airdrop.Core.Bytes
import Airdrop.Library.Checked

namespace Airdrop

open Checked

/-! ## Errors -/

/-- `ErrorCode` of `error.rs`. -/
inductive ErrorCode where
  | insufficientUnlockedTokens
  | startTooFarInFuture
  | invalidProof
  | exceededMaxClaim
  | maxNodesExceeded
  | unauthorized
  | ownerMismatch
  | clawbackDuringVesting
  | clawbackBeforeStart
  | clawbackAlreadyClaimed
  | insufficientClawbackDelay
  | sameClawbackReceiver
  | sameAdmin
  | claimExpired
  | arithmeticError
  | startTimestampAfterEnd
  | timestampsNotInFuture
  | invalidVersion
  | claimingIsNotStarted
  | cannotCloseDistributor
  | cannotCloseClaimStatus
  | invalidActivationType
deriving DecidableEq

/-- The errors of Anchor's account validation that the contexts of this program
can meet. -/
inductive AnchorError where
  | constraintHasOne
  | constraintSeeds
  | constraintAssociated
  | constraintClose
  | constraintAddress
  | constraintTokenMint
  | constraintTokenOwner
  | accountDiscriminatorMismatch
  | accountOwnedByWrongProgram
  | accountNotSigner
  | accountNotInitialized
deriving DecidableEq

/-- The errors of a token transfer. -/
inductive TokenError where
  | insufficientFunds
  | mintMismatch
  | ownerMismatch
  | overflow
deriving DecidableEq

/-- Everything a transaction can fail with.  A panic also fails it. -/
inductive ProgramError where
  | errorCode (code : ErrorCode)
  | anchor (code : AnchorError)
  | token (code : TokenError)
  | invalidAccountData
  | missingRequiredSignature
  | accountAlreadyInUse
  | invalidSeeds
  | privilegeEscalation
  | panic
deriving DecidableEq

/-! ## Checked arithmetic -/

section SafeMath

variable {w : Nat}

/-- `.ok_or(ErrorCode::ArithmeticError)` -/
def okOrArithmetic {α : Type} (value : Option α) : Except ProgramError α :=
  okOr value (.errorCode .arithmeticError)

/-- `SafeMath::safe_add` -/
def safeAdd (a b : BitVec w) : Except ProgramError (BitVec w) :=
  okOrArithmetic (checkedAdd a b)

/-- `SafeMath::safe_sub` -/
def safeSub (a b : BitVec w) : Except ProgramError (BitVec w) :=
  okOrArithmetic (checkedSub a b)

/-- `SafeMath::safe_mul` -/
def safeMul (a b : BitVec w) : Except ProgramError (BitVec w) :=
  okOrArithmetic (checkedMul a b)

/-- `SafeMath::safe_div` -/
def safeDiv (a b : BitVec w) : Except ProgramError (BitVec w) :=
  okOrArithmetic (checkedDiv a b)

variable {a b c : BitVec w}

@[simp] theorem okOrArithmetic_eq_ok {α : Type} {value : Option α} {result : α} :
    okOrArithmetic value = .ok result ↔ value = some result := okOr_eq_ok

@[simp] theorem safeAdd_eq_ok :
    safeAdd a b = .ok c ↔ c.toNat = a.toNat + b.toNat := by
  rw [safeAdd, okOrArithmetic_eq_ok, checkedAdd_eq_some]

@[simp] theorem safeSub_eq_ok :
    safeSub a b = .ok c ↔ c.toNat + b.toNat = a.toNat := by
  rw [safeSub, okOrArithmetic_eq_ok, checkedSub_eq_some]

@[simp] theorem safeMul_eq_ok :
    safeMul a b = .ok c ↔ c.toNat = a.toNat * b.toNat := by
  rw [safeMul, okOrArithmetic_eq_ok, checkedMul_eq_some]

@[simp] theorem safeDiv_eq_ok :
    safeDiv a b = .ok c ↔ b.toNat ≠ 0 ∧ c.toNat = a.toNat / b.toNat := by
  rw [safeDiv, okOrArithmetic_eq_ok, checkedDiv_eq_some]

end SafeMath

/-! ## The distributor -/

/-- `ActivationType` -/
inductive ActivationType where
  | slot
  | timestamp
deriving DecidableEq

/-- `ActivationType::try_from` -/
def ActivationType.tryFrom (value : UInt8) : Option ActivationType :=
  if value = 0 then some .slot
  else if value = 1 then some .timestamp
  else none

/-- The fields of the `Clock` sysvar that the program reads. -/
structure Clock where
  slot : U64
  unixTimestamp : Int64
deriving DecidableEq

structure AirdropBonus where
  totalBonus : U64
  vestingDuration : U64
  totalClaimedBonus : U64
deriving DecidableEq

/-- `MerkleDistributor`, without its unused buffers. -/
structure MerkleDistributor where
  bump : UInt8
  version : U64
  root : Hash
  mint : Pubkey
  base : Pubkey
  tokenVault : Pubkey
  maxTotalClaim : U64
  maxNumNodes : U64
  totalAmountClaimed : U64
  numNodesClaimed : U64
  startTs : Int64
  endTs : Int64
  clawbackStartTs : Int64
  clawbackReceiver : Pubkey
  admin : Pubkey
  clawedBack : Bool
  activationPoint : U64
  closable : Bool
  airdropBonus : AirdropBonus
  activationType : UInt8
deriving DecidableEq

structure ActivationHandler where
  currPoint : U64
  activationPoint : U64
  airdropBonus : AirdropBonus
deriving DecidableEq

namespace ActivationHandler

/-- `ActivationHandler::validate_claim`, whose only check is commented out in
the source. -/
def validateClaim (_self : ActivationHandler) : Except ProgramError Unit :=
  pure ()

/-- `ActivationHandler::get_bonus_for_a_claimaint` -/
def getBonusForAClaimaint (self : ActivationHandler) (maxBonus : U64) :
    Except ProgramError U64 := do
  let currPoint := self.currPoint
  let startPoint := self.activationPoint
  let endPoint ← safeAdd self.airdropBonus.vestingDuration startPoint
  if startPoint ≤ currPoint then
    if endPoint ≤ currPoint then
      pure maxBonus
    else
      let durationIntoUnlock ← safeSub currPoint startPoint
      let totalUnlockDuration := self.airdropBonus.vestingDuration
      let product ← safeMul (U64.toU128 durationIntoUnlock) (U64.toU128 maxBonus)
      let amount ← safeDiv product (U64.toU128 totalUnlockDuration)
      pure (U128.toU64 amount)
  else
    pure 0

end ActivationHandler

namespace MerkleDistributor

/-- `MerkleDistributor::get_activation_handler` -/
def getActivationHandler (self : MerkleDistributor) (clock : Clock) :
    Except ProgramError ActivationHandler := do
  let activationType ← okOr (ActivationType.tryFrom self.activationType) .panic
  let currPoint :=
    match activationType with
    | .slot => clock.slot
    | .timestamp => I64.toU64 clock.unixTimestamp
  pure
    { currPoint
      activationPoint := self.activationPoint
      airdropBonus := self.airdropBonus }

/-- `MerkleDistributor::accumulate_bonus` -/
def accumulateBonus (self : MerkleDistributor) (bonus : U64) :
    Except ProgramError MerkleDistributor := do
  let totalClaimedBonus ← safeAdd self.airdropBonus.totalClaimedBonus bonus
  pure { self with
    airdropBonus := { self.airdropBonus with totalClaimedBonus } }

/-- `MerkleDistributor::get_max_bonus_for_a_claimant` -/
def getMaxBonusForAClaimant (self : MerkleDistributor) (unlockedAmount : U64) :
    Except ProgramError U64 := do
  let maxTotalClaimWithoutBonus ←
    safeSub self.maxTotalClaim self.airdropBonus.totalBonus
  let product ← safeMul (U64.toU128 unlockedAmount)
    (U64.toU128 self.airdropBonus.totalBonus)
  let amount ← safeDiv product (U64.toU128 maxTotalClaimWithoutBonus)
  pure (U128.toU64 amount)

/-- `MerkleDistributor::get_bonus_for_a_claimaint` -/
def getBonusForAClaimaint (self : MerkleDistributor) (unlockedAmount : U64)
    (activationHandler : ActivationHandler) : Except ProgramError U64 := do
  let maxBonus ← self.getMaxBonusForAClaimant unlockedAmount
  activationHandler.getBonusForAClaimaint maxBonus

end MerkleDistributor

/-! ## The claim status -/

structure ClaimStatus where
  claimant : Pubkey
  lockedAmount : U64
  lockedAmountWithdrawn : U64
  unlockedAmount : U64
  closable : Bool
  admin : Pubkey
deriving DecidableEq

namespace ClaimStatus

/-- `ClaimStatus::unlocked_amount`, named `unlockedAmountAt` because the field
`unlocked_amount` has the same name. -/
def unlockedAmountAt (self : ClaimStatus) (currTs startTs endTs : Int64) :
    Except ProgramError U64 :=
  if startTs ≤ currTs then
    if endTs ≤ currTs then
      pure self.lockedAmount
    else do
      let timeIntoUnlock ← okOrArithmetic (checkedSubSigned currTs startTs)
      let totalUnlockTime ← okOrArithmetic (checkedSubSigned endTs startTs)
      let product ← okOrArithmetic
        (checkedMul (I64.toU128 timeIntoUnlock) (U64.toU128 self.lockedAmount))
      let amount ← okOrArithmetic
        (checkedDiv product (I64.toU128 totalUnlockTime))
      pure (U128.toU64 amount)
  else
    pure 0

/-- `ClaimStatus::amount_withdrawable` -/
def amountWithdrawable (self : ClaimStatus) (currTs startTs endTs : Int64) :
    Except ProgramError U64 := do
  let vested ← self.unlockedAmountAt currTs startTs endTs
  okOrArithmetic (checkedSub vested self.lockedAmountWithdrawn)

end ClaimStatus

end Airdrop
