/-
Module: Airdrop.Proofs.LifecycleSpecs
Purpose: Exactly when the instructions that create, tune, empty and close
  accounts succeed, and what each of them does to each kind of account.
Trusted boundary: none
Main exports: CreationChecks, newDistributor_eq_ok, newDistributor2_eq_ok,
  ClawbackChecks, clawback_eq_ok, CloseDistributorChecks, closeDistributor_eq_ok,
  closeClaimStatus_eq_ok, CreationEffect, SweepEffect, Retuned
-/
import Airdrop.Proofs.BankViews

namespace Airdrop

open Checked

/-! ## Creation -/

/-- The accounts that the creating instructions accept. -/
structure NewDistributor.Valid (env : Env) (signers : List Pubkey) (bank : Bank)
    (accounts : NewDistributor) (version : U64) (bump : UInt8) : Prop where
  baseSigned : accounts.base ∈ signers
  adminSigned : accounts.admin ∈ signers
  isMint : bank accounts.mint = some .mint
  receiver : ∃ account, bank accounts.clawbackReceiver = some (.token account) ∧
    account.mint = accounts.mint
  vault : ∃ account, bank accounts.tokenVault = some (.token account) ∧
    account.owner = accounts.distributor
  vaultAssociated : accounts.tokenVault =
    env.associatedTokenAddress accounts.distributor accounts.mint
  derived : env.findProgramAddress
    (distributorSeeds accounts.base accounts.mint version) =
      (accounts.distributor, bump)
  free : bank accounts.distributor = none

theorem NewDistributor.tryAccounts_eq_ok {env : Env} {signers : List Pubkey}
    {bank : Bank} {accounts : NewDistributor} {version : U64} {bump : UInt8} :
    accounts.tryAccounts env signers bank version = .ok bump ↔
      accounts.Valid env signers bank version bump := by
  unfold NewDistributor.tryAccounts
  simp only [bind_eq_ok, Bank.loadToken_eq_ok, Bank.loadMint_eq_ok,
    requireSigner_eq_ok, requireInit_eq_ok, requireAssociatedToken_eq_ok,
    require_eq_ok, pure_eq, Except.ok.injEq]
  constructor
  · rintro ⟨_, baseSigned, receiver, isReceiver, _, isMint, vault, isVault, _,
      adminSigned, bump, ⟨derived, free⟩, _, receiverMint, _,
      ⟨vaultOwner, vaultAssociated⟩, rfl⟩
    exact
      { baseSigned
        adminSigned
        isMint
        receiver := ⟨receiver, isReceiver, receiverMint⟩
        vault := ⟨vault, isVault, vaultOwner⟩
        vaultAssociated
        derived
        free }
  · intro valid
    obtain ⟨receiver, isReceiver, receiverMint⟩ := valid.receiver
    obtain ⟨vault, isVault, vaultOwner⟩ := valid.vault
    exact ⟨(), valid.baseSigned, receiver, isReceiver, (), valid.isMint, vault,
      isVault, (), valid.adminSigned, bump, ⟨valid.derived, valid.free⟩, (),
      receiverMint, (), ⟨vaultOwner, valid.vaultAssociated⟩, rfl⟩

/-- The distributor that the creating instructions write. -/
def createdDistributor (accounts : NewDistributor) (args : NewDistributorArgs)
    (bump : UInt8) (maxTotalClaim totalBonus bonusVestingDuration : U64) :
    MerkleDistributor :=
  { bump
    version := args.version
    root := args.root
    mint := accounts.mint
    base := accounts.base
    tokenVault := accounts.tokenVault
    maxTotalClaim
    maxNumNodes := args.maxNumNodes
    totalAmountClaimed := 0
    numNodesClaimed := 0
    startTs := args.startVestingTs
    endTs := args.endVestingTs
    clawbackStartTs := args.clawbackStartTs
    clawbackReceiver := accounts.clawbackReceiver
    admin := accounts.admin
    clawedBack := false
    activationPoint := args.activationPoint
    closable := args.closable
    airdropBonus :=
      { totalBonus
        vestingDuration := bonusVestingDuration
        totalClaimedBonus := 0 }
    activationType := args.activationType }

/-- Every check of the creating instructions. -/
structure CreationChecks (env : Env) (clock : Clock) (signers : List Pubkey)
    (bank : Bank) (accounts : NewDistributor) (args : NewDistributorArgs)
    (bump : UInt8) : Prop where
  valid : accounts.Valid env signers bank args.version bump
  ordered : args.startVestingTs.toInt < args.endVestingTs.toInt
  future : clock.unixTimestamp.toInt < args.startVestingTs.toInt
  clawbackAfterEnd : args.endVestingTs.toInt ≤ args.clawbackStartTs.toInt
  activation : ∃ activationType,
    ActivationType.tryFrom args.activationType = some activationType

theorem handleNewDistributor_eq_ok {clock : Clock} {bank : Bank}
    {accounts : NewDistributor} {bump : UInt8} {args : NewDistributorArgs}
    {maxTotalClaim totalBonus bonusVestingDuration : U64} {receipt : Receipt} :
    handleNewDistributor clock bank accounts bump args maxTotalClaim totalBonus
        bonusVestingDuration = .ok receipt ↔
      (args.startVestingTs.toInt < args.endVestingTs.toInt ∧
        clock.unixTimestamp.toInt < args.startVestingTs.toInt ∧
        args.endVestingTs.toInt ≤ args.clawbackStartTs.toInt ∧
        ∃ activationType,
          ActivationType.tryFrom args.activationType = some activationType) ∧
      receipt = .quiet (bank.set accounts.distributor
        (.distributor (createdDistributor accounts args bump maxTotalClaim totalBonus
          bonusVestingDuration))) := by
  unfold handleNewDistributor
  simp only [bind_eq_ok, require_eq_ok, okOr_eq_ok, pure_eq, Except.ok.injEq,
    Int64.lt_iff_toInt_lt, Int64.le_iff_toInt_le]
  constructor
  · rintro ⟨_, ordered, _, ⟨future, _⟩, _, clawbackAfterEnd, activationType, valid,
      rfl⟩
    exact ⟨⟨ordered, future, clawbackAfterEnd, activationType, valid⟩, rfl⟩
  · rintro ⟨⟨ordered, future, clawbackAfterEnd, activationType, valid⟩, rfl⟩
    exact ⟨(), ordered, (), ⟨future, by omega⟩, (), clawbackAfterEnd, activationType,
      valid, rfl⟩

/-- `new_distributor` succeeds exactly when all its checks pass. -/
theorem newDistributor_eq_ok {env : Env} {clock : Clock} {signers : List Pubkey}
    {bank : Bank} {accounts : NewDistributor} {args : NewDistributorArgs}
    {receipt : Receipt} :
    newDistributor env clock signers bank accounts args = .ok receipt ↔
      ∃ bump, CreationChecks env clock signers bank accounts args bump ∧
        receipt = .quiet (bank.set accounts.distributor
          (.distributor (createdDistributor accounts args bump args.maxTotalClaim 0
            0))) := by
  unfold newDistributor
  simp only [bind_eq_ok, NewDistributor.tryAccounts_eq_ok,
    handleNewDistributor_eq_ok]
  constructor
  · rintro ⟨bump, valid, ⟨ordered, future, clawbackAfterEnd, activation⟩, rfl⟩
    exact ⟨bump, ⟨valid, ordered, future, clawbackAfterEnd, activation⟩, rfl⟩
  · rintro ⟨bump, checks, rfl⟩
    exact ⟨bump, checks.valid, ⟨checks.ordered, checks.future,
      checks.clawbackAfterEnd, checks.activation⟩, rfl⟩

/-- `new_distributor2` succeeds exactly when all its checks pass and the cap with
the bonus on top is a `u64`. -/
theorem newDistributor2_eq_ok {env : Env} {clock : Clock} {signers : List Pubkey}
    {bank : Bank} {accounts : NewDistributor} {args : NewDistributorArgs}
    {totalBonus bonusVestingDuration : U64} {receipt : Receipt} :
    newDistributor2 env clock signers bank accounts args totalBonus
        bonusVestingDuration = .ok receipt ↔
      ∃ bump maxTotalClaim, CreationChecks env clock signers bank accounts args bump ∧
        maxTotalClaim.toNat = args.maxTotalClaim.toNat + totalBonus.toNat ∧
        receipt = .quiet (bank.set accounts.distributor
          (.distributor (createdDistributor accounts args bump maxTotalClaim
            totalBonus bonusVestingDuration))) := by
  unfold newDistributor2
  simp only [bind_eq_ok, NewDistributor.tryAccounts_eq_ok, okOrArithmetic_eq_ok,
    checkedAdd_eq_some, handleNewDistributor_eq_ok]
  constructor
  · rintro ⟨bump, valid, maxTotalClaim, isMax,
      ⟨ordered, future, clawbackAfterEnd, activation⟩, rfl⟩
    exact ⟨bump, maxTotalClaim,
      ⟨valid, ordered, future, clawbackAfterEnd, activation⟩, isMax, rfl⟩
  · rintro ⟨bump, maxTotalClaim, checks, isMax, rfl⟩
    exact ⟨bump, checks.valid, maxTotalClaim, isMax, ⟨checks.ordered, checks.future,
      checks.clawbackAfterEnd, checks.activation⟩, rfl⟩

/-- What a creation has found and done. -/
structure CreationEffect (env : Env) (clock : Clock) (bank : Bank)
    (receipt : Receipt) (distributorKey : Pubkey) (created : MerkleDistributor) :
    Prop where
  fresh : bank distributorKey = none
  derived : env.findProgramAddress
    (distributorSeeds created.base created.mint created.version) =
      (distributorKey, created.bump)
  isMint : bank created.mint = some .mint
  vault : ∃ account, bank created.tokenVault = some (.token account) ∧
    account.owner = distributorKey
  vaultAssociated : created.tokenVault =
    env.associatedTokenAddress distributorKey created.mint
  receiver : ∃ account, bank created.clawbackReceiver = some (.token account) ∧
    account.mint = created.mint
  ordered : created.startTs.toInt < created.endTs.toInt
  future : clock.unixTimestamp.toInt < created.startTs.toInt
  clawbackAfterEnd : created.endTs.toInt ≤ created.clawbackStartTs.toInt
  activation : ∃ activationType,
    ActivationType.tryFrom created.activationType = some activationType
  unclaimed : created.totalAmountClaimed = 0 ∧ created.numNodesClaimed = 0 ∧
    created.airdropBonus.totalClaimedBonus = 0 ∧ created.clawedBack = false
  bonusWithinCap : created.airdropBonus.totalBonus.toNat ≤
    created.maxTotalClaim.toNat
  noTransfer : receipt.transfers = []
  distributors : receipt.bank.distributor? =
    Function.update bank.distributor? distributorKey (some created)
  statuses : receipt.bank.claimStatus? = bank.claimStatus?
  tokens : receipt.bank.token? = bank.token?

theorem creation_effect {env : Env} {clock : Clock} {signers : List Pubkey}
    {bank : Bank} {accounts : NewDistributor} {args : NewDistributorArgs}
    {bump : UInt8} (checks : CreationChecks env clock signers bank accounts args bump)
    {maxTotalClaim totalBonus : U64} (bonusVestingDuration : U64)
    (bonusWithinCap : totalBonus.toNat ≤ maxTotalClaim.toNat) :
    CreationEffect env clock bank
      (.quiet (bank.set accounts.distributor
        (.distributor (createdDistributor accounts args bump maxTotalClaim totalBonus
          bonusVestingDuration))))
      accounts.distributor
      (createdDistributor accounts args bump maxTotalClaim totalBonus
        bonusVestingDuration) where
  fresh := checks.valid.free
  derived := checks.valid.derived
  isMint := checks.valid.isMint
  vault := checks.valid.vault
  vaultAssociated := checks.valid.vaultAssociated
  receiver := checks.valid.receiver
  ordered := checks.ordered
  future := checks.future
  clawbackAfterEnd := checks.clawbackAfterEnd
  activation := checks.activation
  unclaimed := ⟨rfl, rfl, rfl, rfl⟩
  bonusWithinCap := bonusWithinCap
  noTransfer := rfl
  distributors := Bank.distributor?_set_distributor _ _ _
  statuses := Bank.claimStatus?_update _
    (by simp [Bank.claimStatus?, checks.valid.free]) (by simp)
  tokens := Bank.token?_update _ (by simp [Bank.token?, checks.valid.free]) (by simp)

/-! ## Emptying the vault -/

/-- What clawing back and closing have in common: the whole balance of the vault
is sent to one destination. -/
structure SweepEffect (bank : Bank) (receipt : Receipt)
    (distributorKey destination : Pubkey) (distributor : MerkleDistributor)
    (vault : TokenAccount) (after : Option MerkleDistributor) : Prop where
  isDistributor : bank distributorKey = some (.distributor distributor)
  isVault : bank distributor.tokenVault = some (.token vault)
  vaultOwner : vault.owner = distributorKey
  isDestination : ∃ account, bank destination = some (.token account)
  transfers : receipt.transfers =
    [⟨distributor.tokenVault, destination, vault.amount⟩]
  distributors : receipt.bank.distributor? =
    Function.update bank.distributor? distributorKey after
  statuses : receipt.bank.claimStatus? = bank.claimStatus?
  tokens : TokensMoved bank receipt.bank receipt.transfers

/-- Every check of `clawback`. -/
structure ClawbackChecks (env : Env) (clock : Clock) (signers : List Pubkey)
    (bank : Bank) (accounts : Clawback) (distributor : MerkleDistributor)
    (vault : TokenAccount) (moved : Bank) : Prop where
  isDistributor : bank accounts.distributor = some (.distributor distributor)
  isVault : bank accounts.fromAccount = some (.token vault)
  vaultOwner : vault.owner = accounts.distributor
  vaultAssociated : accounts.fromAccount =
    env.associatedTokenAddress accounts.distributor distributor.mint
  vaultAddress : accounts.fromAccount = distributor.tokenVault
  isReceiver : ∃ account, bank accounts.toAccount = some (.token account)
  receiverAddress : accounts.toAccount = distributor.clawbackReceiver
  signed : accounts.claimant ∈ signers
  notClawedBack : distributor.clawedBack = false
  started : distributor.clawbackStartTs.toInt ≤ clock.unixTimestamp.toInt
  transferred : transferSigned env bank signers distributor.signerSeeds
    accounts.fromAccount accounts.toAccount accounts.distributor vault.amount =
      .ok moved

/-- `clawback` succeeds exactly when all its checks pass. -/
theorem clawback_eq_ok {env : Env} {clock : Clock} {signers : List Pubkey}
    {bank : Bank} {accounts : Clawback} {receipt : Receipt} :
    clawback env clock signers bank accounts = .ok receipt ↔
      ∃ distributor vault moved,
        ClawbackChecks env clock signers bank accounts distributor vault moved ∧
        receipt =
          { bank := moved.set accounts.distributor
              (.distributor { distributor with clawedBack := true })
            transfers :=
              [⟨accounts.fromAccount, accounts.toAccount, vault.amount⟩]
            events := [] } := by
  unfold clawback Clawback.tryAccounts handleClawback
  simp only [bind_eq_ok, Bank.loadDistributor_eq_ok, Bank.loadToken_eq_ok,
    requireSigner_eq_ok, requireAssociatedToken_eq_ok, require_eq_ok, pure_eq,
    Except.ok.injEq, Bool.not_eq_true', Int64.le_iff_toInt_le]
  constructor
  · rintro ⟨_, ⟨distributor, isDistributor, vault, isVault, receiver, isReceiver, _,
      signed, _, ⟨vaultOwner, vaultAssociated⟩, _, vaultAddress, _, receiverAddress,
      rfl⟩, _, notClawedBack, _, started, moved, transferred, rfl⟩
    exact ⟨distributor, vault, moved,
      { isDistributor
        isVault
        vaultOwner
        vaultAssociated
        vaultAddress
        isReceiver := ⟨receiver, isReceiver⟩
        receiverAddress
        signed
        notClawedBack
        started
        transferred }, rfl⟩
  · rintro ⟨distributor, vault, moved, checks, rfl⟩
    obtain ⟨receiver, isReceiver⟩ := checks.isReceiver
    exact ⟨(distributor, vault), ⟨distributor, checks.isDistributor, vault,
      checks.isVault, receiver, isReceiver, (), checks.signed, (),
      ⟨checks.vaultOwner, checks.vaultAssociated⟩, (), checks.vaultAddress, (),
      checks.receiverAddress, rfl⟩, (), checks.notClawedBack, (), checks.started,
      moved, checks.transferred, rfl⟩

/-- Writing or closing the distributor after the transfer touches no claim status
and moves no further tokens. -/
theorem sweepWrites {bank moved : Bank} {source destination authority : Pubkey}
    {amount : U64}
    (transfer : TransferEffect bank moved source destination authority amount)
    {distributorKey : Pubkey} {before : MerkleDistributor}
    (isDistributor : bank distributorKey = some (.distributor before))
    (value : Option Account) (notStatus : ∀ data, value ≠ some (.claimStatus data))
    (notToken : ∀ data, value ≠ some (.token data)) :
    Bank.claimStatus? (Function.update moved distributorKey value) =
        bank.claimStatus? ∧
      TokensMoved bank (Function.update moved distributorKey value)
        [⟨source, destination, amount⟩] := by
  have kept : moved distributorKey = some (.distributor before) := by
    rw [transfer.others distributorKey (by simp [isDistributor]), isDistributor]
  constructor
  · rw [Bank.claimStatus?_update _ (by simp [Bank.claimStatus?, kept]) notStatus,
      transfer.statuses]
  · apply transfer.tokens.trans_token?
    exact Bank.token?_update _ (by simp [Bank.token?, kept]) notToken

/-- What a successful `clawback` has done. -/
theorem clawback_effect {env : Env} {clock : Clock} {signers : List Pubkey}
    {bank moved : Bank} {accounts : Clawback} {distributor : MerkleDistributor}
    {vault : TokenAccount}
    (checks : ClawbackChecks env clock signers bank accounts distributor vault
      moved) :
    SweepEffect bank
      { bank := moved.set accounts.distributor
          (.distributor { distributor with clawedBack := true })
        transfers := [⟨accounts.fromAccount, accounts.toAccount, vault.amount⟩]
        events := [] }
      accounts.distributor distributor.clawbackReceiver distributor vault
      (some { distributor with clawedBack := true }) := by
  have transfer := transferSigned_effect checks.transferred
  obtain ⟨statuses, tokens⟩ := sweepWrites transfer checks.isDistributor
    (some (.distributor { distributor with clawedBack := true })) (by simp)
    (by simp)
  exact
    { isDistributor := checks.isDistributor
      isVault := checks.vaultAddress ▸ checks.isVault
      vaultOwner := checks.vaultOwner
      isDestination := checks.receiverAddress ▸ checks.isReceiver
      transfers := by rw [checks.vaultAddress, checks.receiverAddress]
      distributors := by
        rw [Bank.distributor?_set_distributor, transfer.distributors]
      statuses
      tokens }

/-- Every check of `close_distributor`. -/
structure CloseDistributorChecks (env : Env) (signers : List Pubkey) (bank : Bank)
    (accounts : CloseDistributor) (distributor : MerkleDistributor)
    (vault : TokenAccount) (moved : Bank) : Prop where
  isDistributor : bank accounts.distributor = some (.distributor distributor)
  isVault : bank accounts.tokenVault = some (.token vault)
  isDestination : ∃ account,
    bank accounts.destinationTokenAccount = some (.token account)
  signed : accounts.admin ∈ signers
  isAdmin : distributor.admin = accounts.admin
  vaultAddress : distributor.tokenVault = accounts.tokenVault
  closable : distributor.closable = true
  apart : accounts.distributor ≠ accounts.admin
  transferred : transferSigned env bank signers distributor.signerSeeds
    accounts.tokenVault accounts.destinationTokenAccount accounts.distributor
    vault.amount = .ok moved

/-- `close_distributor` succeeds exactly when all its checks pass. -/
theorem closeDistributor_eq_ok {env : Env} {signers : List Pubkey} {bank : Bank}
    {accounts : CloseDistributor} {receipt : Receipt} :
    closeDistributor env signers bank accounts = .ok receipt ↔
      ∃ distributor vault moved,
        CloseDistributorChecks env signers bank accounts distributor vault moved ∧
        receipt =
          { bank := moved.close accounts.distributor
            transfers :=
              [⟨accounts.tokenVault, accounts.destinationTokenAccount,
                vault.amount⟩]
            events := [] } := by
  unfold closeDistributor CloseDistributor.tryAccounts handleCloseDistributor
  simp only [bind_eq_ok, Bank.loadDistributor_eq_ok, Bank.loadToken_eq_ok,
    requireSigner_eq_ok, require_eq_ok, pure_eq, Except.ok.injEq]
  constructor
  · rintro ⟨_, ⟨distributor, isDistributor, vault, isVault, _, signed, destination,
      isDestination, _, isAdmin, _, vaultAddress, _, closable, _, apart, rfl⟩, moved,
      transferred, rfl⟩
    exact ⟨distributor, vault, moved,
      { isDistributor
        isVault
        isDestination := ⟨destination, isDestination⟩
        signed
        isAdmin
        vaultAddress
        closable
        apart
        transferred }, rfl⟩
  · rintro ⟨distributor, vault, moved, checks, rfl⟩
    obtain ⟨destination, isDestination⟩ := checks.isDestination
    exact ⟨(distributor, vault), ⟨distributor, checks.isDistributor, vault,
      checks.isVault, (), checks.signed, destination, isDestination, (),
      checks.isAdmin, (), checks.vaultAddress, (), checks.closable, (), checks.apart,
      rfl⟩, moved, checks.transferred, rfl⟩

/-- What a successful `close_distributor` has done. -/
theorem closeDistributor_effect {env : Env} {signers : List Pubkey}
    {bank moved : Bank} {accounts : CloseDistributor}
    {distributor : MerkleDistributor} {vault : TokenAccount}
    (checks : CloseDistributorChecks env signers bank accounts distributor vault
      moved) :
    SweepEffect bank
      { bank := moved.close accounts.distributor
        transfers :=
          [⟨accounts.tokenVault, accounts.destinationTokenAccount, vault.amount⟩]
        events := [] }
      accounts.distributor accounts.destinationTokenAccount distributor vault
      none := by
  have transfer := transferSigned_effect checks.transferred
  obtain ⟨payer, isPayer, owner, _⟩ := transfer.payer
  have samePayer : payer = vault := by
    have both := checks.isVault
    rw [isPayer] at both
    simpa using both
  obtain ⟨statuses, tokens⟩ := sweepWrites transfer checks.isDistributor
    none (by simp) (by simp)
  exact
    { isDistributor := checks.isDistributor
      isVault := checks.vaultAddress ▸ checks.isVault
      vaultOwner := samePayer ▸ owner
      isDestination := checks.isDestination
      transfers := by rw [checks.vaultAddress]
      distributors := by rw [Bank.distributor?_close, transfer.distributors]
      statuses
      tokens }

/-! ## Closing a claim status -/

/-- Every check of `close_claim_status`. -/
structure CloseClaimStatusChecks (signers : List Pubkey) (bank : Bank)
    (accounts : CloseClaimStatus) (claimStatus : ClaimStatus) : Prop where
  isClaimStatus : bank accounts.claimStatus = some (.claimStatus claimStatus)
  signed : accounts.admin ∈ signers
  isClaimant : claimStatus.claimant = accounts.claimant
  isAdmin : claimStatus.admin = accounts.admin
  closable : claimStatus.closable = true
  apart : accounts.claimStatus ≠ accounts.claimant

/-- `close_claim_status` succeeds exactly when all its checks pass. -/
theorem closeClaimStatus_eq_ok {signers : List Pubkey} {bank : Bank}
    {accounts : CloseClaimStatus} {receipt : Receipt} :
    closeClaimStatus signers bank accounts = .ok receipt ↔
      (∃ claimStatus, CloseClaimStatusChecks signers bank accounts claimStatus) ∧
        receipt = .quiet (bank.close accounts.claimStatus) := by
  unfold closeClaimStatus CloseClaimStatus.tryAccounts
  simp only [bind_eq_ok, Bank.loadClaimStatus_eq_ok, requireSigner_eq_ok,
    require_eq_ok, pure_eq, Except.ok.injEq]
  constructor
  · rintro ⟨_, ⟨status, isClaimStatus, _, signed, _, isClaimant, _, isAdmin, _,
      closable, apart⟩, rfl⟩
    exact ⟨⟨status, isClaimStatus, signed, isClaimant, isAdmin, closable, apart⟩, rfl⟩
  · rintro ⟨⟨status, checks⟩, rfl⟩
    exact ⟨(), ⟨status, checks.isClaimStatus, (), checks.signed, (),
      checks.isClaimant, (), checks.isAdmin, (), checks.closable, checks.apart⟩, rfl⟩

/-- Closing a claim status changes nothing else. -/
theorem closeClaimStatus_views {bank : Bank} {key : Pubkey} {status : ClaimStatus}
    (isClaimStatus : bank key = some (.claimStatus status)) :
    (bank.close key).distributor? = bank.distributor? ∧
      (bank.close key).claimStatus? =
        Function.update bank.claimStatus? key none ∧
      (bank.close key).token? = bank.token? := by
  refine ⟨?_, Bank.claimStatus?_close _ _, ?_⟩
  · exact Bank.distributor?_update _ (by simp [Bank.distributor?, isClaimStatus])
      (by simp)
  · exact Bank.token?_update _ (by simp [Bank.token?, isClaimStatus]) (by simp)

/-! ## Tuning -/

/-- `after` is `before` up to the activation point, the clawback receiver and the
admin. -/
def Retuned (before after : MerkleDistributor) : Prop :=
  after = { before with
    activationPoint := after.activationPoint
    clawbackReceiver := after.clawbackReceiver
    admin := after.admin }

/-- What the three setting instructions have in common. -/
structure TuningEffect (signers : List Pubkey) (bank : Bank) (receipt : Receipt)
    (distributorKey : Pubkey) (before after : MerkleDistributor) : Prop where
  isDistributor : bank distributorKey = some (.distributor before)
  signed : before.admin ∈ signers
  retuned : Retuned before after
  noTransfer : receipt.transfers = []
  distributors : receipt.bank.distributor? =
    Function.update bank.distributor? distributorKey (some after)
  statuses : receipt.bank.claimStatus? = bank.claimStatus?
  tokens : receipt.bank.token? = bank.token?

theorem tuning_effect {signers : List Pubkey} {bank : Bank}
    {distributorKey : Pubkey} {before after : MerkleDistributor}
    (isDistributor : bank distributorKey = some (.distributor before))
    (signed : before.admin ∈ signers) (retuned : Retuned before after) :
    TuningEffect signers bank
      (.quiet (bank.set distributorKey (.distributor after))) distributorKey before
      after where
  isDistributor := isDistributor
  signed := signed
  retuned := retuned
  noTransfer := rfl
  distributors := Bank.distributor?_set_distributor _ _ _
  statuses := Bank.claimStatus?_update _ (by simp [Bank.claimStatus?, isDistributor])
    (by simp)
  tokens := Bank.token?_update _ (by simp [Bank.token?, isDistributor]) (by simp)

theorem setActivationPoint_eq_ok {signers : List Pubkey} {bank : Bank}
    {accounts : SetActivationPoint} {activationPoint : U64} {receipt : Receipt} :
    setActivationPoint signers bank accounts activationPoint = .ok receipt ↔
      ∃ distributor, bank accounts.distributor = some (.distributor distributor) ∧
        accounts.admin ∈ signers ∧ distributor.admin = accounts.admin ∧
        receipt = .quiet (bank.set accounts.distributor
          (.distributor { distributor with activationPoint })) := by
  unfold setActivationPoint
  simp only [bind_eq_ok, Bank.loadDistributor_eq_ok, requireSigner_eq_ok,
    require_eq_ok, pure_eq, Except.ok.injEq, exists_and_left, exists_const]
  constructor
  · rintro ⟨distributor, isDistributor, signed, isAdmin, rfl⟩
    exact ⟨distributor, isDistributor, signed, isAdmin, rfl⟩
  · rintro ⟨distributor, isDistributor, signed, isAdmin, rfl⟩
    exact ⟨distributor, isDistributor, signed, isAdmin, rfl⟩

theorem setClawbackReceiver_eq_ok {signers : List Pubkey} {bank : Bank}
    {accounts : SetClawbackReceiver} {receipt : Receipt} :
    setClawbackReceiver signers bank accounts = .ok receipt ↔
      ∃ distributor account,
        bank accounts.distributor = some (.distributor distributor) ∧
        bank accounts.newClawbackAccount = some (.token account) ∧
        accounts.admin ∈ signers ∧ account.mint = distributor.mint ∧
        accounts.admin = distributor.admin ∧
        distributor.clawbackReceiver ≠ accounts.newClawbackAccount ∧
        receipt = .quiet (bank.set accounts.distributor (.distributor
          { distributor with clawbackReceiver := accounts.newClawbackAccount })) := by
  unfold setClawbackReceiver
  simp only [bind_eq_ok, Bank.loadDistributor_eq_ok, Bank.loadToken_eq_ok,
    requireSigner_eq_ok, require_eq_ok, pure_eq, Except.ok.injEq, exists_and_left,
    exists_const]
  constructor
  · rintro ⟨distributor, isDistributor, account, isAccount, signed, sameMint, isAdmin,
      different, rfl⟩
    exact ⟨distributor, isDistributor, account, isAccount, signed, sameMint, isAdmin,
      different, rfl⟩
  · rintro ⟨distributor, isDistributor, account, isAccount, signed, sameMint, isAdmin,
      different, rfl⟩
    exact ⟨distributor, isDistributor, account, isAccount, signed, sameMint, isAdmin,
      different, rfl⟩

theorem setAdmin_eq_ok {signers : List Pubkey} {bank : Bank}
    {accounts : SetAdmin} {receipt : Receipt} :
    setAdmin signers bank accounts = .ok receipt ↔
      ∃ distributor, bank accounts.distributor = some (.distributor distributor) ∧
        accounts.admin ∈ signers ∧ accounts.admin = distributor.admin ∧
        accounts.admin ≠ accounts.newAdmin ∧
        receipt = .quiet (bank.set accounts.distributor
          (.distributor { distributor with admin := accounts.newAdmin })) := by
  unfold setAdmin
  simp only [bind_eq_ok, Bank.loadDistributor_eq_ok, requireSigner_eq_ok,
    require_eq_ok, pure_eq, Except.ok.injEq, exists_and_left, exists_const]
  constructor
  · rintro ⟨distributor, isDistributor, signed, isAdmin, different, rfl⟩
    exact ⟨distributor, isDistributor, signed, isAdmin, different, rfl⟩
  · rintro ⟨distributor, isDistributor, signed, isAdmin, different, rfl⟩
    exact ⟨distributor, isDistributor, signed, isAdmin, different, rfl⟩

end Airdrop
