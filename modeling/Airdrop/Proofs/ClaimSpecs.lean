/-
Module: Airdrop.Proofs.ClaimSpecs
Purpose: Exactly when `new_claim` and `claim_locked` succeed, and what a
  successful claim does to each kind of account.
Trusted boundary: none
Main exports: NewClaim.Valid, NewClaimChecks, newClaim_eq_ok, ClaimLocked.Valid,
  ClaimLockedChecks, claimLocked_eq_ok, ClaimEffect, newClaim_effect,
  claimLocked_effect
-/
import Airdrop.Proofs.Arithmetic
import Airdrop.Proofs.BankViews

namespace Airdrop

open Checked

/-! ## When a new claim succeeds -/

/-- The accounts that `new_claim` accepts. -/
structure NewClaim.Valid (env : Env) (signers : List Pubkey) (bank : Bank)
    (accounts : NewClaim) (distributor : MerkleDistributor) : Prop where
  isDistributor : bank accounts.distributor = some (.distributor distributor)
  vault : ∃ account, bank accounts.fromAccount = some (.token account) ∧
    account.owner = accounts.distributor
  vaultAssociated : accounts.fromAccount =
    env.associatedTokenAddress accounts.distributor distributor.mint
  vaultAddress : accounts.fromAccount = distributor.tokenVault
  recipient : ∃ account, bank accounts.toAccount = some (.token account) ∧
    account.owner = accounts.claimant ∧ account.mint = distributor.mint
  signed : accounts.claimant ∈ signers
  statusAddress : accounts.claimStatus =
    env.claimStatusAddress accounts.claimant accounts.distributor
  statusFree : bank accounts.claimStatus = none

theorem NewClaim.tryAccounts_eq_ok {env : Env} {signers : List Pubkey}
    {bank : Bank} {accounts : NewClaim} {distributor : MerkleDistributor} :
    accounts.tryAccounts env signers bank = .ok distributor ↔
      accounts.Valid env signers bank distributor := by
  unfold NewClaim.tryAccounts
  simp only [bind_eq_ok, Bank.loadDistributor_eq_ok, Bank.loadToken_eq_ok,
    requireSigner_eq_ok, requireInit_eq_ok, requireAssociatedToken_eq_ok,
    require_eq_ok, pure_eq, Except.ok.injEq]
  constructor
  · rintro ⟨found, isDistributor, vault, isVault, recipient, isRecipient, _, signed,
      bump, ⟨derived, free⟩, _, ⟨vaultOwner, vaultAssociated⟩, _, vaultAddress, _,
      recipientOwner, _, recipientMint, _, _, rfl⟩
    exact
      { isDistributor
        vault := ⟨vault, isVault, vaultOwner⟩
        vaultAssociated
        vaultAddress
        recipient := ⟨recipient, isRecipient, recipientOwner, recipientMint⟩
        signed
        statusAddress := (congrArg Prod.fst derived).symm
        statusFree := free }
  · intro valid
    obtain ⟨vault, isVault, vaultOwner⟩ := valid.vault
    obtain ⟨recipient, isRecipient, recipientOwner, recipientMint⟩ :=
      valid.recipient
    exact ⟨distributor, valid.isDistributor, vault, isVault, recipient, isRecipient,
      (), valid.signed, _, ⟨Prod.ext valid.statusAddress.symm rfl, valid.statusFree⟩,
      (), ⟨vaultOwner, valid.vaultAssociated⟩, (), valid.vaultAddress, (),
      recipientOwner, (), recipientMint, (), recipientOwner.symm, rfl⟩

/-- A distributor whose counters have advanced. -/
def MerkleDistributor.counted (self : MerkleDistributor)
    (nodes paid bonus : U64) : MerkleDistributor :=
  { self with
    numNodesClaimed := self.numNodesClaimed + nodes
    totalAmountClaimed := self.totalAmountClaimed + paid
    airdropBonus := { self.airdropBonus with
      totalClaimedBonus := self.airdropBonus.totalClaimedBonus + bonus } }

/-- The claim status that `new_claim` writes. -/
def newClaimStatus (accounts : NewClaim) (distributor : MerkleDistributor)
    (amountLocked paid : U64) : ClaimStatus :=
  { claimant := accounts.claimant
    lockedAmount := amountLocked
    lockedAmountWithdrawn := 0
    unlockedAmount := paid
    closable := distributor.closable
    admin := distributor.admin }

/-- Every check of `new_claim`, in the program's own predicates. -/
structure NewClaimChecks (env : Env) (clock : Clock) (signers : List Pubkey)
    (bank : Bank) (accounts : NewClaim) (amountUnlocked amountLocked : U64)
    (proof : List Hash) (distributor : MerkleDistributor) (bonus paid : U64)
    (moved : Bank) : Prop where
  valid : accounts.Valid env signers bank distributor
  notClawedBack : distributor.clawedBack = false
  nodeRoom : distributor.numNodesClaimed.toNat < distributor.maxNumNodes.toNat
  proved : verify env.sha256 proof distributor.root
    (claimLeaf env.sha256 accounts.claimant amountUnlocked amountLocked) = true
  granted : ∃ handler, distributor.getActivationHandler clock = .ok handler ∧
    distributor.getBonusForAClaimaint amountUnlocked handler = .ok bonus
  paidValue : paid.toNat = amountUnlocked.toNat + bonus.toNat
  transferred : transferSigned env bank signers distributor.signerSeeds
    accounts.fromAccount accounts.toAccount accounts.distributor paid = .ok moved
  claimRoom : distributor.totalAmountClaimed.toNat + paid.toNat ≤
    distributor.maxTotalClaim.toNat
  bonusRoom : distributor.airdropBonus.totalClaimedBonus.toNat + bonus.toNat <
    2 ^ 64

/-- A sum that is known not to overflow is the only checked sum. -/
theorem checkedAdd_eq_some_iff {w : Nat} {a b c : BitVec w}
    (fits : a.toNat + b.toNat < 2 ^ w) : checkedAdd a b = some c ↔ c = a + b := by
  rw [checkedAdd, if_pos fits, Option.some.injEq, eq_comm]

/-- `new_claim` succeeds exactly when all its checks pass. -/
theorem newClaim_eq_ok {env : Env} {clock : Clock} {signers : List Pubkey}
    {bank : Bank} {accounts : NewClaim} {amountUnlocked amountLocked : U64}
    {proof : List Hash} {receipt : Receipt} :
    newClaim env clock signers bank accounts amountUnlocked amountLocked proof =
        .ok receipt ↔
      ∃ distributor bonus paid moved,
        NewClaimChecks env clock signers bank accounts amountUnlocked amountLocked
          proof distributor bonus paid moved ∧
        receipt =
          { bank := (moved.set accounts.claimStatus (.claimStatus
              (newClaimStatus accounts distributor amountLocked paid))).set
              accounts.distributor (.distributor (distributor.counted 1 paid bonus))
            transfers := [⟨accounts.fromAccount, accounts.toAccount, paid⟩]
            events := [.newClaim accounts.claimant clock.unixTimestamp] } := by
  unfold newClaim handleNewClaim MerkleDistributor.accumulateBonus
    ActivationHandler.validateClaim
  simp only [bind_eq_ok, NewClaim.tryAccounts_eq_ok, require_eq_ok,
    okOrArithmetic_eq_ok, safeAdd_eq_ok, pure_eq, Except.ok.injEq, BitVec.le_def,
    Bool.not_eq_true']
  constructor
  · rintro ⟨distributor, valid, _, notClawedBack, handler, isHandler, _, _, nodes,
      nodesValue, _, nodeRoom, _, proved, bonus, granted, paid, paidValue, moved,
      transferred, total, totalValue, _, ⟨totalBonus, bonusValue, rfl⟩, _, claimRoom,
      rfl⟩
    have nodesSum := checkedAdd_eq_some.mp nodesValue
    have totalSum := checkedAdd_eq_some.mp totalValue
    have nodesBound := nodes.isLt
    have totalBound := total.isLt
    have bonusBound := totalBonus.isLt
    rw [checkedAdd_eq_some_iff (by omega)] at nodesValue totalValue
    have bonusIs : totalBonus = distributor.airdropBonus.totalClaimedBonus + bonus :=
      (checkedAdd_eq_some_iff (by omega)).mp (checkedAdd_eq_some.mpr bonusValue)
    subst nodesValue totalValue bonusIs
    simp only at claimRoom
    refine ⟨distributor, bonus, paid, moved, ?_, rfl⟩
    exact
      { valid
        notClawedBack
        nodeRoom := by
          rw [nodesSum] at nodeRoom
          exact nodeRoom
        proved
        granted := ⟨handler, isHandler, granted⟩
        paidValue
        transferred
        claimRoom := by
          rw [totalSum] at claimRoom
          exact claimRoom
        bonusRoom := by omega }
  · rintro ⟨distributor, bonus, paid, moved, checks, rfl⟩
    obtain ⟨handler, isHandler, granted⟩ := checks.granted
    have nodeRoom := checks.nodeRoom
    have claimRoom := checks.claimRoom
    have nodesBound := distributor.maxNumNodes.isLt
    have totalBound := distributor.maxTotalClaim.isLt
    have one : (1 : U64).toNat = 1 := rfl
    have nodesSum : (distributor.numNodesClaimed + 1).toNat =
        distributor.numNodesClaimed.toNat + 1 := by
      rw [BitVec.toNat_add_of_lt (by omega), one]
    have totalSum : (distributor.totalAmountClaimed + paid).toNat =
        distributor.totalAmountClaimed.toNat + paid.toNat :=
      BitVec.toNat_add_of_lt (by omega)
    have bonusSum : (distributor.airdropBonus.totalClaimedBonus + bonus).toNat =
        distributor.airdropBonus.totalClaimedBonus.toNat + bonus.toNat :=
      BitVec.toNat_add_of_lt checks.bonusRoom
    exact ⟨distributor, checks.valid, (), checks.notClawedBack, handler, isHandler,
      (), trivial, distributor.numNodesClaimed + 1, checkedAdd_eq_some.mpr nodesSum,
      (), by omega, (), checks.proved, bonus, granted, paid, checks.paidValue, moved,
      checks.transferred, distributor.totalAmountClaimed + paid,
      checkedAdd_eq_some.mpr totalSum, _, ⟨_, bonusSum, rfl⟩, (),
      by simp only; omega, rfl⟩

/-! ## When a claim of locked tokens succeeds -/

/-- The accounts that `claim_locked` accepts. -/
structure ClaimLocked.Valid (env : Env) (signers : List Pubkey) (bank : Bank)
    (accounts : ClaimLocked) (distributor : MerkleDistributor)
    (claimStatus : ClaimStatus) : Prop where
  isDistributor : bank accounts.distributor = some (.distributor distributor)
  isClaimStatus : bank accounts.claimStatus = some (.claimStatus claimStatus)
  vault : ∃ account, bank accounts.fromAccount = some (.token account) ∧
    account.owner = accounts.distributor
  vaultAssociated : accounts.fromAccount =
    env.associatedTokenAddress accounts.distributor distributor.mint
  vaultAddress : accounts.fromAccount = distributor.tokenVault
  recipient : ∃ account, bank accounts.toAccount = some (.token account) ∧
    account.owner = accounts.claimant
  signed : accounts.claimant ∈ signers
  statusAddress : accounts.claimStatus =
    env.claimStatusAddress accounts.claimant accounts.distributor

theorem ClaimLocked.tryAccounts_eq_ok {env : Env} {signers : List Pubkey}
    {bank : Bank} {accounts : ClaimLocked}
    {loaded : MerkleDistributor × ClaimStatus} :
    accounts.tryAccounts env signers bank = .ok loaded ↔
      accounts.Valid env signers bank loaded.1 loaded.2 := by
  unfold ClaimLocked.tryAccounts
  simp only [bind_eq_ok, Bank.loadDistributor_eq_ok, Bank.loadClaimStatus_eq_ok,
    Bank.loadToken_eq_ok, requireSigner_eq_ok, requireAssociatedToken_eq_ok,
    require_eq_ok, pure_eq, Except.ok.injEq]
  constructor
  · rintro ⟨distributor, isDistributor, status, isStatus, vault, isVault, recipient,
      isRecipient, _, signed, _, statusAddress, _, ⟨vaultOwner, vaultAssociated⟩, _,
      vaultAddress, _, recipientOwner, _, _, rfl⟩
    exact
      { isDistributor
        isClaimStatus := isStatus
        vault := ⟨vault, isVault, vaultOwner⟩
        vaultAssociated
        vaultAddress
        recipient := ⟨recipient, isRecipient, recipientOwner⟩
        signed
        statusAddress }
  · intro valid
    obtain ⟨vault, isVault, vaultOwner⟩ := valid.vault
    obtain ⟨recipient, isRecipient, recipientOwner⟩ := valid.recipient
    exact ⟨loaded.1, valid.isDistributor, loaded.2, valid.isClaimStatus, vault,
      isVault, recipient, isRecipient, (), valid.signed, (), valid.statusAddress, (),
      ⟨vaultOwner, valid.vaultAssociated⟩, (), valid.vaultAddress, (),
      recipientOwner, (), recipientOwner.symm, rfl⟩

/-- The claim status after a withdrawal. -/
def ClaimStatus.withdrawn (self : ClaimStatus) (amount : U64) : ClaimStatus :=
  { self with lockedAmountWithdrawn := self.lockedAmountWithdrawn + amount }

/-- Every check of `claim_locked`, in the program's own predicates. -/
structure ClaimLockedChecks (env : Env) (clock : Clock) (signers : List Pubkey)
    (bank : Bank) (accounts : ClaimLocked) (distributor : MerkleDistributor)
    (claimStatus : ClaimStatus) (amount : U64) (moved : Bank) : Prop where
  valid : accounts.Valid env signers bank distributor claimStatus
  notClawedBack : distributor.clawedBack = false
  activation : ∃ handler, distributor.getActivationHandler clock = .ok handler
  withdrawable : claimStatus.amountWithdrawable clock.unixTimestamp
    distributor.startTs distributor.endTs = .ok amount
  positive : 0 < amount.toNat
  transferred : transferSigned env bank signers distributor.signerSeeds
    accounts.fromAccount accounts.toAccount accounts.distributor amount =
      .ok moved
  lockedRoom : claimStatus.lockedAmountWithdrawn.toNat + amount.toNat ≤
    claimStatus.lockedAmount.toNat
  claimRoom : distributor.totalAmountClaimed.toNat + amount.toNat ≤
    distributor.maxTotalClaim.toNat

/-- An accepted withdrawal is counted in full. -/
theorem ClaimLockedChecks.counted {env : Env} {clock : Clock} {signers : List Pubkey}
    {bank moved : Bank} {accounts : ClaimLocked} {distributor : MerkleDistributor}
    {claimStatus : ClaimStatus} {amount : U64}
    (checks : ClaimLockedChecks env clock signers bank accounts distributor claimStatus
      amount moved) :
    (claimStatus.withdrawn amount).lockedAmountWithdrawn.toNat =
      claimStatus.lockedAmountWithdrawn.toNat + amount.toNat := by
  have lockedRoom := checks.lockedRoom
  have lockedBound := claimStatus.lockedAmount.isLt
  rw [ClaimStatus.withdrawn, BitVec.toNat_add_of_lt (by omega)]

/-- `claim_locked` succeeds exactly when all its checks pass. -/
theorem claimLocked_eq_ok {env : Env} {clock : Clock} {signers : List Pubkey}
    {bank : Bank} {accounts : ClaimLocked} {receipt : Receipt} :
    claimLocked env clock signers bank accounts = .ok receipt ↔
      ∃ distributor claimStatus amount moved,
        ClaimLockedChecks env clock signers bank accounts distributor claimStatus
          amount moved ∧
        receipt =
          { bank := (moved.set accounts.claimStatus (.claimStatus
              (claimStatus.withdrawn amount))).set
              accounts.distributor (.distributor (distributor.counted 0 amount 0))
            transfers := [⟨accounts.fromAccount, accounts.toAccount, amount⟩]
            events := [.claimed accounts.claimant amount] } := by
  have countedIs (distributor : MerkleDistributor) (amount : U64) :
      distributor.counted 0 amount 0 = { distributor with
        totalAmountClaimed := distributor.totalAmountClaimed + amount } := by
    simp [MerkleDistributor.counted]
  unfold claimLocked handleClaimLocked ActivationHandler.validateClaim
  simp only [bind_eq_ok, ClaimLocked.tryAccounts_eq_ok, require_eq_ok,
    okOrArithmetic_eq_ok, pure_eq, Except.ok.injEq, BitVec.le_def, BitVec.lt_def,
    Bool.not_eq_true', countedIs]
  constructor
  · rintro ⟨⟨distributor, status⟩, valid, _, notClawedBack, handler, isHandler, _, _,
      amount, withdrawable, _, positive, moved, transferred, withdrawn,
      withdrawnValue, _, lockedRoom, total, totalValue, _, claimRoom, rfl⟩
    simp only at withdrawnValue totalValue lockedRoom claimRoom
    have withdrawnSum := checkedAdd_eq_some.mp withdrawnValue
    have totalSum := checkedAdd_eq_some.mp totalValue
    have withdrawnBound := withdrawn.isLt
    have totalBound := total.isLt
    rw [checkedAdd_eq_some_iff (by omega)] at withdrawnValue totalValue
    subst withdrawnValue totalValue
    refine ⟨distributor, status, amount, moved, ?_, rfl⟩
    exact
      { valid
        notClawedBack
        activation := ⟨handler, isHandler⟩
        withdrawable
        positive
        transferred
        lockedRoom := by omega
        claimRoom := by omega }
  · rintro ⟨distributor, status, amount, moved, checks, rfl⟩
    obtain ⟨handler, isHandler⟩ := checks.activation
    have lockedRoom := checks.lockedRoom
    have claimRoom := checks.claimRoom
    have lockedBound := status.lockedAmount.isLt
    have totalBound := distributor.maxTotalClaim.isLt
    have withdrawnSum : (status.lockedAmountWithdrawn + amount).toNat =
        status.lockedAmountWithdrawn.toNat + amount.toNat :=
      BitVec.toNat_add_of_lt (by omega)
    have totalSum : (distributor.totalAmountClaimed + amount).toNat =
        distributor.totalAmountClaimed.toNat + amount.toNat :=
      BitVec.toNat_add_of_lt (by omega)
    exact ⟨(distributor, status), checks.valid, (), checks.notClawedBack, handler,
      isHandler, (), trivial, amount, checks.withdrawable, (), by
        simpa using checks.positive, moved, checks.transferred,
      status.lockedAmountWithdrawn + amount, checkedAdd_eq_some.mpr withdrawnSum, (),
      by simp only; omega, distributor.totalAmountClaimed + amount,
      checkedAdd_eq_some.mpr totalSum, (), by simp only; omega, rfl⟩

/-! ## What a claim does -/

/-- `after` is `before` with the three counters advanced by exactly these
amounts and everything else kept. -/
structure Advanced (before after : MerkleDistributor)
    (nodes paid bonus : Nat) : Prop where
  nodes : after.numNodesClaimed.toNat = before.numNodesClaimed.toNat + nodes
  paid : after.totalAmountClaimed.toNat = before.totalAmountClaimed.toNat + paid
  bonus : after.airdropBonus.totalClaimedBonus.toNat =
    before.airdropBonus.totalClaimedBonus.toNat + bonus
  rest : after = { before with
    numNodesClaimed := after.numNodesClaimed
    totalAmountClaimed := after.totalAmountClaimed
    airdropBonus := { before.airdropBonus with
      totalClaimedBonus := after.airdropBonus.totalClaimedBonus } }

/-- What either kind of claim has found and done: a payment from the vault of the
distributor to a token account of the claimant, with the counters advanced and
the claim status written. -/
structure ClaimEffect (bank : Bank) (receipt : Receipt)
    (distributorKey statusKey toAccount claimant : Pubkey)
    (before after : MerkleDistributor) (status : ClaimStatus)
    (nodes paid bonus : Nat) : Prop where
  isDistributor : bank distributorKey = some (.distributor before)
  notClawedBack : before.clawedBack = false
  vault : ∃ account, bank before.tokenVault = some (.token account) ∧
    account.owner = distributorKey ∧ paid ≤ account.amount.toNat
  recipient : ∃ account, bank toAccount = some (.token account) ∧
    account.owner = claimant
  advanced : Advanced before after nodes paid bonus
  claimRoom : after.totalAmountClaimed.toNat ≤ before.maxTotalClaim.toNat
  transfers : ∃ amount : U64, amount.toNat = paid ∧
    receipt.transfers = [⟨before.tokenVault, toAccount, amount⟩]
  distributors : receipt.bank.distributor? =
    Function.update bank.distributor? distributorKey (some after)
  statuses : receipt.bank.claimStatus? =
    Function.update bank.claimStatus? statusKey (some status)
  tokens : TokensMoved bank receipt.bank receipt.transfers

/-- Both claims end by writing a claim status and the distributor over a
transfer. -/
theorem claimWrites {bank moved : Bank} {source destination authority : Pubkey}
    {amount : U64}
    (transfer : TransferEffect bank moved source destination authority amount)
    {distributorKey statusKey : Pubkey} {before : MerkleDistributor}
    (isDistributor : bank distributorKey = some (.distributor before))
    (statusKind : bank statusKey = none ∨
      ∃ earlier, bank statusKey = some (.claimStatus earlier))
    (after : MerkleDistributor) (status : ClaimStatus) :
    let final := (moved.set statusKey (.claimStatus status)).set distributorKey
      (.distributor after)
    final.distributor? =
        Function.update bank.distributor? distributorKey (some after) ∧
      final.claimStatus? =
        Function.update bank.claimStatus? statusKey (some status) ∧
      TokensMoved bank final [⟨source, destination, amount⟩] := by
  have apart : distributorKey ≠ statusKey := by
    rintro rfl
    rcases statusKind with free | ⟨earlier, isStatus⟩
    · rw [free] at isDistributor
      exact Option.some_ne_none _ isDistributor.symm
    · rw [isStatus] at isDistributor
      simp at isDistributor
  have statusKept : moved statusKey = bank statusKey := by
    apply transfer.others
    rcases statusKind with free | ⟨earlier, isStatus⟩
    · simp [free]
    · simp [isStatus]
  have distributorKept : moved distributorKey = bank distributorKey := by
    apply transfer.others
    simp [isDistributor]
  have atStatus : (moved.set statusKey (.claimStatus status)) distributorKey =
      some (.distributor before) := by
    rw [Bank.set, Function.update_of_ne apart, distributorKept, isDistributor]
  have notDistributor : moved.distributor? statusKey = none := by
    rcases statusKind with free | ⟨earlier, isStatus⟩
    · simp [Bank.distributor?, statusKept, free]
    · simp [Bank.distributor?, statusKept, isStatus]
  have notToken : moved.token? statusKey = none := by
    rcases statusKind with free | ⟨earlier, isStatus⟩
    · simp [Bank.token?, statusKept, free]
    · simp [Bank.token?, statusKept, isStatus]
  refine ⟨?_, ?_, ?_⟩
  · rw [Bank.distributor?_set_distributor, ← transfer.distributors, Bank.set,
      Bank.distributor?_update moved notDistributor (by simp)]
  · rw [Bank.set, Bank.claimStatus?_update _ (by simp [Bank.claimStatus?, atStatus])
      (by simp), Bank.claimStatus?_set_claimStatus, transfer.statuses]
  · apply transfer.tokens.trans_token?
    rw [Bank.set, Bank.token?_update _ (by simp [Bank.token?, atStatus]) (by simp),
      Bank.set, Bank.token?_update moved notToken (by simp)]

theorem counted_advanced {distributor : MerkleDistributor} {nodes paid bonus : U64}
    (nodesFit : distributor.numNodesClaimed.toNat + nodes.toNat < 2 ^ 64)
    (paidFit : distributor.totalAmountClaimed.toNat + paid.toNat < 2 ^ 64)
    (bonusFit : distributor.airdropBonus.totalClaimedBonus.toNat + bonus.toNat <
      2 ^ 64) :
    Advanced distributor (distributor.counted nodes paid bonus) nodes.toNat
      paid.toNat bonus.toNat where
  nodes := BitVec.toNat_add_of_lt nodesFit
  paid := BitVec.toNat_add_of_lt paidFit
  bonus := BitVec.toNat_add_of_lt bonusFit
  rest := rfl

/-- What a successful `new_claim` has done. -/
theorem newClaim_effect {env : Env} {clock : Clock} {signers : List Pubkey}
    {bank moved : Bank} {accounts : NewClaim} {amountUnlocked amountLocked : U64}
    {proof : List Hash} {distributor : MerkleDistributor} {bonus paid : U64}
    (checks : NewClaimChecks env clock signers bank accounts amountUnlocked
      amountLocked proof distributor bonus paid moved) :
    ClaimEffect bank
      { bank := (moved.set accounts.claimStatus (.claimStatus
          (newClaimStatus accounts distributor amountLocked paid))).set
          accounts.distributor (.distributor (distributor.counted 1 paid bonus))
        transfers := [⟨accounts.fromAccount, accounts.toAccount, paid⟩]
        events := [.newClaim accounts.claimant clock.unixTimestamp] }
      accounts.distributor accounts.claimStatus accounts.toAccount
      accounts.claimant distributor (distributor.counted 1 paid bonus)
      (newClaimStatus accounts distributor amountLocked paid) 1 paid.toNat
      bonus.toNat := by
  have transfer := transferSigned_effect checks.transferred
  have nodeRoom := checks.nodeRoom
  have claimRoom := checks.claimRoom
  have nodesBound := distributor.maxNumNodes.isLt
  have totalBound := distributor.maxTotalClaim.isLt
  have one : (1 : U64).toNat = 1 := rfl
  have advanced : Advanced distributor (distributor.counted 1 paid bonus) 1
      paid.toNat bonus.toNat :=
    counted_advanced (by omega) (by omega) checks.bonusRoom
  obtain ⟨distributors, statuses, tokens⟩ := claimWrites transfer
    checks.valid.isDistributor (Or.inl checks.valid.statusFree)
    (distributor.counted 1 paid bonus)
    (newClaimStatus accounts distributor amountLocked paid)
  obtain ⟨payer, isPayer, owner, funded⟩ := transfer.payer
  obtain ⟨recipient, isRecipient, recipientOwner, _⟩ := checks.valid.recipient
  exact
    { isDistributor := checks.valid.isDistributor
      notClawedBack := checks.notClawedBack
      vault := ⟨payer, checks.valid.vaultAddress ▸ isPayer, owner, funded⟩
      recipient := ⟨recipient, isRecipient, recipientOwner⟩
      advanced
      claimRoom := by
        rw [advanced.paid]
        exact claimRoom
      transfers := ⟨paid, rfl, by rw [checks.valid.vaultAddress]⟩
      distributors
      statuses
      tokens }

/-- What a successful `claim_locked` has done. -/
theorem claimLocked_effect {env : Env} {clock : Clock} {signers : List Pubkey}
    {bank moved : Bank} {accounts : ClaimLocked} {distributor : MerkleDistributor}
    {status : ClaimStatus} {amount : U64}
    (checks : ClaimLockedChecks env clock signers bank accounts distributor status
      amount moved) :
    ClaimEffect bank
      { bank := (moved.set accounts.claimStatus (.claimStatus
          (status.withdrawn amount))).set
          accounts.distributor (.distributor (distributor.counted 0 amount 0))
        transfers := [⟨accounts.fromAccount, accounts.toAccount, amount⟩]
        events := [.claimed accounts.claimant amount] }
      accounts.distributor accounts.claimStatus accounts.toAccount
      accounts.claimant distributor (distributor.counted 0 amount 0)
      (status.withdrawn amount) 0 amount.toNat 0 := by
  have transfer := transferSigned_effect checks.transferred
  have claimRoom := checks.claimRoom
  have totalBound := distributor.maxTotalClaim.isLt
  have zero : (0 : U64).toNat = 0 := rfl
  have nodesBound := distributor.numNodesClaimed.isLt
  have bonusBound := distributor.airdropBonus.totalClaimedBonus.isLt
  have advanced : Advanced distributor (distributor.counted 0 amount 0) 0
      amount.toNat 0 :=
    counted_advanced (by omega) (by omega) (by omega)
  obtain ⟨distributors, statuses, tokens⟩ := claimWrites transfer
    checks.valid.isDistributor (Or.inr ⟨status, checks.valid.isClaimStatus⟩)
    (distributor.counted 0 amount 0) (status.withdrawn amount)
  obtain ⟨payer, isPayer, owner, funded⟩ := transfer.payer
  exact
    { isDistributor := checks.valid.isDistributor
      notClawedBack := checks.notClawedBack
      vault := ⟨payer, checks.valid.vaultAddress ▸ isPayer, owner, funded⟩
      recipient := checks.valid.recipient
      advanced
      claimRoom := by
        rw [advanced.paid]
        exact claimRoom
      transfers := ⟨amount, rfl, by rw [checks.valid.vaultAddress]⟩
      distributors
      statuses
      tokens }

end Airdrop
