/-
Module: Airdrop.Proofs.Commutation
Purpose: Claims of different claimants to different accounts commute: a claim is a
  payment that its terms grant and that the accounts have room for, and making
  one such payment neither changes what is granted to another nor takes its room
  where both fit.
Trusted boundary: none
Main exports: Payment, Granted, Payable, Payment.made, claim_eq_payment,
  Payable.next_iff, Payable.exchange, Independent, executeAll, claims_order_irrelevant
-/
import Airdrop.Library.Reordering
import Airdrop.Proofs.Certificates

namespace Airdrop

open Checked Reordering Transition

/-! ## Payments -/

/-- What a claim decides: whom it pays and how much, the claim status that it met,
if any, and the one that it writes, and by how much the counters advance. -/
structure Payment where
  claimant : Pubkey
  toAccount : Pubkey
  statusKey : Pubkey
  met : Option ClaimStatus
  written : ClaimStatus
  nodes : U64
  paid : U64
  bonus : U64

/-- The transaction claims this payment from the distributor at `key`, and the
terms of the distributor grant it.  The counters and the balances play no part. -/
inductive Granted (env : Env) (tx : Transaction env) (key : Pubkey)
    (terms : MerkleDistributor) : Payment → Prop where
  | newClaim {accounts : NewClaim} {amountUnlocked amountLocked bonus paid : U64}
      {proof : List Hash}
      (instruction : tx.instruction =
        .newClaim accounts amountUnlocked amountLocked proof)
      (here : accounts.distributor = key)
      (vaultAssociated : accounts.fromAccount =
        env.associatedTokenAddress key terms.mint)
      (vaultAddress : accounts.fromAccount = terms.tokenVault)
      (signed : accounts.claimant ∈ tx.signers)
      (statusAddress : accounts.claimStatus =
        env.claimStatusAddress accounts.claimant key)
      (notClawedBack : terms.clawedBack = false)
      (proved : verify env.sha256 proof terms.root
        (claimLeaf env.sha256 accounts.claimant amountUnlocked amountLocked) = true)
      (granted : ∃ handler, terms.getActivationHandler tx.clock = .ok handler ∧
        terms.getBonusForAClaimaint amountUnlocked handler = .ok bonus)
      (paidValue : paid.toNat = amountUnlocked.toNat + bonus.toNat) :
      Granted env tx key terms
        { claimant := accounts.claimant
          toAccount := accounts.toAccount
          statusKey := accounts.claimStatus
          met := none
          written := newClaimStatus accounts terms amountLocked paid
          nodes := 1
          paid
          bonus }
  | claimLocked {accounts : ClaimLocked} {status : ClaimStatus} {amount : U64}
      (instruction : tx.instruction = .claimLocked accounts)
      (here : accounts.distributor = key)
      (vaultAssociated : accounts.fromAccount =
        env.associatedTokenAddress key terms.mint)
      (vaultAddress : accounts.fromAccount = terms.tokenVault)
      (signed : accounts.claimant ∈ tx.signers)
      (statusAddress : accounts.claimStatus =
        env.claimStatusAddress accounts.claimant key)
      (notClawedBack : terms.clawedBack = false)
      (activation : ∃ handler, terms.getActivationHandler tx.clock = .ok handler)
      (withdrawable : status.amountWithdrawable tx.clock.unixTimestamp terms.startTs
        terms.endTs = .ok amount)
      (positive : 0 < amount.toNat)
      (lockedRoom : status.lockedAmountWithdrawn.toNat + amount.toNat ≤
        status.lockedAmount.toNat) :
      Granted env tx key terms
        { claimant := accounts.claimant
          toAccount := accounts.toAccount
          statusKey := accounts.claimStatus
          met := some status
          written := status.withdrawn amount
          nodes := 0
          paid := amount
          bonus := 0 }

/-- The accounts and the counters have room for a payment. -/
structure Payable (bank : Bank) (key : Pubkey) (distributor : MerkleDistributor)
    (vault recipient : TokenAccount) (payment : Payment) : Prop where
  isDistributor : bank key = some (.distributor distributor)
  isVault : bank distributor.tokenVault = some (.token vault)
  vaultOwner : vault.owner = key
  isRecipient : bank payment.toAccount = some (.token recipient)
  recipientOwner : recipient.owner = payment.claimant
  recipientMint : payment.met = none → recipient.mint = distributor.mint
  sameMint : vault.mint = recipient.mint
  isStatus : bank payment.statusKey = payment.met.map .claimStatus
  funded : payment.paid.toNat ≤ vault.amount.toNat
  fits : distributor.tokenVault ≠ payment.toAccount →
    recipient.amount.toNat + payment.paid.toNat < 2 ^ 64
  nodeRoom : 0 < payment.nodes.toNat →
    distributor.numNodesClaimed.toNat + payment.nodes.toNat ≤
      distributor.maxNumNodes.toNat
  claimRoom : distributor.totalAmountClaimed.toNat + payment.paid.toNat ≤
    distributor.maxTotalClaim.toNat
  bonusRoom : distributor.airdropBonus.totalClaimedBonus.toNat +
    payment.bonus.toNat < 2 ^ 64

/-- The distributor after a payment. -/
def MerkleDistributor.after (self : MerkleDistributor) (payment : Payment) :
    MerkleDistributor :=
  self.counted payment.nodes payment.paid payment.bonus

@[simp] theorem MerkleDistributor.after_tokenVault (distributor : MerkleDistributor)
    (payment : Payment) : (distributor.after payment).tokenVault = distributor.tokenVault :=
  rfl

theorem MerkleDistributor.after_comm (distributor : MerkleDistributor)
    (payment other : Payment) :
    (distributor.after payment).after other = (distributor.after other).after payment := by
  simp only [MerkleDistributor.after, MerkleDistributor.counted, BitVec.add_assoc,
    BitVec.add_comm payment.nodes, BitVec.add_comm payment.paid,
    BitVec.add_comm payment.bonus]

/-- The accounts after a payment. -/
def Payment.made (payment : Payment) (bank : Bank) (key : Pubkey)
    (distributor : MerkleDistributor) (vault recipient : TokenAccount) : Bank :=
  ((bank.moved distributor.tokenVault payment.toAccount vault recipient
    payment.paid).set payment.statusKey (.claimStatus payment.written)).set key
      (.distributor (distributor.after payment))

/-! ## Claims are payments -/

section Claims

variable {env : Env} {tx : Transaction env} {bank : Bank} {key : Pubkey}
variable {distributor : MerkleDistributor} {receipt : Receipt}

/-- A transfer signed by the distributor at its derived address, exactly. -/
theorem transferSigned_derived
    (derived : env.findProgramAddress (distributorSeeds distributor.base
      distributor.mint distributor.version) = (key, distributor.bump))
    {signers : List Pubkey} {source destination : Pubkey} {amount : U64}
    {moved : Bank} :
    transferSigned env bank signers distributor.signerSeeds source destination key
        amount = .ok moved ↔
      ∃ payer recipient, bank source = some (.token payer) ∧
        bank destination = some (.token recipient) ∧
        amount.toNat ≤ payer.amount.toNat ∧ payer.mint = recipient.mint ∧
        payer.owner = key ∧
        (source ≠ destination →
          recipient.amount.toNat + amount.toNat < 2 ^ 64) ∧
        moved = bank.moved source destination payer recipient amount := by
  have made := env.create_find
    (distributorSeeds distributor.base distributor.mint distributor.version)
  rw [derived] at made
  rw [transferSigned, MerkleDistributor.signerSeeds, made]
  simp only [bind_eq_ok, okOr_eq_ok, Option.some.injEq, require_eq_ok,
    exists_eq_left', tokenTransfer_eq_ok, List.mem_cons, true_or, true_and,
    exists_const]

/-- An accepted new claim is a payment. -/
theorem payment_of_newClaim
    (found : bank key = some (.distributor distributor))
    (derived : env.findProgramAddress (distributorSeeds distributor.base
      distributor.mint distributor.version) = (key, distributor.bump))
    {accounts : NewClaim} {amountUnlocked amountLocked : U64} {proof : List Hash}
    (instruction : tx.instruction =
      .newClaim accounts amountUnlocked amountLocked proof)
    (here : accounts.distributor = key)
    (accepted : execute env bank tx = .ok receipt) :
    ∃ payment vault recipient, Granted env tx key distributor payment ∧
      Payable bank key distributor vault recipient payment ∧
      receipt.bank = payment.made bank key distributor vault recipient := by
  subst here
  simp only [execute, instruction] at accepted
  obtain ⟨own, bonus, paid, moved, checks, rfl⟩ := newClaim_eq_ok.mp accepted
  obtain rfl := Bank.distributor_unique checks.valid.isDistributor found
  have transferred := checks.transferred
  rw [checks.valid.vaultAddress, transferSigned_derived derived] at transferred
  obtain ⟨vault, recipient, isVault, isRecipient, funded, sameMint, vaultOwner, fits,
    rfl⟩ := transferred
  obtain ⟨account, isAccount, owner, mint⟩ := checks.valid.recipient
  obtain rfl := Bank.token_unique isAccount isRecipient
  exact ⟨_, vault, account,
    .newClaim instruction rfl checks.valid.vaultAssociated checks.valid.vaultAddress
      checks.valid.signed checks.valid.statusAddress checks.notClawedBack checks.proved
      checks.granted checks.paidValue,
    { isDistributor := found
      isVault
      vaultOwner
      isRecipient
      recipientOwner := owner
      recipientMint := fun _ => mint
      sameMint
      isStatus := checks.valid.statusFree
      funded
      fits
      nodeRoom := fun _ => checks.nodeRoom
      claimRoom := checks.claimRoom
      bonusRoom := checks.bonusRoom }, rfl⟩

/-- An accepted withdrawal is a payment. -/
theorem payment_of_claimLocked
    (found : bank key = some (.distributor distributor))
    (derived : env.findProgramAddress (distributorSeeds distributor.base
      distributor.mint distributor.version) = (key, distributor.bump))
    {accounts : ClaimLocked} (instruction : tx.instruction = .claimLocked accounts)
    (here : accounts.distributor = key)
    (accepted : execute env bank tx = .ok receipt) :
    ∃ payment vault recipient, Granted env tx key distributor payment ∧
      Payable bank key distributor vault recipient payment ∧
      receipt.bank = payment.made bank key distributor vault recipient := by
  subst here
  simp only [execute, instruction] at accepted
  obtain ⟨own, status, amount, moved, checks, rfl⟩ := claimLocked_eq_ok.mp accepted
  obtain rfl := Bank.distributor_unique checks.valid.isDistributor found
  have transferred := checks.transferred
  rw [checks.valid.vaultAddress, transferSigned_derived derived] at transferred
  obtain ⟨vault, recipient, isVault, isRecipient, funded, sameMint, vaultOwner, fits,
    rfl⟩ := transferred
  obtain ⟨account, isAccount, owner⟩ := checks.valid.recipient
  obtain rfl := Bank.token_unique isAccount isRecipient
  have bonusBound := own.airdropBonus.totalClaimedBonus.isLt
  exact ⟨_, vault, account,
    .claimLocked instruction rfl checks.valid.vaultAssociated checks.valid.vaultAddress
      checks.valid.signed checks.valid.statusAddress checks.notClawedBack
      checks.activation checks.withdrawable checks.positive checks.lockedRoom,
    { isDistributor := found
      isVault
      vaultOwner
      isRecipient
      recipientOwner := owner
      recipientMint := by simp
      sameMint
      isStatus := checks.valid.isClaimStatus
      funded
      fits
      nodeRoom := by simp
      claimRoom := checks.claimRoom
      bonusRoom := by simpa using bonusBound }, rfl⟩

/-- A payment that the terms grant and that there is room for is made. -/
theorem Granted.accepted
    (derived : env.findProgramAddress (distributorSeeds distributor.base
      distributor.mint distributor.version) = (key, distributor.bump))
    {payment : Payment} {vault recipient : TokenAccount}
    (granted : Granted env tx key distributor payment)
    (payable : Payable bank key distributor vault recipient payment) :
    ∃ receipt, execute env bank tx = .ok receipt ∧
      receipt.bank = payment.made bank key distributor vault recipient := by
  have transferred {source : Pubkey} (address : source = distributor.tokenVault) :
      transferSigned env bank tx.signers distributor.signerSeeds source
        payment.toAccount key payment.paid = .ok (bank.moved distributor.tokenVault
          payment.toAccount vault recipient payment.paid) := by
    rw [address, transferSigned_derived derived]
    exact ⟨vault, recipient, payable.isVault, payable.isRecipient, payable.funded,
      payable.sameMint, payable.vaultOwner, payable.fits, rfl⟩
  cases granted with
  | @newClaim accounts amountUnlocked amountLocked bonus paid proof instruction here
      vaultAssociated vaultAddress signed statusAddress notClawedBack proved granted
      paidValue =>
      subst here
      have checks : NewClaimChecks env tx.clock tx.signers bank accounts
          amountUnlocked amountLocked proof distributor bonus paid _ :=
        { valid :=
            { isDistributor := payable.isDistributor
              vault := ⟨vault, vaultAddress ▸ payable.isVault, payable.vaultOwner⟩
              vaultAssociated
              vaultAddress
              recipient := ⟨recipient, payable.isRecipient, payable.recipientOwner,
                payable.recipientMint rfl⟩
              signed
              statusAddress
              statusFree := payable.isStatus }
          notClawedBack
          nodeRoom := payable.nodeRoom Nat.one_pos
          proved
          granted
          paidValue
          transferred := transferred vaultAddress
          claimRoom := payable.claimRoom
          bonusRoom := payable.bonusRoom }
      simp only [execute, instruction]
      exact ⟨_, newClaim_eq_ok.mpr ⟨distributor, bonus, paid, _, checks, rfl⟩, rfl⟩
  | @claimLocked accounts status amount instruction here vaultAssociated vaultAddress
      signed statusAddress notClawedBack activation withdrawable positive lockedRoom =>
      subst here
      have checks : ClaimLockedChecks env tx.clock tx.signers bank accounts distributor
          status amount _ :=
        { valid :=
            { isDistributor := payable.isDistributor
              isClaimStatus := payable.isStatus
              vault := ⟨vault, vaultAddress ▸ payable.isVault, payable.vaultOwner⟩
              vaultAssociated
              vaultAddress
              recipient := ⟨recipient, payable.isRecipient, payable.recipientOwner⟩
              signed
              statusAddress }
          notClawedBack
          activation
          withdrawable
          positive
          transferred := transferred vaultAddress
          lockedRoom
          claimRoom := payable.claimRoom }
      simp only [execute, instruction]
      exact ⟨_, claimLocked_eq_ok.mpr ⟨distributor, status, amount, _, checks, rfl⟩, rfl⟩

/-- A claim from a distributor at its derived address is accepted exactly when it
is a payment that the terms grant and that there is room for, and it does nothing
but make that payment. -/
theorem claim_eq_payment
    (found : bank key = some (.distributor distributor))
    (derived : env.findProgramAddress (distributorSeeds distributor.base
      distributor.mint distributor.version) = (key, distributor.bump))
    (claims : tx.instruction.claimedFrom = some key) {after : Bank} :
    (∃ receipt, execute env bank tx = .ok receipt ∧ receipt.bank = after) ↔
      ∃ payment vault recipient, Granted env tx key distributor payment ∧
        Payable bank key distributor vault recipient payment ∧
        after = payment.made bank key distributor vault recipient := by
  constructor
  · rintro ⟨receipt, accepted, rfl⟩
    cases instruction : tx.instruction with
    | newClaim accounts amountUnlocked amountLocked proof =>
        rw [instruction] at claims
        exact payment_of_newClaim found derived instruction (Option.some.inj claims)
          accepted
    | claimLocked accounts =>
        rw [instruction] at claims
        exact payment_of_claimLocked found derived instruction (Option.some.inj claims)
          accepted
    | _ => simp [instruction, Instruction.claimedFrom] at claims
  · rintro ⟨payment, vault, recipient, granted, payable, rfl⟩
    exact granted.accepted derived payable

end Claims

/-! ## What a payment leaves to another one -/

section Exchange

variable {env : Env} {tx : Transaction env} {bank : Bank} {key : Pubkey}
variable {distributor : MerkleDistributor} {vault recipient : TokenAccount}
variable {payment other : Payment}

/-- The counters play no part in the bonus that is granted. -/
theorem bonus_after {clock : Clock} {amountUnlocked bonus : U64} :
    (∃ handler, (distributor.after other).getActivationHandler clock = .ok handler ∧
      (distributor.after other).getBonusForAClaimaint amountUnlocked handler =
        .ok bonus) ↔
    ∃ handler, distributor.getActivationHandler clock = .ok handler ∧
      distributor.getBonusForAClaimaint amountUnlocked handler = .ok bonus := by
  constructor
  · rintro ⟨handler, isHandler, granted⟩
    obtain ⟨activationType, isType, rfl⟩ := getActivationHandler_eq_ok.mp isHandler
    exact ⟨_, getActivationHandler_eq_ok.mpr ⟨activationType, isType, rfl⟩, granted⟩
  · rintro ⟨handler, isHandler, granted⟩
    obtain ⟨activationType, isType, rfl⟩ := getActivationHandler_eq_ok.mp isHandler
    exact ⟨_, getActivationHandler_eq_ok.mpr ⟨activationType, isType, rfl⟩, granted⟩

/-- The counters play no part in whether the distributor can be activated. -/
theorem activation_after {clock : Clock} :
    (∃ handler, (distributor.after other).getActivationHandler clock = .ok handler) ↔
      ∃ handler, distributor.getActivationHandler clock = .ok handler := by
  simp only [getActivationHandler_eq_ok]
  constructor
  · rintro ⟨_, activationType, isType, _⟩
    exact ⟨_, activationType, isType, rfl⟩
  · rintro ⟨_, activationType, isType, _⟩
    exact ⟨_, activationType, isType, rfl⟩

/-- What is granted does not depend on the payments made before. -/
theorem granted_after :
    Granted env tx key (distributor.after other) payment ↔
      Granted env tx key distributor payment := by
  constructor
  · intro granted
    cases granted with
    | newClaim instruction here vaultAssociated vaultAddress signed statusAddress
        notClawedBack proved granted paidValue =>
        exact .newClaim instruction here vaultAssociated vaultAddress signed
          statusAddress notClawedBack proved (bonus_after.mp granted) paidValue
    | claimLocked instruction here vaultAssociated vaultAddress signed statusAddress
        notClawedBack activation withdrawable positive lockedRoom =>
        exact .claimLocked instruction here vaultAssociated vaultAddress signed
          statusAddress notClawedBack (activation_after.mp activation) withdrawable
          positive lockedRoom
  · intro granted
    cases granted with
    | newClaim instruction here vaultAssociated vaultAddress signed statusAddress
        notClawedBack proved granted paidValue =>
        exact .newClaim instruction here vaultAssociated vaultAddress signed
          statusAddress notClawedBack proved (bonus_after.mpr granted) paidValue
    | claimLocked instruction here vaultAssociated vaultAddress signed statusAddress
        notClawedBack activation withdrawable positive lockedRoom =>
        exact .claimLocked instruction here vaultAssociated vaultAddress signed
          statusAddress notClawedBack (activation_after.mpr activation) withdrawable
          positive lockedRoom

theorem Granted.signed (granted : Granted env tx key distributor payment) :
    payment.claimant ∈ tx.signers := by
  cases granted with
  | newClaim _ _ _ _ signed => exact signed
  | claimLocked _ _ _ _ signed => exact signed

theorem Granted.statusAddress (granted : Granted env tx key distributor payment) :
    payment.statusKey = env.claimStatusAddress payment.claimant key := by
  cases granted with
  | newClaim _ _ _ _ _ statusAddress => exact statusAddress
  | claimLocked _ _ _ _ _ statusAddress => exact statusAddress

/-- A payment leaves the vault: its recipient belongs to a signer, which the
distributor is not. -/
theorem Payable.leaves (payable : Payable bank key distributor vault recipient payment)
    (granted : Granted env tx key distributor payment)
    (derived : env.findProgramAddress (distributorSeeds distributor.base
      distributor.mint distributor.version) = (key, distributor.bump)) :
    distributor.tokenVault ≠ payment.toAccount := by
  intro same
  have made := env.create_find
    (distributorSeeds distributor.base distributor.mint distributor.version)
  rw [derived] at made
  have isVault := payable.isVault
  rw [same] at isVault
  obtain rfl := Bank.token_unique isVault payable.isRecipient
  have owner := payable.recipientOwner.symm.trans payable.vaultOwner
  exact tx.no_derived_signer _ _ made (owner ▸ granted.signed)

/-- The accounts of a payment are at different addresses. -/
structure Payment.Apart (key vaultKey : Pubkey) (payment : Payment) : Prop where
  keyVault : key ≠ vaultKey
  keyTo : key ≠ payment.toAccount
  keyStatus : key ≠ payment.statusKey
  vaultTo : vaultKey ≠ payment.toAccount
  vaultStatus : vaultKey ≠ payment.statusKey
  toStatus : payment.toAccount ≠ payment.statusKey

/-- The distributor, the token accounts and the claim status are at different
addresses. -/
theorem Payable.apart (payable : Payable bank key distributor vault recipient payment)
    (leaves : distributor.tokenVault ≠ payment.toAccount) :
    payment.Apart key distributor.tokenVault := by
  have isDistributor := payable.isDistributor
  have isVault := payable.isVault
  have isRecipient := payable.isRecipient
  have isStatus := payable.isStatus
  refine ⟨?_, ?_, ?_, leaves, ?_, ?_⟩
  · intro same
    rw [← same, isDistributor] at isVault
    simp at isVault
  · intro same
    rw [← same, isDistributor] at isRecipient
    simp at isRecipient
  · intro same
    rw [← same, isDistributor] at isStatus
    cases met : payment.met <;> simp [met] at isStatus
  · intro same
    rw [← same, isVault] at isStatus
    cases met : payment.met <;> simp [met] at isStatus
  · intro same
    rw [← same, isRecipient] at isStatus
    cases met : payment.met <;> simp [met] at isStatus

/-- The counters after a payment. -/
theorem Payable.advanced
    (payable : Payable bank key distributor vault recipient payment) :
    Advanced distributor (distributor.after payment) payment.nodes.toNat
      payment.paid.toNat payment.bonus.toNat := by
  have nodeRoom := payable.nodeRoom
  have claimRoom := payable.claimRoom
  have nodesBound := distributor.maxNumNodes.isLt
  have countBound := distributor.numNodesClaimed.isLt
  have totalBound := distributor.maxTotalClaim.isLt
  refine counted_advanced ?_ (by omega) payable.bonusRoom
  rcases Nat.eq_zero_or_pos payment.nodes.toNat with none | some
  · omega
  · have room := nodeRoom some
    omega

/-- The accounts after a payment, address by address. -/
theorem Payment.made_apply (leaves : distributor.tokenVault ≠ payment.toAccount)
    (address : Pubkey) :
    payment.made bank key distributor vault recipient address =
      if address = key then some (.distributor (distributor.after payment))
      else if address = payment.statusKey then some (.claimStatus payment.written)
      else if address = payment.toAccount then
        some (.token { recipient with amount := recipient.amount + payment.paid })
      else if address = distributor.tokenVault then
        some (.token { vault with amount := vault.amount - payment.paid })
      else bank address := by
  simp only [Payment.made, Bank.moved, if_neg leaves, Bank.set, Function.update_apply]

theorem Payment.made_key :
    payment.made bank key distributor vault recipient key =
      some (.distributor (distributor.after payment)) :=
  Function.update_self ..

theorem Payment.Apart.made_vault (apart : payment.Apart key distributor.tokenVault) :
    payment.made bank key distributor vault recipient distributor.tokenVault =
      some (.token { vault with amount := vault.amount - payment.paid }) := by
  rw [Payment.made_apply apart.vaultTo, if_neg apart.keyVault.symm,
    if_neg apart.vaultStatus, if_neg apart.vaultTo, if_pos rfl]

/-- Two payments from one vault write to different accounts. -/
structure Payment.Separate (key vaultKey : Pubkey) (payment other : Payment) : Prop where
  apart : payment.Apart key vaultKey
  otherApart : other.Apart key vaultKey
  destinations : payment.toAccount ≠ other.toAccount
  statuses : payment.statusKey ≠ other.statusKey
  toOtherStatus : payment.toAccount ≠ other.statusKey
  otherToStatus : other.toAccount ≠ payment.statusKey

theorem Payment.Separate.symm {vaultKey : Pubkey}
    (separate : payment.Separate key vaultKey other) :
    other.Separate key vaultKey payment where
  apart := separate.otherApart
  otherApart := separate.apart
  destinations := separate.destinations.symm
  statuses := separate.statuses.symm
  toOtherStatus := separate.otherToStatus
  otherToStatus := separate.toOtherStatus

/-- A payment leaves the destination of the other one as it was. -/
theorem Payment.Separate.made_to
    (separate : payment.Separate key distributor.tokenVault other) :
    payment.made bank key distributor vault recipient other.toAccount =
      bank other.toAccount := by
  rw [Payment.made_apply separate.apart.vaultTo, if_neg separate.otherApart.keyTo.symm,
    if_neg separate.otherToStatus, if_neg separate.destinations.symm,
    if_neg separate.otherApart.vaultTo.symm]

/-- A payment leaves the claim status of the other one as it was. -/
theorem Payment.Separate.made_status
    (separate : payment.Separate key distributor.tokenVault other) :
    payment.made bank key distributor vault recipient other.statusKey =
      bank other.statusKey := by
  rw [Payment.made_apply separate.apart.vaultTo,
    if_neg separate.otherApart.keyStatus.symm, if_neg separate.statuses.symm,
    if_neg separate.toOtherStatus.symm, if_neg separate.otherApart.vaultStatus.symm]

/-- In both orders the accounts end up the same. -/
theorem Payment.Separate.made_comm {otherRecipient : TokenAccount}
    (separate : payment.Separate key distributor.tokenVault other) :
    other.made (payment.made bank key distributor vault recipient) key
        (distributor.after payment)
        { vault with amount := vault.amount - payment.paid } otherRecipient =
      payment.made (other.made bank key distributor vault otherRecipient) key
        (distributor.after other)
        { vault with amount := vault.amount - other.paid } recipient := by
  obtain ⟨⟨keyVault, keyTo, keyStatus, leaves, vaultStatus, toStatus⟩,
    ⟨_, keyOtherTo, keyOtherStatus, otherLeaves, vaultOtherStatus, otherToOtherStatus⟩,
    destinations, statuses, toOtherStatus, otherToStatus⟩ := separate
  funext address
  rw [@Payment.made_apply _ key (distributor.after payment) _ otherRecipient other
      otherLeaves address, Payment.made_apply leaves,
    @Payment.made_apply _ key (distributor.after other) _ recipient payment leaves
      address, Payment.made_apply otherLeaves]
  simp only [MerkleDistributor.after_tokenVault,
    MerkleDistributor.after_comm distributor payment other]
  by_cases isKey : address = key
  · simp [isKey]
  by_cases isVault : address = distributor.tokenVault
  · subst isVault
    simp [keyVault.symm, vaultStatus, vaultOtherStatus, leaves, otherLeaves,
      BitVec.sub_sub, BitVec.add_comm]
  by_cases isStatus : address = payment.statusKey
  · subst isStatus
    simp [keyStatus.symm, statuses, otherToStatus.symm, vaultStatus.symm]
  by_cases isOther : address = other.statusKey
  · subst isOther
    simp [keyOtherStatus.symm, statuses.symm, toOtherStatus.symm, vaultOtherStatus.symm]
  by_cases isTo : address = payment.toAccount
  · subst isTo
    simp [keyTo.symm, toStatus, toOtherStatus, destinations, leaves.symm]
  · simp [isKey, isVault, isStatus, isOther, isTo]

/-- The vault and the counters have room for both payments. -/
structure RoomForBoth (distributor : MerkleDistributor) (vault : TokenAccount)
    (payment other : Payment) : Prop where
  funded : payment.paid.toNat + other.paid.toNat ≤ vault.amount.toNat
  nodeRoom : 0 < payment.nodes.toNat + other.nodes.toNat →
    distributor.numNodesClaimed.toNat + payment.nodes.toNat + other.nodes.toNat ≤
      distributor.maxNumNodes.toNat
  claimRoom : distributor.totalAmountClaimed.toNat + payment.paid.toNat +
    other.paid.toNat ≤ distributor.maxTotalClaim.toNat
  bonusRoom : distributor.airdropBonus.totalClaimedBonus.toNat + payment.bonus.toNat +
    other.bonus.toNat < 2 ^ 64

theorem RoomForBoth.symm (room : RoomForBoth distributor vault payment other) :
    RoomForBoth distributor vault other payment := by
  obtain ⟨funded, nodeRoom, claimRoom, bonusRoom⟩ := room
  exact ⟨by omega, by omega, by omega, by omega⟩

/-- After a payment there is room for another one exactly when there was room for it
before, and for both together. -/
theorem Payable.next_iff {otherRecipient : TokenAccount}
    (separate : payment.Separate key distributor.tokenVault other)
    (first : Payable bank key distributor vault recipient payment) :
    Payable (payment.made bank key distributor vault recipient) key
        (distributor.after payment)
        { vault with amount := vault.amount - payment.paid } otherRecipient other ↔
      Payable bank key distributor vault otherRecipient other ∧
        RoomForBoth distributor vault payment other := by
  have advanced := first.advanced
  have left := BitVec.toNat_sub_of_le first.funded
  have firstFunded := first.funded
  have firstNodes := first.nodeRoom
  constructor
  · intro second
    have isRecipient := second.isRecipient
    have isStatus := second.isStatus
    have funded := second.funded
    have nodeRoom := second.nodeRoom
    have claimRoom := second.claimRoom
    have bonusRoom := second.bonusRoom
    rw [separate.made_to] at isRecipient
    rw [separate.made_status] at isStatus
    rw [left] at funded
    rw [advanced.nodes] at nodeRoom
    rw [advanced.paid] at claimRoom
    rw [advanced.bonus] at bonusRoom
    change 0 < other.nodes.toNat → _ ≤ distributor.maxNumNodes.toNat at nodeRoom
    change _ ≤ distributor.maxTotalClaim.toNat at claimRoom
    exact
      ⟨{ isDistributor := first.isDistributor
         isVault := first.isVault
         vaultOwner := first.vaultOwner
         isRecipient
         recipientOwner := second.recipientOwner
         recipientMint := second.recipientMint
         sameMint := second.sameMint
         isStatus
         funded := by omega
         fits := second.fits
         nodeRoom := by omega
         claimRoom := by omega
         bonusRoom := by omega },
        ⟨by omega, by omega, by omega, by omega⟩⟩
  · rintro ⟨second, room⟩
    have funded := room.funded
    have nodeRoom := room.nodeRoom
    exact
      { isDistributor := Payment.made_key
        isVault := separate.apart.made_vault
        vaultOwner := first.vaultOwner
        isRecipient := separate.made_to.trans second.isRecipient
        recipientOwner := second.recipientOwner
        recipientMint := second.recipientMint
        sameMint := second.sameMint
        isStatus := separate.made_status.trans second.isStatus
        funded := by
          rw [left]
          omega
        fits := second.fits
        nodeRoom := by
          intro some
          rw [advanced.nodes]
          exact nodeRoom (Nat.add_pos_right _ some)
        claimRoom := by
          rw [advanced.paid]
          exact room.claimRoom
        bonusRoom := by
          rw [advanced.bonus]
          exact room.bonusRoom }

/-- Two payments that are made one after the other, to different accounts and with
different claim statuses, write to different accounts. -/
theorem Payable.separate {vaultLeft otherRecipient : TokenAccount}
    (leaves : distributor.tokenVault ≠ payment.toAccount)
    (otherLeaves : distributor.tokenVault ≠ other.toAccount)
    (destinations : payment.toAccount ≠ other.toAccount)
    (statuses : payment.statusKey ≠ other.statusKey)
    (first : Payable bank key distributor vault recipient payment)
    (second : Payable (payment.made bank key distributor vault recipient) key
      (distributor.after payment) vaultLeft otherRecipient other) :
    payment.Separate key distributor.tokenVault other := by
  have apart := first.apart leaves
  refine ⟨apart, second.apart otherLeaves, destinations, statuses, ?_, ?_⟩
  · intro same
    have isStatus := second.isStatus
    rw [← same, Payment.made_apply leaves, if_neg apart.keyTo.symm,
      if_neg apart.toStatus, if_pos rfl] at isStatus
    cases met : other.met <;> simp [met] at isStatus
  · intro same
    have isRecipient := second.isRecipient
    rw [same, Payment.made_apply leaves, if_neg apart.keyStatus.symm, if_pos rfl]
      at isRecipient
    simp at isRecipient

/-- Where two payments fit one after the other, to different accounts and with
different claim statuses, they fit in the other order too, and the accounts end up
the same. -/
theorem Payable.exchange {vaultLeft otherRecipient : TokenAccount}
    (leaves : distributor.tokenVault ≠ payment.toAccount)
    (otherLeaves : distributor.tokenVault ≠ other.toAccount)
    (destinations : payment.toAccount ≠ other.toAccount)
    (statuses : payment.statusKey ≠ other.statusKey)
    (first : Payable bank key distributor vault recipient payment)
    (second : Payable (payment.made bank key distributor vault recipient) key
      (distributor.after payment) vaultLeft otherRecipient other) :
    ∃ left, Payable bank key distributor vault otherRecipient other ∧
      Payable (other.made bank key distributor vault otherRecipient) key
        (distributor.after other) left recipient payment ∧
      other.made (payment.made bank key distributor vault recipient) key
          (distributor.after payment) vaultLeft otherRecipient =
        payment.made (other.made bank key distributor vault otherRecipient) key
          (distributor.after other) left recipient := by
  have separate := first.separate leaves otherLeaves destinations statuses second
  obtain rfl := Bank.token_unique second.isVault separate.apart.made_vault
  obtain ⟨sooner, room⟩ := (first.next_iff separate).mp second
  exact ⟨_, sooner, (sooner.next_iff separate.symm).mpr ⟨first, room.symm⟩,
    separate.made_comm⟩

end Exchange

/-! ## Claims in any order -/

/-- Whom a claim pays. -/
def Instruction.claimant? : Instruction → Option Pubkey
  | .newClaim accounts _ _ _ => some accounts.claimant
  | .claimLocked accounts => some accounts.claimant
  | _ => none

/-- The account to which a claim pays. -/
def Instruction.destination? : Instruction → Option Pubkey
  | .newClaim accounts _ _ _ => some accounts.toAccount
  | .claimLocked accounts => some accounts.toAccount
  | _ => none

/-- Claims by different claimants to different accounts. -/
structure Independent {env : Env} (one other : Transaction env) : Prop where
  claimants : one.instruction.claimant? ≠ other.instruction.claimant?
  destinations : one.instruction.destination? ≠ other.instruction.destination?

/-- Transactions executed one after another; the first failure fails them all. -/
def executeAll (env : Env) : Bank → List (Transaction env) → Except ProgramError Bank
  | bank, [] => .ok bank
  | bank, tx :: later => do
      let receipt ← execute env bank tx
      executeAll env receipt.bank later

/-- The distributor is at the address that its seeds derive. -/
def Bank.DerivedAt (env : Env) (bank : Bank) (key : Pubkey) : Prop :=
  ∃ distributor, bank key = some (.distributor distributor) ∧
    env.findProgramAddress (distributorSeeds distributor.base distributor.mint
      distributor.version) = (key, distributor.bump)

/-- A successful claim from the distributor at `key`. -/
def ClaimStep (env : Env) (key : Pubkey) (before : Bank) (tx : Transaction env)
    (after : Bank) : Prop :=
  tx.instruction.claimedFrom = some key ∧
    ∃ receipt, execute env before tx = .ok receipt ∧ receipt.bank = after

section Orders

variable {env : Env} {bank after : Bank} {key : Pubkey}
variable {tx : Transaction env} {terms : MerkleDistributor} {payment : Payment}
variable {claims others : List (Transaction env)}

theorem executeAll_eq_ok (allClaims : ∀ tx ∈ claims,
      tx.instruction.claimedFrom = some key) :
    executeAll env bank claims = .ok after ↔
      Performs (ClaimStep env key) bank claims after := by
  induction claims generalizing bank with
  | nil =>
      constructor
      · rintro ⟨⟩
        exact .nil _
      · rintro ⟨⟩
        rfl
  | cons tx later inductionHypothesis =>
      have laterClaims : ∀ tx ∈ later, tx.instruction.claimedFrom = some key :=
        fun tx member => allClaims tx (List.mem_cons_of_mem _ member)
      rw [executeAll, bind_eq_ok]
      constructor
      · rintro ⟨receipt, accepted, rest⟩
        exact .cons ⟨allClaims tx List.mem_cons_self, receipt, accepted, rfl⟩
          ((inductionHypothesis laterClaims).mp rest)
      · intro performs
        cases performs with
        | cons now rest =>
            obtain ⟨_, receipt, accepted, rfl⟩ := now
            exact ⟨receipt, accepted, (inductionHypothesis laterClaims).mpr rest⟩

theorem Granted.instruction (granted : Granted env tx key terms payment) :
    tx.instruction.claimant? = some payment.claimant ∧
      tx.instruction.destination? = some payment.toAccount ∧
      tx.instruction.seeds = [claimStatusSeeds payment.claimant key] := by
  cases granted with
  | newClaim instruction here =>
      rw [instruction, ← here]
      exact ⟨rfl, rfl, rfl⟩
  | claimLocked instruction here =>
      rw [instruction, ← here]
      exact ⟨rfl, rfl, rfl⟩

/-- A claim leaves the distributor at its derived address. -/
theorem ClaimStep.derivedAt (derivedAt : bank.DerivedAt env key)
    (step : ClaimStep env key bank tx after) : after.DerivedAt env key := by
  obtain ⟨distributor, found, derived⟩ := derivedAt
  obtain ⟨claims, accepted⟩ := step
  obtain ⟨payment, vault, recipient, granted, payable, rfl⟩ :=
    (claim_eq_payment found derived claims).mp accepted
  exact ⟨distributor.after payment, Payment.made_key, derived⟩

/-- Two claims of different claimants to different accounts that succeed one after
the other succeed in the other order too, and leave the same accounts. -/
theorem ClaimStep.exchange {middle : Bank} {one other : Transaction env}
    (derivedAt : bank.DerivedAt env key) (independent : Independent one other)
    (distinct : env.DistinctAddresses
      (one.instruction.seeds ++ other.instruction.seeds))
    (first : ClaimStep env key bank one middle)
    (second : ClaimStep env key middle other after) :
    ∃ between, ClaimStep env key bank other between ∧
      ClaimStep env key between one after := by
  obtain ⟨distributor, found, derived⟩ := derivedAt
  obtain ⟨claims, accepted⟩ := first
  obtain ⟨payment, vault, recipient, granted, payable, rfl⟩ :=
    (claim_eq_payment found derived claims).mp accepted
  have leaves := payable.leaves granted derived
  obtain ⟨otherClaims, otherAccepted⟩ := second
  obtain ⟨otherPayment, vaultLeft, otherRecipient, otherGranted, otherPayable, rfl⟩ :=
    (claim_eq_payment Payment.made_key derived otherClaims).mp otherAccepted
  have otherLeaves := otherPayable.leaves otherGranted derived
  obtain ⟨claimant, destination, seeds⟩ := granted.instruction
  obtain ⟨otherClaimant, otherDestination, otherSeeds⟩ := otherGranted.instruction
  have claimants : payment.claimant ≠ otherPayment.claimant := fun same =>
    independent.claimants (by rw [claimant, otherClaimant, same])
  have destinations : payment.toAccount ≠ otherPayment.toAccount := fun same =>
    independent.destinations (by rw [destination, otherDestination, same])
  have statuses : payment.statusKey ≠ otherPayment.statusKey := by
    rw [granted.statusAddress, otherGranted.statusAddress]
    intro same
    refine claimants (claimStatusAddress_inj distinct ?_ ?_ same).1
    · rw [seeds]
      exact List.mem_append_left _ (List.mem_singleton_self _)
    · rw [otherSeeds]
      exact List.mem_append_right _ (List.mem_singleton_self _)
  obtain ⟨left, sooner, later, same⟩ :=
    payable.exchange leaves otherLeaves destinations statuses otherPayable
  have otherNow := granted_after.mp otherGranted
  refine ⟨otherPayment.made bank key distributor vault otherRecipient,
    ⟨otherClaims, ?_⟩, ⟨claims, ?_⟩⟩
  · exact (claim_eq_payment found derived otherClaims).mpr
      ⟨otherPayment, vault, otherRecipient, otherNow, sooner, rfl⟩
  · exact (claim_eq_payment Payment.made_key derived claims).mpr
      ⟨payment, left, recipient, granted_after.mpr granted, later, same⟩

/-- Claims of pairwise different claimants to pairwise different accounts that
succeed one after the other succeed in any order, and every order leaves the same
accounts: the same distributor, claim statuses, vault and destinations. -/
theorem claims_order_irrelevant (derivedAt : bank.DerivedAt env key)
    (allClaims : ∀ tx ∈ claims, tx.instruction.claimedFrom = some key)
    (independent : claims.Pairwise Independent)
    (distinct : env.DistinctAddresses (claims.flatMap fun tx => tx.instruction.seeds))
    (order : claims.Perm others)
    (performed : executeAll env bank claims = .ok after) :
    executeAll env bank others = .ok after := by
  have otherClaims : ∀ tx ∈ others, tx.instruction.claimedFrom = some key :=
    fun tx member => allClaims tx (order.mem_iff.mpr member)
  rw [executeAll_eq_ok allClaims] at performed
  rw [executeAll_eq_ok otherClaims]
  have apart : claims.Pairwise fun one other => Independent one other ∧
      env.DistinctAddresses (one.instruction.seeds ++ other.instruction.seeds) := by
    refine independent.imp_of_mem ?_
    intro one other oneMember otherMember isIndependent
    refine ⟨isIndependent, distinct.mono ?_⟩
    intro seeds member
    rcases List.mem_append.mp member with inOne | inOther
    · exact List.mem_flatMap_of_mem oneMember inOne
    · exact List.mem_flatMap_of_mem otherMember inOther
  refine Performs.perm (fun bank : Bank => bank.DerivedAt env key) ?_ ?_ ?_ order apart
    derivedAt performed
  · rintro one other ⟨isIndependent, isDistinct⟩
    exact ⟨⟨isIndependent.claimants.symm, isIndependent.destinations.symm⟩,
      isDistinct.mono (by
        intro seeds member
        rw [List.mem_append] at member ⊢
        exact member.symm)⟩
  · intro before tx after derivedAt step
    exact step.derivedAt derivedAt
  · intro before middle after one other derivedAt apart first second
    exact first.exchange derivedAt apart.1 apart.2 second

end Orders

/-- Alice's withdrawal and Bob's new claim, in both orders. -/
theorem claims_order_irrelevant_sample :
    let bank := sampleAfter [createSample sampleTree.merkleRoot false, aliceClaims 55]
    ∃ after, executeAll sampleEnv bank [aliceWithdraws 150, bobClaims 150] = .ok after ∧
      executeAll sampleEnv bank [bobClaims 150, aliceWithdraws 150] = .ok after := by
  intro bank
  have succeeds : (executeAll sampleEnv bank
      [aliceWithdraws 150, bobClaims 150]).toOption.isSome = true := by
    decide +kernel
  have derivedAt : bank.DerivedAt sampleEnv sampleKey := by
    refine ⟨{ sampleDistributor sampleTree.merkleRoot false with
      totalAmountClaimed := 126
      numNodesClaimed := 1
      airdropBonus :=
        { totalBonus := 20
          vestingDuration := 10
          totalClaimedBonus := 6 } }, ?_, ?_⟩
    · decide +kernel
    · decide +kernel
  cases performed : executeAll sampleEnv bank [aliceWithdraws 150, bobClaims 150] with
  | error failure => simp [performed, Except.toOption] at succeeds
  | ok after =>
      refine ⟨after, rfl, claims_order_irrelevant derivedAt (by decide) ?_
        (by decide +kernel) (List.Perm.swap _ _ _) performed⟩
      refine List.pairwise_pair.mpr ⟨?_, ?_⟩
      · decide
      · decide

end Airdrop
