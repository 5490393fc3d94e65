/-
Module: Airdrop.Proofs.Vesting
Purpose: Withdrawals of locked tokens against the vesting schedule: what has been
  withdrawn never runs ahead of it, and an attempt that nothing else obstructs
  brings it exactly up to date, whatever the earlier attempts were.
Trusted boundary: none
Main exports: Instruction.withdrawsFrom, Lifetime.withdrawn_le_vested,
  Unobstructed, Attempts, Settled, vesting_exact
-/
import Airdrop.Proofs.NoStarvation

namespace Airdrop

open Checked Schedule Transition

/-- The claim status that an instruction withdraws from. -/
def Instruction.withdrawsFrom : Instruction → Option Pubkey
  | .claimLocked accounts => some accounts.claimStatus
  | _ => none

/-- What has vested of a claim status by a time, under the terms of its
distributor. -/
def ClaimStatus.vestedAt (self : ClaimStatus) (terms : MerkleDistributor)
    (now : Int64) : Nat :=
  scheduled self.lockedAmount.toNat terms.startTs.toInt terms.endTs.toInt now.toInt

/-! ## Never ahead of the schedule -/

section Ahead

variable {env : Env} {earlier history : History env} {key account : Pubkey}
variable {founding : Commit Bank (Transaction env) Receipt}
variable {created : MerkleDistributor} {bank : Bank} {status : ClaimStatus}

/-- The vesting time of a distributor created at a non-negative clock fits
`i64`. -/
theorem Founded.vestingTime (founded : Founded env earlier founding key created)
    (epoch : 0 ≤ founding.input.clock.unixTimestamp.toInt) :
    created.endTs.toInt - created.startTs.toInt < 2 ^ 63 := by
  have future := founded.creation.2.future
  have bound := created.endTs.toInt_lt
  omega

/-- No more is ever withdrawn than has vested by any time that none of the
withdrawals is later than. -/
theorem Lifetime.withdrawn_le_vested
    (life : Lifetime env earlier founding key created history bank)
    (epoch : 0 ≤ founding.input.clock.unixTimestamp.toInt)
    (fresh : ∀ status, founding.outcome.bank account ≠ some (.claimStatus status))
    (through : ∀ commit ∈ commits history,
      commit.input.instruction.withdrawsFrom = some account →
        commit.input.instruction.distributorKey = some key)
    {now : Int64}
    (past : ∀ commit ∈ commits history,
      commit.input.instruction.withdrawsFrom = some account →
        commit.input.clock.unixTimestamp.toInt ≤ now.toInt)
    (found : bank account = some (.claimStatus status)) :
    status.lockedAmountWithdrawn.toNat ≤ status.vestedAt created now := by
  refine claimStatus_invariant (fun done status =>
    (∀ commit ∈ done, commit.input.instruction.closed ≠ some key) →
    (∀ commit ∈ done, commit.input.instruction.withdrawsFrom = some account →
      commit.input.instruction.distributorKey = some key) →
    (∀ commit ∈ done, commit.input.instruction.withdrawsFrom = some account →
      commit.input.clock.unixTimestamp.toInt ≤ now.toInt) →
    status.lockedAmountWithdrawn.toNat ≤ status.vestedAt created now)
    ?_ ?_ ?_ ?_ life.run status found life.unclosed through past
  · intro status found
    exact absurd found (fresh status)
  · intro history bank tx receipt status _ _ _ _ bounded unclosed through past
    exact bounded (fun commit member => unclosed commit (List.mem_cons_of_mem _ member))
      (fun commit member => through commit (List.mem_cons_of_mem _ member))
      (fun commit member => past commit (List.mem_cons_of_mem _ member))
  · intro history bank tx receipt accounts amountUnlocked amountLocked proof distributor
      bonus paid moved _ _ _ _ _ _ _ _
    exact Nat.zero_le _
  · intro history bank tx receipt accounts distributor status amount moved run _
      instruction here checks _ _ unclosed through past
    have isWithdrawal : tx.instruction.withdrawsFrom = some account := by
      rw [instruction]
      exact congrArg some here
    have isKey : accounts.distributor = key := by
      have works := through _ List.mem_cons_self isWithdrawal
      rw [instruction] at works
      exact Option.some.inj works
    have sofar : Lifetime env earlier founding key created history bank :=
      { life with
        run
        unclosed := fun commit member =>
          unclosed commit (List.mem_cons_of_mem _ member) }
    have same := sofar.sameTerms (isKey ▸ checks.valid.isDistributor)
    have withdrawable := checks.withdrawable
    have time := life.toFounded.vestingTime epoch
    -- The withdrawal was up to date at its own clock, which is not after `now`.
    rw [same.startTs, same.endTs, amountWithdrawable_eq_ok fun _ _ => time]
      at withdrawable
    have atNow := past _ List.mem_cons_self isWithdrawal
    rw [checks.counted, Nat.add_comm, withdrawable]
    exact scheduled_mono atNow

end Ahead

/-! ## One attempt -/

/-- The withdrawal is refused, if at all, for its amount: the accounts are right,
the distributor was not clawed back, and the cap, the vault and the recipient
have room for all that is due. -/
structure Unobstructed (env : Env) (tx : Transaction env) (bank : Bank)
    (accounts : ClaimLocked) (distributor : MerkleDistributor)
    (status : ClaimStatus) : Prop where
  valid : accounts.Valid env tx.signers bank distributor status
  notClawedBack : distributor.clawedBack = false
  capRoom : distributor.totalAmountClaimed.toNat +
      status.withdrawableAt distributor tx.clock.unixTimestamp ≤
    distributor.maxTotalClaim.toNat
  vaultRoom : ∃ vault recipient,
    bank distributor.tokenVault = some (.token vault) ∧
    bank accounts.toAccount = some (.token recipient) ∧
    vault.mint = recipient.mint ∧
    status.withdrawableAt distributor tx.clock.unixTimestamp ≤ vault.amount.toNat ∧
    (distributor.tokenVault ≠ accounts.toAccount →
      recipient.amount.toNat +
        status.withdrawableAt distributor tx.clock.unixTimestamp < 2 ^ 64)

section Attempt

variable {env : Env} {tx : Transaction env} {bank : Bank} {key : Pubkey}
variable {accounts : ClaimLocked} {distributor : MerkleDistributor}
variable {status : ClaimStatus}

/-- An unobstructed attempt is refused when nothing new has vested. -/
theorem Unobstructed.refused
    (clear : Unobstructed env tx bank accounts distributor status)
    (instruction : tx.instruction = .claimLocked accounts)
    (formed : WellFormed env key distributor)
    (notNegative : 0 ≤ distributor.startTs.toInt)
    (nothingNew : status.lockedAmountWithdrawn.toNat =
      status.vestedAt distributor tx.clock.unixTimestamp) :
    execute env bank tx = .error (.errorCode .insufficientUnlockedTokens) := by
  have endBound := distributor.endTs.toInt_lt
  obtain ⟨activationType, isType⟩ := formed.activation
  obtain ⟨handler, isHandler⟩ : ∃ handler,
      distributor.getActivationHandler tx.clock = .ok handler :=
    ⟨_, getActivationHandler_eq_ok.mpr ⟨activationType, isType, rfl⟩⟩
  have nothing : status.amountWithdrawable tx.clock.unixTimestamp distributor.startTs
      distributor.endTs = .ok 0 :=
    (amountWithdrawable_eq_ok fun _ _ => by omega).mpr
      ((Nat.zero_add _).trans nothingNew)
  have loaded : accounts.tryAccounts env tx.signers bank = .ok (distributor, status) :=
    ClaimLocked.tryAccounts_eq_ok.mpr clear.valid
  simp only [execute, instruction, claimLocked, loaded, ok_bind, handleClaimLocked,
    clear.notClawedBack, isHandler, ActivationHandler.validateClaim, nothing]
  rfl

/-- An unobstructed attempt is paid all that has newly vested. -/
theorem Unobstructed.paid
    (clear : Unobstructed env tx bank accounts distributor status)
    (instruction : tx.instruction = .claimLocked accounts)
    (formed : WellFormed env key distributor)
    (here : accounts.distributor = key)
    (notNegative : 0 ≤ distributor.startTs.toInt)
    (more : status.lockedAmountWithdrawn.toNat <
      status.vestedAt distributor tx.clock.unixTimestamp) :
    ∃ receipt amount, execute env bank tx = .ok receipt ∧
      receipt.transfers = [⟨distributor.tokenVault, accounts.toAccount, amount⟩] ∧
      status.lockedAmountWithdrawn.toNat + amount.toNat =
        status.vestedAt distributor tx.clock.unixTimestamp ∧
      receipt.bank accounts.claimStatus =
        some (.claimStatus (status.withdrawn amount)) ∧
      (status.withdrawn amount).lockedAmountWithdrawn.toNat =
        status.vestedAt distributor tx.clock.unixTimestamp := by
  obtain ⟨amount, withdrawable, value⟩ :=
    exists_amountWithdrawable notNegative (le_of_lt more)
  have due : status.lockedAmountWithdrawn.toNat + amount.toNat =
      status.vestedAt distributor tx.clock.unixTimestamp := by
    rw [value, ClaimStatus.withdrawableAt, ClaimStatus.vestedAt]
    exact Nat.add_sub_of_le (le_of_lt more)
  have capRoom := clear.capRoom
  obtain ⟨vault, recipient, isVault, isRecipient, sameMint, funded, fits⟩ :=
    clear.vaultRoom
  rw [← value] at capRoom funded fits
  obtain ⟨found, isFound, vaultOwner⟩ := clear.valid.vault
  rw [clear.valid.vaultAddress] at isFound
  obtain rfl := Bank.token_unique isVault isFound
  obtain ⟨moved, transferred⟩ := @WellFormed.pays _ _ _ _ formed tx.signers _ _ _ _ isVault
    (vaultOwner.trans here) isRecipient sameMint funded fits
  obtain ⟨activationType, isType⟩ := formed.activation
  have released : status.vestedAt distributor tx.clock.unixTimestamp ≤
      status.lockedAmount.toNat := scheduled_le
  have checks : ClaimLockedChecks env tx.clock tx.signers bank accounts distributor
      status amount moved :=
    { valid := clear.valid
      notClawedBack := clear.notClawedBack
      activation := ⟨_, getActivationHandler_eq_ok.mpr ⟨activationType, isType, rfl⟩⟩
      withdrawable
      positive := by omega
      transferred := by
        rw [clear.valid.vaultAddress, here]
        exact transferred
      lockedRoom := by omega
      claimRoom := capRoom }
  have succeeds : ∃ receipt, claimLocked env tx.clock tx.signers bank accounts =
      .ok receipt ∧
      receipt.transfers = [⟨accounts.fromAccount, accounts.toAccount, amount⟩] ∧
      receipt.bank.claimStatus? = Function.update bank.claimStatus? accounts.claimStatus
        (some (status.withdrawn amount)) :=
    ⟨_, claimLocked_eq_ok.mpr ⟨distributor, status, amount, moved, checks, rfl⟩, rfl,
      (claimLocked_effect checks).statuses⟩
  obtain ⟨receipt, accepted, transfers, statuses⟩ := succeeds
  refine ⟨receipt, amount, ?_, ?_, due, ?_, checks.counted.trans due⟩
  · rw [execute, instruction]
    exact accepted
  · rw [transfers, clear.valid.vaultAddress]
  · rw [← Bank.claimStatus?_eq_some, statuses, Function.update_self]

end Attempt

/-! ## A sequence of attempts -/

/-- The attempts to withdraw from the claim status at `account` in a history: all
through the distributor at `key`, and none earlier by the clock than the one
before. -/
structure Attempts (env : Env) (key account : Pubkey) (history : History env) :
    Prop where
  through : ∀ entry ∈ history,
    entry.input.instruction.withdrawsFrom = some account →
      entry.input.instruction.distributorKey = some key
  inOrder : history.Pairwise fun later earlier =>
    later.input.instruction.withdrawsFrom = some account →
    earlier.input.instruction.withdrawsFrom = some account →
      earlier.input.clock.unixTimestamp.toInt ≤ later.input.clock.unixTimestamp.toInt

/-- The outcome of an attempt that met `status`: it is refused exactly when nothing
new has vested, and afterwards exactly what has vested is withdrawn. -/
structure Settled (env : Env) (created : MerkleDistributor) (accounts : ClaimLocked)
    (status : ClaimStatus)
    (entry : Entry Bank (Transaction env) ProgramError Receipt) : Prop where
  refused_iff : (∃ failure, entry.result = .error failure) ↔
    status.lockedAmountWithdrawn.toNat =
      status.vestedAt created entry.input.clock.unixTimestamp
  onlyError : ∀ failure, entry.result = .error failure →
    failure = .errorCode .insufficientUnlockedTokens
  pays : ∀ receipt, entry.result = .ok receipt → ∃ amount,
    receipt.transfers = [⟨created.tokenVault, accounts.toAccount, amount⟩] ∧
      status.lockedAmountWithdrawn.toNat + amount.toNat =
        status.vestedAt created entry.input.clock.unixTimestamp
  upToDate : ∃ after,
    entry.after (machine env) accounts.claimStatus = some (.claimStatus after) ∧
      after.lockedAmount = status.lockedAmount ∧
      after.lockedAmountWithdrawn.toNat =
        status.vestedAt created entry.input.clock.unixTimestamp
  bounded : status.vestedAt created entry.input.clock.unixTimestamp ≤
    status.lockedAmount.toNat

section Sequence

variable {env : Env} {earlier history : History env} {key account : Pubkey}
variable {founding : Commit Bank (Transaction env) Receipt}
variable {created distributor : MerkleDistributor} {bank : Bank}
variable {tx : Transaction env} {accounts : ClaimLocked} {status : ClaimStatus}

/-- An unobstructed attempt at the end of a run is settled. -/
theorem Lifetime.settled
    (life : Lifetime env earlier founding key created history bank)
    (epoch : 0 ≤ founding.input.clock.unixTimestamp.toInt)
    (clear : Unobstructed env tx bank accounts distributor status)
    (instruction : tx.instruction = .claimLocked accounts)
    (here : accounts.distributor = key)
    (notAhead : status.lockedAmountWithdrawn.toNat ≤
      status.vestedAt created tx.clock.unixTimestamp) :
    Settled env created accounts status ((machine env).attempt bank tx) := by
  have found := clear.valid.isDistributor
  rw [here] at found
  have formed := life.wellFormed found
  have same := life.sameTerms found
  have sameVested : status.vestedAt distributor tx.clock.unixTimestamp =
      status.vestedAt created tx.clock.unixTimestamp := by
    rw [ClaimStatus.vestedAt, same.startTs, same.endTs, ClaimStatus.vestedAt]
  have future := life.creation.2.future
  have notNegative : 0 ≤ distributor.startTs.toInt := by
    rw [same.startTs]
    omega
  rcases Nat.lt_or_eq_of_le notAhead with more | nothingNew
  · obtain ⟨receipt, amount, accepted, transfers, due, after, value⟩ :=
      clear.paid instruction formed here notNegative (sameVested ▸ more)
    rw [sameVested] at due value
    rw [same.tokenVault] at transfers
    have result : ((machine env).attempt bank tx).result = .ok receipt := accepted
    constructor
    · rw [result]
      constructor
      · rintro ⟨failure, isError⟩
        exact absurd isError (by simp)
      · exact fun nothingNew => absurd nothingNew (ne_of_lt more)
    · rw [result]
      exact fun failure isError => absurd isError (by simp)
    · rw [result]
      rintro _ ⟨⟩
      exact ⟨amount, transfers, due⟩
    · rw [Entry.after_of_ok result]
      exact ⟨_, after, rfl, value⟩
    · exact scheduled_le
  · have refused := clear.refused instruction formed notNegative
      (nothingNew.trans sameVested.symm)
    have result : ((machine env).attempt bank tx).result =
        .error (.errorCode .insufficientUnlockedTokens) := refused
    constructor
    · rw [result]
      exact ⟨fun _ => nothingNew, fun _ => ⟨_, rfl⟩⟩
    · rw [result]
      rintro _ ⟨⟩
      rfl
    · rw [result]
      exact fun receipt isOk => absurd isOk (by simp)
    · rw [Entry.after_of_error result]
      exact ⟨status, clear.valid.isClaimStatus, rfl, nothingNew⟩
    · exact scheduled_le

/-- Withdrawals are exact and do not depend on when they are made: in the life of a
distributor created at a non-negative clock, every unobstructed attempt on a claim
status written since then is settled, whatever the earlier attempts were. -/
theorem vesting_exact
    (life : Lifetime env earlier founding key created history bank)
    (epoch : 0 ≤ founding.input.clock.unixTimestamp.toInt)
    (fresh : ∀ status, founding.outcome.bank account ≠ some (.claimStatus status))
    (attempts : Attempts env key account history) :
    ∀ entry ∈ history, ∀ accounts distributor status,
      entry.input.instruction = .claimLocked accounts →
      accounts.claimStatus = account →
      Unobstructed env entry.input entry.before accounts distributor status →
      Settled env created accounts status entry := by
  intro entry member accounts distributor status instruction here clear
  obtain ⟨late, early, rfl, reached, isAttempt, _⟩ := life.run.attempt_of_mem member
  have isWithdrawal : entry.input.instruction.withdrawsFrom = some account := by
    rw [instruction]
    exact congrArg some here
  have isKey : accounts.distributor = key := by
    have works := attempts.through entry member isWithdrawal
    rw [instruction] at works
    exact Option.some.inj works
  have inEarly : ∀ commit ∈ commits early, commit ∈ commits (late ++ entry :: early) := by
    intro commit isEarly
    obtain ⟨other, isOther, same⟩ := mem_commits.mp isEarly
    exact mem_commits.mpr ⟨other,
      List.mem_append_right _ (List.mem_cons_of_mem _ isOther), same⟩
  have sofar := life.upTo reached inEarly
  rw [isAttempt]
  apply sofar.settled epoch clear instruction isKey
  apply sofar.withdrawn_le_vested epoch fresh _ _ (here ▸ clear.valid.isClaimStatus)
  · intro commit isEarly withdraws
    obtain ⟨other, isOther, _, same, _⟩ := mem_commits.mp (inEarly commit isEarly)
    rw [← same] at withdraws ⊢
    exact attempts.through other isOther withdraws
  · intro commit isEarly withdraws
    obtain ⟨other, isOther, _, same, _⟩ := mem_commits.mp isEarly
    rw [← same] at withdraws ⊢
    have ordered := (List.pairwise_cons.mp
      (List.pairwise_append.mp attempts.inOrder).2.1).1 other isOther
    exact ordered isWithdrawal withdraws

end Sequence

/-- Alice withdraws at 120, finds nothing new at 120 again, and withdraws at 150. -/
theorem vesting_exact_sample :
    Settled sampleEnv (sampleDistributor sampleTree.merkleRoot false)
      { distributor := sampleKey, claimStatus := aliceStatus
        fromAccount := sampleVault, toAccount := aliceToken, claimant := alice }
      { claimant := alice, lockedAmount := 50, lockedAmountWithdrawn := 10
        unlockedAmount := 126, closable := false, admin := sampleAdmin }
      ((machine sampleEnv).attempt
        (sampleThen sampleTree.merkleRoot false
          [aliceClaims 55, aliceWithdraws 120, aliceWithdraws 120])
        (aliceWithdraws 150)) := by
  refine vesting_exact
    (sample_lifetime sampleTree.merkleRoot false
      [aliceClaims 55, aliceWithdraws 120, aliceWithdraws 120, aliceWithdraws 150]
      (by decide +kernel))
    (show (0 : Int) ≤ (10 : Int64).toInt by decide) ?_
    ⟨by decide +kernel, by decide +kernel⟩ _ List.mem_cons_self _
    { sampleDistributor sampleTree.merkleRoot false with
      totalAmountClaimed := 136
      numNodesClaimed := 1
      airdropBonus :=
        { totalBonus := 20
          vestingDuration := 10
          totalClaimedBonus := 6 } } _ rfl rfl ?_
  · have free : (sampleFounding sampleTree.merkleRoot false).outcome.bank aliceStatus =
        none := by
      decide +kernel
    simp [free]
  · exact
      { valid :=
          { isDistributor := by decide +kernel
            isClaimStatus := by decide +kernel
            vault := ⟨⟨sampleMint, sampleKey, 84⟩, by decide +kernel, rfl⟩
            vaultAssociated := by decide +kernel
            vaultAddress := rfl
            recipient := ⟨⟨sampleMint, alice, 136⟩, by decide +kernel, rfl⟩
            signed := List.mem_cons_self
            statusAddress := by decide +kernel }
        notClawedBack := rfl
        capRoom := by decide +kernel
        vaultRoom := ⟨⟨sampleMint, sampleKey, 84⟩, ⟨sampleMint, alice, 136⟩,
          by decide +kernel, by decide +kernel, rfl, by decide +kernel,
          fun _ => by decide +kernel⟩ }

end Airdrop
