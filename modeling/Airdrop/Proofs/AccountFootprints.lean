/-
Module: Airdrop.Proofs.AccountFootprints
Purpose: The flags of the account contexts against what the instructions do: nothing but
  listed accounts is read, nothing but writable ones is written, and transactions that the
  flags show to be without conflict can be executed in any order.
Trusted boundary: none
Main exports: Bank.loadDistributor_congr, tokenTransfer_alike, accountFootprints,
  accounts_confined, conflictFree_reordering
-/
import Airdrop.Library.Footprint
import Airdrop.Program.Wire
import Airdrop.Proofs.Deployment

namespace Airdrop

open Checked Footprint Transition

/-! ## Loading -/

section Loading

variable {first second : Bank} {key : Pubkey}

theorem Bank.loadDistributor_congr (same : first key = second key) :
    first.loadDistributor key = second.loadDistributor key := by
  rw [loadDistributor, loadDistributor, same]

theorem Bank.loadClaimStatus_congr (same : first key = second key) :
    first.loadClaimStatus key = second.loadClaimStatus key := by
  rw [loadClaimStatus, loadClaimStatus, same]

theorem Bank.loadToken_congr (same : first key = second key) :
    first.loadToken key = second.loadToken key := by
  rw [loadToken, loadToken, same]

theorem Bank.loadMint_congr (same : first key = second key) :
    first.loadMint key = second.loadMint key := by
  rw [loadMint, loadMint, same]

theorem requireInit_congr (env : Env) (seeds : List Bytes) (same : first key = second key) :
    requireInit env first key seeds = requireInit env second key seeds := by
  rw [requireInit, requireInit, same]

end Loading

/-! ## Transfers -/

section Transfers

variable {reads writes : Set Pubkey} {first second one other : Bank}
variable {source destination : Pubkey}

/-- The same transfer in two banks that agree on the two accounts. -/
theorem tokenTransfer_alike (derived : Derived reads writes first second one other)
    (sourceRead : source ∈ reads) (sourceWritten : source ∈ writes)
    (destinationRead : destination ∈ reads) (destinationWritten : destination ∈ writes)
    (signers : List Pubkey) (authority : Pubkey) (amount : U64) :
    Alike (Derived reads writes first second)
      (tokenTransfer one signers source destination authority amount)
      (tokenTransfer other signers source destination authority amount) := by
  unfold tokenTransfer
  rw [Bank.loadToken_congr (derived.agree source sourceRead),
    Bank.loadToken_congr (derived.agree destination destinationRead)]
  refine .bind_same fun sourceAccount => ?_
  refine .bind_same fun destinationAccount => ?_
  refine .bind_same fun _ => .bind_same fun _ => .bind_same fun _ => .bind_same fun _ => ?_
  split
  · exact .ok derived
  · refine .bind_same fun sourceAmount => .bind_same fun destinationAmount => ?_
    exact .ok ((derived.update sourceWritten _).update destinationWritten _)

end Transfers

/-! ## Instructions -/

/-- What a receipt says besides the accounts. -/
def Receipt.report (receipt : Receipt) : List Transfer × List Event :=
  (receipt.transfers, receipt.events)

/-- The accounts that are listed. -/
def listedAccounts (accounts : List AccountMeta) : Set Pubkey :=
  { key | ∃ account ∈ accounts, account.pubkey = key }

/-- The accounts that are listed as writable. -/
def writableAccounts (accounts : List AccountMeta) : Set Pubkey :=
  { key | ∃ account ∈ accounts, account.pubkey = key ∧ account.isWritable = true }

/-- The receipts say the same, and their banks were made by the same writes. -/
def SameReceipt (accounts : List AccountMeta) (first second : Bank) (one other : Receipt) :
    Prop :=
  one.report = other.report ∧
    Derived (listedAccounts accounts) (writableAccounts accounts) first second one.bank
      other.bank

@[simp] theorem mem_listedAccounts {accounts : List AccountMeta} {key : Pubkey} :
    key ∈ listedAccounts accounts ↔ ∃ account ∈ accounts, account.pubkey = key := Iff.rfl

@[simp] theorem mem_writableAccounts {accounts : List AccountMeta} {key : Pubkey} :
    key ∈ writableAccounts accounts ↔
      ∃ account ∈ accounts, account.pubkey = key ∧ account.isWritable = true := Iff.rfl

theorem writableAccounts_subset (accounts : List AccountMeta) :
    writableAccounts accounts ⊆ listedAccounts accounts := by
  rintro key ⟨account, member, here, -⟩
  exact ⟨account, member, here⟩

/-- A transfer by a distributor between two accounts that are listed as writable. -/
theorem transferSigned_alike {accounts : List AccountMeta} {first second : Bank}
    (agree : Agree (listedAccounts accounts) first second) {source destination : Pubkey}
    (sourceWritten : source ∈ writableAccounts accounts)
    (destinationWritten : destination ∈ writableAccounts accounts) (env : Env)
    (signers : List Pubkey) (seeds : List Bytes) (authority : Pubkey) (amount : U64) :
    Alike (Derived (listedAccounts accounts) (writableAccounts accounts) first second)
      (transferSigned env first signers seeds source destination authority amount)
      (transferSigned env second signers seeds source destination authority amount) := by
  unfold transferSigned
  refine .bind_same fun signer => .bind_same fun _ => ?_
  exact tokenTransfer_alike (.start agree) (writableAccounts_subset _ sourceWritten)
    sourceWritten (writableAccounts_subset _ destinationWritten) destinationWritten _ _ _

section Confined

variable {env : Env} {programs : Programs} {clock : Clock} {signers : List Pubkey}
variable {first second : Bank}

/-- A bank with one more account that was listed as writable. -/
theorem SameReceipt.quiet {accounts : List AccountMeta} {key : Pubkey}
    (agree : Agree (listedAccounts accounts) first second)
    (written : key ∈ writableAccounts accounts) (value : Option Account) :
    SameReceipt accounts first second (.quiet (Function.update first key value))
      (.quiet (Function.update second key value)) :=
  ⟨rfl, (Derived.start agree).update written value⟩

section NewDistributor

variable {accounts : NewDistributor}

theorem newDistributor_tryAccounts_congr
    (agree : Agree (listedAccounts (accounts.toAccountMetas programs)) first second)
    (version : U64) :
    accounts.tryAccounts env signers first version =
      accounts.tryAccounts env signers second version := by
  have sameDistributor := agree accounts.distributor (by simp [NewDistributor.toAccountMetas])
  have sameReceiver := agree accounts.clawbackReceiver
    (by simp [NewDistributor.toAccountMetas])
  have sameMint := agree accounts.mint (by simp [NewDistributor.toAccountMetas])
  have sameVault := agree accounts.tokenVault (by simp [NewDistributor.toAccountMetas])
  simp only [NewDistributor.tryAccounts, Bank.loadToken_congr sameReceiver,
    Bank.loadMint_congr sameMint, Bank.loadToken_congr sameVault,
    requireInit_congr env _ sameDistributor]

theorem handleNewDistributor_alike
    (agree : Agree (listedAccounts (accounts.toAccountMetas programs)) first second)
    (bump : UInt8) (args : NewDistributorArgs)
    (maxTotalClaim totalBonus bonusVestingDuration : U64) :
    Alike (SameReceipt (accounts.toAccountMetas programs) first second)
      (handleNewDistributor clock first accounts bump args maxTotalClaim totalBonus
        bonusVestingDuration)
      (handleNewDistributor clock second accounts bump args maxTotalClaim totalBonus
        bonusVestingDuration) := by
  unfold handleNewDistributor
  refine .bind_same fun _ => .bind_same fun _ => .bind_same fun _ => .bind_same fun _ => ?_
  exact .ok (.quiet agree (by simp [NewDistributor.toAccountMetas]) _)

theorem newDistributor_alike
    (agree : Agree (listedAccounts (accounts.toAccountMetas programs)) first second)
    (args : NewDistributorArgs) :
    Alike (SameReceipt (accounts.toAccountMetas programs) first second)
      (newDistributor env clock signers first accounts args)
      (newDistributor env clock signers second accounts args) := by
  rw [newDistributor, newDistributor, newDistributor_tryAccounts_congr agree]
  exact .bind_same fun bump => handleNewDistributor_alike agree bump args _ _ _

theorem newDistributor2_alike
    (agree : Agree (listedAccounts (accounts.toAccountMetas programs)) first second)
    (args : NewDistributorArgs) (totalBonus bonusVestingDuration : U64) :
    Alike (SameReceipt (accounts.toAccountMetas programs) first second)
      (newDistributor2 env clock signers first accounts args totalBonus bonusVestingDuration)
      (newDistributor2 env clock signers second accounts args totalBonus
        bonusVestingDuration) := by
  rw [newDistributor2, newDistributor2, newDistributor_tryAccounts_congr agree]
  refine .bind_same fun bump => .bind_same fun maxTotalClaim => ?_
  exact handleNewDistributor_alike agree bump args _ _ _

end NewDistributor

section Claims

theorem newClaim_alike {accounts : NewClaim}
    (agree : Agree (listedAccounts (accounts.toAccountMetas programs)) first second)
    (amountUnlocked amountLocked : U64) (proof : List Hash) :
    Alike (SameReceipt (accounts.toAccountMetas programs) first second)
      (newClaim env clock signers first accounts amountUnlocked amountLocked proof)
      (newClaim env clock signers second accounts amountUnlocked amountLocked proof) := by
  have sameTry : accounts.tryAccounts env signers first =
      accounts.tryAccounts env signers second := by
    have sameDistributor := agree accounts.distributor (by simp [NewClaim.toAccountMetas])
    have sameStatus := agree accounts.claimStatus (by simp [NewClaim.toAccountMetas])
    have sameFrom := agree accounts.fromAccount (by simp [NewClaim.toAccountMetas])
    have sameTo := agree accounts.toAccount (by simp [NewClaim.toAccountMetas])
    simp only [NewClaim.tryAccounts, Bank.loadDistributor_congr sameDistributor,
      Bank.loadToken_congr sameFrom, Bank.loadToken_congr sameTo,
      requireInit_congr env _ sameStatus]
  rw [newClaim, newClaim, sameTry]
  refine .bind_same fun distributor => ?_
  unfold handleNewClaim
  refine .bind_same fun _ => .bind_same fun activationHandler => .bind_same fun _ =>
    .bind_same fun numNodesClaimed => .bind_same fun _ => .bind_same fun _ =>
    .bind_same fun bonus => .bind_same fun unlockedAmount => ?_
  have fromWritten : accounts.fromAccount ∈
      writableAccounts (accounts.toAccountMetas programs) := by
    simp [NewClaim.toAccountMetas]
  have toWritten : accounts.toAccount ∈
      writableAccounts (accounts.toAccountMetas programs) := by
    simp [NewClaim.toAccountMetas]
  refine .bind (transferSigned_alike agree fromWritten toWritten _ _ _ _ _)
    fun one other derived => ?_
  refine .bind_same fun totalAmountClaimed => .bind_same fun counted => .bind_same fun _ => ?_
  refine .ok ⟨rfl, (derived.update ?_ _).update ?_ _⟩
  · simp [NewClaim.toAccountMetas]
  · simp [NewClaim.toAccountMetas]

theorem claimLocked_alike {accounts : ClaimLocked}
    (agree : Agree (listedAccounts (accounts.toAccountMetas programs)) first second) :
    Alike (SameReceipt (accounts.toAccountMetas programs) first second)
      (claimLocked env clock signers first accounts)
      (claimLocked env clock signers second accounts) := by
  have sameTry : accounts.tryAccounts env signers first =
      accounts.tryAccounts env signers second := by
    have sameDistributor := agree accounts.distributor (by simp [ClaimLocked.toAccountMetas])
    have sameStatus := agree accounts.claimStatus (by simp [ClaimLocked.toAccountMetas])
    have sameFrom := agree accounts.fromAccount (by simp [ClaimLocked.toAccountMetas])
    have sameTo := agree accounts.toAccount (by simp [ClaimLocked.toAccountMetas])
    simp only [ClaimLocked.tryAccounts, Bank.loadDistributor_congr sameDistributor,
      Bank.loadClaimStatus_congr sameStatus, Bank.loadToken_congr sameFrom,
      Bank.loadToken_congr sameTo]
  rw [claimLocked, claimLocked, sameTry]
  refine .bind_same fun loaded => ?_
  rcases loaded with ⟨distributor, claimStatus⟩
  change Alike _ (handleClaimLocked env clock signers first accounts distributor claimStatus)
    (handleClaimLocked env clock signers second accounts distributor claimStatus)
  unfold handleClaimLocked
  have fromWritten : accounts.fromAccount ∈
      writableAccounts (accounts.toAccountMetas programs) := by
    simp [ClaimLocked.toAccountMetas]
  have toWritten : accounts.toAccount ∈
      writableAccounts (accounts.toAccountMetas programs) := by
    simp [ClaimLocked.toAccountMetas]
  refine .bind_same fun _ => .bind_same fun activationHandler => .bind_same fun _ =>
    .bind_same fun amount => .bind_same fun _ => ?_
  refine .bind (transferSigned_alike agree fromWritten toWritten _ _ _ _ _)
    fun one other derived => ?_
  refine .bind_same fun lockedAmountWithdrawn => .bind_same fun _ =>
    .bind_same fun totalAmountClaimed => .bind_same fun _ => ?_
  refine .ok ⟨rfl, (derived.update ?_ _).update ?_ _⟩
  · simp [ClaimLocked.toAccountMetas]
  · simp [ClaimLocked.toAccountMetas]

end Claims

section Sweeps

theorem clawback_alike {accounts : Clawback}
    (agree : Agree (listedAccounts (accounts.toAccountMetas programs)) first second) :
    Alike (SameReceipt (accounts.toAccountMetas programs) first second)
      (clawback env clock signers first accounts)
      (clawback env clock signers second accounts) := by
  have sameTry : accounts.tryAccounts env signers first =
      accounts.tryAccounts env signers second := by
    have sameDistributor := agree accounts.distributor (by simp [Clawback.toAccountMetas])
    have sameFrom := agree accounts.fromAccount (by simp [Clawback.toAccountMetas])
    have sameTo := agree accounts.toAccount (by simp [Clawback.toAccountMetas])
    simp only [Clawback.tryAccounts, Bank.loadDistributor_congr sameDistributor,
      Bank.loadToken_congr sameFrom, Bank.loadToken_congr sameTo]
  rw [clawback, clawback, sameTry]
  refine .bind_same fun loaded => ?_
  rcases loaded with ⟨distributor, fromAccount⟩
  change Alike _ (handleClawback env clock signers first accounts distributor fromAccount)
    (handleClawback env clock signers second accounts distributor fromAccount)
  unfold handleClawback
  have fromWritten : accounts.fromAccount ∈
      writableAccounts (accounts.toAccountMetas programs) := by
    simp [Clawback.toAccountMetas]
  have toWritten : accounts.toAccount ∈
      writableAccounts (accounts.toAccountMetas programs) := by
    simp [Clawback.toAccountMetas]
  refine .bind_same fun _ => .bind_same fun _ => ?_
  refine .bind (transferSigned_alike agree fromWritten toWritten _ _ _ _ _)
    fun one other derived => ?_
  refine .ok ⟨rfl, derived.update ?_ _⟩
  simp [Clawback.toAccountMetas]

theorem closeDistributor_alike {accounts : CloseDistributor}
    (agree : Agree (listedAccounts (accounts.toAccountMetas programs)) first second) :
    Alike (SameReceipt (accounts.toAccountMetas programs) first second)
      (closeDistributor env signers first accounts)
      (closeDistributor env signers second accounts) := by
  have sameTry : accounts.tryAccounts signers first = accounts.tryAccounts signers second := by
    have sameDistributor := agree accounts.distributor
      (by simp [CloseDistributor.toAccountMetas])
    have sameVault := agree accounts.tokenVault (by simp [CloseDistributor.toAccountMetas])
    have sameDestination := agree accounts.destinationTokenAccount
      (by simp [CloseDistributor.toAccountMetas])
    simp only [CloseDistributor.tryAccounts, Bank.loadDistributor_congr sameDistributor,
      Bank.loadToken_congr sameVault, Bank.loadToken_congr sameDestination]
  rw [closeDistributor, closeDistributor, sameTry]
  refine .bind_same fun loaded => ?_
  rcases loaded with ⟨distributor, tokenVault⟩
  change Alike _ (handleCloseDistributor env signers first accounts distributor tokenVault)
    (handleCloseDistributor env signers second accounts distributor tokenVault)
  unfold handleCloseDistributor
  have vaultWritten : accounts.tokenVault ∈
      writableAccounts (accounts.toAccountMetas programs) := by
    simp [CloseDistributor.toAccountMetas]
  have destinationWritten : accounts.destinationTokenAccount ∈
      writableAccounts (accounts.toAccountMetas programs) := by
    simp [CloseDistributor.toAccountMetas]
  refine .bind (transferSigned_alike agree vaultWritten destinationWritten _ _ _ _ _)
    fun one other derived => ?_
  refine .ok ⟨rfl, derived.update ?_ _⟩
  simp [CloseDistributor.toAccountMetas]

theorem closeClaimStatus_alike {accounts : CloseClaimStatus}
    (agree : Agree (listedAccounts accounts.toAccountMetas) first second) :
    Alike (SameReceipt accounts.toAccountMetas first second)
      (closeClaimStatus signers first accounts) (closeClaimStatus signers second accounts) := by
  have sameTry : accounts.tryAccounts signers first = accounts.tryAccounts signers second := by
    have sameStatus := agree accounts.claimStatus (by simp [CloseClaimStatus.toAccountMetas])
    simp only [CloseClaimStatus.tryAccounts, Bank.loadClaimStatus_congr sameStatus]
  rw [closeClaimStatus, closeClaimStatus, sameTry]
  refine .bind_same fun _ => .ok (.quiet agree ?_ _)
  simp [CloseClaimStatus.toAccountMetas]

end Sweeps

section Settings

theorem setActivationPoint_alike {accounts : SetActivationPoint}
    (agree : Agree (listedAccounts accounts.toAccountMetas) first second)
    (activationPoint : U64) :
    Alike (SameReceipt accounts.toAccountMetas first second)
      (setActivationPoint signers first accounts activationPoint)
      (setActivationPoint signers second accounts activationPoint) := by
  have sameDistributor := agree accounts.distributor
    (by simp [SetActivationPoint.toAccountMetas])
  rw [setActivationPoint, setActivationPoint, Bank.loadDistributor_congr sameDistributor]
  refine .bind_same fun distributor => .bind_same fun _ => .bind_same fun _ => ?_
  exact .ok (.quiet agree (by simp [SetActivationPoint.toAccountMetas]) _)

theorem setClawbackReceiver_alike {accounts : SetClawbackReceiver}
    (agree : Agree (listedAccounts accounts.toAccountMetas) first second) :
    Alike (SameReceipt accounts.toAccountMetas first second)
      (setClawbackReceiver signers first accounts)
      (setClawbackReceiver signers second accounts) := by
  have sameDistributor := agree accounts.distributor
    (by simp [SetClawbackReceiver.toAccountMetas])
  have sameReceiver := agree accounts.newClawbackAccount
    (by simp [SetClawbackReceiver.toAccountMetas])
  rw [setClawbackReceiver, setClawbackReceiver, Bank.loadDistributor_congr sameDistributor,
    Bank.loadToken_congr sameReceiver]
  refine .bind_same fun distributor => .bind_same fun _ => .bind_same fun _ =>
    .bind_same fun _ => .bind_same fun _ => .bind_same fun _ => ?_
  exact .ok (.quiet agree (by simp [SetClawbackReceiver.toAccountMetas]) _)

theorem setAdmin_alike {accounts : SetAdmin}
    (agree : Agree (listedAccounts accounts.toAccountMetas) first second) :
    Alike (SameReceipt accounts.toAccountMetas first second)
      (setAdmin signers first accounts) (setAdmin signers second accounts) := by
  have sameDistributor := agree accounts.distributor (by simp [SetAdmin.toAccountMetas])
  rw [setAdmin, setAdmin, Bank.loadDistributor_congr sameDistributor]
  refine .bind_same fun distributor => .bind_same fun _ => .bind_same fun _ =>
    .bind_same fun _ => ?_
  exact .ok (.quiet agree (by simp [SetAdmin.toAccountMetas]) _)

end Settings

/-- In two banks that agree on the listed accounts, a transaction does the same. -/
theorem execute_alike (tx : Transaction env)
    (agree : Agree (listedAccounts (tx.instruction.toAccountMetas programs)) first second) :
    Alike (SameReceipt (tx.instruction.toAccountMetas programs) first second)
      (execute env first tx) (execute env second tx) := by
  unfold execute
  generalize tx.instruction = instruction at agree ⊢
  cases instruction with
  | newDistributor accounts args => exact newDistributor_alike agree args
  | newDistributor2 accounts args totalBonus bonusVestingDuration =>
      exact newDistributor2_alike agree args totalBonus bonusVestingDuration
  | closeDistributor accounts => exact closeDistributor_alike agree
  | closeClaimStatus accounts => exact closeClaimStatus_alike agree
  | setActivationPoint accounts activationPoint =>
      exact setActivationPoint_alike agree activationPoint
  | newClaim accounts amountUnlocked amountLocked proof =>
      exact newClaim_alike agree amountUnlocked amountLocked proof
  | claimLocked accounts => exact claimLocked_alike agree
  | clawback accounts => exact clawback_alike agree
  | setClawbackReceiver accounts => exact setClawbackReceiver_alike agree
  | setAdmin accounts => exact setAdmin_alike agree
  | transfer source destination authority amount =>
      have sourceWritten : source ∈ writableAccounts
          (Instruction.toAccountMetas programs
            (.transfer source destination authority amount)) := by
        simp [Instruction.toAccountMetas]
      have destinationWritten : destination ∈ writableAccounts
          (Instruction.toAccountMetas programs
            (.transfer source destination authority amount)) := by
        simp [Instruction.toAccountMetas]
      refine .bind (tokenTransfer_alike (.start agree)
        (writableAccounts_subset _ sourceWritten) sourceWritten
        (writableAccounts_subset _ destinationWritten) destinationWritten _ _ _)
        fun one other derived => ?_
      exact .ok ⟨rfl, derived⟩

/-- The footprints of the transactions, by the flags of their accounts. -/
def accountFootprints (env : Env) (programs : Programs) :
    Footprints (machine env) Receipt.report where
  reads tx := listedAccounts (tx.instruction.toAccountMetas programs)
  writes tx := writableAccounts (tx.instruction.toAccountMetas programs)
  writes_subset _ := writableAccounts_subset _
  confined tx _ _ agree := execute_alike tx agree

end Confined

/-! ## Results -/

/-- Three addresses of programs. -/
def samplePrograms : Programs :=
  { systemProgram := .replicate 0
    tokenProgram := .replicate 6
    associatedTokenProgram := .replicate 140 }

section Results

variable {env : Env}

/-- In every run an account that no attempt lists as writable is as it was at the start; and
in two states that agree on what a transaction lists, it answers the same and leaves the
same there. -/
theorem accounts_confined (programs : Programs) :
    (∀ {start bank : Bank} {history : History env} {key : Pubkey},
      Reaches env start history bank →
      (∀ entry ∈ history,
        key ∉ writableAccounts (entry.input.instruction.toAccountMetas programs)) →
      bank key = start key) ∧
    ∀ {first second : Bank} (tx : Transaction env),
      (∀ account ∈ tx.instruction.toAccountMetas programs,
        first account.pubkey = second account.pubkey) →
      (execute env first tx).map Receipt.report = (execute env second tx).map Receipt.report ∧
        ∀ account ∈ tx.instruction.toAccountMetas programs,
          ((machine env).attempt first tx).after (machine env) account.pubkey =
            ((machine env).attempt second tx).after (machine env) account.pubkey := by
  refine ⟨fun run => (accountFootprints env programs).unchanged run,
    fun {first second} tx same => ?_⟩
  have agree : Agree ((accountFootprints env programs).reads tx) first second := by
    rintro _ ⟨account, member, rfl⟩
    exact same account member
  refine ⟨(accountFootprints env programs).answer_congr agree, fun account member => ?_⟩
  exact (accountFootprints env programs).leaves_congr agree _ ⟨account, member, rfl⟩

/-- While the distributor is created and Alice claims, Bob's token account is as it was, and
if it were gone, nothing else would be different for her. -/
theorem accounts_confined_sample :
    sampleAfter [createSample sampleTree.merkleRoot true, aliceClaims 56] bobToken =
        sampleBank bobToken ∧
      let created := sampleAfter [createSample sampleTree.merkleRoot true]
      (execute sampleEnv created (aliceClaims 56)).map Receipt.report =
        (execute sampleEnv (created.close bobToken) (aliceClaims 56)).map Receipt.report := by
  have notWritten : ∀ entry ∈ sampleHistory [createSample sampleTree.merkleRoot true,
      aliceClaims 56], ∀ account ∈ entry.input.instruction.toAccountMetas samplePrograms,
      ¬ (account.pubkey = bobToken ∧ account.isWritable = true) := by
    decide +kernel
  refine ⟨(accounts_confined samplePrograms).1 (sample_reaches _) ?_, ?_⟩
  · rintro entry member ⟨account, among, same, isWritable⟩
    exact notWritten entry member account among ⟨same, isWritable⟩
  exact ((accounts_confined samplePrograms).2 (aliceClaims 56) (by decide +kernel)).1

/-- Two transactions are in conflict if they are the same one, or if one of them lists as
writable what the other one lists. -/
def Transaction.Conflicts (programs : Programs) (one two : Transaction env) : Prop :=
  one = two ∨
    ∃ account ∈ one.instruction.toAccountMetas programs,
      ∃ other ∈ two.instruction.toAccountMetas programs,
        account.pubkey = other.pubkey ∧ (account.isWritable || other.isWritable) = true

theorem conflicts_iff {programs : Programs} {one two : Transaction env} :
    (accountFootprints env programs).Conflict one two ↔ one.Conflicts programs two := by
  unfold Footprints.Conflict Transaction.Conflicts
  refine or_congr Iff.rfl ?_
  constructor
  · intro dependent
    by_contra noPair
    refine dependent ⟨?_, ?_⟩
    · rintro _ ⟨account, member, rfl, isWritable⟩ ⟨other, otherMember, same⟩
      exact noPair ⟨account, member, other, otherMember, same.symm, by simp [isWritable]⟩
    · rintro _ ⟨other, otherMember, rfl, isWritable⟩ ⟨account, member, same⟩
      exact noPair ⟨account, member, other, otherMember, same, by simp [isWritable]⟩
  · rintro ⟨account, member, other, otherMember, same, isWritable⟩ independent
    rcases (Bool.or_eq_true _ _).mp isWritable with byOne | byTwo
    · exact independent.1 _ ⟨account, member, rfl, byOne⟩ ⟨other, otherMember, same.symm⟩
    · exact independent.2 _ ⟨other, otherMember, rfl, byTwo⟩ ⟨account, member, same⟩

instance : DecidableEq (Transaction env) := fun one two =>
  decidable_of_iff
    (one.clock = two.clock ∧ one.signers = two.signers ∧ one.instruction = two.instruction) (by
      cases one
      cases two
      simp)

instance (programs : Programs) (one two : Transaction env) :
    Decidable (one.Conflicts programs two) :=
  inferInstanceAs (Decidable (_ ∨ _))

/-- Two schedules of transactions that bring every two in conflict in the same order end with
the same accounts, and every transaction is answered alike. -/
theorem conflictFree_reordering (programs : Programs) (start : Bank)
    {first second : List (Transaction env)}
    (order : SameOrder (Transaction.Conflicts programs) first second) :
    ((machine env).play start first).2 = ((machine env).play start second).2 ∧
      (((machine env).play start first).1.map (reported Receipt.report)).Perm
        (((machine env).play start second).1.map (reported Receipt.report)) := by
  have declared : SameOrder (accountFootprints env programs).Conflict first second :=
    fun one two conflict => order one two (conflicts_iff.mp conflict)
  exact Footprints.play_of_sameOrder declared

/-- While Alice claims, the admin closes Bob's claim status, before or after her. -/
theorem conflictFree_reordering_sample :
    sampleAfter [createSample sampleTree.merkleRoot true, bobClaims 55, aliceClaims 56,
        adminClosesBob 56] =
      sampleAfter [createSample sampleTree.merkleRoot true, bobClaims 55, adminClosesBob 56,
        aliceClaims 56] := by
  have apart : ¬ (aliceClaims 56).Conflicts samplePrograms (adminClosesBob 56) := by
    decide +kernel
  have symmetric : ∀ {one two : Transaction sampleEnv}, one.Conflicts samplePrograms two →
      two.Conflicts samplePrograms one := by
    intro one two conflict
    rw [← conflicts_iff] at conflict ⊢
    exact conflict.symm
  have order := @SameOrder.swap _ _ _
    [createSample sampleTree.merkleRoot true, bobClaims 55] [] _ _ apart symmetric
  exact (conflictFree_reordering samplePrograms sampleBank order).1

end Results

end Airdrop
