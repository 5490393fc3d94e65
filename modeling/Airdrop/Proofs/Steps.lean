/-
Module: Airdrop.Proofs.Steps
Purpose: What a committed transaction can do, said once: to all accounts, to the
  distributor at a given address, and to the claim status at a given address.
Trusted boundary: none
Main exports: Committed, committed, DistributorStep, distributorStep, StatusStep,
  statusStep, tokensMoved
-/
import Airdrop.Proofs.ClaimSpecs
import Airdrop.Proofs.LifecycleSpecs

namespace Airdrop

open Checked

/-- The distributor that an instruction works on. -/
def Instruction.distributorKey : Instruction → Option Pubkey
  | .newDistributor accounts _ => some accounts.distributor
  | .newDistributor2 accounts _ _ _ => some accounts.distributor
  | .closeDistributor accounts => some accounts.distributor
  | .closeClaimStatus _ => none
  | .setActivationPoint accounts _ => some accounts.distributor
  | .newClaim accounts _ _ _ => some accounts.distributor
  | .claimLocked accounts => some accounts.distributor
  | .clawback accounts => some accounts.distributor
  | .setClawbackReceiver accounts => some accounts.distributor
  | .setAdmin accounts => some accounts.distributor
  | .transfer _ _ _ _ => none

/-- The claim status that an instruction works on. -/
def Instruction.statusKey : Instruction → Option Pubkey
  | .closeClaimStatus accounts => some accounts.claimStatus
  | .newClaim accounts _ _ _ => some accounts.claimStatus
  | .claimLocked accounts => some accounts.claimStatus
  | _ => none

/-- `created` is what a creating instruction writes at `key`. -/
inductive Creation (key : Pubkey) (created : MerkleDistributor) :
    Instruction → Prop where
  | plain {accounts : NewDistributor} {args : NewDistributorArgs} {bump : UInt8}
      (here : accounts.distributor = key)
      (written : created =
        createdDistributor accounts args bump args.maxTotalClaim 0 0) :
      Creation key created (.newDistributor accounts args)
  | withBonus {accounts : NewDistributor} {args : NewDistributorArgs}
      {totalBonus bonusVestingDuration : U64} {bump : UInt8} {maxTotalClaim : U64}
      (here : accounts.distributor = key)
      (isMax : maxTotalClaim.toNat = args.maxTotalClaim.toNat + totalBonus.toNat)
      (written : created =
        createdDistributor accounts args bump maxTotalClaim totalBonus
          bonusVestingDuration) :
      Creation key created
        (.newDistributor2 accounts args totalBonus bonusVestingDuration)

/-- `after` is `before` with the one field changed that a setting instruction
changes at `key`. -/
inductive Tuning (key : Pubkey) (before : MerkleDistributor) :
    MerkleDistributor → Instruction → Prop where
  | activationPoint {accounts : SetActivationPoint} {activationPoint : U64}
      (here : accounts.distributor = key) :
      Tuning key before { before with activationPoint }
        (.setActivationPoint accounts activationPoint)
  | clawbackReceiver {accounts : SetClawbackReceiver}
      (here : accounts.distributor = key) :
      Tuning key before
        { before with clawbackReceiver := accounts.newClawbackAccount }
        (.setClawbackReceiver accounts)
  | admin {accounts : SetAdmin} (here : accounts.distributor = key) :
      Tuning key before { before with admin := accounts.newAdmin }
        (.setAdmin accounts)

theorem Creation.distributorKey {key : Pubkey} {created : MerkleDistributor}
    {instruction : Instruction} (creation : Creation key created instruction) :
    instruction.distributorKey = some key := by
  cases creation with
  | plain here written => exact congrArg some here
  | withBonus here isMax written => exact congrArg some here

theorem Creation.statusKey {key : Pubkey} {created : MerkleDistributor}
    {instruction : Instruction} (creation : Creation key created instruction) :
    instruction.statusKey = none := by
  cases creation with
  | plain here written => rfl
  | withBonus here isMax written => rfl

theorem Tuning.distributorKey {key : Pubkey} {before after : MerkleDistributor}
    {instruction : Instruction} (tuning : Tuning key before after instruction) :
    instruction.distributorKey = some key := by
  cases tuning with
  | activationPoint here => exact congrArg some here
  | clawbackReceiver here => exact congrArg some here
  | admin here => exact congrArg some here

theorem Tuning.statusKey {key : Pubkey} {before after : MerkleDistributor}
    {instruction : Instruction} (tuning : Tuning key before after instruction) :
    instruction.statusKey = none := by
  cases tuning with
  | activationPoint here => rfl
  | clawbackReceiver here => rfl
  | admin here => rfl

/-! ## Everything a committed transaction can do -/

/-- A committed transaction, by what it did. -/
inductive Committed (env : Env) (tx : Transaction env) (bank : Bank)
    (receipt : Receipt) : Prop where
  | created {key : Pubkey} {after : MerkleDistributor}
      (creation : Creation key after tx.instruction)
      (effect : CreationEffect env tx.clock bank receipt key after)
  | claimed {accounts : NewClaim} {amountUnlocked amountLocked : U64}
      {proof : List Hash} {distributor : MerkleDistributor} {bonus paid : U64}
      {moved : Bank}
      (instruction : tx.instruction =
        .newClaim accounts amountUnlocked amountLocked proof)
      (checks : NewClaimChecks env tx.clock tx.signers bank accounts amountUnlocked
        amountLocked proof distributor bonus paid moved)
      (effect : ClaimEffect bank receipt accounts.distributor accounts.claimStatus
        accounts.toAccount accounts.claimant distributor
        (distributor.counted 1 paid bonus)
        (newClaimStatus accounts distributor amountLocked paid) 1 paid.toNat
        bonus.toNat)
  | withdrawn {accounts : ClaimLocked} {distributor : MerkleDistributor}
      {status : ClaimStatus} {amount : U64} {moved : Bank}
      (instruction : tx.instruction = .claimLocked accounts)
      (checks : ClaimLockedChecks env tx.clock tx.signers bank accounts distributor
        status amount moved)
      (effect : ClaimEffect bank receipt accounts.distributor accounts.claimStatus
        accounts.toAccount accounts.claimant distributor
        (distributor.counted 0 amount 0) (status.withdrawn amount) 0 amount.toNat 0)
  | clawedBack {accounts : Clawback} {distributor : MerkleDistributor}
      {vault : TokenAccount} {moved : Bank}
      (instruction : tx.instruction = .clawback accounts)
      (checks : ClawbackChecks env tx.clock tx.signers bank accounts distributor
        vault moved)
      (effect : SweepEffect bank receipt accounts.distributor
        distributor.clawbackReceiver distributor vault
        (some { distributor with clawedBack := true }))
  | closed {accounts : CloseDistributor} {distributor : MerkleDistributor}
      {vault : TokenAccount} {moved : Bank}
      (instruction : tx.instruction = .closeDistributor accounts)
      (checks : CloseDistributorChecks env tx.signers bank accounts distributor
        vault moved)
      (effect : SweepEffect bank receipt accounts.distributor
        accounts.destinationTokenAccount distributor vault none)
  | statusClosed {accounts : CloseClaimStatus} {status : ClaimStatus}
      (instruction : tx.instruction = .closeClaimStatus accounts)
      (checks : CloseClaimStatusChecks tx.signers bank accounts status)
      (noTransfer : receipt.transfers = [])
      (distributors : receipt.bank.distributor? = bank.distributor?)
      (statuses : receipt.bank.claimStatus? =
        Function.update bank.claimStatus? accounts.claimStatus none)
      (tokens : receipt.bank.token? = bank.token?)
  | tuned {key : Pubkey} {before after : MerkleDistributor}
      (tuning : Tuning key before after tx.instruction)
      (effect : TuningEffect tx.signers bank receipt key before after)
  | transferred {source destination authority : Pubkey} {amount : U64}
      (instruction : tx.instruction =
        .transfer source destination authority amount)
      (signed : authority ∈ tx.signers)
      (effect : TransferEffect bank receipt.bank source destination authority amount)
      (transfers : receipt.transfers = [⟨source, destination, amount⟩])

theorem committed {env : Env} {tx : Transaction env} {bank : Bank}
    {receipt : Receipt} (accepted : execute env bank tx = .ok receipt) :
    Committed env tx bank receipt := by
  cases instruction : tx.instruction with
  | newDistributor accounts args =>
      simp only [execute, instruction] at accepted
      obtain ⟨bump, checks, rfl⟩ := newDistributor_eq_ok.mp accepted
      exact .created (by rw [instruction]; exact .plain rfl rfl)
        (creation_effect checks 0 (Nat.zero_le _))
  | newDistributor2 accounts args totalBonus bonusVestingDuration =>
      simp only [execute, instruction] at accepted
      obtain ⟨bump, maxTotalClaim, checks, isMax, rfl⟩ :=
        newDistributor2_eq_ok.mp accepted
      exact .created (by rw [instruction]; exact .withBonus rfl isMax rfl)
        (creation_effect checks bonusVestingDuration (by omega))
  | closeDistributor accounts =>
      simp only [execute, instruction] at accepted
      obtain ⟨distributor, vault, moved, checks, rfl⟩ :=
        closeDistributor_eq_ok.mp accepted
      exact .closed instruction checks (closeDistributor_effect checks)
  | closeClaimStatus accounts =>
      simp only [execute, instruction] at accepted
      obtain ⟨⟨status, checks⟩, rfl⟩ := closeClaimStatus_eq_ok.mp accepted
      obtain ⟨distributors, statuses, tokens⟩ :=
        closeClaimStatus_views checks.isClaimStatus
      exact .statusClosed instruction checks rfl distributors statuses tokens
  | setActivationPoint accounts activationPoint =>
      simp only [execute, instruction] at accepted
      obtain ⟨distributor, isDistributor, signed, isAdmin, rfl⟩ :=
        setActivationPoint_eq_ok.mp accepted
      exact .tuned (by rw [instruction]; exact .activationPoint rfl)
        (tuning_effect isDistributor (isAdmin ▸ signed) rfl)
  | newClaim accounts amountUnlocked amountLocked proof =>
      simp only [execute, instruction] at accepted
      obtain ⟨distributor, bonus, paid, moved, checks, rfl⟩ :=
        newClaim_eq_ok.mp accepted
      exact .claimed instruction checks (newClaim_effect checks)
  | claimLocked accounts =>
      simp only [execute, instruction] at accepted
      obtain ⟨distributor, status, amount, moved, checks, rfl⟩ :=
        claimLocked_eq_ok.mp accepted
      exact .withdrawn instruction checks (claimLocked_effect checks)
  | clawback accounts =>
      simp only [execute, instruction] at accepted
      obtain ⟨distributor, vault, moved, checks, rfl⟩ := clawback_eq_ok.mp accepted
      exact .clawedBack instruction checks (clawback_effect checks)
  | setClawbackReceiver accounts =>
      simp only [execute, instruction] at accepted
      obtain ⟨distributor, account, isDistributor, isAccount, signed, sameMint,
        isAdmin, different, rfl⟩ := setClawbackReceiver_eq_ok.mp accepted
      exact .tuned (by rw [instruction]; exact .clawbackReceiver rfl)
        (tuning_effect isDistributor (isAdmin ▸ signed) rfl)
  | setAdmin accounts =>
      simp only [execute, instruction] at accepted
      obtain ⟨distributor, isDistributor, signed, isAdmin, different, rfl⟩ :=
        setAdmin_eq_ok.mp accepted
      exact .tuned (by rw [instruction]; exact .admin rfl)
        (tuning_effect isDistributor (isAdmin ▸ signed) rfl)
  | transfer source destination authority amount =>
      simp only [execute, instruction, bind_eq_ok, pure_eq, Except.ok.injEq]
        at accepted
      obtain ⟨after, done, rfl⟩ := accepted
      obtain ⟨effect, signed⟩ := tokenTransfer_effect done
      exact .transferred instruction signed effect rfl

/-- Tokens move only by the transfers on the receipt. -/
theorem tokensMoved {env : Env} {tx : Transaction env} {bank : Bank}
    {receipt : Receipt} (accepted : execute env bank tx = .ok receipt) :
    TokensMoved bank receipt.bank receipt.transfers := by
  cases committed accepted with
  | created creation effect =>
      rw [effect.noTransfer]
      exact (TokensMoved.refl bank).trans_token? effect.tokens
  | claimed instruction checks effect => exact effect.tokens
  | withdrawn instruction checks effect => exact effect.tokens
  | clawedBack instruction checks effect => exact effect.tokens
  | closed instruction checks effect => exact effect.tokens
  | statusClosed instruction checks noTransfer distributors statuses tokens =>
      rw [noTransfer]
      exact (TokensMoved.refl bank).trans_token? tokens
  | tuned tuning effect =>
      rw [effect.noTransfer]
      exact (TokensMoved.refl bank).trans_token? effect.tokens
  | transferred instruction signed effect transfers =>
      rw [transfers]
      exact effect.tokens

/-! ## The distributor at one address -/

/-- What a committed transaction can do to the distributor at `key`. -/
inductive DistributorStep (env : Env) (tx : Transaction env) (bank : Bank)
    (receipt : Receipt) (key : Pubkey) : Prop where
  | other (elsewhere : tx.instruction.distributorKey ≠ some key)
      (same : receipt.bank.distributor? key = bank.distributor? key)
      (notPaid : ∀ transfer ∈ receipt.transfers, ∀ account,
        bank transfer.source = some (.token account) → account.owner = key →
          key ∈ tx.signers)
  | created {after : MerkleDistributor}
      (creation : Creation key after tx.instruction)
      (effect : CreationEffect env tx.clock bank receipt key after)
  | claimed {accounts : NewClaim} {amountUnlocked amountLocked : U64}
      {proof : List Hash} {distributor : MerkleDistributor} {bonus paid : U64}
      {moved : Bank}
      (instruction : tx.instruction =
        .newClaim accounts amountUnlocked amountLocked proof)
      (here : accounts.distributor = key)
      (checks : NewClaimChecks env tx.clock tx.signers bank accounts amountUnlocked
        amountLocked proof distributor bonus paid moved)
      (effect : ClaimEffect bank receipt key accounts.claimStatus accounts.toAccount
        accounts.claimant distributor (distributor.counted 1 paid bonus)
        (newClaimStatus accounts distributor amountLocked paid) 1 paid.toNat
        bonus.toNat)
  | withdrawn {accounts : ClaimLocked} {distributor : MerkleDistributor}
      {status : ClaimStatus} {amount : U64} {moved : Bank}
      (instruction : tx.instruction = .claimLocked accounts)
      (here : accounts.distributor = key)
      (checks : ClaimLockedChecks env tx.clock tx.signers bank accounts distributor
        status amount moved)
      (effect : ClaimEffect bank receipt key accounts.claimStatus accounts.toAccount
        accounts.claimant distributor (distributor.counted 0 amount 0)
        (status.withdrawn amount) 0 amount.toNat 0)
  | clawedBack {accounts : Clawback} {distributor : MerkleDistributor}
      {vault : TokenAccount} {moved : Bank}
      (instruction : tx.instruction = .clawback accounts)
      (here : accounts.distributor = key)
      (checks : ClawbackChecks env tx.clock tx.signers bank accounts distributor
        vault moved)
      (effect : SweepEffect bank receipt key distributor.clawbackReceiver distributor
        vault (some { distributor with clawedBack := true }))
  | closed {accounts : CloseDistributor} {distributor : MerkleDistributor}
      {vault : TokenAccount} {moved : Bank}
      (instruction : tx.instruction = .closeDistributor accounts)
      (here : accounts.distributor = key)
      (checks : CloseDistributorChecks env tx.signers bank accounts distributor
        vault moved)
      (effect : SweepEffect bank receipt key accounts.destinationTokenAccount
        distributor vault none)
  | tuned {before after : MerkleDistributor}
      (tuning : Tuning key before after tx.instruction)
      (effect : TuningEffect tx.signers bank receipt key before after)

/-- A receipt with a single transfer pays out of the accounts of one owner. -/
theorem owner_of_single {bank : Bank} {transfers : List Transfer}
    {source destination owner : Pubkey} {amount : U64} {payer : TokenAccount}
    (single : transfers = [⟨source, destination, amount⟩])
    (isPayer : bank source = some (.token payer)) (owned : payer.owner = owner) :
    ∀ transfer ∈ transfers, ∀ account,
      bank transfer.source = some (.token account) → account.owner = owner := by
  intro transfer member account isAccount
  rw [single, List.mem_singleton] at member
  subst member
  rw [isPayer, Option.some.injEq, Account.token.injEq] at isAccount
  exact isAccount ▸ owned

/-- A claim pays out of the accounts of its distributor. -/
theorem ClaimEffect.owner_of_transfer {bank : Bank} {receipt : Receipt}
    {distributorKey statusKey toAccount claimant : Pubkey}
    {before after : MerkleDistributor} {status : ClaimStatus} {nodes paid bonus : Nat}
    (effect : ClaimEffect bank receipt distributorKey statusKey toAccount claimant
      before after status nodes paid bonus) :
    ∀ transfer ∈ receipt.transfers, ∀ account,
      bank transfer.source = some (.token account) →
        account.owner = distributorKey := by
  obtain ⟨amount, _, transfers⟩ := effect.transfers
  obtain ⟨vault, isVault, vaultOwner, _⟩ := effect.vault
  exact owner_of_single transfers isVault vaultOwner

/-- A sweep pays out of the accounts of its distributor. -/
theorem SweepEffect.owner_of_transfer {bank : Bank} {receipt : Receipt}
    {distributorKey destination : Pubkey} {distributor : MerkleDistributor}
    {vault : TokenAccount} {after : Option MerkleDistributor}
    (effect : SweepEffect bank receipt distributorKey destination distributor vault
      after) :
    ∀ transfer ∈ receipt.transfers, ∀ account,
      bank transfer.source = some (.token account) →
        account.owner = distributorKey :=
  owner_of_single effect.transfers effect.isVault effect.vaultOwner

/-- A transaction on one distributor leaves every other one alone, and takes
nothing out of its vault. -/
theorem DistributorStep.elsewhere {env : Env} {tx : Transaction env} {bank : Bank}
    {receipt : Receipt} {other key : Pubkey} {written : Option MerkleDistributor}
    (apart : other ≠ key) (works : tx.instruction.distributorKey = some other)
    (writes : receipt.bank.distributor? =
      Function.update bank.distributor? other written)
    (payer : ∀ transfer ∈ receipt.transfers, ∀ account,
      bank transfer.source = some (.token account) → account.owner = other) :
    DistributorStep env tx bank receipt key := by
  apply DistributorStep.other
  · rw [works]
    simpa using apart
  · rw [writes, Function.update_of_ne apart.symm]
  · intro transfer member account isAccount owner
    exact absurd ((payer transfer member account isAccount).symm.trans owner) apart

theorem distributorStep {env : Env} {tx : Transaction env} {bank : Bank}
    {receipt : Receipt} (accepted : execute env bank tx = .ok receipt)
    (key : Pubkey) : DistributorStep env tx bank receipt key := by
  cases committed accepted with
  | @created other after creation effect =>
      by_cases here : other = key
      · subst here
        exact .created creation effect
      · exact .elsewhere here creation.distributorKey effect.distributors
          (by simp [effect.noTransfer])
  | @claimed accounts amountUnlocked amountLocked proof distributor bonus paid moved
      instruction checks effect =>
      by_cases here : accounts.distributor = key
      · exact .claimed instruction here checks (here ▸ effect)
      · exact .elsewhere here (by rw [instruction]; rfl) effect.distributors
          effect.owner_of_transfer
  | @withdrawn accounts distributor status amount moved instruction checks effect =>
      by_cases here : accounts.distributor = key
      · exact .withdrawn instruction here checks (here ▸ effect)
      · exact .elsewhere here (by rw [instruction]; rfl) effect.distributors
          effect.owner_of_transfer
  | @clawedBack accounts distributor vault moved instruction checks effect =>
      by_cases here : accounts.distributor = key
      · exact .clawedBack instruction here checks (here ▸ effect)
      · exact .elsewhere here (by rw [instruction]; rfl) effect.distributors
          effect.owner_of_transfer
  | @closed accounts distributor vault moved instruction checks effect =>
      by_cases here : accounts.distributor = key
      · exact .closed instruction here checks (here ▸ effect)
      · exact .elsewhere here (by rw [instruction]; rfl) effect.distributors
          effect.owner_of_transfer
  | statusClosed instruction checks noTransfer distributors statuses tokens =>
      exact .other (by rw [instruction]; simp [Instruction.distributorKey])
        (congrFun distributors key) (by simp [noTransfer])
  | @tuned other before after tuning effect =>
      by_cases here : other = key
      · subst here
        exact .tuned tuning effect
      · exact .elsewhere here tuning.distributorKey effect.distributors
          (by simp [effect.noTransfer])
  | transferred instruction signed effect transfers =>
      obtain ⟨payer, isPayer, owned, _⟩ := effect.payer
      refine .other (by rw [instruction]; simp [Instruction.distributorKey])
        (congrFun effect.distributors key) ?_
      intro transfer member account isAccount owner
      have sameOwner := owner_of_single transfers isPayer owned transfer member account
        isAccount
      rw [← owner, sameOwner]
      exact signed

/-! ## The claim status at one address -/

/-- What a committed transaction can do to the claim status at `key`. -/
inductive StatusStep (env : Env) (tx : Transaction env) (bank : Bank)
    (receipt : Receipt) (key : Pubkey) : Prop where
  | other (same : receipt.bank.claimStatus? key = bank.claimStatus? key)
      (notClaimed : ∀ accounts amountUnlocked amountLocked proof,
        tx.instruction = .newClaim accounts amountUnlocked amountLocked proof →
          accounts.claimStatus ≠ key)
      (notWithdrawn : ∀ accounts,
        tx.instruction = .claimLocked accounts → accounts.claimStatus ≠ key)
      (notClosed : ∀ accounts,
        tx.instruction = .closeClaimStatus accounts → accounts.claimStatus ≠ key)
  | opened {accounts : NewClaim} {amountUnlocked amountLocked : U64}
      {proof : List Hash} {distributor : MerkleDistributor} {bonus paid : U64}
      {moved : Bank}
      (instruction : tx.instruction =
        .newClaim accounts amountUnlocked amountLocked proof)
      (here : accounts.claimStatus = key)
      (checks : NewClaimChecks env tx.clock tx.signers bank accounts amountUnlocked
        amountLocked proof distributor bonus paid moved)
      (effect : ClaimEffect bank receipt accounts.distributor key accounts.toAccount
        accounts.claimant distributor (distributor.counted 1 paid bonus)
        (newClaimStatus accounts distributor amountLocked paid) 1 paid.toNat
        bonus.toNat)
  | withdrawn {accounts : ClaimLocked} {distributor : MerkleDistributor}
      {status : ClaimStatus} {amount : U64} {moved : Bank}
      (instruction : tx.instruction = .claimLocked accounts)
      (here : accounts.claimStatus = key)
      (checks : ClaimLockedChecks env tx.clock tx.signers bank accounts distributor
        status amount moved)
      (effect : ClaimEffect bank receipt accounts.distributor key accounts.toAccount
        accounts.claimant distributor (distributor.counted 0 amount 0)
        (status.withdrawn amount) 0 amount.toNat 0)
  | closed {accounts : CloseClaimStatus} {status : ClaimStatus}
      (instruction : tx.instruction = .closeClaimStatus accounts)
      (here : accounts.claimStatus = key)
      (checks : CloseClaimStatusChecks tx.signers bank accounts status)
      (removed : receipt.bank.claimStatus? key = none)

/-- A transaction that works on no claim status, or on another one, leaves the one
at `key` alone. -/
theorem StatusStep.elsewhere {env : Env} {tx : Transaction env} {bank : Bank}
    {receipt : Receipt} {key : Pubkey}
    (same : receipt.bank.claimStatus? key = bank.claimStatus? key)
    (works : tx.instruction.statusKey ≠ some key) :
    StatusStep env tx bank receipt key := by
  apply StatusStep.other same
  · intro accounts amountUnlocked amountLocked proof instruction here
    rw [instruction] at works
    exact works (congrArg some here)
  · intro accounts instruction here
    rw [instruction] at works
    exact works (congrArg some here)
  · intro accounts instruction here
    rw [instruction] at works
    exact works (congrArg some here)

theorem statusStep {env : Env} {tx : Transaction env} {bank : Bank}
    {receipt : Receipt} (accepted : execute env bank tx = .ok receipt)
    (key : Pubkey) : StatusStep env tx bank receipt key := by
  cases committed accepted with
  | created creation effect =>
      exact .elsewhere (congrFun effect.statuses key) (by simp [creation.statusKey])
  | @claimed accounts amountUnlocked amountLocked proof distributor bonus paid moved
      instruction checks effect =>
      by_cases here : accounts.claimStatus = key
      · exact .opened instruction here checks (here ▸ effect)
      · apply StatusStep.elsewhere
        · rw [effect.statuses, Function.update_of_ne (Ne.symm here)]
        · simpa [instruction, Instruction.statusKey] using here
  | @withdrawn accounts distributor status amount moved instruction checks effect =>
      by_cases here : accounts.claimStatus = key
      · exact .withdrawn instruction here checks (here ▸ effect)
      · apply StatusStep.elsewhere
        · rw [effect.statuses, Function.update_of_ne (Ne.symm here)]
        · simpa [instruction, Instruction.statusKey] using here
  | clawedBack instruction checks effect =>
      exact .elsewhere (congrFun effect.statuses key)
        (by simp [instruction, Instruction.statusKey])
  | closed instruction checks effect =>
      exact .elsewhere (congrFun effect.statuses key)
        (by simp [instruction, Instruction.statusKey])
  | @statusClosed accounts status instruction checks noTransfer distributors statuses
      tokens =>
      by_cases here : accounts.claimStatus = key
      · refine .closed instruction here checks ?_
        rw [statuses, here, Function.update_self]
      · apply StatusStep.elsewhere
        · rw [statuses, Function.update_of_ne (Ne.symm here)]
        · simpa [instruction, Instruction.statusKey] using here
  | tuned tuning effect =>
      exact .elsewhere (congrFun effect.statuses key) (by simp [tuning.statusKey])
  | transferred instruction signed effect transfers =>
      exact .elsewhere (congrFun effect.statuses key)
        (by simp [instruction, Instruction.statusKey])

end Airdrop
