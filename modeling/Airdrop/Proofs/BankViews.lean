/-
Module: Airdrop.Proofs.BankViews
Purpose: The accounts of one kind as a map of their own, what a write changes in
  each of these maps, and what a token transfer does and conserves.
Trusted boundary: none
Main exports: Bank.distributor?, Bank.claimStatus?, Bank.token?, outflow, inflow,
  TokensMoved, tokenTransfer_eq_ok, TransferEffect, transferSigned_effect,
  TransferClear, transferSigned_accepted_iff
-/
import Airdrop.Program.Machine

namespace Airdrop

open Checked

namespace Bank

/-! ## One map for each kind -/

/-- The distributors by address. -/
def distributor? (bank : Bank) (key : Pubkey) : Option MerkleDistributor :=
  match bank key with
  | some (.distributor data) => some data
  | _ => none

/-- The claim statuses by address. -/
def claimStatus? (bank : Bank) (key : Pubkey) : Option ClaimStatus :=
  match bank key with
  | some (.claimStatus data) => some data
  | _ => none

/-- The token accounts by address. -/
def token? (bank : Bank) (key : Pubkey) : Option TokenAccount :=
  match bank key with
  | some (.token data) => some data
  | _ => none

variable {bank : Bank} {key : Pubkey}

@[simp] theorem distributor?_eq_some {data : MerkleDistributor} :
    bank.distributor? key = some data ↔ bank key = some (.distributor data) := by
  unfold distributor?
  split <;> simp_all

@[simp] theorem claimStatus?_eq_some {data : ClaimStatus} :
    bank.claimStatus? key = some data ↔ bank key = some (.claimStatus data) := by
  unfold claimStatus?
  split <;> simp_all

@[simp] theorem token?_eq_some {data : TokenAccount} :
    bank.token? key = some data ↔ bank key = some (.token data) := by
  unfold token?
  split <;> simp_all

/-- An address holds one distributor at most. -/
theorem distributor_unique {first second : MerkleDistributor}
    (one : bank key = some (.distributor first))
    (two : bank key = some (.distributor second)) : first = second := by
  rw [one, Option.some.injEq, Account.distributor.injEq] at two
  exact two

/-- An address holds one token account at most. -/
theorem token_unique {first second : TokenAccount}
    (one : bank key = some (.token first)) (two : bank key = some (.token second)) :
    first = second := by
  rw [one, Option.some.injEq, Account.token.injEq] at two
  exact two

/-- A distributor that was written is there. -/
theorem distributor_of_update {before after : Bank} {data : MerkleDistributor}
    (written : after.distributor? =
      Function.update before.distributor? key (some data)) :
    after key = some (.distributor data) := by
  rw [← distributor?_eq_some, written, Function.update_self]

/-- A distributor found where one was written is that one. -/
theorem eq_of_update {before after : Bank} {data other : MerkleDistributor}
    (found : after key = some (.distributor other))
    (written : after.distributor? =
      Function.update before.distributor? key (some data)) : other = data :=
  distributor_unique found (distributor_of_update written)

section Writes

variable (bank key)

@[simp] theorem distributor?_set_distributor (data : MerkleDistributor) :
    (bank.set key (.distributor data)).distributor? =
      Function.update bank.distributor? key (some data) := by
  funext other
  by_cases same : other = key
  · simp [distributor?, set, same]
  · simp [distributor?, set, same]

@[simp] theorem claimStatus?_set_claimStatus (data : ClaimStatus) :
    (bank.set key (.claimStatus data)).claimStatus? =
      Function.update bank.claimStatus? key (some data) := by
  funext other
  by_cases same : other = key
  · simp [claimStatus?, set, same]
  · simp [claimStatus?, set, same]

@[simp] theorem token?_set_token (data : TokenAccount) :
    (bank.set key (.token data)).token? =
      Function.update bank.token? key (some data) := by
  funext other
  by_cases same : other = key
  · simp [token?, set, same]
  · simp [token?, set, same]

@[simp] theorem distributor?_close :
    (bank.close key).distributor? = Function.update bank.distributor? key none := by
  funext other
  by_cases same : other = key
  · simp [distributor?, close, same]
  · simp [distributor?, close, same]

@[simp] theorem claimStatus?_close :
    (bank.close key).claimStatus? = Function.update bank.claimStatus? key none := by
  funext other
  by_cases same : other = key
  · simp [claimStatus?, close, same]
  · simp [claimStatus?, close, same]

variable {key}

/-- What was not a distributor and does not become one is none. -/
theorem distributor?_update {value : Option Account}
    (before : bank.distributor? key = none)
    (after : ∀ data, value ≠ some (.distributor data)) :
    distributor? (Function.update bank key value) = bank.distributor? := by
  funext other
  by_cases same : other = key
  · rw [same, before]
    simp only [distributor?, Function.update_self]
  · simp [distributor?, same]

theorem claimStatus?_update {value : Option Account}
    (before : bank.claimStatus? key = none)
    (after : ∀ data, value ≠ some (.claimStatus data)) :
    claimStatus? (Function.update bank key value) = bank.claimStatus? := by
  funext other
  by_cases same : other = key
  · rw [same, before]
    simp only [claimStatus?, Function.update_self]
  · simp [claimStatus?, same]

theorem token?_update {value : Option Account}
    (before : bank.token? key = none)
    (after : ∀ data, value ≠ some (.token data)) :
    token? (Function.update bank key value) = bank.token? := by
  funext other
  by_cases same : other = key
  · rw [same, before]
    simp only [token?, Function.update_self]
  · simp [token?, same]

end Writes

end Bank

/-! ## What transfers move -/

/-- What leaves an account by the listed transfers.  A transfer to itself moves
nothing. -/
def outflow (key : Pubkey) (transfers : List Transfer) : Nat :=
  (transfers.map fun transfer =>
    if transfer.source = key ∧ transfer.destination ≠ key then
      transfer.amount.toNat
    else 0).sum

/-- What reaches an account by the listed transfers. -/
def inflow (key : Pubkey) (transfers : List Transfer) : Nat :=
  (transfers.map fun transfer =>
    if transfer.destination = key ∧ transfer.source ≠ key then
      transfer.amount.toNat
    else 0).sum

@[simp] theorem outflow_nil (key : Pubkey) : outflow key [] = 0 := rfl

@[simp] theorem inflow_nil (key : Pubkey) : inflow key [] = 0 := rfl

@[simp] theorem outflow_singleton (key : Pubkey) (transfer : Transfer) :
    outflow key [transfer] =
      if transfer.source = key ∧ transfer.destination ≠ key then
        transfer.amount.toNat
      else 0 := by
  simp [outflow]

@[simp] theorem inflow_singleton (key : Pubkey) (transfer : Transfer) :
    inflow key [transfer] =
      if transfer.destination = key ∧ transfer.source ≠ key then
        transfer.amount.toNat
      else 0 := by
  simp [inflow]

/-- Token accounts neither appear nor disappear, keep their mint and their
owner, and their balances change by exactly the listed transfers, each of which
is between two accounts of one mint. -/
structure TokensMoved (before after : Bank) (transfers : List Transfer) : Prop where
  kept : ∀ {key account}, before key = some (.token account) →
    ∃ balance : U64, after key = some (.token { account with amount := balance }) ∧
      balance.toNat + outflow key transfers =
        account.amount.toNat + inflow key transfers
  only : ∀ {key account}, after key = some (.token account) →
    ∃ earlier, before key = some (.token earlier)
  sameMint : ∀ transfer ∈ transfers, ∃ source destination,
    before transfer.source = some (.token source) ∧
      before transfer.destination = some (.token destination) ∧
      source.mint = destination.mint

/-- Writes to accounts of other kinds move no tokens. -/
theorem TokensMoved.trans_token? {before middle after : Bank}
    {transfers : List Transfer} (moved : TokensMoved before middle transfers)
    (same : after.token? = middle.token?) :
    TokensMoved before after transfers where
  kept := by
    intro key account present
    obtain ⟨balance, reached, value⟩ := moved.kept present
    refine ⟨balance, ?_, value⟩
    rw [← Bank.token?_eq_some, same, Bank.token?_eq_some, reached]
  only := by
    intro key account present
    rw [← Bank.token?_eq_some, same, Bank.token?_eq_some] at present
    exact moved.only present
  sameMint := moved.sameMint

/-- Where nothing flows, the account is as it was. -/
theorem TokensMoved.token?_eq {before after : Bank} {transfers : List Transfer} {key : Pubkey}
    (moved : TokensMoved before after transfers) (noOutflow : outflow key transfers = 0)
    (noInflow : inflow key transfers = 0) : after.token? key = before.token? key := by
  cases present : before.token? key with
  | none =>
      cases reached : after.token? key with
      | none => rfl
      | some account =>
          obtain ⟨earlier, isEarlier⟩ := moved.only (Bank.token?_eq_some.mp reached)
          rw [Bank.token?_eq_some.mpr isEarlier] at present
          cases present
  | some account =>
      obtain ⟨balance, reached, value⟩ := moved.kept (Bank.token?_eq_some.mp present)
      have same : balance = account.amount := BitVec.eq_of_toNat_eq (by omega)
      rw [Bank.token?_eq_some.mpr reached, same]

theorem TokensMoved.refl (bank : Bank) : TokensMoved bank bank [] where
  kept := fun {_ account} present => ⟨account.amount, present, rfl⟩
  only := fun {_ account} present => ⟨account, present⟩
  sameMint := by simp

/-! ## Transfers -/

/-- The accounts after a transfer between two given token accounts. -/
def Bank.moved (bank : Bank) (source destination : Pubkey)
    (sourceAccount destinationAccount : TokenAccount) (amount : U64) : Bank :=
  if source = destination then
    bank
  else
    (bank.set source
      (.token { sourceAccount with amount := sourceAccount.amount - amount })).set
      destination
      (.token { destinationAccount with
        amount := destinationAccount.amount + amount })

section Moved

variable {bank : Bank} {source destination : Pubkey}
variable {sourceAccount destinationAccount : TokenAccount} {amount : U64}

theorem Bank.moved_distributor?
    (sourceIs : bank source = some (.token sourceAccount))
    (destinationIs : bank destination = some (.token destinationAccount)) :
    (bank.moved source destination sourceAccount destinationAccount
      amount).distributor? = bank.distributor? := by
  unfold Bank.moved
  split
  · rfl
  · rename_i apart
    rw [Bank.set, Bank.distributor?_update, Bank.set, Bank.distributor?_update]
    · simp [Bank.distributor?, sourceIs]
    · simp
    · rw [Bank.set, Bank.distributor?, Function.update_of_ne (Ne.symm apart),
        destinationIs]
    · simp

theorem Bank.moved_claimStatus?
    (sourceIs : bank source = some (.token sourceAccount))
    (destinationIs : bank destination = some (.token destinationAccount)) :
    (bank.moved source destination sourceAccount destinationAccount
      amount).claimStatus? = bank.claimStatus? := by
  unfold Bank.moved
  split
  · rfl
  · rename_i apart
    rw [Bank.set, Bank.claimStatus?_update, Bank.set, Bank.claimStatus?_update]
    · simp [Bank.claimStatus?, sourceIs]
    · simp
    · rw [Bank.set, Bank.claimStatus?, Function.update_of_ne (Ne.symm apart),
        destinationIs]
    · simp

/-- A transfer moves exactly its amount, and nothing when source and destination
are one account. -/
theorem Bank.moved_tokens (sourceIs : bank source = some (.token sourceAccount))
    (destinationIs : bank destination = some (.token destinationAccount))
    (funded : amount.toNat ≤ sourceAccount.amount.toNat)
    (sameMint : sourceAccount.mint = destinationAccount.mint)
    (fits : source ≠ destination →
      destinationAccount.amount.toNat + amount.toNat < 2 ^ 64) :
    TokensMoved bank
      (bank.moved source destination sourceAccount destinationAccount amount)
      [⟨source, destination, amount⟩] := by
  have between : ∀ transfer ∈ ([⟨source, destination, amount⟩] : List Transfer),
      ∃ source destination, bank transfer.source = some (.token source) ∧
        bank transfer.destination = some (.token destination) ∧
        source.mint = destination.mint := by
    intro transfer member
    obtain rfl := List.mem_singleton.mp member
    exact ⟨sourceAccount, destinationAccount, sourceIs, destinationIs, sameMint⟩
  unfold Bank.moved
  by_cases apart : source = destination
  · subst apart
    rw [if_pos rfl]
    refine ⟨?_, ?_, between⟩
    · intro key account present
      exact ⟨account.amount, present, by simp⟩
    · intro key account present
      exact ⟨account, present⟩
  · rw [if_neg apart]
    refine ⟨?_, ?_, between⟩
    · intro key account present
      by_cases atDestination : key = destination
      · subst atDestination
        rw [destinationIs, Option.some.injEq, Account.token.injEq] at present
        subst present
        refine ⟨destinationAccount.amount + amount, by simp [Bank.set], ?_⟩
        rw [BitVec.toNat_add_of_lt (fits apart)]
        simp [apart]
      · by_cases atSource : key = source
        · subst atSource
          rw [sourceIs, Option.some.injEq, Account.token.injEq] at present
          subst present
          refine ⟨sourceAccount.amount - amount,
            by simp [Bank.set, apart], ?_⟩
          rw [BitVec.toNat_sub_of_le funded]
          simp [Ne.symm apart]
          omega
        · refine ⟨account.amount,
            by simp [Bank.set, atDestination, atSource, present], ?_⟩
          simp [Ne.symm atDestination, Ne.symm atSource]
    · intro key account present
      by_cases atDestination : key = destination
      · exact ⟨destinationAccount, by rw [atDestination, destinationIs]⟩
      · by_cases atSource : key = source
        · exact ⟨sourceAccount, by rw [atSource, sourceIs]⟩
        · exact ⟨account, by
            simpa [Bank.set, atDestination, atSource] using present⟩

end Moved

/-- When a token transfer succeeds, and with what accounts. -/
theorem tokenTransfer_eq_ok {bank after : Bank} {signers : List Pubkey}
    {source destination authority : Pubkey} {amount : U64} :
    tokenTransfer bank signers source destination authority amount = .ok after ↔
      ∃ sourceAccount destinationAccount,
        bank source = some (.token sourceAccount) ∧
        bank destination = some (.token destinationAccount) ∧
        amount.toNat ≤ sourceAccount.amount.toNat ∧
        sourceAccount.mint = destinationAccount.mint ∧
        sourceAccount.owner = authority ∧ authority ∈ signers ∧
        (source ≠ destination →
          destinationAccount.amount.toNat + amount.toNat < 2 ^ 64) ∧
        after = bank.moved source destination sourceAccount destinationAccount
          amount := by
  unfold tokenTransfer
  simp only [bind_eq_ok, Bank.loadToken_eq_ok, require_eq_ok, BitVec.le_def]
  constructor
  · rintro ⟨sourceAccount, isSource, destinationAccount, isDestination, _, funded,
      _, sameMint, _, owner, _, signed, result⟩
    refine ⟨sourceAccount, destinationAccount, isSource, isDestination, funded,
      sameMint, owner, signed, ?_⟩
    unfold Bank.moved
    split at result
    · rename_i same
      rw [pure_eq, Except.ok.injEq] at result
      rw [if_pos same]
      exact ⟨fun apart => absurd same apart, result.symm⟩
    · rename_i apart
      simp only [bind_eq_ok, okOr_eq_ok, pure_eq, Except.ok.injEq] at result
      obtain ⟨less, lessValue, more, moreValue, rfl⟩ := result
      rw [if_neg apart]
      rw [checkedSub, if_pos funded, Option.some.injEq] at lessValue
      have bound := more.isLt
      have sum := checkedAdd_eq_some.mp moreValue
      rw [checkedAdd, if_pos (by omega), Option.some.injEq] at moreValue
      rw [lessValue, moreValue]
      exact ⟨fun _ => by omega, rfl⟩
  · rintro ⟨sourceAccount, destinationAccount, isSource, isDestination, funded,
      sameMint, owner, signed, fits, rfl⟩
    refine ⟨sourceAccount, isSource, destinationAccount, isDestination, (), funded,
      (), sameMint, (), owner, (), signed, ?_⟩
    unfold Bank.moved
    split
    · rfl
    · rename_i apart
      rw [checkedSub, if_pos funded, checkedAdd, if_pos (fits apart)]
      rfl

/-- What a successful transfer has found and done. -/
structure TransferEffect (before after : Bank)
    (source destination authority : Pubkey) (amount : U64) : Prop where
  payer : ∃ account, before source = some (.token account) ∧
    account.owner = authority ∧ amount.toNat ≤ account.amount.toNat
  distributors : after.distributor? = before.distributor?
  statuses : after.claimStatus? = before.claimStatus?
  tokens : TokensMoved before after [⟨source, destination, amount⟩]
  others : ∀ key, (∀ account, before key ≠ some (.token account)) →
    after key = before key

theorem tokenTransfer_effect {bank after : Bank} {signers : List Pubkey}
    {source destination authority : Pubkey} {amount : U64}
    (done : tokenTransfer bank signers source destination authority amount =
      .ok after) :
    TransferEffect bank after source destination authority amount ∧
      authority ∈ signers := by
  obtain ⟨sourceAccount, destinationAccount, isSource, isDestination, funded,
    sameMint, owner, signed, fits, rfl⟩ := tokenTransfer_eq_ok.mp done
  refine ⟨⟨⟨sourceAccount, isSource, owner, funded⟩,
    Bank.moved_distributor? isSource isDestination,
    Bank.moved_claimStatus? isSource isDestination,
    Bank.moved_tokens isSource isDestination funded sameMint fits, ?_⟩, signed⟩
  intro key noToken
  have notSource : key ≠ source := by
    rintro rfl
    exact noToken _ isSource
  have notDestination : key ≠ destination := by
    rintro rfl
    exact noToken _ isDestination
  unfold Bank.moved
  split
  · rfl
  · simp [Bank.set, notSource, notDestination]

theorem transferSigned_effect {env : Env} {bank after : Bank}
    {signers : List Pubkey} {seeds : List Bytes}
    {source destination authority : Pubkey} {amount : U64}
    (done : transferSigned env bank signers seeds source destination authority
      amount = .ok after) :
    TransferEffect bank after source destination authority amount := by
  unfold transferSigned at done
  simp only [bind_eq_ok] at done
  obtain ⟨_, _, _, _, transferred⟩ := done
  exact (tokenTransfer_effect transferred).1

/-- The token program accepts a transfer of so many tokens that the address made from the
seeds signs: both accounts are there and of one mint, the source belongs to the authority and
holds the amount, and the destination has room for it. -/
structure TransferClear (env : Env) (signers : List Pubkey) (bank : Bank) (seeds : List Bytes)
    (source destination authority : Pubkey) (amount : Nat) : Prop where
  signed : ∃ signer, env.createProgramAddress seeds = some signer ∧
    authority ∈ signer :: signers
  accounts : ∃ sourceAccount destinationAccount,
    bank source = some (.token sourceAccount) ∧
    bank destination = some (.token destinationAccount) ∧
    amount ≤ sourceAccount.amount.toNat ∧
    sourceAccount.mint = destinationAccount.mint ∧
    sourceAccount.owner = authority ∧
    (source ≠ destination → destinationAccount.amount.toNat + amount < 2 ^ 64)

theorem transferSigned_accepted_iff {env : Env} {signers : List Pubkey} {bank : Bank}
    {seeds : List Bytes} {source destination authority : Pubkey} {amount : U64} :
    (∃ moved, transferSigned env bank signers seeds source destination authority amount =
        .ok moved) ↔
      TransferClear env signers bank seeds source destination authority amount.toNat := by
  unfold transferSigned
  simp only [bind_eq_ok, okOr_eq_ok, require_eq_ok, tokenTransfer_eq_ok]
  constructor
  · rintro ⟨moved, signer, made, _, listed, sourceAccount, destinationAccount, isSource,
      isDestination, funded, sameMint, owner, _, fits, _⟩
    exact ⟨⟨signer, made, listed⟩, sourceAccount, destinationAccount, isSource,
      isDestination, funded, sameMint, owner, fits⟩
  · rintro ⟨⟨signer, made, listed⟩, sourceAccount, destinationAccount, isSource,
      isDestination, funded, sameMint, owner, fits⟩
    exact ⟨_, signer, made, (), listed, sourceAccount, destinationAccount, isSource,
      isDestination, funded, sameMint, owner, listed, fits, rfl⟩

end Airdrop
