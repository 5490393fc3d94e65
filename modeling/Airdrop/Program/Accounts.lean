/-
Module: Airdrop.Program.Accounts
Purpose: What the program runs on: addresses derived from seeds, accounts, the
  loading and the constraints of Anchor account contexts, and the token
  program's transfer.
Trusted boundary: SHA-256 and the derivation of addresses, taken as parameters;
  lamports, rent, writable flags, and the freezing, delegation and closing of
  token accounts are left out
Main exports: Env, Account, Bank, loadDistributor, loadToken, tokenTransfer,
  transferSigned, Receipt
-/
import Airdrop.Program.State
import Mathlib.Logic.Function.Basic

namespace Airdrop

open Checked

/-! ## The environment -/

/-- The functions of the runtime that the program relies on: the hash, the
program's derived addresses with their bump seed, and associated token
addresses by wallet and mint. -/
structure Env where
  sha256 : Bytes → Hash
  findProgramAddress : List Bytes → Pubkey × UInt8
  createProgramAddress : List Bytes → Option Pubkey
  associatedTokenAddress : Pubkey → Pubkey → Pubkey
  create_find : ∀ seeds,
    createProgramAddress (seeds ++ [[(findProgramAddress seeds).2]]) =
      some (findProgramAddress seeds).1

/-- The bytes of an ASCII string, as in `b"ClaimStatus"`. -/
def asciiBytes (text : String) : Bytes :=
  text.toList.map fun character => UInt8.ofNat character.toNat

/-- The seeds of a claim status. -/
def claimStatusSeeds (claimant distributor : Pubkey) : List Bytes :=
  [asciiBytes "ClaimStatus", claimant.toBytes, distributor.toBytes]

/-- The seeds of a distributor. -/
def distributorSeeds (base mint : Pubkey) (version : U64) : List Bytes :=
  [asciiBytes "MerkleDistributor", base.toBytes, mint.toBytes, toLeBytes version]

/-- The seeds with which a distributor signs for itself. -/
def MerkleDistributor.signerSeeds (self : MerkleDistributor) : List Bytes :=
  distributorSeeds self.base self.mint self.version ++ [[self.bump]]

namespace Env

variable (env : Env)

/-- The address of a claim status. -/
def claimStatusAddress (claimant distributor : Pubkey) : Pubkey :=
  (env.findProgramAddress (claimStatusSeeds claimant distributor)).1

/-- The address of a distributor. -/
def distributorAddress (base mint : Pubkey) (version : U64) : Pubkey :=
  (env.findProgramAddress (distributorSeeds base mint version)).1

/-- Distinct seeds among the listed ones have distinct addresses. -/
def DistinctAddresses (seeds : List (List Bytes)) : Prop :=
  ∀ first ∈ seeds, ∀ second ∈ seeds,
    (env.findProgramAddress first).1 = (env.findProgramAddress second).1 →
      first = second

instance (seeds : List (List Bytes)) : Decidable (env.DistinctAddresses seeds) :=
  inferInstanceAs (Decidable (∀ first ∈ seeds, ∀ second ∈ seeds,
    (env.findProgramAddress first).1 = (env.findProgramAddress second).1 →
      first = second))

end Env

/-! ## Accounts -/

structure TokenAccount where
  mint : Pubkey
  owner : Pubkey
  amount : U64
deriving DecidableEq

/-- The accounts the program can load: its own two kinds and the token
program's two kinds. -/
inductive Account where
  | distributor (data : MerkleDistributor)
  | claimStatus (data : ClaimStatus)
  | token (data : TokenAccount)
  | mint
deriving DecidableEq

/-- The accounts by address.  An address without an account stands for one that
no program has initialised. -/
abbrev Bank := Pubkey → Option Account

namespace Bank

/-- Write an account. -/
def set (bank : Bank) (key : Pubkey) (account : Account) : Bank :=
  Function.update bank key (some account)

/-- Close an account. -/
def close (bank : Bank) (key : Pubkey) : Bank :=
  Function.update bank key none

variable (bank : Bank)

/-- `Account<'info, MerkleDistributor>` -/
def loadDistributor (key : Pubkey) : Except ProgramError MerkleDistributor :=
  match bank key with
  | some (.distributor data) => pure data
  | some (.claimStatus _) => throw (.anchor .accountDiscriminatorMismatch)
  | some (.token _) => throw (.anchor .accountOwnedByWrongProgram)
  | some .mint => throw (.anchor .accountOwnedByWrongProgram)
  | none => throw (.anchor .accountNotInitialized)

/-- `Account<'info, ClaimStatus>` -/
def loadClaimStatus (key : Pubkey) : Except ProgramError ClaimStatus :=
  match bank key with
  | some (.claimStatus data) => pure data
  | some (.distributor _) => throw (.anchor .accountDiscriminatorMismatch)
  | some (.token _) => throw (.anchor .accountOwnedByWrongProgram)
  | some .mint => throw (.anchor .accountOwnedByWrongProgram)
  | none => throw (.anchor .accountNotInitialized)

/-- `Account<'info, TokenAccount>` -/
def loadToken (key : Pubkey) : Except ProgramError TokenAccount :=
  match bank key with
  | some (.token data) => pure data
  | some .mint => throw .invalidAccountData
  | some (.distributor _) => throw (.anchor .accountOwnedByWrongProgram)
  | some (.claimStatus _) => throw (.anchor .accountOwnedByWrongProgram)
  | none => throw (.anchor .accountNotInitialized)

/-- `Account<'info, Mint>` -/
def loadMint (key : Pubkey) : Except ProgramError Unit :=
  match bank key with
  | some .mint => pure ()
  | some (.token _) => throw .invalidAccountData
  | some (.distributor _) => throw (.anchor .accountOwnedByWrongProgram)
  | some (.claimStatus _) => throw (.anchor .accountOwnedByWrongProgram)
  | none => throw (.anchor .accountNotInitialized)

variable {bank} {key : Pubkey}

@[simp] theorem loadDistributor_eq_ok {data : MerkleDistributor} :
    bank.loadDistributor key = .ok data ↔ bank key = some (.distributor data) := by
  unfold loadDistributor
  split <;> simp_all

@[simp] theorem loadClaimStatus_eq_ok {data : ClaimStatus} :
    bank.loadClaimStatus key = .ok data ↔ bank key = some (.claimStatus data) := by
  unfold loadClaimStatus
  split <;> simp_all

@[simp] theorem loadToken_eq_ok {data : TokenAccount} :
    bank.loadToken key = .ok data ↔ bank key = some (.token data) := by
  unfold loadToken
  split <;> simp_all

@[simp] theorem loadMint_eq_ok {result : Unit} :
    bank.loadMint key = .ok result ↔ bank key = some .mint := by
  unfold loadMint
  split <;> simp_all

end Bank

/-! ## Constraints -/

/-- `Signer<'info>` -/
def requireSigner (signers : List Pubkey) (key : Pubkey) :
    Except ProgramError Unit :=
  require (key ∈ signers) (.anchor .accountNotSigner)

/-- `init` with `seeds` and `bump`: the account has the derived address, and the
system program creates it there.  Returns the bump seed. -/
def requireInit (env : Env) (bank : Bank) (key : Pubkey) (seeds : List Bytes) :
    Except ProgramError UInt8 := do
  let (address, bump) := env.findProgramAddress seeds
  require (key = address) (.anchor .constraintSeeds)
  require (bank key = none) .accountAlreadyInUse
  pure bump

/-- `associated_token::mint` with `associated_token::authority`: the token
account belongs to the authority and has its associated address. -/
def requireAssociatedToken (env : Env) (key : Pubkey) (account : TokenAccount)
    (mint authority : Pubkey) : Except ProgramError Unit := do
  require (account.owner = authority) (.anchor .constraintTokenOwner)
  require (key = env.associatedTokenAddress authority mint)
    (.anchor .constraintAssociated)

@[simp] theorem requireSigner_eq_ok {signers : List Pubkey} {key : Pubkey}
    {result : Unit} : requireSigner signers key = .ok result ↔ key ∈ signers :=
  require_eq_ok

@[simp] theorem requireInit_eq_ok {env : Env} {bank : Bank} {key : Pubkey}
    {seeds : List Bytes} {bump : UInt8} :
    requireInit env bank key seeds = .ok bump ↔
      env.findProgramAddress seeds = (key, bump) ∧ bank key = none := by
  unfold requireInit
  cases derived : env.findProgramAddress seeds with
  | mk address found =>
      simp only [bind_eq_ok, require_eq_ok, pure_eq, Except.ok.injEq, exists_and_left,
        exists_const, Prod.mk.injEq]
      constructor
      · rintro ⟨rfl, free, rfl⟩
        exact ⟨⟨rfl, rfl⟩, free⟩
      · rintro ⟨⟨rfl, rfl⟩, free⟩
        exact ⟨rfl, free, rfl⟩

@[simp] theorem requireAssociatedToken_eq_ok {env : Env} {key : Pubkey}
    {account : TokenAccount} {mint authority : Pubkey} {result : Unit} :
    requireAssociatedToken env key account mint authority = .ok result ↔
      account.owner = authority ∧
        key = env.associatedTokenAddress authority mint := by
  simp [requireAssociatedToken]

/-! ## Token transfers -/

/-- `Transfer` of the token program.  A transfer from an account to itself
checks its arguments and changes nothing. -/
def tokenTransfer (bank : Bank) (signers : List Pubkey)
    (source destination authority : Pubkey) (amount : U64) :
    Except ProgramError Bank := do
  let sourceAccount ← bank.loadToken source
  let destinationAccount ← bank.loadToken destination
  require (amount ≤ sourceAccount.amount) (.token .insufficientFunds)
  require (sourceAccount.mint = destinationAccount.mint) (.token .mintMismatch)
  require (sourceAccount.owner = authority) (.token .ownerMismatch)
  require (authority ∈ signers) .missingRequiredSignature
  if source = destination then
    pure bank
  else
    let sourceAmount ← okOr (checkedSub sourceAccount.amount amount)
      (.token .overflow)
    let destinationAmount ← okOr (checkedAdd destinationAccount.amount amount)
      (.token .overflow)
    let bank := bank.set source
      (.token { sourceAccount with amount := sourceAmount })
    pure (bank.set destination
      (.token { destinationAccount with amount := destinationAmount }))

/-- `token::transfer` under `CpiContext::with_signer`: the address made from the
seeds counts as a signer of the inner instruction. -/
def transferSigned (env : Env) (bank : Bank) (signers : List Pubkey)
    (seeds : List Bytes) (source destination authority : Pubkey) (amount : U64) :
    Except ProgramError Bank := do
  let signer ← okOr (env.createProgramAddress seeds) .invalidSeeds
  require (authority ∈ signer :: signers) .privilegeEscalation
  tokenTransfer bank (signer :: signers) source destination authority amount

/-! ## Receipts -/

/-- One executed transfer. -/
structure Transfer where
  source : Pubkey
  destination : Pubkey
  amount : U64
deriving DecidableEq

/-- `NewClaimEvent` and `ClaimedEvent` of `claimed_event.rs`. -/
inductive Event where
  | newClaim (claimant : Pubkey) (timestamp : Int64)
  | claimed (claimant : Pubkey) (amount : U64)
deriving DecidableEq

/-- What a committed transaction leaves behind: the accounts, the transfers it
executed and the events it emitted. -/
structure Receipt where
  bank : Bank
  transfers : List Transfer
  events : List Event

/-- The receipt of an instruction that only writes accounts. -/
def Receipt.quiet (bank : Bank) : Receipt :=
  { bank, transfers := [], events := [] }

end Airdrop
