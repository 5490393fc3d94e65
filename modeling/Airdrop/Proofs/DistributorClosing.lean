/-
Module: Airdrop.Proofs.DistributorClosing
Purpose: What `process_close_distributor` leaves of a folder of trees: it closes exactly the
  distributors that its wallet can close, and all that their vaults held is then in the
  wallet's token account.
Trusted boundary: none
Main exports: Bank.vaultOf, Bank.vaultBalance, Bank.closable, Drained, Drained.trans,
  DestinationReady, executeTransaction_close, closeDistributorLoop_serve,
  distributorClosing_exact
-/
import Airdrop.Cli.CloseDistributor
import Airdrop.Proofs.ReceiverChange
import Airdrop.Proofs.WholeAirdrop

namespace Airdrop

open Checked Interference Transition

/-! ## Vaults that are emptied -/

namespace Bank

variable (bank : Bank)

/-- The vault of the distributor at an address. -/
def vaultOf (key : Pubkey) : Option Pubkey :=
  (bank.distributor? key).map MerkleDistributor.tokenVault

/-- What the vault of the distributor at an address holds. -/
def vaultBalance (key : Pubkey) : Nat :=
  (bank.vaultOf key).elim 0 bank.balance

end Bank

/-- Between the two states the distributors at these addresses were closed, and what their own
vaults held went to the destination.  Everything else is as it was. -/
structure Drained (destination : Pubkey) (keys : Finset Pubkey) (before after : Bank) :
    Prop where
  distributors : ∀ key, after.distributor? key =
    if key ∈ keys then none else before.distributor? key
  statuses : after.claimStatus? = before.claimStatus?
  vaults : ∀ key ∈ keys, ∃ vault account, before.vaultOf key = some vault ∧
    vault ≠ destination ∧ before.token? vault = some account ∧ account.owner = key ∧
    after.token? vault = some { account with amount := 0 }
  others : ∀ key ≠ destination, (∀ other ∈ keys, before.vaultOf other ≠ some key) →
    after.token? key = before.token? key
  received : after.balance destination =
    before.balance destination + ∑ key ∈ keys, before.vaultBalance key

namespace Drained

variable {destination key other vault : Pubkey} {one two : Finset Pubkey} {before middle after : Bank}

theorem refl (bank : Bank) : Drained destination ∅ bank bank where
  distributors _ := by rw [if_neg (Finset.notMem_empty _)]
  statuses := rfl
  vaults _ member := absurd member (Finset.notMem_empty _)
  others _ _ _ := rfl
  received := by rw [Finset.sum_empty, Nat.add_zero]

/-- A distributor that is left has its vault. -/
theorem vaultOf_left (first : Drained destination one before middle) (left : key ∉ one) :
    middle.vaultOf key = before.vaultOf key := by
  rw [Bank.vaultOf, first.distributors, if_neg left, Bank.vaultOf]

/-- What is closed later was not closed before. -/
theorem left_of_mem (first : Drained destination one before middle)
    (second : Drained destination two middle after) (member : key ∈ two) : key ∉ one := by
  intro closed
  obtain ⟨vault, _, isVault, _⟩ := second.vaults key member
  rw [Bank.vaultOf, first.distributors, if_pos closed] at isVault
  cases isVault

/-- No vault is emptied twice: it would belong to two distributors, one of them closed
before the other. -/
theorem vaults_apart (first : Drained destination one before middle)
    (second : Drained destination two middle after) (closed : other ∈ one) (member : key ∈ two)
    (isOther : before.vaultOf other = some vault) : middle.vaultOf key ≠ some vault := by
  intro isVault
  obtain ⟨otherVault, otherAccount, sameOther, _, _, otherOwner, emptied⟩ :=
    first.vaults other closed
  obtain rfl : otherVault = vault := Option.some.inj (sameOther.symm.trans isOther)
  obtain ⟨same, account, isSame, _, isToken, owner, _⟩ := second.vaults key member
  obtain rfl : same = otherVault := Option.some.inj (isSame.symm.trans isVault)
  rw [emptied, Option.some.injEq] at isToken
  obtain rfl : other = key := by rw [← otherOwner, ← owner, ← isToken]
  exact first.left_of_mem second member closed

/-- So a vault that is emptied later was not touched before. -/
theorem token_of_later (first : Drained destination one before middle)
    (second : Drained destination two middle after) (member : key ∈ two)
    (isVault : middle.vaultOf key = some vault) :
    middle.token? vault = before.token? vault := by
  obtain ⟨same, _, isSame, apart, _⟩ := second.vaults key member
  obtain rfl : same = vault := Option.some.inj (isSame.symm.trans isVault)
  exact first.others same apart fun other closed shared =>
    first.vaults_apart second closed member shared isVault

theorem trans (first : Drained destination one before middle)
    (second : Drained destination two middle after) :
    Drained destination (one ∪ two) before after where
  distributors key := by
    rw [second.distributors, first.distributors]
    by_cases inOne : key ∈ one <;> by_cases inTwo : key ∈ two <;> simp [inOne, inTwo]
  statuses := second.statuses.trans first.statuses
  vaults key member := by
    rcases Finset.mem_union.mp member with inOne | inTwo
    · obtain ⟨vault, account, isVault, apart, isToken, owner, emptied⟩ := first.vaults key inOne
      refine ⟨vault, account, isVault, apart, isToken, owner, ?_⟩
      rw [second.others vault apart, emptied]
      exact fun other closed => first.vaults_apart second inOne closed isVault
    · obtain ⟨vault, account, isVault, apart, isToken, owner, emptied⟩ := second.vaults key inTwo
      refine ⟨vault, account, ?_, apart, ?_, owner, emptied⟩
      · rw [← first.vaultOf_left (first.left_of_mem second inTwo), isVault]
      · rw [← first.token_of_later second inTwo isVault, isToken]
  others key apart untouched := by
    rw [second.others key apart, first.others key apart]
    · exact fun other closed => untouched other (Finset.mem_union_left _ closed)
    · intro other closed
      rw [first.vaultOf_left (first.left_of_mem second closed)]
      exact untouched other (Finset.mem_union_right _ closed)
  received := by
    have disjoint : Disjoint one two := Finset.disjoint_right.mpr fun key inTwo =>
      first.left_of_mem second inTwo
    have same : ∑ key ∈ two, middle.vaultBalance key = ∑ key ∈ two, before.vaultBalance key := by
      refine Finset.sum_congr rfl fun key inTwo => ?_
      obtain ⟨vault, account, isVault, _⟩ := second.vaults key inTwo
      have earlier := first.vaultOf_left (first.left_of_mem second inTwo)
      rw [Bank.vaultBalance, Bank.vaultBalance, ← earlier, isVault, Option.elim_some,
        Option.elim_some, Bank.balance, first.token_of_later second inTwo isVault, Bank.balance]
    rw [second.received, first.received, same, Finset.sum_union disjoint, Nat.add_assoc]

end Drained

/-! ## What can be closed -/

section Closable

variable (env : Env) (signers : List Pubkey) (admin mint : Pubkey)

/-- The program lets the admin close the distributor at this address into an account of the
mint. -/
def Bank.closable (bank : Bank) (key : Pubkey) : Bool :=
  match bank.distributor? key with
  | some distributor =>
      distributor.closable && distributor.admin = admin && key ≠ admin &&
        ((env.createProgramAddress distributor.signerSeeds).any fun signer =>
          key ∈ signer :: signers) &&
        ((bank.token? distributor.tokenVault).any fun vault =>
          vault.owner = key && vault.mint = mint)
  | none => false

/-- The destination is there, or can be created. -/
structure DestinationReady (bank : Bank) : Prop where
  supply : SupplyFits mint bank
  account : (∃ amount, bank (env.associatedTokenAddress admin mint) =
      some (.token { mint, owner := admin, amount })) ∨
    bank (env.associatedTokenAddress admin mint) = none ∧ bank mint = some .mint

variable {env signers admin mint} {bank after : Bank} {key : Pubkey}
variable {distributor : MerkleDistributor}

theorem Bank.closable_iff :
    bank.closable env signers admin mint key = true ↔ ∃ distributor vault,
      bank.distributor? key = some distributor ∧
      bank.token? distributor.tokenVault = some vault ∧ distributor.closable = true ∧
      distributor.admin = admin ∧ key ≠ admin ∧
      (∃ signer, env.createProgramAddress distributor.signerSeeds = some signer ∧
        key ∈ signer :: signers) ∧ vault.owner = key ∧ vault.mint = mint := by
  unfold Bank.closable
  constructor
  · intro can
    split at can
    case h_1 distributor found =>
      simp only [Bool.and_eq_true, decide_eq_true_eq, Option.any_eq_true] at can
      obtain ⟨⟨⟨⟨closable, isAdmin⟩, apart⟩, signer⟩, vault, isVault, owner, isMint⟩ := can
      exact ⟨distributor, vault, found, isVault, closable, isAdmin, apart, signer, owner, isMint⟩
    case h_2 => cases can
  · rintro ⟨distributor, vault, found, isVault, closable, isAdmin, apart, signer, owner, isMint⟩
    simp only [found, Bool.and_eq_true, decide_eq_true_eq, Option.any_eq_true]
    exact ⟨⟨⟨⟨closable, isAdmin⟩, apart⟩, signer⟩, vault, isVault, owner, isMint⟩

/-- What is at the destination belongs to the admin. -/
theorem DestinationReady.owner (ready : DestinationReady env admin mint bank)
    {account : TokenAccount}
    (present : bank.token? (env.associatedTokenAddress admin mint) = some account) :
    account.owner = admin := by
  rw [Bank.token?_eq_some] at present
  rcases ready.account with ⟨amount, isAccount⟩ | ⟨free, -⟩
  · rw [Bank.token_unique present isAccount]
  · rw [free] at present
    cases present

/-- The tokens of a distributor that is left are untouched. -/
theorem Drained.token_iff {keys : Finset Pubkey} {place : Pubkey} {account : TokenAccount}
    (emptied : Drained (env.associatedTokenAddress admin mint) keys bank after)
    (ready : DestinationReady env admin mint bank)
    (readyAfter : DestinationReady env admin mint after) (left : account.owner ∉ keys)
    (apart : account.owner ≠ admin) :
    after.token? place = some account ↔ bank.token? place = some account := by
  by_cases here : place = env.associatedTokenAddress admin mint
  · subst here
    exact iff_of_false (fun present => apart (readyAfter.owner present))
      (fun present => apart (ready.owner present))
  · by_cases shared : ∃ other ∈ keys, bank.vaultOf other = some place
    · -- a vault that was emptied belongs to the distributor that was closed
      obtain ⟨other, closed, isPlace⟩ := shared
      obtain ⟨vault, found, isVault, _, isFound, owner, left0⟩ := emptied.vaults other closed
      obtain rfl : vault = place := Option.some.inj (isVault.symm.trans isPlace)
      rw [isFound, left0]
      refine iff_of_false ?_ ?_
      · rintro ⟨⟩
        exact left (owner ▸ closed)
      · rintro ⟨⟩
        exact left (owner ▸ closed)
    · rw [emptied.others place here fun other closed same => shared ⟨other, closed, same⟩]

/-- A distributor that was emptied cannot be closed again, and what could be closed of the
others can still be closed. -/
theorem Drained.closable_iff {keys : Finset Pubkey}
    (emptied : Drained (env.associatedTokenAddress admin mint) keys bank after)
    (ready : DestinationReady env admin mint bank)
    (readyAfter : DestinationReady env admin mint after) :
    after.closable env signers admin mint key = true ↔
      bank.closable env signers admin mint key = true ∧ key ∉ keys := by
  by_cases closed : key ∈ keys
  · refine iff_of_false ?_ fun both => both.2 closed
    rw [Bank.closable_iff]
    rintro ⟨distributor, _, found, _⟩
    rw [emptied.distributors, if_pos closed] at found
    cases found
  · rw [and_iff_left closed, Bank.closable_iff, Bank.closable_iff, emptied.distributors,
      if_neg closed]
    refine exists_congr fun distributor => exists_congr fun vault => ?_
    refine and_congr_right fun _ => ?_
    constructor
    · rintro ⟨isVault, closable, isAdmin, apart, signer, rfl, isMint⟩
      exact ⟨(emptied.token_iff ready readyAfter closed apart).mp isVault, closable, isAdmin,
        apart, signer, rfl, isMint⟩
    · rintro ⟨isVault, closable, isAdmin, apart, signer, rfl, isMint⟩
      exact ⟨(emptied.token_iff ready readyAfter closed apart).mpr isVault, closable, isAdmin,
        apart, signer, rfl, isMint⟩

end Closable

/-! ## One transaction -/

section Closed

variable {env : Env} {signers : List Pubkey} {admin mint key : Pubkey} {bank : Bank}
variable {distributor : MerkleDistributor} {amount : U64} {receipt : Receipt}

/-- The instruction that the command builds is accepted exactly for what can be closed. -/
theorem closeDistributor_accepted_iff (supply : SupplyFits mint bank)
    (signed : admin ∈ signers)
    (isAccount : bank (env.associatedTokenAddress admin mint) =
      some (.token { mint, owner := admin, amount }))
    (found : bank.distributor? key = some distributor) :
    (∃ receipt, closeDistributor env signers bank
      { distributor := key
        tokenVault := distributor.tokenVault
        admin
        destinationTokenAccount := env.associatedTokenAddress admin mint } = .ok receipt) ↔
      bank.closable env signers admin mint key = true := by
  have isDistributor := Bank.distributor?_eq_some.mp found
  simp only [closeDistributor_eq_ok, Bank.closable_iff]
  constructor
  · rintro ⟨receipt, other, vault, moved, checks, _⟩
    obtain rfl := Bank.distributor_unique checks.isDistributor isDistributor
    have clear := transferSigned_accepted_iff.mp ⟨moved, checks.transferred⟩
    obtain ⟨source, destination, isSource, isDestination, _, sameMint, owner, _⟩ :=
      clear.accounts
    obtain rfl := Bank.token_unique isSource checks.isVault
    rw [Bank.token_unique isDestination isAccount] at sameMint
    exact ⟨other, source, found, Bank.token?_eq_some.mpr isSource, checks.closable,
      checks.isAdmin, checks.apart, clear.signed, owner, sameMint⟩
  · rintro ⟨other, vault, isOther, isVault, closable, isAdmin, apart, signer, owner, isMint⟩
    obtain rfl := Option.some.inj (isOther.symm.trans found)
    rw [Bank.token?_eq_some] at isVault
    have elsewhere : other.tokenVault ≠ env.associatedTokenAddress admin mint := by
      intro same
      rw [same, isAccount] at isVault
      cases isVault
      exact apart owner.symm
    have room := supply.pair elsewhere ⟨vault, isVault, isMint⟩ ⟨_, isAccount, rfl⟩
    rw [Bank.balance_of_token isVault, Bank.balance_of_token isAccount, Nat.add_comm] at room
    obtain ⟨moved, transferred⟩ := transferSigned_accepted_iff.mpr
      { signed := signer
        accounts := ⟨vault, _, isVault, isAccount, le_rfl, isMint, owner, fun _ => room⟩ }
    exact ⟨_, other, vault, moved,
      { isDistributor
        isVault
        isDestination := ⟨_, isAccount⟩
        signed
        isAdmin
        vaultAddress := rfl
        closable
        apart
        transferred }, rfl⟩

/-- What it does: the distributor is gone, and its vault is emptied into the destination. -/
theorem closeDistributor_drained (supply : SupplyFits mint bank)
    (isAccount : bank (env.associatedTokenAddress admin mint) =
      some (.token { mint, owner := admin, amount }))
    (found : bank.distributor? key = some distributor)
    (accepted : closeDistributor env signers bank
      { distributor := key
        tokenVault := distributor.tokenVault
        admin
        destinationTokenAccount := env.associatedTokenAddress admin mint } = .ok receipt) :
    Drained (env.associatedTokenAddress admin mint) {key} bank receipt.bank ∧
      DestinationReady env admin mint receipt.bank := by
  obtain ⟨other, vault, moved, checks, rfl⟩ := closeDistributor_eq_ok.mp accepted
  obtain rfl := Bank.distributor_unique checks.isDistributor
    (Bank.distributor?_eq_some.mp found)
  have effect := closeDistributor_effect checks
  have isVault := effect.isVault
  have elsewhere : other.tokenVault ≠ env.associatedTokenAddress admin mint := by
    intro same
    have owner := effect.vaultOwner
    rw [same, isAccount] at isVault
    cases isVault
    exact checks.apart owner.symm
  have flows := effect.tokens
  rw [effect.transfers] at flows
  have ownVault : bank.vaultOf key = some other.tokenVault := by
    rw [Bank.vaultOf, found, Option.map_some]
  refine ⟨?_, ?_⟩
  · refine
      { distributors := fun place => ?_
        statuses := effect.statuses
        vaults := ?_
        others := fun place apart untouched => ?_
        received := ?_ }
    · rw [effect.distributors, Function.update_apply]
      simp only [Finset.mem_singleton]
    · intro closed member
      rw [Finset.mem_singleton.mp member]
      obtain ⟨balance, left, value⟩ := flows.kept isVault
      rw [outflow_singleton, inflow_singleton, if_pos ⟨rfl, elsewhere.symm⟩,
        if_neg fun both => elsewhere both.1.symm] at value
      change balance.toNat + vault.amount.toNat = vault.amount.toNat + 0 at value
      have zero : balance.toNat = 0 := by omega
      have nothing : balance = 0 := BitVec.eq_of_toNat_eq zero
      exact ⟨other.tokenVault, vault, ownVault, elsewhere, Bank.token?_eq_some.mpr isVault,
        effect.vaultOwner, by rw [Bank.token?_eq_some.mpr left, nothing]⟩
    · have notVault : other.tokenVault ≠ place := fun same =>
        untouched key (Finset.mem_singleton_self key) (same ▸ ownVault)
      apply flows.token?_eq
      · rw [outflow_singleton, if_neg fun both => notVault both.1]
      · rw [inflow_singleton, if_neg fun both => apart both.1.symm]
    · have balances := flows.balance isAccount
      rw [outflow_singleton, inflow_singleton, if_neg fun both => elsewhere both.1,
        if_pos ⟨rfl, elsewhere⟩] at balances
      rw [Finset.sum_singleton, Bank.vaultBalance, ownVault, Option.elim_some,
        Bank.balance_of_token isVault]
      exact balances
  · obtain ⟨balance, kept, _⟩ := flows.kept isAccount
    exact { supply := supply.step flows, account := .inl ⟨balance, kept⟩ }

end Closed

section Transactions

variable {env : Env} {keyring : Keyring env} {clock : Clock} {bank after : Bank}
variable {args : CliArgs} {wallet : WalletArgs} {key : Pubkey} {distributor : MerkleDistributor}

/-- The accounts, with the destination created where it was missing. -/
def Bank.prepared (bank : Bank) (env : Env) (admin mint : Pubkey) : Bank :=
  if (bank (env.associatedTokenAddress admin mint)).isSome then bank
  else bank.set (env.associatedTokenAddress admin mint)
    (.token { mint, owner := admin, amount := 0 })

/-- To create the destination empties nothing. -/
theorem DestinationReady.prepared {admin mint : Pubkey}
    (ready : DestinationReady env admin mint bank) :
    (∃ amount, bank.prepared env admin mint (env.associatedTokenAddress admin mint) =
      some (.token { mint, owner := admin, amount })) ∧
    SupplyFits mint (bank.prepared env admin mint) ∧
    Drained (env.associatedTokenAddress admin mint) ∅ bank (bank.prepared env admin mint) := by
  unfold Bank.prepared
  rcases ready.account with ⟨amount, isAccount⟩ | ⟨free, -⟩
  · rw [if_pos (by rw [isAccount]; rfl)]
    exact ⟨⟨amount, isAccount⟩, ready.supply, .refl bank⟩
  · rw [if_neg (by rw [free]; exact Bool.false_ne_true)]
    refine ⟨⟨0, Function.update_self ..⟩, ready.supply.allocate free ⟨admin, mint, rfl, rfl⟩, ?_⟩
    refine
      { distributors := fun place => ?_
        statuses := ?_
        vaults := fun _ member => absurd member (Finset.notMem_empty _)
        others := fun place apart _ => ?_
        received := ?_ }
    · rw [if_neg (Finset.notMem_empty _), Bank.set, Bank.distributor?_update]
      · simp only [Bank.distributor?, free]
      · exact fun data same => by cases same
    · rw [Bank.set, Bank.claimStatus?_update]
      · simp only [Bank.claimStatus?, free]
      · exact fun data same => by cases same
    · simp only [Bank.token?, Bank.set, Function.update_of_ne apart]
    · simp [Bank.balance, Bank.token?, Bank.set, free]

theorem executeTransaction_prepared {instruction : Instruction}
    (ready : DestinationReady env wallet.keypair args.mint bank)
    (signed : wallet.keypair ∈ keyring.keys) :
    executeTransaction keyring clock bank
        ((if (bank (env.associatedTokenAddress wallet.keypair args.mint)).isSome then []
          else [.createAssociatedTokenAccount wallet.keypair wallet.keypair args.mint]) ++
            [.program instruction]) = .ok after ↔
      executeTransaction keyring clock (bank.prepared env wallet.keypair args.mint)
        [.program instruction] = .ok after := by
  unfold Bank.prepared
  rcases ready.account with ⟨amount, isAccount⟩ | ⟨free, isMint⟩
  · rw [isAccount]
    rfl
  · rw [free, if_neg (by exact Bool.false_ne_true), if_neg (by exact Bool.false_ne_true),
      List.singleton_append, executeTransaction_cons]
    simp only [CommandInstruction.execute, createAssociated_eq_ok]
    constructor
    · rintro ⟨middle, ⟨_, rfl⟩, later⟩
      exact later
    · exact fun later => ⟨_, ⟨⟨signed, isMint, free⟩, rfl⟩, later⟩

/-- The transaction closes what can be closed, and is refused else. -/
theorem executeTransaction_close (ready : DestinationReady env wallet.keypair args.mint bank)
    (signed : wallet.keypair ∈ keyring.keys) (found : bank.distributor? key = some distributor) :
    if bank.closable env keyring.keys wallet.keypair args.mint key then
      ∃ after, executeTransaction keyring clock bank (closeDistributorTransaction
          env.associatedTokenAddress args wallet key distributor
            (bank (env.associatedTokenAddress wallet.keypair args.mint)).isSome) = .ok after ∧
        Drained (env.associatedTokenAddress wallet.keypair args.mint) {key} bank after ∧
        DestinationReady env wallet.keypair args.mint after
    else
      ∃ error, executeTransaction keyring clock bank (closeDistributorTransaction
        env.associatedTokenAddress args wallet key distributor
          (bank (env.associatedTokenAddress wallet.keypair args.mint)).isSome) =
            .error error := by
  obtain ⟨⟨amount, isAccount⟩, supply, created⟩ := ready.prepared
  have readyHere : DestinationReady env wallet.keypair args.mint
      (bank.prepared env wallet.keypair args.mint) :=
    { supply, account := .inl ⟨amount, isAccount⟩ }
  have same : (bank.prepared env wallet.keypair args.mint).distributor? key =
      some distributor := by
    rw [created.distributors, if_neg (Finset.notMem_empty _), found]
  have accepted := closeDistributor_accepted_iff supply signed isAccount same
  rw [created.closable_iff ready readyHere, and_iff_left (Finset.notMem_empty _)] at accepted
  have executes {after : Bank} := @executeTransaction_prepared env keyring clock bank after args
    wallet (.closeDistributor
      { distributor := key
        tokenVault := distributor.tokenVault
        admin := wallet.keypair
        destinationTokenAccount := env.associatedTokenAddress wallet.keypair args.mint })
    ready signed
  simp only [executeTransaction_program] at executes
  unfold closeDistributorTransaction
  rw [List.append_assoc, executeTransaction_fees]
  by_cases closable : bank.closable env keyring.keys wallet.keypair args.mint key = true
  · rw [if_pos closable]
    obtain ⟨receipt, done⟩ := accepted.mpr closable
    obtain ⟨emptied, readyAfter⟩ := closeDistributor_drained supply isAccount same done
    have whole := created.trans emptied
    rw [Finset.empty_union] at whole
    exact ⟨receipt.bank, executes.mpr ⟨receipt, done, rfl⟩, whole, readyAfter⟩
  · rw [if_neg closable]
    cases executed : executeTransaction keyring clock bank _ with
    | error error => exact ⟨error, rfl⟩
    | ok after =>
        obtain ⟨receipt, done, _⟩ := executes.mp executed
        exact absurd (accepted.mp ⟨receipt, done⟩) closable

end Transactions

/-! ## The command -/

/-- The version that a report says was closed. -/
def CloseDistributorReport.closed? : CloseDistributorReport → Option U64
  | .skipVersion _ => none
  | .doneClose version _ => some version
  | .failedToClose _ _ => none

/-- The tree is among those asked for. -/
def CloseDistributorArgs.wants (closeDistributorArgs : CloseDistributorArgs)
    (file : TreeFile) : Bool :=
  !closeDistributorArgs.airdropVersion.any (· ≠ file.tree.airdropVersion)

section Command

variable {env : Env} {keyring : Keyring env} {clocks : Nat → Clock} {world : NodeWorld}
variable {findProgramAddress : List Bytes → Pubkey → Pubkey × UInt8}
variable {args : CliArgs} {wallet : WalletArgs} {closeDistributorArgs : CloseDistributorArgs}
variable {file : TreeFile} {paths : List TreeFile}

/-- The addresses that the reports say were closed. -/
def reportedClosed (findProgramAddress : List Bytes → Pubkey → Pubkey × UInt8) (args : CliArgs)
    (reports : List CloseDistributorReport) : Finset Pubkey :=
  ((reports.filterMap CloseDistributorReport.closed?).map
    (versionAddress findProgramAddress args)).toFinset

theorem reportedClosed_cons (report : CloseDistributorReport)
    (reports : List CloseDistributorReport) :
    reportedClosed findProgramAddress args (report :: reports) =
      reportedClosed findProgramAddress args [report] ∪
        reportedClosed findProgramAddress args reports := by
  rw [reportedClosed, ← List.singleton_append, List.filterMap_append, List.map_append,
    List.toFinset_append, reportedClosed, reportedClosed]

variable (env keyring findProgramAddress args wallet closeDistributorArgs) in
/-- The distributors of the files that are asked for and can be closed. -/
def closableKeys (bank : Bank) (paths : List TreeFile) : Finset Pubkey :=
  ((paths.filter closeDistributorArgs.wants).map
    (fileAddress findProgramAddress args)).toFinset.filter fun key =>
      bank.closable env keyring.keys wallet.keypair args.mint key = true

section Turn

variable {tree : AirdropMerkleTree} {distributor : MerkleDistributor} {after : Bank}

theorem closeDistributorTurn_of_none
    (absent : world.bank.distributor?
      (versionAddress findProgramAddress args tree.airdropVersion) = none) :
    (closeDistributorTurn findProgramAddress env.associatedTokenAddress args wallet tree).serve
        (NodeWorld.answer keyring clocks) world =
      (.ok (.skipVersion tree.airdropVersion), world) := by
  simp only [versionAddress, getMerkleDistributorPda] at absent
  change Program.serve _ (Program.call _ _) _ = _
  rw [Program.serve_call, answer_distributor_of_none absent]
  rfl

variable (env world findProgramAddress args wallet tree distributor) in
/-- The transaction of the turn, where there is a distributor. -/
def turnTransaction : List CommandInstruction :=
  closeDistributorTransaction env.associatedTokenAddress args wallet
    (versionAddress findProgramAddress args tree.airdropVersion) distributor
    (world.bank (env.associatedTokenAddress wallet.keypair args.mint)).isSome

theorem answer_account_toBool (key : Pubkey) :
    ∃ answer, world.answer keyring clocks (.account key) = (answer, world) ∧
      Except.toBool answer = (world.bank key).isSome := by
  cases present : world.bank key with
  | none => exact ⟨_, answer_account_of_none present, rfl⟩
  | some account => exact ⟨_, answer_account_of_some present, rfl⟩

/-- What the turn reports, by the answer to its transaction. -/
def turnReport (tree : AirdropMerkleTree) (transaction : List CommandInstruction)
    (sent : Except Unit Unit) : CloseDistributorReport :=
  if sent.toBool then .doneClose tree.airdropVersion transaction
  else .failedToClose tree.airdropVersion transaction

/-- Where there is a distributor the turn sends its transaction. -/
theorem closeDistributorTurn_of_some {result : Except Unit Unit} {later : NodeWorld}
    (found : world.bank.distributor?
      (versionAddress findProgramAddress args tree.airdropVersion) = some distributor)
    (sent : world.answer keyring clocks
      (.send (turnTransaction env world findProgramAddress args wallet tree distributor)) =
        (result, later)) :
    (closeDistributorTurn findProgramAddress env.associatedTokenAddress args wallet tree).serve
        (NodeWorld.answer keyring clocks) world =
      (.ok (turnReport tree
        (turnTransaction env world findProgramAddress args wallet tree distributor) result),
        later) := by
  obtain ⟨answer, answered, isThere⟩ := @answer_account_toBool env keyring clocks world
    (env.associatedTokenAddress wallet.keypair args.mint)
  rw [Bank.distributor?_eq_some] at found
  rw [turnTransaction, ← isThere] at sent ⊢
  simp only [versionAddress, getMerkleDistributorPda] at found sent ⊢
  change Program.serve _ (Program.call _ _) _ = _
  rw [Program.serve_call, answer_distributor_of_some found]
  change Program.serve _ (Program.call _ _) _ = _
  rw [Program.serve_call, answered]
  change Program.serve _ (Program.call _ _) _ = _
  rw [Program.serve_call, answer_blockhash]
  change Program.serve _ (Program.call _ _) _ = _
  rw [Program.serve_call, sent]
  cases result with
  | ok _ => rfl
  | error _ => rfl

end Turn

/-- The turn for one tree closes its distributor if that can be closed, and reports it. -/
theorem closeDistributorTurn_serve (tree : AirdropMerkleTree)
    (ready : DestinationReady env wallet.keypair args.mint world.bank)
    (signed : wallet.keypair ∈ keyring.keys) :
    let key := versionAddress findProgramAddress args tree.airdropVersion
    let closed : Finset Pubkey :=
      if world.bank.closable env keyring.keys wallet.keypair args.mint key then {key} else ∅
    ∃ report after,
      (closeDistributorTurn findProgramAddress env.associatedTokenAddress args wallet
          tree).serve (NodeWorld.answer keyring clocks) world = (.ok report, after) ∧
        Drained (env.associatedTokenAddress wallet.keypair args.mint) closed world.bank
          after.bank ∧
        DestinationReady env wallet.keypair args.mint after.bank ∧
        reportedClosed findProgramAddress args [report] = closed ∧
        (report.attempted = true ∨ closed = ∅) := by
  intro key closed
  cases found : world.bank.distributor? key with
  | none =>
      have nothing : closed = ∅ := if_neg (by
        rw [Bank.closable, found]
        exact Bool.false_ne_true)
      exact ⟨_, world, closeDistributorTurn_of_none found, nothing ▸ .refl world.bank, ready,
        nothing ▸ rfl, .inr nothing⟩
  | some distributor =>
      have outcome := @executeTransaction_close env keyring (clocks world.sent) world.bank args
        wallet key distributor ready signed found
      by_cases closable : world.bank.closable env keyring.keys wallet.keypair args.mint key = true
      · rw [if_pos closable] at outcome
        obtain ⟨after, executed, emptied, readyAfter⟩ := outcome
        have isClosed : closed = {key} := if_pos closable
        rw [isClosed]
        exact ⟨_, _, closeDistributorTurn_of_some found (answer_send_of_ok executed), emptied,
          readyAfter, rfl, .inl rfl⟩
      · rw [if_neg closable] at outcome
        obtain ⟨error, refused⟩ := outcome
        have nothing : closed = ∅ := if_neg closable
        rw [nothing]
        exact ⟨_, _, closeDistributorTurn_of_some found (answer_send_of_error refused),
          .refl world.bank, ready, rfl, .inr rfl⟩

/-! ## The loop -/

section Loop

variable {bank : Bank}

theorem closableKeys_of_unwanted (unwanted : closeDistributorArgs.wants file = false) :
    closableKeys env keyring findProgramAddress args wallet closeDistributorArgs bank
        (file :: paths) =
      closableKeys env keyring findProgramAddress args wallet closeDistributorArgs bank paths := by
  rw [closableKeys, List.filter_cons_of_neg (by rw [unwanted]; exact Bool.false_ne_true),
    closableKeys]

theorem closableKeys_of_wanted (wanted : closeDistributorArgs.wants file = true) :
    closableKeys env keyring findProgramAddress args wallet closeDistributorArgs bank
        (file :: paths) =
      (if bank.closable env keyring.keys wallet.keypair args.mint
          (fileAddress findProgramAddress args file)
        then {fileAddress findProgramAddress args file} else ∅) ∪
      closableKeys env keyring findProgramAddress args wallet closeDistributorArgs bank paths := by
  rw [closableKeys, List.filter_cons_of_pos wanted, List.map_cons, List.toFinset_cons,
    Finset.filter_insert, closableKeys]
  split
  · rw [Finset.insert_eq]
  · rw [Finset.empty_union]

/-- Where one version is asked for, there is one address. -/
theorem closableKeys_of_one {version : U64}
    (one : closeDistributorArgs.airdropVersion = some version) :
    closableKeys env keyring findProgramAddress args wallet closeDistributorArgs bank paths ⊆
      if bank.closable env keyring.keys wallet.keypair args.mint
          (versionAddress findProgramAddress args version)
        then {versionAddress findProgramAddress args version} else ∅ := by
  intro key member
  obtain ⟨listed, closable⟩ := Finset.mem_filter.mp member
  obtain ⟨file, wanted, rfl⟩ := List.mem_map.mp (List.mem_toFinset.mp listed)
  have sameVersion := (List.mem_filter.mp wanted).2
  rw [CloseDistributorArgs.wants, one] at sameVersion
  have same : version = file.tree.airdropVersion := by simpa using sameVersion
  rw [fileAddress, ← same] at closable ⊢
  rw [if_pos closable]
  exact Finset.mem_singleton_self _

/-- What the rest of the loop finds is what it would have found before, but for what was closed
meanwhile. -/
theorem Drained.closableKeys_union {closed : Finset Pubkey} {after : Bank}
    (emptied : Drained (env.associatedTokenAddress wallet.keypair args.mint) closed bank after)
    (ready : DestinationReady env wallet.keypair args.mint bank)
    (readyAfter : DestinationReady env wallet.keypair args.mint after) :
    closed ∪ closableKeys env keyring findProgramAddress args wallet closeDistributorArgs after
        paths =
      closed ∪ closableKeys env keyring findProgramAddress args wallet closeDistributorArgs bank
        paths := by
  ext key
  simp only [closableKeys, Finset.mem_union, Finset.mem_filter,
    emptied.closable_iff ready readyAfter]
  by_cases here : key ∈ closed <;> simp [here]

variable (clocks) in
/-- The loop closes what can be closed of what is asked for, and says so. -/
theorem closeDistributorLoop_serve
    (ready : DestinationReady env wallet.keypair args.mint world.bank)
    (signed : wallet.keypair ∈ keyring.keys) (paths : List TreeFile) :
    ∃ reports after,
      (closeDistributorLoop findProgramAddress env.associatedTokenAddress args wallet
          closeDistributorArgs paths).serve (NodeWorld.answer keyring clocks) world =
        (.ok reports, after) ∧
      Drained (env.associatedTokenAddress wallet.keypair args.mint)
        (closableKeys env keyring findProgramAddress args wallet closeDistributorArgs world.bank
          paths) world.bank after.bank ∧
      reportedClosed findProgramAddress args reports =
        closableKeys env keyring findProgramAddress args wallet closeDistributorArgs world.bank
          paths := by
  induction paths generalizing world with
  | nil => exact ⟨[], world, rfl, .refl world.bank, rfl⟩
  | cons file paths inductionHypothesis =>
      cases wanted : closeDistributorArgs.wants file with
      | false =>
          obtain ⟨reports, after, served, rest⟩ := inductionHypothesis ready
          rw [closableKeys_of_unwanted wanted]
          refine ⟨reports, after, ?_, rest⟩
          rw [closeDistributorLoop, if_pos (by simpa [CloseDistributorArgs.wants] using wanted),
            served]
      | true =>
          obtain ⟨report, middle, turn, emptied, readyMiddle, reported, attempted⟩ :=
            @closeDistributorTurn_serve env keyring clocks world findProgramAddress args wallet
              file.tree ready signed
          have keys := @closableKeys_of_wanted env keyring findProgramAddress args wallet
            closeDistributorArgs file paths world.bank wanted
          have isAsked : closeDistributorArgs.airdropVersion.any
              (· ≠ file.tree.airdropVersion) ≠ true := by
            rw [CloseDistributorArgs.wants, Bool.not_eq_true'] at wanted
            rw [wanted]
            exact Bool.false_ne_true
          rw [closeDistributorLoop, if_neg isAsked, Program.serve_bind, turn]
          change ∃ reports after, Program.serve _ (if (report.attempted &&
            closeDistributorArgs.airdropVersion.isSome) = true then _ else _) _ = _ ∧ _
          by_cases stops : (report.attempted &&
              closeDistributorArgs.airdropVersion.isSome) = true
          · -- the one version that is asked for has had its turn
            rw [if_pos stops]
            rw [Bool.and_eq_true, Option.isSome_iff_exists] at stops
            obtain ⟨_, version, one⟩ := stops
            obtain rfl : version = file.tree.airdropVersion := by
              simpa [one] using isAsked
            have only := @closableKeys_of_one env keyring findProgramAddress args wallet
              closeDistributorArgs paths world.bank _ one
            have whole := keys.trans (Finset.union_eq_left.mpr only)
            rw [whole]
            exact ⟨[report], middle, rfl, emptied, reported⟩
          · rw [if_neg stops]
            obtain ⟨later, after, served, emptiedLater, reportedLater⟩ :=
              inductionHypothesis readyMiddle
            have union := @Drained.closableKeys_union env keyring findProgramAddress args wallet
              closeDistributorArgs paths world.bank _ middle.bank emptied ready readyMiddle
            refine ⟨report :: later, after, ?_, ?_, ?_⟩
            · rw [Program.serve_bind, served]
              rfl
            · rw [keys]
              have whole := emptied.trans emptiedLater
              rw [union] at whole
              exact whole
            · rw [reportedClosed_cons, reported, reportedLater, union, keys]
              rfl

end Loop

theorem closableKeys_sorted {bank : Bank} (listing : List TreeFile) :
    closableKeys env keyring findProgramAddress args wallet closeDistributorArgs bank
        (sortByPath listing) =
      closableKeys env keyring findProgramAddress args wallet closeDistributorArgs bank
        listing := by
  have order := ((sortByPath_perm listing).filter closeDistributorArgs.wants).map
    (fileAddress findProgramAddress args)
  rw [closableKeys, List.toFinset_eq_of_perm _ _ order, closableKeys]

variable (keyring clocks findProgramAddress args wallet closeDistributorArgs world) in
/-- `process_close_distributor` on a node that executes what it accepts, where its wallet's
token account is there or can be created.  Of the distributors that are asked for it closes
exactly those that can be closed, and reports exactly these; all that their vaults held is then
in the wallet's token account, and everything else is as it was. -/
theorem distributorClosing_exact
    (ready : DestinationReady env wallet.keypair args.mint world.bank)
    (signed : wallet.keypair ∈ keyring.keys) (listing : List TreeFile) :
    let closed := closableKeys env keyring findProgramAddress args wallet closeDistributorArgs
      world.bank listing
    ∃ reports after,
      (processCloseDistributor findProgramAddress env.associatedTokenAddress args wallet
          closeDistributorArgs listing).serve (NodeWorld.answer keyring clocks) world =
        (.ok reports, after) ∧
      reportedClosed findProgramAddress args reports = closed ∧
      Drained (env.associatedTokenAddress wallet.keypair args.mint) closed world.bank
        after.bank := by
  obtain ⟨reports, after, served, emptied, reported⟩ :=
    @closeDistributorLoop_serve env keyring clocks world findProgramAddress args wallet
      closeDistributorArgs ready signed (sortByPath listing)
  rw [closableKeys_sorted] at emptied reported
  exact ⟨reports, after, served, reported, emptied⟩

end Command

section Sample

/-- The accounts of a distributor that can be closed, after Alice's claim. -/
def closableBank : Bank :=
  sampleAfter [createSample sampleTree.merkleRoot true, aliceClaims 55]

theorem closableBank_ready : DestinationReady sampleEnv sampleAdmin sampleMint closableBank where
  supply := by
    have before : Reaches sampleEnv sampleBank [] sampleBank := .start
    have accepted : (machine sampleEnv).step sampleBank
        (createSample sampleTree.merkleRoot false) =
          .ok (sampleFounding sampleTree.merkleRoot false).outcome :=
      sampleFounding_accepted sampleTree.merkleRoot false
    exact (sample_supply.back (before.commit accepted)).reached (sample_reaches _)
  account := .inr (by decide +kernel)

/-- The admin closes the distributor of version 0, and there is none of version 1.  The token
account is created for the 94 tokens that Alice's claim has left. -/
theorem distributorClosing_exact_sample :
    ∃ reports after,
      (processCloseDistributor folderFind sampleEnv.associatedTokenAddress sampleCliArgs
          { keypair := sampleAdmin, priorityFee := none } { airdropVersion := none }
          sampleFolder).serve (NodeWorld.answer adminKeyring fun _ => ⟨0, 60⟩)
            ⟨closableBank, 0⟩ = (.ok reports, after) ∧
      reportedClosed folderFind sampleCliArgs reports = {sampleKey} ∧
      after.bank.distributor? sampleKey = none ∧
      after.bank.balance (sampleEnv.associatedTokenAddress sampleAdmin sampleMint) = 94 := by
  obtain ⟨reports, after, served, reported, emptied⟩ :=
    distributorClosing_exact adminKeyring (fun _ => ⟨0, 60⟩) ⟨closableBank, 0⟩ folderFind
      sampleCliArgs { keypair := sampleAdmin, priorityFee := none } { airdropVersion := none }
      closableBank_ready (by decide) sampleFolder
  have closed : closableKeys sampleEnv adminKeyring folderFind sampleCliArgs
      { keypair := sampleAdmin, priorityFee := none } { airdropVersion := none } closableBank
      sampleFolder = {sampleKey} := by
    decide +kernel
  have received := emptied.received
  rw [closed] at reported emptied received
  refine ⟨reports, after, served, reported, ?_, ?_⟩
  · rw [emptied.distributors, if_pos (Finset.mem_singleton_self _)]
  · rw [Finset.sum_singleton] at received
    refine received.trans ?_
    decide +kernel

end Sample

end Airdrop
