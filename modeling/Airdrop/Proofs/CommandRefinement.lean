/-
Module: Airdrop.Proofs.CommandRefinement
Purpose: Transactions of several instructions, which may also create token accounts, are runs
  of the program: whatever commands send, the accounts are those of a run of single
  instructions from accounts among which the created ones already were.
Trusted boundary: none
Main exports: execute_grown, DerivedOnly, execute_growable, node_allocates, nodeRun_refines,
  serve_run, Session, serveAll, commands_refine
-/
import Airdrop.Library.Allocation
import Airdrop.Proofs.Lifetime
import Airdrop.Proofs.NodeSpecs

namespace Airdrop

open Checked Interference Transition Allocation

/-! ## One account more -/

section Grown

variable {env : Env} {clock : Clock} {signers : List Pubkey} {bank after : Bank}
variable {key other : Pubkey} {account : Account}

/-- An address with an account is not the free one. -/
theorem ne_of_free (free : bank key = none) {found : Account}
    (present : bank other = some found) : other ≠ key := by
  rintro rfl
  rw [free] at present
  cases present

theorem Bank.grown_some (free : bank key = none) {found : Account}
    (present : bank other = some found) : bank.set key account other = some found := by
  rw [Bank.set, Function.update_of_ne (ne_of_free free present), present]

theorem Bank.grown_set (apart : other ≠ key) (written : Account) :
    (bank.set key account).set other written = (bank.set other written).set key account :=
  Function.update_comm apart.symm _ _ _

theorem Bank.grown_close (apart : other ≠ key) :
    (bank.set key account).close other = (bank.close other).set key account :=
  Function.update_comm apart.symm _ _ _

/-- The receipt of the same transaction, with one account more. -/
def Receipt.grown (receipt : Receipt) (key : Pubkey) (account : Account) : Receipt :=
  { receipt with bank := receipt.bank.set key account }

theorem tokenTransfer_grown (free : bank key = none) {source destination authority : Pubkey}
    {amount : U64}
    (done : tokenTransfer bank signers source destination authority amount = .ok after) :
    tokenTransfer (bank.set key account) signers source destination authority amount =
      .ok (after.set key account) := by
  obtain ⟨sourceAccount, destinationAccount, isSource, isDestination, funded, sameMint, owner,
    signed, fits, rfl⟩ := tokenTransfer_eq_ok.mp done
  refine tokenTransfer_eq_ok.mpr ⟨sourceAccount, destinationAccount,
    Bank.grown_some free isSource, Bank.grown_some free isDestination, funded, sameMint, owner,
    signed, fits, ?_⟩
  unfold Bank.moved
  split
  · rfl
  · rw [Bank.grown_set (ne_of_free free isSource),
      Bank.grown_set (ne_of_free free isDestination)]

theorem transferSigned_grown (free : bank key = none) {seeds : List Bytes}
    {source destination authority : Pubkey} {amount : U64}
    (done : transferSigned env bank signers seeds source destination authority amount =
      .ok after) :
    transferSigned env (bank.set key account) signers seeds source destination authority amount =
      .ok (after.set key account) := by
  unfold transferSigned at done ⊢
  simp only [bind_eq_ok] at done ⊢
  obtain ⟨signer, derived, _, authorized, moved⟩ := done
  exact ⟨signer, derived, (), authorized, tokenTransfer_grown free moved⟩

/-- The address is none that the program derives. -/
def Underived (env : Env) (key : Pubkey) : Prop :=
  ∀ seeds, (env.findProgramAddress seeds).1 ≠ key

theorem NewDistributor.Valid.grown {accounts : NewDistributor} {version : U64} {bump : UInt8}
    (valid : accounts.Valid env signers bank version bump) (free : bank key = none)
    (apart : accounts.distributor ≠ key) :
    accounts.Valid env signers (bank.set key account) version bump := by
  obtain ⟨receiver, isReceiver, receiverMint⟩ := valid.receiver
  obtain ⟨vault, isVault, vaultOwner⟩ := valid.vault
  exact
    { valid with
      isMint := Bank.grown_some free valid.isMint
      receiver := ⟨receiver, Bank.grown_some free isReceiver, receiverMint⟩
      vault := ⟨vault, Bank.grown_some free isVault, vaultOwner⟩
      free := (Function.update_of_ne apart _ _).trans valid.free }

theorem newDistributor_grown {accounts : NewDistributor} {args : NewDistributorArgs}
    {receipt : Receipt} (free : bank key = none) (underived : Underived env key)
    (accepted : newDistributor env clock signers bank accounts args = .ok receipt) :
    newDistributor env clock signers (bank.set key account) accounts args =
      .ok (receipt.grown key account) := by
  obtain ⟨bump, checks, rfl⟩ := newDistributor_eq_ok.mp accepted
  have apart : accounts.distributor ≠ key := by
    have notHere := underived (distributorSeeds accounts.base accounts.mint args.version)
    rwa [checks.valid.derived] at notHere
  refine newDistributor_eq_ok.mpr ⟨bump, { checks with valid := checks.valid.grown free apart }, ?_⟩
  rw [Bank.grown_set apart]
  rfl

theorem newDistributor2_grown {accounts : NewDistributor} {args : NewDistributorArgs}
    {totalBonus bonusVestingDuration : U64} {receipt : Receipt} (free : bank key = none)
    (underived : Underived env key)
    (accepted : newDistributor2 env clock signers bank accounts args totalBonus
      bonusVestingDuration = .ok receipt) :
    newDistributor2 env clock signers (bank.set key account) accounts args totalBonus
      bonusVestingDuration = .ok (receipt.grown key account) := by
  obtain ⟨bump, maxTotalClaim, checks, isMax, rfl⟩ := newDistributor2_eq_ok.mp accepted
  have apart : accounts.distributor ≠ key := by
    have notHere := underived (distributorSeeds accounts.base accounts.mint args.version)
    rwa [checks.valid.derived] at notHere
  refine newDistributor2_eq_ok.mpr ⟨bump, maxTotalClaim,
    { checks with valid := checks.valid.grown free apart }, isMax, ?_⟩
  rw [Bank.grown_set apart]
  rfl

theorem newClaim_grown {accounts : NewClaim} {amountUnlocked amountLocked : U64}
    {proof : List Hash} {receipt : Receipt} (free : bank key = none)
    (underived : Underived env key)
    (accepted : newClaim env clock signers bank accounts amountUnlocked amountLocked proof =
      .ok receipt) :
    newClaim env clock signers (bank.set key account) accounts amountUnlocked amountLocked
      proof = .ok (receipt.grown key account) := by
  obtain ⟨distributor, bonus, paid, moved, checks, rfl⟩ := newClaim_eq_ok.mp accepted
  have valid := checks.valid
  have apart : accounts.claimStatus ≠ key := by
    rw [valid.statusAddress]
    exact underived _
  obtain ⟨vault, isVault, vaultOwner⟩ := valid.vault
  obtain ⟨recipient, isRecipient, recipientOwner, recipientMint⟩ := valid.recipient
  refine newClaim_eq_ok.mpr ⟨distributor, bonus, paid, moved.set key account,
    { checks with
      valid :=
        { valid with
          isDistributor := Bank.grown_some free valid.isDistributor
          vault := ⟨vault, Bank.grown_some free isVault, vaultOwner⟩
          recipient := ⟨recipient, Bank.grown_some free isRecipient, recipientOwner,
            recipientMint⟩
          statusFree := (Function.update_of_ne apart _ _).trans valid.statusFree }
      transferred := transferSigned_grown free checks.transferred }, ?_⟩
  rw [Bank.grown_set apart, Bank.grown_set (ne_of_free free valid.isDistributor)]
  rfl

theorem claimLocked_grown {accounts : ClaimLocked} {receipt : Receipt} (free : bank key = none)
    (accepted : claimLocked env clock signers bank accounts = .ok receipt) :
    claimLocked env clock signers (bank.set key account) accounts =
      .ok (receipt.grown key account) := by
  obtain ⟨distributor, status, amount, moved, checks, rfl⟩ := claimLocked_eq_ok.mp accepted
  have valid := checks.valid
  obtain ⟨vault, isVault, vaultOwner⟩ := valid.vault
  obtain ⟨recipient, isRecipient, recipientOwner⟩ := valid.recipient
  refine claimLocked_eq_ok.mpr ⟨distributor, status, amount, moved.set key account,
    { checks with
      valid :=
        { valid with
          isDistributor := Bank.grown_some free valid.isDistributor
          isClaimStatus := Bank.grown_some free valid.isClaimStatus
          vault := ⟨vault, Bank.grown_some free isVault, vaultOwner⟩
          recipient := ⟨recipient, Bank.grown_some free isRecipient, recipientOwner⟩ }
      transferred := transferSigned_grown free checks.transferred }, ?_⟩
  rw [Bank.grown_set (ne_of_free free valid.isClaimStatus),
    Bank.grown_set (ne_of_free free valid.isDistributor)]
  rfl

theorem clawback_grown {accounts : Clawback} {receipt : Receipt} (free : bank key = none)
    (accepted : clawback env clock signers bank accounts = .ok receipt) :
    clawback env clock signers (bank.set key account) accounts =
      .ok (receipt.grown key account) := by
  obtain ⟨distributor, vault, moved, checks, rfl⟩ := clawback_eq_ok.mp accepted
  obtain ⟨receiver, isReceiver⟩ := checks.isReceiver
  refine clawback_eq_ok.mpr ⟨distributor, vault, moved.set key account,
    { checks with
      isDistributor := Bank.grown_some free checks.isDistributor
      isVault := Bank.grown_some free checks.isVault
      isReceiver := ⟨receiver, Bank.grown_some free isReceiver⟩
      transferred := transferSigned_grown free checks.transferred }, ?_⟩
  rw [Bank.grown_set (ne_of_free free checks.isDistributor)]
  rfl

theorem closeDistributor_grown {accounts : CloseDistributor} {receipt : Receipt}
    (free : bank key = none)
    (accepted : closeDistributor env signers bank accounts = .ok receipt) :
    closeDistributor env signers (bank.set key account) accounts =
      .ok (receipt.grown key account) := by
  obtain ⟨distributor, vault, moved, checks, rfl⟩ := closeDistributor_eq_ok.mp accepted
  obtain ⟨destination, isDestination⟩ := checks.isDestination
  refine closeDistributor_eq_ok.mpr ⟨distributor, vault, moved.set key account,
    { checks with
      isDistributor := Bank.grown_some free checks.isDistributor
      isVault := Bank.grown_some free checks.isVault
      isDestination := ⟨destination, Bank.grown_some free isDestination⟩
      transferred := transferSigned_grown free checks.transferred }, ?_⟩
  rw [Bank.grown_close (ne_of_free free checks.isDistributor)]
  rfl

theorem closeClaimStatus_grown {accounts : CloseClaimStatus} {receipt : Receipt}
    (free : bank key = none)
    (accepted : closeClaimStatus signers bank accounts = .ok receipt) :
    closeClaimStatus signers (bank.set key account) accounts =
      .ok (receipt.grown key account) := by
  obtain ⟨⟨status, checks⟩, rfl⟩ := closeClaimStatus_eq_ok.mp accepted
  refine closeClaimStatus_eq_ok.mpr ⟨⟨status,
    { checks with isClaimStatus := Bank.grown_some free checks.isClaimStatus }⟩, ?_⟩
  rw [Bank.grown_close (ne_of_free free checks.isClaimStatus)]
  rfl

/-- A transaction that is accepted does the same beside an account at an underived address
where there was none. -/
theorem execute_grown {tx : Transaction env} {receipt : Receipt} (free : bank key = none)
    (underived : Underived env key) (accepted : execute env bank tx = .ok receipt) :
    execute env (bank.set key account) tx = .ok (receipt.grown key account) := by
  unfold execute at accepted ⊢
  generalize tx.instruction = instruction at accepted ⊢
  cases instruction with
  | newDistributor accounts args => exact newDistributor_grown free underived accepted
  | newDistributor2 accounts args totalBonus bonusVestingDuration =>
      exact newDistributor2_grown free underived accepted
  | closeDistributor accounts => exact closeDistributor_grown free accepted
  | closeClaimStatus accounts => exact closeClaimStatus_grown free accepted
  | setActivationPoint accounts activationPoint =>
      obtain ⟨distributor, present, signed, isAdmin, rfl⟩ :=
        setActivationPoint_eq_ok.mp accepted
      refine setActivationPoint_eq_ok.mpr ⟨distributor, Bank.grown_some free present, signed,
        isAdmin, ?_⟩
      rw [Bank.grown_set (ne_of_free free present)]
      rfl
  | newClaim accounts amountUnlocked amountLocked proof =>
      exact newClaim_grown free underived accepted
  | claimLocked accounts => exact claimLocked_grown free accepted
  | clawback accounts => exact clawback_grown free accepted
  | setClawbackReceiver accounts =>
      obtain ⟨distributor, receiver, present, isReceiver, signed, sameMint, isAdmin, different,
        rfl⟩ := setClawbackReceiver_eq_ok.mp accepted
      refine setClawbackReceiver_eq_ok.mpr ⟨distributor, receiver,
        Bank.grown_some free present, Bank.grown_some free isReceiver, signed, sameMint,
        isAdmin, different, ?_⟩
      rw [Bank.grown_set (ne_of_free free present)]
      rfl
  | setAdmin accounts =>
      obtain ⟨distributor, present, signed, isAdmin, different, rfl⟩ :=
        setAdmin_eq_ok.mp accepted
      refine setAdmin_eq_ok.mpr ⟨distributor, Bank.grown_some free present, signed, isAdmin,
        different, ?_⟩
      rw [Bank.grown_set (ne_of_free free present)]
      rfl
  | transfer source destination authority amount =>
      simp only [bind_eq_ok, pure_eq, Except.ok.injEq] at accepted ⊢
      obtain ⟨moved, done, rfl⟩ := accepted
      exact ⟨moved.set key account, tokenTransfer_grown free done, rfl⟩

end Grown

/-! ## Where accounts come and go -/

/-- The accounts of the program are at addresses that it derives. -/
def DerivedOnly (env : Env) (bank : Bank) : Prop :=
  ∀ key, Underived env key → bank.distributor? key = none ∧ bank.claimStatus? key = none

section Growable

variable {env : Env} {tx : Transaction env} {bank : Bank} {receipt : Receipt} {key : Pubkey}

theorem Genesis.derivedOnly (genesis : Genesis bank) : DerivedOnly env bank := by
  intro key _
  constructor
  · exact Option.eq_none_iff_forall_ne_some.mpr fun data found =>
      (genesis key).1 data (Bank.distributor?_eq_some.mp found)
  · exact Option.eq_none_iff_forall_ne_some.mpr fun data found =>
      (genesis key).2 data (Bank.claimStatus?_eq_some.mp found)

/-- A creation and a new claim write where the program derives an address, and the other
instructions where its accounts are already. -/
theorem DerivedOnly.step (only : DerivedOnly env bank)
    (accepted : execute env bank tx = .ok receipt) : DerivedOnly env receipt.bank := by
  intro key underived
  obtain ⟨noDistributor, noStatus⟩ := only key underived
  constructor
  · cases distributorStep accepted key with
    | other elsewhere same notPaid => rw [same, noDistributor]
    | created creation effect =>
        exact absurd (congrArg Prod.fst effect.derived) (underived _)
    | claimed instruction here checks effect =>
        rw [Bank.distributor?_eq_some.mpr effect.isDistributor] at noDistributor
        cases noDistributor
    | withdrawn instruction here checks effect =>
        rw [Bank.distributor?_eq_some.mpr effect.isDistributor] at noDistributor
        cases noDistributor
    | clawedBack instruction here checks effect =>
        rw [Bank.distributor?_eq_some.mpr effect.isDistributor] at noDistributor
        cases noDistributor
    | closed instruction here checks effect => rw [effect.distributors, Function.update_self]
    | tuned tuning effect =>
        rw [Bank.distributor?_eq_some.mpr effect.isDistributor] at noDistributor
        cases noDistributor
  · cases statusStep accepted key with
    | other same => rw [same, noStatus]
    | opened instruction here checks effect =>
        exact absurd (checks.valid.statusAddress.symm.trans here) (underived _)
    | withdrawn instruction here checks effect =>
        have present := checks.valid.isClaimStatus
        rw [here] at present
        rw [Bank.claimStatus?_eq_some.mpr present] at noStatus
        cases noStatus
    | closed instruction here checks removed => exact removed

theorem Bank.absent_before_set {other : Pubkey} {account : Account}
    (absent : (bank.set other account) key = none) : bank key = none := by
  by_cases here : key = other
  · subst here
    rw [Bank.set, Function.update_self] at absent
    cases absent
  · rwa [Bank.set, Function.update_of_ne here] at absent

theorem Bank.absent_before_close {other : Pubkey} (absent : (bank.close other) key = none)
    (apart : key ≠ other) : bank key = none := by
  rwa [Bank.close, Function.update_of_ne apart] at absent

/-- A transfer removes nothing. -/
theorem TransferEffect.absent_before {after : Bank} {source destination authority : Pubkey}
    {amount : U64} (effect : TransferEffect bank after source destination authority amount)
    (absent : after key = none) : bank key = none := by
  cases present : bank key with
  | none => rfl
  | some account =>
      by_cases isToken : ∃ token, account = .token token
      · obtain ⟨token, rfl⟩ := isToken
        obtain ⟨balance, kept, _⟩ := effect.tokens.kept present
        rw [absent] at kept
        cases kept
      · rw [effect.others key fun token found =>
          isToken ⟨token, Option.some.inj (present.symm.trans found)⟩, present] at absent
        cases absent

/-- At an address that the program does not derive no account disappears. -/
theorem absent_before (only : DerivedOnly env bank) (underived : Underived env key)
    (accepted : execute env bank tx = .ok receipt) (absent : receipt.bank key = none) :
    bank key = none := by
  obtain ⟨noDistributor, noStatus⟩ := only key underived
  unfold execute at accepted
  generalize tx.instruction = instruction at accepted
  cases instruction with
  | newDistributor accounts args =>
      obtain ⟨bump, checks, rfl⟩ := newDistributor_eq_ok.mp accepted
      exact Bank.absent_before_set absent
  | newDistributor2 accounts args totalBonus bonusVestingDuration =>
      obtain ⟨bump, maxTotalClaim, checks, _, rfl⟩ := newDistributor2_eq_ok.mp accepted
      exact Bank.absent_before_set absent
  | closeDistributor accounts =>
      obtain ⟨distributor, vault, moved, checks, rfl⟩ := closeDistributor_eq_ok.mp accepted
      have apart : key ≠ accounts.distributor := by
        rintro rfl
        rw [Bank.distributor?_eq_some.mpr checks.isDistributor] at noDistributor
        cases noDistributor
      exact (transferSigned_effect checks.transferred).absent_before
        (Bank.absent_before_close absent apart)
  | closeClaimStatus accounts =>
      obtain ⟨⟨status, checks⟩, rfl⟩ := closeClaimStatus_eq_ok.mp accepted
      have apart : key ≠ accounts.claimStatus := by
        rintro rfl
        rw [Bank.claimStatus?_eq_some.mpr checks.isClaimStatus] at noStatus
        cases noStatus
      exact Bank.absent_before_close absent apart
  | setActivationPoint accounts activationPoint =>
      obtain ⟨distributor, _, _, _, rfl⟩ := setActivationPoint_eq_ok.mp accepted
      exact Bank.absent_before_set absent
  | newClaim accounts amountUnlocked amountLocked proof =>
      obtain ⟨distributor, bonus, paid, moved, checks, rfl⟩ := newClaim_eq_ok.mp accepted
      exact (transferSigned_effect checks.transferred).absent_before
        (Bank.absent_before_set (Bank.absent_before_set absent))
  | claimLocked accounts =>
      obtain ⟨distributor, status, amount, moved, checks, rfl⟩ := claimLocked_eq_ok.mp accepted
      exact (transferSigned_effect checks.transferred).absent_before
        (Bank.absent_before_set (Bank.absent_before_set absent))
  | clawback accounts =>
      obtain ⟨distributor, vault, moved, checks, rfl⟩ := clawback_eq_ok.mp accepted
      exact (transferSigned_effect checks.transferred).absent_before
        (Bank.absent_before_set absent)
  | setClawbackReceiver accounts =>
      obtain ⟨distributor, receiver, _, _, _, _, _, _, rfl⟩ :=
        setClawbackReceiver_eq_ok.mp accepted
      exact Bank.absent_before_set absent
  | setAdmin accounts =>
      obtain ⟨distributor, _, _, _, _, rfl⟩ := setAdmin_eq_ok.mp accepted
      exact Bank.absent_before_set absent
  | transfer source destination authority amount =>
      simp only [bind_eq_ok, pure_eq, Except.ok.injEq] at accepted
      obtain ⟨moved, done, rfl⟩ := accepted
      exact (tokenTransfer_effect done).1.absent_before absent

/-- The associated token account program allocates empty accounts of tokens. -/
def AssociatedAccount (env : Env) (key : Pubkey) (account : Account) : Prop :=
  ∃ owner mint, key = env.associatedTokenAddress owner mint ∧
    account = .token { mint, owner, amount := 0 }

/-- The program derives no associated address. -/
def AssociatedApart (env : Env) : Prop :=
  ∀ owner mint, Underived env (env.associatedTokenAddress owner mint)

theorem AssociatedAccount.underived (apart : AssociatedApart env) {account : Account}
    (allowed : AssociatedAccount env key account) : Underived env key := by
  obtain ⟨owner, mint, rfl, _⟩ := allowed
  exact apart owner mint

/-- The program does not mind that token accounts are created. -/
theorem execute_growable (apart : AssociatedApart env) :
    Growable (machine env) (DerivedOnly env) (AssociatedAccount env) where
  step := fun only accepted => only.step accepted
  allocate := by
    intro bank key account only allowed other underived
    obtain ⟨owner, mint, -, rfl⟩ := allowed
    obtain ⟨noDistributor, noStatus⟩ := only other underived
    by_cases here : other = key
    · subst here
      simp [Bank.distributor?, Bank.claimStatus?]
    · simp only [Bank.distributor?, Bank.claimStatus?, Function.update_of_ne here]
      exact ⟨noDistributor, noStatus⟩
  kept := fun only allowed accepted absent =>
    absent_before only (allowed.underived apart) accepted absent
  grown := fun allowed free accepted =>
    ⟨_, execute_grown free (allowed.underived apart) accepted, rfl⟩

end Growable

/-! ## Transactions of several instructions -/

section Nodes

variable {env : Env} {start bank after : Bank} {tx : NodeTransaction env}

/-- The transactions of the program that an instruction stands for. -/
theorem instruction_allocates {keyring : Keyring env} {clock : Clock}
    {instruction : CommandInstruction}
    (executed : instruction.execute keyring clock bank = .ok after) :
    AllocatingRun (machine env) (AssociatedAccount env) bank
      (NodeTransaction.parts ⟨keyring, clock, [instruction]⟩) after := by
  cases instruction with
  | setComputeUnitPrice fee =>
      cases executed
      exact .start
  | createAssociatedTokenAccount payer owner mint =>
      obtain ⟨⟨_, _, free⟩, rfl⟩ := createAssociated_eq_ok.mp executed
      exact .allocate .start free ⟨owner, mint, rfl, rfl⟩
  | program instruction =>
      obtain ⟨receipt, accepted, rfl⟩ := executeTransaction_program.mp
        (executeTransaction_singleton.mpr executed)
      exact .step .start accepted

/-- A transaction is a run of its parts in which token accounts are created. -/
theorem node_allocates
    (executed : executeTransaction tx.keyring tx.clock bank tx.instructions = .ok after) :
    AllocatingRun (machine env) (AssociatedAccount env) bank tx.parts.reverse after := by
  obtain ⟨keyring, clock, instructions⟩ := tx
  induction instructions generalizing bank with
  | nil =>
      cases executed
      exact .start
  | cons instruction instructions inductionHypothesis =>
      obtain ⟨middle, first, later⟩ := executeTransaction_cons.mp executed
      have whole := (instruction_allocates first).trans (inductionHypothesis later)
      have split : NodeTransaction.parts ⟨keyring, clock, instruction :: instructions⟩ =
          NodeTransaction.parts ⟨keyring, clock, [instruction]⟩ ++
            NodeTransaction.parts ⟨keyring, clock, instructions⟩ := by
        rw [NodeTransaction.parts, ← List.singleton_append, List.filterMap_append]
        rfl
      have single : (NodeTransaction.parts
          ⟨keyring, clock, [instruction]⟩).reverse =
            NodeTransaction.parts ⟨keyring, clock, [instruction]⟩ := by
        cases instruction <;> rfl
      rw [split, List.reverse_append, single]
      exact whole

/-- The record of transactions of several instructions. -/
abbrev NodeHistory (env : Env) : Type :=
  List (Entry Bank (NodeTransaction env) ProgramError Bank)

/-- The transactions of the program in accepted ones of several instructions, the latest
first. -/
def partsOf (history : NodeHistory env) : List (Transaction env) :=
  (commits history).flatMap fun commit => commit.input.parts.reverse

/-- A run of transactions of several instructions is a run of their parts in which token
accounts are created. -/
theorem nodeRun_allocates {history : NodeHistory env}
    (run : Run (nodeMachine env) start history bank) :
    AllocatingRun (machine env) (AssociatedAccount env) start (partsOf history) bank := by
  refine run.commit_invariant (fun accepted bank => AllocatingRun (machine env)
    (AssociatedAccount env) start
      (accepted.flatMap fun commit => commit.input.parts.reverse) bank) .start ?_
  intro history state input outcome _ sofar accepted
  exact sofar.trans (node_allocates accepted)

/-- Whatever is done in transactions of several instructions, that create token accounts too,
is done by a run of single instructions: it starts where the created token accounts already
are, accepts exactly the instructions of the accepted transactions, in their order, and ends
with the same accounts. -/
theorem nodeRun_refines {history : NodeHistory env} (apart : AssociatedApart env)
    (genesis : Genesis start) (run : Run (nodeMachine env) start history bank) :
    ∃ prepared record, Genesis prepared ∧ Reaches env prepared record bank ∧
      (commits record).map Commit.input = partsOf history ∧
      ∀ key, prepared key = start key ∨
        start key = none ∧ ∃ account, prepared key = some account ∧
          AssociatedAccount env key account := by
  obtain ⟨prepared, record, _, reached, same, extended⟩ :=
    (nodeRun_allocates run).allocated_first (execute_growable apart) genesis.derivedOnly
  refine ⟨prepared, record, ?_, reached, same, extended⟩
  intro key
  rcases extended key with kept | ⟨_, account, isAccount, owner, mint, -, rfl⟩
  · rw [kept]
    exact genesis key
  · rw [isAccount]
    exact ⟨fun data isData => (by cases isData), fun data isData => (by cases isData)⟩

end Nodes

/-! ## Commands -/

section Commands

variable {env : Env} {keyring : Keyring env} {clocks : Nat → Clock} {Result : Type}

/-- One call to the node is no transaction, or one. -/
theorem answer_run (world : NodeWorld) (call : NodeCall) :
    ∃ history, Run (nodeMachine env) world.bank history
      (world.answer keyring clocks call).2.bank := by
  cases call with
  | account address =>
      refine ⟨[], ?_⟩
      rw [NodeWorld.answer]
      split <;> exact .start
  | distributor address =>
      refine ⟨[], ?_⟩
      rw [NodeWorld.answer]
      split <;> exact .start
  | latestBlockhash => exact ⟨[], .start⟩
  | send transaction =>
      cases executed : executeTransaction keyring (clocks world.sent) world.bank transaction with
      | ok after =>
          rw [answer_send_of_ok executed]
          have accepted : (nodeMachine env).step world.bank
              ⟨keyring, clocks world.sent, transaction⟩ = .ok after := executed
          exact ⟨_, Run.start.commit accepted⟩
      | error failure =>
          rw [answer_send_of_error executed]
          exact ⟨[], .start⟩

/-- Every command that only calls the node makes a run. -/
theorem serve_run (program : NodeProgram Result) (world : NodeWorld) :
    ∃ history, Run (nodeMachine env) world.bank history
      (program.serve (NodeWorld.answer keyring clocks) world).2.bank := by
  induction program generalizing world with
  | done result => exact ⟨[], .start⟩
  | call request rest inductionHypothesis =>
      obtain ⟨first, one⟩ := @answer_run env keyring clocks world request
      obtain ⟨later, two⟩ := inductionHypothesis (world.answer keyring clocks request).1
        (world.answer keyring clocks request).2
      exact ⟨later ++ first, one.trans two⟩

/-- A command that someone runs, with the clocks at which its transactions are executed. -/
structure Session (env : Env) where
  Result : Type
  program : NodeProgram Result
  keyring : Keyring env
  clocks : Nat → Clock

/-- The accounts after the command. -/
def Session.serve (session : Session env) (bank : Bank) : Bank :=
  (session.program.serve (NodeWorld.answer session.keyring session.clocks) ⟨bank, 0⟩).2.bank

/-- The accounts after some commands, one after another. -/
def serveAll (start : Bank) (sessions : List (Session env)) : Bank :=
  sessions.foldl (fun bank session => session.serve bank) start

theorem serveAll_run (start : Bank) (sessions : List (Session env)) :
    ∃ history, Run (nodeMachine env) start history (serveAll start sessions) := by
  induction sessions generalizing start with
  | nil => exact ⟨[], .start⟩
  | cons session sessions inductionHypothesis =>
      obtain ⟨first, one⟩ := @serve_run env session.keyring session.clocks _ session.program
        ⟨start, 0⟩
      obtain ⟨later, two⟩ := inductionHypothesis (session.serve start)
      exact ⟨later ++ first, one.trans two⟩

end Commands

section Sample

theorem sampleEnv_apart : AssociatedApart sampleEnv := by
  intro owner mint seeds
  change (sampleFind seeds).1 ≠ if owner = sampleKey ∧ mint = sampleMint then sampleVault
    else .replicate 254
  unfold sampleFind
  split_ifs <;> decide +kernel

/-- The admin creates a token account and the distributor in one transaction. -/
def createdTogether : Session sampleEnv where
  Result := Except Unit Unit
  program := Program.ask (NodeCall.send
    [.createAssociatedTokenAccount sampleAdmin alice sampleMint,
      .program (createSample sampleTree.merkleRoot false).instruction])
  keyring := adminKeyring
  clocks := fun _ => ⟨20, 20⟩

end Sample

end Airdrop
