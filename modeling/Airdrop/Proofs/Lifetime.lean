/-
Module: Airdrop.Proofs.Lifetime
Purpose: The life of one distributor, from its creation until it is closed, as a
  run; what such a run claimed, granted, clawed back and received, read off its
  receipts.
Trusted boundary: none
Main exports: claimPayments, bonusesGranted, clawedOut, deposits, SameTerms,
  LivingStep, livingStep, Founded, Founded.creation, Founded.lifetime, Lifetime,
  Lifetime.invariant, Lifetime.wellFormed, Lifetime.current, Lifetime.step, Lifetime.upTo,
  Lifetime.commit_of_mem, Lifetime.stepOf, Founded.played
-/
import Airdrop.Proofs.WellFormed

namespace Airdrop

open Checked Transition

/-! ## What the receipts of a run say -/

/-- The distributor that an instruction claims from. -/
def Instruction.claimedFrom : Instruction → Option Pubkey
  | .newClaim accounts _ _ _ => some accounts.distributor
  | .claimLocked accounts => some accounts.distributor
  | _ => none

/-- The distributor that an instruction claws back. -/
def Instruction.clawedBack : Instruction → Option Pubkey
  | .clawback accounts => some accounts.distributor
  | _ => none

/-- The distributor that an instruction closes. -/
def Instruction.closed : Instruction → Option Pubkey
  | .closeDistributor accounts => some accounts.distributor
  | _ => none

/-- The distributor that an instruction creates. -/
def Instruction.created : Instruction → Option Pubkey
  | .newDistributor accounts _ => some accounts.distributor
  | .newDistributor2 accounts _ _ _ => some accounts.distributor
  | _ => none

section Kinds

variable {instruction : Instruction} {key : Pubkey}

theorem Instruction.distributorKey_of_claimedFrom
    (claims : instruction.claimedFrom = some key) :
    instruction.distributorKey = some key := by
  cases instruction with
  | newClaim accounts amountUnlocked amountLocked proof => exact claims
  | claimLocked accounts => exact claims
  | _ => exact absurd claims (by simp [Instruction.claimedFrom])

theorem Instruction.distributorKey_of_clawedBack
    (clawsBack : instruction.clawedBack = some key) :
    instruction.distributorKey = some key := by
  cases instruction with
  | clawback accounts => exact clawsBack
  | _ => exact absurd clawsBack (by simp [Instruction.clawedBack])

theorem Creation.created {after : MerkleDistributor}
    (creation : Creation key after instruction) : instruction.created = some key := by
  cases creation with
  | plain here written => exact congrArg some here
  | withBonus here isMax written => exact congrArg some here

/-- A setting instruction creates, claims, claws back and closes nothing. -/
theorem Tuning.only {before after : MerkleDistributor}
    (tuning : Tuning key before after instruction) :
    instruction.created = none ∧ instruction.claimedFrom = none ∧
      instruction.clawedBack = none ∧ instruction.closed = none := by
  cases tuning with
  | activationPoint here => exact ⟨rfl, rfl, rfl, rfl⟩
  | clawbackReceiver here => exact ⟨rfl, rfl, rfl, rfl⟩
  | admin here => exact ⟨rfl, rfl, rfl, rfl⟩

end Kinds

/-- The transactions of a run that were executed successfully. -/
abbrev Commits (env : Env) : Type :=
  List (Commit Bank (Transaction env) Receipt)

section Measures

variable {env : Env}

/-- The tokens that claims of one distributor moved out of its vault. -/
def claimPayments (key vault : Pubkey) (commits : Commits env) : Nat :=
  (commits.map fun commit =>
    if commit.input.instruction.claimedFrom = some key then
      outflow vault commit.outcome.transfers
    else 0).sum

/-- What one transaction paid on top of the unlocked amount that it claimed. -/
def grantedBonus (key vault : Pubkey)
    (commit : Commit Bank (Transaction env) Receipt) : Nat :=
  match commit.input.instruction with
  | .newClaim accounts amountUnlocked _ _ =>
      if accounts.distributor = key then
        outflow vault commit.outcome.transfers - amountUnlocked.toNat
      else 0
  | _ => 0

/-- The bonuses that new claims of one distributor were paid. -/
def bonusesGranted (key vault : Pubkey) (commits : Commits env) : Nat :=
  (commits.map (grantedBonus key vault)).sum

/-- The tokens that clawbacks of one distributor moved out of its vault. -/
def clawedOut (key vault : Pubkey) (commits : Commits env) : Nat :=
  (commits.map fun commit =>
    if commit.input.instruction.clawedBack = some key then
      outflow vault commit.outcome.transfers
    else 0).sum

/-- The tokens that reached an account, whoever moved them there. -/
def deposits (vault : Pubkey) (commits : Commits env) : Nat :=
  (commits.map fun commit => inflow vault commit.outcome.transfers).sum

theorem grantedBonus_of_elsewhere {key vault : Pubkey}
    {commit : Commit Bank (Transaction env) Receipt}
    (elsewhere : commit.input.instruction.claimedFrom ≠ some key) :
    grantedBonus key vault commit = 0 := by
  unfold grantedBonus
  split
  · rename_i accounts amountUnlocked amountLocked proof instruction
    rw [instruction] at elsewhere
    exact if_neg fun here => elsewhere (congrArg some here)
  · rfl

end Measures

/-- Where nothing is paid from, nothing flows out. -/
theorem outflow_eq_zero {key : Pubkey} {transfers : List Transfer}
    (elsewhere : ∀ transfer ∈ transfers, transfer.source ≠ key) :
    outflow key transfers = 0 := by
  unfold outflow
  apply List.sum_eq_zero
  intro amount member
  obtain ⟨transfer, among, rfl⟩ := List.mem_map.mp member
  exact if_neg fun both => elsewhere transfer among both.1

/-! ## What never changes -/

/-- `current` has the terms that `created` was given: only the counters, the
activation point, the receiver, the admin and the clawback mark may differ. -/
def SameTerms (created current : MerkleDistributor) : Prop :=
  current = { created with
    totalAmountClaimed := current.totalAmountClaimed
    numNodesClaimed := current.numNodesClaimed
    clawbackReceiver := current.clawbackReceiver
    admin := current.admin
    clawedBack := current.clawedBack
    activationPoint := current.activationPoint
    airdropBonus := { created.airdropBonus with
      totalClaimedBonus := current.airdropBonus.totalClaimedBonus } }

namespace SameTerms

variable {created before after : MerkleDistributor}

theorem refl (created : MerkleDistributor) : SameTerms created created := rfl

theorem advance (same : SameTerms created before) {nodes paid bonus : Nat}
    (advanced : Advanced before after nodes paid bonus) :
    SameTerms created after := by
  unfold SameTerms at same ⊢
  rw [advanced.rest, same]

theorem retune (same : SameTerms created before) (retuned : Retuned before after) :
    SameTerms created after := by
  unfold SameTerms Retuned at *
  rw [retuned, same]

theorem clawBack (same : SameTerms created before) :
    SameTerms created { before with clawedBack := true } := by
  unfold SameTerms at same ⊢
  rw [same]

theorem trans (first : SameTerms created before) (second : SameTerms before after) :
    SameTerms created after := by
  unfold SameTerms at *
  rw [second, first]

theorem tokenVault (same : SameTerms created before) :
    before.tokenVault = created.tokenVault := by
  rw [same]

theorem root (same : SameTerms created before) : before.root = created.root := by
  rw [same]

theorem closable (same : SameTerms created before) :
    before.closable = created.closable := by
  rw [same]

theorem mint (same : SameTerms created before) : before.mint = created.mint := by
  rw [same]

theorem maxTotalClaim (same : SameTerms created before) :
    before.maxTotalClaim = created.maxTotalClaim := by
  rw [same]

theorem startTs (same : SameTerms created before) : before.startTs = created.startTs := by
  rw [same]

theorem endTs (same : SameTerms created before) : before.endTs = created.endTs := by
  rw [same]

theorem clawbackStartTs (same : SameTerms created before) :
    before.clawbackStartTs = created.clawbackStartTs := by
  rw [same]

theorem maxNumNodes (same : SameTerms created before) :
    before.maxNumNodes = created.maxNumNodes := by
  rw [same]

end SameTerms

/-- A distributor keeps its address and its terms until it is closed. -/
theorem terms_kept {env : Env} {tx : Transaction env} {bank : Bank}
    {receipt : Receipt} {key : Pubkey} {before : MerkleDistributor}
    (accepted : execute env bank tx = .ok receipt)
    (unclosed : tx.instruction.closed ≠ some key)
    (found : bank key = some (.distributor before)) :
    ∃ after, receipt.bank key = some (.distributor after) ∧
      SameTerms before after := by
  cases distributorStep accepted key with
  | other elsewhere kept notPaid =>
      refine ⟨before, ?_, .refl before⟩
      rw [← Bank.distributor?_eq_some, kept, Bank.distributor?_eq_some, found]
  | created creation effect =>
      rw [effect.fresh] at found
      exact absurd found (by simp)
  | claimed instruction here checks effect =>
      obtain rfl := Bank.distributor_unique found effect.isDistributor
      exact ⟨_, Bank.distributor_of_update effect.distributors,
        (SameTerms.refl before).advance effect.advanced⟩
  | withdrawn instruction here checks effect =>
      obtain rfl := Bank.distributor_unique found effect.isDistributor
      exact ⟨_, Bank.distributor_of_update effect.distributors,
        (SameTerms.refl before).advance effect.advanced⟩
  | clawedBack instruction here checks effect =>
      obtain rfl := Bank.distributor_unique found effect.isDistributor
      exact ⟨_, Bank.distributor_of_update effect.distributors,
        (SameTerms.refl before).clawBack⟩
  | closed instruction here checks effect =>
      refine absurd ?_ unclosed
      rw [instruction]
      exact congrArg some here
  | tuned tuning effect =>
      obtain rfl := Bank.distributor_unique found effect.isDistributor
      exact ⟨_, Bank.distributor_of_update effect.distributors,
        (SameTerms.refl before).retune effect.retuned⟩

/-- Where there is no distributor, nothing but a creation works or leaves one. -/
theorem absence_kept {env : Env} {tx : Transaction env} {bank : Bank}
    {receipt : Receipt} {key : Pubkey}
    (accepted : execute env bank tx = .ok receipt)
    (uncreated : tx.instruction.created ≠ some key)
    (absent : bank.distributor? key = none) :
    receipt.bank.distributor? key = none ∧
      tx.instruction.distributorKey ≠ some key := by
  have impossible {data : MerkleDistributor} {conclusion : Prop}
      (found : bank key = some (.distributor data)) : conclusion := by
    rw [← Bank.distributor?_eq_some, absent] at found
    exact absurd found (by simp)
  cases distributorStep accepted key with
  | other elsewhere same notPaid => exact ⟨same.trans absent, elsewhere⟩
  | created creation effect => exact absurd creation.created uncreated
  | claimed instruction here checks effect => exact impossible effect.isDistributor
  | withdrawn instruction here checks effect => exact impossible effect.isDistributor
  | clawedBack instruction here checks effect => exact impossible effect.isDistributor
  | closed instruction here checks effect => exact impossible effect.isDistributor
  | tuned tuning effect => exact impossible effect.isDistributor

/-! ## One step in the life of a distributor -/

/-- What a transaction that does not close the distributor at `key` can make of
it, and what it takes out of the vault. -/
inductive LivingStep (env : Env) (tx : Transaction env) (bank : Bank)
    (receipt : Receipt) (key : Pubkey) (before : MerkleDistributor) :
    MerkleDistributor → Prop where
  | other (notClaimed : tx.instruction.claimedFrom ≠ some key)
      (notClawedBack : tx.instruction.clawedBack ≠ some key)
      (nothing : outflow before.tokenVault receipt.transfers = 0) :
      LivingStep env tx bank receipt key before before
  | claimed {accounts : NewClaim} {amountUnlocked amountLocked : U64}
      {proof : List Hash} {bonus paid : U64} {moved : Bank}
      (instruction : tx.instruction =
        .newClaim accounts amountUnlocked amountLocked proof)
      (here : accounts.distributor = key)
      (checks : NewClaimChecks env tx.clock tx.signers bank accounts amountUnlocked
        amountLocked proof before bonus paid moved)
      (effect : ClaimEffect bank receipt key accounts.claimStatus accounts.toAccount
        accounts.claimant before (before.counted 1 paid bonus)
        (newClaimStatus accounts before amountLocked paid) 1 paid.toNat bonus.toNat)
      (flow : outflow before.tokenVault receipt.transfers = paid.toNat) :
      LivingStep env tx bank receipt key before (before.counted 1 paid bonus)
  | withdrawn {accounts : ClaimLocked} {status : ClaimStatus} {amount : U64}
      {moved : Bank}
      (instruction : tx.instruction = .claimLocked accounts)
      (here : accounts.distributor = key)
      (checks : ClaimLockedChecks env tx.clock tx.signers bank accounts before status
        amount moved)
      (effect : ClaimEffect bank receipt key accounts.claimStatus accounts.toAccount
        accounts.claimant before (before.counted 0 amount 0)
        (status.withdrawn amount) 0 amount.toNat 0)
      (flow : outflow before.tokenVault receipt.transfers = amount.toNat) :
      LivingStep env tx bank receipt key before (before.counted 0 amount 0)
  | clawedBack {accounts : Clawback} {vault : TokenAccount} {moved : Bank}
      (instruction : tx.instruction = .clawback accounts)
      (here : accounts.distributor = key)
      (checks : ClawbackChecks env tx.clock tx.signers bank accounts before vault
        moved)
      (effect : SweepEffect bank receipt key before.clawbackReceiver before vault
        (some { before with clawedBack := true })) :
      LivingStep env tx bank receipt key before { before with clawedBack := true }
  | tuned {after : MerkleDistributor}
      (tuning : Tuning key before after tx.instruction)
      (effect : TuningEffect tx.signers bank receipt key before after)
      (nothing : outflow before.tokenVault receipt.transfers = 0) :
      LivingStep env tx bank receipt key before after

section LivingStep

variable {env : Env} {tx : Transaction env} {bank : Bank} {receipt : Receipt}
variable {key : Pubkey} {before : MerkleDistributor}

/-- A distributor signs no transaction. -/
theorem WellFormed.not_signer (formed : WellFormed env key before) :
    key ∉ tx.signers := by
  have made := env.create_find
    (distributorSeeds before.base before.mint before.version)
  rw [formed.derived] at made
  exact tx.no_derived_signer _ _ made

/-- A claim takes its whole payment out of the vault: its recipient belongs to a
signer, so it is another account. -/
theorem ClaimEffect.flow {statusKey toAccount claimant : Pubkey}
    {after : MerkleDistributor} {status : ClaimStatus} {nodes paid bonus : Nat}
    (effect : ClaimEffect bank receipt key statusKey toAccount claimant before after
      status nodes paid bonus)
    (formed : WellFormed env key before) (signed : claimant ∈ tx.signers) :
    outflow before.tokenVault receipt.transfers = paid := by
  obtain ⟨amount, rfl, transfers⟩ := effect.transfers
  have apart : toAccount ≠ before.tokenVault := by
    intro same
    obtain ⟨vault, isVault, vaultOwner, _⟩ := effect.vault
    obtain ⟨recipient, isRecipient, recipientOwner⟩ := effect.recipient
    rw [same] at isRecipient
    rw [Bank.token_unique isRecipient isVault, vaultOwner] at recipientOwner
    exact formed.not_signer (recipientOwner ▸ signed)
  rw [transfers, outflow_singleton, if_pos ⟨rfl, apart⟩]

theorem livingStep {vault : TokenAccount}
    (accepted : execute env bank tx = .ok receipt)
    (unclosed : tx.instruction.closed ≠ some key)
    (formed : WellFormed env key before)
    (found : bank key = some (.distributor before))
    (isVault : bank before.tokenVault = some (.token vault))
    (vaultOwner : vault.owner = key) :
    ∃ after, receipt.bank key = some (.distributor after) ∧
      LivingStep env tx bank receipt key before after := by
  cases distributorStep accepted key with
  | other elsewhere kept notPaid =>
      refine ⟨before, ?_, .other ?_ ?_ (outflow_eq_zero ?_)⟩
      · rw [← Bank.distributor?_eq_some, kept, Bank.distributor?_eq_some, found]
      · exact fun claims =>
          elsewhere (Instruction.distributorKey_of_claimedFrom claims)
      · exact fun clawsBack =>
          elsewhere (Instruction.distributorKey_of_clawedBack clawsBack)
      · intro transfer member same
        exact formed.not_signer
          (notPaid transfer member vault (same ▸ isVault) vaultOwner)
  | created creation effect =>
      rw [effect.fresh] at found
      exact absurd found (by simp)
  | claimed instruction here checks effect =>
      obtain rfl := Bank.distributor_unique found effect.isDistributor
      exact ⟨_, Bank.distributor_of_update effect.distributors,
        .claimed instruction here checks effect
          (effect.flow formed checks.valid.signed)⟩
  | withdrawn instruction here checks effect =>
      obtain rfl := Bank.distributor_unique found effect.isDistributor
      exact ⟨_, Bank.distributor_of_update effect.distributors,
        .withdrawn instruction here checks effect
          (effect.flow formed checks.valid.signed)⟩
  | clawedBack instruction here checks effect =>
      obtain rfl := Bank.distributor_unique found effect.isDistributor
      exact ⟨_, Bank.distributor_of_update effect.distributors,
        .clawedBack instruction here checks effect⟩
  | closed instruction here checks effect =>
      refine absurd ?_ unclosed
      rw [instruction]
      exact congrArg some here
  | tuned tuning effect =>
      obtain rfl := Bank.distributor_unique found effect.isDistributor
      exact ⟨_, Bank.distributor_of_update effect.distributors,
        .tuned tuning effect (by rw [effect.noTransfer, outflow_nil])⟩

end LivingStep

/-! ## The life of a distributor -/

/-- The transaction `founding`, after a run from genesis, creates a distributor
at `key`. -/
structure Founded (env : Env) (earlier : History env)
    (founding : Commit Bank (Transaction env) Receipt) (key : Pubkey)
    (created : MerkleDistributor) : Prop where
  origin : ∃ start, Genesis start ∧ Reaches env start earlier founding.before
  accepted : execute env founding.before founding.input = .ok founding.outcome
  creates : founding.input.instruction.created = some key
  born : founding.outcome.bank key = some (.distributor created)

/-- A run that goes on from the creation of a distributor without closing it. -/
structure Lifetime (env : Env) (earlier : History env)
    (founding : Commit Bank (Transaction env) Receipt) (key : Pubkey)
    (created : MerkleDistributor) (history : History env) (bank : Bank) : Prop extends
    Founded env earlier founding key created where
  run : Reaches env founding.outcome.bank history bank
  unclosed : ∀ commit ∈ commits history, commit.input.instruction.closed ≠ some key

section Lifetime

variable {env : Env} {earlier history : History env} {key : Pubkey}
variable {founding : Commit Bank (Transaction env) Receipt}
variable {created distributor : MerkleDistributor} {bank : Bank}
variable {tx : Transaction env} {receipt : Receipt}

/-- Everything up to now is one run from genesis. -/
theorem Lifetime.reachable (life : Lifetime env earlier founding key created history
    bank) :
    ∃ start all, Genesis start ∧ Reaches env start all bank ∧
      commits all = commits history ++ founding :: commits earlier := by
  obtain ⟨start, genesis, before⟩ := life.origin
  have creation : Reaches env start
      ((machine env).attempt founding.before founding.input :: earlier)
      founding.outcome.bank := before.commit life.accepted
  have accepted : (machine env).step founding.before founding.input =
      .ok founding.outcome := life.accepted
  refine ⟨start, _, genesis, creation.trans life.run, ?_⟩
  rw [commits_append, commits_of_ok accepted]

theorem Lifetime.wellFormed (life : Lifetime env earlier founding key created history
    bank) (found : bank key = some (.distributor distributor)) :
    WellFormed env key distributor := by
  obtain ⟨start, all, genesis, run, _⟩ := life.reachable
  exact reachable_wellFormed genesis run found

/-- What an accepted creating instruction has written and done. -/
theorem creation_of_created (accepted : execute env bank tx = .ok receipt)
    (creates : tx.instruction.created = some key) :
    ∃ written, Creation key written tx.instruction ∧
      CreationEffect env tx.clock bank receipt key written := by
  cases committed accepted with
  | @created other after creation effect =>
      have here : other = key := by
        rw [creation.created] at creates
        exact Option.some.inj creates
      subst here
      exact ⟨after, creation, effect⟩
  | tuned tuning effect => exact absurd creates (by simp [tuning.only])
  | _ instruction => exact absurd creates (by simp [instruction, Instruction.created])

theorem Founded.creation (founded : Founded env earlier founding key created) :
    Creation key created founding.input.instruction ∧
      CreationEffect env founding.input.clock founding.before founding.outcome key
        created := by
  obtain ⟨written, creation, effect⟩ :=
    creation_of_created founded.accepted founded.creates
  have same : founding.outcome.bank.distributor? key = some written := by
    rw [effect.distributors, Function.update_self]
  rw [Bank.distributor?_eq_some, founded.born, Option.some.injEq,
    Account.distributor.injEq] at same
  rw [same]
  exact ⟨creation, effect⟩

/-- The induction rule for the successful transactions in the life of a
distributor. -/
theorem Lifetime.invariant (Inv : Commits env → Bank → Prop)
    (initial : CreationEffect env founding.input.clock founding.before
      founding.outcome key created → Inv [] founding.outcome.bank)
    (step : ∀ {history bank tx receipt},
      Lifetime env earlier founding key created history bank →
      Inv (commits history) bank → execute env bank tx = .ok receipt →
      tx.instruction.closed ≠ some key →
      Inv (⟨bank, tx, receipt⟩ :: commits history) receipt.bank)
    (life : Lifetime env earlier founding key created history bank) :
    Inv (commits history) bank := by
  refine Run.commit_invariant (fun done bank =>
    (∀ commit ∈ done, commit.input.instruction.closed ≠ some key) → Inv done bank)
    ?_ ?_ life.run life.unclosed
  · intro _
    exact initial life.creation.2
  · intro history bank tx receipt run holds accepted unclosed
    have before : ∀ commit ∈ commits history,
        commit.input.instruction.closed ≠ some key :=
      fun commit member => unclosed commit (List.mem_cons_of_mem _ member)
    exact step { life with run, unclosed := before } (holds before) accepted
      (unclosed _ List.mem_cons_self)

/-- A distributor that is not closable lives on, whatever is attempted. -/
theorem Founded.lifetime (founded : Founded env earlier founding key created)
    (fixed : created.closable = false)
    (run : Reaches env founding.outcome.bank history bank) :
    Lifetime env earlier founding key created history bank := by
  suffices unclosed : (∀ commit ∈ commits history,
      commit.input.instruction.closed ≠ some key) ∧
      ∃ current, bank key = some (.distributor current) ∧ current.closable = false by
    exact { founded with run, unclosed := unclosed.1 }
  refine Run.commit_invariant (fun done (bank : Bank) =>
    (∀ commit ∈ done, commit.input.instruction.closed ≠ some key) ∧
      ∃ current, bank key = some (.distributor current) ∧ current.closable = false)
    ?_ ?_ run
  · exact ⟨by simp, created, founded.born, fixed⟩
  · intro history bank tx receipt _ ⟨sofar, current, found, notClosable⟩ accepted
    have now : tx.instruction.closed ≠ some key := by
      intro closes
      cases committed accepted with
      | created creation effect =>
          generalize tx.instruction = instruction at creation closes
          cases creation <;> simp [Instruction.closed] at closes
      | closed instruction checks effect =>
          rw [instruction, Instruction.closed, Option.some.injEq] at closes
          obtain rfl := Bank.distributor_unique (closes ▸ checks.isDistributor) found
          exact absurd checks.closable (by simp [notClosable])
      | tuned tuning effect => simp [tuning.only] at closes
      | _ instruction => simp [instruction, Instruction.closed] at closes
    obtain ⟨after, reached, same⟩ := terms_kept accepted now found
    refine ⟨?_, after, reached, same.closable.trans notClosable⟩
    intro commit member
    rcases List.mem_cons.mp member with rfl | isEarlier
    · exact now
    · exact sofar commit isEarlier

/-- The vault of a living distributor stays a token account of the distributor. -/
theorem Lifetime.vault (life : Lifetime env earlier founding key created history
    bank) :
    ∃ account, bank created.tokenVault = some (.token account) ∧
      account.owner = key := by
  refine life.invariant (fun _ bank => ∃ account,
    bank created.tokenVault = some (.token account) ∧ account.owner = key) ?_ ?_
  · intro effect
    obtain ⟨account, isVault, owner⟩ := effect.vault
    refine ⟨account, ?_, owner⟩
    rw [← Bank.token?_eq_some, effect.tokens, Bank.token?_eq_some, isVault]
  · intro history bank tx receipt sofar ⟨account, isVault, owner⟩ accepted unclosed
    obtain ⟨balance, after, _⟩ := (tokensMoved accepted).kept isVault
    exact ⟨_, after, owner⟩

/-- While it lives, a distributor is at its address, with the terms that its
creation gave it. -/
theorem Lifetime.current (life : Lifetime env earlier founding key created history
    bank) :
    ∃ distributor, bank key = some (.distributor distributor) ∧
      SameTerms created distributor := by
  refine life.invariant (fun _ bank => ∃ distributor,
    bank key = some (.distributor distributor) ∧ SameTerms created distributor) ?_ ?_
  · intro effect
    exact ⟨created, life.born, .refl created⟩
  · intro history bank tx receipt sofar ⟨before, found, same⟩ accepted unclosed
    obtain ⟨after, reached, kept⟩ := terms_kept accepted unclosed found
    exact ⟨after, reached, same.trans kept⟩

/-- The distributor found at its address has the terms of its creation. -/
theorem Lifetime.sameTerms
    (life : Lifetime env earlier founding key created history bank)
    (found : bank key = some (.distributor distributor)) :
    SameTerms created distributor := by
  obtain ⟨current, isCurrent, same⟩ := life.current
  obtain rfl := Bank.distributor_unique found isCurrent
  exact same

/-- What a successful transaction can do in the life of a distributor. -/
theorem Lifetime.step (life : Lifetime env earlier founding key created history bank)
    (found : bank key = some (.distributor distributor))
    (accepted : execute env bank tx = .ok receipt)
    (unclosed : tx.instruction.closed ≠ some key) :
    ∃ after, receipt.bank key = some (.distributor after) ∧
      LivingStep env tx bank receipt key distributor after := by
  obtain ⟨account, isVault, owner⟩ := life.vault
  rw [← (life.sameTerms found).tokenVault] at isVault
  exact livingStep accepted unclosed (life.wellFormed found) found isVault owner

/-- The life up to an earlier state of its run. -/
theorem Lifetime.upTo (life : Lifetime env earlier founding key created history bank)
    {sofar : History env} {before : Bank}
    (reached : Reaches env founding.outcome.bank sofar before)
    (within : ∀ commit ∈ commits sofar, commit ∈ commits history) :
    Lifetime env earlier founding key created sofar before :=
  { life with
    run := reached
    unclosed := fun commit member => life.unclosed commit (within commit member) }

/-- A transaction in the life of a distributor was accepted at a state that the life had
reached. -/
theorem Lifetime.commit_of_mem {commit : Commit Bank (Transaction env) Receipt}
    (life : Lifetime env earlier founding key created history bank)
    (member : commit ∈ commits history) :
    ∃ sofar, Lifetime env earlier founding key created sofar commit.before ∧
      execute env commit.before commit.input = .ok commit.outcome := by
  obtain ⟨later, sofar, together, reached, accepted, _⟩ := life.run.commit_of_mem member
  refine ⟨sofar, life.upTo reached ?_, accepted⟩
  intro other isEarlier
  rw [together]
  exact List.mem_append_right _ (List.mem_cons_of_mem _ isEarlier)

/-- A transaction in the life of a distributor meets it on the terms of its creation, and
makes one of the steps that such a life has. -/
theorem Lifetime.stepOf {commit : Commit Bank (Transaction env) Receipt}
    (life : Lifetime env earlier founding key created history bank)
    (member : commit ∈ commits history) :
    ∃ before after, commit.before key = some (.distributor before) ∧
      SameTerms created before ∧
      LivingStep env commit.input commit.before commit.outcome key before after := by
  obtain ⟨_, sofar, accepted⟩ := life.commit_of_mem member
  obtain ⟨before, found, same⟩ := sofar.current
  obtain ⟨after, _, step⟩ := sofar.step found accepted (life.unclosed commit member)
  exact ⟨before, after, found, same, step⟩

/-- Transactions that follow the creation, none of which closes the distributor. -/
theorem Founded.played (founded : Founded env earlier founding key created)
    (transactions : List (Transaction env))
    (unclosed : ∀ tx ∈ transactions, tx.instruction.closed ≠ some key) :
    Lifetime env earlier founding key created
      ((machine env).play founding.outcome.bank transactions).1
      ((machine env).play founding.outcome.bank transactions).2 where
  toFounded := founded
  run := Run.play (machine env) _ transactions
  unclosed := by
    intro commit member
    obtain ⟨entry, isEntry, _, same, _⟩ := mem_commits.mp member
    rw [← same]
    exact unclosed _ (Run.input_of_play isEntry)

end Lifetime

/-! ## The life of the small deployment -/

section Sample

/-- The creation of the distributor. -/
def sampleFounding (root : Hash) (closable : Bool) :
    Commit Bank (Transaction sampleEnv) Receipt :=
  { before := sampleBank
    input := createSample root closable
    outcome := .quiet (sampleBank.set sampleKey
      (.distributor (sampleDistributor root closable))) }

/-- The accounts after the creation and some transactions. -/
def sampleThen (root : Hash) (closable : Bool)
    (transactions : List (Transaction sampleEnv)) : Bank :=
  ((machine sampleEnv).play (sampleFounding root closable).outcome.bank
    transactions).2

/-- The record of some transactions after the creation. -/
def sampleRecord (root : Hash) (closable : Bool)
    (transactions : List (Transaction sampleEnv)) : History sampleEnv :=
  ((machine sampleEnv).play (sampleFounding root closable).outcome.bank
    transactions).1

theorem sampleAccounts_valid :
    sampleAccounts.Valid sampleEnv [sampleAdmin, sampleBase] sampleBank 0 254 where
  baseSigned := List.mem_cons_of_mem _ List.mem_cons_self
  adminSigned := List.mem_cons_self
  isMint := by decide +kernel
  receiver := ⟨⟨sampleMint, sampleAdmin, 0⟩, by decide +kernel, rfl⟩
  vault := ⟨⟨sampleMint, sampleKey, 220⟩, by decide +kernel, rfl⟩
  vaultAssociated := by decide +kernel
  derived := by decide +kernel
  free := by decide +kernel

theorem sampleFounding_accepted (root : Hash) (closable : Bool) :
    execute sampleEnv sampleBank (createSample root closable) =
      .ok (sampleFounding root closable).outcome := by
  refine newDistributor2_eq_ok.mpr ⟨254, 220, ?_, rfl, rfl⟩
  exact
    { valid := sampleAccounts_valid
      ordered := show (100 : Int64).toInt < (200 : Int64).toInt by decide
      future := show (10 : Int64).toInt < (100 : Int64).toInt by decide
      clawbackAfterEnd := show (200 : Int64).toInt ≤ (300 : Int64).toInt by decide
      activation := ⟨.timestamp, rfl⟩ }

theorem sample_founded (root : Hash) (closable : Bool) :
    Founded sampleEnv [] (sampleFounding root closable) sampleKey
      (sampleDistributor root closable) where
  origin := ⟨sampleBank, sampleBank_genesis, .start⟩
  accepted := sampleFounding_accepted root closable
  creates := rfl
  born := by simp [sampleFounding, Receipt.quiet, Bank.set]

theorem sample_lifetime (root : Hash) (closable : Bool)
    (transactions : List (Transaction sampleEnv))
    (unclosed : ∀ tx ∈ transactions, tx.instruction.closed ≠ some sampleKey) :
    Lifetime sampleEnv [] (sampleFounding root closable) sampleKey
      (sampleDistributor root closable) (sampleRecord root closable transactions)
      (sampleThen root closable transactions) :=
  (sample_founded root closable).played transactions unclosed

end Sample

end Airdrop
