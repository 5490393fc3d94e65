/-
Module: Airdrop.Proofs.Authority
Purpose: Who can use the admin's instructions: what each of them checks besides
  the admin, which stored admin it is checked against, and what a hand-over by
  `set_admin` takes from the old admin and gives to the new one.
Trusted boundary: none
Main exports: Instruction.administers, Instruction.OtherwiseEnabled,
  administers_accepted_iff, closeClaimStatus_accepted_iff, Opened,
  claimStatus_opened, HandedOver, setAdmin_hands_over, revokedAdmin_acts
-/
import Airdrop.Proofs.Lifetime

namespace Airdrop

open Checked Transition

/-! ## The gates -/

/-- The distributor that an instruction of its admin works on, and the admin that
the instruction names. -/
def Instruction.administers : Instruction → Option (Pubkey × Pubkey)
  | .setAdmin accounts => some (accounts.distributor, accounts.admin)
  | .setActivationPoint accounts _ => some (accounts.distributor, accounts.admin)
  | .setClawbackReceiver accounts => some (accounts.distributor, accounts.admin)
  | .closeDistributor accounts => some (accounts.distributor, accounts.admin)
  | _ => none

/-- Everything that an instruction of an admin checks, except that the admin it
names is the stored one. -/
def Instruction.OtherwiseEnabled (env : Env) (signers : List Pubkey) (bank : Bank) :
    Instruction → Prop
  | .setAdmin accounts =>
      accounts.admin ∈ signers ∧ accounts.admin ≠ accounts.newAdmin ∧
        ∃ distributor, bank accounts.distributor = some (.distributor distributor)
  | .setActivationPoint accounts _ =>
      accounts.admin ∈ signers ∧
        ∃ distributor, bank accounts.distributor = some (.distributor distributor)
  | .setClawbackReceiver accounts =>
      accounts.admin ∈ signers ∧ ∃ distributor account,
        bank accounts.distributor = some (.distributor distributor) ∧
        bank accounts.newClawbackAccount = some (.token account) ∧
        account.mint = distributor.mint ∧
        distributor.clawbackReceiver ≠ accounts.newClawbackAccount
  | .closeDistributor accounts =>
      accounts.admin ∈ signers ∧ accounts.distributor ≠ accounts.admin ∧
        ∃ distributor vault destination moved,
          bank accounts.distributor = some (.distributor distributor) ∧
          bank accounts.tokenVault = some (.token vault) ∧
          bank accounts.destinationTokenAccount = some (.token destination) ∧
          distributor.tokenVault = accounts.tokenVault ∧
          distributor.closable = true ∧
          transferSigned env bank signers distributor.signerSeeds
            accounts.tokenVault accounts.destinationTokenAccount
            accounts.distributor vault.amount = .ok moved
  | .closeClaimStatus accounts =>
      accounts.admin ∈ signers ∧ accounts.claimStatus ≠ accounts.claimant ∧
        ∃ status, bank accounts.claimStatus = some (.claimStatus status) ∧
          status.claimant = accounts.claimant ∧ status.closable = true
  | _ => False

/-- The admin that the distributor at an address stores. -/
def Bank.adminOf (bank : Bank) (key : Pubkey) : Option Pubkey :=
  (bank.distributor? key).map MerkleDistributor.admin

section Gates

variable {env : Env} {tx : Transaction env} {bank : Bank} {key admin : Pubkey}

theorem Bank.adminOf_eq_some :
    bank.adminOf key = some admin ↔ ∃ distributor,
      bank key = some (.distributor distributor) ∧ distributor.admin = admin := by
  simp [Bank.adminOf, Option.map_eq_some_iff]

/-- An instruction of a distributor's admin is accepted exactly when it names the
admin that the distributor stores and is otherwise enabled. -/
theorem administers_accepted_iff
    (administers : tx.instruction.administers = some (key, admin)) :
    (∃ receipt, execute env bank tx = .ok receipt) ↔
      bank.adminOf key = some admin ∧
        tx.instruction.OtherwiseEnabled env tx.signers bank := by
  rw [Bank.adminOf_eq_some]
  cases instruction : tx.instruction with
  | setAdmin accounts =>
      simp only [instruction, Instruction.administers, Option.some.injEq,
        Prod.mk.injEq] at administers
      obtain ⟨rfl, rfl⟩ := administers
      simp only [execute, instruction, setAdmin_eq_ok, Instruction.OtherwiseEnabled]
      constructor
      · rintro ⟨_, distributor, isDistributor, signed, isAdmin, different, _⟩
        exact ⟨⟨distributor, isDistributor, isAdmin.symm⟩, signed, different,
          distributor, isDistributor⟩
      · rintro ⟨⟨distributor, isDistributor, isAdmin⟩, signed, different, _⟩
        exact ⟨_, distributor, isDistributor, signed, isAdmin.symm, different, rfl⟩
  | setActivationPoint accounts activationPoint =>
      simp only [instruction, Instruction.administers, Option.some.injEq,
        Prod.mk.injEq] at administers
      obtain ⟨rfl, rfl⟩ := administers
      simp only [execute, instruction, setActivationPoint_eq_ok,
        Instruction.OtherwiseEnabled]
      constructor
      · rintro ⟨_, distributor, isDistributor, signed, isAdmin, _⟩
        exact ⟨⟨distributor, isDistributor, isAdmin⟩, signed, distributor,
          isDistributor⟩
      · rintro ⟨⟨distributor, isDistributor, isAdmin⟩, signed, _⟩
        exact ⟨_, distributor, isDistributor, signed, isAdmin, rfl⟩
  | setClawbackReceiver accounts =>
      simp only [instruction, Instruction.administers, Option.some.injEq,
        Prod.mk.injEq] at administers
      obtain ⟨rfl, rfl⟩ := administers
      simp only [execute, instruction, setClawbackReceiver_eq_ok,
        Instruction.OtherwiseEnabled]
      constructor
      · rintro ⟨_, distributor, account, isDistributor, isAccount, signed, sameMint,
          isAdmin, different, _⟩
        exact ⟨⟨distributor, isDistributor, isAdmin.symm⟩, signed, distributor,
          account, isDistributor, isAccount, sameMint, different⟩
      · rintro ⟨⟨distributor, isDistributor, isAdmin⟩, signed, found, account, isFound,
          isAccount, sameMint, different⟩
        obtain rfl := Bank.distributor_unique isFound isDistributor
        exact ⟨_, found, account, isDistributor, isAccount, signed, sameMint,
          isAdmin.symm, different, rfl⟩
  | closeDistributor accounts =>
      simp only [instruction, Instruction.administers, Option.some.injEq,
        Prod.mk.injEq] at administers
      obtain ⟨rfl, rfl⟩ := administers
      simp only [execute, instruction, closeDistributor_eq_ok,
        Instruction.OtherwiseEnabled]
      constructor
      · rintro ⟨_, distributor, vault, moved, checks, _⟩
        obtain ⟨destination, isDestination⟩ := checks.isDestination
        exact ⟨⟨distributor, checks.isDistributor, checks.isAdmin⟩, checks.signed,
          checks.apart, distributor, vault, destination, moved, checks.isDistributor,
          checks.isVault, isDestination, checks.vaultAddress, checks.closable,
          checks.transferred⟩
      · rintro ⟨⟨distributor, isDistributor, isAdmin⟩, signed, apart, found, vault,
          destination, moved, isFound, isVault, isDestination, vaultAddress, closable,
          transferred⟩
        obtain rfl := Bank.distributor_unique isFound isDistributor
        exact ⟨_, found, vault, moved,
          { isDistributor
            isVault
            isDestination := ⟨destination, isDestination⟩
            signed
            isAdmin
            vaultAddress
            closable
            apart
            transferred }, rfl⟩
  | _ => simp [instruction, Instruction.administers] at administers

/-- A claim status is closed exactly by the admin that it stores itself. -/
theorem closeClaimStatus_accepted_iff {accounts : CloseClaimStatus}
    {status : ClaimStatus} (instruction : tx.instruction = .closeClaimStatus accounts)
    (isStatus : bank accounts.claimStatus = some (.claimStatus status)) :
    (∃ receipt, execute env bank tx = .ok receipt) ↔
      accounts.admin = status.admin ∧
        tx.instruction.OtherwiseEnabled env tx.signers bank := by
  simp only [execute, instruction, closeClaimStatus_eq_ok,
    Instruction.OtherwiseEnabled]
  constructor
  · rintro ⟨_, ⟨found, checks⟩, _⟩
    have isFound := checks.isClaimStatus
    rw [isStatus, Option.some.injEq, Account.claimStatus.injEq] at isFound
    subst isFound
    exact ⟨checks.isAdmin.symm, checks.signed, checks.apart, status, isStatus,
      checks.isClaimant, checks.closable⟩
  · rintro ⟨isAdmin, signed, apart, found, isFound, isClaimant, closable⟩
    rw [isStatus, Option.some.injEq, Account.claimStatus.injEq] at isFound
    subst isFound
    exact ⟨_, ⟨status, isStatus, signed, isClaimant, isAdmin.symm, closable, apart⟩,
      rfl⟩

end Gates

/-! ## The admin along a run -/

/-- The admin that an instruction gives to the distributor at `key`. -/
def Instruction.appointed (key : Pubkey) : Instruction → Option Pubkey
  | .setAdmin accounts =>
      if accounts.distributor = key then some accounts.newAdmin else none
  | .newDistributor accounts _ =>
      if accounts.distributor = key then some accounts.admin else none
  | .newDistributor2 accounts _ _ _ =>
      if accounts.distributor = key then some accounts.admin else none
  | _ => none

/-- Neither a new admin nor the end of the distributor. -/
def Instruction.KeepsAdmin (key : Pubkey) (instruction : Instruction) : Prop :=
  instruction.appointed key = none ∧ instruction.closed ≠ some key

section Admins

variable {env : Env} {tx : Transaction env} {start bank : Bank} {receipt : Receipt}
variable {history : History env} {key admin old : Pubkey}

/-- A distributor that a successful transaction leaves has the admin that it
appointed or the one from before. -/
theorem adminOf_step (accepted : execute env bank tx = .ok receipt)
    (stored : receipt.bank.adminOf key = some admin) :
    tx.instruction.appointed key = some admin ∨ bank.adminOf key = some admin := by
  obtain ⟨after, found, rfl⟩ := Bank.adminOf_eq_some.mp stored
  cases distributorStep accepted key with
  | other elsewhere same notPaid =>
      right
      rw [Bank.adminOf, ← same]
      exact stored
  | created creation effect =>
      left
      obtain rfl := Bank.eq_of_update found effect.distributors
      generalize tx.instruction = instruction at creation ⊢
      cases creation with
      | plain here written =>
          simp [Instruction.appointed, here, written, createdDistributor]
      | withBonus here isMax written =>
          simp [Instruction.appointed, here, written, createdDistributor]
  | claimed instruction here checks effect =>
      right
      obtain rfl := Bank.eq_of_update found effect.distributors
      exact Bank.adminOf_eq_some.mpr ⟨_, effect.isDistributor, rfl⟩
  | withdrawn instruction here checks effect =>
      right
      obtain rfl := Bank.eq_of_update found effect.distributors
      exact Bank.adminOf_eq_some.mpr ⟨_, effect.isDistributor, rfl⟩
  | clawedBack instruction here checks effect =>
      right
      obtain rfl := Bank.eq_of_update found effect.distributors
      exact Bank.adminOf_eq_some.mpr ⟨_, effect.isDistributor, rfl⟩
  | closed instruction here checks effect =>
      rw [← Bank.distributor?_eq_some, effect.distributors, Function.update_self]
        at found
      exact absurd found (by simp)
  | tuned tuning effect =>
      obtain rfl := Bank.eq_of_update found effect.distributors
      generalize tx.instruction = instruction at tuning ⊢
      cases tuning with
      | activationPoint here =>
          exact .inr (Bank.adminOf_eq_some.mpr ⟨_, effect.isDistributor, rfl⟩)
      | clawbackReceiver here =>
          exact .inr (Bank.adminOf_eq_some.mpr ⟨_, effect.isDistributor, rfl⟩)
      | admin here => exact .inl (by simp [Instruction.appointed, here])

/-- Who is not the admin does not become it unless appointed. -/
theorem adminOf_ne (run : Reaches env start history bank)
    (initially : start.adminOf key ≠ some old)
    (notAppointed : ∀ commit ∈ commits history,
      commit.input.instruction.appointed key ≠ some old) :
    bank.adminOf key ≠ some old := by
  refine Run.commit_invariant (fun done (bank : Bank) =>
    (∀ commit ∈ done, commit.input.instruction.appointed key ≠ some old) →
      bank.adminOf key ≠ some old) ?_ ?_ run notAppointed
  · exact fun _ => initially
  · intro history bank tx receipt _ kept accepted notAppointed stored
    rcases adminOf_step accepted stored with appointed | stored
    · exact notAppointed _ List.mem_cons_self appointed
    · exact kept (fun commit member =>
        notAppointed commit (List.mem_cons_of_mem _ member)) stored

/-- The admin stays until another one is appointed or the distributor is
closed. -/
theorem adminOf_kept (run : Reaches env start history bank)
    (initially : start.adminOf key = some admin)
    (keep : ∀ commit ∈ commits history, commit.input.instruction.KeepsAdmin key) :
    bank.adminOf key = some admin := by
  refine Run.commit_invariant (fun done (bank : Bank) =>
    (∀ commit ∈ done, commit.input.instruction.KeepsAdmin key) →
      bank.adminOf key = some admin) ?_ ?_ run keep
  · exact fun _ => initially
  · intro history bank tx receipt _ kept accepted keep
    have stored := kept fun commit member =>
      keep commit (List.mem_cons_of_mem _ member)
    obtain ⟨distributor, found, rfl⟩ := Bank.adminOf_eq_some.mp stored
    obtain ⟨unappointed, unclosed⟩ := keep _ List.mem_cons_self
    obtain ⟨after, reached, _⟩ := terms_kept accepted unclosed found
    have now : receipt.bank.adminOf key = some after.admin :=
      Bank.adminOf_eq_some.mpr ⟨after, reached, rfl⟩
    rcases adminOf_step accepted now with appointed | before
    · exact absurd appointed (by simp [unappointed])
    · rw [stored] at before
      exact before ▸ now

end Admins

/-! ## The admin of a claim status -/

/-- The new claim `opening` from the distributor at `key` wrote the claim status
at `account`, on which only withdrawals have worked since. -/
structure Opened (env : Env) (key account : Pubkey) (since : Commits env)
    (opening : Commit Bank (Transaction env) Receipt) (status : ClaimStatus) :
    Prop where
  opens : ∃ accounts amountUnlocked amountLocked proof,
    opening.input.instruction =
        .newClaim accounts amountUnlocked amountLocked proof ∧
      accounts.distributor = key ∧ accounts.claimStatus = account
  admin : opening.before.adminOf key = some status.admin
  standing : ∀ commit ∈ since, commit.input.instruction.statusKey = some account →
    ∃ accounts, commit.input.instruction = .claimLocked accounts

section Opened

variable {env : Env} {tx : Transaction env} {start bank : Bank} {receipt : Receipt}
variable {history : History env} {key account : Pubkey} {since : Commits env}
variable {opening : Commit Bank (Transaction env) Receipt}
variable {status after : ClaimStatus}

theorem Opened.keep (opened : Opened env key account since opening status)
    (sameAdmin : after.admin = status.admin)
    (works : tx.instruction.statusKey = some account →
      ∃ accounts, tx.instruction = .claimLocked accounts) :
    Opened env key account (⟨bank, tx, receipt⟩ :: since) opening after where
  opens := opened.opens
  admin := sameAdmin ▸ opened.admin
  standing := by
    intro commit member
    rcases List.mem_cons.mp member with rfl | isEarlier
    · exact works
    · exact opened.standing commit isEarlier

/-- Every claim status was written by a new claim and stores the admin that the
distributor had then. -/
theorem claimStatus_opened (genesis : Genesis start)
    (run : Reaches env start history bank)
    (present : bank account = some (.claimStatus status)) :
    ∃ since opening before key, commits history = since ++ opening :: before ∧
      Opened env key account since opening status := by
  refine claimStatus_invariant (fun done status =>
    ∃ since opening before key, done = since ++ opening :: before ∧
      Opened env key account since opening status) ?_ ?_ ?_ ?_ run status present
  · intro status found
    exact absurd found ((genesis account).2 status)
  · intro history bank tx receipt status _ _ _ elsewhere ⟨since, opening, before, key,
      split, opened⟩
    exact ⟨⟨bank, tx, receipt⟩ :: since, opening, before, key,
      by rw [split, List.cons_append],
      opened.keep rfl fun works => absurd works elsewhere⟩
  · intro history bank tx receipt accounts amountUnlocked amountLocked proof distributor
      bonus paid moved _ instruction here checks effect
    refine ⟨[], ⟨bank, tx, receipt⟩, commits history, accounts.distributor, rfl, ?_⟩
    exact
      { opens := ⟨accounts, _, _, _, instruction, rfl, here⟩
        admin := Bank.adminOf_eq_some.mpr ⟨_, effect.isDistributor, rfl⟩
        standing := by simp }
  · intro history bank tx receipt accounts distributor status amount moved _ _
      instruction here checks effect ⟨since, opening, before, key, split, opened⟩
    exact ⟨⟨bank, tx, receipt⟩ :: since, opening, before, key,
      by rw [split, List.cons_append], opened.keep rfl fun _ => ⟨_, instruction⟩⟩

end Opened

/-! ## Handing over -/

/-- The authority at `bank`, when the transactions `later` followed the hand-over
of the distributor at `key` from `old` to `new`. -/
structure HandedOver (env : Env) (key old new : Pubkey) (earlier : Commits env)
    (handover : Commit Bank (Transaction env) Receipt) (later : Commits env)
    (bank : Bank) : Prop where
  revoked : ∀ tx : Transaction env, tx.instruction.administers = some (key, old) →
    ∀ receipt, execute env bank tx ≠ .ok receipt
  conferred : (∀ commit ∈ later, commit.input.instruction.KeepsAdmin key) →
    ∀ tx : Transaction env, tx.instruction.administers = some (key, new) →
      tx.instruction.OtherwiseEnabled env tx.signers bank →
        ∃ receipt, execute env bank tx = .ok receipt
  closes : ∀ (tx : Transaction env) accounts status,
    tx.instruction = .closeClaimStatus accounts →
    bank accounts.claimStatus = some (.claimStatus status) →
      ((∃ receipt, execute env bank tx = .ok receipt) ↔
        accounts.admin = status.admin ∧
          tx.instruction.OtherwiseEnabled env tx.signers bank)
  statuses : ∀ account status, bank account = some (.claimStatus status) →
    ∃ since opening before distributorKey,
      later ++ handover :: earlier = since ++ opening :: before ∧
      Opened env distributorKey account since opening status ∧
      (distributorKey = key → opening ∈ later →
        status.admin ≠ old ∧
          ((∀ commit ∈ later, commit.input.instruction.KeepsAdmin key) →
            status.admin = new))

section HandOver

variable {env : Env} {start bank : Bank} {earlier history : History env}
variable {handover : Commit Bank (Transaction env) Receipt} {accounts : SetAdmin}

/-- A successful hand-over stores another admin. -/
theorem setAdmin_adminOf {signers : List Pubkey} {receipt : Receipt}
    (accepted : setAdmin signers bank accounts = .ok receipt) :
    accounts.newAdmin ≠ accounts.admin ∧
      receipt.bank.adminOf accounts.distributor = some accounts.newAdmin := by
  obtain ⟨distributor, _, _, _, different, rfl⟩ := setAdmin_eq_ok.mp accepted
  refine ⟨different.symm, Bank.adminOf_eq_some.mpr
    ⟨{ distributor with admin := accounts.newAdmin }, ?_, rfl⟩⟩
  simp [Receipt.quiet, Bank.set]

/-- After a hand-over the old admin is refused by every instruction on the
distributor until it is appointed again, and the new one is accepted until it is
replaced.  A claim status goes by the admin that the distributor had when it was
written. -/
theorem setAdmin_hands_over (genesis : Genesis start)
    (before : Reaches env start earlier handover.before)
    (accepted : execute env handover.before handover.input = .ok handover.outcome)
    (handsOver : handover.input.instruction = .setAdmin accounts)
    (run : Reaches env handover.outcome.bank history bank)
    (notRestored : ∀ commit ∈ commits history,
      commit.input.instruction.appointed accounts.distributor ≠
        some accounts.admin) :
    HandedOver env accounts.distributor accounts.admin accounts.newAdmin
      (commits earlier) handover (commits history) bank := by
  have changed : setAdmin handover.input.signers handover.before accounts =
      .ok handover.outcome := by
    rw [← accepted, execute, handsOver]
  obtain ⟨different, handed⟩ := setAdmin_adminOf changed
  have initially : handover.outcome.bank.adminOf accounts.distributor ≠
      some accounts.admin := by
    rw [handed]
    simpa using different
  have whole : Reaches env start
      ((machine env).attempt handover.before handover.input :: earlier)
      handover.outcome.bank := before.commit accepted
  have step : (machine env).step handover.before handover.input =
      .ok handover.outcome := accepted
  constructor
  · intro tx administers receipt succeeds
    have stored := ((administers_accepted_iff administers).mp ⟨receipt, succeeds⟩).1
    exact adminOf_ne run initially notRestored stored
  · intro keep tx administers enabled
    exact (administers_accepted_iff administers).mpr
      ⟨adminOf_kept run handed keep, enabled⟩
  · intro tx closing status instruction isStatus
    exact closeClaimStatus_accepted_iff instruction isStatus
  · intro account status found
    obtain ⟨since, opening, rest, key, split, opened⟩ :=
      claimStatus_opened genesis (whole.trans run) found
    rw [commits_append, commits_of_ok step] at split
    refine ⟨since, opening, rest, key, split, opened, ?_⟩
    rintro rfl member
    -- The status was written at a state that the run reached after the hand-over.
    obtain ⟨late, early, order, reached, _, _⟩ := run.commit_of_mem member
    have earlierOf : ∀ commit ∈ commits early, commit ∈ commits history := by
      intro commit isEarly
      rw [order]
      exact List.mem_append_right _ (List.mem_cons_of_mem _ isEarly)
    constructor
    · intro same
      refine adminOf_ne reached initially ?_ (same ▸ opened.admin)
      exact fun commit isEarly => notRestored commit (earlierOf commit isEarly)
    · intro keep
      have stored := adminOf_kept reached handed fun commit isEarly =>
        keep commit (earlierOf commit isEarly)
      rw [opened.admin, Option.some.injEq] at stored
      exact stored

end HandOver

/-! ## A hand-over in the small deployment -/

section Sample

/-- The hand-over after a closable distributor was created and Alice claimed. -/
def sampleHandover : Commit Bank (Transaction sampleEnv) Receipt :=
  { before := sampleAfter [createSample sampleTree.merkleRoot true, aliceClaims 55]
    input := adminHandsOver 56
    outcome := .quiet ((sampleAfter [createSample sampleTree.merkleRoot true,
      aliceClaims 55]).set sampleKey (.distributor
        { sampleDistributor sampleTree.merkleRoot true with
          totalAmountClaimed := 126
          numNodesClaimed := 1
          airdropBonus :=
            { totalBonus := 20
              vestingDuration := 10
              totalClaimedBonus := 6 }
          admin := bob })) }

theorem sampleHandover_accepted :
    execute sampleEnv sampleHandover.before sampleHandover.input =
      .ok sampleHandover.outcome :=
  setAdmin_eq_ok.mpr ⟨{ sampleDistributor sampleTree.merkleRoot true with
      totalAmountClaimed := 126
      numNodesClaimed := 1
      airdropBonus :=
        { totalBonus := 20
          vestingDuration := 10
          totalClaimedBonus := 6 } }, by decide +kernel, by decide +kernel,
    by decide +kernel, by decide +kernel, rfl⟩

/-- After the hand-over the admin is refused, Bob is accepted, and a claim status
that Bob's own claim writes goes by Bob. -/
theorem setAdmin_hands_over_sample :
    HandedOver sampleEnv sampleKey sampleAdmin bob
      (commits (sampleHistory [createSample sampleTree.merkleRoot true,
        aliceClaims 55])) sampleHandover
      (commits ((machine sampleEnv).play sampleHandover.outcome.bank
        [bobClaims 57]).1)
      ((machine sampleEnv).play sampleHandover.outcome.bank [bobClaims 57]).2 := by
  refine setAdmin_hands_over sampleBank_genesis (sample_reaches _)
    sampleHandover_accepted rfl (Run.play _ _ _) ?_
  intro commit member
  obtain ⟨entry, isEntry, _, same, _⟩ := mem_commits.mp member
  rw [← same, List.mem_singleton.mp (Run.input_of_play isEntry)]
  decide

/-- Without a later `set_admin` in its favour, the old admin of a distributor is
refused by all its instructions, and by the closing of the claim statuses at the
addresses derived from it. -/
def RevokedUntilSetAdmin (env : Env) (accounts : SetAdmin) (later : Commits env)
    (bank : Bank) : Prop :=
  (∀ commit ∈ later, ∀ again, commit.input.instruction = .setAdmin again →
    again.distributor = accounts.distributor → again.newAdmin ≠ accounts.admin) →
  ∀ (tx : Transaction env) receipt, execute env bank tx = .ok receipt →
    tx.instruction.administers ≠ some (accounts.distributor, accounts.admin) ∧
    ∀ closing claimant, tx.instruction = .closeClaimStatus closing →
      closing.claimStatus = env.claimStatusAddress claimant accounts.distributor →
        closing.admin ≠ accounts.admin

/-- Two ways in which the old admin acts after the hand-over: it closes the claim
status that Alice's earlier claim wrote, and it administers the distributor that
it created anew after Bob had closed his. -/
theorem revokedAdmin_acts :
    let accounts : SetAdmin :=
      { distributor := sampleKey, admin := sampleAdmin, newAdmin := bob }
    let recreated := (machine sampleEnv).play sampleHandover.outcome.bank
      [bobCloses 57, recreateSample 58 sampleTree.merkleRoot]
    Genesis sampleBank ∧
      Reaches sampleEnv sampleBank
        (sampleHistory [createSample sampleTree.merkleRoot true, aliceClaims 55])
        sampleHandover.before ∧
      execute sampleEnv sampleHandover.before sampleHandover.input =
        .ok sampleHandover.outcome ∧
      sampleHandover.input.instruction = .setAdmin accounts ∧
      ¬ RevokedUntilSetAdmin sampleEnv accounts [] sampleHandover.outcome.bank ∧
      Reaches sampleEnv sampleHandover.outcome.bank recreated.1 recreated.2 ∧
      ¬ RevokedUntilSetAdmin sampleEnv accounts (commits recreated.1)
        recreated.2 := by
  intro accounts recreated
  refine ⟨sampleBank_genesis, sample_reaches _, sampleHandover_accepted, rfl, ?_,
    Run.play _ _ _, ?_⟩
  · intro revoked
    have closes : ∃ receipt, execute sampleEnv sampleHandover.outcome.bank
        (adminClosesAlice 57) = .ok receipt :=
      ⟨_, closeClaimStatus_eq_ok.mpr ⟨⟨
        { claimant := alice, lockedAmount := 50, lockedAmountWithdrawn := 0
          unlockedAmount := 126, closable := true, admin := sampleAdmin },
        by decide +kernel, by decide +kernel, rfl, rfl, rfl, by decide +kernel⟩, rfl⟩⟩
    obtain ⟨receipt, accepted⟩ := closes
    exact (revoked (by simp) _ receipt accepted).2 _ alice rfl (by decide +kernel) rfl
  · intro revoked
    have found : recreated.2 sampleKey = some (.distributor (createdDistributor
        sampleAccounts (sampleArgs sampleTree.merkleRoot true) 254 200 0 0)) := by
      decide +kernel
    have tunes : ∃ receipt, execute sampleEnv recreated.2 (adminReactivates 59) =
        .ok receipt :=
      ⟨_, setActivationPoint_eq_ok.mpr ⟨_, found, by decide +kernel, rfl, rfl⟩⟩
    obtain ⟨receipt, accepted⟩ := tunes
    refine (revoked ?_ _ receipt accepted).1 rfl
    intro commit member again instruction
    obtain ⟨entry, isEntry, _, same, _⟩ := mem_commits.mp member
    have played := Run.input_of_play isEntry
    rw [← same] at instruction
    simp only [List.mem_cons, List.not_mem_nil, or_false] at played
    rcases played with isClosing | isCreation
    · rw [isClosing] at instruction
      exact absurd instruction (by simp [bobCloses, sampleTx])
    · rw [isCreation] at instruction
      exact absurd instruction (by simp [recreateSample, sampleTx])

end Sample

end Airdrop
