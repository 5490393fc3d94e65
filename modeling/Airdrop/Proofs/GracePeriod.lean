/-
Module: Airdrop.Proofs.GracePeriod
Purpose: The day between the end of vesting and the clawback that the
  documentation of `new_distributor` promises, and the creations that give it.
Trusted boundary: none
Main exports: ClaimStatus.FullyVested, GraceKept, MerkleDistributor.Graced,
  Lifetime.graceKept, Founded.graced_iff, clawback_grace, clawback_without_grace
-/
import Airdrop.Proofs.NoStarvation

namespace Airdrop

open Checked Schedule Transition

/-! ## What can be withdrawn after the end of vesting -/

/-- All that was not yet withdrawn can be withdrawn. -/
def ClaimStatus.FullyVested (self : ClaimStatus) (terms : MerkleDistributor)
    (now : Int64) : Prop :=
  self.lockedAmountWithdrawn.toNat ≤ self.lockedAmount.toNat ∧
    self.amountWithdrawable now terms.startTs terms.endTs =
      .ok (self.lockedAmount - self.lockedAmountWithdrawn)

section Statuses

variable {env : Env} {start bank : Bank} {history : History env} {account : Pubkey}
variable {status : ClaimStatus} {terms : MerkleDistributor} {now : Int64}

/-- No claim status is paid more than its locked amount. -/
theorem reachable_withdrawn_le (genesis : Genesis start)
    (run : Reaches env start history bank)
    (found : bank account = some (.claimStatus status)) :
    status.lockedAmountWithdrawn.toNat ≤ status.lockedAmount.toNat := by
  refine claimStatus_invariant (fun _ status =>
    status.lockedAmountWithdrawn.toNat ≤ status.lockedAmount.toNat)
    ?_ ?_ ?_ ?_ run status found
  · intro status found
    exact absurd found ((genesis account).2 status)
  · intro _ _ _ _ status _ _ _ _ bounded
    exact bounded
  · intro _ _ _ _ accounts _ amountLocked _ distributor _ paid _ _ _ _ _ _
    exact Nat.zero_le _
  · intro _ _ _ _ _ _ _ _ _ _ _ _ _ checks _ _
    rw [checks.counted]
    exact checks.lockedRoom

theorem ClaimStatus.fullyVested_of_ended
    (bounded : status.lockedAmountWithdrawn.toNat ≤ status.lockedAmount.toNat)
    (ordered : terms.startTs.toInt < terms.endTs.toInt)
    (ended : terms.endTs.toInt ≤ now.toInt) : status.FullyVested terms now := by
  refine ⟨bounded, (amountWithdrawable_eq_ok fun _ running => by omega).mpr ?_⟩
  rw [scheduled_of_ge (by omega) ended, BitVec.toNat_sub_of_le bounded]
  exact Nat.sub_add_cancel bounded

end Statuses

/-! ## The promise -/

/-- One day in seconds. -/
def oneDay : Int := 86400

/-- Every successful clawback in a history came at least a day after the end of
vesting, and at any time within the day before it every claim status that the
history met had fully vested. -/
def GraceKept (env : Env) (key : Pubkey) (created : MerkleDistributor)
    (history : History env) : Prop :=
  ∀ commit ∈ commits history, commit.input.instruction.clawedBack = some key →
    created.endTs.toInt + oneDay ≤ commit.input.clock.unixTimestamp.toInt ∧
    ∀ now : Int64, commit.input.clock.unixTimestamp.toInt - oneDay ≤ now.toInt →
      ∀ entry ∈ history, ∀ account status,
        entry.before account = some (.claimStatus status) →
          status.FullyVested created now

/-- The condition that the documentation states and the creation does not check:
the clawback starts at least a day after the end of vesting. -/
def MerkleDistributor.Graced (self : MerkleDistributor) : Prop :=
  self.endTs.toInt + oneDay ≤ self.clawbackStartTs.toInt

instance (distributor : MerkleDistributor) : Decidable distributor.Graced :=
  inferInstanceAs (Decidable (distributor.endTs.toInt + oneDay ≤
    distributor.clawbackStartTs.toInt))

section Grace

variable {env : Env} {earlier history : History env} {key : Pubkey}
variable {founding : Commit Bank (Transaction env) Receipt}
variable {created : MerkleDistributor} {bank : Bank}
variable {tx : Transaction env} {receipt : Receipt}

/-- A clawback never comes before the time that the creation has set. -/
theorem Lifetime.clawback_started
    (life : Lifetime env earlier founding key created history bank)
    (accepted : execute env bank tx = .ok receipt)
    (clawsBack : tx.instruction.clawedBack = some key) :
    created.clawbackStartTs.toInt ≤ tx.clock.unixTimestamp.toInt := by
  cases instruction : tx.instruction with
  | clawback accounts =>
      rw [instruction, Instruction.clawedBack, Option.some.injEq] at clawsBack
      subst clawsBack
      simp only [execute, instruction] at accepted
      obtain ⟨distributor, vault, moved, checks, _⟩ := clawback_eq_ok.mp accepted
      have same := life.sameTerms checks.isDistributor
      rw [← same.clawbackStartTs]
      exact checks.started
  | _ => simp [instruction, Instruction.clawedBack] at clawsBack

/-- A distributor whose clawback starts a day after the end of vesting keeps the
promise through its whole life. -/
theorem Lifetime.graceKept
    (life : Lifetime env earlier founding key created history bank)
    (graced : created.Graced) : GraceKept env key created history := by
  obtain ⟨start, genesis, before⟩ := life.origin
  have creation : Reaches env start
      ((machine env).attempt founding.before founding.input :: earlier)
      founding.outcome.bank := before.commit life.accepted
  intro commit member clawsBack
  obtain ⟨_, sofar, accepted⟩ := life.commit_of_mem member
  have started := sofar.clawback_started accepted clawsBack
  unfold MerkleDistributor.Graced at graced
  refine ⟨by omega, ?_⟩
  intro now within entry isEntry account status found
  obtain ⟨_, earlierEntries, _, met, _, _⟩ := life.run.attempt_of_mem isEntry
  exact ClaimStatus.fullyVested_of_ended
    (reachable_withdrawn_le genesis (creation.trans met) found)
    life.creation.2.ordered (by omega)

/-! ## When the promise is kept -/

/-- A creation is signed. -/
theorem Founded.signed (founded : Founded env earlier founding key created) :
    ∃ signer, signer ∈ founding.input.signers := by
  have accepted := founded.accepted
  have creates := founded.creates
  cases instruction : founding.input.instruction with
  | newDistributor accounts args =>
      simp only [execute, instruction] at accepted
      obtain ⟨bump, checks, _⟩ := newDistributor_eq_ok.mp accepted
      exact ⟨accounts.base, checks.valid.baseSigned⟩
  | newDistributor2 accounts args totalBonus bonusVestingDuration =>
      simp only [execute, instruction] at accepted
      obtain ⟨bump, maxTotalClaim, checks, _⟩ := newDistributor2_eq_ok.mp accepted
      exact ⟨accounts.base, checks.valid.baseSigned⟩
  | _ => simp [instruction, Instruction.created] at creates

/-- The clawback of a distributor, as early as it can be, by whoever signed its
creation. -/
def clawbackAtStart (tx : Transaction env) (key signer : Pubkey)
    (created : MerkleDistributor) : Transaction env :=
  { clock := { slot := tx.clock.slot, unixTimestamp := created.clawbackStartTs }
    signers := tx.signers
    instruction := .clawback
      { distributor := key
        fromAccount := created.tokenVault
        toAccount := created.clawbackReceiver
        claimant := signer }
    no_derived_signer := tx.no_derived_signer }

/-- Straight after its creation a distributor can be clawed back as early as its
terms allow, where the vault is of its mint and the receiver has room. -/
theorem Founded.clawback_succeeds (founded : Founded env earlier founding key created)
    {vault receiver : TokenAccount} {signer : Pubkey}
    (signed : signer ∈ founding.input.signers)
    (isVault : founding.before created.tokenVault = some (.token vault))
    (isReceiver : founding.before created.clawbackReceiver = some (.token receiver))
    (vaultMint : vault.mint = created.mint)
    (fits : receiver.amount.toNat + vault.amount.toNat < 2 ^ 64) :
    ∃ receipt, execute env founding.outcome.bank
      (clawbackAtStart founding.input key signer created) = .ok receipt := by
  have effect := founded.creation.2
  have formed := WellFormed.of_creation effect
  have tokenKept {other : Pubkey} {account : TokenAccount}
      (found : founding.before other = some (.token account)) :
      founding.outcome.bank other = some (.token account) := by
    rw [← Bank.token?_eq_some, effect.tokens, Bank.token?_eq_some, found]
  obtain ⟨ownVault, isOwn, vaultOwner⟩ := effect.vault
  obtain rfl := Bank.token_unique isVault isOwn
  obtain ⟨ownReceiver, isOwnReceiver, receiverMint⟩ := effect.receiver
  obtain rfl := Bank.token_unique isReceiver isOwnReceiver
  obtain ⟨moved, transferred⟩ := @WellFormed.pays _ _ _ _ formed founding.input.signers
    _ _ _ vault.amount (tokenKept isVault) vaultOwner (tokenKept isReceiver)
    (vaultMint.trans receiverMint.symm) (le_refl _) (fun _ => fits)
  have checks : ClawbackChecks env
      { slot := founding.input.clock.slot, unixTimestamp := created.clawbackStartTs }
      founding.input.signers founding.outcome.bank
      { distributor := key
        fromAccount := created.tokenVault
        toAccount := created.clawbackReceiver
        claimant := signer } created vault moved :=
    { isDistributor := founded.born
      isVault := tokenKept isVault
      vaultOwner
      vaultAssociated := effect.vaultAssociated
      vaultAddress := rfl
      isReceiver := ⟨receiver, tokenKept isReceiver⟩
      receiverAddress := rfl
      signed
      notClawedBack := effect.unclaimed.2.2.2
      started := le_refl _
      transferred }
  exact ⟨_, clawback_eq_ok.mpr ⟨created, vault, moved, checks, rfl⟩⟩

/-- A distributor that keeps the promise in all its lives starts the clawback a day
after the end of vesting, where that clawback is not blocked by its tokens. -/
theorem Founded.graced_of_kept (founded : Founded env earlier founding key created)
    {vault receiver : TokenAccount}
    (isVault : founding.before created.tokenVault = some (.token vault))
    (isReceiver : founding.before created.clawbackReceiver = some (.token receiver))
    (vaultMint : vault.mint = created.mint)
    (fits : receiver.amount.toNat + vault.amount.toNat < 2 ^ 64)
    (kept : ∀ history bank, Lifetime env earlier founding key created history bank →
      GraceKept env key created history) : created.Graced := by
  obtain ⟨signer, signed⟩ := founded.signed
  obtain ⟨receipt, accepted⟩ :=
    founded.clawback_succeeds signed isVault isReceiver vaultMint fits
  let tx := clawbackAtStart founding.input key signer created
  have step : (machine env).step founding.outcome.bank tx = .ok receipt := accepted
  have done : commits [(machine env).attempt founding.outcome.bank tx] =
      [⟨founding.outcome.bank, tx, receipt⟩] := commits_of_ok step
  have life : Lifetime env earlier founding key created
      [(machine env).attempt founding.outcome.bank tx] receipt.bank :=
    { founded with
      run := Run.start.commit step
      unclosed := by
        rw [done]
        simp [tx, clawbackAtStart, Instruction.closed] }
  exact (kept _ _ life _ (done ▸ List.mem_singleton_self _) rfl).1

/-- The documented day before the clawback is there in every life of a distributor
whose creation set the start of the clawback at least a day after the end of
vesting, and only then. -/
theorem clawback_grace (founded : Founded env earlier founding key created) :
    (created.Graced → ∀ history bank,
      Lifetime env earlier founding key created history bank →
        GraceKept env key created history) ∧
    ∀ vault receiver,
      founding.before created.tokenVault = some (.token vault) →
      founding.before created.clawbackReceiver = some (.token receiver) →
      vault.mint = created.mint →
      receiver.amount.toNat + vault.amount.toNat < 2 ^ 64 →
      (∀ history bank, Lifetime env earlier founding key created history bank →
        GraceKept env key created history) → created.Graced := by
  constructor
  · intro graced history bank life
    exact life.graceKept graced
  · intro vault receiver isVault isReceiver vaultMint fits kept
    exact founded.graced_of_kept isVault isReceiver vaultMint fits kept

end Grace

/-! ## Two creations -/

section Sample

/-- The creation with the clawback a day after the end of vesting. -/
def gracedFounding : Commit Bank (Transaction sampleEnv) Receipt :=
  { before := sampleBank
    input := createGraced
    outcome := .quiet (sampleBank.set sampleKey
      (.distributor (createdDistributor sampleAccounts gracedArgs 254 220 20 10))) }

theorem gracedFounding_accepted :
    execute sampleEnv sampleBank gracedFounding.input = .ok gracedFounding.outcome := by
  refine newDistributor2_eq_ok.mpr ⟨254, 220, ?_, rfl, rfl⟩
  exact
    { valid := sampleAccounts_valid
      ordered := by decide
      future := by decide
      clawbackAfterEnd := by decide
      activation := ⟨.timestamp, rfl⟩ }

theorem graced_founded :
    Founded sampleEnv [] gracedFounding sampleKey
      (createdDistributor sampleAccounts gracedArgs 254 220 20 10) where
  origin := ⟨sampleBank, sampleBank_genesis, .start⟩
  accepted := gracedFounding_accepted
  creates := rfl
  born := by simp [gracedFounding, Receipt.quiet, Bank.set]

/-- With the clawback a day after the end of vesting the promise is kept. -/
theorem clawback_grace_sample :
    GraceKept sampleEnv sampleKey
      (createdDistributor sampleAccounts gracedArgs 254 220 20 10)
      ((machine sampleEnv).play gracedFounding.outcome.bank
        [adminClawsBack 86500, adminClawsBack 86600]).1 :=
  (clawback_grace graced_founded).1 (by decide) _ _
    (graced_founded.lifetime rfl (Run.play (machine sampleEnv) _ _))

/-- The small deployment itself is accepted with its clawback a hundred seconds
after the end of vesting, and is clawed back then. -/
theorem clawback_without_grace :
    Lifetime sampleEnv [] (sampleFounding sampleTree.merkleRoot false) sampleKey
        (sampleDistributor sampleTree.merkleRoot false)
        (sampleRecord sampleTree.merkleRoot false [adminClawsBack 300])
        (sampleThen sampleTree.merkleRoot false [adminClawsBack 300]) ∧
      ¬ GraceKept sampleEnv sampleKey (sampleDistributor sampleTree.merkleRoot false)
        (sampleRecord sampleTree.merkleRoot false [adminClawsBack 300]) := by
  have life := sample_lifetime sampleTree.merkleRoot false [adminClawsBack 300]
    (by decide +kernel)
  refine ⟨life, fun kept => ?_⟩
  have clawedBack : ∃ commit ∈
      commits (sampleRecord sampleTree.merkleRoot false [adminClawsBack 300]),
      commit.input.instruction.clawedBack = some sampleKey ∧
        commit.input.clock.unixTimestamp.toInt = 300 := by
    decide +kernel
  obtain ⟨commit, member, clawsBack, time⟩ := clawedBack
  have late := (kept commit member clawsBack).1
  rw [time] at late
  exact absurd late (by decide)

end Sample

end Airdrop
