/-
Module: Airdrop.Proofs.ActivationGate
Purpose: The gate that `validate_claim` does not keep: when claims happen before
  the activation point, told from the transactions and the accounts that they meet, and
  what such claims are paid.
Trusted boundary: none
Main exports: MerkleDistributor.Activated, NewClaim.Clear, ClaimLocked.Clear, ClaimClear,
  newClaim_accepted_iff, claimLocked_accepted_iff, GateKept, EarlyClaimsObstructed,
  gateKept_iff, early_claim_unlocked
-/
import Airdrop.Proofs.Vesting

namespace Airdrop

open Checked Schedule Transition

/-- The current point, a slot or a time, is at or after the activation point. -/
def MerkleDistributor.Activated (self : MerkleDistributor) (clock : Clock) : Prop :=
  match ActivationType.tryFrom self.activationType with
  | some .slot => self.activationPoint.toNat ≤ clock.slot.toNat
  | some .timestamp => (self.activationPoint.toNat : Int) ≤ clock.unixTimestamp.toInt
  | none => False

instance (self : MerkleDistributor) (clock : Clock) :
    Decidable (self.Activated clock) := by
  unfold MerkleDistributor.Activated
  split <;> infer_instance

/-! ## What a claim is due -/

/-- The bonus that the schedule holds for a new claim of this amount at a point: of the
claimant's share of the pool, cut to 64 bits, the part that is released. -/
def MerkleDistributor.bonusAt (self : MerkleDistributor) (point amountUnlocked : U64) : Nat :=
  scheduled
    (share self.airdropBonus.totalBonus.toNat
      (self.maxTotalClaim.toNat - self.airdropBonus.totalBonus.toNat)
      amountUnlocked.toNat % 2 ^ 64)
    self.activationPoint.toNat
    (self.airdropBonus.vestingDuration.toNat + self.activationPoint.toNat : Nat)
    point.toNat

/-- Before the activation point the schedule holds no bonus. -/
theorem MerkleDistributor.bonusAt_of_early {self : MerkleDistributor} {point : U64}
    (early : point.toNat < self.activationPoint.toNat) (amountUnlocked : U64) :
    self.bonusAt point amountUnlocked = 0 :=
  scheduled_of_lt (by omega)

theorem MerkleDistributor.bonusAt_lt (self : MerkleDistributor) (point amountUnlocked : U64) :
    self.bonusAt point amountUnlocked < 2 ^ 64 :=
  scheduled_le.trans_lt (Nat.mod_lt _ (by norm_num))

theorem grantedBonus_eq_ok {distributor : MerkleDistributor} {amountUnlocked bonus point : U64} :
    distributor.getBonusForAClaimaint amountUnlocked
        { currPoint := point
          activationPoint := distributor.activationPoint
          airdropBonus := distributor.airdropBonus } = .ok bonus ↔
      distributor.airdropBonus.totalBonus.toNat < distributor.maxTotalClaim.toNat ∧
      distributor.airdropBonus.vestingDuration.toNat + distributor.activationPoint.toNat <
        2 ^ 64 ∧
      bonus.toNat = distributor.bonusAt point amountUnlocked := by
  unfold MerkleDistributor.getBonusForAClaimaint MerkleDistributor.bonusAt
  simp only [bind_eq_ok, getMaxBonusForAClaimant_eq_ok, getBonusForAClaimaint_eq_ok]
  constructor
  · rintro ⟨maxBonus, ⟨below, isMax⟩, ends, value⟩
    exact ⟨below, ends, isMax ▸ value⟩
  · rintro ⟨below, ends, value⟩
    have isMax := BitVec.toNat_ofNat (share distributor.airdropBonus.totalBonus.toNat
      (distributor.maxTotalClaim.toNat - distributor.airdropBonus.totalBonus.toNat)
      amountUnlocked.toNat) 64
    refine ⟨BitVec.ofNat 64 _, ⟨below, isMax⟩, ends, ?_⟩
    rw [isMax]
    exact value

/-! ## Claims that nothing obstructs -/

/-- Nothing obstructs the new claim: a condition on its accounts, signers, amounts and proof,
on the clock, and on what it meets in the accounts.  The activation point takes part in it
only through the bonus. -/
structure NewClaim.Clear (env : Env) (clock : Clock) (signers : List Pubkey) (bank : Bank)
    (accounts : NewClaim) (amountUnlocked amountLocked : U64) (proof : List Hash)
    (distributor : MerkleDistributor) (activationType : ActivationType) : Prop where
  valid : accounts.Valid env signers bank distributor
  isType : ActivationType.tryFrom distributor.activationType = some activationType
  notClawedBack : distributor.clawedBack = false
  nodeRoom : distributor.numNodesClaimed.toNat < distributor.maxNumNodes.toNat
  proved : verify env.sha256 proof distributor.root
    (claimLeaf env.sha256 accounts.claimant amountUnlocked amountLocked) = true
  poolBelowCap :
    distributor.airdropBonus.totalBonus.toNat < distributor.maxTotalClaim.toNat
  scheduleEnds :
    distributor.airdropBonus.vestingDuration.toNat + distributor.activationPoint.toNat <
      2 ^ 64
  claimRoom : distributor.totalAmountClaimed.toNat + (amountUnlocked.toNat +
      distributor.bonusAt (activationType.currPoint clock) amountUnlocked) ≤
    distributor.maxTotalClaim.toNat
  bonusRoom : distributor.airdropBonus.totalClaimedBonus.toNat +
      distributor.bonusAt (activationType.currPoint clock) amountUnlocked < 2 ^ 64
  transfer : TransferClear env signers bank distributor.signerSeeds accounts.fromAccount
    accounts.toAccount accounts.distributor (amountUnlocked.toNat +
      distributor.bonusAt (activationType.currPoint clock) amountUnlocked)

/-- Nothing obstructs the withdrawal: a condition on its accounts and signers, on the clock,
and on what it meets in the accounts.  The activation point takes no part in it. -/
structure ClaimLocked.Clear (env : Env) (clock : Clock) (signers : List Pubkey) (bank : Bank)
    (accounts : ClaimLocked) (distributor : MerkleDistributor) (status : ClaimStatus) :
    Prop where
  valid : accounts.Valid env signers bank distributor status
  isType : ∃ activationType,
    ActivationType.tryFrom distributor.activationType = some activationType
  notClawedBack : distributor.clawedBack = false
  timesFit : distributor.startTs.toInt ≤ clock.unixTimestamp.toInt →
    clock.unixTimestamp.toInt < distributor.endTs.toInt →
      distributor.endTs.toInt - distributor.startTs.toInt < 2 ^ 63
  moreVested : status.lockedAmountWithdrawn.toNat <
    status.vestedAt distributor clock.unixTimestamp
  claimRoom : distributor.totalAmountClaimed.toNat +
      status.withdrawableAt distributor clock.unixTimestamp ≤
    distributor.maxTotalClaim.toNat
  transfer : TransferClear env signers bank distributor.signerSeeds accounts.fromAccount
    accounts.toAccount accounts.distributor
    (status.withdrawableAt distributor clock.unixTimestamp)

/-- Nothing obstructs the claim of this distributor. -/
def ClaimClear (env : Env) (bank : Bank) (tx : Transaction env)
    (distributor : MerkleDistributor) : Prop :=
  match tx.instruction with
  | .newClaim accounts amountUnlocked amountLocked proof =>
      ∃ activationType, accounts.Clear env tx.clock tx.signers bank amountUnlocked
        amountLocked proof distributor activationType
  | .claimLocked accounts =>
      ∃ status, accounts.Clear env tx.clock tx.signers bank distributor status
  | _ => False

section Accepted

variable {env : Env} {clock : Clock} {signers : List Pubkey} {bank : Bank}
variable {distributor : MerkleDistributor}

/-- A new claim is accepted exactly when nothing obstructs it. -/
theorem newClaim_accepted_iff {accounts : NewClaim} {amountUnlocked amountLocked : U64}
    {proof : List Hash} (found : bank accounts.distributor = some (.distributor distributor)) :
    (∃ receipt, newClaim env clock signers bank accounts amountUnlocked amountLocked proof =
        .ok receipt) ↔
      ∃ activationType, accounts.Clear env clock signers bank amountUnlocked amountLocked proof
        distributor activationType := by
  simp only [newClaim_eq_ok]
  constructor
  · rintro ⟨receipt, other, bonus, paid, moved, checks, _⟩
    obtain rfl := Bank.distributor_unique checks.valid.isDistributor found
    obtain ⟨handler, isHandler, granted⟩ := checks.granted
    obtain ⟨activationType, isType, rfl⟩ := getActivationHandler_eq_ok.mp isHandler
    obtain ⟨poolBelowCap, scheduleEnds, bonusValue⟩ := grantedBonus_eq_ok.mp granted
    have paidValue := checks.paidValue
    have claimRoom := checks.claimRoom
    have bonusRoom := checks.bonusRoom
    have transfer := transferSigned_accepted_iff.mp ⟨moved, checks.transferred⟩
    rw [bonusValue] at paidValue bonusRoom
    rw [paidValue] at claimRoom transfer
    exact ⟨activationType,
      { valid := checks.valid
        isType
        notClawedBack := checks.notClawedBack
        nodeRoom := checks.nodeRoom
        proved := checks.proved
        poolBelowCap
        scheduleEnds
        claimRoom
        bonusRoom
        transfer }⟩
  · rintro ⟨activationType, clear⟩
    -- both the bonus and what is paid are numbers of 64 bits
    have claimRoom := clear.claimRoom
    have capBound := distributor.maxTotalClaim.isLt
    obtain ⟨bonus, bonusValue⟩ : ∃ bonus : U64, bonus.toNat =
        distributor.bonusAt (activationType.currPoint clock) amountUnlocked :=
      ⟨.ofNat 64 _, BitVec.toNat_ofNat _ _ |>.trans
        (Nat.mod_eq_of_lt (distributor.bonusAt_lt _ _))⟩
    obtain ⟨paid, paidValue⟩ : ∃ paid : U64, paid.toNat = amountUnlocked.toNat +
        distributor.bonusAt (activationType.currPoint clock) amountUnlocked :=
      ⟨.ofNat 64 _, BitVec.toNat_ofNat _ _ |>.trans (Nat.mod_eq_of_lt (by omega))⟩
    have bonusRoom := clear.bonusRoom
    have transfer := clear.transfer
    rw [← paidValue] at claimRoom transfer
    rw [← bonusValue] at bonusRoom paidValue
    obtain ⟨moved, transferred⟩ := transferSigned_accepted_iff.mpr transfer
    exact ⟨_, distributor, bonus, paid, moved,
      { valid := clear.valid
        notClawedBack := clear.notClawedBack
        nodeRoom := clear.nodeRoom
        proved := clear.proved
        granted := ⟨_, getActivationHandler_eq_ok.mpr ⟨activationType, clear.isType, rfl⟩,
          grantedBonus_eq_ok.mpr ⟨clear.poolBelowCap, clear.scheduleEnds, bonusValue⟩⟩
        paidValue
        transferred
        claimRoom
        bonusRoom }, rfl⟩

/-- While the schedule runs, what has vested can be computed only where the vesting time fits
`i64`. -/
theorem timesFit_of_amountWithdrawable {status : ClaimStatus} {currTs startTs endTs : Int64}
    {amount : U64} (withdrawable : status.amountWithdrawable currTs startTs endTs = .ok amount)
    (begun : startTs.toInt ≤ currTs.toInt) (running : currTs.toInt < endTs.toInt) :
    endTs.toInt - startTs.toInt < 2 ^ 63 := by
  unfold ClaimStatus.amountWithdrawable ClaimStatus.unlockedAmountAt at withdrawable
  rw [if_pos (I64.le_iff.mpr begun), if_neg (by rw [I64.le_iff]; omega)] at withdrawable
  simp only [bind_eq_ok, okOrArithmetic_eq_ok] at withdrawable
  obtain ⟨_, ⟨_, _, total, isTotal, _⟩, _⟩ := withdrawable
  unfold checkedSubSigned at isTotal
  split at isTotal
  case isTrue fits => exact fits.2
  case isFalse => cases isTotal

/-- A withdrawal is accepted exactly when nothing obstructs it. -/
theorem claimLocked_accepted_iff {accounts : ClaimLocked}
    (found : bank accounts.distributor = some (.distributor distributor)) :
    (∃ receipt, claimLocked env clock signers bank accounts = .ok receipt) ↔
      ∃ status, accounts.Clear env clock signers bank distributor status := by
  simp only [claimLocked_eq_ok]
  constructor
  · rintro ⟨receipt, other, status, amount, moved, checks, _⟩
    obtain rfl := Bank.distributor_unique checks.valid.isDistributor found
    obtain ⟨handler, isHandler⟩ := checks.activation
    obtain ⟨activationType, isType, _⟩ := getActivationHandler_eq_ok.mp isHandler
    have timesFit := timesFit_of_amountWithdrawable checks.withdrawable
    have vested : amount.toNat + status.lockedAmountWithdrawn.toNat =
        status.vestedAt other clock.unixTimestamp :=
      (amountWithdrawable_eq_ok timesFit).mp checks.withdrawable
    have due : amount.toNat = status.withdrawableAt other clock.unixTimestamp :=
      Nat.eq_sub_of_add_eq vested
    have positive := checks.positive
    have claimRoom := checks.claimRoom
    have transfer := transferSigned_accepted_iff.mp ⟨moved, checks.transferred⟩
    rw [due] at claimRoom transfer
    exact ⟨status,
      { valid := checks.valid
        isType := ⟨activationType, isType⟩
        notClawedBack := checks.notClawedBack
        timesFit
        moreVested := by omega
        claimRoom
        transfer }⟩
  · rintro ⟨status, clear⟩
    obtain ⟨activationType, isType⟩ := clear.isType
    have moreVested := clear.moreVested
    have released : status.vestedAt distributor clock.unixTimestamp ≤
        status.lockedAmount.toNat := scheduled_le
    have lockedBound := status.lockedAmount.isLt
    have difference : status.withdrawableAt distributor clock.unixTimestamp =
        status.vestedAt distributor clock.unixTimestamp -
          status.lockedAmountWithdrawn.toNat := rfl
    obtain ⟨amount, due⟩ : ∃ amount : U64, amount.toNat =
        status.withdrawableAt distributor clock.unixTimestamp :=
      ⟨.ofNat 64 _, BitVec.toNat_ofNat _ _ |>.trans (Nat.mod_eq_of_lt (by omega))⟩
    have claimRoom := clear.claimRoom
    have transfer := clear.transfer
    rw [← due] at claimRoom transfer
    obtain ⟨moved, transferred⟩ := transferSigned_accepted_iff.mpr transfer
    have vested : amount.toNat + status.lockedAmountWithdrawn.toNat =
        status.vestedAt distributor clock.unixTimestamp := by omega
    exact ⟨_, distributor, status, amount, moved,
      { valid := clear.valid
        notClawedBack := clear.notClawedBack
        activation := ⟨_, getActivationHandler_eq_ok.mpr ⟨activationType, isType, rfl⟩⟩
        withdrawable := (amountWithdrawable_eq_ok clear.timesFit).mpr vested
        positive := by omega
        transferred
        lockedRoom := by omega
        claimRoom }, rfl⟩

/-- A claim of a distributor is accepted exactly when nothing obstructs it, and none of that
is about the activation point being reached. -/
theorem claim_accepted_iff {tx : Transaction env} {key : Pubkey}
    (claims : tx.instruction.claimedFrom = some key)
    (found : bank key = some (.distributor distributor)) :
    (∃ receipt, execute env bank tx = .ok receipt) ↔ ClaimClear env bank tx distributor := by
  unfold execute ClaimClear
  cases instruction : tx.instruction with
  | newClaim accounts amountUnlocked amountLocked proof =>
      rw [instruction] at claims
      obtain rfl : accounts.distributor = key := Option.some.inj claims
      exact newClaim_accepted_iff found
  | claimLocked accounts =>
      rw [instruction] at claims
      obtain rfl : accounts.distributor = key := Option.some.inj claims
      exact claimLocked_accepted_iff found
  | _ =>
      rw [instruction] at claims
      exact absurd claims (by simp [Instruction.claimedFrom])

end Accepted

/-! ## Runs -/

/-- Every successful claim of a run happened at or after the activation point
that was then stored. -/
def GateKept {env : Env} (history : History env) : Prop :=
  ∀ commit ∈ commits history, ∀ key ∈ commit.input.instruction.claimedFrom,
    ∀ distributor ∈ commit.before.distributor? key,
      distributor.Activated commit.input.clock

/-- Every claim that a run attempted before the activation point then stored was obstructed
by its own inputs and the accounts that it met. -/
def EarlyClaimsObstructed {env : Env} (history : History env) : Prop :=
  ∀ entry ∈ history, ∀ key ∈ entry.input.instruction.claimedFrom,
    ∀ distributor ∈ entry.before.distributor? key,
      ¬ distributor.Activated entry.input.clock →
        ¬ ClaimClear env entry.before entry.input distributor

/-- In every run, every successful claim waits for the activation point exactly
when something obstructs every earlier attempt. -/
theorem gateKept_iff {env : Env} {start bank : Bank} {history : History env}
    (run : Reaches env start history bank) :
    GateKept history ↔ EarlyClaimsObstructed history := by
  constructor
  · intro kept entry member key claims distributor found early clear
    obtain ⟨receipt, accepted⟩ :=
      (claim_accepted_iff claims (Bank.distributor?_eq_some.mp found)).mpr clear
    obtain ⟨_, _, _, _, same, _⟩ := run.attempt_of_mem member
    have committed : ⟨entry.before, entry.input, receipt⟩ ∈ commits history := by
      refine mem_commits.mpr ⟨entry, member, rfl, rfl, ?_⟩
      rw [same]
      exact accepted
    exact early (kept _ committed key claims distributor found)
  · intro obstructed commit member key claims distributor found
    obtain ⟨entry, isEntry, before, input, answer⟩ := mem_commits.mp member
    obtain ⟨_, _, _, _, same, _⟩ := run.attempt_of_mem isEntry
    rw [← before] at found
    rw [← input] at claims ⊢
    by_contra early
    apply obstructed entry isEntry key claims distributor found early
    apply (claim_accepted_iff claims (Bank.distributor?_eq_some.mp found)).mp
    refine ⟨commit.outcome, ?_⟩
    rw [← answer, same]
    rfl

/-- Alice asks for locked tokens at 20, before she has a claim status, and claims once the
activation point of 50 has passed. -/
def patientSeason : List (Transaction sampleEnv) :=
  [createSample sampleTree.merkleRoot false, aliceWithdraws 20, aliceClaims 55,
    aliceWithdraws 150]

theorem gateKept_iff_sample : GateKept (sampleHistory patientSeason) := by
  refine (gateKept_iff (sample_reaches _)).mpr ?_
  have early : ∀ entry ∈ sampleHistory patientSeason,
      ∀ key ∈ entry.input.instruction.claimedFrom,
        ∀ distributor ∈ entry.before.distributor? key,
          distributor.Activated entry.input.clock ∨
            ∃ account ∈ entry.input.instruction.withdrawsFrom,
              entry.before.claimStatus? account = none := by
    decide +kernel
  intro entry member key claims distributor found notActivated clear
  rcases early entry member key claims distributor found with
    activated | ⟨account, withdraws, unopened⟩
  · exact notActivated activated
  · -- there is no claim status to withdraw from
    unfold ClaimClear at clear
    cases instruction : entry.input.instruction with
    | claimLocked accounts =>
        simp only [instruction] at clear withdraws
        obtain ⟨status, clear⟩ := clear
        obtain rfl : accounts.claimStatus = account := Option.some.inj withdraws
        have opened := Bank.claimStatus?_eq_some.mpr clear.valid.isClaimStatus
        rw [unopened] at opened
        cases opened
    | _ =>
        rw [instruction] at withdraws
        exact absurd withdraws (by simp [Instruction.withdrawsFrom])

/-- At 20, before the activation point of 50, Alice claims and is paid her
unlocked tokens. -/
theorem early_claim_succeeds :
    Genesis sampleBank ∧
      Reaches sampleEnv sampleBank
        (sampleHistory [createSample sampleTree.merkleRoot false, aliceClaims 20])
        (sampleAfter [createSample sampleTree.merkleRoot false, aliceClaims 20]) ∧
      (sampleAfter [createSample sampleTree.merkleRoot false,
        aliceClaims 20]).token? aliceToken =
          some { mint := sampleMint, owner := alice, amount := 120 } ∧
      ¬ GateKept (sampleHistory [createSample sampleTree.merkleRoot false,
        aliceClaims 20]) := by
  refine ⟨sampleBank_genesis, sample_reaches _, by decide +kernel, ?_⟩
  intro kept
  have early : ∃ commit ∈ commits (sampleHistory
      [createSample sampleTree.merkleRoot false, aliceClaims 20]),
      ∃ key ∈ commit.input.instruction.claimedFrom,
        ∃ distributor ∈ commit.before.distributor? key,
          ¬ distributor.Activated commit.input.clock := by
    decide +kernel
  obtain ⟨commit, member, key, claims, distributor, found, early⟩ := early
  exact early (kept commit member key claims distributor found)

/-! ## What an early claim is paid -/

/-- A new claim before the activation point is paid its unlocked amount and no
bonus, as long as the time is not negative: the program reads a negative time as
a number beyond every activation point. -/
theorem early_claim_unlocked {env : Env} {clock : Clock} {signers : List Pubkey}
    {bank moved : Bank} {accounts : NewClaim} {amountUnlocked amountLocked : U64}
    {proof : List Hash} {distributor : MerkleDistributor} {bonus paid : U64}
    (checks : NewClaimChecks env clock signers bank accounts amountUnlocked
      amountLocked proof distributor bonus paid moved)
    (early : ¬ distributor.Activated clock)
    (notNegative : 0 ≤ clock.unixTimestamp.toInt) :
    bonus = 0 ∧ paid = amountUnlocked := by
  obtain ⟨handler, isHandler, granted⟩ := checks.granted
  obtain ⟨activationType, isType, rfl⟩ := getActivationHandler_eq_ok.mp isHandler
  have before : (activationType.currPoint clock).toNat <
      distributor.activationPoint.toNat := by
    unfold MerkleDistributor.Activated at early
    rw [isType] at early
    cases activationType with
    | slot =>
        simp only [not_le] at early
        exact early
    | timestamp =>
        simp only [not_le] at early
        have value := I64.toNat_toU64 notNegative
        simp only [ActivationType.currPoint]
        omega
  have none : bonus.toNat = 0 := by
    obtain ⟨_, _, value⟩ := grantedBonus_eq_ok.mp granted
    rw [value]
    exact MerkleDistributor.bonusAt_of_early before amountUnlocked
  have paidValue := checks.paidValue
  rw [none, Nat.add_zero] at paidValue
  exact ⟨BitVec.eq_of_toNat_eq none, BitVec.eq_of_toNat_eq paidValue⟩

end Airdrop
