/-
Module: Airdrop.Proofs.BonusSchedule
Purpose: The bonus that a claimant is granted: when the schedule of the program is the
  linear one over unbounded numbers, and when the share of the pool that it releases is
  the exact quotient.
Trusted boundary: none
Main exports: bonus_schedule, MerkleDistributor.BonusEnded, MerkleDistributor.ShareFits,
  bonus_exact_iff
-/
import Airdrop.Proofs.ClaimSpecs
import Airdrop.Proofs.Deployment

namespace Airdrop

open Checked Schedule Transition

/-! ## The schedule -/

section Handler

variable {handler : ActivationHandler}

/-- Where the end of the schedule is no `u64` there is no bonus to compute, at any
point. -/
theorem getBonusForAClaimaint_overflows
    (overflows : 2 ^ 64 ≤ handler.airdropBonus.vestingDuration.toNat +
      handler.activationPoint.toNat) (maxBonus : U64) :
    handler.getBonusForAClaimaint maxBonus = .error (.errorCode .arithmeticError) := by
  have noEnd : safeAdd handler.airdropBonus.vestingDuration handler.activationPoint =
      .error (.errorCode .arithmeticError) := by
    rw [safeAdd, checkedAdd, if_neg (by omega)]
    rfl
  unfold ActivationHandler.getBonusForAClaimaint
  simp only [noEnd]
  rfl

/-- Later points release no smaller bonus. -/
theorem getBonusForAClaimaint_mono {currPoint later maxBonus bonus laterBonus : U64}
    (passes : currPoint ≤ later)
    (granted : { handler with currPoint }.getBonusForAClaimaint maxBonus = .ok bonus)
    (grantedLater : { handler with currPoint := later }.getBonusForAClaimaint maxBonus =
      .ok laterBonus) : bonus ≤ laterBonus := by
  obtain ⟨_, value⟩ := getBonusForAClaimaint_eq_ok.mp granted
  obtain ⟨_, laterValue⟩ := getBonusForAClaimaint_eq_ok.mp grantedLater
  rw [BitVec.le_def, value, laterValue]
  apply scheduled_mono
  exact_mod_cast BitVec.le_def.mp passes

end Handler

/-- The schedule over unbounded numbers, at every point: this holds exactly where the
activation point and the duration add up to a `u64`.  Otherwise every point meets the
arithmetic error of the checked sum, and so does every new claim that gets that far. -/
theorem bonus_schedule (airdropBonus : AirdropBonus) (activationPoint : U64) :
    (airdropBonus.vestingDuration.toNat + activationPoint.toNat < 2 ^ 64 →
      ∀ maxBonus,
        (∀ currPoint, ∃ bonus,
          ({ currPoint, activationPoint, airdropBonus } :
            ActivationHandler).getBonusForAClaimaint maxBonus = .ok bonus ∧
          bonus.toNat = scheduled maxBonus.toNat activationPoint.toNat
            (activationPoint.toNat + airdropBonus.vestingDuration.toNat)
            currPoint.toNat ∧
          bonus ≤ maxBonus) ∧
        ∀ currPoint later bonus laterBonus, currPoint ≤ later →
          ({ currPoint, activationPoint, airdropBonus } :
            ActivationHandler).getBonusForAClaimaint maxBonus = .ok bonus →
          ({ currPoint := later, activationPoint, airdropBonus } :
            ActivationHandler).getBonusForAClaimaint maxBonus = .ok laterBonus →
          bonus ≤ laterBonus) ∧
    (2 ^ 64 ≤ airdropBonus.vestingDuration.toNat + activationPoint.toNat →
      (∀ currPoint maxBonus,
        ({ currPoint, activationPoint, airdropBonus } :
          ActivationHandler).getBonusForAClaimaint maxBonus =
            .error (.errorCode .arithmeticError)) ∧
      ∀ env clock signers bank accounts amountUnlocked amountLocked proof distributor,
        bank accounts.distributor = some (.distributor distributor) →
        distributor.activationPoint = activationPoint →
        distributor.airdropBonus = airdropBonus →
        ∀ receipt, newClaim env clock signers bank accounts amountUnlocked amountLocked
          proof ≠ .ok receipt) := by
  constructor
  · intro fits maxBonus
    constructor
    · intro currPoint
      let handler : ActivationHandler := { currPoint, activationPoint, airdropBonus }
      obtain ⟨bonus, granted, value⟩ :=
        @exists_getBonusForAClaimaint handler fits maxBonus
      refine ⟨bonus, granted, ?_, ?_⟩
      · rw [value]
        congr 1
        push_cast
        exact Int.add_comm _ _
      · rw [BitVec.le_def, value]
        exact scheduled_le
    · intro currPoint later bonus laterBonus passes granted grantedLater
      exact @getBonusForAClaimaint_mono { currPoint, activationPoint, airdropBonus } _ _ _ _ _
        passes granted grantedLater
  · intro overflows
    constructor
    · intro currPoint maxBonus
      exact getBonusForAClaimaint_overflows overflows maxBonus
    · rintro env clock signers bank accounts amountUnlocked amountLocked proof
        distributor found rfl rfl receipt accepted
      obtain ⟨loaded, bonus, paid, moved, checks, _⟩ := newClaim_eq_ok.mp accepted
      obtain rfl := Bank.distributor_unique found checks.valid.isDistributor
      obtain ⟨handler, isHandler, granted⟩ := checks.granted
      obtain ⟨activationType, _, rfl⟩ := getActivationHandler_eq_ok.mp isHandler
      rw [MerkleDistributor.getBonusForAClaimaint, bind_eq_ok] at granted
      obtain ⟨maxBonus, _, released⟩ := granted
      rw [getBonusForAClaimaint_overflows overflows] at released
      cases released

section Late

/-- The creation is accepted, and Alice's claim meets the arithmetic error, although it is
made long before the activation point, where the schedule says zero. -/
theorem late_schedule_errs :
    Genesis sampleBank ∧
    (∃ distributor ∈ (sampleAfter [createLate]).distributor? sampleKey,
      ∃ handler, distributor.getActivationHandler (aliceClaims 55).clock = .ok handler ∧
        handler.currPoint < handler.activationPoint ∧
        handler.getBonusForAClaimaint 12 = .error (.errorCode .arithmeticError)) ∧
    execute sampleEnv (sampleAfter [createLate]) (aliceClaims 55) =
      .error (.errorCode .arithmeticError) := by
  refine ⟨sampleBank_genesis, ?_, failure?_eq_some.mp (by decide +kernel)⟩
  refine ⟨{ sampleDistributor sampleTree.merkleRoot false with
    activationPoint := .ofNat 64 (2 ^ 64 - 1) }, by decide +kernel, _, rfl, ?_, ?_⟩
  · decide +kernel
  · rfl

end Late

/-! ## The share of the pool -/

/-- The current point is at or after the end of the bonus schedule. -/
def MerkleDistributor.BonusEnded (self : MerkleDistributor) (clock : Clock) : Prop :=
  ∃ activationType ∈ ActivationType.tryFrom self.activationType,
    self.activationPoint.toNat + self.airdropBonus.vestingDuration.toNat ≤
      (activationType.currPoint clock).toNat

/-- The share of the pool for an amount fits 64 bits: the amount times the pool is less
than `2 ^ 64` times what can be claimed without bonus. -/
def MerkleDistributor.ShareFits (self : MerkleDistributor) (amountUnlocked : U64) : Prop :=
  amountUnlocked.toNat * self.airdropBonus.totalBonus.toNat <
    2 ^ 64 * (self.maxTotalClaim.toNat - self.airdropBonus.totalBonus.toNat)

section Share

variable {distributor : MerkleDistributor} {amountUnlocked bonus : U64} {clock : Clock}

instance : Decidable (distributor.BonusEnded clock) := by
  unfold MerkleDistributor.BonusEnded
  infer_instance

instance : Decidable (distributor.ShareFits amountUnlocked) := by
  unfold MerkleDistributor.ShareFits
  infer_instance

/-- The share fits for every amount that is within what can be claimed without bonus. -/
theorem shareFits_of_le (positive : distributor.airdropBonus.totalBonus.toNat <
      distributor.maxTotalClaim.toNat)
    (within : amountUnlocked.toNat ≤
      distributor.maxTotalClaim.toNat - distributor.airdropBonus.totalBonus.toNat) :
    distributor.ShareFits amountUnlocked := by
  have poolBound := distributor.airdropBonus.totalBonus.isLt
  calc amountUnlocked.toNat * distributor.airdropBonus.totalBonus.toNat
      ≤ (distributor.maxTotalClaim.toNat - distributor.airdropBonus.totalBonus.toNat) *
          distributor.airdropBonus.totalBonus.toNat := Nat.mul_le_mul_right _ within
    _ < (distributor.maxTotalClaim.toNat - distributor.airdropBonus.totalBonus.toNat) *
          2 ^ 64 := Nat.mul_lt_mul_of_pos_left poolBound (by omega)
    _ = _ := Nat.mul_comm _ _

/-- Once the schedule has ended, the bonus is the share of the pool, cut to 64 bits. -/
theorem bonus_of_ended {handler : ActivationHandler}
    (isHandler : distributor.getActivationHandler clock = .ok handler)
    (ended : distributor.BonusEnded clock)
    (granted : distributor.getBonusForAClaimaint amountUnlocked handler = .ok bonus) :
    distributor.airdropBonus.totalBonus.toNat < distributor.maxTotalClaim.toNat ∧
    bonus.toNat =
      amountUnlocked.toNat * distributor.airdropBonus.totalBonus.toNat /
        (distributor.maxTotalClaim.toNat - distributor.airdropBonus.totalBonus.toNat) %
          2 ^ 64 := by
  obtain ⟨activationType, isType, rfl⟩ := getActivationHandler_eq_ok.mp isHandler
  obtain ⟨other, isOther, past⟩ := ended
  obtain rfl : other = activationType := Option.some.inj (isOther.symm.trans isType)
  rw [MerkleDistributor.getBonusForAClaimaint, bind_eq_ok] at granted
  obtain ⟨maxBonus, isMax, released⟩ := granted
  obtain ⟨positive, value⟩ := getMaxBonusForAClaimant_eq_ok.mp isMax
  obtain ⟨_, scheduledValue⟩ := getBonusForAClaimaint_eq_ok.mp released
  rw [scheduled_of_ge (by simp only; omega) (by simp only; omega)] at scheduledValue
  exact ⟨positive, scheduledValue.trans value⟩

/-- Cutting the share to 64 bits keeps it exactly where it fits. -/
theorem share_mod_eq_iff
    (positive : distributor.airdropBonus.totalBonus.toNat < distributor.maxTotalClaim.toNat) :
    amountUnlocked.toNat * distributor.airdropBonus.totalBonus.toNat /
        (distributor.maxTotalClaim.toNat - distributor.airdropBonus.totalBonus.toNat) %
          2 ^ 64 =
      amountUnlocked.toNat * distributor.airdropBonus.totalBonus.toNat /
        (distributor.maxTotalClaim.toNat - distributor.airdropBonus.totalBonus.toNat) ↔
      distributor.ShareFits amountUnlocked := by
  rw [Nat.mod_eq_iff_lt (by decide), Nat.div_lt_iff_lt_mul (by omega)]
  rfl

end Share

/-- In every run, a new claim that succeeds once the bonus schedule has ended is paid the
exact share of the pool on top of its amount if and only if that share fits 64 bits.  No
cap catches the others. -/
theorem bonus_exact_iff {env : Env} {start bank : Bank} {history : History env}
    (run : Reaches env start history bank) :
    ∀ commit ∈ commits history, ∀ accounts amountUnlocked amountLocked proof distributor,
      commit.input.instruction = .newClaim accounts amountUnlocked amountLocked proof →
      commit.before accounts.distributor = some (.distributor distributor) →
      distributor.BonusEnded commit.input.clock →
      ∃ bonus paid : U64,
        commit.outcome.transfers = [⟨accounts.fromAccount, accounts.toAccount, paid⟩] ∧
        paid.toNat = amountUnlocked.toNat + bonus.toNat ∧
        (bonus.toNat =
          amountUnlocked.toNat * distributor.airdropBonus.totalBonus.toNat /
            (distributor.maxTotalClaim.toNat -
              distributor.airdropBonus.totalBonus.toNat) ↔
          distributor.ShareFits amountUnlocked) := by
  intro commit member accounts amountUnlocked amountLocked proof distributor instruction
    found ended
  obtain ⟨_, _, _, _, accepted, _⟩ := run.commit_of_mem member
  change execute env commit.before commit.input = .ok commit.outcome at accepted
  rw [execute, instruction] at accepted
  obtain ⟨loaded, bonus, paid, moved, checks, same⟩ := newClaim_eq_ok.mp accepted
  obtain rfl := Bank.distributor_unique found checks.valid.isDistributor
  obtain ⟨handler, isHandler, granted⟩ := checks.granted
  obtain ⟨positive, value⟩ := bonus_of_ended isHandler ended granted
  refine ⟨bonus, paid, ?_, checks.paidValue, ?_⟩
  · rw [same]
  · rw [value]
    exact share_mod_eq_iff positive

/-- At 65 the schedule of the sample has ended, and Alice is granted 12 on top of 120. -/
theorem bonus_exact_iff_sample :
    ∃ commit ∈ commits (sampleHistory [createSample sampleTree.merkleRoot false,
        aliceClaims 65]),
      commit.input.instruction = (aliceClaims 65).instruction ∧
      ∃ bonus paid : U64, commit.outcome.transfers = [⟨sampleVault, aliceToken, paid⟩] ∧
        paid.toNat = 120 + bonus.toNat ∧ bonus.toNat = 120 * 20 / (220 - 20) := by
  have claimed : ∃ commit ∈ commits (sampleHistory
      [createSample sampleTree.merkleRoot false, aliceClaims 65]),
      commit.input.instruction = (aliceClaims 65).instruction ∧
      ∃ distributor ∈ commit.before.distributor? sampleKey,
        distributor.BonusEnded commit.input.clock ∧ distributor.ShareFits 120 ∧
        distributor.airdropBonus.totalBonus = 20 ∧ distributor.maxTotalClaim = 220 := by
    decide +kernel
  obtain ⟨commit, member, instruction, distributor, found, ended, fits, pool, cap⟩ := claimed
  obtain ⟨bonus, paid, transfers, paidValue, exact⟩ := bonus_exact_iff (sample_reaches _)
    commit member _ _ _ _ distributor instruction (Bank.distributor?_eq_some.mp found) ended
  have value := exact.mpr fits
  rw [pool, cap] at value
  exact ⟨commit, member, instruction, bonus, paid, transfers, paidValue, value⟩

/-- Alice's share is 60 times `2 ^ 64`: she is paid her 120 tokens and no bonus. -/
theorem share_cut_off :
    Genesis sampleBank ∧
    ∃ commit ∈ commits (sampleHistory [createNarrow, aliceClaims 60]),
      commit.input.instruction = (aliceClaims 60).instruction ∧
      commit.outcome.transfers = [⟨sampleVault, aliceToken, 120⟩] ∧
      ∃ distributor ∈ commit.before.distributor? sampleKey,
        distributor.BonusEnded commit.input.clock ∧
        120 * distributor.airdropBonus.totalBonus.toNat /
          (distributor.maxTotalClaim.toNat - distributor.airdropBonus.totalBonus.toNat) =
            60 * 2 ^ 64 :=
  ⟨sampleBank_genesis, by decide +kernel⟩

end Airdrop
