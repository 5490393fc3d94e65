/-
Module: Airdrop.Proofs.Arithmetic
Purpose: The bonus and the vesting arithmetic of the program, with its checked
  steps and casts, against linear schedules and proportional shares over
  unbounded numbers.
Trusted boundary: none
Main exports: getActivationHandler_eq_ok, getBonusForAClaimaint_eq_ok,
  getMaxBonusForAClaimant_eq_ok, bonus_bound, exists_unlockedAmountAt,
  amountWithdrawable_eq_ok
-/
import Airdrop.Library.Schedule
import Airdrop.Program.State

namespace Airdrop

open Checked Schedule

/-! ## Activation -/

/-- The current point of the program: the slot or the time, by activation type. -/
def ActivationType.currPoint (activationType : ActivationType) (clock : Clock) :
    U64 :=
  match activationType with
  | .slot => clock.slot
  | .timestamp => I64.toU64 clock.unixTimestamp

theorem getActivationHandler_eq_ok {distributor : MerkleDistributor}
    {clock : Clock} {handler : ActivationHandler} :
    distributor.getActivationHandler clock = .ok handler ↔
      ∃ activationType,
        ActivationType.tryFrom distributor.activationType = some activationType ∧
        handler =
          { currPoint := activationType.currPoint clock
            activationPoint := distributor.activationPoint
            airdropBonus := distributor.airdropBonus } := by
  unfold MerkleDistributor.getActivationHandler
  simp only [bind_eq_ok, okOr_eq_ok, pure_eq, Except.ok.injEq]
  constructor
  · rintro ⟨activationType, valid, rfl⟩
    exact ⟨activationType, valid, by cases activationType <;> rfl⟩
  · rintro ⟨activationType, valid, rfl⟩
    exact ⟨activationType, valid, by cases activationType <;> rfl⟩

/-! ## Products and quotients in `u128` -/

/-- Multiplying two numbers of at most 64 bits in `u128`, dividing and casting
back keeps the exact quotient where it fits. -/
theorem mulDiv_eq {a b c : U128} (aFits : a.toNat < 2 ^ 64)
    (bFits : b.toNat < 2 ^ 64) (nonzero : c.toNat ≠ 0) :
    ∃ product quotient, safeMul a b = .ok product ∧
      safeDiv product c = .ok quotient ∧
      quotient.toNat = a.toNat * b.toNat / c.toNat := by
  have below : a.toNat * b.toNat < 2 ^ 128 :=
    calc a.toNat * b.toNat < 2 ^ 64 * 2 ^ 64 :=
          Nat.mul_lt_mul'' aFits bFits
      _ = 2 ^ 128 := by norm_num
  have product : (a * b).toNat = a.toNat * b.toNat := BitVec.toNat_mul_of_lt below
  refine ⟨a * b, a * b / c, safeMul_eq_ok.mpr product,
    safeDiv_eq_ok.mpr ⟨nonzero, ?_⟩, ?_⟩
  · exact BitVec.toNat_udiv
  · rw [BitVec.toNat_udiv, product]

/-! ## The bonus -/

/-- Once the end of its schedule is a `u64`, the bonus is defined and follows
the schedule. -/
theorem exists_getBonusForAClaimaint {handler : ActivationHandler}
    (fits : handler.airdropBonus.vestingDuration.toNat +
      handler.activationPoint.toNat < 2 ^ 64) (maxBonus : U64) :
    ∃ bonus, handler.getBonusForAClaimaint maxBonus = .ok bonus ∧
      bonus.toNat =
        scheduled maxBonus.toNat handler.activationPoint.toNat
          (handler.airdropBonus.vestingDuration.toNat +
            handler.activationPoint.toNat : Nat)
          handler.currPoint.toNat := by
  obtain ⟨endPoint, added, isEnd⟩ := exists_checkedAdd fits
  have endIs : safeAdd handler.airdropBonus.vestingDuration
      handler.activationPoint = .ok endPoint := safeAdd_eq_ok.mpr isEnd
  unfold ActivationHandler.getBonusForAClaimaint
  simp only [endIs, ok_bind, BitVec.le_def, ← isEnd]
  by_cases begun : handler.activationPoint.toNat ≤ handler.currPoint.toNat
  · rw [if_pos begun]
    by_cases ended : endPoint.toNat ≤ handler.currPoint.toNat
    · rw [if_pos ended, scheduled_of_ge (by omega) (by omega)]
      exact ⟨maxBonus, rfl, rfl⟩
    · -- The schedule is running: the elapsed part is below the duration.
      rw [if_neg ended, scheduled_between (by omega) (by omega)]
      have elapsed : (handler.currPoint - handler.activationPoint).toNat =
          handler.currPoint.toNat - handler.activationPoint.toNat :=
        BitVec.toNat_sub_of_le begun
      have subIs : safeSub handler.currPoint handler.activationPoint =
          .ok (handler.currPoint - handler.activationPoint) :=
        safeSub_eq_ok.mpr (by omega)
      have bound := handler.currPoint.isLt
      have positive : handler.airdropBonus.vestingDuration.toNat ≠ 0 := by omega
      obtain ⟨product, quotient, multiplied, divided, value⟩ :=
        mulDiv_eq (a := U64.toU128
            (handler.currPoint - handler.activationPoint))
          (b := U64.toU128 maxBonus)
          (c := U64.toU128 handler.airdropBonus.vestingDuration)
          (by rw [U64.toNat_toU128]; omega)
          (by rw [U64.toNat_toU128]; exact maxBonus.isLt)
          (by rw [U64.toNat_toU128]; exact positive)
      rw [subIs, ok_bind, multiplied, ok_bind, divided, ok_bind]
      refine ⟨U128.toU64 quotient, rfl, ?_⟩
      have small : quotient.toNat ≤ maxBonus.toNat := by
        rw [value]
        apply Nat.div_le_of_le_mul
        simp only [U64.toNat_toU128]
        apply Nat.mul_le_mul_right
        omega
      have maxBound := maxBonus.isLt
      rw [U128.toNat_toU64, Nat.mod_eq_of_lt (by omega), value]
      simp only [U64.toNat_toU128, elapsed]
      congr 2
      · omega
      · omega
  · rw [if_neg begun, scheduled_of_lt (by omega)]
    exact ⟨0, rfl, rfl⟩

/-- The bonus follows the linear schedule exactly, and is defined exactly where
the end of the schedule is a `u64`. -/
theorem getBonusForAClaimaint_eq_ok {handler : ActivationHandler}
    {maxBonus bonus : U64} :
    handler.getBonusForAClaimaint maxBonus = .ok bonus ↔
      handler.airdropBonus.vestingDuration.toNat +
        handler.activationPoint.toNat < 2 ^ 64 ∧
      bonus.toNat =
        scheduled maxBonus.toNat handler.activationPoint.toNat
          (handler.airdropBonus.vestingDuration.toNat +
            handler.activationPoint.toNat : Nat)
          handler.currPoint.toNat := by
  constructor
  · intro granted
    have fits : handler.airdropBonus.vestingDuration.toNat +
        handler.activationPoint.toNat < 2 ^ 64 := by
      unfold ActivationHandler.getBonusForAClaimaint at granted
      simp only [bind_eq_ok, safeAdd_eq_ok] at granted
      obtain ⟨endPoint, isEnd, _⟩ := granted
      have bound := endPoint.isLt
      omega
    obtain ⟨other, same, value⟩ := exists_getBonusForAClaimaint fits maxBonus
    rw [granted, Except.ok.injEq] at same
    rw [same]
    exact ⟨fits, value⟩
  · rintro ⟨fits, value⟩
    obtain ⟨other, granted, same⟩ := exists_getBonusForAClaimaint fits maxBonus
    rw [granted, BitVec.eq_of_toNat_eq (same.trans value.symm)]

/-- The largest bonus of a claimant is its proportional share of the pool, cut
to 64 bits, and is defined exactly where the cap exceeds the pool. -/
theorem getMaxBonusForAClaimant_eq_ok {distributor : MerkleDistributor}
    {unlockedAmount maxBonus : U64} :
    distributor.getMaxBonusForAClaimant unlockedAmount = .ok maxBonus ↔
      distributor.airdropBonus.totalBonus.toNat <
        distributor.maxTotalClaim.toNat ∧
      maxBonus.toNat =
        share distributor.airdropBonus.totalBonus.toNat
          (distributor.maxTotalClaim.toNat -
            distributor.airdropBonus.totalBonus.toNat)
          unlockedAmount.toNat % 2 ^ 64 := by
  unfold MerkleDistributor.getMaxBonusForAClaimant
  simp only [bind_eq_ok, safeSub_eq_ok, pure_eq, Except.ok.injEq]
  constructor
  · rintro ⟨whole, isWhole, product, isProduct, quotient, isQuotient, rfl⟩
    rw [safeMul_eq_ok] at isProduct
    rw [safeDiv_eq_ok] at isQuotient
    simp only [U64.toNat_toU128] at isProduct isQuotient
    refine ⟨by omega, ?_⟩
    rw [U128.toNat_toU64, isQuotient.2, isProduct, share]
    congr 2
    omega
  · rintro ⟨below, value⟩
    obtain ⟨whole, _, isWhole⟩ := exists_checkedSub (show
      distributor.airdropBonus.totalBonus.toNat ≤
        distributor.maxTotalClaim.toNat by omega)
    obtain ⟨product, quotient, multiplied, divided, isQuotient⟩ :=
      mulDiv_eq (a := U64.toU128 unlockedAmount)
        (b := U64.toU128 distributor.airdropBonus.totalBonus)
        (c := U64.toU128 whole)
        (by rw [U64.toNat_toU128]; exact unlockedAmount.isLt)
        (by rw [U64.toNat_toU128]; exact distributor.airdropBonus.totalBonus.isLt)
        (by rw [U64.toNat_toU128]; omega)
    refine ⟨whole, isWhole, product, multiplied, quotient, divided, ?_⟩
    apply BitVec.eq_of_toNat_eq
    rw [value, U128.toNat_toU64, isQuotient, share]
    simp only [U64.toNat_toU128]
    congr 2
    omega

/-- What any granted bonus obeys, whatever the casts drop: scaled by the cap
without the pool, it is at most the unlocked amount times the pool. -/
theorem bonus_bound {distributor : MerkleDistributor} {unlockedAmount bonus : U64}
    {handler : ActivationHandler}
    (granted : distributor.getBonusForAClaimaint unlockedAmount handler =
      .ok bonus) :
    distributor.airdropBonus.totalBonus.toNat <
        distributor.maxTotalClaim.toNat ∧
      bonus.toNat ≤
        share distributor.airdropBonus.totalBonus.toNat
          (distributor.maxTotalClaim.toNat -
            distributor.airdropBonus.totalBonus.toNat)
          unlockedAmount.toNat := by
  unfold MerkleDistributor.getBonusForAClaimaint at granted
  rw [bind_eq_ok] at granted
  obtain ⟨maxBonus, isMax, released⟩ := granted
  obtain ⟨below, maxValue⟩ := getMaxBonusForAClaimant_eq_ok.mp isMax
  obtain ⟨_, value⟩ := getBonusForAClaimaint_eq_ok.mp released
  refine ⟨below, ?_⟩
  calc bonus.toNat ≤ maxBonus.toNat := value ▸ scheduled_le
    _ ≤ _ := maxValue ▸ Nat.mod_le _ _

/-! ## Vesting -/

/-- Comparison of `i64` is comparison of the numbers. -/
theorem I64.le_iff {a b : Int64} : a ≤ b ↔ a.toInt ≤ b.toInt :=
  Int64.le_iff_toInt_le

/-- The vested amount follows the linear schedule exactly, and is defined where
the elapsed time and the vesting time fit `i64` while the schedule runs. -/
theorem exists_unlockedAmountAt {status : ClaimStatus}
    {currTs startTs endTs : Int64}
    (fits : startTs.toInt ≤ currTs.toInt → currTs.toInt < endTs.toInt →
      endTs.toInt - startTs.toInt < 2 ^ 63) :
    ∃ vested, status.unlockedAmountAt currTs startTs endTs = .ok vested ∧
      vested.toNat =
        scheduled status.lockedAmount.toNat startTs.toInt endTs.toInt
          currTs.toInt := by
  unfold ClaimStatus.unlockedAmountAt
  simp only [I64.le_iff]
  by_cases begun : startTs.toInt ≤ currTs.toInt
  · rw [if_pos begun]
    by_cases ended : endTs.toInt ≤ currTs.toInt
    · rw [if_pos ended, scheduled_of_ge begun ended]
      exact ⟨status.lockedAmount, rfl, rfl⟩
    · rw [if_neg ended, scheduled_between begun (by omega)]
      have short := fits begun (by omega)
      have signedSub {a b : Int64} (ordered : b.toInt ≤ a.toInt)
          (narrow : a.toInt - b.toInt < 2 ^ 63) :
          ∃ c, okOrArithmetic (checkedSubSigned a b) = .ok c ∧
            c.toInt = a.toInt - b.toInt := by
        refine ⟨a - b, ?_, ?_⟩
        · rw [checkedSubSigned, if_pos ⟨by omega, narrow⟩]
          rfl
        · rw [Int64.toInt_sub, Int.bmod_eq_of_le] <;> omega
      obtain ⟨elapsed, elapsedIs, elapsedValue⟩ :=
        signedSub begun (by omega)
      obtain ⟨total, totalIs, totalValue⟩ :=
        signedSub (a := endTs) (b := startTs) (by omega) short
      have elapsedNat := @I64.toNat_toU128 elapsed (by omega)
      have totalNat := @I64.toNat_toU128 total (by omega)
      have elapsedBound := elapsed.toInt_lt
      obtain ⟨product, quotient, multiplied, divided, value⟩ :=
        mulDiv_eq (a := I64.toU128 elapsed)
          (b := U64.toU128 status.lockedAmount) (c := I64.toU128 total)
          (by omega)
          (by rw [U64.toNat_toU128]; exact status.lockedAmount.isLt)
          (by omega)
      rw [elapsedIs, ok_bind, totalIs, ok_bind]
      change ∃ vested, (safeMul _ _ >>= fun product =>
        safeDiv product _ >>= fun amount => pure (U128.toU64 amount)) =
          .ok vested ∧ _
      rw [multiplied, ok_bind, divided, ok_bind]
      refine ⟨U128.toU64 quotient, rfl, ?_⟩
      have small : quotient.toNat ≤ status.lockedAmount.toNat := by
        rw [value, U64.toNat_toU128]
        apply Nat.div_le_of_le_mul
        apply Nat.mul_le_mul_right
        omega
      have lockedBound := status.lockedAmount.isLt
      rw [U128.toNat_toU64, Nat.mod_eq_of_lt (by omega), value, U64.toNat_toU128]
      congr 2
      · omega
      · omega
  · rw [if_neg begun, scheduled_of_lt (by omega)]
    exact ⟨0, rfl, rfl⟩

/-- What can be withdrawn is what is missing to the schedule, and there is an
error where more was withdrawn already. -/
theorem amountWithdrawable_eq_ok {status : ClaimStatus}
    {currTs startTs endTs : Int64} {amount : U64}
    (fits : startTs.toInt ≤ currTs.toInt → currTs.toInt < endTs.toInt →
      endTs.toInt - startTs.toInt < 2 ^ 63) :
    status.amountWithdrawable currTs startTs endTs = .ok amount ↔
      amount.toNat + status.lockedAmountWithdrawn.toNat =
        scheduled status.lockedAmount.toNat startTs.toInt endTs.toInt
          currTs.toInt := by
  obtain ⟨vested, isVested, value⟩ := exists_unlockedAmountAt fits
  rw [ClaimStatus.amountWithdrawable, isVested, ok_bind, okOrArithmetic_eq_ok,
    checkedSub_eq_some, value]

end Airdrop
