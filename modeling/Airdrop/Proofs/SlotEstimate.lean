/-
Module: Airdrop.Proofs.SlotEstimate
Purpose: The slot that the two commands estimate, as an equation over the natural numbers:
  for which clocks, samples and times every build computes it, and that it then moves with
  the time.
Trusted boundary: the default length of a slot is at least 2 ms, and its double a `u64`
Main exports: meanSlotMs, estimatedSlot, SlotFits, slotByTime_eq_ok, SlotEstimated,
  slot_estimated_iff
-/
import Airdrop.Cli.SlotByTime
import Airdrop.Proofs.FrontRunCheck

namespace Airdrop

open Checked

/-! ## The estimate in natural numbers -/

/-- What a sample counts for, in milliseconds a slot. -/
def PerfSample.slotMs (sample : PerfSample) : Nat :=
  sample.samplePeriodSecs.toNat * 1000 / sample.numSlots.toNat

/-- The mean over the samples, or `default` where the mean is far from it.  Without samples
the mean is 0, which is far from it too. -/
def meanSlotMs (default : Nat) (samples : List PerfSample) : Nat :=
  let mean := (samples.map PerfSample.slotMs).sum / samples.length
  if mean < default / 2 ∨ default * 2 < mean then default else mean

/-- The slot of `time`, where slots last `mean` milliseconds and `slot` is the one of
`now`. -/
def estimatedSlot (mean slot now time : Nat) : Nat :=
  if now < time then slot + (time - now) * 1000 / mean
  else slot - (now - time) * 1000 / mean

theorem meanSlotMs_pos {default : Nat} (samples : List PerfSample) (large : 2 ≤ default) :
    0 < meanSlotMs default samples := by
  unfold meanSlotMs
  dsimp only
  split <;> omega

theorem meanSlotMs_le (default : Nat) (samples : List PerfSample) :
    meanSlotMs default samples ≤ default * 2 := by
  unfold meanSlotMs
  dsimp only
  split <;> omega

theorem estimatedSlot_now (mean slot now : Nat) : estimatedSlot mean slot now now = slot := by
  simp [estimatedSlot]

theorem estimatedSlot_le_of_past {mean slot now time : Nat} (past : time ≤ now) :
    estimatedSlot mean slot now time ≤ slot := by
  rw [estimatedSlot, if_neg (by omega)]
  exact Nat.sub_le _ _

theorem le_estimatedSlot_of_future {mean slot now time : Nat} (future : now ≤ time) :
    slot ≤ estimatedSlot mean slot now time := by
  obtain rfl | future := future.eq_or_lt
  · exact (estimatedSlot_now ..).ge
  · rw [estimatedSlot, if_pos future]
    exact Nat.le_add_right _ _

theorem estimatedSlot_mono (mean slot now : Nat) : Monotone (estimatedSlot mean slot now) := by
  intro earlier later order
  by_cases earlierPast : earlier ≤ now
  · by_cases laterPast : later ≤ now
    · have closer : (now - later) * 1000 / mean ≤ (now - earlier) * 1000 / mean :=
        Nat.div_le_div_right (Nat.mul_le_mul_right 1000 (by omega))
      rw [estimatedSlot, if_neg (by omega), estimatedSlot, if_neg (by omega)]
      omega
    · exact (estimatedSlot_le_of_past earlierPast).trans
        (le_estimatedSlot_of_future (by omega))
  · have farther : (earlier - now) * 1000 / mean ≤ (later - now) * 1000 / mean :=
      Nat.div_le_div_right (Nat.mul_le_mul_right 1000 (by omega))
    rw [estimatedSlot, if_pos (by omega), estimatedSlot, if_pos (by omega)]
    omega

/-! ## No build differs where the checked one succeeds -/

variable {defaultMsPerSlot : U64} {clock : Clock} {samples : List PerfSample}

theorem getAverageSlotTime_stable (answer : Except Unit (List PerfSample)) :
    Stable fun overflow => getAverageSlotTime overflow defaultMsPerSlot answer := by
  cases answer with
  | error failure => exact .const _
  | ok samples =>
      have turns (total : U64) (sample : PerfSample) :
          Stable fun overflow => addSampleTime overflow total sample :=
        (plainMul_stable _ _).bind fun millis =>
          (Stable.const _).bind fun time => plainAdd_stable _ _
      unfold getAverageSlotTime
      dsimp only
      split
      · exact .const _
      · exact (Stable.foldlM turns samples 0).bind fun _ => .const _

theorem slotFrom_stable (currentSlot currentTime averageSlotTime enableTime : U64) :
    Stable fun overflow =>
      slotFrom overflow currentSlot currentTime averageSlotTime enableTime := by
  unfold slotFrom
  split
  · exact (plainSub_stable _ _).bind fun seconds =>
      (plainMul_stable _ _).bind fun millis =>
        (Stable.const _).bind fun slots => plainAdd_stable _ _
  · exact (plainSub_stable _ _).bind fun seconds =>
      (plainMul_stable _ _).bind fun millis =>
        (Stable.const _).bind fun slots => plainSub_stable _ _

/-! ## The build with overflow checks -/

theorem addSampleTime_panics_eq_ok {totalTime next : U64} {sample : PerfSample} :
    addSampleTime .panics totalTime sample = .ok next ↔
      sample.numSlots.toNat ≠ 0 ∧ next.toNat = totalTime.toNat + sample.slotMs := by
  have period := sample.samplePeriodSecs.isLt
  have widened : (sample.samplePeriodSecs.setWidth 64).toNat = sample.samplePeriodSecs.toNat :=
    BitVec.toNat_setWidth_of_le (by decide)
  have thousand : (1000 : U64).toNat = 1000 := rfl
  simp only [addSampleTime, bind_eq_ok, plainMul_panics_eq_ok, plainDiv_eq_ok,
    plainAdd_panics_eq_ok, widened, thousand]
  constructor
  · rintro ⟨millis, product, time, ⟨nonzero, quotient⟩, sum⟩
    rw [product] at quotient
    exact ⟨nonzero, by rw [sum, quotient, PerfSample.slotMs]⟩
  · rintro ⟨nonzero, sum⟩
    have product : sample.samplePeriodSecs.toNat * 1000 < 2 ^ 64 := by omega
    exact ⟨.ofNatLT _ product, rfl, .ofNatLT sample.slotMs
      ((Nat.div_le_self _ _).trans_lt product), ⟨nonzero, rfl⟩, sum⟩

/-- The loop adds up the samples, none of which may be without slots. -/
theorem foldlM_addSampleTime_eq_ok {start total : U64} :
    samples.foldlM (addSampleTime .panics) start = .ok total ↔
      (∀ sample ∈ samples, sample.numSlots.toNat ≠ 0) ∧
      total.toNat = start.toNat + (samples.map PerfSample.slotMs).sum := by
  induction samples generalizing start with
  | nil => simp [← BitVec.toNat_inj, eq_comm]
  | cons sample samples inductionHypothesis =>
      simp only [List.foldlM_cons, bind_eq_ok, addSampleTime_panics_eq_ok, inductionHypothesis,
        List.forall_mem_cons, List.map_cons, List.sum_cons]
      constructor
      · rintro ⟨next, ⟨nonzero, added⟩, others, sum⟩
        exact ⟨⟨nonzero, others⟩, by omega⟩
      · rintro ⟨⟨nonzero, others⟩, sum⟩
        have bound := total.isLt
        exact ⟨.ofNatLT (start.toNat + sample.slotMs) (by omega), ⟨nonzero, rfl⟩, others,
          by rw [BitVec.toNat_ofNatLT]; omega⟩

section Spec

variable (large : 2 ≤ defaultMsPerSlot.toNat) (small : defaultMsPerSlot.toNat * 2 < 2 ^ 64)
variable (few : samples.length < 2 ^ 64)

include small in
theorem sanityCheck_eq_ok {mean average : U64} :
    (if mean < defaultMsPerSlot / 2 ∨ defaultMsPerSlot * 2 < mean then pure defaultMsPerSlot
      else pure mean : Except (Stop Unit) U64) = .ok average ↔
    average.toNat =
      if mean.toNat < defaultMsPerSlot.toNat / 2 ∨ defaultMsPerSlot.toNat * 2 < mean.toNat then
        defaultMsPerSlot.toNat
      else mean.toNat := by
  have half : (defaultMsPerSlot / 2).toNat = defaultMsPerSlot.toNat / 2 :=
    BitVec.toNat_udiv
  have double : (defaultMsPerSlot * 2).toNat = defaultMsPerSlot.toNat * 2 :=
    BitVec.toNat_mul_of_lt small
  simp only [BitVec.lt_def, half, double]
  split <;> simp [← BitVec.toNat_inj, eq_comm]

include large small few

theorem getAverageSlotTime_panics_eq_ok {average : U64} :
    getAverageSlotTime .panics defaultMsPerSlot (.ok samples) = .ok average ↔
      (∀ sample ∈ samples, sample.numSlots.toNat ≠ 0) ∧
      (samples.map PerfSample.slotMs).sum < 2 ^ 64 ∧
      average.toNat = meanSlotMs defaultMsPerSlot.toNat samples := by
  have count : (BitVec.ofNat 64 samples.length).toNat = samples.length := by
    rw [BitVec.toNat_ofNat, Nat.mod_eq_of_lt few]
  unfold getAverageSlotTime
  dsimp only
  split
  case isTrue noSamples =>
    have empty : samples = [] := by
      rw [← List.length_eq_zero_iff, ← count, noSamples]
      rfl
    have mean : meanSlotMs defaultMsPerSlot.toNat [] = defaultMsPerSlot.toNat :=
      if_pos (.inl (by simpa using large))
    rw [empty, mean]
    simp [← BitVec.toNat_inj, eq_comm]
  case isFalse someSamples =>
    have counted : samples.length ≠ 0 := by
      rw [← count]
      exact fun zero => someSamples (BitVec.toNat_inj.mp zero)
    have start : (0 : U64).toNat = 0 := rfl
    simp only [bind_eq_ok, foldlM_addSampleTime_eq_ok, plainDiv_eq_ok, count,
      sanityCheck_eq_ok small, start, Nat.zero_add]
    constructor
    · rintro ⟨total, ⟨nonzero, sum⟩, mean, ⟨_, quotient⟩, checked⟩
      rw [quotient, sum] at checked
      exact ⟨nonzero, sum ▸ total.isLt, checked⟩
    · rintro ⟨nonzero, fits, checked⟩
      exact ⟨.ofNatLT _ fits, ⟨nonzero, rfl⟩,
        .ofNatLT _ ((Nat.div_le_self _ samples.length).trans_lt fits), ⟨counted, rfl⟩, checked⟩

end Spec

/-- The requested time is in the range in which the estimate is a `u64`: each of its steps
fits, the time is after the start of slot 0 and before the end of the last slot. -/
structure TimeFits (mean slot now time : Nat) : Prop where
  past : time ≤ now →
    (now - time) * 1000 < 2 ^ 64 ∧ (now - time) * 1000 < (slot + 1) * mean
  future : now < time →
    (time - now) * 1000 < 2 ^ 64 ∧ (time - now) * 1000 < (2 ^ 64 - slot) * mean

/-- The steps that both directions share: the distance in slots, which `rest` is about. -/
theorem exists_slots_iff {later earlier mean : U64} {rest : U64 → Prop}
    (order : earlier.toNat ≤ later.toNat) (positive : 0 < mean.toNat) :
    (∃ seconds : U64, seconds.toNat + earlier.toNat = later.toNat ∧
      ∃ millis : U64, millis.toNat = seconds.toNat * 1000 ∧
      ∃ slots : U64, (mean.toNat ≠ 0 ∧ slots.toNat = millis.toNat / mean.toNat) ∧ rest slots) ↔
    (later.toNat - earlier.toNat) * 1000 < 2 ^ 64 ∧
      ∃ slots : U64, slots.toNat = (later.toNat - earlier.toNat) * 1000 / mean.toNat ∧
        rest slots := by
  constructor
  · rintro ⟨seconds, difference, millis, product, slots, ⟨_, quotient⟩, holds⟩
    have elapsed : seconds.toNat = later.toNat - earlier.toNat := by omega
    rw [elapsed] at product
    rw [product] at quotient
    exact ⟨product ▸ millis.isLt, slots, quotient, holds⟩
  · rintro ⟨fits, slots, quotient, holds⟩
    have bound := later.isLt
    exact ⟨.ofNatLT (later.toNat - earlier.toNat) (by omega), by
      rw [BitVec.toNat_ofNatLT]; omega, .ofNatLT _ fits, rfl, slots, ⟨by omega, quotient⟩, holds⟩

theorem TimeFits.estimatedSlot_lt {mean slot now time : Nat}
    (fits : TimeFits mean slot now time) (positive : 0 < mean) (current : slot < 2 ^ 64) :
    estimatedSlot mean slot now time < 2 ^ 64 := by
  by_cases past : time ≤ now
  · exact (estimatedSlot_le_of_past past).trans_lt current
  · rw [Nat.not_le] at past
    have reached := (Nat.div_lt_iff_lt_mul positive).mpr (fits.future past).2
    rw [estimatedSlot, if_pos past]
    omega

theorem slotFrom_panics_eq_ok {currentSlot currentTime mean enableTime slot : U64}
    (positive : 0 < mean.toNat) :
    slotFrom .panics currentSlot currentTime mean enableTime = .ok slot ↔
      TimeFits mean.toNat currentSlot.toNat currentTime.toNat enableTime.toNat ∧
      slot.toNat =
        estimatedSlot mean.toNat currentSlot.toNat currentTime.toNat enableTime.toNat := by
  have slotBound := slot.isLt
  have currentBound := currentSlot.isLt
  have thousand : (1000 : U64).toNat = 1000 := rfl
  unfold slotFrom
  split
  case isTrue future =>
    rw [BitVec.lt_def] at future
    simp only [bind_eq_ok, plainSub_panics_eq_ok, plainMul_panics_eq_ok, plainDiv_eq_ok,
      plainAdd_panics_eq_ok, thousand]
    rw [exists_slots_iff future.le positive, estimatedSlot, if_pos future]
    constructor
    · rintro ⟨millis, slots, quotient, sum⟩
      rw [quotient] at sum
      refine ⟨⟨fun past => absurd past (by omega), fun _ => ⟨millis, ?_⟩⟩, sum⟩
      exact (Nat.div_lt_iff_lt_mul positive).mp (by omega)
    · rintro ⟨fits, sum⟩
      have quotient := fits.future future
      exact ⟨quotient.1, .ofNatLT _ ((Nat.div_le_self _ _).trans_lt quotient.1), rfl, sum⟩
  case isFalse past =>
    rw [BitVec.lt_def] at past
    simp only [bind_eq_ok, plainSub_panics_eq_ok, plainMul_panics_eq_ok, plainDiv_eq_ok,
      thousand]
    rw [exists_slots_iff (Nat.le_of_not_lt past) positive, estimatedSlot, if_neg past]
    constructor
    · rintro ⟨millis, slots, quotient, sum⟩
      rw [quotient] at sum
      refine ⟨⟨fun _ => ⟨millis, ?_⟩, fun future => absurd future past⟩, by omega⟩
      exact (Nat.div_lt_iff_lt_mul positive).mp (by omega)
    · rintro ⟨fits, difference⟩
      have quotient := fits.past (Nat.le_of_not_lt past)
      have reached := (Nat.div_lt_iff_lt_mul positive).mpr quotient.2
      refine ⟨quotient.1, .ofNatLT _ ((Nat.div_le_self _ _).trans_lt quotient.1), rfl, ?_⟩
      rw [BitVec.toNat_ofNatLT]
      omega

/-! ## Both commands -/

/-- The time of the clock in seconds. -/
def Clock.seconds (clock : Clock) : Nat := clock.unixTimestamp.toInt.toNat

/-- Which inputs the estimate is defined for: no sample is without slots, their sum fits, and
the time is in range. -/
structure SlotFits (default : Nat) (clock : Clock) (samples : List PerfSample) (time : U64) :
    Prop where
  sampled : ∀ sample ∈ samples, sample.numSlots.toNat ≠ 0
  summed : (samples.map PerfSample.slotMs).sum < 2 ^ 64
  inRange : TimeFits (meanSlotMs default samples) clock.slot.toNat clock.seconds time.toNat

theorem slotByTime_stable (clockAnswer : Except Unit Clock)
    (samplesAnswer : Except Unit (List PerfSample)) (time : U64) :
    ∀ slot, slotByTime .panics defaultMsPerSlot clockAnswer samplesAnswer time = .ok slot →
      ∀ overflow,
        slotByTime overflow defaultMsPerSlot clockAnswer samplesAnswer time = .ok slot := by
  intro slot computed overflow
  simp only [slotByTime, bind_eq_ok, unwrapCall_eq_ok] at computed ⊢
  obtain ⟨clock, found, seconds, converted, average, averaged, estimated⟩ := computed
  exact ⟨clock, found, seconds, converted, average,
    getAverageSlotTime_stable samplesAnswer average averaged overflow,
    slotFrom_stable _ _ _ _ slot estimated overflow⟩

section Spec

variable (large : 2 ≤ defaultMsPerSlot.toNat) (small : defaultMsPerSlot.toNat * 2 < 2 ^ 64)
variable (few : samples.length < 2 ^ 64) (started : 0 ≤ clock.unixTimestamp.toInt)

include large small few started

/-- Every build computes the same slot, exactly for the inputs that fit. -/
theorem slotByTime_eq_ok {time slot : U64} :
    (∀ overflow,
      slotByTime overflow defaultMsPerSlot (.ok clock) (.ok samples) time = .ok slot) ↔
    SlotFits defaultMsPerSlot.toNat clock samples time ∧
      slot.toNat = estimatedSlot (meanSlotMs defaultMsPerSlot.toNat samples)
        clock.slot.toNat clock.seconds time.toNat := by
  have positive : 0 < meanSlotMs defaultMsPerSlot.toNat samples := meanSlotMs_pos samples large
  have seconds : (I64.toU64 clock.unixTimestamp).toNat = clock.seconds := by
    have exact := I64.toNat_toU64 started
    unfold Clock.seconds
    omega
  have checked : slotByTime .panics defaultMsPerSlot (.ok clock) (.ok samples) time =
      .ok slot ↔ SlotFits defaultMsPerSlot.toNat clock samples time ∧
        slot.toNat = estimatedSlot (meanSlotMs defaultMsPerSlot.toNat samples)
          clock.slot.toNat clock.seconds time.toNat := by
    simp only [slotByTime, bind_eq_ok, unwrapCall_eq_ok, okOr_eq_ok, Except.toOption,
      I64.tryToU64, if_pos started, Option.some.injEq, exists_eq_left',
      getAverageSlotTime_panics_eq_ok large small few]
    constructor
    · rintro ⟨average, ⟨sampled, summed, mean⟩, estimated⟩
      rw [slotFrom_panics_eq_ok (mean ▸ positive), mean, seconds] at estimated
      exact ⟨⟨sampled, summed, estimated.1⟩, estimated.2⟩
    · rintro ⟨⟨sampled, summed, inRange⟩, value⟩
      rw [← seconds] at inRange value
      exact ⟨.ofNatLT _ ((meanSlotMs_le _ samples).trans_lt small), ⟨sampled, summed, rfl⟩,
        (slotFrom_panics_eq_ok (by rw [BitVec.toNat_ofNatLT]; exact positive)).mpr
          ⟨inRange, value⟩⟩
  exact ⟨fun computed => checked.mp (computed .panics),
    fun fits => slotByTime_stable _ _ _ slot (checked.mpr fits)⟩

end Spec

/-- The activation point that an instruction sets. -/
def CommandInstruction.activationPoint? : CommandInstruction → Option U64
  | .program (.setActivationPoint _ activationPoint) => some activationPoint
  | _ => none

section Command

variable (findProgramAddress : List Bytes → Pubkey → Pubkey × UInt8)
variable (args : CliArgs) (wallet : WalletArgs)

/-- Each transaction sets one activation point. -/
def Sets (slot : U64) (report : SlotReport) : Prop :=
  ∀ transaction, report.transaction? = some transaction →
    transaction.filterMap CommandInstruction.activationPoint? = [slot]

variable {findProgramAddress args wallet} {slot : U64}

theorem setSlot_sets {version : U64} {answers : RoundAnswers} {report : SlotReport}
    (reported : report ∈ (setSlot findProgramAddress args wallet slot version answers).1) :
    Sets slot report := by
  have point : (setTransaction findProgramAddress args wallet
      (fun distributor => .setActivationPoint { distributor, admin := wallet.keypair } slot)
      version).filterMap CommandInstruction.activationPoint? = [slot] := by
    unfold setTransaction
    cases wallet.priorityFee <;> rfl
  intro transaction sent
  unfold setSlot at reported
  split at reported
  · cases reported
  · split at reported
    · rw [List.mem_singleton.mp reported] at sent
      cases sent
    · dsimp only at reported
      split at reported
      · cases reported
      · split at reported <;>
        · rw [List.mem_singleton.mp reported] at sent
          cases sent
          exact point

theorem setSlots_sets {answers : TreeFile → RoundAnswers} {files : List TreeFile}
    {report : SlotReport}
    (reported : report ∈ (setSlots findProgramAddress args wallet slot answers files).1) :
    Sets slot report := by
  induction files with
  | nil => cases reported
  | cons file files inductionHypothesis =>
      unfold setSlots at reported
      dsimp only at reported
      split at reported
      · exact setSlot_sets reported
      · rcases List.mem_append.mp reported with first | later
        · exact setSlot_sets first
        · exact inductionHypothesis later

theorem processSetActivationSlotByTime_sets {overflow : Overflow}
    {command : SetActivationSlotByTimeArgs} {clockAnswer : Except Unit Clock}
    {samplesAnswer : Except Unit (List PerfSample)} {listing : List TreeFile}
    {versionAnswers : RoundAnswers} {answers : TreeFile → RoundAnswers}
    (estimated : slotByTime overflow defaultMsPerSlot clockAnswer samplesAnswer
      command.timestamp = .ok slot) :
    ∀ report ∈ (processSetActivationSlotByTime findProgramAddress args wallet overflow
      defaultMsPerSlot command clockAnswer samplesAnswer listing versionAnswers answers).1,
      Sets slot report := by
  intro report reported
  unfold processSetActivationSlotByTime at reported
  rw [estimated] at reported
  dsimp only at reported
  split at reported
  · exact setSlot_sets reported
  · exact setSlots_sets reported

/-- What is asked of the slot for `time`.  The two commands show and send the same one. -/
structure SlotEstimated (findProgramAddress : List Bytes → Pubkey → Pubkey × UInt8)
    (args : CliArgs) (wallet : WalletArgs) (defaultMsPerSlot : U64) (clock : Clock)
    (samples : List PerfSample) (time slot : U64) : Prop where
  computed : ∀ overflow,
    slotByTime overflow defaultMsPerSlot (.ok clock) (.ok samples) time = .ok slot
  shown : ∀ overflow,
    processGetSlot overflow defaultMsPerSlot (.ok clock) (.ok samples) time = .ok slot
  sent : ∀ overflow airdropVersion listing versionAnswers answers,
    ∀ report ∈ (processSetActivationSlotByTime findProgramAddress args wallet overflow
      defaultMsPerSlot { timestamp := time, airdropVersion } (.ok clock) (.ok samples) listing
      versionAnswers answers).1, Sets slot report
  current : time.toNat = clock.seconds → slot = clock.slot
  past : time.toNat < clock.seconds → slot.toNat ≤ clock.slot.toNat
  monotone : ∀ earlier earlierSlot : U64, earlier.toNat ≤ time.toNat →
    (∀ overflow, slotByTime overflow defaultMsPerSlot (.ok clock) (.ok samples) earlier =
      .ok earlierSlot) → earlierSlot.toNat ≤ slot.toNat

/-- The estimate is as it should be for exactly the inputs that fit. -/
theorem slot_estimated_iff (findProgramAddress : List Bytes → Pubkey → Pubkey × UInt8)
    (args : CliArgs) (wallet : WalletArgs) (time : U64)
    (large : 2 ≤ defaultMsPerSlot.toNat) (small : defaultMsPerSlot.toNat * 2 < 2 ^ 64)
    (few : samples.length < 2 ^ 64) (started : 0 ≤ clock.unixTimestamp.toInt) :
    (∃ slot, SlotEstimated findProgramAddress args wallet defaultMsPerSlot clock samples time
      slot) ↔ SlotFits defaultMsPerSlot.toNat clock samples time := by
  constructor
  · rintro ⟨slot, estimated⟩
    exact ((slotByTime_eq_ok large small few started).mp estimated.computed).1
  · intro fits
    have inWord := fits.inRange.estimatedSlot_lt (meanSlotMs_pos samples large) clock.slot.isLt
    obtain ⟨slot, value⟩ : ∃ slot : U64, slot.toNat =
        estimatedSlot (meanSlotMs defaultMsPerSlot.toNat samples) clock.slot.toNat clock.seconds
          time.toNat := ⟨.ofNatLT _ inWord, rfl⟩
    have computed := (slotByTime_eq_ok large small few started).mpr ⟨fits, value⟩
    refine ⟨slot, computed, computed, ?sent, ?current, ?past, ?monotone⟩
    case sent =>
      intro overflow airdropVersion listing versionAnswers answers
      exact processSetActivationSlotByTime_sets (computed overflow)
    case current =>
      intro now
      rw [now, estimatedSlot_now] at value
      exact BitVec.toNat_inj.mp value
    case past =>
      intro past
      exact value ▸ estimatedSlot_le_of_past past.le
    case monotone =>
      intro earlier earlierSlot order earlierComputed
      have earlierValue := ((slotByTime_eq_ok large small few started).mp earlierComputed).2
      rw [value, earlierValue]
      exact estimatedSlot_mono _ _ _ order

end Command

section Sample

/-- The clock of a cluster after 250 million slots. -/
def sampleClock : Clock := { slot := 250000000, unixTimestamp := 1700000000 }

/-- A minute in which 150 slots passed. -/
def sampleMinute : PerfSample := { samplePeriodSecs := 60, numSlots := 150 }

theorem slot_estimated_iff_sample :
    ∃ slot, SlotEstimated folderFind sampleCliArgs { keypair := sampleAdmin, priorityFee := none }
      400 sampleClock [sampleMinute] 1699999000 slot :=
  (slot_estimated_iff folderFind sampleCliArgs { keypair := sampleAdmin, priorityFee := none }
    1699999000 (by decide) (by decide) (by decide) (by decide)).mpr
    { sampled := by decide
      summed := by decide
      inRange := ⟨by decide, by decide⟩ }

/-- A time before the estimated start of slot 0: with overflow checks the commands panic, and
without them the slot wraps around to one far in the future.  A sample without slots makes
every build panic. -/
theorem distant_past_wraps :
    processGetSlot .panics 400 (.ok sampleClock) (.ok []) 1500000000 = .error .panic ∧
    processGetSlot .wraps 400 (.ok sampleClock) (.ok []) 1500000000 =
      .ok (.ofNat 64 (2 ^ 64 - 250000000)) ∧
    (∀ overflow, processGetSlot overflow 400 (.ok sampleClock)
      (.ok [{ samplePeriodSecs := 60, numSlots := 0 }]) 1700000000 = .error .panic) ∧
    ¬ ∃ slot, SlotEstimated folderFind sampleCliArgs
      { keypair := sampleAdmin, priorityFee := none } 400 sampleClock [] 1500000000 slot := by
  have panics :
      processGetSlot .panics 400 (.ok sampleClock) (.ok []) 1500000000 = .error .panic := by
    decide
  refine ⟨panics, by decide, fun overflow => by cases overflow <;> decide, ?_⟩
  rintro ⟨slot, estimated⟩
  have shown := estimated.shown .panics
  rw [panics] at shown
  cases shown

end Sample

end Airdrop
