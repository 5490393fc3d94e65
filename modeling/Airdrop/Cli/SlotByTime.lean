/-
Module: Airdrop.Cli.SlotByTime
Purpose: The two commands that estimate the slot of a point in time: `process_get_slot.rs`,
  which prints it, and `process_set_enable_activation_slot_by_time.rs`, which sends it as an
  activation point.
Trusted boundary: addresses and the default length of a slot are parameters; what the RPC
  calls return is given from outside; signing and other messages are left out
Main exports: PerfSample, getAverageSlotTime, slotByTime, processGetSlot, SlotReport,
  processSetActivationSlotByTime
-/
import Airdrop.Cli.SetOnVersions

namespace Airdrop

open Checked

abbrev U16 := BitVec 16

/-- What is read of an `RpcPerfSample`. -/
structure PerfSample where
  samplePeriodSecs : U16
  numSlots : U64
deriving DecidableEq

/-- `u64::try_from` on an `i64`. -/
def I64.tryToU64 (value : Int64) : Option U64 :=
  if 0 ≤ value.toInt then some (I64.toU64 value) else none

section Estimate

variable (overflow : Overflow) (defaultMsPerSlot : U64)

/-- One turn of the loop over the samples. -/
def addSampleTime (totalTime : U64) (sample : PerfSample) : Except (Stop Unit) U64 := do
  let millis ← plainMul overflow (sample.samplePeriodSecs.setWidth 64) 1000
  let time ← plainDiv millis sample.numSlots
  plainAdd overflow totalTime time

/-- `get_average_slot_time`, where `samples` is what the RPC call returns. -/
def getAverageSlotTime (samples : Except Unit (List PerfSample)) :
    Except (Stop Unit) U64 :=
  match samples with
  | .error failure => throw (.err failure)
  | .ok samples => do
      let numSamples : U64 := .ofNat 64 samples.length
      if numSamples = 0 then
        pure defaultMsPerSlot
      else
        let totalTime ← samples.foldlM (addSampleTime overflow) 0
        let averageTime ← plainDiv totalTime numSamples
        -- sanity check
        if averageTime < defaultMsPerSlot / 2 ∨ defaultMsPerSlot * 2 < averageTime then
          pure defaultMsPerSlot
        else
          pure averageTime

/-- The slot of `enable_time`, counted from the current one. -/
def slotFrom (currentSlot currentTime averageSlotTime enableTime : U64) :
    Except (Stop Unit) U64 :=
  if currentTime < enableTime then do
    let seconds ← plainSub overflow enableTime currentTime
    let millis ← plainMul overflow seconds 1000
    let slots ← plainDiv millis averageSlotTime
    plainAdd overflow currentSlot slots
  else do
    let seconds ← plainSub overflow currentTime enableTime
    let millis ← plainMul overflow seconds 1000
    let slots ← plainDiv millis averageSlotTime
    plainSub overflow currentSlot slots

/-- What both commands compute, where `clock` is the account of the clock as the RPC call
returns it. -/
def slotByTime (clock : Except Unit Clock) (samples : Except Unit (List PerfSample))
    (enableTime : U64) : Except Halt U64 := do
  let clock ← okOr clock.toOption .panic
  let currentTime ← okOr (I64.tryToU64 clock.unixTimestamp) .panic
  let averageSlotTime ← unwrapCall (getAverageSlotTime overflow defaultMsPerSlot samples)
  unwrapCall (slotFrom overflow clock.slot currentTime averageSlotTime enableTime)

/-- `process_get_slot`: the slot that it prints. -/
def processGetSlot (clock : Except Unit Clock) (samples : Except Unit (List PerfSample))
    (timestamp : U64) : Except Halt U64 :=
  slotByTime overflow defaultMsPerSlot clock samples timestamp

end Estimate

/-! ## Sending the slot -/

/-- What the command says about a version. -/
inductive SlotReport where
  | notBySlot (version : U64)
  | submitted (version : U64) (transaction : List CommandInstruction)
  | refused (version : U64) (transaction : List CommandInstruction)
deriving DecidableEq

/-- The transaction that is sent, if any. -/
def SlotReport.transaction? : SlotReport → Option (List CommandInstruction)
  | .notBySlot _ => none
  | .submitted _ transaction => some transaction
  | .refused _ transaction => some transaction

/-- `SetActivationSlotByTimeArgs`, without the path. -/
structure SetActivationSlotByTimeArgs where
  timestamp : U64
  airdropVersion : Option U64

section Command

variable (findProgramAddress : List Bytes → Pubkey → Pubkey × UInt8)
variable (args : CliArgs) (wallet : WalletArgs)

/-- One distributor. -/
def setSlot (slot version : U64) (answers : RoundAnswers) :
    List SlotReport × Except Halt Unit :=
  match answers.distributor with
  | .error _ => ([], .error .panic)
  | .ok distributorState =>
      if distributorState.activationType ≠ 0 then
        ([.notBySlot version], .ok ())
      else
        let transaction := setTransaction findProgramAddress args wallet
          (fun distributor =>
            .setActivationPoint { distributor, admin := wallet.keypair } slot) version
        match answers.latestBlockhash with
        | .error _ => ([], .error .panic)
        | .ok _ =>
            match answers.sent with
            | .ok _ => ([.submitted version transaction], .ok ())
            | .error _ => ([.refused version transaction], .error .panic)

/-- The `for` loop over the trees, which sets no priority fee. -/
def setSlots (slot : U64) (answers : TreeFile → RoundAnswers) :
    List TreeFile → List SlotReport × Except Halt Unit
  | [] => ([], .ok ())
  | file :: files =>
      let (reports, result) := setSlot findProgramAddress args
        { wallet with priorityFee := none } slot file.tree.airdropVersion (answers file)
      match result with
      | .error halt => (reports, .error halt)
      | .ok _ =>
          let (later, result) := setSlots slot answers files
          (reports ++ later, result)

/-- `process_set_activation_slot_by_time`.  `versionAnswers` is what the RPC calls return
for the one version that is asked for. -/
def processSetActivationSlotByTime (overflow : Overflow) (defaultMsPerSlot : U64)
    (command : SetActivationSlotByTimeArgs) (clock : Except Unit Clock)
    (samples : Except Unit (List PerfSample)) (listing : List TreeFile)
    (versionAnswers : RoundAnswers) (answers : TreeFile → RoundAnswers) :
    List SlotReport × Except Halt Unit :=
  match slotByTime overflow defaultMsPerSlot clock samples command.timestamp with
  | .error halt => ([], .error halt)
  | .ok slot =>
      match command.airdropVersion with
      | some airdropVersion =>
          setSlot findProgramAddress args wallet slot airdropVersion versionAnswers
      | none =>
          setSlots findProgramAddress args wallet slot answers (sortByPath listing)

end Command

end Airdrop
