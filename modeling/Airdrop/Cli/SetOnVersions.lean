/-
Module: Airdrop.Cli.SetOnVersions
Purpose: The two commands that set a field of the distributors of a range of versions:
  `process_set_admin.rs` and `process_set_activation_point.rs`.
Trusted boundary: addresses are parameters; what the RPC calls return is given from
  outside; the number of attempts is bounded here and not in the source; signing and other
  messages are left out
Main exports: versionRange, RoundAnswers, VersionReport, setOnVersions, processSetAdmin,
  processSetActivationPoint
-/
import Airdrop.Cli.NewDistributor

namespace Airdrop

open Checked

/-- `from_version..=to_version` -/
def versionRange (fromVersion toVersion : U64) : List U64 :=
  (List.range (toVersion.toNat + 1 - fromVersion.toNat)).map fun i =>
    .ofNat 64 (fromVersion.toNat + i)

/-- What the RPC calls of one round of the `loop` return. -/
structure RoundAnswers where
  distributor : Except Unit MerkleDistributor
  latestBlockhash : Except Unit Unit
  sent : Except Unit Unit

/-- What a command says about a version. -/
inductive VersionReport where
  /-- The distributor that was found has the value already. -/
  | skipped (version : U64) (found : MerkleDistributor)
  | submitted (version : U64) (transaction : List CommandInstruction)
  | refused (version : U64) (transaction : List CommandInstruction)
deriving DecidableEq

section Command

variable (findProgramAddress : List Bytes → Pubkey → Pubkey × UInt8)
variable (args : CliArgs) (wallet : WalletArgs)

/-- The `loop` for one version, for at most `fuel` rounds. -/
def setRounds (isSet : MerkleDistributor → Bool) (transaction : List CommandInstruction)
    (version : U64) (answers : Nat → RoundAnswers) :
    Nat → Nat → List VersionReport × Except Halt Unit
  | 0, _ => ([], .error .outOfFuel)
  | fuel + 1, round =>
      match (answers round).distributor with
      | .error _ => ([], .error .panic)
      | .ok distributorState =>
          if isSet distributorState then
            ([.skipped version distributorState], .ok ())
          else
            match (answers round).latestBlockhash with
            | .error _ => ([], .error .panic)
            | .ok _ =>
                match (answers round).sent with
                | .ok _ => ([.submitted version transaction], .ok ())
                | .error _ =>
                    let (later, result) :=
                      setRounds isSet transaction version answers fuel (round + 1)
                    (.refused version transaction :: later, result)

/-- The transaction for one version. -/
def setTransaction (instruction : Pubkey → Instruction) (version : U64) :
    List CommandInstruction :=
  let (distributor, _bump) :=
    getMerkleDistributorPda findProgramAddress args.programId args.base args.mint version
  -- check priority fee
  wallet.priorityFee.toList.map CommandInstruction.setComputeUnitPrice ++
    [.program (instruction distributor)]

/-- The `for` loop of both commands. -/
def setOnVersions (isSet : MerkleDistributor → Bool) (instruction : Pubkey → Instruction)
    (answers : U64 → Nat → RoundAnswers) (fuel : Nat) :
    List U64 → List VersionReport × Except Halt Unit
  | [] => ([], .ok ())
  | version :: versions =>
      let (reports, result) := setRounds isSet
        (setTransaction findProgramAddress args wallet instruction version) version
        (answers version) fuel 0
      match result with
      | .error halt => (reports, .error halt)
      | .ok _ =>
          let (later, result) := setOnVersions isSet instruction answers fuel versions
          (reports ++ later, result)

/-- `SetAdminArgs` -/
structure SetAdminArgs where
  newAdmin : Pubkey
  fromVersion : U64
  toVersion : U64

/-- The instruction that hands a distributor over. -/
def setAdminInstruction (setAdminArgs : SetAdminArgs) (distributor : Pubkey) :
    Instruction :=
  .setAdmin { distributor, admin := wallet.keypair, newAdmin := setAdminArgs.newAdmin }

/-- `process_set_admin` -/
def processSetAdmin (setAdminArgs : SetAdminArgs) (answers : U64 → Nat → RoundAnswers)
    (fuel : Nat) : List VersionReport × Except Halt Unit :=
  let fromVersion := setAdminArgs.fromVersion
  -- as the source has it
  let toVersion := setAdminArgs.fromVersion
  setOnVersions findProgramAddress args wallet
    (fun distributorState => distributorState.admin = setAdminArgs.newAdmin)
    (setAdminInstruction wallet setAdminArgs) answers fuel
    (versionRange fromVersion toVersion)

/-- `SetActivationArgs` -/
structure SetActivationArgs where
  fromVersion : U64
  toVersion : U64
  activationPoint : U64

/-- The instruction that moves the activation point. -/
def setActivationInstruction (setActivationArgs : SetActivationArgs)
    (distributor : Pubkey) : Instruction :=
  .setActivationPoint { distributor, admin := wallet.keypair }
    setActivationArgs.activationPoint

/-- `process_set_activation_point`.  A transaction counts as submitted when it is
confirmed. -/
def processSetActivationPoint (setActivationArgs : SetActivationArgs)
    (answers : U64 → Nat → RoundAnswers) (fuel : Nat) :
    List VersionReport × Except Halt Unit :=
  let fromVersion := setActivationArgs.fromVersion
  let toVersion := setActivationArgs.toVersion
  setOnVersions findProgramAddress args wallet
    (fun distributorState =>
      distributorState.activationPoint = setActivationArgs.activationPoint)
    (setActivationInstruction wallet setActivationArgs) answers fuel
    (versionRange fromVersion toVersion)

end Command

end Airdrop
