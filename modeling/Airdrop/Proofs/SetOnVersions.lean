/-
Module: Airdrop.Proofs.SetOnVersions
Purpose: Which versions of the requested range the commands that set a field of the
  distributors cover, however often a transaction has to be sent.
Trusted boundary: none
Main exports: Covered, mem_versionRange, setOnVersions_covered, setActivationPoint_covers,
  AdminReplaced, setAdmin_covers_iff
-/
import Airdrop.Cli.SetOnVersions
import Airdrop.Proofs.FrontRunCheck

namespace Airdrop

open Checked

theorem mem_versionRange {fromVersion toVersion version : U64} :
    version ∈ versionRange fromVersion toVersion ↔
      fromVersion ≤ version ∧ version ≤ toVersion := by
  have bound := version.isLt
  have topBound := toVersion.isLt
  rw [versionRange, List.mem_map, BitVec.le_def, BitVec.le_def]
  constructor
  · rintro ⟨i, inRange, rfl⟩
    rw [List.mem_range] at inRange
    rw [BitVec.toNat_ofNat, Nat.mod_eq_of_lt (by omega)]
    omega
  · rintro ⟨above, below⟩
    refine ⟨version.toNat - fromVersion.toNat, ?_, ?_⟩
    · rw [List.mem_range]
      omega
    · apply BitVec.eq_of_toNat_eq
      rw [BitVec.toNat_ofNat, Nat.mod_eq_of_lt (by omega)]
      omega

/-! ## The loops -/

/-- The version that a report is about. -/
def VersionReport.version : VersionReport → U64
  | .skipped version _ => version
  | .submitted version _ => version
  | .refused version _ => version

/-- The distributor of the version was found with its value set, or the transaction for it
was submitted. -/
def Covered (isSet : MerkleDistributor → Bool) (transaction : List CommandInstruction)
    (reports : List VersionReport) (version : U64) : Prop :=
  (∃ found, isSet found ∧ VersionReport.skipped version found ∈ reports) ∨
    VersionReport.submitted version transaction ∈ reports

section Loops

variable {isSet : MerkleDistributor → Bool} {transaction : List CommandInstruction}
variable {version : U64} {reports more : List VersionReport}

theorem Covered.mono (covered : Covered isSet transaction reports version)
    (among : reports ⊆ more) : Covered isSet transaction more version := by
  rcases covered with ⟨found, set, skipped⟩ | submitted
  · exact .inl ⟨found, set, among skipped⟩
  · exact .inr (among submitted)

/-- The rounds for a version end normally only when it is covered, and report nothing about
another one.  The induction is on the rounds that are left. -/
theorem setRounds_covered {answers : Nat → RoundAnswers} {fuel round : Nat}
    (returned : setRounds isSet transaction version answers fuel round =
      (reports, .ok ())) :
    Covered isSet transaction reports version ∧
      ∀ report ∈ reports, report.version = version := by
  induction fuel generalizing round reports with
  | zero => cases returned
  | succ fuel inductionHypothesis =>
      rw [setRounds] at returned
      split at returned
      case h_1 => cases returned
      case h_2 distributorState isState =>
        split at returned
        case isTrue set =>
          cases returned
          constructor
          · exact .inl ⟨distributorState, set, List.mem_singleton_self _⟩
          · intro report member
            rw [List.mem_singleton.mp member]
            rfl
        case isFalse =>
          split at returned
          case h_1 => cases returned
          case h_2 =>
            split at returned
            case h_1 =>
              cases returned
              constructor
              · exact .inr (List.mem_singleton_self _)
              · intro report member
                rw [List.mem_singleton.mp member]
                rfl
            case h_2 =>
              cases rest : setRounds isSet transaction version answers fuel (round + 1) with
              | mk later result =>
                  rw [rest] at returned
                  obtain ⟨rfl, rfl⟩ := Prod.mk.inj returned
                  obtain ⟨covered, about⟩ := inductionHypothesis rest
                  constructor
                  · exact covered.mono (List.subset_cons_self _ _)
                  · intro report member
                    rcases List.mem_cons.mp member with rfl | isLater
                    · rfl
                    · exact about report isLater

variable {findProgramAddress : List Bytes → Pubkey → Pubkey × UInt8}
variable {args : CliArgs} {wallet : WalletArgs} {instruction : Pubkey → Instruction}
variable {answers : U64 → Nat → RoundAnswers} {fuel : Nat}

/-- The loop over the versions ends normally only when each of them is covered, and reports
nothing about another one. -/
theorem setOnVersions_covered {versions : List U64}
    (returned : setOnVersions findProgramAddress args wallet isSet instruction answers fuel
      versions = (reports, .ok ())) :
    (∀ version ∈ versions, Covered isSet
      (setTransaction findProgramAddress args wallet instruction version) reports version) ∧
    ∀ report ∈ reports, report.version ∈ versions := by
  induction versions generalizing reports with
  | nil =>
      cases returned
      constructor
      · exact nofun
      · exact nofun
  | cons version versions inductionHypothesis =>
      rw [setOnVersions] at returned
      cases first : setRounds isSet
        (setTransaction findProgramAddress args wallet instruction version) version
        (answers version) fuel 0 with
      | mk now result =>
          rw [first] at returned
          cases result with
          | error halt => cases returned
          | ok done =>
              cases rest : setOnVersions findProgramAddress args wallet isSet instruction
                answers fuel versions with
              | mk later result =>
                  simp only [rest] at returned
                  obtain ⟨rfl, rfl⟩ := Prod.mk.inj returned
                  obtain ⟨covered, about⟩ := setRounds_covered first
                  obtain ⟨others, aboutOthers⟩ := inductionHypothesis rest
                  constructor
                  · intro other member
                    rcases List.mem_cons.mp member with rfl | isLater
                    · exact covered.mono (List.subset_append_left _ _)
                    · exact (others other isLater).mono (List.subset_append_right _ _)
                  · intro report member
                    rcases List.mem_append.mp member with isNow | isLater
                    · rw [about report isNow]
                      exact List.mem_cons_self
                    · exact List.mem_cons_of_mem _ (aboutOthers report isLater)

/-- The command that moves the activation point covers the range that it is given. -/
theorem setActivationPoint_covers {setActivationArgs : SetActivationArgs}
    (returned : processSetActivationPoint findProgramAddress args wallet setActivationArgs
      answers fuel = (reports, .ok ())) :
    ∀ version, setActivationArgs.fromVersion ≤ version →
      version ≤ setActivationArgs.toVersion →
      Covered (fun found => found.activationPoint = setActivationArgs.activationPoint)
        (setTransaction findProgramAddress args wallet
          (setActivationInstruction wallet setActivationArgs) version) reports version := by
  intro version above below
  exact (setOnVersions_covered returned).1 version (mem_versionRange.mpr ⟨above, below⟩)

end Loops

/-! ## Handing over -/

section HandOver

variable (findProgramAddress : List Bytes → Pubkey → Pubkey × UInt8) (args : CliArgs)
variable (wallet : WalletArgs) (setAdminArgs : SetAdminArgs)

/-- The distributor of the version already has the new admin, or the command found it so, or
it submitted the transaction that hands the distributor over. -/
def AdminReplaced (distributors : U64 → Option MerkleDistributor)
    (reports : List VersionReport) (version : U64) : Prop :=
  (∃ found ∈ distributors version, found.admin = setAdminArgs.newAdmin) ∨
    Covered (fun found => found.admin = setAdminArgs.newAdmin)
      (setTransaction findProgramAddress args wallet
        (setAdminInstruction wallet setAdminArgs) version) reports version

/-- When the command returns normally, every distributor of the requested range is handed
over exactly where those after the first one have the new admin already: the command looks
at the first version only. -/
theorem setAdmin_covers_iff (answers : U64 → Nat → RoundAnswers) (fuel : Nat)
    (distributors : U64 → Option MerkleDistributor) {reports : List VersionReport}
    (returned : processSetAdmin findProgramAddress args wallet setAdminArgs answers fuel =
      (reports, .ok ())) :
    (∀ version, setAdminArgs.fromVersion ≤ version → version ≤ setAdminArgs.toVersion →
      AdminReplaced findProgramAddress args wallet setAdminArgs distributors reports
        version) ↔
      ∀ version, setAdminArgs.fromVersion < version → version ≤ setAdminArgs.toVersion →
        ∃ found ∈ distributors version, found.admin = setAdminArgs.newAdmin := by
  obtain ⟨covered, about⟩ := setOnVersions_covered returned
  simp only [mem_versionRange] at covered about
  constructor
  · intro handed version above below
    have notThis {report : VersionReport} (isVersion : report.version = version)
        (member : report ∈ reports) : False := by
      have within := (about report member).2
      rw [isVersion, BitVec.le_def] at within
      rw [BitVec.lt_def] at above
      omega
    rcases handed version (BitVec.le_of_lt above) below with
      already | ⟨found, _, skipped⟩ | submitted
    · exact already
    · exact absurd skipped (notThis rfl)
    · exact absurd submitted (notThis rfl)
  · intro already version above below
    rcases eq_or_ne setAdminArgs.fromVersion version with same | other
    · exact .inr (covered version ⟨above, same ▸ BitVec.le_refl _⟩)
    · exact .inl (already version (BitVec.lt_of_le_ne above other) below)

end HandOver

section Sample

theorem U64.zero_or_one {version : U64} (below : version ≤ 1) : version = 0 ∨ version = 1 := by
  have most := BitVec.le_def.mp below
  change version.toNat ≤ 1 at most
  rcases Nat.le_one_iff_eq_zero_or_eq_one.mp most with zero | one
  · exact .inl (BitVec.eq_of_toNat_eq zero)
  · exact .inr (BitVec.eq_of_toNat_eq one)

/-- Alice takes over the versions 0 and 1. -/
def aliceTakesOver : SetAdminArgs :=
  { newAdmin := alice, fromVersion := 0, toVersion := 1 }

/-- The distributors of both versions, still with their old admin. -/
def adminsDistributors (version : U64) : Option MerkleDistributor :=
  if version ≤ 1 then
    some { sampleDistributor sampleTree.merkleRoot false with version }
  else none

/-- Version 1 was handed over before. -/
def halfHandedOver (version : U64) : Option MerkleDistributor :=
  (adminsDistributors version).map fun found =>
    { found with admin := if version = 1 then alice else found.admin }

/-- Every account is found, and every other transaction is refused. -/
def flakyAnswers (distributors : U64 → Option MerkleDistributor) (version : U64) (round : Nat) :
    RoundAnswers :=
  { distributor := match distributors version with
      | some found => .ok found
      | none => .error ()
    latestBlockhash := .ok ()
    sent := if round % 2 = 0 then .error () else .ok () }

/-- The second transaction for version 0 is submitted, and the command is done. -/
def handoverReports : List VersionReport :=
  let transaction := setTransaction folderFind sampleCliArgs
    { keypair := sampleAdmin, priorityFee := none }
    (setAdminInstruction { keypair := sampleAdmin, priorityFee := none } aliceTakesOver) 0
  [.refused 0 transaction, .submitted 0 transaction]

theorem setAdmin_covers_iff_sample :
    AdminReplaced folderFind sampleCliArgs { keypair := sampleAdmin, priorityFee := none }
        aliceTakesOver halfHandedOver handoverReports 0 ∧
      AdminReplaced folderFind sampleCliArgs { keypair := sampleAdmin, priorityFee := none }
        aliceTakesOver halfHandedOver handoverReports 1 := by
  have returned : processSetAdmin folderFind sampleCliArgs
      { keypair := sampleAdmin, priorityFee := none } aliceTakesOver
      (flakyAnswers halfHandedOver) 2 = (handoverReports, .ok ()) := by
    decide +kernel
  have covered := (setAdmin_covers_iff folderFind sampleCliArgs
    { keypair := sampleAdmin, priorityFee := none } aliceTakesOver
    (flakyAnswers halfHandedOver) 2 halfHandedOver returned).mpr (by
      intro version above below
      rcases U64.zero_or_one below with rfl | rfl
      · exact absurd above (BitVec.lt_irrefl 0)
      · exact ⟨_, rfl, rfl⟩)
  exact ⟨covered 0 (by decide) (by decide), covered 1 (by decide) (by decide)⟩

theorem handover_returned :
    processSetAdmin folderFind sampleCliArgs { keypair := sampleAdmin, priorityFee := none }
      aliceTakesOver (flakyAnswers adminsDistributors) 2 = (handoverReports, .ok ()) := by
  decide +kernel

/-- The distributor of version 1 keeps the old admin, and nothing was submitted for it. -/
theorem second_version_left :
    processSetAdmin folderFind sampleCliArgs { keypair := sampleAdmin, priorityFee := none }
        aliceTakesOver (flakyAnswers adminsDistributors) 2 = (handoverReports, .ok ()) ∧
    ¬ AdminReplaced folderFind sampleCliArgs { keypair := sampleAdmin, priorityFee := none }
      aliceTakesOver adminsDistributors handoverReports 1 := by
  refine ⟨handover_returned, ?_⟩
  rintro (⟨found, isFound, new⟩ | ⟨found, _, skipped⟩ | submitted)
  · cases isFound
    revert new
    decide
  · simp [handoverReports] at skipped
  · simp [handoverReports] at submitted

end Sample

end Airdrop
