/-
Module: Airdrop.Proofs.ClawbackRange
Purpose: Which distributors are clawed back when the command that claws back a range of
  versions reports that it is done, however its transactions end.
Trusted boundary: none
Main exports: OnlyMarked, SweptThrough, clawbackPass_keeps, clawbackSystem_sound,
  clawback_covers
-/
import Airdrop.Cli.Clawback
import Airdrop.Proofs.Funding
import Airdrop.Proofs.SetOnVersions

namespace Airdrop

open Checked Transition Interference

/-! ## What a clawback does to the distributors -/

/-- Distributors are marked as clawed back, and nothing else happens to any of them. -/
def OnlyMarked (before after : Bank) : Prop :=
  ∀ key, after.distributor? key = before.distributor? key ∨
    ∃ found, before.distributor? key = some found ∧
      after.distributor? key = some { found with clawedBack := true }

theorem OnlyMarked.refl (bank : Bank) : OnlyMarked bank bank :=
  fun _ => .inl rfl

theorem OnlyMarked.trans {one two three : Bank} (first : OnlyMarked one two)
    (second : OnlyMarked two three) : OnlyMarked one three := by
  intro key
  rcases second key with same | ⟨middle, isMiddle, marked⟩
  · rw [same]
    exact first key
  · right
    rcases first key with same | ⟨found, isFound, markedBefore⟩
    · exact ⟨middle, same ▸ isMiddle, marked⟩
    · rw [isMiddle] at markedBefore
      cases markedBefore
      exact ⟨found, isFound, marked⟩

/-- A mark stays. -/
theorem OnlyMarked.clawedBack {before after : Bank} {key : Pubkey}
    {found : MerkleDistributor} (only : OnlyMarked before after)
    (present : before.distributor? key = some found) (marked : found.clawedBack = true) :
    ∀ current ∈ after.distributor? key, current.clawedBack = true := by
  intro current isCurrent
  rcases only key with same | ⟨_, _, isMarked⟩
  · rw [same, present] at isCurrent
    cases isCurrent
    exact marked
  · rw [isMarked] at isCurrent
    cases isCurrent
    rfl

/-- Only distributors that were there are there. -/
theorem OnlyMarked.present {before after : Bank} {key : Pubkey}
    {current : MerkleDistributor} (only : OnlyMarked before after)
    (isCurrent : after.distributor? key = some current) :
    ∃ found, before.distributor? key = some found := by
  rcases only key with same | ⟨found, isFound, _⟩
  · exact ⟨current, same ▸ isCurrent⟩
  · exact ⟨found, isFound⟩

section Executing

variable {env : Env} {world left : ClawbackWorld} {transaction : ClawbackTransaction}
variable {clock : Clock}

/-- Executing a transaction marks the distributor that it claws back. -/
theorem execute_marks (executed : world.execute env transaction clock = some left) :
    OnlyMarked world.bank left.bank ∧
      ∃ found, left.bank.distributor? transaction.accounts.distributor = some found ∧
        found.clawedBack = true := by
  rw [ClawbackWorld.execute] at executed
  split at executed
  case h_2 => cases executed
  case h_1 receipt accepted =>
    cases executed
    obtain ⟨distributor, vault, moved, checks, rfl⟩ := clawback_eq_ok.mp accepted
    have effect := clawback_effect checks
    rw [OnlyMarked, effect.distributors]
    constructor
    · intro key
      by_cases here : key = transaction.accounts.distributor
      · right
        rw [here, Function.update_self]
        exact ⟨distributor, Bank.distributor?_eq_some.mpr effect.isDistributor, rfl⟩
      · left
        exact Function.update_of_ne here _ _
    · rw [Function.update_self]
      exact ⟨_, rfl, rfl⟩

theorem change_marks {event : ClawbackEvent} (changed : world.change env event = some left) :
    OnlyMarked world.bank left.bank := by
  rw [ClawbackWorld.change] at changed
  split at changed
  case isFalse => cases changed
  case isTrue =>
    obtain ⟨after, executed, same⟩ := Option.map_eq_some_iff.mp changed
    cases same
    exact (execute_marks executed).1

end Executing

/-! ## Answers -/

namespace ClawbackWorld

variable {env : Env} {world left : ClawbackWorld} {reply : ClawbackReply}

theorem answer_account {address : Pubkey} {result : Except Unit Bool}
    (answered : world.answer env (.account address) reply = some (result, left)) :
    left = world ∧ (result = .ok false → world.bank.distributor? address = none) := by
  cases reply with
  | found =>
      cases answered
      refine ⟨rfl, ?_⟩
      intro missing
      rw [Except.ok.injEq, Option.isSome_eq_false_iff, Option.isNone_iff_eq_none] at missing
      rw [Bank.distributor?, missing]
  | failed submitted =>
      cases answered
      exact ⟨rfl, by simp⟩
  | _ => simp [ClawbackWorld.answer] at answered

theorem answer_distributor {address : Pubkey} {result : Except Unit MerkleDistributor}
    (answered : world.answer env (.distributor address) reply = some (result, left)) :
    left = world ∧ ∀ found, result = .ok found →
      world.bank.distributor? address = some found := by
  cases reply with
  | found =>
      rw [ClawbackWorld.answer] at answered
      split at answered
      · cases answered
        refine ⟨rfl, ?_⟩
        rintro found ⟨⟩
        rw [Bank.distributor?_eq_some]
        assumption
      · cases answered
        exact ⟨rfl, nofun⟩
  | failed submitted =>
      cases answered
      exact ⟨rfl, nofun⟩
  | _ => simp [ClawbackWorld.answer] at answered

theorem answer_latestBlockhash {result : Except Unit Hash}
    (answered : world.answer env .latestBlockhash reply = some (result, left)) :
    left = world := by
  cases reply with
  | blockhash blockhash =>
      cases answered
      rfl
  | failed submitted =>
      cases answered
      rfl
  | _ => simp [ClawbackWorld.answer] at answered

/-- A transaction is confirmed only if it was executed. -/
theorem answer_sendAndConfirm {transaction : ClawbackTransaction}
    {result : Except Unit Unit}
    (answered : world.answer env (.sendAndConfirm transaction) reply =
      some (result, left)) :
    OnlyMarked world.bank left.bank ∧ (result = .ok () →
      ∃ found, left.bank.distributor? transaction.accounts.distributor = some found ∧
        found.clawedBack = true) := by
  cases reply with
  | confirmed clock =>
      obtain ⟨after, executed, same⟩ := Option.map_eq_some_iff.mp answered
      cases same
      have marks := execute_marks executed
      exact ⟨marks.1, fun _ => marks.2⟩
  | failed submitted =>
      cases submitted with
      | false =>
          cases answered
          exact ⟨.refl _, nofun⟩
      | true =>
          cases answered
          exact ⟨.refl _, nofun⟩
  | _ => simp [ClawbackWorld.answer] at answered

end ClawbackWorld

/-! ## What a pass covers -/

/-- Each distributor of the list is clawed back, up to the first one that is missing. -/
def SweptThrough (address : U64 → Pubkey) (bank : Bank) : List U64 → Prop
  | [] => True
  | version :: versions =>
      ∀ found ∈ bank.distributor? (address version),
        found.clawedBack = true ∧ SweptThrough address bank versions

theorem SweptThrough.after {address : U64 → Pubkey} {before after : Bank}
    (only : OnlyMarked before after) {versions : List U64}
    (swept : SweptThrough address before versions) :
    SweptThrough address after versions := by
  induction versions with
  | nil => exact trivial
  | cons version versions inductionHypothesis =>
      intro current isCurrent
      rcases only.present isCurrent with ⟨found, isFound⟩
      rcases swept found isFound with ⟨marked, further⟩
      exact ⟨only.clawedBack isFound marked current isCurrent, inductionHypothesis further⟩

/-- Where the versions are in order, and none is missing before a version, its distributor
is clawed back. -/
theorem SweptThrough.clawedBack {address : U64 → Pubkey} {bank : Bank} {versions : List U64}
    (swept : SweptThrough address bank versions) (ordered : versions.Pairwise (· < ·))
    {version : U64} (member : version ∈ versions)
    (present : ∀ earlier ∈ versions, earlier < version →
      ∃ found, bank.distributor? (address earlier) = some found) :
    ∀ found ∈ bank.distributor? (address version), found.clawedBack = true := by
  induction versions with
  | nil => cases member
  | cons first versions inductionHypothesis =>
      rw [List.pairwise_cons] at ordered
      intro found isFound
      rcases List.mem_cons.mp member with rfl | later
      · exact (swept found isFound).1
      · rcases present first List.mem_cons_self (ordered.1 version later) with ⟨head, isHead⟩
        apply inductionHypothesis (swept head isHead).2 ordered.2 later _ found isFound
        intro earlier among
        exact present earlier (List.mem_cons_of_mem first among)

theorem versionRange_ordered (fromVersion toVersion : U64) :
    (versionRange fromVersion toVersion).Pairwise (· < ·) := by
  have bound := toVersion.isLt
  rw [versionRange, List.pairwise_map]
  apply List.pairwise_lt_range.imp_of_mem
  intro first second isFirst isSecond below
  rw [List.mem_range] at isFirst isSecond
  rw [BitVec.lt_def, BitVec.toNat_ofNat, BitVec.toNat_ofNat, Nat.mod_eq_of_lt (by omega),
    Nat.mod_eq_of_lt (by omega)]
  omega

section Keeping

variable {env : Env} {findProgramAddress : List Bytes → Pubkey → Pubkey × UInt8}
variable {args : CliArgs} {wallet : WalletArgs}

variable (env) in
/-- The program only marks distributors, as long as others do so. -/
abbrev ClawbackKeeps {Result : Type} (Ensures : Result → ClawbackWorld → Prop)
    (program : ClawbackProgram Result) (world : ClawbackWorld) : Prop :=
  Keeps (ClawbackWorld.answer env) (fun _ _ _ => True ∧ True)
    (fun one two => OnlyMarked one.bank two.bank)
    (fun one two => OnlyMarked one.bank two.bank) Ensures program world

variable (findProgramAddress args) in
/-- The address of the distributor of a version, as the commands find it. -/
def versionAddress (version : U64) : Pubkey :=
  (getMerkleDistributorPda findProgramAddress args.programId args.base args.mint version).1

/-- A distributor that is marked when the rest of a pass starts is marked when it ends. -/
theorem ClawbackKeeps.marked {program : ClawbackProgram (Except String Unit)}
    {world : ClawbackWorld} {address : U64 → Pubkey} {version : U64} {versions : List U64}
    {isError : Bool} {found : MerkleDistributor}
    (keeps : ClawbackKeeps env (fun result left => result = .ok () →
      isError = false ∧ SweptThrough address left.bank versions) program world)
    (present : world.bank.distributor? (address version) = some found)
    (marked : found.clawedBack = true) :
    ClawbackKeeps env (fun result left => result = .ok () →
      isError = false ∧ SweptThrough address left.bank (version :: versions)) program
      world := by
  have both := keeps.since (fun one two : ClawbackWorld => OnlyMarked one.bank two.bank)
    (fun world => .refl world.bank) OnlyMarked.trans id id
  refine Keeps.weaken ?_ both
  rintro result left ⟨only, ensured⟩ returned
  rcases ensured returned with ⟨noError, swept⟩
  refine ⟨noError, ?_⟩
  intro current isCurrent
  exact ⟨only.clawedBack present marked current isCurrent, swept⟩

/-- A pass that returns normally met no error, and went through the list. -/
theorem clawbackPass_keeps (versions : List U64) (isError : Bool) (world : ClawbackWorld) :
    ClawbackKeeps env
      (fun result left => result = .ok () → isError = false ∧
        SweptThrough (versionAddress findProgramAddress args) left.bank versions)
      (clawbackPass findProgramAddress args wallet versions isError) world := by
  induction versions generalizing isError world with
  | nil =>
      intro returned
      cases isError with
      | false => exact ⟨rfl, trivial⟩
      | true => cases returned
  | cons version versions inductionHypothesis =>
      intro found change reply answer left allowed answered
      obtain ⟨rfl, missing⟩ := ClawbackWorld.answer_account answered
      refine ⟨.refl _, ?_⟩
      rcases answer with failure | _ | _
      · exact nofun
      · -- the distributor is missing, and the pass ends here
        intro returned
        cases isError with
        | true => cases returned
        | false =>
            refine ⟨rfl, ?_⟩
            intro current isCurrent
            cases (missing rfl).symm.trans isCurrent
      · intro found change reply answer left allowed answered
        obtain ⟨rfl, read⟩ := ClawbackWorld.answer_distributor answered
        refine ⟨.refl _, ?_⟩
        cases answer with
        | error failure => exact nofun
        | ok distributorState =>
            change ClawbackKeeps env _ (if distributorState.clawedBack then _ else _) left
            split
            case isTrue marked =>
              exact (inductionHypothesis isError left).marked (read _ rfl) marked
            case isFalse =>
              intro found change reply answer left allowed answered
              obtain rfl := ClawbackWorld.answer_latestBlockhash answered
              refine ⟨.refl _, ?_⟩
              cases answer with
              | error failure => exact nofun
              | ok blockhash =>
                  intro found change reply answer left allowed answered
                  obtain ⟨only, executed⟩ := ClawbackWorld.answer_sendAndConfirm answered
                  refine ⟨only, ?_⟩
                  cases answer with
                  | ok _ =>
                      rcases executed rfl with ⟨current, isCurrent, marked⟩
                      exact (inductionHypothesis isError left).marked isCurrent marked
                  | error failure =>
                      refine Keeps.weaken ?_ (inductionHypothesis true left)
                      intro result final ensured returned
                      exact absurd (ensured returned).1 nofun

variable (findProgramAddress args) in
/-- The range of versions that the command is given is swept. -/
abbrev RangeSwept (clawbackArgs : ClawbackArgs) (bank : Bank) : Prop :=
  SweptThrough (versionAddress findProgramAddress args) bank
    (versionRange clawbackArgs.fromVersion clawbackArgs.toVersion)

theorem clawbackVersions_keeps (clawbackArgs : ClawbackArgs) (world : ClawbackWorld) :
    ClawbackKeeps env
      (fun result left => result = .ok () →
        RangeSwept findProgramAddress args clawbackArgs left.bank)
      (clawbackVersions findProgramAddress args wallet clawbackArgs) world := by
  refine Keeps.weaken ?_ (clawbackPass_keeps _ false world)
  intro result left ensured returned
  exact (ensured returned).2

/-- The command says that it is done only after a pass that returned normally. -/
theorem processClawbackLoop_keeps (clawbackArgs : ClawbackArgs) (counter : Nat)
    (world : ClawbackWorld) :
    ClawbackKeeps env
      (fun result left => ClawbackMessage.done ∈ result.1 →
        RangeSwept findProgramAddress args clawbackArgs left.bank)
      (processClawbackLoop findProgramAddress args wallet clawbackArgs counter) world := by
  induction counter generalizing world with
  | zero => exact nofun
  | succ i inductionHypothesis =>
      rw [processClawbackLoop]
      have again (world : ClawbackWorld) : ClawbackKeeps env
          (fun result left => ClawbackMessage.done ∈ result.1 →
            RangeSwept findProgramAddress args clawbackArgs left.bank)
          (printFirst (.retrying (i + 1))
            (processClawbackLoop findProgramAddress args wallet clawbackArgs i)) world := by
        apply Keeps.bind
        refine Keeps.weaken ?_ (inductionHypothesis world)
        intro result left ensured printed
        exact ensured (by simpa using printed)
      apply Keeps.bind
      refine Keeps.weaken ?_ (clawbackVersions_keeps clawbackArgs world)
      intro result world ensured
      cases result with
      | ok _ => exact fun _ => ensured rfl
      | error message =>
          dsimp only
          split
          case isFalse => exact again world
          case isTrue =>
            -- the last attempt is made twice
            apply Keeps.bind
            refine Keeps.weaken ?_ (clawbackVersions_keeps clawbackArgs world)
            intro result world _
            cases result with
            | ok _ => exact again world
            | error message => simp [Keeps]

end Keeping

/-! ## Runs -/

/-- The premises of the rule for runs. -/
theorem clawbackSystem_sound (env : Env)
    (findProgramAddress : List Bytes → Pubkey → Pubkey × UInt8) (args : CliArgs)
    (clawbackArgs : ClawbackArgs) :
    Sound (clawbackSystem env) (fun _ _ _ => True) (fun _ _ => True)
      (fun one two => OnlyMarked one.bank two.bank)
      (fun one two => OnlyMarked one.bank two.bank)
      (fun result left => ClawbackMessage.done ∈ result.1 →
        RangeSwept findProgramAddress args clawbackArgs left.bank)
      (fun _ => True) where
  refl := fun world => .refl world.bank
  trans := OnlyMarked.trans
  stable := fun ensured only printed => (ensured printed).after only
  tolerant := .inl id
  started := nofun
  changed := fun _ _ changed => change_marks changed
  called := fun _ _ => trivial
  permitted := fun _ _ _ => trivial

/-- The record of a run of the command. -/
abbrev ClawbackHistory : Type :=
  List (Entry (Configuration ClawbackWorld ClawbackCall ClawbackCall.Answer
      (List ClawbackMessage × Except Halt Unit))
    (Input ClawbackReply ClawbackEvent Empty) Unit
    (Configuration ClawbackWorld ClawbackCall ClawbackCall.Answer
      (List ClawbackMessage × Except Halt Unit)))

/-- When the command has said that it is done, every distributor of the requested range is
clawed back before which no version of the range is missing: a pass ends at the first
version that has no distributor. -/
theorem clawback_covers (env : Env)
    (findProgramAddress : List Bytes → Pubkey → Pubkey × UInt8) (args : CliArgs)
    (wallet : WalletArgs) (clawbackArgs : ClawbackArgs) (bank : Bank)
    {history : ClawbackHistory}
    {configuration : Configuration ClawbackWorld ClawbackCall ClawbackCall.Answer
      (List ClawbackMessage × Except Halt Unit)}
    (run : Run (clawbackSystem env).machine
      (clawbackStarts bank (processClawback findProgramAddress args wallet clawbackArgs))
      history configuration)
    {printed : List ClawbackMessage} {result : Except Halt Unit}
    (returned : .done (printed, result) ∈ configuration.programs)
    (success : .done ∈ printed) :
    ∀ version, clawbackArgs.fromVersion ≤ version → version ≤ clawbackArgs.toVersion →
      (∀ earlier, clawbackArgs.fromVersion ≤ earlier → earlier < version →
        ∃ other, configuration.world.bank (versionAddress findProgramAddress args earlier) =
          some (.distributor other)) →
      ∀ distributor,
        configuration.world.bank (versionAddress findProgramAddress args version) =
          some (.distributor distributor) →
        distributor.clawedBack = true := by
  intro version above below present distributor isDistributor
  have sound := clawbackSystem_sound env findProgramAddress args clawbackArgs
  have start : Invariant (clawbackSystem env) (fun _ _ _ => True)
      (fun one two => OnlyMarked one.bank two.bank)
      (fun one two => OnlyMarked one.bank two.bank)
      (fun result left => ClawbackMessage.done ∈ result.1 →
        RangeSwept findProgramAddress args clawbackArgs left.bank) (fun _ => True)
      (clawbackStarts bank (processClawback findProgramAddress args wallet
        clawbackArgs)) :=
    .single rfl trivial (processClawbackLoop_keeps clawbackArgs 9 _)
  have reached := sound.run start run fun _ _ =>
    .of_all (fun _ => trivial) fun _ => trivial
  have swept := reached.keeps _ returned success
  apply SweptThrough.clawedBack swept (versionRange_ordered _ _)
    (mem_versionRange.mpr ⟨above, below⟩)
  · intro earlier among before
    rcases present earlier (mem_versionRange.mp among).1 before with ⟨other, isOther⟩
    exact ⟨other, Bank.distributor?_eq_some.mpr isOther⟩
  · exact Bank.distributor?_eq_some.mpr isDistributor

section Sample

/-- The configuration that a run of the command over this range ends in. -/
def sampleClawback (bank : Bank) (clawbackArgs : ClawbackArgs)
    (inputs : List (Input ClawbackReply ClawbackEvent Empty)) :
    Configuration ClawbackWorld ClawbackCall ClawbackCall.Answer
      (List ClawbackMessage × Except Halt Unit) :=
  ((clawbackSystem sampleEnv).machine.play
    (clawbackStarts bank (processClawback folderFind sampleCliArgs
      { keypair := sampleAdmin, priorityFee := none } clawbackArgs)) inputs).2

/-- The transaction that claws back the distributor of version 0. -/
def sampleClawbackTransaction : ClawbackTransaction :=
  { priorityFee := none
    accounts :=
      { distributor := sampleKey
        fromAccount := sampleVault
        toAccount := adminToken
        claimant := sampleAdmin }
    blockhash := .replicate 1 }

/-- The distributor of version 0 is open, that of version 1 was clawed back before. -/
def bothVersions : Bank :=
  unfundedBank.set (versionAddress folderFind sampleCliArgs 1)
    (.distributor { sampleDistributor sampleTree.merkleRoot false with
      version := 1
      clawedBack := true })

/-- The first pass gives its transaction for version 0 up, which is executed all the same; the
second one finds both distributors clawed back. -/
def clawedBackMeanwhile : List (Input ClawbackReply ClawbackEvent Empty) :=
  [.call 0 .found, .call 0 .found, .call 0 (.blockhash (.replicate 1)),
   .call 0 (.failed true), .call 0 .found, .call 0 .found,
   .event { transaction := sampleClawbackTransaction, clock := ⟨0, 300⟩ },
   .call 0 .found, .call 0 .found, .call 0 .found, .call 0 .found]

theorem clawback_covers_sample :
    ∃ zero one,
      (sampleClawback bothVersions ⟨0, 1⟩ clawedBackMeanwhile).world.bank
        (versionAddress folderFind sampleCliArgs 0) = some (.distributor zero) ∧
      (sampleClawback bothVersions ⟨0, 1⟩ clawedBackMeanwhile).world.bank
        (versionAddress folderFind sampleCliArgs 1) = some (.distributor one) ∧
      zero.clawedBack = true ∧ one.clawedBack = true := by
  have run : Run (clawbackSystem sampleEnv).machine
      (clawbackStarts bothVersions (processClawback folderFind sampleCliArgs
        { keypair := sampleAdmin, priorityFee := none } ⟨0, 1⟩)) _
      (sampleClawback bothVersions ⟨0, 1⟩ clawedBackMeanwhile) := Run.play _ _ _
  have returned : some ([ClawbackMessage.retrying 9, .done], Except.ok ()) ∈
      (sampleClawback bothVersions ⟨0, 1⟩ clawedBackMeanwhile).programs.map
        Program.result? := by
    decide +kernel
  rcases List.mem_map.mp returned with ⟨program, member, isDone⟩
  rw [Program.result?_eq_some.mp isDone] at member
  have zero : ((sampleClawback bothVersions ⟨0, 1⟩ clawedBackMeanwhile).world.bank.distributor?
      (versionAddress folderFind sampleCliArgs 0)).isSome := by
    decide +kernel
  have one : ((sampleClawback bothVersions ⟨0, 1⟩ clawedBackMeanwhile).world.bank.distributor?
      (versionAddress folderFind sampleCliArgs 1)).isSome := by
    decide +kernel
  have present (version : U64) (below : version ≤ 1) :
      ∃ found, (sampleClawback bothVersions ⟨0, 1⟩ clawedBackMeanwhile).world.bank
        (versionAddress folderFind sampleCliArgs version) = some (.distributor found) := by
    have isSome : ((sampleClawback bothVersions ⟨0, 1⟩
        clawedBackMeanwhile).world.bank.distributor?
          (versionAddress folderFind sampleCliArgs version)).isSome := by
      rcases U64.zero_or_one below with rfl | rfl
      · exact zero
      · exact one
    rcases Option.isSome_iff_exists.mp isSome with ⟨found, isFound⟩
    exact ⟨found, Bank.distributor?_eq_some.mp isFound⟩
  have covered (version : U64) (above : 0 ≤ version) (below : version ≤ 1)
      (distributor : MerkleDistributor)
      (isDistributor : (sampleClawback bothVersions ⟨0, 1⟩ clawedBackMeanwhile).world.bank
        (versionAddress folderFind sampleCliArgs version) = some (.distributor distributor)) :
      distributor.clawedBack = true := by
    apply clawback_covers sampleEnv folderFind sampleCliArgs
      { keypair := sampleAdmin, priorityFee := none } ⟨0, 1⟩ bothVersions run member (by decide)
      version above below _ distributor isDistributor
    intro earlier _ before
    exact present earlier (BitVec.le_trans (BitVec.le_of_lt before) below)
  rcases present 0 (by decide) with ⟨first, isFirst⟩
  rcases present 1 (by decide) with ⟨second, isSecond⟩
  exact ⟨first, second, isFirst, isSecond, covered 0 (by decide) (by decide) first isFirst,
    covered 1 (by decide) (by decide) second isSecond⟩

/-- Version 0 was closed, and version 1 is still open. -/
def versionOneOpen : Bank :=
  Bank.set (fun _ => none) (versionAddress folderFind sampleCliArgs 1)
    (.distributor { sampleDistributor sampleTree.merkleRoot false with version := 1 })

/-- The pass ends at version 0, and the command is done without a transaction. -/
theorem gap_reported_done :
    ∃ history configuration,
      Run (clawbackSystem sampleEnv).machine
        (clawbackStarts versionOneOpen (processClawback folderFind sampleCliArgs
          { keypair := sampleAdmin, priorityFee := none } ⟨0, 1⟩)) history configuration ∧
      .done ([ClawbackMessage.done], .ok ()) ∈ configuration.programs ∧
      ∃ distributor,
        configuration.world.bank (versionAddress folderFind sampleCliArgs 1) =
          some (.distributor distributor) ∧
        distributor.clawedBack = false := by
  refine ⟨_, sampleClawback versionOneOpen ⟨0, 1⟩ [.call 0 .found], Run.play _ _ _, ?_, ?_⟩
  · have returned : some ([ClawbackMessage.done], Except.ok ()) ∈
        (sampleClawback versionOneOpen ⟨0, 1⟩ [.call 0 .found]).programs.map
          Program.result? := by
      decide +kernel
    rcases List.mem_map.mp returned with ⟨program, member, isDone⟩
    exact Program.result?_eq_some.mp isDone ▸ member
  · have stillOpen : ∃ found ∈ (sampleClawback versionOneOpen ⟨0, 1⟩
        [.call 0 .found]).world.bank.distributor?
          (versionAddress folderFind sampleCliArgs 1), found.clawedBack = false := by
      decide +kernel
    rcases stillOpen with ⟨distributor, isDistributor, unmarked⟩
    exact ⟨distributor, Bank.distributor?_eq_some.mp isDistributor, unmarked⟩

end Sample

end Airdrop
