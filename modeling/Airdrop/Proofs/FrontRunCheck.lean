/-
Module: Airdrop.Proofs.FrontRunCheck
Purpose: What the check against front-running accepts, compared with the distributor
  that the creating instruction would store, and what the creating command says about
  the versions it found.
Trusted boundary: none
Main exports: Agrees, Intended, newDistributor_stores, check_eq_ok, check_exact_iff,
  createTree_checked, createLoop_reported, frontRunCheck_exact
-/
import Airdrop.Cli.NewDistributor
import Airdrop.Proofs.KvExport

namespace Airdrop

open Checked

/-! ## The intended distributor -/

/-- The distributors agree in everything that the check compares. -/
structure Agrees (found stored : MerkleDistributor) : Prop where
  root : found.root = stored.root
  base : found.base = stored.base
  maxTotalClaim : found.maxTotalClaim = stored.maxTotalClaim
  maxNumNodes : found.maxNumNodes = stored.maxNumNodes
  startTs : found.startTs = stored.startTs
  endTs : found.endTs = stored.endTs
  clawbackStartTs : found.clawbackStartTs = stored.clawbackStartTs
  activationType : found.activationType = stored.activationType
  activationPoint : found.activationPoint = stored.activationPoint
  closable : found.closable = stored.closable
  totalBonus : found.airdropBonus.totalBonus = stored.airdropBonus.totalBonus
  vestingDuration :
    found.airdropBonus.vestingDuration = stored.airdropBonus.vestingDuration
  clawbackReceiver : found.clawbackReceiver = stored.clawbackReceiver
  admin : found.admin = stored.admin

section Check

variable (findProgramAddress : List Bytes → Pubkey → Pubkey × UInt8)
variable (associatedTokenAddress : Pubkey → Pubkey → Pubkey)
variable (tryDeserialize : Bytes → Option MerkleDistributor)
variable (args : CliArgs) (command : NewDistributorCommand)

/-- The distributor agrees with the one that the instruction for the tree stores. -/
def Intended (merkleTree : AirdropMerkleTree) (found : MerkleDistributor) : Prop :=
  ∃ accounts data bump,
    newDistributorInstruction findProgramAddress associatedTokenAddress args command
      merkleTree 0 0 = .ok (.newDistributor accounts data) ∧
    Agrees found (createdDistributor accounts data bump data.maxTotalClaim 0 0)

/-- The account data hold the intended distributor. -/
def HoldsIntended (merkleTree : AirdropMerkleTree) (data : Bytes) : Prop :=
  ∃ found, tryDeserialize data = some found ∧
    Intended findProgramAddress associatedTokenAddress args command merkleTree found

variable {findProgramAddress associatedTokenAddress tryDeserialize args command}
variable {merkleTree : AirdropMerkleTree}

theorem newDistributorInstruction_eq_ok {instruction : Instruction} :
    newDistributorInstruction findProgramAddress associatedTokenAddress args command
        merkleTree 0 0 = .ok instruction ↔
      ∃ claim, (merkleTree.getMaxTotalClaim : Except (Stop String) U64) = .ok claim ∧
        instruction = .newDistributor
          { distributor := (getMerkleDistributorPda findProgramAddress args.programId
              command.base args.mint merkleTree.airdropVersion).1
            base := command.base
            clawbackReceiver :=
              associatedTokenAddress command.clawbackReceiverOwner args.mint
            mint := args.mint
            tokenVault := associatedTokenAddress
              (getMerkleDistributorPda findProgramAddress args.programId command.base
                args.mint merkleTree.airdropVersion).1 args.mint
            admin := command.keypair }
          { version := merkleTree.airdropVersion
            root := merkleTree.merkleRoot
            maxTotalClaim := claim
            maxNumNodes := merkleTree.maxNumNodes
            startVestingTs := command.startVestingTs
            endVestingTs := command.endVestingTs
            clawbackStartTs := command.clawbackStartTs
            activationPoint := command.activationPoint
            activationType := command.activationType
            closable := command.closable } := by
  rw [newDistributorInstruction]
  simp only [if_true, bind_eq_ok, pure_eq, Except.ok.injEq, @eq_comm _ _ instruction]

/-- Whatever an execution of the instruction stores is intended. -/
theorem newDistributor_stores {env : Env} {clock : Clock} {signers : List Pubkey}
    {bank : Bank} {accounts : NewDistributor} {data : NewDistributorArgs}
    {receipt : Receipt}
    (built : newDistributorInstruction findProgramAddress associatedTokenAddress args
      command merkleTree 0 0 = .ok (.newDistributor accounts data))
    (executed : newDistributor env clock signers bank accounts data = .ok receipt) :
    ∃ stored, receipt.bank accounts.distributor = some (.distributor stored) ∧
      Intended findProgramAddress associatedTokenAddress args command merkleTree
        stored := by
  obtain ⟨bump, _, rfl⟩ := newDistributor_eq_ok.mp executed
  refine ⟨_, Function.update_self _ _ _, accounts, data, bump, built, ?_⟩
  constructor <;> rfl

/-! ## The check -/

/-- The check passes exactly for data that do not hold a distributor, and for the
intended distributor. -/
theorem check_eq_ok {data : Bytes} :
    checkDistributorOnchainMatches associatedTokenAddress tryDeserialize args command data
        merkleTree 0 0 command.keypair command.base = .ok () ↔
      ∀ found, tryDeserialize data = some found →
        Intended findProgramAddress associatedTokenAddress args command merkleTree
          found := by
  rw [checkDistributorOnchainMatches]
  cases decoded : tryDeserialize data with
  | none => simp
  | some distributor =>
      simp only [bind_eq_ok, require_eq_ok, Option.some.injEq, forall_eq', Intended,
        newDistributorInstruction_eq_ok, unwrap_eq_ok, checkedAdd_zero]
      constructor
      · rintro ⟨_, root, _, base, claim, isClaim, _, rfl, _, maxTotalClaim, _,
          maxNumNodes, _, startTs, _, endTs, _, clawbackStartTs, _, activationType, _,
          activationPoint, _, closable, _, totalBonus, _, vestingDuration, _, receiver,
          admin⟩
        exact ⟨_, _, 0, ⟨claim, isClaim, rfl⟩, root, base, maxTotalClaim, maxNumNodes,
          startTs, endTs, clawbackStartTs, activationType, activationPoint, closable,
          totalBonus, vestingDuration, receiver.symm, admin⟩
      · rintro ⟨accounts, data, bump, ⟨claim, isClaim, built⟩, agrees⟩
        obtain ⟨rfl, rfl⟩ := Instruction.newDistributor.inj built
        exact ⟨(), agrees.root, (), agrees.base, claim, isClaim, claim, rfl, (),
          agrees.maxTotalClaim, (), agrees.maxNumNodes, (), agrees.startTs, (),
          agrees.endTs, (), agrees.clawbackStartTs, (), agrees.activationType, (),
          agrees.activationPoint, (), agrees.closable, (), agrees.totalBonus, (),
          agrees.vestingDuration, (), agrees.clawbackReceiver.symm, agrees.admin⟩

/-- Data that pass the check hold the intended distributor if they hold one. -/
theorem holdsIntended_iff_isSome {data : Bytes}
    (intended : ∀ found, tryDeserialize data = some found →
      Intended findProgramAddress associatedTokenAddress args command merkleTree found) :
    HoldsIntended findProgramAddress associatedTokenAddress tryDeserialize args command
      merkleTree data ↔ (tryDeserialize data).isSome := by
  constructor
  · rintro ⟨found, decoded, _⟩
    rw [decoded, Option.isSome_some]
  · intro decodes
    rcases Option.isSome_iff_exists.mp decodes with ⟨found, decoded⟩
    exact ⟨found, decoded, intended found decoded⟩

/-- The check is right exactly about the data that hold a distributor. -/
theorem check_exact_iff {data : Bytes} :
    (checkDistributorOnchainMatches associatedTokenAddress tryDeserialize args command
        data merkleTree 0 0 command.keypair command.base = .ok () ↔
      HoldsIntended findProgramAddress associatedTokenAddress tryDeserialize args command
        merkleTree data) ↔
      (tryDeserialize data).isSome := by
  rw [check_eq_ok]
  constructor
  · intro right
    cases decoded : tryDeserialize data with
    | some found => rfl
    | none =>
        obtain ⟨found, isFound, _⟩ := right.mp (by simp [decoded])
        simp [decoded] at isFound
  · intro decodes
    constructor
    · intro intended
      exact (holdsIntended_iff_isSome intended).mpr decodes
    · rintro ⟨found, decoded, intended⟩ other isOther
      obtain rfl := Option.some.inj (decoded.symm.trans isOther)
      exact intended

/-! ## What the command reports -/

/-- The tree and the account data that a report says to match. -/
def Report.matched : Report → Option (AirdropMerkleTree × Bytes)
  | .existing tree data => some (tree, data)
  | .doubleChecked tree data => some (tree, data)
  | .doneCreate _ _ => none
  | .failedToCreate _ _ => none

/-- One of the calls finds these account data at the address. -/
def Answers.Finds (answers : Answers) (data : Bytes) : Prop :=
  answers.account = .ok (some data) ∨ answers.accountAfterwards = .ok (some data)

theorem sentReport_matched (answers : Answers) (merkleTree : AirdropMerkleTree)
    (transaction : List CommandInstruction) :
    (sentReport answers merkleTree transaction).1.matched = none := by
  rw [sentReport]
  cases answers.sent <;> rfl

/-- A turn reports a match only for data it found and checked. -/
theorem createTree_checked {answers : Answers} {totalBonus bonusVestingDuration : U64}
    {report : Report} {tree : AirdropMerkleTree} {data : Bytes}
    (reported : report ∈ (createTree findProgramAddress associatedTokenAddress
      tryDeserialize args command answers merkleTree totalBonus bonusVestingDuration).1)
    (matched : report.matched = some (tree, data)) :
    tree = merkleTree ∧ answers.Finds data ∧
      checkDistributorOnchainMatches associatedTokenAddress tryDeserialize args command
        data merkleTree totalBonus bonusVestingDuration command.keypair command.base =
          .ok () := by
  unfold createTree at reported
  dsimp only at reported
  split at reported
  case h_1 => simp at reported
  case h_2 checked found =>
    -- the account was there before
    split at reported
    case h_1 passed =>
      obtain rfl := List.mem_singleton.mp reported
      obtain ⟨rfl, rfl⟩ : merkleTree = tree ∧ _ = data := by
        simpa [Report.matched] using matched
      exact ⟨rfl, .inl found, passed⟩
    case h_2 => simp at reported
  case h_3 =>
    split at reported
    case h_1 => simp at reported
    case h_2 transaction _ =>
      have notSent : report ≠ (sentReport answers merkleTree transaction).1 := by
        rintro rfl
        rw [sentReport_matched] at matched
        cases matched
      split at reported
      case isTrue => exact absurd (List.mem_singleton.mp reported) notSent
      case isFalse =>
        split at reported
        case h_1 => exact absurd (List.mem_singleton.mp reported) notSent
        case h_2 => exact absurd (List.mem_singleton.mp reported) notSent
        case h_3 checked found =>
          -- the account is there after the transaction
          split at reported
          case h_1 passed =>
            have second := (List.mem_cons.mp reported).resolve_left notSent
            obtain rfl := List.mem_singleton.mp second
            obtain ⟨rfl, rfl⟩ := by simpa [Report.matched] using matched
            exact ⟨rfl, .inr found, passed⟩
          case h_2 => exact absurd (List.mem_singleton.mp reported) notSent

section Loop

variable (findProgramAddress associatedTokenAddress tryDeserialize args command)

/-- The report is one of the turn for the file. -/
def ReportedFor (answers : TreeFile → Answers)
    (bonusMultiplier bonusVestingDuration : U64) (report : Report) (file : TreeFile) :
    Prop :=
  ∃ totalBonus,
    checkedMul file.tree.totalUnlockedAmount bonusMultiplier = some totalBonus ∧
    report ∈ (createTree findProgramAddress associatedTokenAddress tryDeserialize args
      command (answers file) file.tree totalBonus bonusVestingDuration).1

end Loop

/-- Each report of the loop is one of a turn. -/
theorem createLoop_reported {answers : TreeFile → Answers}
    {bonusMultiplier bonusVestingDuration : U64} {files : List TreeFile}
    {isError : Bool} {report : Report}
    (reported : report ∈ (createLoop findProgramAddress associatedTokenAddress
      tryDeserialize args command answers bonusMultiplier bonusVestingDuration files
        isError).1) :
    ∃ file ∈ files, ReportedFor findProgramAddress associatedTokenAddress tryDeserialize
      args command answers bonusMultiplier bonusVestingDuration report file := by
  induction files generalizing isError with
  | nil => simp [createLoop] at reported
  | cons file files inductionHypothesis =>
      have later {isError : Bool} (reported : report ∈ (createLoop findProgramAddress
          associatedTokenAddress tryDeserialize args command answers bonusMultiplier
            bonusVestingDuration files isError).1) :
          ∃ found ∈ file :: files, ReportedFor findProgramAddress
            associatedTokenAddress tryDeserialize args command answers bonusMultiplier
              bonusVestingDuration report found := by
        rcases inductionHypothesis reported with ⟨found, listed, turn⟩
        exact ⟨found, List.mem_cons_of_mem _ listed, turn⟩
      rw [createLoop] at reported
      split at reported
      case h_1 => simp at reported
      case h_2 totalBonus product =>
        have here (turn : report ∈ (createTree findProgramAddress associatedTokenAddress
            tryDeserialize args command (answers file) file.tree totalBonus
              bonusVestingDuration).1) :
            ∃ found ∈ file :: files, ReportedFor findProgramAddress
              associatedTokenAddress tryDeserialize args command answers bonusMultiplier
                bonusVestingDuration report found :=
          ⟨file, List.mem_cons_self, totalBonus, product, turn⟩
        split at reported
        case isTrue => exact later reported
        case isFalse =>
          dsimp only at reported
          split at reported
          case h_1 => exact here reported
          case h_2 =>
            rcases List.mem_append.mp reported with turn | reported
            · exact here turn
            · exact later reported
          case h_3 =>
            split at reported
            · exact here reported
            · rcases List.mem_append.mp reported with turn | reported
              · exact here turn
              · exact later reported

theorem createNewDistributor_reported {answers : TreeFile → Answers}
    {bonusMultiplier bonusVestingDuration : U64} {listing : List TreeFile}
    {report : Report}
    (reported : report ∈ (createNewDistributor findProgramAddress associatedTokenAddress
      tryDeserialize args command answers bonusMultiplier bonusVestingDuration
        listing).1) :
    ∃ file ∈ listing, ReportedFor findProgramAddress associatedTokenAddress tryDeserialize
      args command answers bonusMultiplier bonusVestingDuration report file := by
  rcases createLoop_reported reported with ⟨file, listed, turn⟩
  exact ⟨file, (sortByPath_perm listing).mem_iff.mp listed, turn⟩

/-- Each report of the command is one of the first attempt, or of the second. -/
theorem processNewDistributor_reported {answers retryAnswers : TreeFile → Answers}
    {listing : List TreeFile} {report : Report}
    (reported : report ∈ (processNewDistributor findProgramAddress associatedTokenAddress
      tryDeserialize args command answers retryAnswers listing).1) :
    ∃ given, (given = answers ∨ given = retryAnswers) ∧ ∃ file ∈ listing,
      ReportedFor findProgramAddress associatedTokenAddress tryDeserialize args command
        given 0 0 report file := by
  have first (reported : report ∈ (createNewDistributor findProgramAddress
      associatedTokenAddress tryDeserialize args command answers 0 0 listing).1) :
      ∃ given, (given = answers ∨ given = retryAnswers) ∧ ∃ file ∈ listing,
        ReportedFor findProgramAddress associatedTokenAddress tryDeserialize args command
          given 0 0 report file :=
    ⟨answers, .inl rfl, createNewDistributor_reported reported⟩
  have second (reported : report ∈ (createNewDistributor findProgramAddress
      associatedTokenAddress tryDeserialize args command retryAnswers 0 0 listing).1) :
      ∃ given, (given = answers ∨ given = retryAnswers) ∧ ∃ file ∈ listing,
        ReportedFor findProgramAddress associatedTokenAddress tryDeserialize args command
          given 0 0 report file :=
    ⟨retryAnswers, .inr rfl, createNewDistributor_reported reported⟩
  unfold processNewDistributor at reported
  dsimp only at reported
  split at reported
  case h_1 =>
    split at reported
    all_goals
      rcases List.mem_append.mp reported with reported | reported
      · exact first reported
      · exact second reported
  case h_2 => exact first reported

/-! ## The check against front-running -/

/-- The check is right about some account data exactly when these hold a distributor of
any kind, and so is every version that the command reports as matching. -/
theorem frontRunCheck_exact
    (findProgramAddress : List Bytes → Pubkey → Pubkey × UInt8)
    (associatedTokenAddress : Pubkey → Pubkey → Pubkey)
    (tryDeserialize : Bytes → Option MerkleDistributor)
    (args : CliArgs) (command : NewDistributorCommand) :
    (∀ merkleTree data,
      (checkDistributorOnchainMatches associatedTokenAddress tryDeserialize args command
          data merkleTree 0 0 command.keypair command.base = .ok () ↔
        HoldsIntended findProgramAddress associatedTokenAddress tryDeserialize args
          command merkleTree data) ↔
      (tryDeserialize data).isSome) ∧
    (∀ answers retryAnswers listing, ∀ report ∈ (processNewDistributor findProgramAddress
        associatedTokenAddress tryDeserialize args command answers retryAnswers
          listing).1,
      ∀ merkleTree data, report.matched = some (merkleTree, data) →
        (∃ file ∈ listing, file.tree = merkleTree ∧
          ((answers file).Finds data ∨ (retryAnswers file).Finds data)) ∧
        (HoldsIntended findProgramAddress associatedTokenAddress tryDeserialize args
          command merkleTree data ↔ (tryDeserialize data).isSome)) ∧
    (∀ env clock signers bank merkleTree accounts data receipt,
      newDistributorInstruction findProgramAddress associatedTokenAddress args command
        merkleTree 0 0 = .ok (.newDistributor accounts data) →
      newDistributor env clock signers bank accounts data = .ok receipt →
      ∃ stored, receipt.bank accounts.distributor = some (.distributor stored) ∧
        Intended findProgramAddress associatedTokenAddress args command merkleTree
          stored) := by
  refine ⟨?_, ?_, ?_⟩
  · intro merkleTree data
    exact check_exact_iff
  · intro answers retryAnswers listing report reported merkleTree data matched
    rcases processNewDistributor_reported reported with
      ⟨given, isGiven, file, listed, totalBonus, product, turn⟩
    rw [checkedMul_zero] at product
    obtain rfl := Option.some.inj product
    obtain ⟨rfl, finds, passed⟩ := createTree_checked turn matched
    constructor
    · rcases isGiven with rfl | rfl
      · exact ⟨file, listed, rfl, .inl finds⟩
      · exact ⟨file, listed, rfl, .inr finds⟩
    · exact holdsIntended_iff_isSome (check_eq_ok.mp passed)
  · intro env clock signers bank merkleTree accounts data receipt built executed
    exact newDistributor_stores built executed

end Check

section Sample

/-- The first eight bytes of the SHA-256 hash of `account:MerkleDistributor`. -/
def distributorDiscriminator : Bytes := [77, 119, 139, 70, 84, 247, 12, 26]

/-- `try_deserialize` succeeds only on data that begin with the discriminator of the
account. -/
def NeedsDiscriminator (tryDeserialize : Bytes → Option MerkleDistributor) : Prop :=
  ∀ data found, tryDeserialize data = some found → distributorDiscriminator <+: data

/-- One distributor, under its discriminator. -/
def sampleDeserialize (data : Bytes) : Option MerkleDistributor :=
  if distributorDiscriminator <+: data then
    some (sampleDistributor sampleTree.merkleRoot false)
  else none

/-- The arguments of the creation. -/
def sampleCommand : NewDistributorCommand :=
  { startVestingTs := 1000
    endVestingTs := 2000
    clawbackStartTs := 100000
    activationPoint := 0
    activationType := 0
    airdropVersion := none
    closable := false
    skipVerify := false
    base := sampleBase
    keypair := sampleAdmin
    clawbackReceiverOwner := sampleAdmin
    priorityFee := none }

/-- Lamports were sent to the address before the distributor is created: there is an
account, without data. -/
def lamportsOnly : Answers :=
  { account := .ok (some [])
    tokenVault := .error ()
    clawbackReceiver := .ok ()
    latestBlockhash := .ok ()
    sent := .ok ()
    accountAfterwards := .ok (some []) }

/-- An account without data passes the check, and the command skips both versions of the
folder as existing although neither distributor exists. -/
theorem emptyAccount_accepted :
    NeedsDiscriminator sampleDeserialize ∧
    checkDistributorOnchainMatches sampleEnv.associatedTokenAddress sampleDeserialize
      sampleCliArgs sampleCommand [] sampleTree 0 0 sampleCommand.keypair
        sampleCommand.base = .ok () ∧
    ¬ HoldsIntended folderFind sampleEnv.associatedTokenAddress sampleDeserialize
      sampleCliArgs sampleCommand sampleTree [] ∧
    processNewDistributor folderFind sampleEnv.associatedTokenAddress sampleDeserialize
        sampleCliArgs sampleCommand (fun _ => lamportsOnly) (fun _ => lamportsOnly)
        sampleFolder =
      (sampleFolder.map fun file => .existing file.tree [], .ok ()) := by
  refine ⟨?_, ?_, ?_, ?_⟩
  · intro data found decoded
    rw [sampleDeserialize] at decoded
    split at decoded
    · assumption
    · cases decoded
  · rfl
  · rintro ⟨found, decoded, _⟩
    cases decoded
  · decide +kernel

end Sample

end Airdrop
