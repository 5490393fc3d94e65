/-
Module: Airdrop.Cli.NewDistributor
Purpose: The command that creates a distributor for each tree of a folder, with the
  check against front-running: `process_new_distributor.rs` and
  `check_distributor_onchain_matches` of `cli.rs`.
Trusted boundary: addresses and the decoding of account data are parameters; what the
  RPC calls return is given from outside; waiting and other messages are left out
Main exports: NewDistributorCommand, Answers, Report, checkDistributorOnchainMatches,
  newDistributorInstruction, createNewDistributor, processNewDistributor
-/
import Airdrop.Cli.CreateMerkleTree
import Airdrop.Program.Machine

namespace Airdrop

open Checked

/-- `NewDistributorArgs` of `cli.rs` with the wallets it names: the base key of
`base_path`, and the wallet of `keypair_path`, which becomes the admin. -/
structure NewDistributorCommand where
  startVestingTs : Int64
  endVestingTs : Int64
  clawbackStartTs : Int64
  activationPoint : U64
  activationType : UInt8
  airdropVersion : Option U64
  closable : Bool
  skipVerify : Bool
  base : Pubkey
  keypair : Pubkey
  clawbackReceiverOwner : Pubkey
  priorityFee : Option U64
deriving DecidableEq

/-- What the RPC calls return while one tree is processed.  An `Err` is an error of the
call itself. -/
structure Answers where
  account : Except Unit (Option Bytes)
  tokenVault : Except Unit Unit
  clawbackReceiver : Except Unit Unit
  latestBlockhash : Except Unit Unit
  sent : Except Unit Unit
  accountAfterwards : Except Unit (Option Bytes)

/-- The instructions of a transaction that this command builds. -/
inductive CommandInstruction where
  | setComputeUnitPrice (fee : U64)
  | createAssociatedTokenAccount (payer wallet mint : Pubkey)
  | program (instruction : Instruction)
deriving DecidableEq

/-- What the command says about a tree. -/
inductive Report where
  /-- The account exists, and its parameters are checked: the version is skipped. -/
  | existing (tree : AirdropMerkleTree) (data : Bytes)
  | doneCreate (tree : AirdropMerkleTree) (transaction : List CommandInstruction)
  | failedToCreate (tree : AirdropMerkleTree) (transaction : List CommandInstruction)
  /-- The second check, after the transaction, passed. -/
  | doubleChecked (tree : AirdropMerkleTree) (data : Bytes)
deriving DecidableEq

section Command

variable (findProgramAddress : List Bytes → Pubkey → Pubkey × UInt8)
variable (associatedTokenAddress : Pubkey → Pubkey → Pubkey)
variable (tryDeserialize : Bytes → Option MerkleDistributor)
variable (args : CliArgs) (command : NewDistributorCommand)

/-- `check_distributor_onchain_matches` -/
def checkDistributorOnchainMatches (distributorAccount : Bytes)
    (merkleTree : AirdropMerkleTree) (totalBonus bonusVestingDuration : U64)
    (pubkey base : Pubkey) : Except (Stop String) Unit :=
  match tryDeserialize distributorAccount with
  | some distributor => do
      require (distributor.root = merkleTree.merkleRoot) (.err "root mismatch")
      require (distributor.base = base) (.err "base mismatch")
      let claim ← merkleTree.getMaxTotalClaim
      let maxTotalClaim ← unwrap (checkedAdd claim totalBonus)
      require (distributor.maxTotalClaim = maxTotalClaim) (.err "max_total_claim mismatch")
      require (distributor.maxNumNodes = merkleTree.maxNumNodes)
        (.err "max_num_nodes mismatch")
      require (distributor.startTs = command.startVestingTs) (.err "start_ts mismatch")
      require (distributor.endTs = command.endVestingTs) (.err "end_ts mismatch")
      require (distributor.clawbackStartTs = command.clawbackStartTs)
        (.err "clawback_start_ts mismatch")
      require (distributor.activationType = command.activationType)
        (.err "activation_type mismatch")
      require (distributor.activationPoint = command.activationPoint)
        (.err "activation_slot mismatch")
      require (distributor.closable = command.closable) (.err "closable mismatch")
      require (distributor.airdropBonus.totalBonus = totalBonus)
        (.err "total_bonus mismatch")
      require (distributor.airdropBonus.vestingDuration = bonusVestingDuration)
        (.err "bonus_vesting_duration mismatch")
      let clawbackReceiverTokenAccount :=
        associatedTokenAddress command.clawbackReceiverOwner args.mint
      require (clawbackReceiverTokenAccount = distributor.clawbackReceiver)
        (.err "clawback_receiver mismatch")
      require (distributor.admin = pubkey) (.err "admin mismatch")
  | none => pure ()

/-- The instruction of the program that `create_new_distributor` builds. -/
def newDistributorInstruction (merkleTree : AirdropMerkleTree)
    (totalBonus bonusVestingDuration : U64) : Except (Stop String) Instruction := do
  let (distributorPubkey, _bump) := getMerkleDistributorPda findProgramAddress
    args.programId command.base args.mint merkleTree.airdropVersion
  let accounts : NewDistributor :=
    { distributor := distributorPubkey
      base := command.base
      clawbackReceiver := associatedTokenAddress command.clawbackReceiverOwner args.mint
      mint := args.mint
      tokenVault := associatedTokenAddress distributorPubkey args.mint
      admin := command.keypair }
  let maxTotalClaim ← merkleTree.getMaxTotalClaim
  let data : NewDistributorArgs :=
    { version := merkleTree.airdropVersion
      root := merkleTree.merkleRoot
      maxTotalClaim
      maxNumNodes := merkleTree.maxNumNodes
      startVestingTs := command.startVestingTs
      endVestingTs := command.endVestingTs
      clawbackStartTs := command.clawbackStartTs
      activationPoint := command.activationPoint
      activationType := command.activationType
      closable := command.closable }
  if totalBonus = 0 then
    pure (.newDistributor accounts data)
  else
    pure (.newDistributor2 accounts data totalBonus bonusVestingDuration)

/-- The transaction that `create_new_distributor` signs and sends. -/
def newDistributorTransaction (answers : Answers) (merkleTree : AirdropMerkleTree)
    (totalBonus bonusVestingDuration : U64) :
    Except (Stop String) (List CommandInstruction) := do
  let (distributorPubkey, _bump) := getMerkleDistributorPda findProgramAddress
    args.programId command.base args.mint merkleTree.airdropVersion
  -- check priority fee
  let fee := command.priorityFee.toList.map CommandInstruction.setComputeUnitPrice
  let tokenVault :=
    match answers.tokenVault with
    | .error _ => [.createAssociatedTokenAccount command.keypair distributorPubkey args.mint]
    | .ok _ => []
  let clawbackReceiver :=
    match answers.clawbackReceiver with
    | .error _ =>
        [.createAssociatedTokenAccount command.keypair command.clawbackReceiverOwner
          args.mint]
    | .ok _ => []
  let instruction ← newDistributorInstruction findProgramAddress associatedTokenAddress
    args command merkleTree totalBonus bonusVestingDuration
  require answers.latestBlockhash.toBool .panic
  pure (fee ++ tokenVault ++ clawbackReceiver ++ [.program instruction])

/-- What is reported of a transaction once it is sent, and whether it is an error. -/
def sentReport (answers : Answers) (merkleTree : AirdropMerkleTree)
    (transaction : List CommandInstruction) : Report × Bool :=
  match answers.sent with
  | .ok _ => (.doneCreate merkleTree transaction, false)
  | .error _ => (.failedToCreate merkleTree transaction, true)

/-- How the turn of the loop for one tree ends: the version was skipped as existing, or
its creation was attempted. -/
inductive Turn where
  | skipped
  | attempted (isError : Bool)
deriving DecidableEq

/-- The turn of the loop for one tree of the wanted version: what it reports, and how
it ends. -/
def createTree (answers : Answers) (merkleTree : AirdropMerkleTree)
    (totalBonus bonusVestingDuration : U64) : List Report × Except (Stop String) Turn :=
  let check (data : Bytes) := checkDistributorOnchainMatches associatedTokenAddress
    tryDeserialize args command data merkleTree totalBonus bonusVestingDuration
      command.keypair command.base
  match answers.account with
  | .error _ => ([], .error (.err "rpc error"))
  | .ok (some data) =>
      match check data with
      | .ok _ => ([.existing merkleTree data], .ok .skipped)
      | .error _ => ([], .error .panic)
  | .ok none =>
      match newDistributorTransaction findProgramAddress associatedTokenAddress args
        command answers merkleTree totalBonus bonusVestingDuration with
      | .error stop => ([], .error stop)
      | .ok transaction =>
          let (report, isError) := sentReport answers merkleTree transaction
          if command.skipVerify then
            ([report], .ok (.attempted isError))
          else
            -- double check someone didn't frontrun this transaction
            match answers.accountAfterwards with
            | .error _ => ([report], .error (.err "rpc error"))
            | .ok none => ([report], .ok (.attempted isError))
            | .ok (some data) =>
                match check data with
                | .ok _ =>
                    ([report, .doubleChecked merkleTree data], .ok (.attempted isError))
                | .error _ => ([report], .error .panic)

/-- The end of `create_new_distributor`, after its loop. -/
def endOfLoop (isError : Bool) : Except (Stop String) Unit :=
  if isError then
    .error (.err "There are some error when create merkle tree, retrying")
  else
    .ok ()

/-- The loop of `create_new_distributor` over the sorted files. -/
def createLoop (answers : TreeFile → Answers) (bonusMultiplier bonusVestingDuration : U64) :
    List TreeFile → Bool → List Report × Except (Stop String) Unit
  | [], isError => ([], endOfLoop isError)
  | file :: paths, isError =>
      match checkedMul file.tree.totalUnlockedAmount bonusMultiplier with
      | none => ([], .error .panic)
      | some totalBonus =>
          if command.airdropVersion.any (· ≠ file.tree.airdropVersion) then
            createLoop answers bonusMultiplier bonusVestingDuration paths isError
          else
            let (reports, turn) := createTree findProgramAddress associatedTokenAddress
              tryDeserialize args command (answers file) file.tree totalBonus
                bonusVestingDuration
            match turn with
            | .error stop => (reports, .error stop)
            | .ok .skipped =>
                let (later, result) := createLoop answers bonusMultiplier
                  bonusVestingDuration paths isError
                (reports ++ later, result)
            | .ok (.attempted failed) =>
                if command.airdropVersion.isSome then
                  -- only the wanted version comes this far
                  (reports, endOfLoop (isError || failed))
                else
                  let (later, result) := createLoop answers bonusMultiplier
                    bonusVestingDuration paths (isError || failed)
                  (reports ++ later, result)

/-- `create_new_distributor` -/
def createNewDistributor (answers : TreeFile → Answers)
    (bonusMultiplier bonusVestingDuration : U64) (listing : List TreeFile) :
    List Report × Except (Stop String) Unit :=
  createLoop findProgramAddress associatedTokenAddress tryDeserialize args command answers
    bonusMultiplier bonusVestingDuration (sortByPath listing) false

/-- `process_new_distributor`: one attempt and, where it returns an error, another one,
which must succeed. -/
def processNewDistributor (answers retryAnswers : TreeFile → Answers)
    (listing : List TreeFile) : List Report × Except (Stop String) Unit :=
  let attempt (answers : TreeFile → Answers) := createNewDistributor findProgramAddress
    associatedTokenAddress tryDeserialize args command answers 0 0 listing
  let (reports, result) := attempt answers
  match result with
  | .error (.err _) =>
      let (later, result) := attempt retryAnswers
      match result with
      | .ok _ => (reports ++ later, .ok ())
      | .error _ => (reports ++ later, .error .panic)
  | _ => (reports, result)

end Command

end Airdrop
