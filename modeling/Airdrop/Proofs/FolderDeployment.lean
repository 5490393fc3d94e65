/-
Module: Airdrop.Proofs.FolderDeployment
Purpose: What `process_new_distributor` does to the accounts when the node executes at once
  what it accepts: it changes nothing that exists, and where it returns normally every tree
  has the intended distributor; and a second run finds them all and does nothing.
Trusted boundary: none
Main exports: Creates, creationAnswers, serveCreation, Serves, Deployed, serveCreation_grows,
  createLoop_serves, deployment_sound
-/
import Airdrop.Proofs.FrontRunCheck
import Airdrop.Proofs.Layouts
import Airdrop.Proofs.LifecycleSpecs
import Airdrop.Proofs.NodeSpecs

namespace Airdrop

open Checked

/-! ## What a transaction creates -/

/-- Between the two states accounts were only created: token accounts at associated addresses,
and distributors. -/
structure Creates (env : Env) (before after : Bank) : Prop where
  kept : ∀ key account, before key = some account → after key = some account
  new : ∀ key account, after key = some account → before key = some account ∨
    (∃ owner mint, key = env.associatedTokenAddress owner mint) ∨
      ∃ distributor, account = .distributor distributor

namespace Creates

variable {env : Env} {bank one two three : Bank} {key : Pubkey}

theorem refl (bank : Bank) : Creates env bank bank where
  kept _ _ present := present
  new _ _ present := .inl present

theorem trans (first : Creates env one two) (second : Creates env two three) :
    Creates env one three where
  kept key account present := second.kept key account (first.kept key account present)
  new key account present := by
    rcases second.new key account present with earlier | created
    · exact first.new key account earlier
    · exact .inr created

theorem of_set {account : Account} (free : bank key = none)
    (allowed : (∃ owner mint, key = env.associatedTokenAddress owner mint) ∨
      ∃ distributor, account = .distributor distributor) :
    Creates env bank (bank.set key account) where
  kept other found present := by
    have different : other ≠ key := by
      rintro rfl
      rw [free] at present
      cases present
    rw [Bank.set, Function.update_of_ne different]
    exact present
  new other found present := by
    by_cases here : other = key
    · subst here
      rw [Bank.set, Function.update_self, Option.some.injEq] at present
      exact .inr (present ▸ allowed)
    · rw [Bank.set, Function.update_of_ne here] at present
      exact .inl present

end Creates

section Transactions

variable {env : Env} {keyring : Keyring env} {clock : Clock} {bank after : Bank}

/-- The instructions of the creating transaction. -/
def CommandInstruction.creating : CommandInstruction → Bool
  | .setComputeUnitPrice _ => true
  | .createAssociatedTokenAccount _ _ _ => true
  | .program (.newDistributor _ _) => true
  | .program _ => false

theorem execute_creates {instruction : CommandInstruction} (creating : instruction.creating = true)
    (executed : instruction.execute keyring clock bank = .ok after) :
    Creates env bank after := by
  cases instruction with
  | setComputeUnitPrice fee =>
      cases executed
      exact .refl bank
  | createAssociatedTokenAccount payer owner mint =>
      obtain ⟨⟨_, _, free⟩, rfl⟩ := createAssociated_eq_ok.mp executed
      exact .of_set free (.inl ⟨owner, mint, rfl⟩)
  | program instruction =>
      cases instruction with
      | newDistributor accounts data =>
          obtain ⟨receipt, accepted, rfl⟩ := executeTransaction_program.mp
            (executeTransaction_singleton.mpr executed)
          obtain ⟨bump, checks, rfl⟩ := newDistributor_eq_ok.mp accepted
          exact .of_set checks.valid.free (.inr ⟨_, rfl⟩)
      | _ => cases creating

/-- A transaction of such instructions only creates. -/
theorem executeTransaction_creates {transaction : List CommandInstruction}
    (creating : ∀ instruction ∈ transaction, instruction.creating = true)
    (executed : executeTransaction keyring clock bank transaction = .ok after) :
    Creates env bank after := by
  induction transaction generalizing bank with
  | nil =>
      cases executed
      exact .refl _
  | cons instruction transaction inductionHypothesis =>
      obtain ⟨middle, first, later⟩ := executeTransaction_cons.mp executed
      rw [List.forall_mem_cons] at creating
      exact (execute_creates creating.1 first).trans (inductionHypothesis creating.2 later)

theorem executeTransaction_append {one two : List CommandInstruction} :
    executeTransaction keyring clock bank (one ++ two) = .ok after ↔
      ∃ middle, executeTransaction keyring clock bank one = .ok middle ∧
        executeTransaction keyring clock middle two = .ok after := by
  rw [executeTransaction, List.foldlM_append, bind_eq_ok]
  rfl

end Transactions

/-! ## The node -/

section Node

variable (env : Env) (findProgramAddress : List Bytes → Pubkey → Pubkey × UInt8)
variable (associatedTokenAddress : Pubkey → Pubkey → Pubkey)
variable (args : CliArgs) (command : NewDistributorCommand)

/-- The address of the distributor for a tree. -/
def treeAddress (tree : AirdropMerkleTree) : Pubkey :=
  (getMerkleDistributorPda findProgramAddress args.programId command.base args.mint
    tree.airdropVersion).1

/-- What the node returns of an account.  The addresses asked for hold no accounts of other
programs. -/
def fetched (bank : Bank) (key : Pubkey) : Option Bytes :=
  (bank key).bind (Account.data env.sha256)

/-- What the calls of a turn return before the transaction is sent, and what they return where
it is executed and left no account. -/
def creationAnswers (bank : Bank) (tree : AirdropMerkleTree) : Answers :=
  let exists? (key : Pubkey) : Except Unit Unit := if (bank key).isSome then .ok () else .error ()
  let key := treeAddress findProgramAddress args command tree
  { account := .ok (fetched env bank key)
    tokenVault := exists? (associatedTokenAddress key args.mint)
    clawbackReceiver := exists? (associatedTokenAddress command.clawbackReceiverOwner args.mint)
    latestBlockhash := .ok ()
    sent := .ok ()
    accountAfterwards := .ok none }

variable {env}

/-- What the calls of a turn return, and the accounts after it. -/
def serveCreation (keyring : Keyring env) (clock : Clock) (bank : Bank)
    (tree : AirdropMerkleTree) : Answers × Bank :=
  let asked := creationAnswers env findProgramAddress associatedTokenAddress args command bank
    tree
  let key := treeAddress findProgramAddress args command tree
  if (bank key).isSome then (asked, bank)
  else
    match newDistributorTransaction findProgramAddress associatedTokenAddress args command asked
      tree 0 0 with
    | .error _ => (asked, bank)
    | .ok transaction =>
        match executeTransaction keyring clock bank transaction with
        | .ok after => ({ asked with accountAfterwards := .ok (fetched env after key) }, after)
        | .error _ => ({ asked with sent := .error () }, bank)

/-- The loop goes on after a turn with this end. -/
def goesOn : Except (Stop String) Turn → Bool
  | .error _ => false
  | .ok .skipped => true
  | .ok (.attempted _) => command.airdropVersion.isNone

/-- The answers to the calls of the loop over these files are those of the node, whose clock
shows `clocks n` when the transaction of turn `n` is executed; `after` are the accounts in the
end. -/
def Serves (keyring : Keyring env) (clocks : Nat → Clock) (answers : TreeFile → Answers) :
    Nat → Bank → List TreeFile → Bank → Prop
  | _, bank, [], after => after = bank
  | turn, bank, file :: paths, after =>
      if command.airdropVersion.any (· ≠ file.tree.airdropVersion) then
        Serves keyring clocks answers (turn + 1) bank paths after
      else
        let served := serveCreation findProgramAddress associatedTokenAddress args command keyring
          (clocks turn) bank file.tree
        let ended := (createTree findProgramAddress associatedTokenAddress
          (MerkleDistributor.tryDeserialize env.sha256) args command served.1 file.tree 0 0).2
        answers file = served.1 ∧
          if goesOn command ended then
            Serves keyring clocks answers (turn + 1) served.2 paths after
          else after = served.2

/-- The answers to the calls of the command are those of the node. -/
def ServesCommand (keyring : Keyring env) (clocks retryClocks : Nat → Clock)
    (answers retryAnswers : TreeFile → Answers) (bank : Bank) (listing : List TreeFile)
    (after : Bank) : Prop :=
  ∃ middle, Serves findProgramAddress associatedTokenAddress args command keyring clocks answers 0
      bank (sortByPath listing) middle ∧
    match (createNewDistributor findProgramAddress associatedTokenAddress
      (MerkleDistributor.tryDeserialize env.sha256) args command answers 0 0 listing).2 with
    | .error (.err _) => Serves findProgramAddress associatedTokenAddress args command keyring
        retryClocks retryAnswers 0 middle (sortByPath listing) after
    | _ => after = middle

/-- The address for the tree holds a distributor that agrees with what the command is asked to
create. -/
def Deployed (bank : Bank) (tree : AirdropMerkleTree) : Prop :=
  ∃ stored, bank (treeAddress findProgramAddress args command tree) =
      some (.distributor stored) ∧
    Intended findProgramAddress associatedTokenAddress args command tree stored

/-- What a turn has done, by its end. -/
inductive CreationTurn (env : Env) (bank after : Bank) (tree : AirdropMerkleTree) :
    Except (Stop String) Turn → Prop
  | existing (deployed : Deployed findProgramAddress associatedTokenAddress args command bank tree)
      (same : after = bank) : CreationTurn env bank after tree (.ok .skipped)
  | stopped {stop : Stop String} (same : after = bank) :
      CreationTurn env bank after tree (.error stop)
  | refused (free : bank (treeAddress findProgramAddress args command tree) = none)
      (same : after = bank) : CreationTurn env bank after tree (.ok (.attempted true))
  | created (free : bank (treeAddress findProgramAddress args command tree) = none)
      (creates : Creates env bank after)
      (deployed : Deployed findProgramAddress associatedTokenAddress args command after tree) :
      CreationTurn env bank after tree (.ok (.attempted false))

end Node

/-! ## A turn -/

section Turn

variable {env : Env} {findProgramAddress : List Bytes → Pubkey → Pubkey × UInt8}
variable {associatedTokenAddress : Pubkey → Pubkey → Pubkey}
variable {args : CliArgs} {command : NewDistributorCommand}
variable {bank after : Bank} {tree : AirdropMerkleTree} {keyring : Keyring env} {clock : Clock}
variable {transaction : List CommandInstruction}

variable (env) in
/-- The data of a distributor are read back. -/
theorem tryDeserialize_fetched {key : Pubkey} {distributor : MerkleDistributor}
    (present : bank key = some (.distributor distributor)) :
    ∃ data, fetched env bank key = some data ∧
      MerkleDistributor.tryDeserialize env.sha256 data = some distributor := by
  refine ⟨_, by rw [fetched, present]; rfl, ?_⟩
  rw [MerkleDistributor.tryDeserialize, tryDeserialize_accountData distributorBorsh
    (distributor, .default) (accountDiscriminator_length env.sha256 _)]
  rfl

/-- The instructions that create the accounts of tokens that are missing. -/
def missingAccounts (answers : Answers) (command : NewDistributorCommand) (args : CliArgs)
    (key : Pubkey) : List CommandInstruction :=
  (match answers.tokenVault with
    | .error _ => [.createAssociatedTokenAccount command.keypair key args.mint]
    | .ok _ => []) ++
  (match answers.clawbackReceiver with
    | .error _ => [.createAssociatedTokenAccount command.keypair command.clawbackReceiverOwner
        args.mint]
    | .ok _ => [])

/-- The transaction creates what is missing and the distributor. -/
theorem newDistributorTransaction_eq_ok {answers : Answers}
    (blockhash : answers.latestBlockhash = .ok ()) :
    newDistributorTransaction findProgramAddress associatedTokenAddress args command answers tree
        0 0 = .ok transaction ↔
      ∃ instruction, newDistributorInstruction findProgramAddress associatedTokenAddress args
          command tree 0 0 = .ok instruction ∧
        transaction = (command.priorityFee.toList.map CommandInstruction.setComputeUnitPrice ++
          missingAccounts answers command args (treeAddress findProgramAddress args command tree)) ++
            [.program instruction] := by
  rw [newDistributorTransaction]
  simp only [bind_eq_ok, require_eq_ok, blockhash, Except.toBool, pure_eq, Except.ok.injEq,
    missingAccounts, List.append_assoc, treeAddress]
  constructor
  · rintro ⟨instruction, built, _, _, rfl⟩
    exact ⟨instruction, built, rfl⟩
  · rintro ⟨instruction, built, rfl⟩
    exact ⟨instruction, built, (), trivial, rfl⟩

/-- The transaction is one that only creates, and what it stores is intended. -/
theorem newDistributorTransaction_creates {answers : Answers}
    (blockhash : answers.latestBlockhash = .ok ())
    (built : newDistributorTransaction findProgramAddress associatedTokenAddress args command
      answers tree 0 0 = .ok transaction)
    (executed : executeTransaction keyring clock bank transaction = .ok after) :
    Creates env bank after ∧
      Deployed findProgramAddress associatedTokenAddress args command after tree := by
  obtain ⟨instruction, isInstruction, rfl⟩ := (newDistributorTransaction_eq_ok blockhash).mp built
  obtain ⟨claim, _, isNew⟩ := newDistributorInstruction_eq_ok.mp isInstruction
  subst isNew
  constructor
  · refine executeTransaction_creates ?_ executed
    intro instruction member
    simp only [missingAccounts, List.mem_append, List.mem_map, List.mem_singleton] at member
    rcases member with (⟨fee, _, rfl⟩ | vault | receiver) | rfl
    · rfl
    · split at vault
      · rw [List.mem_singleton.mp vault]
        rfl
      · cases vault
    · split at receiver
      · rw [List.mem_singleton.mp receiver]
        rfl
      · cases receiver
    · rfl
  · obtain ⟨middle, _, last⟩ := executeTransaction_append.mp executed
    obtain ⟨receipt, accepted, rfl⟩ := executeTransaction_program.mp last
    exact newDistributor_stores isInstruction accepted

section Ends

variable {tryDeserialize : Bytes → Option MerkleDistributor} {answers : Answers} {data : Bytes}

/-- How a turn ends that finds the account. -/
theorem createTree_of_found (found : answers.account = .ok (some data)) :
    (createTree findProgramAddress associatedTokenAddress tryDeserialize args command answers tree
        0 0).2 =
      if checkDistributorOnchainMatches associatedTokenAddress tryDeserialize args command data
        tree 0 0 command.keypair command.base = .ok () then .ok .skipped
      else .error .panic := by
  simp only [createTree, found]
  split
  case h_1 passed => rw [if_pos passed]
  case h_2 failed =>
    rw [if_neg]
    intro passed
    rw [failed] at passed
    cases passed

/-- The intended distributor passes the check. -/
theorem check_of_intended {stored : MerkleDistributor}
    (decoded : tryDeserialize data = some stored)
    (intended : Intended findProgramAddress associatedTokenAddress args command tree stored) :
    checkDistributorOnchainMatches associatedTokenAddress tryDeserialize args command data tree 0
      0 command.keypair command.base = .ok () := by
  have agreed (found : MerkleDistributor) (isFound : tryDeserialize data = some found) :
      Intended findProgramAddress associatedTokenAddress args command tree found := by
    rw [decoded, Option.some.injEq] at isFound
    exact isFound ▸ intended
  exact check_eq_ok.mpr agreed

theorem createTree_of_stop (free : answers.account = .ok none) {stop : Stop String}
    (built : newDistributorTransaction findProgramAddress associatedTokenAddress args command
      answers tree 0 0 = .error stop) :
    (createTree findProgramAddress associatedTokenAddress tryDeserialize args command answers tree
      0 0).2 = .error stop := by
  simp only [createTree, free, built]

theorem createTree_of_refused (answers : Answers) (free : answers.account = .ok none)
    (built : newDistributorTransaction findProgramAddress associatedTokenAddress args command
      answers tree 0 0 = .ok transaction)
    (refused : answers.sent = .error ()) (absent : answers.accountAfterwards = .ok none) :
    (createTree findProgramAddress associatedTokenAddress tryDeserialize args command answers tree
      0 0).2 = .ok (.attempted true) := by
  simp only [createTree, free, built, sentReport, refused, absent]
  split <;> rfl

theorem createTree_of_created (answers : Answers) (free : answers.account = .ok none)
    (built : newDistributorTransaction findProgramAddress associatedTokenAddress args command
      answers tree 0 0 = .ok transaction)
    (sent : answers.sent = .ok ()) (found : answers.accountAfterwards = .ok (some data))
    (passed : checkDistributorOnchainMatches associatedTokenAddress tryDeserialize args command
      data tree 0 0 command.keypair command.base = .ok ()) :
    (createTree findProgramAddress associatedTokenAddress tryDeserialize args command answers tree
      0 0).2 = .ok (.attempted false) := by
  simp only [createTree, free, built, sentReport, sent, found, passed]
  split <;> rfl

end Ends

/-- What a turn at the node does. -/
theorem serveCreation_turn
    (own : ∀ account, bank (treeAddress findProgramAddress args command tree) = some account →
      ∃ distributor, account = .distributor distributor) :
    let served := serveCreation findProgramAddress associatedTokenAddress args command keyring
      clock bank tree
    CreationTurn findProgramAddress associatedTokenAddress args command env bank served.2 tree
      (createTree findProgramAddress associatedTokenAddress
        (MerkleDistributor.tryDeserialize env.sha256) args command served.1 tree 0 0).2 := by
  cases present : bank (treeAddress findProgramAddress args command tree) with
  | some account =>
      -- the account is checked, and nothing is sent
      obtain ⟨distributor, rfl⟩ := own account present
      obtain ⟨data, isData, decoded⟩ := tryDeserialize_fetched env present
      have found : (creationAnswers env findProgramAddress associatedTokenAddress args command bank
          tree).account = .ok (some data) := congrArg Except.ok isData
      simp only [serveCreation, present, Option.isSome_some, if_true, createTree_of_found found]
      split
      case isTrue passed =>
        exact .existing ⟨distributor, present, check_eq_ok.mp passed distributor decoded⟩ rfl
      case isFalse => exact .stopped rfl
  | none =>
      have free : (creationAnswers env findProgramAddress associatedTokenAddress args command bank
          tree).account = .ok none := by
        simp only [creationAnswers, fetched, present, Option.bind_none]
      cases built : newDistributorTransaction findProgramAddress associatedTokenAddress args
        command (creationAnswers env findProgramAddress associatedTokenAddress args command bank
          tree) tree 0 0 with
      | error stop =>
          simp only [serveCreation, present, Option.isSome_none, Bool.false_eq_true, if_false,
            built, createTree_of_stop free built]
          exact .stopped rfl
      | ok transaction =>
          cases executed : executeTransaction keyring clock bank transaction with
          | error error =>
              simp only [serveCreation, present, Option.isSome_none, Bool.false_eq_true, if_false,
                built, executed]
              rw [createTree_of_refused { creationAnswers env findProgramAddress
                associatedTokenAddress args command bank tree with sent := .error () } free built
                rfl rfl]
              exact .refused present rfl
          | ok after =>
              obtain ⟨creates, deployed⟩ := newDistributorTransaction_creates rfl built executed
              obtain ⟨stored, isStored, intended⟩ := id deployed
              obtain ⟨data, isData, decoded⟩ := tryDeserialize_fetched env isStored
              simp only [serveCreation, present, Option.isSome_none, Bool.false_eq_true, if_false,
                built, executed]
              rw [createTree_of_created { creationAnswers env findProgramAddress
                associatedTokenAddress args command bank tree with
                  accountAfterwards := .ok (fetched env after
                    (treeAddress findProgramAddress args command tree)) }
                free built rfl (congrArg Except.ok isData)]
              · exact .created present creates deployed
              · exact check_of_intended decoded intended

end Turn

/-! ## The loop -/

section Loop

variable {env : Env} {findProgramAddress : List Bytes → Pubkey → Pubkey × UInt8}
variable {associatedTokenAddress : Pubkey → Pubkey → Pubkey}
variable {args : CliArgs} {command : NewDistributorCommand}
variable {tryDeserialize : Bytes → Option MerkleDistributor} {answers : TreeFile → Answers}
variable {file : TreeFile} {paths : List TreeFile} {isError failed : Bool}

/-- The command is asked for the version of the tree, or for all versions. -/
def Wanted (command : NewDistributorCommand) (tree : AirdropMerkleTree) : Prop :=
  command.airdropVersion.any (· ≠ tree.airdropVersion) = false

theorem createLoop_unwanted (unwanted : ¬ Wanted command file.tree) :
    (createLoop findProgramAddress associatedTokenAddress tryDeserialize args command answers 0 0
        (file :: paths) isError).2 =
      (createLoop findProgramAddress associatedTokenAddress tryDeserialize args command answers 0
        0 paths isError).2 := by
  rw [Wanted, Bool.not_eq_false] at unwanted
  simp only [createLoop, checkedMul_zero, unwanted, if_true]

section Wanted

variable (wanted : Wanted command file.tree)
include wanted

theorem createLoop_stopped {stop : Stop String}
    (ended : (createTree findProgramAddress associatedTokenAddress tryDeserialize args command
      (answers file) file.tree 0 0).2 = .error stop) :
    (createLoop findProgramAddress associatedTokenAddress tryDeserialize args command answers 0 0
      (file :: paths) isError).2 = .error stop := by
  rw [Wanted] at wanted
  simp only [createLoop, checkedMul_zero, wanted, Bool.false_eq_true, if_false, ended]

theorem createLoop_skipped
    (ended : (createTree findProgramAddress associatedTokenAddress tryDeserialize args command
      (answers file) file.tree 0 0).2 = .ok .skipped) :
    (createLoop findProgramAddress associatedTokenAddress tryDeserialize args command answers 0 0
        (file :: paths) isError).2 =
      (createLoop findProgramAddress associatedTokenAddress tryDeserialize args command answers 0
        0 paths isError).2 := by
  rw [Wanted] at wanted
  simp only [createLoop, checkedMul_zero, wanted, Bool.false_eq_true, if_false, ended]

theorem createLoop_attempted
    (ended : (createTree findProgramAddress associatedTokenAddress tryDeserialize args command
      (answers file) file.tree 0 0).2 = .ok (.attempted failed)) :
    (createLoop findProgramAddress associatedTokenAddress tryDeserialize args command answers 0 0
        (file :: paths) isError).2 =
      if command.airdropVersion.isSome then endOfLoop (isError || failed)
      else (createLoop findProgramAddress associatedTokenAddress tryDeserialize args command
        answers 0 0 paths (isError || failed)).2 := by
  rw [Wanted] at wanted
  simp only [createLoop, checkedMul_zero, wanted, Bool.false_eq_true, if_false, ended]
  split <;> rfl

end Wanted

theorem endOfLoop_eq_ok : endOfLoop isError = .ok () ↔ isError = false := by
  cases isError with
  | true => simp [endOfLoop]
  | false => simp [endOfLoop]

end Loop

/-! ## The loop at the node -/

section Served

variable {env : Env} {findProgramAddress : List Bytes → Pubkey → Pubkey × UInt8}
variable {associatedTokenAddress : Pubkey → Pubkey → Pubkey}
variable {args : CliArgs} {command : NewDistributorCommand}
variable {keyring : Keyring env} {clocks : Nat → Clock} {answers : TreeFile → Answers}
variable {bank middle after : Bank} {tree : AirdropMerkleTree} {turn : Nat}
variable {paths : List TreeFile} {isError : Bool}

variable (env findProgramAddress args command) in
/-- The addresses for the trees hold distributors if anything, and are not those of associated
token accounts. -/
structure OwnAddresses (bank : Bank) (paths : List TreeFile) : Prop where
  own : ∀ file ∈ paths, ∀ account,
    bank (treeAddress findProgramAddress args command file.tree) = some account →
      ∃ distributor, account = .distributor distributor
  apart : ∀ file ∈ paths, ∀ owner mint,
    treeAddress findProgramAddress args command file.tree ≠ env.associatedTokenAddress owner mint

theorem OwnAddresses.later (owned : OwnAddresses env findProgramAddress args command bank paths)
    (creates : Creates env bank after) :
    OwnAddresses env findProgramAddress args command after paths where
  own file member account present := by
    rcases creates.new _ account present with earlier | ⟨owner, mint, same⟩ | created
    · exact owned.own file member account earlier
    · exact absurd same (owned.apart file member owner mint)
    · exact created
  apart := owned.apart

theorem OwnAddresses.tail {file : TreeFile}
    (owned : OwnAddresses env findProgramAddress args command bank (file :: paths)) :
    OwnAddresses env findProgramAddress args command bank paths where
  own other member := owned.own other (List.mem_cons_of_mem _ member)
  apart other member := owned.apart other (List.mem_cons_of_mem _ member)

theorem Deployed.later
    (deployed : Deployed findProgramAddress associatedTokenAddress args command bank tree)
    (creates : Creates env bank after) :
    Deployed findProgramAddress associatedTokenAddress args command after tree := by
  obtain ⟨stored, present, intended⟩ := deployed
  exact ⟨stored, creates.kept _ _ present, intended⟩

variable (findProgramAddress associatedTokenAddress args command) in
/-- Every wanted tree of the files has its intended distributor. -/
def AllDeployed (bank : Bank) (paths : List TreeFile) : Prop :=
  ∀ file ∈ paths, Wanted command file.tree →
    Deployed findProgramAddress associatedTokenAddress args command bank file.tree

/-- Where one version is asked for, all wanted trees have it. -/
theorem wanted_version {other : AirdropMerkleTree} (one : command.airdropVersion.isSome = true)
    (wanted : Wanted command tree) (otherWanted : Wanted command other) :
    other.airdropVersion = tree.airdropVersion := by
  obtain ⟨version, isVersion⟩ := Option.isSome_iff_exists.mp one
  have isWanted (found : AirdropMerkleTree) (this : Wanted command found) :
      version = found.airdropVersion := by
    simpa [Wanted, isVersion] using this
  exact (isWanted other otherWanted).symm.trans (isWanted tree wanted)

theorem serves_unwanted {file : TreeFile} (unwanted : ¬ Wanted command file.tree) :
    Serves findProgramAddress associatedTokenAddress args command keyring clocks answers turn bank
        (file :: paths) after ↔
      Serves findProgramAddress associatedTokenAddress args command keyring clocks answers
        (turn + 1) bank paths after := by
  rw [Wanted, Bool.not_eq_false] at unwanted
  rw [Serves, if_pos unwanted]

/-- Of a wanted tree the loop goes on with the accounts that its turn leaves. -/
theorem serves_wanted {file : TreeFile} (wanted : Wanted command file.tree) :
    Serves findProgramAddress associatedTokenAddress args command keyring clocks answers turn bank
        (file :: paths) after ↔
      let served := serveCreation findProgramAddress associatedTokenAddress args command keyring
        (clocks turn) bank file.tree
      answers file = served.1 ∧
        if goesOn command (createTree findProgramAddress associatedTokenAddress
          (MerkleDistributor.tryDeserialize env.sha256) args command served.1 file.tree 0 0).2 then
          Serves findProgramAddress associatedTokenAddress args command keyring clocks answers
            (turn + 1) served.2 paths after
        else after = served.2 := by
  rw [Wanted] at wanted
  rw [Serves, if_neg (by rw [wanted]; exact Bool.false_ne_true)]

/-- The loop changes no account that exists, and where it ends without error every wanted tree
has its distributor. -/
theorem createLoop_serves
    (owned : OwnAddresses env findProgramAddress args command bank paths)
    (distinct : command.airdropVersion.isSome →
      (paths.map fun file => file.tree.airdropVersion).Nodup)
    (served : Serves findProgramAddress associatedTokenAddress args command keyring clocks answers
      turn bank paths after) :
    Creates env bank after ∧
      ((createLoop findProgramAddress associatedTokenAddress
          (MerkleDistributor.tryDeserialize env.sha256) args command answers 0 0 paths
            isError).2 = .ok () →
        isError = false ∧
          AllDeployed findProgramAddress associatedTokenAddress args command after paths) := by
  induction paths generalizing bank turn isError with
  | nil =>
      obtain rfl : after = bank := served
      exact ⟨.refl after, fun returned => ⟨endOfLoop_eq_ok.mp returned, by simp [AllDeployed]⟩⟩
  | cons file paths inductionHypothesis =>
      have laterDistinct (one : command.airdropVersion.isSome) :
          (paths.map fun file => file.tree.airdropVersion).Nodup :=
        (List.nodup_cons.mp (distinct one)).2
      have hasVersion (one : ¬ command.airdropVersion.isNone = true) :
          command.airdropVersion.isSome = true := by
        simpa [Option.isSome_iff_ne_none] using one
      by_cases wanted : Wanted command file.tree
      · obtain ⟨answered, goes⟩ := (serves_wanted wanted).mp served
        have isTurn := @serveCreation_turn env findProgramAddress associatedTokenAddress args
          command bank file.tree keyring (clocks turn) (owned.own file List.mem_cons_self)
        obtain ⟨ended, isEnded⟩ : ∃ ended, (createTree findProgramAddress associatedTokenAddress
            (MerkleDistributor.tryDeserialize env.sha256) args command (answers file) file.tree 0
              0).2 = ended := ⟨_, rfl⟩
        dsimp only at isTurn
        rw [← answered, isEnded] at isTurn goes
        cases isTurn with
        | existing here same =>
            rw [goesOn, if_pos rfl, same] at goes
            obtain ⟨creates, deployed⟩ := inductionHypothesis owned.tail laterDistinct goes
            refine ⟨creates, fun returned => ?_⟩
            rw [createLoop_skipped wanted isEnded] at returned
            obtain ⟨noError, all⟩ := deployed returned
            exact ⟨noError, List.forall_mem_cons.mpr ⟨fun _ => here.later creates, all⟩⟩
        | stopped same =>
            rw [goesOn, if_neg Bool.false_ne_true, same] at goes
            refine ⟨goes ▸ .refl _, fun returned => ?_⟩
            rw [createLoop_stopped wanted isEnded] at returned
            cases returned
        | refused free same =>
            rw [goesOn, same] at goes
            split at goes
            case isTrue all =>
              obtain ⟨creates, deployed⟩ := inductionHypothesis owned.tail laterDistinct goes
              refine ⟨creates, fun returned => ?_⟩
              rw [createLoop_attempted wanted isEnded, if_neg (by simpa using all)] at returned
              obtain ⟨noError, _⟩ := deployed returned
              simp at noError
            case isFalse one =>
              refine ⟨goes ▸ .refl _, fun returned => ?_⟩
              rw [createLoop_attempted wanted isEnded, if_pos (hasVersion one), endOfLoop_eq_ok]
                at returned
              simp at returned
        | created free creates here =>
            rw [goesOn] at goes
            split at goes
            case isTrue all =>
              obtain ⟨createsLater, deployed⟩ :=
                inductionHypothesis (owned.tail.later creates) laterDistinct goes
              refine ⟨creates.trans createsLater, fun returned => ?_⟩
              rw [createLoop_attempted wanted isEnded, if_neg (by simpa using all),
                Bool.or_false] at returned
              obtain ⟨noError, allLater⟩ := deployed returned
              exact ⟨noError,
                List.forall_mem_cons.mpr ⟨fun _ => here.later createsLater, allLater⟩⟩
            case isFalse one =>
              have isOne := hasVersion one
              refine ⟨goes ▸ creates, fun returned => ?_⟩
              rw [createLoop_attempted wanted isEnded, if_pos isOne, endOfLoop_eq_ok,
                Bool.or_false] at returned
              refine ⟨returned, List.forall_mem_cons.mpr ⟨fun _ => goes ▸ here, ?_⟩⟩
              intro other member otherWanted
              have sameVersion := wanted_version isOne wanted otherWanted
              exact absurd (List.mem_map.mpr ⟨other, member, sameVersion⟩)
                (List.nodup_cons.mp (distinct isOne)).1
      · rw [createLoop_unwanted wanted]
        obtain ⟨creates, deployed⟩ := inductionHypothesis owned.tail laterDistinct
          ((serves_unwanted wanted).mp served)
        refine ⟨creates, fun returned => ?_⟩
        obtain ⟨noError, all⟩ := deployed returned
        refine ⟨noError, List.forall_mem_cons.mpr ⟨fun isWanted => absurd isWanted wanted, all⟩⟩

/-- A tree that has its distributor is skipped, and nothing is sent. -/
theorem serves_deployed {file : TreeFile} (wanted : Wanted command file.tree)
    (here : Deployed findProgramAddress associatedTokenAddress args command bank file.tree)
    (served : Serves findProgramAddress associatedTokenAddress args command keyring clocks answers
      turn bank (file :: paths) after) :
    (createTree findProgramAddress associatedTokenAddress
        (MerkleDistributor.tryDeserialize env.sha256) args command (answers file) file.tree 0
          0).2 = .ok .skipped ∧
      Serves findProgramAddress associatedTokenAddress args command keyring clocks answers
        (turn + 1) bank paths after := by
  obtain ⟨answered, goes⟩ := (serves_wanted wanted).mp served
  obtain ⟨stored, present, intended⟩ := here
  obtain ⟨data, isData, decoded⟩ := tryDeserialize_fetched env present
  have isServed : serveCreation findProgramAddress associatedTokenAddress args command
      keyring (clocks turn) bank file.tree =
        (creationAnswers env findProgramAddress associatedTokenAddress args command bank
          file.tree, bank) := by
    rw [serveCreation, if_pos (Option.isSome_iff_exists.mpr ⟨_, present⟩)]
  have found : (answers file).account = .ok (some data) := by
    rw [answered, isServed]
    exact congrArg Except.ok isData
  have isEnded : (createTree findProgramAddress associatedTokenAddress
      (MerkleDistributor.tryDeserialize env.sha256) args command (answers file) file.tree 0
        0).2 = .ok .skipped := by
    rw [createTree_of_found found, if_pos (check_of_intended decoded intended)]
  rw [← answered, isEnded, goesOn, if_pos rfl, isServed] at goes
  exact ⟨isEnded, goes⟩

/-- A loop that finds every wanted distributor sends nothing. -/
theorem createLoop_rerun
    (all : AllDeployed findProgramAddress associatedTokenAddress args command bank paths)
    (served : Serves findProgramAddress associatedTokenAddress args command keyring clocks answers
      turn bank paths after) :
    after = bank ∧
      (createLoop findProgramAddress associatedTokenAddress
        (MerkleDistributor.tryDeserialize env.sha256) args command answers 0 0 paths false).2 =
          .ok () := by
  induction paths generalizing turn with
  | nil => exact ⟨served, rfl⟩
  | cons file paths inductionHypothesis =>
      obtain ⟨here, later⟩ := List.forall_mem_cons.mp all
      by_cases wanted : Wanted command file.tree
      · obtain ⟨isEnded, goes⟩ := serves_deployed wanted (here wanted) served
        rw [createLoop_skipped wanted isEnded]
        exact inductionHypothesis later goes
      · rw [createLoop_unwanted wanted]
        exact inductionHypothesis later ((serves_unwanted wanted).mp served)

theorem allDeployed_sortByPath {listing : List TreeFile} :
    AllDeployed findProgramAddress associatedTokenAddress args command bank (sortByPath listing) ↔
      AllDeployed findProgramAddress associatedTokenAddress args command bank listing := by
  have same (file : TreeFile) : file ∈ sortByPath listing ↔ file ∈ listing :=
    (sortByPath_perm listing).mem_iff
  simp only [AllDeployed, same]

end Served

/-! ## The command -/

section Command

variable {env : Env} {findProgramAddress : List Bytes → Pubkey → Pubkey × UInt8}
variable {associatedTokenAddress : Pubkey → Pubkey → Pubkey}
variable {args : CliArgs} {command : NewDistributorCommand}
variable {keyring : Keyring env} {clocks retryClocks : Nat → Clock}
variable {answers retryAnswers : TreeFile → Answers} {bank after : Bank}
variable {listing : List TreeFile}

/-- The second attempt is made where the first one returns an error, and decides then. -/
theorem processNewDistributor_cases {tryDeserialize : Bytes → Option MerkleDistributor} :
    let first := (createNewDistributor findProgramAddress associatedTokenAddress tryDeserialize
      args command answers 0 0 listing).2
    let second := (createNewDistributor findProgramAddress associatedTokenAddress tryDeserialize
      args command retryAnswers 0 0 listing).2
    let returned := (processNewDistributor findProgramAddress associatedTokenAddress
      tryDeserialize args command answers retryAnswers listing).2
    (∃ text, first = .error (.err text) ∧ (returned = .ok () ↔ second = .ok ())) ∨
      first = .error .panic ∧ returned = .error .panic ∨
      first = .ok () ∧ returned = .ok () := by
  rcases isFirst : createNewDistributor findProgramAddress associatedTokenAddress tryDeserialize
    args command answers 0 0 listing with ⟨reports, first⟩
  rcases isSecond : createNewDistributor findProgramAddress associatedTokenAddress tryDeserialize
    args command retryAnswers 0 0 listing with ⟨later, second⟩
  simp only [processNewDistributor, isFirst, isSecond]
  cases first with
  | ok => exact .inr (.inr ⟨rfl, rfl⟩)
  | error stop =>
      cases stop with
      | panic => exact .inr (.inl ⟨rfl, rfl⟩)
      | err text =>
          refine .inl ⟨text, rfl, ?_⟩
          cases second <;> simp

/-- The command changes no account that exists, and where it returns normally every wanted tree
has its intended distributor. -/
theorem command_sound
    (owned : OwnAddresses env findProgramAddress args command bank listing)
    (distinct : command.airdropVersion.isSome →
      (listing.map fun file => file.tree.airdropVersion).Nodup)
    (served : ServesCommand findProgramAddress associatedTokenAddress args command keyring clocks
      retryClocks answers retryAnswers bank listing after) :
    Creates env bank after ∧
      ((processNewDistributor findProgramAddress associatedTokenAddress
          (MerkleDistributor.tryDeserialize env.sha256) args command answers retryAnswers
            listing).2 = .ok () →
        AllDeployed findProgramAddress associatedTokenAddress args command after listing) := by
  obtain ⟨middle, first, second⟩ := served
  have sorted (accounts : Bank)
      (owned : OwnAddresses env findProgramAddress args command accounts listing) :
      OwnAddresses env findProgramAddress args command accounts (sortByPath listing) :=
    ⟨fun file member => owned.own file ((sortByPath_perm listing).mem_iff.mp member),
      fun file member => owned.apart file ((sortByPath_perm listing).mem_iff.mp member)⟩
  have sortedDistinct (one : command.airdropVersion.isSome) :
      ((sortByPath listing).map fun file => file.tree.airdropVersion).Nodup :=
    (((sortByPath_perm listing).map _).nodup_iff).mpr (distinct one)
  obtain ⟨creates, deployed⟩ :=
    @createLoop_serves _ _ _ _ _ _ _ _ _ _ _ _ false (sorted bank owned) sortedDistinct first
  rcases @processNewDistributor_cases findProgramAddress associatedTokenAddress args command
    answers retryAnswers listing (MerkleDistributor.tryDeserialize env.sha256) with
    ⟨text, failed, decided⟩ | ⟨panicked, isPanic⟩ | ⟨passed, isOk⟩
  · -- the second attempt goes on with the accounts that the first one has left
    rw [failed] at second
    obtain ⟨createsLater, deployedLater⟩ := @createLoop_serves _ _ _ _ _ _ _ _ _ _ _ _ false
      (sorted middle (owned.later creates)) sortedDistinct second
    exact ⟨creates.trans createsLater, fun isOk =>
      allDeployed_sortByPath.mp (deployedLater (decided.mp isOk)).2⟩
  · rw [panicked] at second
    obtain rfl : after = middle := second
    exact ⟨creates, fun isOk => absurd (isPanic.symm.trans isOk) (by simp)⟩
  · rw [passed] at second
    obtain rfl : after = middle := second
    exact ⟨creates, fun _ => allDeployed_sortByPath.mp (deployed passed).2⟩

/-- Where every wanted tree has its distributor, the command finds nothing to do. -/
theorem command_rerun
    (all : AllDeployed findProgramAddress associatedTokenAddress args command bank listing)
    (served : ServesCommand findProgramAddress associatedTokenAddress args command keyring clocks
      retryClocks answers retryAnswers bank listing after) :
    (processNewDistributor findProgramAddress associatedTokenAddress
        (MerkleDistributor.tryDeserialize env.sha256) args command answers retryAnswers
          listing).2 = .ok () ∧ after = bank := by
  obtain ⟨middle, first, second⟩ := served
  obtain ⟨same, passed⟩ := createLoop_rerun (allDeployed_sortByPath.mpr all) first
  rcases @processNewDistributor_cases findProgramAddress associatedTokenAddress args command
    answers retryAnswers listing (MerkleDistributor.tryDeserialize env.sha256) with
    ⟨text, failed, -⟩ | ⟨panicked, -⟩ | ⟨isPassed, isOk⟩
  · exact absurd (failed.symm.trans passed) (by simp)
  · exact absurd (panicked.symm.trans passed) (by simp)
  · rw [isPassed] at second
    obtain rfl : after = middle := second
    exact ⟨isOk, same⟩

end Command

section Sample

/-- The folder with the tree of the small deployment. -/
def treeFolder : List TreeFile := [⟨"tree_0.json", sampleTree⟩]

/-- The turn for the tree, at the accounts before its deployment. -/
def treeServed : Answers × Bank :=
  serveCreation (fun seeds _ => sampleFind seeds) sampleEnv.associatedTokenAddress sampleCliArgs
    sampleCommand adminKeyring ⟨0, 20⟩ sampleBank sampleTree

theorem treeFolder_owned : OwnAddresses sampleEnv (fun seeds _ => sampleFind seeds) sampleCliArgs
    sampleCommand sampleBank treeFolder := by
  have isKey : ∀ file ∈ treeFolder, treeAddress (fun seeds _ => sampleFind seeds) sampleCliArgs
      sampleCommand file.tree = sampleKey := by decide +kernel
  constructor
  · intro file member account present
    have free : sampleBank sampleKey = none := by decide +kernel
    rw [isKey file member, free] at present
    cases present
  · intro file member owner mint
    rw [isKey file member]
    change sampleKey ≠ if owner = sampleKey ∧ mint = sampleMint then sampleVault
      else .replicate 254
    split
    · decide +kernel
    · decide +kernel

theorem treeFolder_served : ServesCommand (fun seeds _ => sampleFind seeds)
    sampleEnv.associatedTokenAddress sampleCliArgs sampleCommand adminKeyring (fun _ => ⟨0, 20⟩)
    (fun _ => ⟨0, 20⟩) (fun _ => treeServed.1) (fun _ => treeServed.1) sampleBank treeFolder
    treeServed.2 := by
  have returned : (createNewDistributor (fun seeds _ => sampleFind seeds)
      sampleEnv.associatedTokenAddress (MerkleDistributor.tryDeserialize sampleEnv.sha256)
      sampleCliArgs sampleCommand (fun _ => treeServed.1) 0 0 treeFolder).2 = .ok () := by
    decide +kernel
  have wanted : Wanted sampleCommand (TreeFile.mk "tree_0.json" sampleTree).tree := rfl
  refine ⟨treeServed.2, (serves_wanted wanted).mpr ⟨rfl, ?_⟩, ?_⟩
  · split
    · rfl
    · rfl
  · rw [returned]

end Sample

end Airdrop
