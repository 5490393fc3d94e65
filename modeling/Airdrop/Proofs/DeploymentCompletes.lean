/-
Module: Airdrop.Proofs.DeploymentCompletes
Purpose: When `process_new_distributor` comes through: with terms that the program accepts, a
  mint, and addresses that are free or hold what is needed, the first attempt creates the
  distributors of all wanted trees.
Trusted boundary: none
Main exports: Bank.withAssociated, executeTransaction_missing, Orders, ReadyFor, Separate,
  serveCreation_creates, deployment_completes
-/
import Airdrop.Proofs.FolderDeployment

namespace Airdrop

open Checked

/-! ## Missing token accounts -/

/-- The accounts, with an empty token account at the associated address where nothing is. -/
def Bank.withAssociated (env : Env) (bank : Bank) (owner mint : Pubkey) : Bank :=
  if (bank (env.associatedTokenAddress owner mint)).isSome then bank
  else bank.set (env.associatedTokenAddress owner mint) (.token { mint, owner, amount := 0 })

section Missing

variable {env : Env} {keyring : Keyring env} {clock : Clock} {bank after : Bank}
variable {payer owner mint key : Pubkey}

theorem Bank.withAssociated_of_ne (elsewhere : key ≠ env.associatedTokenAddress owner mint) :
    bank.withAssociated env owner mint key = bank key := by
  rw [Bank.withAssociated]
  split
  · rfl
  · exact Function.update_of_ne elsewhere _ _

theorem Bank.withAssociated_of_some {account : Account} (present : bank key = some account) :
    bank.withAssociated env owner mint key = some account := by
  rw [Bank.withAssociated]
  split
  case isTrue => exact present
  case isFalse free =>
    have elsewhere : key ≠ env.associatedTokenAddress owner mint := by
      rintro rfl
      rw [present] at free
      exact free rfl
    rw [Bank.set, Function.update_of_ne elsewhere]
    exact present

/-- What is at the associated address then. -/
theorem Bank.withAssociated_self (Suits : TokenAccount → Prop)
    (new : Suits { mint, owner, amount := 0 })
    (suits : ∀ account, bank (env.associatedTokenAddress owner mint) = some account →
      ∃ token, account = .token token ∧ Suits token) :
    ∃ token, bank.withAssociated env owner mint (env.associatedTokenAddress owner mint) =
      some (.token token) ∧ Suits token := by
  rw [Bank.withAssociated]
  split
  case isTrue found =>
    obtain ⟨account, present⟩ := Option.isSome_iff_exists.mp found
    obtain ⟨token, rfl, suitable⟩ := suits account present
    exact ⟨token, present, suitable⟩
  case isFalse => exact ⟨_, Function.update_self _ _ _, new⟩

/-- The instruction that creates the account where the node found none is executed. -/
theorem executeTransaction_missing (signed : payer ∈ keyring.keys)
    (isMint : bank mint = some .mint) :
    executeTransaction keyring clock bank
        (if (bank (env.associatedTokenAddress owner mint)).isSome then []
          else [.createAssociatedTokenAccount payer owner mint]) =
      .ok (bank.withAssociated env owner mint) := by
  rw [Bank.withAssociated]
  split
  case isTrue => rfl
  case isFalse missing =>
    refine executeTransaction_singleton.mpr (createAssociated_eq_ok.mpr ⟨⟨signed, isMint, ?_⟩, rfl⟩)
    rwa [Option.not_isSome_iff_eq_none] at missing

end Missing

/-! ## A creation that succeeds -/

section Creation

variable (env : Env) (keyring : Keyring env)
variable (findProgramAddress : List Bytes → Pubkey → Pubkey × UInt8)
variable (associatedTokenAddress : Pubkey → Pubkey → Pubkey)
variable (args : CliArgs) (command : NewDistributorCommand)

/-- The command is asked for what the program accepts until the vesting starts, and signs for
it. -/
structure Orders : Prop extends
    ComputesAddresses env findProgramAddress associatedTokenAddress args where
  payerSigns : command.keypair ∈ keyring.keys
  baseSigns : command.base ∈ keyring.keys
  ordered : command.startVestingTs.toInt < command.endVestingTs.toInt
  clawbackAfterEnd : command.endVestingTs.toInt ≤ command.clawbackStartTs.toInt
  activation : ∃ activationType,
    ActivationType.tryFrom command.activationType = some activationType

/-- The vault of the distributor for a tree. -/
def treeVault (tree : AirdropMerkleTree) : Pubkey :=
  associatedTokenAddress (treeAddress findProgramAddress args command tree) args.mint

/-- The account that the clawback pays to. -/
def orderedReceiver : Pubkey :=
  associatedTokenAddress command.clawbackReceiverOwner args.mint

/-- What is at the address of a vault belongs to the distributor. -/
def VaultSuits (bank : Bank) (tree : AirdropMerkleTree) : Prop :=
  ∀ account, bank (treeVault findProgramAddress associatedTokenAddress args command tree) =
      some account →
    ∃ token, account = .token token ∧
      token.owner = treeAddress findProgramAddress args command tree

/-- There is a mint, and what is at the address of the receiver can receive it. -/
structure MintReady (bank : Bank) : Prop where
  isMint : bank args.mint = some .mint
  receiver : ∀ account, bank (orderedReceiver associatedTokenAddress args command) =
      some account →
    ∃ token, account = .token token ∧ token.mint = args.mint

variable {env keyring findProgramAddress associatedTokenAddress args command}
variable {bank : Bank} {tree : AirdropMerkleTree} {clock : Clock}

/-- The accounts after the creation of the distributor for a tree. -/
def CreatedFor (env : Env) (findProgramAddress : List Bytes → Pubkey → Pubkey × UInt8)
    (args : CliArgs) (command : NewDistributorCommand) (bank : Bank) (tree : AirdropMerkleTree)
    (distributor : MerkleDistributor) : Bank :=
  let key := treeAddress findProgramAddress args command tree
  ((bank.withAssociated env key args.mint).withAssociated env command.clawbackReceiverOwner
    args.mint).set key (.distributor distributor)

section Orders

variable (orders : Orders env keyring findProgramAddress associatedTokenAddress args command)
variable (ready : MintReady associatedTokenAddress args command bank)
include orders ready

/-- The accounts of tokens that are missing are created. -/
theorem executeTransaction_missingAccounts
    (apart : treeVault findProgramAddress associatedTokenAddress args command tree ≠
      orderedReceiver associatedTokenAddress args command) :
    executeTransaction keyring clock bank
        (missingAccounts (creationAnswers env findProgramAddress associatedTokenAddress args
          command bank tree) command args (treeAddress findProgramAddress args command tree)) =
      .ok ((bank.withAssociated env (treeAddress findProgramAddress args command tree)
        args.mint).withAssociated env command.clawbackReceiverOwner args.mint) := by
  have parts : missingAccounts (creationAnswers env findProgramAddress associatedTokenAddress args
      command bank tree) command args (treeAddress findProgramAddress args command tree) =
        (if (bank (env.associatedTokenAddress (treeAddress findProgramAddress args command tree)
            args.mint)).isSome then []
          else [.createAssociatedTokenAccount command.keypair
            (treeAddress findProgramAddress args command tree) args.mint]) ++
        (if (bank (env.associatedTokenAddress command.clawbackReceiverOwner args.mint)).isSome
          then []
          else [.createAssociatedTokenAccount command.keypair command.clawbackReceiverOwner
            args.mint]) := by
    rw [missingAccounts, creationAnswers, ← orders.associated]
    congr 1
    · split <;> split <;> simp_all
    · split <;> split <;> simp_all
  rw [treeVault, orderedReceiver, orders.associated] at apart
  -- the first creation does not touch the account of the receiver
  have same := @Bank.withAssociated_of_ne env bank
    (treeAddress findProgramAddress args command tree) args.mint
    (env.associatedTokenAddress command.clawbackReceiverOwner args.mint) apart.symm
  rw [parts, executeTransaction_append]
  refine ⟨_, executeTransaction_missing orders.payerSigns ready.isMint, ?_⟩
  rw [← same]
  exact executeTransaction_missing orders.payerSigns
    (Bank.withAssociated_of_some ready.isMint)

/-- The creating instruction is accepted once the accounts of tokens are there. -/
theorem newDistributor_accepted
    (apart : treeVault findProgramAddress associatedTokenAddress args command tree ≠
      orderedReceiver associatedTokenAddress args command)
    (future : clock.unixTimestamp.toInt < command.startVestingTs.toInt)
    (away : ∀ owner mint, treeAddress findProgramAddress args command tree ≠
      env.associatedTokenAddress owner mint)
    (free : bank (treeAddress findProgramAddress args command tree) = none)
    (vault : VaultSuits findProgramAddress associatedTokenAddress args command bank tree)
    {instruction : Instruction}
    (built : newDistributorInstruction findProgramAddress associatedTokenAddress args command tree
      0 0 = .ok instruction) :
    let key := treeAddress findProgramAddress args command tree
    let middle := (bank.withAssociated env key args.mint).withAssociated env
      command.clawbackReceiverOwner args.mint
    ∃ receipt distributor,
      execute env middle (keyring.transaction clock instruction) = .ok receipt ∧
        receipt.bank = middle.set key (.distributor distributor) := by
  intro key middle
  rw [treeVault, orderedReceiver, orders.associated] at apart
  obtain ⟨claim, -, rfl⟩ := newDistributorInstruction_eq_ok.mp built
  obtain ⟨token, isVault, owned⟩ := @Bank.withAssociated_self env bank key args.mint
    (fun token => token.owner = key) rfl (by
      rw [VaultSuits, treeVault, orders.associated] at vault
      exact vault)
  have receiver : ∀ account, bank.withAssociated env key args.mint (env.associatedTokenAddress
      command.clawbackReceiverOwner args.mint) = some account →
        ∃ token, account = .token token ∧ token.mint = args.mint := by
    rw [Bank.withAssociated_of_ne apart.symm]
    have ready := ready.receiver
    rw [orderedReceiver, orders.associated] at ready
    exact ready
  obtain ⟨receiving, isReceiver, ofMint⟩ := Bank.withAssociated_self
    (fun token => token.mint = args.mint) rfl receiver
  have derived : env.findProgramAddress (distributorSeeds command.base args.mint
      tree.airdropVersion) = (key, (env.findProgramAddress (distributorSeeds command.base
        args.mint tree.airdropVersion)).2) := by
    rw [← orders.derived]
    rfl
  simp only [execute, Keyring.transaction]
  refine ⟨_, _, newDistributor_eq_ok.mpr ⟨(env.findProgramAddress (distributorSeeds command.base
    args.mint tree.airdropVersion)).2, ?_, rfl⟩, rfl⟩
  refine ⟨?_, orders.ordered, future, orders.clawbackAfterEnd, orders.activation⟩
  rw [orders.associated]
  exact
    { baseSigned := orders.baseSigns
      adminSigned := orders.payerSigns
      isMint := Bank.withAssociated_of_some (Bank.withAssociated_of_some ready.isMint)
      receiver := ⟨receiving, isReceiver, ofMint⟩
      vault := ⟨token, (Bank.withAssociated_of_ne apart).trans isVault, owned⟩
      vaultAssociated := rfl
      derived
      free := (Bank.withAssociated_of_ne (away _ _)).trans
        ((Bank.withAssociated_of_ne (away _ _)).trans free) }

/-- The turn for a tree creates its distributor, where its address is free and what is at the
address of its vault belongs to it. -/
theorem serveCreation_creates
    (apart : treeVault findProgramAddress associatedTokenAddress args command tree ≠
      orderedReceiver associatedTokenAddress args command)
    (future : clock.unixTimestamp.toInt < command.startVestingTs.toInt)
    (away : ∀ owner mint, treeAddress findProgramAddress args command tree ≠
      env.associatedTokenAddress owner mint)
    (free : bank (treeAddress findProgramAddress args command tree) = none)
    (vault : VaultSuits findProgramAddress associatedTokenAddress args command bank tree)
    (counted : ∃ claim, (tree.getMaxTotalClaim : Except (Stop String) U64) = .ok claim) :
    ∃ distributor, (serveCreation findProgramAddress associatedTokenAddress args command keyring
      clock bank tree).2 = CreatedFor env findProgramAddress args command bank tree distributor := by
  obtain ⟨claim, isClaim⟩ := counted
  obtain ⟨instruction, isInstruction⟩ : ∃ instruction, newDistributorInstruction
      findProgramAddress associatedTokenAddress args command tree 0 0 = .ok instruction :=
    ⟨_, newDistributorInstruction_eq_ok.mpr ⟨claim, isClaim, rfl⟩⟩
  have built := (@newDistributorTransaction_eq_ok findProgramAddress associatedTokenAddress args
    command tree _ (creationAnswers env findProgramAddress associatedTokenAddress args command
      bank tree) rfl).mpr ⟨instruction, isInstruction, rfl⟩
  obtain ⟨receipt, distributor, accepted, isAfter⟩ := newDistributor_accepted orders ready apart
    future away free vault isInstruction
  have executed := (@executeTransaction_append env keyring clock bank receipt.bank
    (command.priorityFee.toList.map CommandInstruction.setComputeUnitPrice ++
      missingAccounts (creationAnswers env findProgramAddress associatedTokenAddress args command
        bank tree) command args (treeAddress findProgramAddress args command tree))
    [.program instruction]).mpr
      ⟨_, executeTransaction_fees.trans (executeTransaction_missingAccounts orders ready apart),
        executeTransaction_program.mpr ⟨receipt, accepted, rfl⟩⟩
  refine ⟨distributor, ?_⟩
  rw [CreatedFor, ← isAfter]
  simp only [serveCreation, free, Option.isSome_none, Bool.false_eq_true, if_false, built,
    executed]

end Orders

end Creation

/-! ## The loop -/

section Loop

variable {env : Env} {keyring : Keyring env}
variable {findProgramAddress : List Bytes → Pubkey → Pubkey × UInt8}
variable {associatedTokenAddress : Pubkey → Pubkey → Pubkey}
variable {args : CliArgs} {command : NewDistributorCommand}
variable {bank after : Bank} {clocks : Nat → Clock} {answers : TreeFile → Answers}
variable {file : TreeFile} {paths : List TreeFile} {turn : Nat}

variable (findProgramAddress associatedTokenAddress args command) in
/-- Every wanted tree of the files has its distributor, or its address is free. -/
structure ReadyFor (bank : Bank) (paths : List TreeFile) : Prop extends
    MintReady associatedTokenAddress args command bank where
  trees : ∀ file ∈ paths, Wanted command file.tree →
    Deployed findProgramAddress associatedTokenAddress args command bank file.tree ∨
      bank (treeAddress findProgramAddress args command file.tree) = none ∧
        ∃ claim, (file.tree.getMaxTotalClaim : Except (Stop String) U64) = .ok claim
  vaults : ∀ file ∈ paths,
    VaultSuits findProgramAddress associatedTokenAddress args command bank file.tree

variable (findProgramAddress associatedTokenAddress args command) in
/-- Different files have different addresses and vaults, and none has the receiver as its
vault. -/
structure Separate (paths : List TreeFile) : Prop where
  keys : (paths.map fun file => treeAddress findProgramAddress args command file.tree).Nodup
  vaults : ∀ one ∈ paths, ∀ two ∈ paths,
    treeVault findProgramAddress associatedTokenAddress args command one.tree =
        treeVault findProgramAddress associatedTokenAddress args command two.tree →
      treeAddress findProgramAddress args command one.tree =
        treeAddress findProgramAddress args command two.tree
  receiver : ∀ file ∈ paths,
    treeVault findProgramAddress associatedTokenAddress args command file.tree ≠
      orderedReceiver associatedTokenAddress args command

theorem Separate.tail
    (separate : Separate findProgramAddress associatedTokenAddress args command (file :: paths)) :
    Separate findProgramAddress associatedTokenAddress args command paths where
  keys := (List.nodup_cons.mp separate.keys).2
  vaults one isOne two isTwo :=
    separate.vaults one (List.mem_cons_of_mem _ isOne) two (List.mem_cons_of_mem _ isTwo)
  receiver other member := separate.receiver other (List.mem_cons_of_mem _ member)

theorem ReadyFor.tail
    (ready : ReadyFor findProgramAddress associatedTokenAddress args command bank
      (file :: paths)) :
    ReadyFor findProgramAddress associatedTokenAddress args command bank paths where
  toMintReady := ready.toMintReady
  trees other member := ready.trees other (List.mem_cons_of_mem _ member)
  vaults other member := ready.vaults other (List.mem_cons_of_mem _ member)

section Step

variable (orders : Orders env keyring findProgramAddress associatedTokenAddress args command)
variable (owned : OwnAddresses env findProgramAddress args command bank (file :: paths))
variable (separate : Separate findProgramAddress associatedTokenAddress args command
  (file :: paths))
variable (ready : ReadyFor findProgramAddress associatedTokenAddress args command bank
  (file :: paths))
include orders owned separate ready

/-- The creation of one distributor leaves everything ready for the others. -/
theorem ReadyFor.created {distributor : MerkleDistributor}
    (creates : Creates env bank
      (CreatedFor env findProgramAddress args command bank file.tree distributor)) :
    ReadyFor findProgramAddress associatedTokenAddress args command
      (CreatedFor env findProgramAddress args command bank file.tree distributor) paths where
  isMint := creates.kept _ _ ready.isMint
  receiver account present := by
    rw [orderedReceiver, orders.associated] at present
    rw [CreatedFor, Bank.set, Function.update_of_ne
      (owned.apart file List.mem_cons_self _ _).symm] at present
    have apart := separate.receiver file List.mem_cons_self
    rw [treeVault, orderedReceiver, orders.associated] at apart
    have suits := ready.receiver
    rw [orderedReceiver, orders.associated, ← @Bank.withAssociated_of_ne env bank
      (treeAddress findProgramAddress args command file.tree) args.mint _ apart.symm] at suits
    obtain ⟨token, isToken, ofMint⟩ := Bank.withAssociated_self
      (fun token => token.mint = args.mint) rfl suits
    exact ⟨token, Option.some.inj (present.symm.trans isToken), ofMint⟩
  trees other member wanted := by
    rcases ready.trees other (List.mem_cons_of_mem _ member) wanted with deployed | ⟨isFree, counted⟩
    · exact .inl (deployed.later creates)
    · refine .inr ⟨?_, counted⟩
      have different : treeAddress findProgramAddress args command other.tree ≠
          treeAddress findProgramAddress args command file.tree := by
        intro same
        exact (List.nodup_cons.mp separate.keys).1 (List.mem_map.mpr ⟨other, member, same⟩)
      have away := owned.apart other (List.mem_cons_of_mem _ member)
      rw [CreatedFor, Bank.set, Function.update_of_ne different,
        Bank.withAssociated_of_ne (away _ _), Bank.withAssociated_of_ne (away _ _)]
      exact isFree
  vaults other member account present := by
    have isOther := List.mem_cons_of_mem file member
    refine ready.vaults other isOther account (Eq.trans ?_ present)
    have fromReceiver := separate.receiver other isOther
    have fromVault : treeVault findProgramAddress associatedTokenAddress args command other.tree ≠
        treeVault findProgramAddress associatedTokenAddress args command file.tree := by
      intro same
      have sameKey := separate.vaults other isOther file List.mem_cons_self same
      exact (List.nodup_cons.mp separate.keys).1 (List.mem_map.mpr ⟨other, member, sameKey⟩)
    rw [treeVault, orderedReceiver, orders.associated] at fromReceiver
    rw [treeVault, treeVault, orders.associated] at fromVault
    rw [treeVault, orders.associated, CreatedFor, Bank.set, Function.update_of_ne
      (owned.apart file List.mem_cons_self _ _).symm, Bank.withAssociated_of_ne fromReceiver,
      Bank.withAssociated_of_ne fromVault]

/-- The turn of the loop creates the distributor. -/
theorem serves_created (wanted : Wanted command file.tree)
    (free : bank (treeAddress findProgramAddress args command file.tree) = none)
    (future : (clocks turn).unixTimestamp.toInt < command.startVestingTs.toInt)
    (counted : ∃ claim, (file.tree.getMaxTotalClaim : Except (Stop String) U64) = .ok claim)
    (served : Serves findProgramAddress associatedTokenAddress args command keyring clocks answers
      turn bank (file :: paths) after) :
    ∃ distributor,
      let middle := CreatedFor env findProgramAddress args command bank file.tree distributor
      Creates env bank middle ∧
        (createTree findProgramAddress associatedTokenAddress
          (MerkleDistributor.tryDeserialize env.sha256) args command (answers file) file.tree 0
            0).2 = .ok (.attempted false) ∧
        (command.airdropVersion.isNone = true →
          Serves findProgramAddress associatedTokenAddress args command keyring clocks answers
            (turn + 1) middle paths after) := by
  obtain ⟨answered, goes⟩ := (serves_wanted wanted).mp served
  obtain ⟨distributor, isCreated⟩ := serveCreation_creates orders ready.toMintReady
    (separate.receiver file List.mem_cons_self) future (owned.apart file List.mem_cons_self) free
    (ready.vaults file List.mem_cons_self) counted
  have isTurn := @serveCreation_turn env findProgramAddress associatedTokenAddress args command bank
    file.tree keyring (clocks turn) (owned.own file List.mem_cons_self)
  obtain ⟨ended, isEnded⟩ : ∃ ended, (createTree findProgramAddress associatedTokenAddress
      (MerkleDistributor.tryDeserialize env.sha256) args command (answers file) file.tree 0
        0).2 = ended := ⟨_, rfl⟩
  dsimp only at isTurn
  rw [← answered, isEnded, isCreated] at isTurn
  rw [← answered, isEnded, isCreated] at goes
  have changed : CreatedFor env findProgramAddress args command bank file.tree distributor ≠
      bank := by
    intro same
    have here := congrFun same (treeAddress findProgramAddress args command file.tree)
    rw [CreatedFor, Bank.set, Function.update_self, free] at here
    cases here
  refine ⟨distributor, ?_⟩
  cases isTurn with
  | existing _ same => exact absurd same changed
  | stopped same => exact absurd same changed
  | refused _ same => exact absurd same changed
  | created _ creates _ =>
      refine ⟨creates, isEnded, fun all => ?_⟩
      rw [goesOn, if_pos all] at goes
      exact goes

end Step

/-- The loop comes through. -/
theorem createLoop_completes
    (orders : Orders env keyring findProgramAddress associatedTokenAddress args command)
    (future : ∀ n, (clocks n).unixTimestamp.toInt < command.startVestingTs.toInt)
    (owned : OwnAddresses env findProgramAddress args command bank paths)
    (separate : Separate findProgramAddress associatedTokenAddress args command paths)
    (ready : ReadyFor findProgramAddress associatedTokenAddress args command bank paths)
    (served : Serves findProgramAddress associatedTokenAddress args command keyring clocks answers
      turn bank paths after) :
    (createLoop findProgramAddress associatedTokenAddress
      (MerkleDistributor.tryDeserialize env.sha256) args command answers 0 0 paths false).2 =
        .ok () := by
  induction paths generalizing bank turn with
  | nil => rfl
  | cons file paths inductionHypothesis =>
      by_cases wanted : Wanted command file.tree
      · rcases ready.trees file List.mem_cons_self wanted with here | ⟨free, counted⟩
        · obtain ⟨isEnded, goes⟩ := serves_deployed wanted here served
          rw [createLoop_skipped wanted isEnded]
          exact inductionHypothesis owned.tail separate.tail ready.tail goes
        · obtain ⟨distributor, creates, isEnded, goes⟩ :=
            serves_created orders owned separate ready wanted free (future turn) counted served
          rw [createLoop_attempted wanted isEnded]
          split
          case isTrue => rfl
          case isFalse all =>
            rw [Option.not_isSome_iff_eq_none, ← Option.isNone_iff_eq_none] at all
            exact inductionHypothesis (owned.tail.later creates) separate.tail
              (ReadyFor.created orders owned separate ready creates) (goes all)
      · rw [createLoop_unwanted wanted]
        exact inductionHypothesis owned.tail separate.tail ready.tail
          ((serves_unwanted wanted).mp served)

end Loop

/-! ## The command -/

section Command

variable {env : Env} {keyring : Keyring env}
variable {findProgramAddress : List Bytes → Pubkey → Pubkey × UInt8}
variable {associatedTokenAddress : Pubkey → Pubkey → Pubkey}
variable {args : CliArgs} {command : NewDistributorCommand}
variable {bank after : Bank} {clocks retryClocks : Nat → Clock}
variable {answers retryAnswers : TreeFile → Answers} {listing : List TreeFile}

/-- `process_new_distributor` comes through with its first attempt, where it is asked for terms
that the program accepts, before the vesting starts, and each wanted tree has its distributor or
has an address that is free: it returns normally, and leaves every wanted tree with its intended
distributor. -/
theorem deployment_completes
    (orders : Orders env keyring findProgramAddress associatedTokenAddress args command)
    (future : ∀ n, (clocks n).unixTimestamp.toInt < command.startVestingTs.toInt)
    (owned : OwnAddresses env findProgramAddress args command bank listing)
    (separate : Separate findProgramAddress associatedTokenAddress args command listing)
    (ready : ReadyFor findProgramAddress associatedTokenAddress args command bank listing)
    (served : ServesCommand findProgramAddress associatedTokenAddress args command keyring clocks
      retryClocks answers retryAnswers bank listing after) :
    (processNewDistributor findProgramAddress associatedTokenAddress
        (MerkleDistributor.tryDeserialize env.sha256) args command answers retryAnswers
          listing).2 = .ok () ∧
      AllDeployed findProgramAddress associatedTokenAddress args command after listing ∧
      Creates env bank after := by
  have isFile {file : TreeFile} (member : file ∈ sortByPath listing) : file ∈ listing :=
    (sortByPath_perm listing).mem_iff.mp member
  have distinct : (listing.map fun file => file.tree.airdropVersion).Nodup := by
    have keys := separate.keys
    have fromVersion : listing.map (fun file => treeAddress findProgramAddress args command
        file.tree) = (listing.map fun file => file.tree.airdropVersion).map fun version =>
          (getMerkleDistributorPda findProgramAddress args.programId command.base args.mint
            version).1 := by
      rw [List.map_map]
      rfl
    rw [fromVersion] at keys
    exact keys.of_map
  obtain ⟨creates, sound⟩ := command_sound owned (fun _ => distinct) served
  obtain ⟨middle, first, -⟩ := served
  have completed := createLoop_completes orders future
    ⟨fun file member => owned.own file (isFile member),
      fun file member => owned.apart file (isFile member)⟩
    ⟨(((sortByPath_perm listing).map _).nodup_iff).mpr separate.keys,
      fun one isOne two isTwo => separate.vaults one (isFile isOne) two (isFile isTwo),
      fun file member => separate.receiver file (isFile member)⟩
    ⟨ready.toMintReady, fun file member => ready.trees file (isFile member),
      fun file member => ready.vaults file (isFile member)⟩ first
  have returned : (processNewDistributor findProgramAddress associatedTokenAddress
      (MerkleDistributor.tryDeserialize env.sha256) args command answers retryAnswers
        listing).2 = .ok () := by
    rcases @processNewDistributor_cases findProgramAddress associatedTokenAddress args command
      answers retryAnswers listing (MerkleDistributor.tryDeserialize env.sha256) with
      ⟨text, failed, -⟩ | ⟨panicked, -⟩ | ⟨-, isOk⟩
    · exact absurd (failed.symm.trans completed) (by simp)
    · exact absurd (panicked.symm.trans completed) (by simp)
    · exact isOk
  exact ⟨returned, sound returned, creates⟩

end Command

section Sample

theorem treeFolder_orders : Orders sampleEnv adminKeyring (fun seeds _ => sampleFind seeds)
    sampleEnv.associatedTokenAddress sampleCliArgs sampleCommand where
  derived _ := rfl
  associated := rfl
  payerSigns := by decide
  baseSigns := by decide
  ordered := by decide
  clawbackAfterEnd := by decide
  activation := ⟨.slot, rfl⟩

theorem treeFolder_ready : ReadyFor (fun seeds _ => sampleFind seeds)
    sampleEnv.associatedTokenAddress sampleCliArgs sampleCommand sampleBank treeFolder where
  isMint := by decide +kernel
  receiver account present := by
    have free : sampleBank (orderedReceiver sampleEnv.associatedTokenAddress sampleCliArgs
        sampleCommand) = none := by decide +kernel
    rw [free] at present
    cases present
  trees file member _ := by
    rw [treeFolder, List.mem_singleton] at member
    subst member
    exact .inr ⟨by decide +kernel, 200, by decide⟩
  vaults file member account present := by
    rw [treeFolder, List.mem_singleton] at member
    subst member
    have isVault : sampleBank (treeVault (fun seeds _ => sampleFind seeds)
        sampleEnv.associatedTokenAddress sampleCliArgs sampleCommand sampleTree) =
          some (.token ⟨sampleMint, sampleKey, 220⟩) := by decide +kernel
    rw [isVault] at present
    cases present
    exact ⟨_, rfl, by decide +kernel⟩

/-- The command comes through for the tree of the small deployment. -/
theorem deployment_completes_sample :
    (processNewDistributor (fun seeds _ => sampleFind seeds) sampleEnv.associatedTokenAddress
        (MerkleDistributor.tryDeserialize sampleEnv.sha256) sampleCliArgs sampleCommand
        (fun _ => treeServed.1) (fun _ => treeServed.1) treeFolder).2 = .ok () ∧
      ∃ stored, treeServed.2 sampleKey = some (.distributor stored) := by
  obtain ⟨returned, deployed, -⟩ := deployment_completes treeFolder_orders (fun _ => by decide)
    treeFolder_owned
    ⟨by decide, fun one isOne two isTwo _ => by
        rw [List.mem_singleton.mp isOne, List.mem_singleton.mp isTwo],
      fun file member => by
        rw [List.mem_singleton.mp member]
        decide +kernel⟩
    treeFolder_ready treeFolder_served
  obtain ⟨stored, present, -⟩ := deployed _ List.mem_cons_self rfl
  exact ⟨returned, stored, present⟩

end Sample

end Airdrop
