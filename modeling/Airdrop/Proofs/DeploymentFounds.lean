/-
Module: Airdrop.Proofs.DeploymentFounds
Purpose: What `process_new_distributor` deploys is a deployed tree in the sense of the program's
  own runs: for each tree that had no distributor there is a run in which a transaction founds
  it, and whatever is done afterwards goes on from there.
Trusted boundary: none
Main exports: creation_of_present, founded_of_inputs, FromCommand, serves_run,
  servesCommand_run, OwnVault, DeployedBy, DeployedBy.founds
-/
import Airdrop.Proofs.CommandRefinement
import Airdrop.Proofs.DeploymentCompletes
import Airdrop.Proofs.Solvency

namespace Airdrop

open Checked Transition Allocation

/-! ## The transaction that founds a distributor -/

section Founding

variable {env : Env} {start bank : Bank} {record : History env} {key : Pubkey}
variable {later earlier : List (Transaction env)} {tx : Transaction env}

/-- A distributor that is there was created. -/
theorem creation_of_present (genesis : Genesis start) (run : Reaches env start record bank)
    {distributor : MerkleDistributor} (present : bank key = some (.distributor distributor)) :
    ∃ tx ∈ (commits record).map Commit.input, tx.instruction.created = some key := by
  by_contra uncreated
  have absent := run.commit_invariant
    (fun done bank => (∀ tx ∈ done.map Commit.input, tx.instruction.created ≠ some key) →
      bank.distributor? key = none) ?_ ?_ fun tx member creates => uncreated ⟨tx, member, creates⟩
  · rw [Bank.distributor?_eq_some.mpr present] at absent
    cases absent
  · intro _
    exact Option.eq_none_iff_forall_ne_some.mpr fun data found =>
      (genesis key).1 data (Bank.distributor?_eq_some.mp found)
  · intro history state input outcome _ sofar accepted none
    rw [List.map_cons, List.forall_mem_cons] at none
    exact (absence_kept accepted none.1 (sofar none.2)).1

/-- The earliest of the inputs that create the distributor. -/
theorem exists_first_creation {inputs : List (Transaction env)}
    (created : ∃ tx ∈ inputs, tx.instruction.created = some key) :
    ∃ later tx earlier, inputs = later ++ tx :: earlier ∧ tx.instruction.created = some key ∧
      ∀ other ∈ earlier, other.instruction.created ≠ some key := by
  obtain ⟨tx, member, creates⟩ := created
  cases isFirst : inputs.reverse.find? (fun tx => tx.instruction.created = some key) with
  | none =>
      have never := List.find?_eq_none.mp isFirst tx (List.mem_reverse.mpr member)
      exact absurd creates (by simpa using never)
  | some first =>
      obtain ⟨isCreation, earlier, later, parts, before⟩ := List.find?_eq_some_iff_append.mp isFirst
      refine ⟨later.reverse, first, earlier.reverse, ?_, by simpa using isCreation, ?_⟩
      · rw [← List.reverse_reverse inputs, parts]
        simp
      · intro other among
        simpa using before other (List.mem_reverse.mp among)

/-- A creation among the inputs of a run founds a distributor, and the run goes on from
there. -/
theorem founded_of_inputs (genesis : Genesis start) (run : Reaches env start record bank)
    (inputs : (commits record).map Commit.input = later ++ tx :: earlier)
    (creates : tx.instruction.created = some key) :
    ∃ founding created earlierRecord laterRecord, founding.input = tx ∧
      Founded env earlierRecord founding key created ∧
      Creation key created tx.instruction ∧
      (commits earlierRecord).map Commit.input = earlier ∧
      (commits laterRecord).map Commit.input = later ∧
      Reaches env start earlierRecord founding.before ∧
      Reaches env founding.outcome.bank laterRecord bank := by
  obtain ⟨front, back, parts, isLater, isBack⟩ := List.map_eq_append_iff.mp inputs
  obtain ⟨founding, rest, rfl, rfl, isEarlier⟩ := List.map_eq_cons_iff.mp isBack
  obtain ⟨laterRecord, earlierRecord, rfl, rfl, reached, accepted, goesOn⟩ :=
    run.split_commits parts
  obtain ⟨created, creation, effect⟩ := creation_of_created accepted creates
  refine ⟨founding, created, earlierRecord, laterRecord, rfl, ?_, creation, isEarlier, isLater,
    reached, goesOn⟩
  exact
    { origin := ⟨start, genesis, reached⟩
      accepted
      creates
      born := Bank.distributor_of_update effect.distributors }

end Founding

/-! ## What the command sends -/

section Sent

variable {env : Env} {findProgramAddress : List Bytes → Pubkey → Pubkey × UInt8}
variable {associatedTokenAddress : Pubkey → Pubkey → Pubkey}
variable {args : CliArgs} {command : NewDistributorCommand}
variable {keyring : Keyring env} {clocks retryClocks : Nat → Clock} {clock : Clock}
variable {answers retryAnswers : TreeFile → Answers}
variable {bank after : Bank} {tree : AirdropMerkleTree} {turn : Nat}
variable {listing paths : List TreeFile}

/-- The part of the creating transaction that is an instruction of the program. -/
theorem parts_of_transaction {found : Answers} {transaction : List CommandInstruction}
    (blockhash : found.latestBlockhash = .ok ())
    (built : newDistributorTransaction findProgramAddress associatedTokenAddress args command
      found tree 0 0 = .ok transaction) :
    ∃ instruction, newDistributorInstruction findProgramAddress associatedTokenAddress args
        command tree 0 0 = .ok instruction ∧
      NodeTransaction.parts ⟨keyring, clock, transaction⟩ =
        [keyring.transaction clock instruction] := by
  obtain ⟨instruction, isInstruction, rfl⟩ := (newDistributorTransaction_eq_ok blockhash).mp built
  refine ⟨instruction, isInstruction, ?_⟩
  have fees : (command.priorityFee.toList.map CommandInstruction.setComputeUnitPrice).filterMap
      (CommandInstruction.part keyring clock) = [] := by
    cases command.priorityFee with
    | none => rfl
    | some price => rfl
  have missing : (missingAccounts found command args (treeAddress findProgramAddress args command
      tree)).filterMap (CommandInstruction.part keyring clock) = [] := by
    rw [missingAccounts]
    rcases found.tokenVault with _ | _ <;> rcases found.clawbackReceiver with _ | _ <;> rfl
  rw [NodeTransaction.parts, List.filterMap_append, List.filterMap_append, fees, missing]
  rfl

variable (findProgramAddress associatedTokenAddress args command) in
/-- The transaction creates the distributor for a wanted tree of the files. -/
def FromCommand (paths : List TreeFile) (tx : Transaction env) : Prop :=
  ∃ file ∈ paths, Wanted command file.tree ∧
    newDistributorInstruction findProgramAddress associatedTokenAddress args command file.tree 0
      0 = .ok tx.instruction

/-- What a turn at the node does is a run. -/
theorem serveCreation_run : ∃ history,
    Run (nodeMachine env) bank history (serveCreation findProgramAddress associatedTokenAddress
      args command keyring clock bank tree).2 ∧
    ∀ tx ∈ partsOf history, tx.clock = clock ∧ newDistributorInstruction findProgramAddress
      associatedTokenAddress args command tree 0 0 = .ok tx.instruction := by
  rw [serveCreation]
  split
  case isTrue => exact ⟨[], .start, fun tx member => absurd member List.not_mem_nil⟩
  case isFalse =>
    split
    case h_1 => exact ⟨[], .start, fun tx member => absurd member List.not_mem_nil⟩
    case h_2 transaction built =>
      split
      case h_2 => exact ⟨[], .start, fun tx member => absurd member List.not_mem_nil⟩
      case h_1 after executed =>
        have accepted : (nodeMachine env).step bank ⟨keyring, clock, transaction⟩ = .ok after :=
          executed
        obtain ⟨instruction, isInstruction, parts⟩ :=
          @parts_of_transaction env _ _ _ _ keyring clock _ _ _ rfl built
        refine ⟨_, Run.start.commit accepted, fun tx member => ?_⟩
        rw [partsOf, commits_of_ok accepted] at member
        simp only [commits_nil, List.flatMap_cons, List.flatMap_nil, List.append_nil, parts,
          List.reverse_singleton, List.mem_singleton] at member
        subst member
        exact ⟨rfl, isInstruction⟩

/-- So is what the loop does. -/
theorem serves_run
    (served : Serves findProgramAddress associatedTokenAddress args command keyring clocks answers
      turn bank paths after) :
    ∃ history, Run (nodeMachine env) bank history after ∧
      ∀ tx ∈ partsOf history, (∃ n, tx.clock = clocks n) ∧
        FromCommand findProgramAddress associatedTokenAddress args command paths tx := by
  induction paths generalizing bank turn with
  | nil =>
      obtain rfl : after = bank := served
      exact ⟨[], .start, fun tx member => absurd member List.not_mem_nil⟩
  | cons file paths inductionHypothesis =>
      have wider {tx : Transaction env}
          (sent : FromCommand findProgramAddress associatedTokenAddress args command paths tx) :
          FromCommand findProgramAddress associatedTokenAddress args command (file :: paths)
            tx := by
        obtain ⟨other, member, wanted, built⟩ := sent
        exact ⟨other, List.mem_cons_of_mem _ member, wanted, built⟩
      by_cases wanted : Wanted command file.tree
      · obtain ⟨-, goes⟩ := (serves_wanted wanted).mp served
        obtain ⟨first, reached, sent⟩ := @serveCreation_run env findProgramAddress
          associatedTokenAddress args command keyring (clocks turn) bank file.tree
        have sentFirst : ∀ tx ∈ partsOf first, (∃ n, tx.clock = clocks n) ∧
            FromCommand findProgramAddress associatedTokenAddress args command (file :: paths)
              tx := by
          intro tx member
          obtain ⟨isClock, built⟩ := sent tx member
          exact ⟨⟨turn, isClock⟩, file, List.mem_cons_self, wanted, built⟩
        split at goes
        case isTrue =>
          obtain ⟨later, goesOn, sentLater⟩ := inductionHypothesis goes
          refine ⟨later ++ first, reached.trans goesOn, fun tx member => ?_⟩
          rw [partsOf, commits_append, List.flatMap_append, List.mem_append] at member
          rcases member with isLater | isFirst
          · exact ⟨(sentLater tx isLater).1, wider (sentLater tx isLater).2⟩
          · exact sentFirst tx isFirst
        case isFalse =>
          subst goes
          exact ⟨first, reached, sentFirst⟩
      · obtain ⟨later, goesOn, sentLater⟩ := inductionHypothesis ((serves_unwanted wanted).mp served)
        exact ⟨later, goesOn, fun tx member =>
          ⟨(sentLater tx member).1, wider (sentLater tx member).2⟩⟩

/-- So is what the command does, in one attempt or in two. -/
theorem servesCommand_run
    (served : ServesCommand findProgramAddress associatedTokenAddress args command keyring clocks
      retryClocks answers retryAnswers bank listing after) :
    ∃ history, Run (nodeMachine env) bank history after ∧
      ∀ tx ∈ partsOf history, (∃ n, tx.clock = clocks n ∨ tx.clock = retryClocks n) ∧
        FromCommand findProgramAddress associatedTokenAddress args command listing tx := by
  have inListing {tx : Transaction env} (sent : FromCommand findProgramAddress
      associatedTokenAddress args command (sortByPath listing) tx) :
      FromCommand findProgramAddress associatedTokenAddress args command listing tx := by
    obtain ⟨file, member, wanted, built⟩ := sent
    exact ⟨file, (sortByPath_perm listing).mem_iff.mp member, wanted, built⟩
  obtain ⟨middle, first, second⟩ := served
  obtain ⟨history, reached, sent⟩ := serves_run first
  split at second
  case h_1 =>
    obtain ⟨later, goesOn, sentLater⟩ := serves_run second
    refine ⟨later ++ history, reached.trans goesOn, fun tx member => ?_⟩
    rw [partsOf, commits_append, List.flatMap_append, List.mem_append] at member
    rcases member with isLater | isEarlier
    · obtain ⟨⟨n, isClock⟩, from'⟩ := sentLater tx isLater
      exact ⟨⟨n, .inr isClock⟩, inListing from'⟩
    · obtain ⟨⟨n, isClock⟩, from'⟩ := sent tx isEarlier
      exact ⟨⟨n, .inl isClock⟩, inListing from'⟩
  case h_2 =>
    subst second
    refine ⟨history, reached, fun tx member => ?_⟩
    obtain ⟨⟨n, isClock⟩, from'⟩ := sent tx member
    exact ⟨⟨n, .inl isClock⟩, inListing from'⟩

end Sent

/-! ## The deployment -/

section Deployment

variable {env : Env} {findProgramAddress : List Bytes → Pubkey → Pubkey × UInt8}
variable {associatedTokenAddress : Pubkey → Pubkey → Pubkey}
variable {args : CliArgs} {command : NewDistributorCommand}
variable {keyring : Keyring env} {clocks retryClocks : Nat → Clock}
variable {answers retryAnswers : TreeFile → Answers}
variable {start bank after final : Bank} {earlier later : NodeHistory env}
variable {listing : List TreeFile} {file : TreeFile} {tx : Transaction env}

/-- The instruction of the command creates at the address for the tree, and deploys the
tree where its claim statuses cannot be closed. -/
theorem newDistributorInstruction_deploys {tree : AirdropMerkleTree} {instruction : Instruction}
    (built : newDistributorInstruction findProgramAddress associatedTokenAddress args command tree
      0 0 = .ok instruction) :
    instruction.created = some (treeAddress findProgramAddress args command tree) ∧
      (command.closable = false → instruction.Deploys tree) := by
  obtain ⟨claim, isClaim, rfl⟩ := newDistributorInstruction_eq_ok.mp built
  refine ⟨rfl, fun fixed => .plain ⟨rfl, ?_, rfl, fixed⟩⟩
  rw [AirdropMerkleTree.getMaxTotalClaim, unwrap_eq_ok, checkedAdd_eq_some] at isClaim
  exact isClaim

/-- What the instruction of the command creates is intended. -/
theorem intended_of_creation {tree : AirdropMerkleTree} {instruction : Instruction}
    {key : Pubkey} {created : MerkleDistributor}
    (built : newDistributorInstruction findProgramAddress associatedTokenAddress args command tree
      0 0 = .ok instruction) (creation : Creation key created instruction) :
    Intended findProgramAddress associatedTokenAddress args command tree created ∧
      created.mint = args.mint ∧ created.tokenVault =
        treeVault findProgramAddress associatedTokenAddress args command tree := by
  obtain ⟨claim, isClaim, rfl⟩ := newDistributorInstruction_eq_ok.mp built
  cases creation with
  | @plain _ _ bump here written =>
      subst written
      refine ⟨⟨_, _, bump, built, ?_⟩, rfl, rfl⟩
      constructor <;> rfl

/-- The address of the vault is associated with no other mint, and what is there is of the
mint. -/
structure OwnVault (env : Env) (start : Bank) (mint vault : Pubkey) : Prop where
  associated : ∀ owner other, env.associatedTokenAddress owner other = vault → other = mint
  held : ∀ token, start vault = some (.token token) → token.mint = mint

/-- A vault is of the mint that it is associated with, in every run from accounts to which
associated ones were added. -/
theorem OwnVault.holder {mint vault : Pubkey} (own : OwnVault env start mint vault)
    {prepared bank : Bank} {record : History env}
    (extended : ∀ key, prepared key = start key ∨
      start key = none ∧ ∃ account, prepared key = some account ∧
        AssociatedAccount env key account)
    (run : Reaches env prepared record bank) {token : TokenAccount}
    (present : bank vault = some (.token token)) : bank.Holder mint vault := by
  refine ⟨token, present, ?_⟩
  have holds : bank.Holder token.mint vault := ⟨token, present, rfl⟩
  obtain ⟨account, isAccount, ofMint⟩ := run.state_invariant
    (fun bank : Bank => bank.Holder token.mint vault → prepared.Holder token.mint vault) id
    (fun earlier accepted holds => earlier ((tokensMoved accepted).holder_iff.mp holds)) holds
  rw [← ofMint]
  rcases extended vault with kept | ⟨_, other, isOther, owner, otherMint, isVault, rfl⟩
  · exact own.held account (kept ▸ isAccount)
  · rw [isOther, Option.some.injEq, Account.token.injEq] at isAccount
    subst isAccount
    exact own.associated owner otherMint isVault.symm

variable (env findProgramAddress associatedTokenAddress args command start bank after earlier
  listing file) in
/-- After any run of transactions from accounts before the program was ever used, the command
has deployed the tree of a file at an address that was never used.  The addresses of its folder
are distinct, and the clock is not negative. -/
structure DeployedBy (treeNodes : List TreeNode) : Prop where
  genesis : Genesis start
  before : Run (nodeMachine env) start earlier bank
  served : ∃ (keyring : Keyring env) (clocks retryClocks : Nat → Clock)
    (answers retryAnswers : TreeFile → Answers),
    ServesCommand findProgramAddress associatedTokenAddress args command keyring clocks
        retryClocks answers retryAnswers bank listing after ∧
      ∀ n, 0 ≤ (clocks n).unixTimestamp.toInt ∧ 0 ≤ (retryClocks n).unixTimestamp.toInt
  separate : (listing.map fun file => treeAddress findProgramAddress args command
    file.tree).Nodup
  member : file ∈ listing
  fresh : ∀ tx ∈ partsOf earlier, tx.instruction.created ≠
    some (treeAddress findProgramAddress args command file.tree)
  deployed : ∃ distributor, after (treeAddress findProgramAddress args command file.tree) =
    some (.distributor distributor)
  fixed : command.closable = false
  built : ∃ airdropVersion, AirdropMerkleTree.new env.sha256 treeNodes airdropVersion =
    .ok file.tree
  vault : OwnVault env start args.mint
    (treeVault findProgramAddress associatedTokenAddress args command file.tree)

/-- From the deployment on, every tree that had no distributor, and that the command has
deployed, is a deployed tree of the program: whatever is done before and afterwards in
transactions of several instructions, there is a run of the program that founds its
distributor as intended, goes on to the same accounts, and accepts nothing but what was accepted
before and afterwards and the creations for trees of the folder. -/
theorem DeployedBy.founds {treeNodes : List TreeNode} (apart : AssociatedApart env)
    (deployment : DeployedBy env findProgramAddress associatedTokenAddress args command start bank
      after earlier listing file treeNodes)
    (afterwards : Run (nodeMachine env) after later final) :
    ∃ record founding created rest others,
      TreeDeployment env record founding (treeAddress findProgramAddress args command file.tree)
        created treeNodes file.tree ∧
      Intended findProgramAddress associatedTokenAddress args command file.tree created ∧
      created.mint = args.mint ∧
      created.tokenVault =
        treeVault findProgramAddress associatedTokenAddress args command file.tree ∧
      Reaches env founding.outcome.bank rest final ∧
      (commits rest).map Commit.input = partsOf later ++ others ∧
      (∀ tx ∈ others, FromCommand findProgramAddress associatedTokenAddress args command listing
        tx) ∧
      ∀ commit ∈ founding :: commits record, commit.input ∈ partsOf earlier ∨
        FromCommand findProgramAddress associatedTokenAddress args command listing
          commit.input := by
  obtain ⟨genesis, before, ⟨keyring, clocks, retryClocks, answers, retryAnswers, served, clock⟩,
    separate, member, fresh, ⟨distributor, present⟩, fixed, ⟨airdropVersion, built⟩, vault⟩ :=
      deployment
  obtain ⟨sent, reached, isSent⟩ := servesCommand_run served
  -- the run up to the deployment has a creation, which the command has sent
  obtain ⟨prepared, record, isGenesis, run, inputs, -⟩ :=
    nodeRun_refines apart genesis (before.trans reached)
  obtain ⟨front, tx, back, parts, creates, first⟩ :=
    exists_first_creation (creation_of_present isGenesis run present)
  have together (one two : NodeHistory env) : partsOf (one ++ two) = partsOf one ++ partsOf two := by
    rw [partsOf, commits_append, List.flatMap_append, partsOf, partsOf]
  have notEarlier : tx ∉ partsOf earlier := fun among => fresh tx among creates
  obtain ⟨middle, sentParts, rest⟩ :
      ∃ middle, partsOf sent = front ++ tx :: middle ∧ back = middle ++ partsOf earlier := by
    rw [inputs, together] at parts
    rcases List.append_eq_append_iff.mp parts with ⟨extra, -, isEarlier⟩ | ⟨extra, isSent, isBack⟩
    · rw [isEarlier] at notEarlier
      exact absurd (List.mem_append_right _ List.mem_cons_self) notEarlier
    · cases extra with
      | nil =>
          rw [List.nil_append] at isBack
          rw [← isBack] at notEarlier
          exact absurd List.mem_cons_self notEarlier
      | cons head middle =>
          obtain ⟨rfl, rfl⟩ := List.cons.inj isBack
          exact ⟨middle, isSent, rfl⟩
  obtain ⟨⟨n, isClock⟩, other, isOther, wanted, instruction⟩ :=
    isSent tx (sentParts ▸ List.mem_append_right _ List.mem_cons_self)
  obtain ⟨address, deploys⟩ := newDistributorInstruction_deploys instruction
  obtain rfl : other = file :=
    List.inj_on_of_nodup_map separate isOther member
      (Option.some.inj (address.symm.trans creates))
  -- the run that goes on to the end has the same one
  obtain ⟨prepared, record, isGenesis, run, inputs, extended⟩ :=
    nodeRun_refines apart genesis ((before.trans reached).trans afterwards)
  rw [together, together, sentParts, List.append_assoc, List.cons_append, ← rest,
    ← List.append_assoc] at inputs
  obtain ⟨founding, created, earlierRecord, laterRecord, isFounding, founded, creation,
    isEarlier, isLater, cameBy, goesOn⟩ := founded_of_inputs isGenesis run inputs creates
  obtain ⟨intended, ofMint, isVault⟩ := intended_of_creation instruction creation
  have vaultMint : founding.outcome.bank.Holder created.mint created.tokenVault := by
    obtain ⟨token, isToken, -⟩ := founded.creation.2.vault
    obtain ⟨balance, kept, -⟩ := (tokensMoved founded.accepted).kept isToken
    rw [isVault] at kept
    rw [ofMint, isVault]
    exact vault.holder extended (cameBy.commit founded.accepted) kept
  have bySent {other : Transaction env} (among : other ∈ partsOf sent) :
      FromCommand findProgramAddress associatedTokenAddress args command listing other :=
    (isSent other among).2
  have sentOrBefore : ∀ commit ∈ founding :: commits earlierRecord,
      commit.input ∈ partsOf earlier ∨
        FromCommand findProgramAddress associatedTokenAddress args command listing commit.input := by
    intro commit among
    rcases List.mem_cons.mp among with rfl | isBefore
    · rw [isFounding]
      exact .inr (bySent (sentParts ▸ List.mem_append_right _ List.mem_cons_self))
    · have isInput := List.mem_map_of_mem (f := Commit.input) isBefore
      rw [isEarlier, rest, List.mem_append] at isInput
      rcases isInput with sentBefore | wasBefore
      · exact .inr (bySent (sentParts ▸
          List.mem_append_right _ (List.mem_cons_of_mem _ sentBefore)))
      · exact .inl wasBefore
  refine ⟨earlierRecord, founding, created, laterRecord, front, ?_, intended, ofMint, isVault,
    goesOn, isLater, fun tx among => bySent (sentParts ▸ List.mem_append_left _ among),
    sentOrBefore⟩
  exact
    { toFounded := founded
      fresh := by
        intro commit among
        refine first commit.input ?_
        rw [← isEarlier]
        exact List.mem_map_of_mem among
      built := ⟨airdropVersion, built⟩
      deploys := isFounding ▸ deploys fixed
      clock := by
        rw [isFounding]
        rcases isClock with isClock | isClock
        · rw [isClock]
          exact (clock n).1
        · rw [isClock]
          exact (clock n).2
      vaultMint }

end Deployment

end Airdrop
