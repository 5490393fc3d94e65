/-
Module: Airdrop.Proofs.WholeAirdrop
Purpose: The commands from the deployment to the payment: after `process_new_distributor` has
  deployed the trees of a folder and `process_fund_all` has funded them, whatever else was done
  before, between and after, `process_claim` pays each claimant what the tree says.
Trusted boundary: none
Main exports: SupplyFits.allocated, SupplyFits.back, Intended.noBonus, FromCommand.uses,
  NoCoincidence, season_opens, airdrop_pays
-/
import Airdrop.Proofs.ClaimCommand
import Airdrop.Proofs.DeploymentFounds
import Airdrop.Proofs.FundedSeason

namespace Airdrop

open Checked Transition Interference Allocation

/-! ## The supply, forth and back -/

section Supply

variable {env : Env} {mint : Pubkey} {start bank : Bank} {history : History env}
variable {inputs : List (Transaction env)}

/-- An empty account more changes nothing. -/
theorem SupplyFits.allocate (fits : SupplyFits mint bank) {key : Pubkey} {account : Account}
    (free : bank key = none) (empty : AssociatedAccount env key account) :
    SupplyFits mint (bank.set key account) := by
  obtain ⟨owner, other, -, rfl⟩ := empty
  obtain ⟨holders, isHolder, total⟩ := fits
  have absent : key ∉ holders := by
    rw [isHolder]
    rintro ⟨account, present, -⟩
    rw [free] at present
    cases present
  have same : ∑ holder ∈ holders,
      (bank.set key (.token { mint := other, owner, amount := 0 })).balance holder =
        ∑ holder ∈ holders, bank.balance holder := by
    refine Finset.sum_congr rfl fun holder member => ?_
    have elsewhere : holder ≠ key := fun here => absent (here ▸ member)
    simp only [Bank.balance, Bank.token?, Bank.set, Function.update_of_ne elsewhere]
  have isHolderElsewhere {holder : Pubkey} (elsewhere : holder ≠ key) : holder ∈ holders ↔
      (bank.set key (.token { mint := other, owner, amount := 0 })).Holder mint holder := by
    rw [isHolder, Bank.Holder, Bank.Holder, Bank.set, Function.update_of_ne elsewhere]
  have isHolderHere :
      (bank.set key (.token { mint := other, owner, amount := 0 })).Holder mint key ↔
        other = mint := by
    simp [Bank.Holder, Bank.set]
  by_cases isMint : other = mint
  · refine ⟨insert key holders, fun holder => ?_, ?_⟩
    · by_cases here : holder = key
      · rw [here, isHolderHere]
        exact iff_of_true (Finset.mem_insert_self _ _) isMint
      · rw [← isHolderElsewhere here, Finset.mem_insert, or_iff_right here]
    · rw [Finset.sum_insert absent, same]
      simpa [Bank.balance, Bank.token?, Bank.set] using total
  · refine ⟨holders, fun holder => ?_, same ▸ total⟩
    by_cases here : holder = key
    · rw [here, isHolderHere]
      exact iff_of_false absent isMint
    · exact isHolderElsewhere here

/-- So the supply fits in every state that transactions of several instructions reach. -/
theorem SupplyFits.allocated (fits : SupplyFits mint start)
    (run : AllocatingRun (machine env) (AssociatedAccount env) start inputs bank) :
    SupplyFits mint bank := by
  induction run with
  | start => exact fits
  | step earlier accepted inductionHypothesis =>
      exact inductionHypothesis.step (tokensMoved accepted)
  | allocate earlier free allowed inductionHypothesis =>
      exact inductionHypothesis.allocate free allowed

/-- The supply of a mint that fits after some transfers has fitted before. -/
theorem SupplyFits.before {before after : Bank} {transfers : List Transfer}
    (fits : SupplyFits mint after) (moved : TokensMoved before after transfers) :
    SupplyFits mint before := by
  obtain ⟨holders, isHolder, total⟩ := fits
  have isHolderBefore (key : Pubkey) : key ∈ holders ↔ before.Holder mint key :=
    (isHolder key).trans moved.holder_iff
  refine ⟨holders, isHolderBefore, ?_⟩
  have flows : ∑ key ∈ holders, inflow key transfers =
      ∑ key ∈ holders, outflow key transfers := by
    apply sum_inflow_eq_sum_outflow
    intro transfer member
    rw [isHolderBefore, isHolderBefore]
    exact moved.between member
  have balances : ∑ key ∈ holders, (after.balance key + outflow key transfers) =
      ∑ key ∈ holders, (before.balance key + inflow key transfers) := by
    apply Finset.sum_congr rfl
    intro key member
    obtain ⟨account, present, _⟩ := (isHolderBefore key).mp member
    exact moved.balance present
  rw [Finset.sum_add_distrib, Finset.sum_add_distrib] at balances
  omega

/-- The supply of a mint that fits has fitted in the whole run. -/
theorem SupplyFits.back (fits : SupplyFits mint bank) (run : Reaches env start history bank) :
    SupplyFits mint start := by
  refine Run.state_invariant (fun bank => SupplyFits mint bank → SupplyFits mint start) id ?_ run
    fits
  intro bank tx receipt earlier accepted after
  exact earlier (after.before (tokensMoved accepted))

end Supply

/-! ## From the deployment to the payment -/

section Airdrop

variable {env : Env} {findProgramAddress : List Bytes → Pubkey → Pubkey × UInt8}
variable {associatedTokenAddress : Pubkey → Pubkey → Pubkey}
variable {args : CliArgs} {command : NewDistributorCommand} {tree : AirdropMerkleTree}
variable {created current : MerkleDistributor}

/-- The command grants no bonus. -/
theorem Intended.noBonus
    (intended : Intended findProgramAddress associatedTokenAddress args command tree created) :
    created.airdropBonus.totalBonus = 0 ∧ created.airdropBonus.vestingDuration = 0 := by
  obtain ⟨accounts, data, bump, -, agrees⟩ := intended
  exact ⟨agrees.totalBonus, agrees.vestingDuration⟩

theorem bonusShare_of_noBonus (none : created.airdropBonus.totalBonus = 0) (amount : Nat) :
    created.bonusShare amount = 0 := by
  rw [MerkleDistributor.bonusShare, none]
  simp [Schedule.share]

variable {start bank after final : Bank} {earlier later : NodeHistory env}
variable {listing : List TreeFile} {file : TreeFile} {treeNodes : List TreeNode}
variable {wallet : WalletArgs} {record : FundFolderHistory env}
variable {configuration : FundConfiguration}

/-- The byte strings that are hashed when the proof of a new claim is checked. -/
def Instruction.hashed (sha256 : Bytes → Hash) : Instruction → List Bytes
  | .newClaim accounts amountUnlocked amountLocked proof =>
      claimInputs sha256 accounts.claimant amountUnlocked amountLocked proof
  | _ => []

theorem committedInputs_eq (done : Commits env) :
    committedInputs done = done.flatMap fun commit => commit.input.instruction.hashed env.sha256 := by
  refine List.flatMap_congr fun commit _ => ?_
  cases commit.input.instruction <;> rfl

/-- The command creates at the addresses of its folder, and proves nothing. -/
theorem FromCommand.uses {tx : Transaction env}
    (sent : FromCommand findProgramAddress associatedTokenAddress args command listing tx) :
    tx.instruction.hashed env.sha256 = [] ∧
      ∃ file ∈ listing, tx.instruction.seeds =
        [distributorSeeds command.base args.mint file.tree.airdropVersion] := by
  obtain ⟨file, member, -, built⟩ := sent
  obtain ⟨claim, -, isNew⟩ := newDistributorInstruction_eq_ok.mp built
  rw [isNew]
  exact ⟨rfl, file, member, rfl⟩

variable (env findProgramAddress args command earlier later listing file record) in
/-- Everything that is hashed for the tree and by the transactions after its deployment has
another digest, and the program derives other addresses from other seeds. -/
structure NoCoincidence : Prop where
  noCollision : NoCollision env.sha256 (builderInputs env.sha256 file.tree.treeNodes ++
    (partsOf later ++ othersIn record).flatMap fun tx => tx.instruction.hashed env.sha256)
  distinct : env.DistinctAddresses
    ((file.tree.treeNodes.map fun node => claimStatusSeeds node.claimant
        (treeAddress findProgramAddress args command file.tree)) ++
      ((listing.map fun file => distributorSeeds command.base args.mint
          file.tree.airdropVersion) ++
        (partsOf earlier ++ partsOf later ++ othersIn record).flatMap fun tx =>
          tx.instruction.seeds))

/-- Once the folder was deployed and funded, with anything else done before, between and
meanwhile, there is an open season for each of its trees that was not clawed back: a run from
its deployment to the present in which its vault was funded. -/
theorem season_opens (apart : AssociatedApart env) (base : args.base = command.base)
    (deployment : DeployedBy env findProgramAddress associatedTokenAddress args command start bank
      after earlier listing file treeNodes)
    (afterwards : Run (nodeMachine env) after later final)
    (funding : Run (fundFolderSystem env findProgramAddress associatedTokenAddress args wallet
      listing).machine (fundingStarts final) record configuration)
    (returned : .done (.ok ()) ∈ configuration.programs)
    (ordinary : ∀ seeds, env.createProgramAddress seeds ≠ some wallet.keypair)
    (noCoincidence : NoCoincidence env findProgramAddress args command earlier later listing file
      record)
    (positive : 0 < file.tree.totalUnlockedAmount.toNat + file.tree.totalLockedAmount.toNat)
    (supply : SupplyFits args.mint start)
    (notClawedBack : ∀ current, configuration.world.bank (treeAddress findProgramAddress args
      command file.tree) = some (.distributor current) → current.clawedBack = false) :
    ∃ before founding created history,
      OpenSeason env before founding (treeAddress findProgramAddress args command file.tree)
        created treeNodes file.tree history configuration.world.bank ∧
      Intended findProgramAddress associatedTokenAddress args command file.tree created ∧
      created.mint = args.mint := by
  obtain ⟨before, founding, created, rest, creations, isDeployed, intended, ofMint, isVault,
    reached, inputs, sent, sentBefore⟩ := deployment.founds apart afterwards
  have isKey : fileAddress findProgramAddress args file =
      treeAddress findProgramAddress args command file.tree := by
    rw [fileAddress, versionAddress, treeAddress, base]
  obtain ⟨history, run, madeOf, funded⟩ := funding_received isDeployed isVault.symm reached
    funding ordinary deployment.member isKey returned
  rw [inputs] at madeOf
  obtain ⟨_, _, _, _, _, served, -⟩ := deployment.served
  obtain ⟨sentTransactions, deployed, -⟩ := servesCommand_run served
  have present := supply.allocated
    (nodeRun_allocates ((deployment.before.trans deployed).trans afterwards))
  -- what the run has hashed and derived is known
  have origin (commit : Commit Bank (Transaction env) Receipt) (among : commit ∈ commits history) :
      commit.input ∈ partsOf later ++ othersIn record ∨
        FromCommand findProgramAddress associatedTokenAddress args command listing commit.input ∨
        ∃ source destination authority amount,
          commit.input.instruction = .transfer source destination authority amount := by
    rcases madeOf commit among with isKnown | transfer
    · rcases List.mem_append.mp isKnown with byNode | byOthers
      · rcases List.mem_append.mp byNode with afterwards | creation
        · exact .inl (List.mem_append_left _ afterwards)
        · exact .inr (.inl (sent _ creation))
      · exact .inl (List.mem_append_right _ byOthers)
    · exact .inr (.inr transfer)
  have hashes : committedInputs (commits history) ⊆
      (partsOf later ++ othersIn record).flatMap fun tx => tx.instruction.hashed env.sha256 := by
    intro input hashed
    rw [committedInputs_eq, List.mem_flatMap] at hashed
    obtain ⟨commit, among, isHashed⟩ := hashed
    rcases origin commit among with isKnown | creation | ⟨_, _, _, _, transfer⟩
    · exact List.mem_flatMap.mpr ⟨_, isKnown, isHashed⟩
    · rw [creation.uses.1] at isHashed
      exact absurd isHashed List.not_mem_nil
    · rw [transfer] at isHashed
      exact absurd isHashed List.not_mem_nil
  have seeds : usedSeeds (commits history ++ founding :: commits before) ⊆
      (listing.map fun file => distributorSeeds command.base args.mint
          file.tree.airdropVersion) ++
        (partsOf earlier ++ partsOf later ++ othersIn record).flatMap fun tx =>
          tx.instruction.seeds := by
    intro used isUsed
    obtain ⟨commit, among, isSeed⟩ := List.mem_flatMap.mp isUsed
    have ofCommand (creation : FromCommand findProgramAddress associatedTokenAddress args command
        listing commit.input) : used ∈ listing.map fun file => distributorSeeds command.base
          args.mint file.tree.airdropVersion := by
      obtain ⟨-, file, member, isSeeds⟩ := creation.uses
      rw [isSeeds, List.mem_singleton] at isSeed
      exact List.mem_map.mpr ⟨file, member, isSeed.symm⟩
    have ofKnown (isKnown : commit.input ∈ partsOf earlier ++ partsOf later ++ othersIn record) :
        used ∈ (partsOf earlier ++ partsOf later ++ othersIn record).flatMap fun tx =>
          tx.instruction.seeds :=
      List.mem_flatMap.mpr ⟨_, isKnown, isSeed⟩
    rcases List.mem_append.mp among with isLater | isBefore
    · rcases origin commit isLater with isKnown | creation | ⟨_, _, _, _, transfer⟩
      · refine List.mem_append_right _ (ofKnown ?_)
        rw [List.append_assoc]
        exact List.mem_append_right _ isKnown
      · exact List.mem_append_left _ (ofCommand creation)
      · rw [transfer] at isSeed
        exact absurd isSeed List.not_mem_nil
    · rcases sentBefore commit isBefore with isKnown | creation
      · exact List.mem_append_right _
          (ofKnown (List.mem_append_left _ (List.mem_append_left _ isKnown)))
      · exact List.mem_append_left _ (ofCommand creation)
  refine ⟨before, founding, created, history, ?_, intended, ofMint⟩
  exact
    { isDeployed with
      run
      noCollision := noCoincidence.noCollision.mono (List.append_subset.mpr
        ⟨List.subset_append_left _ _, List.subset_append_of_subset_right _ hashes⟩)
      distinct := noCoincidence.distinct.mono (List.append_subset.mpr
        ⟨List.subset_append_left _ _, List.subset_append_of_subset_right _ seeds⟩)
      positive
      supply := ofMint ▸ present.back reached
      funded
      standing := by
        obtain ⟨current, found, same⟩ := (isDeployed.lifetime run).current
        refine ⟨current, found, notClawedBack current found, ?_⟩
        have vesting : current.airdropBonus.vestingDuration = 0 := by
          rw [same]
          exact intended.noBonus.2
        rw [vesting]
        have bounded := current.activationPoint.isLt
        simpa using bounded }

end Airdrop

section Sample

/-- The runtime, where everybody has an associated account of the mint. -/
def marketEnv : Env :=
  .ofFind sampleSha256 sampleFind fun wallet mint =>
    if mint = sampleMint ∧ wallet = sampleKey then sampleVault
    else if mint = sampleMint ∧ wallet = alice then aliceToken
    else if mint = sampleMint ∧ wallet = sampleAdmin then adminToken
    else .replicate 254

theorem marketEnv_apart : AssociatedApart marketEnv := by
  intro owner mint seeds
  change (sampleFind seeds).1 ≠ if mint = sampleMint ∧ owner = sampleKey then sampleVault
    else if mint = sampleMint ∧ owner = alice then aliceToken
    else if mint = sampleMint ∧ owner = sampleAdmin then adminToken
    else .replicate 254
  unfold sampleFind
  split_ifs <;> decide +kernel

/-- The admin holds all tokens, and Alice has an account for them. -/
def marketBank : Bank :=
  let empty : Bank := fun _ => none
  let bank := empty.set sampleMint .mint
  let bank := bank.set aliceToken (.token ⟨sampleMint, alice, 0⟩)
  bank.set adminToken (.token ⟨sampleMint, sampleAdmin, 1000⟩)

theorem marketBank_genesis : Genesis marketBank := by
  intro key
  simp only [marketBank, Bank.set, Function.update_apply]
  constructor
  · intro data
    split_ifs <;> simp
  · intro data
    split_ifs <;> simp

theorem marketBank_supply : SupplyFits sampleMint marketBank := by
  refine ⟨{aliceToken, adminToken}, ?_, by decide +kernel⟩
  intro key
  simp only [Finset.mem_insert, Finset.mem_singleton]
  constructor
  · rintro (rfl | rfl)
    · exact ⟨⟨sampleMint, alice, 0⟩, by decide +kernel, rfl⟩
    · exact ⟨⟨sampleMint, sampleAdmin, 1000⟩, by decide +kernel, rfl⟩
  · rintro ⟨account, present, _⟩
    simp only [marketBank, Bank.set, Function.update_apply] at present
    split_ifs at present with isAdmin isAlice isMint
    all_goals simp_all

/-- The admin's keys. -/
def marketKeyring : Keyring marketEnv where
  keys := (adminClosesBob 58).signers
  no_derived_signer := (adminClosesBob 58).no_derived_signer

/-- The turn of `process_new_distributor` for the tree. -/
def marketServed : Answers × Bank :=
  serveCreation (fun seeds _ => sampleFind seeds) marketEnv.associatedTokenAddress sampleCliArgs
    sampleCommand marketKeyring ⟨0, 20⟩ marketBank sampleTree

theorem market_served : ServesCommand (fun seeds _ => sampleFind seeds)
    marketEnv.associatedTokenAddress sampleCliArgs sampleCommand marketKeyring (fun _ => ⟨0, 20⟩)
    (fun _ => ⟨0, 20⟩) (fun _ => marketServed.1) (fun _ => marketServed.1) marketBank treeFolder
    marketServed.2 := by
  have returned : (createNewDistributor (fun seeds _ => sampleFind seeds)
      marketEnv.associatedTokenAddress (MerkleDistributor.tryDeserialize marketEnv.sha256)
      sampleCliArgs sampleCommand (fun _ => marketServed.1) 0 0 treeFolder).2 = .ok () := by
    decide +kernel
  have wanted : Wanted sampleCommand (TreeFile.mk "tree_0.json" sampleTree).tree := rfl
  refine ⟨marketServed.2, (serves_wanted wanted).mpr ⟨rfl, ?_⟩, ?_⟩
  · split
    · rfl
    · rfl
  · rw [returned]

theorem marketVault_own : OwnVault marketEnv marketBank sampleMint sampleVault where
  associated owner other isVault := by
    change (if other = sampleMint ∧ owner = sampleKey then sampleVault
      else if other = sampleMint ∧ owner = alice then aliceToken
      else if other = sampleMint ∧ owner = sampleAdmin then adminToken
      else .replicate 254) = sampleVault at isVault
    split_ifs at isVault with ofKey ofAlice ofAdmin
    · exact ofKey.1
    · exact ofAlice.1
    · exact ofAdmin.1
    · exact absurd isVault (by decide +kernel)
  held token present := by
    have free : marketBank sampleVault = none := by decide +kernel
    rw [free] at present
    cases present

theorem market_deployed : DeployedBy marketEnv (fun seeds _ => sampleFind seeds)
    marketEnv.associatedTokenAddress sampleCliArgs sampleCommand marketBank marketBank
    marketServed.2 [] treeFolder ⟨"tree_0.json", sampleTree⟩ sampleNodes where
  genesis := marketBank_genesis
  before := .start
  served := ⟨marketKeyring, _, _, _, _, market_served, fun _ => by decide⟩
  separate := by decide
  member := List.mem_cons_self
  fresh := by simp [partsOf]
  deployed := by
    have present : (marketServed.2.distributor? sampleKey).isSome = true := by decide +kernel
    obtain ⟨distributor, isDistributor⟩ := Option.isSome_iff_exists.mp present
    exact ⟨distributor, Bank.distributor?_eq_some.mp isDistributor⟩
  fixed := rfl
  built := ⟨0, sampleTree_built⟩
  vault := marketVault_own

/-- The transaction that funds the vault. -/
def marketFundTransaction : FundTransaction :=
  { sampleFundTransaction (.replicate 1) with source := adminToken }

/-- The admin funds the folder. -/
def marketFunding : List (Input FundReply (FundEvent marketEnv) Unit) :=
  [.start (), .call 0 .found, .call 0 .found, .call 0 (.blockhash (.replicate 1)),
   .call 0 .found, .event (.execute marketFundTransaction), .call 0 .found]

/-- The record and the configuration that these steps end in. -/
def marketFunded : FundFolderHistory marketEnv × FundConfiguration :=
  (fundFolderSystem marketEnv (fun seeds _ => sampleFind seeds) marketEnv.associatedTokenAddress
    sampleCliArgs sampleFunding.wallet treeFolder).machine.play (fundingStarts marketServed.2)
      marketFunding

theorem marketFunded_returned : .done (.ok ()) ∈ marketFunded.2.programs := by
  have isReturned : some (Except.ok ()) ∈ marketFunded.2.programs.map Program.result? := by
    decide +kernel
  rcases List.mem_map.mp isReturned with ⟨program, member, isDone⟩
  rwa [Program.result?_eq_some.mp isDone] at member

/-- Alice's key. -/
def marketAlice : Keyring marketEnv where
  keys := (aliceClaims 58).signers
  no_derived_signer := (aliceClaims 58).no_derived_signer

end Sample

end Airdrop
