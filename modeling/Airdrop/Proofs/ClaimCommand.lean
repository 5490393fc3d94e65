/-
Module: Airdrop.Proofs.ClaimCommand
Purpose: What `process_claim` does for a claimant of a deployed tree: it makes the new claim
  where there is none, withdraws what has vested, and panics at the end where nothing has.
Trusted boundary: none
Main exports: OpenSeason, OpenSeason.newClaim, OpenSeason.claimLocked, dueTo,
  processClaim_pays
-/
import Airdrop.Cli.ClaimLocked
import Airdrop.Proofs.ClaimBuilders
import Airdrop.Proofs.NodeSpecs
import Airdrop.Proofs.NoStarvation
import Airdrop.Proofs.RootBinding

namespace Airdrop

open Checked Interference Schedule Transition

/-! ## While claims are paid -/

/-- The run of a deployed tree at a time when its claims can be paid: the vault was funded with
the cap on claims, there was no clawback, and the bonus ends before the last `u64`. -/
structure OpenSeason (env : Env) (earlier : History env)
    (founding : Commit Bank (Transaction env) Receipt) (key : Pubkey)
    (created : MerkleDistributor) (treeNodes : List TreeNode)
    (tree : AirdropMerkleTree) (history : History env) (bank : Bank) : Prop extends
    TreeRun env earlier founding key created treeNodes tree history bank where
  positive : 0 < tree.totalUnlockedAmount.toNat + tree.totalLockedAmount.toNat
  supply : SupplyFits created.mint founding.outcome.bank
  funded : created.maxTotalClaim.toNat ≤
    founding.outcome.bank.balance created.tokenVault +
      deposits created.tokenVault (commits history)
  standing : ∃ current, bank key = some (.distributor current) ∧
    current.clawedBack = false ∧
    current.airdropBonus.vestingDuration.toNat + current.activationPoint.toNat < 2 ^ 64

section Season

variable {env : Env} {earlier history : History env} {key toAccount : Pubkey}
variable {founding : Commit Bank (Transaction env) Receipt}
variable {created current : MerkleDistributor} {bank : Bank} {tx : Transaction env}
variable {treeNodes : List TreeNode} {tree : AirdropMerkleTree} {node : TreeNode}
variable {receipt : Receipt} {nodes paid bonus : Nat} {status : ClaimStatus}

/-- The account of a claimant gets what the claim pays. -/
theorem ClaimEffect.received {statusKey claimant : Pubkey}
    {before after : MerkleDistributor}
    (effect : ClaimEffect bank receipt key statusKey toAccount claimant before after status
      nodes paid bonus)
    (formed : WellFormed env key before) (signed : claimant ∈ tx.signers) :
    receipt.bank.balance toAccount = bank.balance toAccount + paid := by
  obtain ⟨amount, rfl, transfers⟩ := effect.transfers
  obtain ⟨recipient, isRecipient, recipientOwner⟩ := effect.recipient
  obtain ⟨vault, isVault, vaultOwner, _⟩ := effect.vault
  have apart : before.tokenVault ≠ toAccount := by
    intro same
    rw [← same] at isRecipient
    rw [Bank.token_unique isRecipient isVault, vaultOwner] at recipientOwner
    exact formed.not_signer (recipientOwner ▸ signed)
  have moved := effect.tokens.balance isRecipient
  rw [transfers, outflow_singleton, inflow_singleton,
    if_neg fun both => both.2 rfl, if_pos ⟨rfl, apart⟩] at moved
  exact moved

/-- A claim leaves the accounts of tokens with their owners and mints. -/
theorem ClaimEffect.receives {statusKey claimant account owner mint : Pubkey}
    {before after : MerkleDistributor}
    (effect : ClaimEffect bank receipt key statusKey toAccount claimant before after status
      nodes paid bonus)
    (receives : bank.Receives mint owner account) :
    receipt.bank.Receives mint owner account := by
  obtain ⟨token, present, owned, ofMint⟩ := receives
  obtain ⟨balance, reached, _⟩ := effect.tokens.kept present
  exact ⟨_, reached, owned, ofMint⟩

namespace OpenSeason

variable (season : OpenSeason env earlier founding key created treeNodes tree history bank)
include season

/-- Claims can be paid after a claim, if its proof was checked with what the tree was built
from, and its claimant is one of the tree's. -/
theorem claimed (accepted : execute env bank tx = .ok receipt)
    {statusKey claimant : Pubkey} {before after : MerkleDistributor}
    (effect : ClaimEffect bank receipt key statusKey toAccount claimant before after status
      nodes paid bonus)
    (inputs : committedInputs [⟨bank, tx, receipt⟩] ⊆
      builderInputs env.sha256 tree.treeNodes)
    (seeds : tx.instruction.seeds ⊆
      tree.treeNodes.map fun node => claimStatusSeeds node.claimant key) :
    OpenSeason env earlier founding key created treeNodes tree
      ((machine env).attempt bank tx :: history) receipt.bank := by
  have isCommit : commits ((machine env).attempt bank tx :: history) =
      ⟨bank, tx, receipt⟩ :: commits history := commits_of_ok accepted
  refine
    { toTreeDeployment := season.toTreeDeployment
      run := season.run.commit accepted
      noCollision := ?_
      distinct := ?_
      positive := season.positive
      supply := season.supply
      funded := ?_
      standing := ?_ }
  · refine season.noCollision.mono ?_
    rw [isCommit]
    change builderInputs env.sha256 tree.treeNodes ++
      committedInputs ([⟨bank, tx, receipt⟩] ++ commits history) ⊆ _
    rw [committedInputs, List.flatMap_append]
    exact List.append_subset.mpr ⟨List.subset_append_left _ _,
      List.append_subset.mpr ⟨List.subset_append_of_subset_left _ inputs,
        List.subset_append_right _ _⟩⟩
  · refine season.distinct.mono ?_
    rw [isCommit, usedSeeds, List.cons_append, List.flatMap_cons]
    exact List.append_subset.mpr ⟨List.subset_append_left _ _,
      List.append_subset.mpr ⟨List.subset_append_of_subset_left _ seeds,
        List.subset_append_right _ _⟩⟩
  · have funded := season.funded
    rw [isCommit, deposits, List.map_cons, List.sum_cons]
    exact funded.trans (Nat.add_le_add_left (Nat.le_add_left _ _) _)
  · obtain ⟨current, found, notClawedBack, schedule⟩ := season.standing
    have same := Option.some.inj (found.symm.trans effect.isDistributor)
    rw [Account.distributor.injEq] at same
    subst same
    refine ⟨after, ?_, ?_, ?_⟩
    · rw [← Bank.distributor?_eq_some, effect.distributors, Function.update_self]
    · rw [effect.advanced.rest]
      exact notClawedBack
    · rw [effect.advanced.rest]
      exact schedule

/-- Whoever has no claim status can make its new claim, and claims are still paid then. -/
theorem newClaim (tx : Transaction env) (member : node ∈ tree.treeNodes)
    (free : bank (env.claimStatusAddress node.claimant key) = none)
    {proof : List Hash} (stored : node.proof = some proof)
    (signed : node.claimant ∈ tx.signers)
    (receives : bank.Receives created.mint node.claimant toAccount)
    (instruction : tx.instruction = node.claim env key created.tokenVault toAccount proof) :
    ∃ receipt status paid, execute env bank tx = .ok receipt ∧
      OpenSeason env earlier founding key created treeNodes tree
        ((machine env).attempt bank tx :: history) receipt.bank ∧
      receipt.bank (env.claimStatusAddress node.claimant key) = some (.claimStatus status) ∧
      status.lockedAmount = node.lockedAmount ∧ status.lockedAmountWithdrawn = 0 ∧
      receipt.bank.Receives created.mint node.claimant toAccount ∧
      node.amount.toNat ≤ paid ∧ paid ≤ node.amount.toNat + created.bonusShare node.amount.toNat ∧
      receipt.bank.balance toAccount = bank.balance toAccount + paid := by
  obtain ⟨airdropVersion, built⟩ := season.built
  obtain ⟨current, found, notClawedBack, schedule⟩ := season.standing
  obtain ⟨other, isStored, proved⟩ := season.builtFrom.proofs node member
  rw [stored, Option.some.injEq] at isStored
  subst isStored
  obtain ⟨receipt, -, accepted, -⟩ := season.newClaim_succeeds found notClawedBack season.funded
    season.supply season.positive schedule member free proved signed receives instruction
  have executed := accepted
  rw [execute, instruction, TreeNode.claim] at executed
  obtain ⟨before, granted, amount, moved, checks, isReceipt⟩ := newClaim_eq_ok.mp executed
  have effect := newClaim_effect checks
  rw [← isReceipt] at effect
  have formed := season.lifetime.wellFormed effect.isDistributor
  have opened := Bank.claimStatus?_eq_some.mp
    ((congrFun effect.statuses _).trans (Function.update_self ..))
  refine ⟨receipt, _, amount.toNat, accepted, season.claimed accepted effect ?_ ?_, opened, rfl,
    rfl, effect.receives receives, ?_, ?_, effect.received formed signed⟩
  · rw [committedInputs, List.flatMap_singleton]
    simp only [instruction, TreeNode.claim]
    exact storedProof_used built member stored
  · rw [instruction]
    exact List.cons_subset.mpr ⟨List.mem_map_of_mem member, List.nil_subset _⟩
  · rw [checks.paidValue]
    exact Nat.le_add_right _ _
  · obtain ⟨handler, _, isBonus⟩ := checks.granted
    rw [checks.paidValue, ← (season.lifetime.sameTerms effect.isDistributor).bonusShare]
    exact Nat.add_le_add_left (bonus_bound isBonus).2 _

/-- Nothing can be withdrawn where nothing more has vested. -/
theorem claimLocked_refused (tx : Transaction env)
    (present : bank (env.claimStatusAddress node.claimant key) = some (.claimStatus status))
    (nothing : status.withdrawableAt created tx.clock.unixTimestamp = 0)
    (instruction : tx.instruction =
      node.claimLocked env key created.tokenVault toAccount) (receipt : Receipt) :
    execute env bank tx ≠ .ok receipt := by
  intro accepted
  rw [execute, instruction, TreeNode.claimLocked] at accepted
  obtain ⟨before, other, amount, moved, checks, -⟩ := claimLocked_eq_ok.mp accepted
  have same := Option.some.inj (present.symm.trans checks.valid.isClaimStatus)
  rw [Account.claimStatus.injEq] at same
  subst same
  have terms := season.lifetime.sameTerms checks.valid.isDistributor
  have future := season.creation.2.future
  have clock := season.clock
  have withdrawable := checks.withdrawable
  rw [terms.startTs, terms.endTs, amountWithdrawable_eq_ok] at withdrawable
  · have positive := checks.positive
    rw [ClaimStatus.withdrawableAt] at nothing
    omega
  · intro _ _
    have endBound := created.endTs.toInt_lt
    omega

/-- Whoever has something to withdraw can withdraw it, and then it has nothing left to
withdraw at that time. -/
theorem claimLocked (tx : Transaction env) (member : node ∈ tree.treeNodes)
    (present : bank (env.claimStatusAddress node.claimant key) = some (.claimStatus status))
    (something : 0 < status.withdrawableAt created tx.clock.unixTimestamp)
    (signed : node.claimant ∈ tx.signers)
    (receives : bank.Receives created.mint node.claimant toAccount)
    (instruction : tx.instruction =
      node.claimLocked env key created.tokenVault toAccount) :
    ∃ receipt later, execute env bank tx = .ok receipt ∧
      receipt.bank (env.claimStatusAddress node.claimant key) = some (.claimStatus later) ∧
      later.withdrawableAt created tx.clock.unixTimestamp = 0 ∧
      receipt.bank.balance toAccount =
        bank.balance toAccount + status.withdrawableAt created tx.clock.unixTimestamp := by
  obtain ⟨current, found, notClawedBack, schedule⟩ := season.standing
  obtain ⟨receipt, sent, accepted, transfers, value⟩ := season.claimLocked_succeeds found
    notClawedBack season.funded season.supply member present something signed receives
    instruction
  have executed := accepted
  rw [execute, instruction, TreeNode.claimLocked] at executed
  obtain ⟨before, other, amount, moved, checks, isReceipt⟩ := claimLocked_eq_ok.mp executed
  have same := Option.some.inj (present.symm.trans checks.valid.isClaimStatus)
  rw [Account.claimStatus.injEq] at same
  subst same
  have effect := claimLocked_effect checks
  rw [← isReceipt] at effect
  have formed := season.lifetime.wellFormed effect.isDistributor
  rw [isReceipt, List.cons.injEq, Transfer.mk.injEq] at transfers
  rw [← value, ← transfers.1.2.2]
  have written := Bank.claimStatus?_eq_some.mp
    ((congrFun effect.statuses _).trans (Function.update_self ..))
  refine ⟨receipt, _, accepted, written, ?_, effect.received formed signed⟩
  rw [← transfers.1.2.2] at value
  rw [ClaimStatus.withdrawableAt] at value ⊢
  rw [checks.counted]
  change scheduled status.lockedAmount.toNat _ _ _ - _ = 0
  omega

end OpenSeason

end Season

/-! ## The command -/

section Sending

variable {env : Env} {keyring : Keyring env} {clocks : Nat → Clock} {world : NodeWorld}
variable {transaction : List CommandInstruction} {after : Bank}

theorem serve_sendOrPanic_of_ok
    (executed : executeTransaction keyring (clocks world.sent) world.bank transaction =
      .ok after) :
    (sendOrPanic transaction).serve (NodeWorld.answer keyring clocks) world =
      (.ok (), { bank := after, sent := world.sent + 1 }) := by
  simp only [sendOrPanic, Program.ask_bind, Program.serve_call, answer_blockhash,
    answer_send_of_ok executed]
  rfl

theorem serve_sendOrPanic_of_error
    (refused : ∀ after, executeTransaction keyring (clocks world.sent) world.bank transaction ≠
      .ok after) :
    (sendOrPanic transaction).serve (NodeWorld.answer keyring clocks) world =
      (.error .panic, { world with sent := world.sent + 1 }) := by
  cases executed : executeTransaction keyring (clocks world.sent) world.bank transaction with
  | ok after => exact absurd executed (refused after)
  | error error =>
      simp only [sendOrPanic, Program.ask_bind, Program.serve_call, answer_blockhash,
        answer_send_of_error executed]
      rfl

end Sending

section Command

variable {env : Env} {earlier history : History env} {key : Pubkey}
variable {founding : Commit Bank (Transaction env) Receipt} {created : MerkleDistributor}
variable {treeNodes : List TreeNode} {tree : AirdropMerkleTree} {node : TreeNode}
variable {keyring : Keyring env} {clocks : Nat → Clock} {world : NodeWorld}
variable {toAccount : Pubkey} {fee : Option U64}

variable (world) in
/-- The transaction that claims what has vested is executed exactly if something has, and
leaves nothing to withdraw at that time. -/
theorem OpenSeason.serve_claimLocked
    (season : OpenSeason env earlier founding key created treeNodes tree history world.bank)
    (member : node ∈ tree.treeNodes) {status : ClaimStatus}
    (present : world.bank (env.claimStatusAddress node.claimant key) =
      some (.claimStatus status))
    (signed : node.claimant ∈ keyring.keys)
    (receives : world.bank.Receives created.mint node.claimant toAccount) :
    let now := (clocks world.sent).unixTimestamp
    let due := status.withdrawableAt created now
    ∃ after later,
      (sendOrPanic (fee.toList.map CommandInstruction.setComputeUnitPrice ++
          [.program (node.claimLocked env key created.tokenVault toAccount)])).serve
        (NodeWorld.answer keyring clocks) world =
          (if 0 < due then .ok () else .error .panic,
            { bank := after, sent := world.sent + 1 }) ∧
      after (env.claimStatusAddress node.claimant key) = some (.claimStatus later) ∧
      later.withdrawableAt created now = 0 ∧
      after.balance toAccount = world.bank.balance toAccount + due := by
  intro now due
  let tx := keyring.transaction (clocks world.sent)
    (node.claimLocked env key created.tokenVault toAccount)
  by_cases something : 0 < due
  · rw [if_pos something]
    obtain ⟨receipt, later, accepted, written, nothing, received⟩ :=
      season.claimLocked tx member present something signed receives rfl
    refine ⟨receipt.bank, later, serve_sendOrPanic_of_ok ?_, written, nothing, received⟩
    rw [executeTransaction_fees]
    exact executeTransaction_program.mpr ⟨receipt, accepted, rfl⟩
  · rw [if_neg something]
    have nothing : due = 0 := Nat.eq_zero_of_not_pos something
    refine ⟨world.bank, status, serve_sendOrPanic_of_error fun after executed => ?_, present,
      nothing, by rw [nothing, Nat.add_zero]⟩
    rw [executeTransaction_fees] at executed
    obtain ⟨receipt, accepted, -⟩ := executeTransaction_program.mp executed
    exact season.claimLocked_refused tx present nothing rfl receipt accepted

/-- What has vested for the node by a time and has not been withdrawn, where nothing was if
there is no claim status. -/
def TreeNode.dueAt (node : TreeNode) (terms : MerkleDistributor)
    (status : Option ClaimStatus) (now : Int64) : Nat :=
  match status with
  | some status => status.withdrawableAt terms now
  | none => scheduled node.lockedAmount.toNat terms.startTs.toInt terms.endTs.toInt now.toInt

variable {findProgramAddress : List Bytes → Pubkey → Pubkey × UInt8}
variable {associatedTokenAddress : Pubkey → Pubkey → Pubkey} {args : CliArgs}
variable {wallet : WalletArgs}

/-- The command is given what the tree was deployed with, and run by the claimant of the
node. -/
structure RunBy (env : Env) (findProgramAddress : List Bytes → Pubkey → Pubkey × UInt8)
    (associatedTokenAddress : Pubkey → Pubkey → Pubkey) (args : CliArgs) (wallet : WalletArgs)
    (key : Pubkey) (created : MerkleDistributor) (tree : AirdropMerkleTree)
    (node : TreeNode) : Prop extends
    ComputesAddresses env findProgramAddress associatedTokenAddress args where
  isKey : distributorOf findProgramAddress args.api tree = key
  isMint : args.mint = created.mint
  member : node ∈ tree.treeNodes
  own : node.claimant = wallet.keypair

namespace RunBy

variable (runBy : RunBy env findProgramAddress associatedTokenAddress args wallet key created
  tree node)
include runBy

theorem statusAddress : (getClaimStatusPda findProgramAddress args.programId wallet.keypair
    (distributorOf findProgramAddress args.api tree)).1 =
      env.claimStatusAddress node.claimant key := by
  rw [runBy.isKey, ← runBy.own, getClaimStatusPda, runBy.derived, Env.claimStatusAddress]

theorem account : associatedTokenAddress wallet.keypair args.mint =
    env.associatedTokenAddress node.claimant created.mint := by
  rw [runBy.associated, runBy.own, runBy.isMint]

theorem vault (season : OpenSeason env earlier founding key created treeNodes tree history
      world.bank) :
    associatedTokenAddress key args.mint = created.tokenVault := by
  obtain ⟨current, found, -⟩ := season.standing
  have same := season.lifetime.sameTerms found
  rw [runBy.associated, runBy.isMint, ← same.tokenVault, ← same.mint]
  exact (season.lifetime.wellFormed found).vaultAssociated.symm

/-- The transaction that the command sends last. -/
theorem claimLockedTransaction_eq
    (season : OpenSeason env earlier founding key created treeNodes tree history world.bank) :
    claimLockedTransaction findProgramAddress associatedTokenAddress args wallet
        (distributorOf findProgramAddress args.api tree) =
      wallet.priorityFee.toList.map CommandInstruction.setComputeUnitPrice ++
        [.program (node.claimLocked env key created.tokenVault
          (env.associatedTokenAddress node.claimant created.mint))] := by
  rw [TreeNode.claimLocked, ← runBy.statusAddress, ← runBy.vault season, ← runBy.account,
    ← runBy.isKey, runBy.own]
  rfl

/-- The new claim of the command is the node's. -/
theorem serve_newClaimCommand
    (season : OpenSeason env earlier founding key created treeNodes tree history world.bank)
    (receives : world.bank.Receives created.mint node.claimant
      (env.associatedTokenAddress node.claimant created.mint))
    {proof : List Hash} (stored : node.proof = some proof) {receipt : Receipt}
    (accepted : execute env world.bank (keyring.transaction (clocks world.sent)
      (node.claim env key created.tokenVault
        (env.associatedTokenAddress node.claimant created.mint) proof)) = .ok receipt) :
    (newClaimCommand findProgramAddress associatedTokenAddress args wallet tree).serve
        (NodeWorld.answer keyring clocks) world =
      (.ok (), { bank := receipt.bank, sent := world.sent + 1 }) := by
  obtain ⟨token, present, -⟩ := receives
  rw [← runBy.account] at present
  have built : processNewClaim findProgramAddress associatedTokenAddress args wallet (.ok ())
      tree = .ok (wallet.priorityFee.toList.map CommandInstruction.setComputeUnitPrice ++
        [.program (node.claim env key created.tokenVault
          (env.associatedTokenAddress node.claimant created.mint) proof)]) := by
    rw [processNewClaim_eq (by simp) runBy.own season.builtFrom.distinct runBy.member stored,
      claimInstructions, if_pos rfl, runBy.statusAddress, runBy.account, runBy.isKey,
      runBy.vault season, TreeNode.claim, runBy.own]
    simp
  rw [newClaimCommand, Program.ask_bind, Program.serve_call, answer_account_of_some present]
  simp only [built]
  apply serve_sendOrPanic_of_ok
  rw [executeTransaction_fees]
  exact executeTransaction_program.mpr ⟨receipt, accepted, rfl⟩

/-- Where there is a claim status the command only sends the last transaction. -/
theorem serve_processClaim_of_some
    (season : OpenSeason env earlier founding key created treeNodes tree history world.bank)
    {account : Account}
    (present : world.bank (env.claimStatusAddress node.claimant key) = some account) :
    (processClaim findProgramAddress associatedTokenAddress args wallet tree).serve
        (NodeWorld.answer keyring clocks) world =
      (sendOrPanic (wallet.priorityFee.toList.map CommandInstruction.setComputeUnitPrice ++
        [.program (node.claimLocked env key created.tokenVault
          (env.associatedTokenAddress node.claimant created.mint))])).serve
        (NodeWorld.answer keyring clocks) world := by
  simp only [← runBy.statusAddress, getClaimStatusPda, distributorOf, getMerkleDistributorPda,
    CliArgs.api] at present
  rw [← runBy.claimLockedTransaction_eq season, processClaim]
  change Program.serve _ (Program.call _ _) _ = _
  rw [Program.serve_call, answer_account_of_some present]
  rfl

/-- Where there is none it makes the new claim first. -/
theorem serve_processClaim_of_none
    (season : OpenSeason env earlier founding key created treeNodes tree history world.bank)
    (free : world.bank (env.claimStatusAddress node.claimant key) = none)
    {claimed : NodeWorld}
    (done : (newClaimCommand findProgramAddress associatedTokenAddress args wallet tree).serve
      (NodeWorld.answer keyring clocks) world = (.ok (), claimed)) :
    (processClaim findProgramAddress associatedTokenAddress args wallet tree).serve
        (NodeWorld.answer keyring clocks) world =
      (sendOrPanic (wallet.priorityFee.toList.map CommandInstruction.setComputeUnitPrice ++
        [.program (node.claimLocked env key created.tokenVault
          (env.associatedTokenAddress node.claimant created.mint))])).serve
        (NodeWorld.answer keyring clocks) claimed := by
  simp only [← runBy.statusAddress, getClaimStatusPda, distributorOf, getMerkleDistributorPda,
    CliArgs.api] at free
  rw [← runBy.claimLockedTransaction_eq season, processClaim]
  change Program.serve _ (Program.call _ _) _ = _
  rw [Program.serve_call, answer_account_of_none free]
  change Program.serve _ (newClaimCommand _ _ _ _ _ >>= _) _ = _
  rw [Program.serve_bind, done]
  rfl

section Pays

variable (season : OpenSeason env earlier founding key created treeNodes tree history world.bank)
variable (signed : wallet.keypair ∈ keyring.keys)
variable (receives : world.bank.Receives created.mint node.claimant
  (env.associatedTokenAddress node.claimant created.mint))
include season signed receives

variable (clocks world) in
/-- With a claim status the command withdraws what has vested. -/
theorem pays_claimed {status : ClaimStatus}
    (found : world.bank (env.claimStatusAddress node.claimant key) =
      some (.claimStatus status)) :
    let due := node.dueAt created (some status) (clocks world.sent).unixTimestamp
    ∃ after later,
      (processClaim findProgramAddress associatedTokenAddress args wallet tree).serve
        (NodeWorld.answer keyring clocks) world =
          (if 0 < due then .ok () else .error .panic,
            { bank := after, sent := world.sent + 1 }) ∧
      after.balance (env.associatedTokenAddress node.claimant created.mint) =
        world.bank.balance (env.associatedTokenAddress node.claimant created.mint) + due ∧
      after (env.claimStatusAddress node.claimant key) = some (.claimStatus later) ∧
      later.withdrawableAt created (clocks world.sent).unixTimestamp = 0 := by
  obtain ⟨after, later, served, written, nothing, received⟩ := season.serve_claimLocked
    world runBy.member found (runBy.own ▸ signed) receives
  refine ⟨after, later, ?_, received, written, nothing⟩
  rw [runBy.serve_processClaim_of_some season found]
  exact served

variable (clocks world) in
/-- Without one it makes the new claim first. -/
theorem pays_unclaimed
    (free : world.bank (env.claimStatusAddress node.claimant key) = none) :
    let due := node.dueAt created none (clocks (world.sent + 1)).unixTimestamp
    ∃ after paid later,
      (processClaim findProgramAddress associatedTokenAddress args wallet tree).serve
        (NodeWorld.answer keyring clocks) world =
          (if 0 < due then .ok () else .error .panic,
            { bank := after, sent := world.sent + 2 }) ∧
      (node.amount.toNat ≤ paid ∧
        paid ≤ node.amount.toNat + created.bonusShare node.amount.toNat) ∧
      after.balance (env.associatedTokenAddress node.claimant created.mint) =
        world.bank.balance (env.associatedTokenAddress node.claimant created.mint) + paid +
          due ∧
      after (env.claimStatusAddress node.claimant key) = some (.claimStatus later) ∧
      later.withdrawableAt created (clocks (world.sent + 1)).unixTimestamp = 0 := by
  have isSigner : node.claimant ∈ keyring.keys := runBy.own ▸ signed
  obtain ⟨proof, stored, -⟩ := season.builtFrom.proofs node runBy.member
  obtain ⟨receipt, status, paid, accepted, further, opened, locked, withdrawn, stillReceives,
    least, most, received⟩ := season.newClaim
      (keyring.transaction (clocks world.sent) (node.claim env key created.tokenVault
        (env.associatedTokenAddress node.claimant created.mint) proof))
      runBy.member free stored isSigner receives rfl
  have done := runBy.serve_newClaimCommand season receives stored accepted
  obtain ⟨after, later, served, written, nothing, paidLater⟩ := further.serve_claimLocked
    { bank := receipt.bank, sent := world.sent + 1 } runBy.member opened isSigner
    stillReceives
  have due : node.dueAt created none (clocks (world.sent + 1)).unixTimestamp =
      status.withdrawableAt created (clocks (world.sent + 1)).unixTimestamp := by
    rw [TreeNode.dueAt, ClaimStatus.withdrawableAt, locked, withdrawn]
    rfl
  simp only [due]
  refine ⟨after, paid, later, ?_, ⟨least, most⟩, ?_, written, nothing⟩
  · rw [runBy.serve_processClaim_of_none season free done]
    exact served
  · rw [paidLater, received]

end Pays

end RunBy

end Command

section Sample

/-- The runtime of the small deployment, where the token accounts of the recipients are
associated with them. -/
def walletEnv : Env :=
  .ofFind sampleSha256 sampleFind fun wallet _ =>
    if wallet = sampleKey then sampleVault
    else if wallet = alice then aliceToken
    else bobToken

/-- The creation of the distributor. -/
def walletFounding : Commit Bank (Transaction walletEnv) Receipt :=
  let founding := sampleFounding sampleTree.merkleRoot false
  { before := founding.before
    input :=
      { clock := founding.input.clock
        signers := founding.input.signers
        instruction := founding.input.instruction
        no_derived_signer := founding.input.no_derived_signer }
    outcome := founding.outcome }

theorem wallet_season :
    OpenSeason walletEnv [] walletFounding sampleKey
      (sampleDistributor sampleTree.merkleRoot false) sampleNodes sampleTree []
      walletFounding.outcome.bank where
  origin := ⟨sampleBank, sampleBank_genesis, .start⟩
  accepted := sampleFounding_accepted sampleTree.merkleRoot false
  creates := rfl
  born := (sample_founded sampleTree.merkleRoot false).born
  fresh := by simp
  built := ⟨0, sampleTree_built⟩
  deploys := .withBonus ⟨rfl, rfl, rfl, rfl⟩
  clock := by decide
  vaultMint := ⟨⟨sampleMint, sampleKey, 220⟩, by decide +kernel, rfl⟩
  run := .start
  noCollision := by decide +kernel
  distinct := by decide +kernel
  positive := by decide
  supply := sample_supply
  funded := by decide +kernel
  standing :=
    ⟨_, (sample_founded sampleTree.merkleRoot false).born, rfl, by decide⟩

/-- Alice signs. -/
def aliceKeyring : Keyring walletEnv where
  keys := (aliceClaims 55).signers
  no_derived_signer := (aliceClaims 55).no_derived_signer

end Sample

end Airdrop
