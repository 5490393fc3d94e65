/-
Module: Airdrop.Proofs.Certificates
Purpose: What an existing claim status certifies: the leaf that its new claim
  proved, under the root that the distributor had then, and all that was
  withdrawn since.
Trusted boundary: none
Main exports: usedSeeds, claimStatusAddress_inj, withdrawnBy, Certificate,
  claimStatus_certified, CertifiedByPresentRoot, stale_claimStatus_pays
-/
import Airdrop.Proofs.ClaimRecords

namespace Airdrop

open Checked Transition

/-! ## Addresses of claim statuses -/

/-- Every seed list that the transactions of a run derived an address from. -/
def usedSeeds {env : Env} (done : Commits env) : List (List Bytes) :=
  done.flatMap fun commit => commit.input.instruction.seeds

section Addresses

variable {env : Env} {claimant other key otherKey : Pubkey}

theorem Env.DistinctAddresses.mono {large small : List (List Bytes)}
    (distinct : env.DistinctAddresses large) (subset : small ⊆ large) :
    env.DistinctAddresses small :=
  fun first firstMember second secondMember same =>
    distinct first (subset firstMember) second (subset secondMember) same

/-- The seeds of a claim status determine its claimant and its distributor. -/
theorem claimStatusSeeds_inj
    (same : claimStatusSeeds claimant key = claimStatusSeeds other otherKey) :
    claimant = other ∧ key = otherKey := by
  simp only [claimStatusSeeds, List.cons.injEq, true_and, and_true] at same
  exact ⟨Bytes32.ext same.1, Bytes32.ext same.2⟩

theorem claimStatusAddress_inj {seeds : List (List Bytes)}
    (distinct : env.DistinctAddresses seeds)
    (one : claimStatusSeeds claimant key ∈ seeds)
    (two : claimStatusSeeds other otherKey ∈ seeds)
    (same : env.claimStatusAddress claimant key =
      env.claimStatusAddress other otherKey) :
    claimant = other ∧ key = otherKey :=
  claimStatusSeeds_inj (distinct _ one _ two same)

end Addresses

/-! ## Certificates -/

/-- A new claim from the distributor at `key` whose proof shows a leaf of the
claimant with this locked amount under `root`. -/
def Instruction.ProvesLeaf (env : Env) (key claimant : Pubkey) (amountLocked : U64)
    (root : Hash) : Instruction → Prop
  | .newClaim accounts amountUnlocked locked proof =>
      accounts.distributor = key ∧ accounts.claimant = claimant ∧
        locked = amountLocked ∧
        verify env.sha256 proof root
          (claimLeaf env.sha256 claimant amountUnlocked locked) = true
  | _ => False

instance (env : Env) (key claimant : Pubkey) (amountLocked : U64) (root : Hash)
    (instruction : Instruction) :
    Decidable (instruction.ProvesLeaf env key claimant amountLocked root) := by
  unfold Instruction.ProvesLeaf
  split <;> infer_instance

/-- What one transaction paid as a claim of locked tokens by the claimant. -/
def withdrawal {env : Env} (key claimant : Pubkey)
    (commit : Commit Bank (Transaction env) Receipt) : Nat :=
  match commit.input.instruction with
  | .claimLocked accounts =>
      if accounts.distributor = key ∧ accounts.claimant = claimant then
        (commit.outcome.transfers.map fun transfer => transfer.amount.toNat).sum
      else 0
  | _ => 0

/-- What a run paid as claims of locked tokens by the claimant. -/
def withdrawnBy {env : Env} (key claimant : Pubkey) (done : Commits env) : Nat :=
  (done.map (withdrawal key claimant)).sum

/-- The certificate of a claim status at present, when the transactions `later`
followed the new claim `opening`, which met the distributor with `root`. -/
structure Certificate (env : Env) (key claimant : Pubkey) (later : Commits env)
    (opening : Commit Bank (Transaction env) Receipt) (root : Hash) (bank : Bank)
    (status : ClaimStatus) : Prop where
  met : ∃ distributor, opening.before key = some (.distributor distributor) ∧
    distributor.root = root
  proves : opening.input.instruction.ProvesLeaf env key claimant
    status.lockedAmount root
  claimantIs : status.claimant = claimant
  standing : ∀ commit ∈ later, ∀ accounts,
    commit.input.instruction = .closeClaimStatus accounts →
      accounts.claimStatus ≠ env.claimStatusAddress claimant key
  withdrawn : withdrawnBy key claimant later = status.lockedAmountWithdrawn.toNat
  bounded : status.lockedAmountWithdrawn.toNat ≤ status.lockedAmount.toNat
  present : (∀ commit ∈ later, commit.input.instruction.closed ≠ some key) →
    ∃ distributor, bank key = some (.distributor distributor) ∧
      distributor.root = root

section Certificates

variable {env : Env} {tx : Transaction env} {bank start : Bank} {receipt : Receipt}
variable {history : History env} {key claimant : Pubkey}

/-- A successful claim of locked tokens at other accounts than a claim status
pays its claimant nothing from its distributor. -/
theorem withdrawal_eq_zero (accepted : execute env bank tx = .ok receipt)
    (notWithdrawn : ∀ accounts, tx.instruction = .claimLocked accounts →
      accounts.claimStatus ≠ env.claimStatusAddress claimant key) :
    withdrawal key claimant ⟨bank, tx, receipt⟩ = 0 := by
  unfold withdrawal
  split
  · rename_i accounts instruction
    apply if_neg
    intro ⟨isKey, isClaimant⟩
    change tx.instruction = _ at instruction
    simp only [execute, instruction] at accepted
    obtain ⟨_, _, _, _, checks, _⟩ := claimLocked_eq_ok.mp accepted
    refine notWithdrawn accounts instruction ?_
    rw [checks.valid.statusAddress, isKey, isClaimant]
  · rfl

/-- A new claim issues a certificate. -/
theorem Certificate.issue {accounts : NewClaim} {amountUnlocked amountLocked : U64}
    {proof : List Hash} {distributor after : MerkleDistributor} {bonus paid : U64}
    {moved : Bank} {statusKey : Pubkey}
    (instruction : tx.instruction =
      .newClaim accounts amountUnlocked amountLocked proof)
    (checks : NewClaimChecks env tx.clock tx.signers bank accounts amountUnlocked
      amountLocked proof distributor bonus paid moved)
    (effect : ClaimEffect bank receipt accounts.distributor statusKey
      accounts.toAccount accounts.claimant distributor after
      (newClaimStatus accounts distributor amountLocked paid) 1 paid.toNat
      bonus.toNat) :
    Certificate env accounts.distributor accounts.claimant [] ⟨bank, tx, receipt⟩
      distributor.root receipt.bank
      (newClaimStatus accounts distributor amountLocked paid) where
  met := ⟨distributor, effect.isDistributor, rfl⟩
  proves := by
    simp only [instruction]
    exact ⟨rfl, rfl, rfl, checks.proved⟩
  claimantIs := rfl
  standing := by simp
  withdrawn := rfl
  bounded := Nat.zero_le _
  present := by
    intro _
    refine ⟨after, ?_, by rw [effect.advanced.rest]⟩
    exact Bank.distributor_of_update effect.distributors

section Later

variable {later : Commits env} {root : Hash} {status : ClaimStatus}
variable {opening : Commit Bank (Transaction env) Receipt}

/-- The root goes on being the distributor's until the distributor is closed. -/
theorem Certificate.present_cons
    (certificate : Certificate env key claimant later opening root bank status)
    (accepted : execute env bank tx = .ok receipt)
    (unclosed : ∀ commit ∈ ⟨bank, tx, receipt⟩ :: later,
      commit.input.instruction.closed ≠ some key) :
    ∃ distributor, receipt.bank key = some (.distributor distributor) ∧
      distributor.root = root := by
  obtain ⟨current, isCurrent, rfl⟩ := certificate.present fun commit member =>
    unclosed commit (List.mem_cons_of_mem _ member)
  obtain ⟨after, reached, same⟩ :=
    terms_kept accepted (unclosed _ List.mem_cons_self) isCurrent
  exact ⟨after, reached, same.root⟩

/-- A certificate outlasts what does not touch its claim status. -/
theorem Certificate.keep
    (certificate : Certificate env key claimant later opening root bank status)
    (accepted : execute env bank tx = .ok receipt)
    (notWithdrawn : ∀ accounts, tx.instruction = .claimLocked accounts →
      accounts.claimStatus ≠ env.claimStatusAddress claimant key)
    (notClosed : ∀ accounts, tx.instruction = .closeClaimStatus accounts →
      accounts.claimStatus ≠ env.claimStatusAddress claimant key) :
    Certificate env key claimant (⟨bank, tx, receipt⟩ :: later) opening root
      receipt.bank status where
  met := certificate.met
  proves := certificate.proves
  claimantIs := certificate.claimantIs
  standing := by
    intro commit member
    rcases List.mem_cons.mp member with rfl | isEarlier
    · exact notClosed
    · exact certificate.standing commit isEarlier
  withdrawn := by
    rw [withdrawnBy, List.map_cons, List.sum_cons,
      withdrawal_eq_zero accepted notWithdrawn, Nat.zero_add]
    exact certificate.withdrawn
  bounded := certificate.bounded
  present := certificate.present_cons accepted

/-- A withdrawal is entered in the certificate. -/
theorem Certificate.enter {accounts : ClaimLocked}
    {distributor after : MerkleDistributor} {amount : U64} {moved : Bank}
    {statusKey : Pubkey}
    (certificate : Certificate env accounts.distributor accounts.claimant later
      opening root bank status)
    (accepted : execute env bank tx = .ok receipt)
    (instruction : tx.instruction = .claimLocked accounts)
    (checks : ClaimLockedChecks env tx.clock tx.signers bank accounts distributor
      status amount moved)
    (effect : ClaimEffect bank receipt accounts.distributor statusKey
      accounts.toAccount accounts.claimant distributor after
      (status.withdrawn amount) 0 amount.toNat 0) :
    Certificate env accounts.distributor accounts.claimant
      (⟨bank, tx, receipt⟩ :: later) opening root receipt.bank
      (status.withdrawn amount) := by
  obtain ⟨paid, paidValue, transfers⟩ := effect.transfers
  have now : withdrawal accounts.distributor accounts.claimant
      ⟨bank, tx, receipt⟩ = amount.toNat := by
    simp [withdrawal, instruction, transfers, paidValue]
  have sofar := certificate.withdrawn
  exact
    { met := certificate.met
      proves := certificate.proves
      claimantIs := certificate.claimantIs
      standing := by
        intro commit member
        rcases List.mem_cons.mp member with rfl | isEarlier
        · simp [instruction]
        · exact certificate.standing commit isEarlier
      withdrawn := by
        rw [withdrawnBy] at sofar ⊢
        rw [List.map_cons, List.sum_cons, now, checks.counted, sofar, Nat.add_comm]
      bounded := checks.counted ▸ checks.lockedRoom
      present := certificate.present_cons accepted }

end Later

/-- Every claim status at the address of a claimant and a distributor was written
by a new claim of that claimant, whose leaf was proved under the root that the
distributor had then.  What was withdrawn since is within the leaf's locked
amount, and the root is the distributor's present root unless the distributor was
closed in between. -/
theorem claimStatus_certified (genesis : Genesis start)
    (run : Reaches env start history bank)
    (distinct : env.DistinctAddresses
      (claimStatusSeeds claimant key :: usedSeeds (commits history)))
    {status : ClaimStatus}
    (present : bank (env.claimStatusAddress claimant key) =
      some (.claimStatus status)) :
    ∃ later opening earlier root,
      commits history = later ++ opening :: earlier ∧
        Certificate env key claimant later opening root bank status := by
  refine Run.commit_invariant (fun done (bank : Bank) =>
    env.DistinctAddresses (claimStatusSeeds claimant key :: usedSeeds done) →
      ∀ status, bank (env.claimStatusAddress claimant key) =
        some (.claimStatus status) →
      ∃ later opening earlier root, done = later ++ opening :: earlier ∧
        Certificate env key claimant later opening root bank status)
    ?_ ?_ run distinct status present
  · intro _ status found
    exact absurd found ((genesis _).2 status)
  · intro history bank tx receipt _ certified accepted distinct status found
    change receipt.bank _ = _ at found
    rw [← Bank.claimStatus?_eq_some] at found
    have before : env.DistinctAddresses
        (claimStatusSeeds claimant key :: usedSeeds (commits history)) :=
      distinct.mono (List.cons_subset_cons _ (List.subset_append_right _ _))
    have own {other otherKey : Pubkey}
        (used : claimStatusSeeds other otherKey ∈ tx.instruction.seeds)
        (same : env.claimStatusAddress other otherKey =
          env.claimStatusAddress claimant key) : other = claimant ∧ otherKey = key :=
      claimStatusAddress_inj distinct
        (List.mem_cons_of_mem _ (List.mem_append_left _ used)) List.mem_cons_self same
    cases statusStep accepted (env.claimStatusAddress claimant key) with
    | other same notClaimed notWithdrawn notClosed =>
        rw [same, Bank.claimStatus?_eq_some] at found
        obtain ⟨later, opening, earlier, root, split, certificate⟩ :=
          certified before status found
        exact ⟨⟨bank, tx, receipt⟩ :: later, opening, earlier, root,
          by rw [split, List.cons_append],
          certificate.keep accepted notWithdrawn notClosed⟩
    | opened instruction here checks effect =>
        obtain ⟨rfl, rfl⟩ := own (by rw [instruction]; exact List.mem_singleton_self _)
          (checks.valid.statusAddress.symm.trans here)
        rw [effect.statuses, Function.update_self, Option.some.injEq] at found
        subst found
        exact ⟨[], ⟨bank, tx, receipt⟩, commits history, _, rfl,
          .issue instruction checks effect⟩
    | withdrawn instruction here checks effect =>
        obtain ⟨rfl, rfl⟩ := own (by rw [instruction]; exact List.mem_singleton_self _)
          (checks.valid.statusAddress.symm.trans here)
        obtain ⟨later, opening, earlier, root, split, certificate⟩ :=
          certified before _ (here ▸ checks.valid.isClaimStatus)
        rw [effect.statuses, Function.update_self, Option.some.injEq] at found
        subst found
        exact ⟨⟨bank, tx, receipt⟩ :: later, opening, earlier, root,
          by rw [split, List.cons_append],
          certificate.enter accepted instruction checks effect⟩
    | closed instruction here checks removed =>
        rw [removed] at found
        exact absurd found (by simp)

end Certificates

theorem claimStatus_certified_sample :
    ∃ later opening earlier root,
      commits (sampleHistory [createSample sampleTree.merkleRoot false,
          aliceClaims 55, aliceWithdraws 150]) = later ++ opening :: earlier ∧
        Certificate sampleEnv sampleKey alice later opening root
          (sampleAfter [createSample sampleTree.merkleRoot false, aliceClaims 55,
            aliceWithdraws 150])
          { claimant := alice, lockedAmount := 50, lockedAmountWithdrawn := 25
            unlockedAmount := 126, closable := false, admin := sampleAdmin } := by
  apply claimStatus_certified sampleBank_genesis (sample_reaches _)
  · decide +kernel
  · decide +kernel

/-! ## The present root -/

/-- Every claim status of an existing distributor was written by a new claim
whose leaf was proved under the distributor's present root. -/
def CertifiedByPresentRoot (env : Env) (history : History env) (bank : Bank) : Prop :=
  ∀ key claimant distributor status,
    bank key = some (.distributor distributor) →
    bank (env.claimStatusAddress claimant key) = some (.claimStatus status) →
    ∃ commit ∈ commits history,
      commit.input.instruction.ProvesLeaf env key claimant status.lockedAmount
        distributor.root

/-- Alice claims, and the distributor is closed and created again with another
root.  Her claim status survives: she withdraws 25 tokens of a leaf that nobody
has proved under the present root. -/
theorem stale_claimStatus_pays :
    let transactions := [createSample sampleTree.merkleRoot true, aliceClaims 55,
      adminCloses 56, recreateSample 57 (.replicate 7), adminFunds 58 94]
    Genesis sampleBank ∧
      Reaches sampleEnv sampleBank (sampleHistory transactions)
        (sampleAfter transactions) ∧
      ¬ CertifiedByPresentRoot sampleEnv (sampleHistory transactions)
        (sampleAfter transactions) ∧
      (sampleAfter transactions).token? aliceToken =
        some { mint := sampleMint, owner := alice, amount := 126 } ∧
      (sampleAfter (transactions ++ [aliceWithdraws 150])).token? aliceToken =
        some { mint := sampleMint, owner := alice, amount := 151 } := by
  intro transactions
  refine ⟨sampleBank_genesis, sample_reaches _, ?_, by decide +kernel,
    by decide +kernel⟩
  intro certified
  obtain ⟨commit, member, proves⟩ := certified sampleKey alice
    (createdDistributor sampleAccounts (sampleArgs (.replicate 7) true) 254 200 0 0)
    { claimant := alice, lockedAmount := 50, lockedAmountWithdrawn := 0
      unlockedAmount := 126, closable := true, admin := sampleAdmin }
    (by decide +kernel) (by decide +kernel)
  have unproved : ∀ commit ∈ commits (sampleHistory transactions),
      ¬ commit.input.instruction.ProvesLeaf sampleEnv sampleKey alice 50
        (.replicate 7) := by
    decide +kernel
  exact unproved commit member proves

end Airdrop
