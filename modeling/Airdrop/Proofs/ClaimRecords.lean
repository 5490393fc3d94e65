/-
Module: Airdrop.Proofs.ClaimRecords
Purpose: The new claims in the life of a distributor: the node counter counts
  them, each is a node of the distributor's tree, and without closable claim
  statuses nobody makes two.
Trusted boundary: none
Main exports: ClaimRecord, newClaims, committedInputs, Lifetime.newClaims_length,
  Lifetime.newClaims_in_tree, Lifetime.newClaims_nodup
-/
import Airdrop.Proofs.Lifetime

namespace Airdrop

open Checked Transition

/-! ## Records -/

/-- What a new claim says of itself. -/
structure ClaimRecord where
  claimant : Pubkey
  amountUnlocked : U64
  amountLocked : U64
deriving DecidableEq

/-- The record of a transaction that is a new claim from the distributor. -/
def newClaimOf {env : Env} (key : Pubkey)
    (commit : Commit Bank (Transaction env) Receipt) : Option ClaimRecord :=
  match commit.input.instruction with
  | .newClaim accounts amountUnlocked amountLocked _ =>
      if accounts.distributor = key then
        some { claimant := accounts.claimant, amountUnlocked, amountLocked }
      else none
  | _ => none

/-- The new claims from a distributor, the latest first. -/
def newClaims {env : Env} (key : Pubkey) (done : Commits env) : List ClaimRecord :=
  done.filterMap (newClaimOf key)

/-- Every byte string hashed when the proofs of the new claims were checked. -/
def committedInputs {env : Env} (done : Commits env) : List Bytes :=
  done.flatMap fun commit =>
    match commit.input.instruction with
    | .newClaim accounts amountUnlocked amountLocked proof =>
        claimInputs env.sha256 accounts.claimant amountUnlocked amountLocked proof
    | _ => []

section Records

variable {env : Env} {key : Pubkey} {done : Commits env}
variable {commit : Commit Bank (Transaction env) Receipt}

theorem newClaims_cons_none (silent : newClaimOf key commit = none) :
    newClaims key (commit :: done) = newClaims key done :=
  List.filterMap_cons_none silent

theorem newClaims_cons_some {record : ClaimRecord}
    (claims : newClaimOf key commit = some record) :
    newClaims key (commit :: done) = record :: newClaims key done :=
  List.filterMap_cons_some claims

theorem newClaimOf_eq_none (elsewhere : commit.input.instruction.claimedFrom ≠ some key) :
    newClaimOf key commit = none := by
  unfold newClaimOf
  split
  · rename_i accounts amountUnlocked amountLocked proof instruction
    rw [instruction] at elsewhere
    exact if_neg fun here => elsewhere (congrArg some here)
  · rfl

theorem newClaimOf_eq_some {accounts : NewClaim} {amountUnlocked amountLocked : U64}
    {proof : List Hash} (instruction : commit.input.instruction =
      .newClaim accounts amountUnlocked amountLocked proof)
    (here : accounts.distributor = key) :
    newClaimOf key commit =
      some { claimant := accounts.claimant, amountUnlocked, amountLocked } := by
  simp [newClaimOf, instruction, here]

/-- A transaction that is no new claim leaves no record. -/
theorem newClaimOf_of_other (other : ∀ accounts amountUnlocked amountLocked proof,
      commit.input.instruction ≠
        .newClaim accounts amountUnlocked amountLocked proof) :
    newClaimOf key commit = none := by
  unfold newClaimOf
  split
  · rename_i instruction
    exact absurd instruction (other _ _ _ _)
  · rfl

end Records

section Lifetime

variable {env : Env} {earlier history : History env} {key : Pubkey}
variable {founding : Commit Bank (Transaction env) Receipt}
variable {created before after distributor : MerkleDistributor} {bank : Bank}
variable {tx : Transaction env} {receipt : Receipt}

/-- In the life of a distributor a transaction either makes a new claim or
leaves no record and the node counter as it is. -/
inductive RecordStep (env : Env) (tx : Transaction env) (bank : Bank)
    (receipt : Receipt) (key : Pubkey) (before after : MerkleDistributor) : Prop where
  | newClaim {accounts : NewClaim} {amountUnlocked amountLocked : U64}
      {proof : List Hash} {bonus paid : U64} {moved : Bank}
      (instruction : tx.instruction =
        .newClaim accounts amountUnlocked amountLocked proof)
      (here : accounts.distributor = key)
      (checks : NewClaimChecks env tx.clock tx.signers bank accounts amountUnlocked
        amountLocked proof before bonus paid moved)
      (effect : ClaimEffect bank receipt key accounts.claimStatus accounts.toAccount
        accounts.claimant before after
        (newClaimStatus accounts before amountLocked paid) 1 paid.toNat bonus.toNat)
      (recorded : newClaimOf key ⟨bank, tx, receipt⟩ =
        some { claimant := accounts.claimant, amountUnlocked, amountLocked })
  | silent (unrecorded : newClaimOf key ⟨bank, tx, receipt⟩ = none)
      (sameNodes : after.numNodesClaimed = before.numNodesClaimed)

theorem LivingStep.record (step : LivingStep env tx bank receipt key before after) :
    RecordStep env tx bank receipt key before after := by
  cases step with
  | other notClaimed notClawedBack nothing =>
      exact .silent (newClaimOf_eq_none notClaimed) rfl
  | claimed instruction here checks effect flow =>
      exact .newClaim instruction here checks effect
        (newClaimOf_eq_some instruction here)
  | withdrawn instruction here checks effect flow =>
      exact .silent (newClaimOf_of_other (by simp [instruction]))
        (BitVec.eq_of_toNat_eq effect.advanced.nodes)
  | clawedBack instruction here checks effect =>
      exact .silent (newClaimOf_of_other (by simp [instruction])) rfl
  | tuned tuning effect nothing =>
      exact .silent (newClaimOf_eq_none (by simp [tuning.only]))
        (by rw [effect.retuned])

/-- The node counter counts the new claims. -/
theorem Lifetime.newClaims_length
    (life : Lifetime env earlier founding key created history bank)
    (found : bank key = some (.distributor distributor)) :
    distributor.numNodesClaimed.toNat = (newClaims key (commits history)).length := by
  refine life.invariant (fun done bank => ∀ distributor,
    bank key = some (.distributor distributor) →
      distributor.numNodesClaimed.toNat = (newClaims key done).length) ?_ ?_
    distributor found
  · intro effect distributor found
    obtain rfl := Bank.distributor_unique found life.born
    rw [effect.unclaimed.2.1]
    rfl
  · intro history bank tx receipt sofar counted accepted unclosed distributor reached
    obtain ⟨before, found, _⟩ := sofar.current
    obtain ⟨after, isAfter, step⟩ := sofar.step found accepted unclosed
    obtain rfl := Bank.distributor_unique reached isAfter
    cases step.record with
    | newClaim instruction here checks effect recorded =>
        rw [newClaims_cons_some recorded, List.length_cons, effect.advanced.nodes,
          counted before found]
    | silent unrecorded sameNodes =>
        rw [newClaims_cons_none unrecorded, sameNodes, counted before found]

/-- Under the root of a built tree, every new claim is a node of the tree. -/
theorem Lifetime.newClaims_in_tree
    (life : Lifetime env earlier founding key created history bank)
    {treeNodes : List TreeNode} {airdropVersion : U64} {tree : AirdropMerkleTree}
    (built : AirdropMerkleTree.new env.sha256 treeNodes airdropVersion = .ok tree)
    (rooted : created.root = tree.merkleRoot)
    (noCollision : NoCollision env.sha256
      (builderInputs env.sha256 tree.treeNodes ++ committedInputs (commits history))) :
    ∀ record ∈ newClaims key (commits history), ∃ node ∈ tree.treeNodes,
      node.claimant = record.claimant ∧ node.amount = record.amountUnlocked ∧
        node.lockedAmount = record.amountLocked := by
  have top := (builtFrom_of_new built).top
  refine life.invariant (fun done _ =>
    NoCollision env.sha256
      (builderInputs env.sha256 tree.treeNodes ++ committedInputs done) →
    ∀ record ∈ newClaims key done, ∃ node ∈ tree.treeNodes,
      node.claimant = record.claimant ∧ node.amount = record.amountUnlocked ∧
        node.lockedAmount = record.amountLocked) ?_ ?_ noCollision
  · intro _ _ record member
    exact absurd member (by simp [newClaims])
  · intro history bank tx receipt sofar inTree accepted unclosed noCollision
    have known := inTree (noCollision.mono
      (List.append_subset.mpr ⟨List.subset_append_left _ _,
        fun _ member => List.mem_append_right _
          (List.mem_append_right _ member)⟩))
    obtain ⟨before, found, same⟩ := sofar.current
    obtain ⟨after, isAfter, step⟩ := sofar.step found accepted unclosed
    cases step.record with
    | newClaim instruction here checks effect recorded =>
        rw [newClaims_cons_some recorded]
        intro claim member
        rcases List.mem_cons.mp member with rfl | isEarlier
        · have proved := checks.proved
          rw [same.root, rooted] at proved
          refine builtTree_sound noCollision (List.subset_append_left _ _) top ?_ proved
          intro input isInput
          refine List.mem_append_right _ (List.mem_flatMap.mpr
            ⟨_, List.mem_cons_self, ?_⟩)
          rw [instruction]
          exact isInput
        · exact known claim isEarlier
    | silent unrecorded sameNodes =>
        rw [newClaims_cons_none unrecorded]
        exact known

/-- A claim status that nobody may close stays, up to what has been withdrawn. -/
theorem claimStatus_kept {address : Pubkey} {status : ClaimStatus}
    (accepted : execute env bank tx = .ok receipt)
    (present : bank.claimStatus? address = some status)
    (fixed : status.closable = false) :
    ∃ kept, receipt.bank.claimStatus? address = some kept ∧
      kept = { status with lockedAmountWithdrawn := kept.lockedAmountWithdrawn } := by
  have unique {other : ClaimStatus}
      (isOther : bank address = some (.claimStatus other)) : status = other := by
    rw [← Bank.claimStatus?_eq_some, present, Option.some.injEq] at isOther
    exact isOther
  cases statusStep accepted address with
  | other same notClaimed notWithdrawn notClosed => exact ⟨status, same.trans present, rfl⟩
  | opened instruction here checks effect =>
      have free := checks.valid.statusFree
      rw [here] at free
      rw [Bank.claimStatus?_eq_some, free] at present
      exact absurd present (by simp)
  | @withdrawn accounts distributor found amount moved instruction here checks
      effect =>
      obtain rfl := unique (here ▸ checks.valid.isClaimStatus)
      refine ⟨status.withdrawn amount, ?_, rfl⟩
      rw [effect.statuses, Function.update_self]
  | closed instruction here checks removed =>
      obtain rfl := unique (here ▸ checks.isClaimStatus)
      exact absurd checks.closable (by simp [fixed])

/-- Where claim statuses cannot be closed, nobody makes two new claims, and every
claimant keeps a claim status. -/
theorem Lifetime.newClaims_nodup
    (life : Lifetime env earlier founding key created history bank)
    (fixed : created.closable = false) :
    ((newClaims key (commits history)).map ClaimRecord.claimant).Nodup ∧
      ∀ record ∈ newClaims key (commits history), ∃ status,
        bank.claimStatus? (env.claimStatusAddress record.claimant key) =
            some status ∧ status.closable = false := by
  refine life.invariant (fun done bank =>
    ((newClaims key done).map ClaimRecord.claimant).Nodup ∧
      ∀ record ∈ newClaims key done, ∃ status,
        bank.claimStatus? (env.claimStatusAddress record.claimant key) =
            some status ∧ status.closable = false) ?_ ?_
  · intro _
    exact ⟨List.nodup_nil, by simp [newClaims]⟩
  · intro history bank tx receipt sofar ⟨distinct, present⟩ accepted unclosed
    obtain ⟨before, found, same⟩ := sofar.current
    obtain ⟨after, isAfter, step⟩ := sofar.step found accepted unclosed
    have stay : ∀ record ∈ newClaims key (commits history), ∃ status,
        receipt.bank.claimStatus? (env.claimStatusAddress record.claimant key) =
            some status ∧ status.closable = false := by
      intro record member
      obtain ⟨status, isStatus, notClosable⟩ := present record member
      obtain ⟨kept, isKept, rest⟩ := claimStatus_kept accepted isStatus notClosable
      exact ⟨kept, isKept, by rw [rest]; exact notClosable⟩
    cases step.record with
    | @newClaim accounts amountUnlocked amountLocked proof bonus paid moved instruction
        here checks effect recorded =>
        have address : accounts.claimStatus =
            env.claimStatusAddress accounts.claimant key := by
          rw [checks.valid.statusAddress, here]
        rw [newClaims_cons_some recorded]
        constructor
        · rw [List.map_cons, List.nodup_cons]
          refine ⟨?_, distinct⟩
          intro again
          obtain ⟨earlierRecord, member, sameClaimant⟩ := List.mem_map.mp again
          obtain ⟨status, isStatus, _⟩ := present earlierRecord member
          have free := checks.valid.statusFree
          rw [sameClaimant, ← address, Bank.claimStatus?_eq_some, free] at isStatus
          exact absurd isStatus (by simp)
        · intro claim member
          rcases List.mem_cons.mp member with rfl | isEarlier
          · refine ⟨newClaimStatus accounts before amountLocked paid, ?_,
              same.closable.trans fixed⟩
            rw [effect.statuses, ← address, Function.update_self]
          · exact stay claim isEarlier
    | silent unrecorded sameNodes =>
        rw [newClaims_cons_none unrecorded]
        exact ⟨distinct, stay⟩

end Lifetime

end Airdrop
