/-
Module: Airdrop.Proofs.Payouts
Purpose: One claimant in the life of a distributor that is not closable: what a
  transaction does for it, and its claim status against all it was paid.
Trusted boundary: none
Main exports: Instruction.claimant, payout, paidTo, ClaimantStep, claimantStep, ClaimantState,
  Lifetime.claimantState
-/
import Airdrop.Proofs.Certificates

namespace Airdrop

open Checked Schedule Transition

/-! ## Claimants -/

/-- The claimant of a claim from the distributor at `key`. -/
def Instruction.claimant (key : Pubkey) : Instruction → Option Pubkey
  | .newClaim accounts _ _ _ =>
      if accounts.distributor = key then some accounts.claimant else none
  | .claimLocked accounts =>
      if accounts.distributor = key then some accounts.claimant else none
  | _ => none

/-- A claim by a claimant is a claim from the distributor, and uses the address of
its claim status there. -/
theorem Instruction.claims_of_claimant {instruction : Instruction}
    {key claimant : Pubkey} (claims : instruction.claimant key = some claimant) :
    instruction.claimedFrom = some key ∧
      claimStatusSeeds claimant key ∈ instruction.seeds := by
  cases instruction with
  | newClaim accounts amountUnlocked amountLocked proof =>
      by_cases here : accounts.distributor = key
      · rw [Instruction.claimant, if_pos here, Option.some.injEq] at claims
        subst here claims
        exact ⟨rfl, List.mem_singleton_self _⟩
      · exact absurd claims (by simp [Instruction.claimant, here])
  | claimLocked accounts =>
      by_cases here : accounts.distributor = key
      · rw [Instruction.claimant, if_pos here, Option.some.injEq] at claims
        subst here claims
        exact ⟨rfl, List.mem_singleton_self _⟩
      · exact absurd claims (by simp [Instruction.claimant, here])
  | _ => exact absurd claims (by simp [Instruction.claimant])

/-! ## Payments to a claimant -/

/-- An account is a token account of `owner`. -/
def Bank.ownedBy (bank : Bank) (owner key : Pubkey) : Bool :=
  (bank.token? key).any fun account => account.owner = owner

/-- What one transfer moved from the vault to a token account of the claimant. -/
def payment (bank : Bank) (vault claimant : Pubkey) (transfer : Transfer) : Nat :=
  if transfer.source = vault ∧ transfer.destination ≠ vault ∧
      bank.ownedBy claimant transfer.destination then
    transfer.amount.toNat
  else 0

/-- What one transaction moved from the vault to token accounts of the claimant.
A clawback returns the rest to its receiver and pays nobody. -/
def payout {env : Env} (vault claimant : Pubkey)
    (commit : Commit Bank (Transaction env) Receipt) : Nat :=
  match commit.input.instruction with
  | .clawback _ => 0
  | _ => (commit.outcome.transfers.map (payment commit.before vault claimant)).sum

/-- The tokens that a run paid out of the vault to a claimant. -/
def paidTo {env : Env} (vault claimant : Pubkey) (done : Commits env) : Nat :=
  (done.map (payout vault claimant)).sum

section Payouts

variable {env : Env} {bank : Bank} {tx : Transaction env} {receipt : Receipt}
variable {vault claimant key : Pubkey} {before after : MerkleDistributor}

theorem payout_le_outflow :
    payout vault claimant ⟨bank, tx, receipt⟩ ≤ outflow vault receipt.transfers := by
  have each : (receipt.transfers.map (payment bank vault claimant)).sum ≤
      outflow vault receipt.transfers := by
    apply List.sum_le_sum
    intro transfer _
    unfold payment
    split
    · rename_i paid
      rw [if_pos ⟨paid.1, paid.2.1⟩]
    · exact Nat.zero_le _
  unfold payout
  split
  · exact Nat.zero_le _
  · exact each

/-- A claim pays its own claimant and nobody else. -/
theorem payout_of_claim {statusKey toAccount owner : Pubkey}
    {status : ClaimStatus} {nodes paid bonus : Nat}
    (effect : ClaimEffect bank receipt key statusKey toAccount owner before after
      status nodes paid bonus)
    (flow : outflow before.tokenVault receipt.transfers = paid)
    (claims : tx.instruction.claimedFrom = some key) (claimant : Pubkey) :
    payout before.tokenVault claimant ⟨bank, tx, receipt⟩ =
      if owner = claimant then paid else 0 := by
  obtain ⟨amount, rfl, transfers⟩ := effect.transfers
  obtain ⟨recipient, isRecipient, recipientOwner⟩ := effect.recipient
  have owned : bank.ownedBy claimant toAccount = decide (owner = claimant) := by
    rw [Bank.ownedBy, Bank.token?_eq_some.mpr isRecipient, Option.any_some,
      recipientOwner]
  have single : payout before.tokenVault claimant ⟨bank, tx, receipt⟩ =
      payment bank before.tokenVault claimant
        ⟨before.tokenVault, toAccount, amount⟩ := by
    unfold payout
    split
    · rename_i clawback
      change tx.instruction = _ at clawback
      simp [clawback, Instruction.claimedFrom] at claims
    · simp [transfers]
  rw [transfers, outflow_singleton] at flow
  rw [single, payment, owned]
  by_cases apart : toAccount = before.tokenVault
  · -- Then nothing has moved, and the payment was nothing.
    have nothing : amount.toNat = 0 := by simpa [apart] using flow.symm
    simp [nothing]
  · simp [apart]

end Payouts

/-! ## What a transaction does for a claimant -/

/-- What a transaction in the life of a distributor does for one claimant. -/
inductive ClaimantStep (env : Env) (tx : Transaction env) (bank : Bank)
    (receipt : Receipt) (key : Pubkey) (before : MerkleDistributor)
    (claimant : Pubkey) : Prop where
  | idle
      (same : receipt.bank.claimStatus? (env.claimStatusAddress claimant key) =
        bank.claimStatus? (env.claimStatusAddress claimant key))
      (unrecorded : ∀ record, newClaimOf key ⟨bank, tx, receipt⟩ = some record →
        record.claimant ≠ claimant)
      (unpaid : payout before.tokenVault claimant ⟨bank, tx, receipt⟩ = 0)
  | claims {accounts : NewClaim} {amountUnlocked amountLocked : U64}
      {proof : List Hash} {bonus paid : U64} {moved : Bank}
      (isClaimant : accounts.claimant = claimant)
      (checks : NewClaimChecks env tx.clock tx.signers bank accounts amountUnlocked
        amountLocked proof before bonus paid moved)
      (recorded : newClaimOf key ⟨bank, tx, receipt⟩ =
        some { claimant, amountUnlocked, amountLocked })
      (absent : bank.claimStatus? (env.claimStatusAddress claimant key) = none)
      (written : receipt.bank.claimStatus? (env.claimStatusAddress claimant key) =
        some (newClaimStatus accounts before amountLocked paid))
      (pays : payout before.tokenVault claimant ⟨bank, tx, receipt⟩ = paid.toNat)
  | withdraws {accounts : ClaimLocked} {status : ClaimStatus} {amount : U64}
      {moved : Bank}
      (isClaimant : accounts.claimant = claimant)
      (checks : ClaimLockedChecks env tx.clock tx.signers bank accounts before status
        amount moved)
      (unrecorded : newClaimOf key ⟨bank, tx, receipt⟩ = none)
      (present : bank.claimStatus? (env.claimStatusAddress claimant key) =
        some status)
      (written : receipt.bank.claimStatus? (env.claimStatusAddress claimant key) =
        some (status.withdrawn amount))
      (pays : payout before.tokenVault claimant ⟨bank, tx, receipt⟩ = amount.toNat)

section ClaimantStep

variable {env : Env} {bank : Bank} {tx : Transaction env} {receipt : Receipt}
variable {claimant key : Pubkey} {before after : MerkleDistributor}

/-- A transaction that claims nothing from the distributor at `key` leaves every
claim status there alone, unless the status may be closed. -/
theorem claimStatus_untouched (accepted : execute env bank tx = .ok receipt)
    (notClaimed : tx.instruction.claimedFrom ≠ some key)
    (distinct : env.DistinctAddresses
      (claimStatusSeeds claimant key :: tx.instruction.seeds))
    (fixed : ∀ status, bank.claimStatus? (env.claimStatusAddress claimant key) =
      some status → status.closable = false) :
    receipt.bank.claimStatus? (env.claimStatusAddress claimant key) =
      bank.claimStatus? (env.claimStatusAddress claimant key) := by
  have elsewhere {other otherKey : Pubkey}
      (used : claimStatusSeeds other otherKey ∈ tx.instruction.seeds)
      (same : env.claimStatusAddress other otherKey =
        env.claimStatusAddress claimant key) : otherKey = key :=
    (claimStatusAddress_inj distinct (List.mem_cons_of_mem _ used)
      List.mem_cons_self same).2
  cases statusStep accepted (env.claimStatusAddress claimant key) with
  | other same notClaimed notWithdrawn notClosed => exact same
  | opened instruction here checks effect =>
      refine absurd ?_ notClaimed
      rw [instruction]
      exact congrArg some (elsewhere (by rw [instruction]; exact List.mem_singleton_self _)
        (checks.valid.statusAddress.symm.trans here))
  | withdrawn instruction here checks effect =>
      refine absurd ?_ notClaimed
      rw [instruction]
      exact congrArg some (elsewhere (by rw [instruction]; exact List.mem_singleton_self _)
        (checks.valid.statusAddress.symm.trans here))
  | closed instruction here checks removed =>
      have isStatus := checks.isClaimStatus
      rw [here, ← Bank.claimStatus?_eq_some] at isStatus
      exact absurd checks.closable (by simp [fixed _ isStatus])

/-- A claim by somebody else leaves a claimant alone. -/
theorem ClaimEffect.elsewhere {statusKey toAccount owner : Pubkey}
    {status : ClaimStatus} {nodes paid bonus : Nat}
    (effect : ClaimEffect bank receipt key statusKey toAccount owner before after
      status nodes paid bonus)
    (flow : outflow before.tokenVault receipt.transfers = paid)
    (claims : tx.instruction.claimant key = some owner)
    (address : statusKey = env.claimStatusAddress owner key)
    (distinct : env.DistinctAddresses
      (claimStatusSeeds claimant key :: tx.instruction.seeds))
    (different : owner ≠ claimant) :
    receipt.bank.claimStatus? (env.claimStatusAddress claimant key) =
        bank.claimStatus? (env.claimStatusAddress claimant key) ∧
      payout before.tokenVault claimant ⟨bank, tx, receipt⟩ = 0 := by
  obtain ⟨claimed, used⟩ := Instruction.claims_of_claimant claims
  constructor
  · rw [effect.statuses, address, Function.update_of_ne]
    intro same
    exact different (claimStatusAddress_inj distinct List.mem_cons_self
      (List.mem_cons_of_mem _ used) same).1.symm
  · rw [payout_of_claim effect flow claimed, if_neg different]

theorem claimantStep (step : LivingStep env tx bank receipt key before after)
    (accepted : execute env bank tx = .ok receipt)
    (distinct : env.DistinctAddresses
      (claimStatusSeeds claimant key :: tx.instruction.seeds))
    (fixed : ∀ status, bank.claimStatus? (env.claimStatusAddress claimant key) =
      some status → status.closable = false) :
    ClaimantStep env tx bank receipt key before claimant := by
  have unpaid (nothing : outflow before.tokenVault receipt.transfers = 0) :
      payout before.tokenVault claimant ⟨bank, tx, receipt⟩ = 0 :=
    Nat.le_zero.mp (nothing ▸ payout_le_outflow)
  cases step with
  | other notClaimed notClawedBack nothing =>
      have unrecorded : newClaimOf key ⟨bank, tx, receipt⟩ = none :=
        newClaimOf_eq_none notClaimed
      exact .idle (claimStatus_untouched accepted notClaimed distinct fixed)
        (by simp [unrecorded]) (unpaid nothing)
  | @claimed accounts amountUnlocked amountLocked proof bonus paid moved instruction
      here checks effect flow =>
      have claims : tx.instruction.claimant key = some accounts.claimant := by
        rw [instruction]
        exact if_pos here
      have claimed := (Instruction.claims_of_claimant claims).1
      have recorded : newClaimOf key ⟨bank, tx, receipt⟩ =
          some { claimant := accounts.claimant, amountUnlocked, amountLocked } :=
        newClaimOf_eq_some instruction here
      have address := checks.valid.statusAddress
      rw [here] at address
      by_cases isClaimant : accounts.claimant = claimant
      · have free := checks.valid.statusFree
        rw [isClaimant] at address recorded
        rw [address] at free
        refine .claims isClaimant checks recorded ?_ ?_ ?_
        · simp [Bank.claimStatus?, free]
        · rw [effect.statuses, ← address, Function.update_self]
        · rw [payout_of_claim effect flow claimed, if_pos isClaimant]
      · obtain ⟨untouched, nothing⟩ :=
          effect.elsewhere flow claims address distinct isClaimant
        refine .idle untouched ?_ nothing
        intro record same
        rw [recorded, Option.some.injEq] at same
        exact same ▸ isClaimant
  | @withdrawn accounts status amount moved instruction here checks effect flow =>
      have claims : tx.instruction.claimant key = some accounts.claimant := by
        rw [instruction]
        exact if_pos here
      have claimed := (Instruction.claims_of_claimant claims).1
      have unrecorded : newClaimOf key ⟨bank, tx, receipt⟩ = none :=
        newClaimOf_of_other (by simp [instruction])
      have address := checks.valid.statusAddress
      rw [here] at address
      by_cases isClaimant : accounts.claimant = claimant
      · have present := checks.valid.isClaimStatus
        rw [isClaimant] at address
        rw [address, ← Bank.claimStatus?_eq_some] at present
        refine .withdraws isClaimant checks unrecorded present ?_ ?_
        · rw [effect.statuses, ← address, Function.update_self]
        · rw [payout_of_claim effect flow claimed, if_pos isClaimant]
      · obtain ⟨untouched, nothing⟩ :=
          effect.elsewhere flow claims address distinct isClaimant
        exact .idle untouched (by simp [unrecorded]) nothing
  | clawedBack instruction here checks effect =>
      refine .idle (congrFun effect.statuses _) ?_ ?_
      · simp [newClaimOf_of_other, instruction]
      · simp [payout, instruction]
  | tuned tuning effect nothing =>
      refine .idle (congrFun effect.statuses _) ?_ (unpaid nothing)
      simp [newClaimOf_eq_none, tuning.only]

end ClaimantStep

/-! ## A claimant's standing over the whole life -/

/-- The new claims of one claimant. -/
def newClaimsBy {env : Env} (key claimant : Pubkey) (done : Commits env) :
    List ClaimRecord :=
  (newClaims key done).filter fun record => record.claimant = claimant

/-- The largest bonus that the terms of a distributor allow for an amount. -/
def MerkleDistributor.bonusShare (self : MerkleDistributor) (amountUnlocked : Nat) :
    Nat :=
  share self.airdropBonus.totalBonus.toNat
    (self.maxTotalClaim.toNat - self.airdropBonus.totalBonus.toNat) amountUnlocked

theorem SameTerms.bonusShare {created current : MerkleDistributor}
    (same : SameTerms created current) : current.bonusShare = created.bonusShare := by
  funext amountUnlocked
  rw [same]
  rfl

/-- Where one claimant stands after the transactions `done`: it has neither
claimed nor been paid, or it has claimed once, and its claim status says what it
was paid. -/
inductive ClaimantState (env : Env) (key : Pubkey) (created : MerkleDistributor)
    (claimant : Pubkey) (done : Commits env) (bank : Bank) : Prop where
  | unclaimed
      (absent : bank.claimStatus? (env.claimStatusAddress claimant key) = none)
      (unrecorded : newClaimsBy key claimant done = [])
      (unpaid : paidTo created.tokenVault claimant done = 0)
  | claimed {record : ClaimRecord} {status : ClaimStatus}
      (recorded : newClaimsBy key claimant done = [record])
      (present : bank.claimStatus? (env.claimStatusAddress claimant key) =
        some status)
      (fixed : status.closable = false)
      (sameLocked : status.lockedAmount = record.amountLocked)
      (unlockedPaid : record.amountUnlocked.toNat ≤ status.unlockedAmount.toNat)
      (bonusPaid : status.unlockedAmount.toNat ≤
        record.amountUnlocked.toNat + created.bonusShare record.amountUnlocked.toNat)
      (bounded : status.lockedAmountWithdrawn.toNat ≤ status.lockedAmount.toNat)
      (paid : paidTo created.tokenVault claimant done =
        status.unlockedAmount.toNat + status.lockedAmountWithdrawn.toNat)

section ClaimantState

variable {env : Env} {earlier history : History env} {key claimant : Pubkey}
variable {founding : Commit Bank (Transaction env) Receipt}
variable {created before after : MerkleDistributor} {bank start : Bank}
variable {tx : Transaction env} {receipt : Receipt} {done : Commits env}

theorem newClaimsBy_cons_none
    {commit : Commit Bank (Transaction env) Receipt}
    (silent : ∀ record, newClaimOf key commit = some record →
      record.claimant ≠ claimant) :
    newClaimsBy key claimant (commit :: done) = newClaimsBy key claimant done := by
  unfold newClaimsBy
  cases found : newClaimOf key commit with
  | none => rw [newClaims_cons_none found]
  | some record =>
      rw [newClaims_cons_some found, List.filter_cons_of_neg]
      simpa using silent record found

theorem newClaimsBy_cons_some
    {commit : Commit Bank (Transaction env) Receipt} {record : ClaimRecord}
    (found : newClaimOf key commit = some record)
    (own : record.claimant = claimant) :
    newClaimsBy key claimant (commit :: done) =
      record :: newClaimsBy key claimant done := by
  rw [newClaimsBy, newClaims_cons_some found, List.filter_cons_of_pos (by simpa)]
  rfl

theorem ClaimantState.fixed (state : ClaimantState env key created claimant done bank)
    {status : ClaimStatus}
    (present : bank.claimStatus? (env.claimStatusAddress claimant key) =
      some status) : status.closable = false := by
  cases state with
  | unclaimed absent unrecorded unpaid => simp [absent] at present
  | claimed recorded present' fixed sameLocked unlockedPaid bonusPaid bounded paid =>
      rw [present', Option.some.injEq] at present
      exact present ▸ fixed

/-- One transaction keeps a claimant's standing in order. -/
theorem ClaimantState.step (state : ClaimantState env key created claimant done bank)
    (terms : SameTerms created before) (fixed : created.closable = false)
    (step : ClaimantStep env tx bank receipt key before claimant) :
    ClaimantState env key created claimant (⟨bank, tx, receipt⟩ :: done)
      receipt.bank := by
  have total : paidTo created.tokenVault claimant (⟨bank, tx, receipt⟩ :: done) =
      payout before.tokenVault claimant ⟨bank, tx, receipt⟩ +
        paidTo created.tokenVault claimant done := by
    rw [terms.tokenVault]
    rfl
  cases step with
  | idle same silent unpaid =>
      have records : newClaimsBy key claimant (⟨bank, tx, receipt⟩ :: done) =
          newClaimsBy key claimant done := newClaimsBy_cons_none silent
      rw [unpaid, Nat.zero_add] at total
      cases state with
      | unclaimed absent unrecorded nothing =>
          exact .unclaimed (same.trans absent) (records.trans unrecorded)
            (total.trans nothing)
      | claimed recorded present notClosable sameLocked unlockedPaid bonusPaid bounded
          paid =>
          exact .claimed (records.trans recorded) (same.trans present) notClosable
            sameLocked unlockedPaid bonusPaid bounded (total.trans paid)
  | @claims accounts amountUnlocked amountLocked proof bonus amount moved isClaimant
      checks recorded absent written pays =>
      cases state with
      | claimed recorded' present notClosable sameLocked unlockedPaid bonusPaid bounded
          paid => simp [absent] at present
      | unclaimed absent' unrecorded nothing =>
          obtain ⟨handler, _, granted⟩ := checks.granted
          have bound := (bonus_bound granted).2
          have value := checks.paidValue
          have records : newClaimsBy key claimant (⟨bank, tx, receipt⟩ :: done) =
              [{ claimant, amountUnlocked, amountLocked }] := by
            rw [newClaimsBy_cons_some recorded rfl, unrecorded]
          refine .claimed records written (terms.closable.trans fixed) rfl ?_ ?_
            (Nat.zero_le _) ?_
          · simp only [newClaimStatus]
            omega
          · rw [← terms.bonusShare]
            simp only [newClaimStatus, MerkleDistributor.bonusShare]
            omega
          · rw [total, pays, nothing]
            rfl
  | @withdraws accounts status amount moved isClaimant checks unrecorded present
      written pays =>
      have records : newClaimsBy key claimant (⟨bank, tx, receipt⟩ :: done) =
          newClaimsBy key claimant done :=
        newClaimsBy_cons_none (by simp [unrecorded])
      cases state with
      | unclaimed absent noRecord nothing => simp [present] at absent
      | @claimed record status' recorded present' notClosable sameLocked unlockedPaid
          bonusPaid bounded paid =>
          obtain rfl : status' = status := by
            rw [present', Option.some.injEq] at present
            exact present
          refine .claimed (records.trans recorded) written notClosable sameLocked
            unlockedPaid bonusPaid (checks.counted ▸ checks.lockedRoom) ?_
          rw [total, pays, paid, checks.counted]
          simp only [ClaimStatus.withdrawn]
          omega

/-- Where a distributor was never created, it has no claim statuses. -/
theorem untouched_of_fresh (genesis : Genesis start)
    (run : Reaches env start history bank)
    (fresh : ∀ commit ∈ commits history, commit.input.instruction.created ≠ some key)
    (distinct : env.DistinctAddresses
      (claimStatusSeeds claimant key :: usedSeeds (commits history))) :
    bank.distributor? key = none ∧
      bank.claimStatus? (env.claimStatusAddress claimant key) = none := by
  refine Run.commit_invariant (fun done (bank : Bank) =>
    (∀ commit ∈ done, commit.input.instruction.created ≠ some key) →
    env.DistinctAddresses (claimStatusSeeds claimant key :: usedSeeds done) →
      bank.distributor? key = none ∧
        bank.claimStatus? (env.claimStatusAddress claimant key) = none)
    ?_ ?_ run fresh distinct
  · intro _ _
    constructor
    · rw [Option.eq_none_iff_forall_ne_some]
      intro data found
      exact (genesis key).1 data (Bank.distributor?_eq_some.mp found)
    · rw [Option.eq_none_iff_forall_ne_some]
      intro data found
      exact (genesis _).2 data (Bank.claimStatus?_eq_some.mp found)
  · intro history bank tx receipt _ untouched accepted fresh distinct
    obtain ⟨noDistributor, noStatus⟩ := untouched
      (fun commit member => fresh commit (List.mem_cons_of_mem _ member))
      (distinct.mono (List.cons_subset_cons _ (List.subset_append_right _ _)))
    obtain ⟨stillAbsent, elsewhere⟩ :=
      absence_kept accepted (fresh _ List.mem_cons_self) noDistributor
    have notClaimed : tx.instruction.claimedFrom ≠ some key := fun claims =>
      elsewhere (Instruction.distributorKey_of_claimedFrom claims)
    refine ⟨stillAbsent, ?_⟩
    refine (claimStatus_untouched accepted notClaimed (distinct.mono
      (List.cons_subset_cons _ (List.subset_append_left _ _))) ?_).trans noStatus
    simp [noStatus]

/-- In the life of a distributor that is not closable, at an address never used
before, every claimant's standing is in order. -/
theorem Lifetime.claimantState
    (life : Lifetime env earlier founding key created history bank)
    (fresh : ∀ commit ∈ commits earlier, commit.input.instruction.created ≠ some key)
    (fixed : created.closable = false) (claimant : Pubkey)
    (distinct : env.DistinctAddresses (claimStatusSeeds claimant key ::
      usedSeeds (commits history ++ founding :: commits earlier))) :
    ClaimantState env key created claimant (commits history) bank := by
  refine life.invariant (fun done bank =>
    env.DistinctAddresses (claimStatusSeeds claimant key ::
      usedSeeds (done ++ founding :: commits earlier)) →
    ClaimantState env key created claimant done bank) ?_ ?_ distinct
  · intro effect distinct
    obtain ⟨start, genesis, before⟩ := life.origin
    refine .unclaimed ?_ rfl rfl
    rw [effect.statuses]
    exact (untouched_of_fresh genesis before fresh (distinct.mono
      (List.cons_subset_cons _ (List.subset_append_right _ _)))).2
  · intro history bank tx receipt sofar standing accepted unclosed distinct
    have state := standing (distinct.mono
      (List.cons_subset_cons _ (List.subset_append_right _ _)))
    obtain ⟨before, found, same⟩ := sofar.current
    obtain ⟨after, _, step⟩ := sofar.step found accepted unclosed
    exact state.step same fixed (claimantStep step accepted (distinct.mono
      (List.cons_subset_cons _ (List.subset_append_left _ _)))
      fun status present => state.fixed present)

end ClaimantState

end Airdrop
