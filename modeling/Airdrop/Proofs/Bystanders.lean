/-
Module: Airdrop.Proofs.Bystanders
Purpose: What nobody can take from the holder of a key that does not sign: the own tokens,
  the settings of the own distributors and the claim statuses of their claimants.
Trusted boundary: none
Main exports: payer_authorized, Served, NothingTaken, nothingTaken_step, bystander_undisturbed
-/
import Airdrop.Proofs.Deployment
import Airdrop.Proofs.Lifetime

namespace Airdrop

open Checked Transition

/-! ## Who pays -/

section Steps

variable {env : Env} {tx : Transaction env} {bank after : Bank} {receipt : Receipt}

/-- The authority of a transfer of the program has signed, or is an address that the program
derives. -/
theorem transferSigned_authority {signers : List Pubkey} {seeds : List Bytes}
    {source destination authority : Pubkey} {amount : U64}
    (done : transferSigned env bank signers seeds source destination authority amount =
      .ok after) :
    authority ∈ signers ∨ env.createProgramAddress seeds = some authority := by
  unfold transferSigned at done
  simp only [bind_eq_ok, okOr_eq_ok, require_eq_ok] at done
  obtain ⟨signer, derived, _, authorized, _⟩ := done
  rcases List.mem_cons.mp authorized with rfl | signed
  · exact .inr derived
  · exact .inl signed

/-- Whoever pays has signed, or is an address that the program derives. -/
theorem payer_authorized (accepted : execute env bank tx = .ok receipt) :
    ∀ transfer ∈ receipt.transfers, ∀ account,
      bank transfer.source = some (.token account) →
        account.owner ∈ tx.signers ∨
          ∃ seeds, env.createProgramAddress seeds = some account.owner := by
  intro transfer member account isAccount
  cases committed accepted with
  | created creation effect => simp [effect.noTransfer] at member
  | claimed instruction checks effect =>
      rw [effect.owner_of_transfer transfer member account isAccount]
      exact (transferSigned_authority checks.transferred).imp_right fun derived => ⟨_, derived⟩
  | withdrawn instruction checks effect =>
      rw [effect.owner_of_transfer transfer member account isAccount]
      exact (transferSigned_authority checks.transferred).imp_right fun derived => ⟨_, derived⟩
  | clawedBack instruction checks effect =>
      rw [effect.owner_of_transfer transfer member account isAccount]
      exact (transferSigned_authority checks.transferred).imp_right fun derived => ⟨_, derived⟩
  | closed instruction checks effect =>
      rw [effect.owner_of_transfer transfer member account isAccount]
      exact (transferSigned_authority checks.transferred).imp_right fun derived => ⟨_, derived⟩
  | statusClosed instruction checks noTransfer distributors statuses tokens =>
      simp [noTransfer] at member
  | tuned tuning effect => simp [effect.noTransfer] at member
  | transferred instruction signed effect transfers =>
      obtain ⟨payer, isPayer, owned, _⟩ := effect.payer
      rw [owner_of_single transfers isPayer owned transfer member account isAccount]
      exact .inl signed

end Steps

/-! ## What is kept -/

/-- A distributor that has served claims, and was clawed back perhaps: its counters have
grown and nothing else has changed. -/
structure Served (before after : MerkleDistributor) : Prop where
  nodes : before.numNodesClaimed.toNat ≤ after.numNodesClaimed.toNat
  paid : before.totalAmountClaimed.toNat ≤ after.totalAmountClaimed.toNat
  bonus : before.airdropBonus.totalClaimedBonus.toNat ≤
    after.airdropBonus.totalClaimedBonus.toNat
  clawedBack : before.clawedBack = true → after.clawedBack = true
  rest : after = { before with
    numNodesClaimed := after.numNodesClaimed
    totalAmountClaimed := after.totalAmountClaimed
    clawedBack := after.clawedBack
    airdropBonus := { before.airdropBonus with
      totalClaimedBonus := after.airdropBonus.totalClaimedBonus } }

namespace Served

variable {one two three : MerkleDistributor}

theorem refl (distributor : MerkleDistributor) : Served distributor distributor :=
  ⟨Nat.le_refl _, Nat.le_refl _, Nat.le_refl _, id, rfl⟩

theorem trans (first : Served one two) (second : Served two three) : Served one three where
  nodes := first.nodes.trans second.nodes
  paid := first.paid.trans second.paid
  bonus := first.bonus.trans second.bonus
  clawedBack := fun marked => second.clawedBack (first.clawedBack marked)
  rest := by
    rw [second.rest, first.rest]

theorem of_advanced {nodes paid bonus : Nat} (advanced : Advanced one two nodes paid bonus) :
    Served one two where
  nodes := by
    rw [advanced.nodes]
    omega
  paid := by
    rw [advanced.paid]
    omega
  bonus := by
    rw [advanced.bonus]
    omega
  clawedBack := by
    rw [advanced.rest]
    exact id
  rest := by
    conv_lhs => rw [advanced.rest]
    rw [advanced.rest]

theorem of_clawback (distributor : MerkleDistributor) :
    Served distributor { distributor with clawedBack := true } :=
  ⟨Nat.le_refl _, Nat.le_refl _, Nat.le_refl _, fun _ => rfl, rfl⟩

theorem admin (served : Served one two) : two.admin = one.admin := by
  rw [served.rest]

end Served

/-- Between the two states nothing was taken from the holder of the key: the accounts of the
own tokens hold no less, the own distributors have served claims, and the claim statuses that
only this key could close are there. -/
structure NothingTaken (bystander : Pubkey) (before after : Bank) : Prop where
  tokens : ∀ key account, before key = some (.token account) → account.owner = bystander →
    ∃ balance : U64, after key = some (.token { account with amount := balance }) ∧
      account.amount.toNat ≤ balance.toNat
  distributors : ∀ key distributor, before key = some (.distributor distributor) →
    distributor.admin = bystander →
    ∃ current, after key = some (.distributor current) ∧ Served distributor current
  statuses : ∀ key status, before key = some (.claimStatus status) →
    status.admin = bystander →
    ∃ lockedAmountWithdrawn : U64,
      after key = some (.claimStatus { status with lockedAmountWithdrawn }) ∧
        status.lockedAmountWithdrawn.toNat ≤ lockedAmountWithdrawn.toNat

namespace NothingTaken

variable {bystander : Pubkey} {one two three : Bank}

theorem refl (bank : Bank) : NothingTaken bystander bank bank where
  tokens _ account present _ := ⟨account.amount, present, Nat.le_refl _⟩
  distributors _ distributor present _ := ⟨distributor, present, Served.refl distributor⟩
  statuses _ status present _ := ⟨status.lockedAmountWithdrawn, present, Nat.le_refl _⟩

theorem trans (first : NothingTaken bystander one two) (second : NothingTaken bystander two three) :
    NothingTaken bystander one three where
  tokens key account present owned := by
    obtain ⟨middle, isMiddle, more⟩ := first.tokens key account present owned
    obtain ⟨balance, isBalance, evenMore⟩ := second.tokens key _ isMiddle owned
    exact ⟨balance, isBalance, more.trans evenMore⟩
  distributors key distributor present isAdmin := by
    obtain ⟨middle, isMiddle, served⟩ := first.distributors key distributor present isAdmin
    obtain ⟨current, isCurrent, servedLater⟩ :=
      second.distributors key middle isMiddle (served.admin.trans isAdmin)
    exact ⟨current, isCurrent, served.trans servedLater⟩
  statuses key status present isAdmin := by
    obtain ⟨withdrawn, isMiddle, more⟩ := first.statuses key status present isAdmin
    obtain ⟨withdrawnLater, isThere, evenMore⟩ := second.statuses key
      { status with lockedAmountWithdrawn := withdrawn } isMiddle isAdmin
    exact ⟨withdrawnLater, isThere, more.trans evenMore⟩

end NothingTaken

section Bystander

variable {env : Env} {tx : Transaction env} {bank : Bank} {receipt : Receipt}
variable {bystander : Pubkey}

/-- A transaction that the key did not sign takes nothing from its holder. -/
theorem nothingTaken_step (underived : ∀ seeds, env.createProgramAddress seeds ≠ some bystander)
    (accepted : execute env bank tx = .ok receipt) (silent : bystander ∉ tx.signers) :
    NothingTaken bystander bank receipt.bank where
  tokens key account present owned := by
    obtain ⟨balance, reached, value⟩ := (tokensMoved accepted).kept present
    refine ⟨balance, reached, ?_⟩
    have noOutflow : outflow key receipt.transfers = 0 := by
      apply outflow_eq_zero
      rintro transfer member rfl
      rcases payer_authorized accepted transfer member account present with signed | derived
      · exact silent (owned ▸ signed)
      · obtain ⟨seeds, derived⟩ := derived
        exact underived seeds (owned ▸ derived)
    omega
  distributors key distributor present isAdmin := by
    rw [← Bank.distributor?_eq_some] at present
    simp only [← Bank.distributor?_eq_some]
    cases distributorStep accepted key with
    | other elsewhere same notPaid =>
        exact ⟨distributor, same.trans present, Served.refl distributor⟩
    | created creation effect =>
        rw [Bank.distributor?_eq_some, effect.fresh] at present
        cases present
    | claimed instruction here checks effect =>
        rw [Bank.distributor?_eq_some, effect.isDistributor] at present
        cases present
        refine ⟨_, ?_, .of_advanced effect.advanced⟩
        rw [effect.distributors, Function.update_self]
    | withdrawn instruction here checks effect =>
        rw [Bank.distributor?_eq_some, effect.isDistributor] at present
        cases present
        refine ⟨_, ?_, .of_advanced effect.advanced⟩
        rw [effect.distributors, Function.update_self]
    | clawedBack instruction here checks effect =>
        rw [Bank.distributor?_eq_some, effect.isDistributor] at present
        cases present
        refine ⟨_, ?_, .of_clawback _⟩
        rw [effect.distributors, Function.update_self]
    | closed instruction here checks effect =>
        rw [Bank.distributor?_eq_some, effect.isDistributor] at present
        cases present
        exact absurd (isAdmin ▸ checks.isAdmin ▸ checks.signed) silent
    | tuned tuning effect =>
        rw [Bank.distributor?_eq_some, effect.isDistributor] at present
        cases present
        exact absurd (isAdmin ▸ effect.signed) silent
  statuses key status present isAdmin := by
    rw [← Bank.claimStatus?_eq_some] at present
    simp only [← Bank.claimStatus?_eq_some]
    cases statusStep accepted key with
    | other same notClaimed notWithdrawn notClosed =>
        exact ⟨status.lockedAmountWithdrawn, same.trans present, Nat.le_refl _⟩
    | opened instruction here checks effect =>
        rw [Bank.claimStatus?_eq_some, ← here, checks.valid.statusFree] at present
        cases present
    | @withdrawn accounts distributor found amount moved instruction here checks effect =>
        rw [Bank.claimStatus?_eq_some, ← here, checks.valid.isClaimStatus] at present
        cases present
        refine ⟨(status.withdrawn amount).lockedAmountWithdrawn, ?_, ?_⟩
        · rw [effect.statuses, Function.update_self]
          rfl
        · rw [checks.counted]
          exact Nat.le_add_right _ _
    | closed instruction here checks removed =>
        rw [Bank.claimStatus?_eq_some, ← here, checks.isClaimStatus] at present
        cases present
        exact absurd (isAdmin ▸ checks.isAdmin ▸ checks.signed) silent

/-- In a run that the key signs no transaction of, nothing is taken from its holder, who is
no address that the program derives. -/
theorem bystander_undisturbed {start : Bank} {history : History env}
    (run : Reaches env start history bank)
    (underived : ∀ seeds, env.createProgramAddress seeds ≠ some bystander)
    (silent : ∀ entry ∈ history, bystander ∉ entry.input.signers) :
    NothingTaken bystander start bank := by
  refine Run.related (NothingTaken bystander) NothingTaken.refl NothingTaken.trans ?_ run
  intro entry member receipt accepted
  exact nothingTaken_step underived accepted (silent entry member)

end Bystander

section Sample

/-- Bob keeps what he has while Alice claims and the admin claws back. -/
theorem bystander_undisturbed_sample :
    NothingTaken bob sampleBank (sampleAfter
      [createSample sampleTree.merkleRoot false, aliceClaims 55, aliceWithdraws 150,
        adminClawsBack 300]) := by
  refine bystander_undisturbed (sample_reaches _) ?_ ?_
  · intro seeds derived
    exact (bobClaims 55).no_derived_signer seeds bob derived (by decide)
  · intro entry member
    have signers : ∀ tx ∈ [createSample sampleTree.merkleRoot false, aliceClaims 55,
        aliceWithdraws 150, adminClawsBack 300], bob ∉ tx.signers := by decide +kernel
    exact signers entry.input (Run.input_of_play member)

end Sample

end Airdrop
