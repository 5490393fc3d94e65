/-
Module: Airdrop.Proofs.Sweeps
Purpose: When a clawback or the closing of a distributor empties the vault: the
  account that receives the tokens may be the vault itself.
Trusted boundary: none
Main exports: Instruction.sweeps, Emptied, SweepsEmpty, emptied_iff,
  sweepsEmpty_iff, sweepsEmpty_of_noAlias
-/
import Airdrop.Proofs.LedgerConservation

namespace Airdrop

open Checked Transition

/-- The vault that an instruction sweeps, and the account that receives it: the
stored receiver at a clawback, the given destination at a closing. -/
def Instruction.sweeps (bank : Bank) : Instruction → Option (Pubkey × Pubkey)
  | .clawback accounts =>
      (bank.distributor? accounts.distributor).map fun distributor =>
        (distributor.tokenVault, distributor.clawbackReceiver)
  | .closeDistributor accounts =>
      (bank.distributor? accounts.distributor).map fun distributor =>
        (distributor.tokenVault, accounts.destinationTokenAccount)
  | _ => none

/-- The vault is empty, and what it held was credited to another token account. -/
structure Emptied (before after : Bank) (vault : Pubkey) : Prop where
  empty : after.balance vault = 0
  credited : before.balance vault = 0 ∨ ∃ other account, other ≠ vault ∧
    before other = some (.token account) ∧
    after.balance other = before.balance other + before.balance vault

/-- An instruction that chooses the account to receive a vault's tokens does not
choose the vault. -/
def Instruction.NoAlias (bank : Bank) : Instruction → Prop
  | .newDistributor accounts _ => accounts.clawbackReceiver ≠ accounts.tokenVault
  | .newDistributor2 accounts _ _ _ =>
      accounts.clawbackReceiver ≠ accounts.tokenVault
  | .setClawbackReceiver accounts =>
      ∀ distributor, bank accounts.distributor = some (.distributor distributor) →
        accounts.newClawbackAccount ≠ distributor.tokenVault
  | .closeDistributor accounts =>
      ∀ distributor, bank accounts.distributor = some (.distributor distributor) →
        accounts.destinationTokenAccount ≠ distributor.tokenVault
  | _ => True

/-- Every successful sweep of a run emptied its vault. -/
def SweepsEmpty {env : Env} (history : History env) : Prop :=
  ∀ commit ∈ commits history,
    ∀ sweep ∈ commit.input.instruction.sweeps commit.before,
      Emptied commit.before commit.outcome.bank sweep.1

/-- No successful sweep of a run found tokens in a vault that was to receive
them itself. -/
def SweepsApart {env : Env} (history : History env) : Prop :=
  ∀ commit ∈ commits history,
    ∀ sweep ∈ commit.input.instruction.sweeps commit.before,
      sweep.2 ≠ sweep.1 ∨ commit.before.balance sweep.1 = 0

instance {env : Env} (history : History env) : Decidable (SweepsApart history) :=
  inferInstanceAs (Decidable (∀ commit ∈ commits history,
    ∀ sweep ∈ commit.input.instruction.sweeps commit.before,
      sweep.2 ≠ sweep.1 ∨ commit.before.balance sweep.1 = 0))

section Sweeps

variable {env : Env} {tx : Transaction env} {bank start : Bank} {receipt : Receipt}
variable {history : History env} {key vault destination : Pubkey}

/-- Exactly when the transfer of a sweep empties the vault. -/
theorem SweepEffect.emptied_iff {distributor : MerkleDistributor}
    {account : TokenAccount} {after : Option MerkleDistributor}
    (effect : SweepEffect bank receipt key destination distributor account after) :
    Emptied bank receipt.bank distributor.tokenVault ↔
      destination ≠ distributor.tokenVault ∨
        bank.balance distributor.tokenVault = 0 := by
  have held : bank.balance distributor.tokenVault = account.amount.toNat :=
    Bank.balance_of_token effect.isVault
  have left := effect.tokens.balance effect.isVault
  obtain ⟨receiver, isReceiver⟩ := effect.isDestination
  have arrived := effect.tokens.balance isReceiver
  rw [effect.transfers, outflow_singleton, inflow_singleton] at left arrived
  by_cases same : destination = distributor.tokenVault
  · -- The vault pays itself, so its balance stays.
    simp only [same, ne_eq, not_true, and_false, if_false, Nat.add_zero] at left
    constructor
    · intro emptied
      right
      rw [← left]
      exact emptied.empty
    · intro alternative
      rcases alternative with apart | nothing
      · exact absurd same apart
      · exact ⟨left.trans nothing, .inl nothing⟩
  · have apart : distributor.tokenVault ≠ destination := Ne.symm same
    rw [if_pos ⟨rfl, same⟩, if_neg (fun both => same both.1)] at left
    rw [if_neg (fun both => apart both.1), if_pos ⟨rfl, apart⟩] at arrived
    simp only [Nat.add_zero] at left arrived
    constructor
    · intro _
      exact .inl same
    · intro _
      refine ⟨by omega, .inr ⟨destination, receiver, same, isReceiver, ?_⟩⟩
      rw [held]
      exact arrived

/-- Exactly when a successful sweep empties the vault. -/
theorem emptied_iff (accepted : execute env bank tx = .ok receipt)
    (sweeps : tx.instruction.sweeps bank = some (vault, destination)) :
    Emptied bank receipt.bank vault ↔
      destination ≠ vault ∨ bank.balance vault = 0 := by
  cases committed accepted with
  | @created other after creation effect =>
      generalize tx.instruction = instruction at creation sweeps
      cases creation <;> simp [Instruction.sweeps] at sweeps
  | claimed instruction checks effect => simp [instruction, Instruction.sweeps] at sweeps
  | withdrawn instruction checks effect =>
      simp [instruction, Instruction.sweeps] at sweeps
  | clawedBack instruction checks effect =>
      simp only [instruction, Instruction.sweeps,
        Bank.distributor?_eq_some.mpr effect.isDistributor, Option.map_some,
        Option.some.injEq, Prod.mk.injEq] at sweeps
      obtain ⟨rfl, rfl⟩ := sweeps
      exact effect.emptied_iff
  | closed instruction checks effect =>
      simp only [instruction, Instruction.sweeps,
        Bank.distributor?_eq_some.mpr effect.isDistributor, Option.map_some,
        Option.some.injEq, Prod.mk.injEq] at sweeps
      obtain ⟨rfl, rfl⟩ := sweeps
      exact effect.emptied_iff
  | statusClosed instruction checks noTransfer distributors statuses tokens =>
      simp [instruction, Instruction.sweeps] at sweeps
  | tuned tuning effect =>
      generalize tx.instruction = instruction at tuning sweeps
      cases tuning <;> simp [Instruction.sweeps] at sweeps
  | transferred instruction signed effect transfers =>
      simp [instruction, Instruction.sweeps] at sweeps

/-- In every run, every successful clawback and every successful closing empties
its vault exactly when none of them found tokens in a vault that was to receive
them itself. -/
theorem sweepsEmpty_iff (run : Reaches env start history bank) :
    SweepsEmpty history ↔ SweepsApart history := by
  have each {commit : Commit Bank (Transaction env) Receipt}
      (member : commit ∈ commits history) {sweep : Pubkey × Pubkey}
      (sweeps : sweep ∈ commit.input.instruction.sweeps commit.before) :
      Emptied commit.before commit.outcome.bank sweep.1 ↔
        sweep.2 ≠ sweep.1 ∨ commit.before.balance sweep.1 = 0 := by
    obtain ⟨later, earlier, _, _, accepted, _⟩ := run.commit_of_mem member
    exact emptied_iff accepted sweeps
  constructor
  · intro empty commit member sweep sweeps
    exact (each member sweeps).mp (empty commit member sweep sweeps)
  · intro apart commit member sweep sweeps
    exact (each member sweeps).mpr (apart commit member sweep sweeps)

/-- Where no instruction of a run chose a vault to receive its own tokens, no
distributor has its vault for a receiver. -/
theorem receiver_apart (genesis : Genesis start)
    (run : Reaches env start history bank)
    (noAlias : ∀ commit ∈ commits history,
      commit.input.instruction.NoAlias commit.before) :
    ∀ key distributor, bank key = some (.distributor distributor) →
      distributor.clawbackReceiver ≠ distributor.tokenVault := by
  refine Run.commit_invariant (fun done (bank : Bank) =>
    (∀ commit ∈ done, commit.input.instruction.NoAlias commit.before) →
      ∀ key distributor, bank key = some (.distributor distributor) →
        distributor.clawbackReceiver ≠ distributor.tokenVault) ?_ ?_ run noAlias
  · intro _ key distributor found
    exact absurd found ((genesis key).1 distributor)
  · intro history bank tx receipt _ holds accepted noAlias key distributor found
    have sofar := holds fun commit member =>
      noAlias commit (List.mem_cons_of_mem _ member)
    have now : tx.instruction.NoAlias bank := noAlias _ List.mem_cons_self
    change receipt.bank key = some (.distributor distributor) at found
    cases distributorStep accepted key with
    | other elsewhere same notPaid =>
        rw [← Bank.distributor?_eq_some, same, Bank.distributor?_eq_some] at found
        exact sofar key distributor found
    | created creation effect =>
        obtain rfl := Bank.eq_of_update found effect.distributors
        generalize tx.instruction = instruction at creation now
        cases creation with
        | plain here written => exact written ▸ now
        | withBonus here isMax written => exact written ▸ now
    | claimed instruction here checks effect =>
        have kept := sofar key _ effect.isDistributor
        obtain rfl := Bank.eq_of_update found effect.distributors
        exact kept
    | withdrawn instruction here checks effect =>
        have kept := sofar key _ effect.isDistributor
        obtain rfl := Bank.eq_of_update found effect.distributors
        exact kept
    | clawedBack instruction here checks effect =>
        have kept := sofar key _ effect.isDistributor
        obtain rfl := Bank.eq_of_update found effect.distributors
        exact kept
    | closed instruction here checks effect =>
        rw [← Bank.distributor?_eq_some, effect.distributors, Function.update_self]
          at found
        exact absurd found (by simp)
    | tuned tuning effect =>
        have present := effect.isDistributor
        have kept := sofar key _ present
        obtain rfl := Bank.eq_of_update found effect.distributors
        generalize tx.instruction = instruction at tuning now
        cases tuning with
        | activationPoint here => exact kept
        | clawbackReceiver here =>
            have chosen := now _ (here ▸ present)
            exact chosen
        | admin here => exact kept

/-- A run in which nobody chooses a vault to receive its own tokens empties every
vault that it sweeps. -/
theorem sweepsEmpty_of_noAlias (genesis : Genesis start)
    (run : Reaches env start history bank)
    (noAlias : ∀ commit ∈ commits history,
      commit.input.instruction.NoAlias commit.before) : SweepsEmpty history := by
  intro commit member sweep sweeps
  obtain ⟨later, earlier, split, reached, accepted, _⟩ := run.commit_of_mem member
  refine (emptied_iff accepted sweeps).mpr (.inl ?_)
  have apart := receiver_apart genesis reached fun other isEarlier =>
    noAlias other (by simp [split, isEarlier])
  have now := noAlias commit member
  cases instruction : commit.input.instruction with
  | clawback accounts =>
      rw [instruction] at sweeps
      obtain ⟨distributor, found, rfl⟩ := Option.map_eq_some_iff.mp sweeps
      exact apart _ distributor (Bank.distributor?_eq_some.mp found)
  | closeDistributor accounts =>
      rw [instruction] at sweeps now
      obtain ⟨distributor, found, rfl⟩ := Option.map_eq_some_iff.mp sweeps
      exact now distributor (Bank.distributor?_eq_some.mp found)
  | _ =>
      rw [instruction] at sweeps
      exact absurd sweeps (by simp [Instruction.sweeps])

end Sweeps

theorem sweepsEmpty_iff_sample :
    SweepsEmpty (sampleHistory [createSample sampleTree.merkleRoot false,
      aliceClaims 55, adminClawsBack 300]) :=
  (sweepsEmpty_iff (sample_reaches _)).mpr (by decide +kernel)

/-- The admin names the vault as its own receiver; at 300 anyone claws it back
to itself.  The distributor is marked as clawed back with all its tokens. -/
theorem clawback_keeps_vault :
    Genesis sampleBank ∧
      Reaches sampleEnv sampleBank
        (sampleHistory [createSample sampleTree.merkleRoot false, adminAliases 20,
          aliceClawsBack 300])
        (sampleAfter [createSample sampleTree.merkleRoot false, adminAliases 20,
          aliceClawsBack 300]) ∧
      (sampleAfter [createSample sampleTree.merkleRoot false, adminAliases 20,
        aliceClawsBack 300]).balance sampleVault = 220 ∧
      ¬ SweepsEmpty (sampleHistory [createSample sampleTree.merkleRoot false,
        adminAliases 20, aliceClawsBack 300]) := by
  refine ⟨sampleBank_genesis, sample_reaches _, by decide +kernel, ?_⟩
  intro empty
  have stuck : ∃ commit ∈ commits (sampleHistory
      [createSample sampleTree.merkleRoot false, adminAliases 20,
        aliceClawsBack 300]),
      ∃ sweep ∈ commit.input.instruction.sweeps commit.before,
        commit.outcome.bank.balance sweep.1 ≠ 0 := by
    decide +kernel
  obtain ⟨commit, member, sweep, sweeps, notEmpty⟩ := stuck
  exact notEmpty (empty commit member sweep sweeps).empty

end Airdrop
