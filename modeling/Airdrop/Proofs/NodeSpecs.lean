/-
Module: Airdrop.Proofs.NodeSpecs
Purpose: What the transactions of the commands do when the node executes them: the fee
  changes nothing, a token account is created at an unused address, and an instruction of the
  program does what the machine says.
Trusted boundary: none
Main exports: executeTransaction_fees, executeTransaction_program, createAssociated_eq_ok,
  ComputesAddresses
-/
import Airdrop.Cli.Node
import Airdrop.Proofs.Deployment

namespace Airdrop

open Checked Interference

/-! ## Transactions -/

section Transactions

variable {env : Env} {keyring : Keyring env} {clock : Clock} {bank after : Bank}
variable {fee : Option U64} {instructions : List CommandInstruction}

/-- The price of compute units changes no account. -/
@[simp] theorem executeTransaction_fees :
    executeTransaction keyring clock bank
        (fee.toList.map CommandInstruction.setComputeUnitPrice ++ instructions) =
      executeTransaction keyring clock bank instructions := by
  cases fee with
  | none => rfl
  | some price => rfl

theorem executeTransaction_cons {instruction : CommandInstruction} :
    executeTransaction keyring clock bank (instruction :: instructions) = .ok after ↔
      ∃ middle, instruction.execute keyring clock bank = .ok middle ∧
        executeTransaction keyring clock middle instructions = .ok after := by
  rw [executeTransaction, List.foldlM_cons, bind_eq_ok]
  rfl

theorem executeTransaction_singleton {instruction : CommandInstruction} :
    executeTransaction keyring clock bank [instruction] = .ok after ↔
      instruction.execute keyring clock bank = .ok after := by
  rw [executeTransaction_cons]
  constructor
  · rintro ⟨middle, executed, done⟩
    cases done
    exact executed
  · intro executed
    exact ⟨after, executed, rfl⟩

/-- An instruction of the program does what the machine says. -/
theorem executeTransaction_program {instruction : Instruction} :
    executeTransaction keyring clock bank [.program instruction] = .ok after ↔
      ∃ receipt, execute env bank (keyring.transaction clock instruction) = .ok receipt ∧
        after = receipt.bank := by
  rw [executeTransaction_singleton, CommandInstruction.execute, bind_eq_ok]
  simp only [pure_eq, Except.ok.injEq, eq_comm]

/-- A token account is created exactly where there is none, for a mint, by a payer who
signs. -/
theorem createAssociated_eq_ok {signers : List Pubkey} {payer owner mint : Pubkey} :
    createAssociatedTokenAccount env signers bank payer owner mint = .ok after ↔
      (payer ∈ signers ∧ bank mint = some .mint ∧
        bank (env.associatedTokenAddress owner mint) = none) ∧
      after = bank.set (env.associatedTokenAddress owner mint)
        (.token { mint, owner, amount := 0 }) := by
  unfold createAssociatedTokenAccount
  simp only [bind_eq_ok, require_eq_ok, Bank.loadMint_eq_ok, pure_eq, Except.ok.injEq]
  constructor
  · rintro ⟨_, signed, _, isMint, _, free, rfl⟩
    exact ⟨⟨signed, isMint, free⟩, rfl⟩
  · rintro ⟨⟨signed, isMint, free⟩, rfl⟩
    exact ⟨(), signed, (), isMint, (), free, rfl⟩

end Transactions

/-! ## The node -/

/-- The commands compute the addresses that the program derives. -/
structure ComputesAddresses (env : Env) (findProgramAddress : List Bytes → Pubkey → Pubkey × UInt8)
    (associatedTokenAddress : Pubkey → Pubkey → Pubkey) (args : CliArgs) : Prop where
  derived : ∀ seeds, findProgramAddress seeds args.programId = env.findProgramAddress seeds
  associated : associatedTokenAddress = env.associatedTokenAddress

section Answers

variable {env : Env} {keyring : Keyring env} {clocks : Nat → Clock} {world : NodeWorld}
variable {key : Pubkey} {transaction : List CommandInstruction}

theorem answer_account_of_some {account : Account} (present : world.bank key = some account) :
    world.answer keyring clocks (.account key) = (.ok (), world) := by
  simp only [NodeWorld.answer, present]

theorem answer_account_of_none (free : world.bank key = none) :
    world.answer keyring clocks (.account key) = (.error .accountNotFound, world) := by
  simp only [NodeWorld.answer, free]

theorem answer_distributor_of_some {distributor : MerkleDistributor}
    (present : world.bank key = some (.distributor distributor)) :
    world.answer keyring clocks (.distributor key) = (.ok distributor, world) := by
  simp only [NodeWorld.answer, present]

theorem answer_distributor_of_none (absent : world.bank.distributor? key = none) :
    world.answer keyring clocks (.distributor key) = (.error (), world) := by
  rw [NodeWorld.answer]
  split
  case h_1 distributor present =>
    rw [Bank.distributor?_eq_some.mpr present] at absent
    cases absent
  case h_2 => rfl

theorem answer_blockhash :
    world.answer keyring clocks .latestBlockhash = (.ok (), world) := rfl

theorem answer_send_of_ok {after : Bank}
    (executed : executeTransaction keyring (clocks world.sent) world.bank transaction =
      .ok after) :
    world.answer keyring clocks (.send transaction) =
      (.ok (), { bank := after, sent := world.sent + 1 }) := by
  simp only [NodeWorld.answer, executed]

theorem answer_send_of_error {error : ProgramError}
    (refused : executeTransaction keyring (clocks world.sent) world.bank transaction =
      .error error) :
    world.answer keyring clocks (.send transaction) =
      (.error (), { world with sent := world.sent + 1 }) := by
  simp only [NodeWorld.answer, refused]

end Answers

section Sample

/-- The admin signs. -/
def adminKeyring : Keyring sampleEnv where
  keys := (adminClosesBob 57).signers
  no_derived_signer := (adminClosesBob 57).no_derived_signer

end Sample

end Airdrop
