/-
Module: Airdrop.Proofs.Funding
Purpose: When the command that funds the vaults funds each distributor at most once, and
  none that was clawed back, while other transactions are executed.
Trusted boundary: none
Main exports: FundCall.decided?, UnderWay, VaultsLeftAlone, FundStep, FundGood, Unfunded,
  processFundAllLoop_conducts, fundSystem_safe, funded_once
-/
import Airdrop.Cli.FundAll
import Airdrop.Library.Custody
import Airdrop.Proofs.KvExport
import Airdrop.Proofs.LedgerConservation

namespace Airdrop

open Checked Transition Interference

/-! ## The condition -/

/-- The world and the runs of the command. -/
abbrev FundConfiguration : Type :=
  Configuration FundWorld FundCall FundCall.Answer (Except (Stop String) Unit)

/-- The distributor that a pass has decided to fund when it makes this call: it has read the
vault, and has not yet sent its transaction. -/
def FundCall.decided? : FundCall → Option Pubkey
  | .latestBlockhash key => some key
  | .send transaction => some transaction.distributor
  | .distributor _ => none
  | .tokenAccount _ _ => none
  | .confirm _ => none

/-- The funding of a distributor is under way: between the read of its vault by some pass and
the end of the transaction that the pass sends. -/
def UnderWay (configuration : FundConfiguration) (key : Pubkey) : Prop :=
  (∃ pass ∈ configuration.programs, pass.held FundCall.decided? = some key) ∨
    ∃ transaction ∈ configuration.world.mempool.inFlight, transaction.distributor = key

/-- The moment is one for a read of the vault: no funding of the distributor is under way, the
vault still holds as much as funding transactions have moved into it, and the distributor is
not clawed back. -/
def ReadInPeace (configuration : FundConfiguration) : FundCall → Prop
  | .tokenAccount key vault =>
      ¬ UnderWay configuration key ∧
        configuration.world.funded key ≤ configuration.world.bank.balance vault ∧
        FundWorld.isClawedBack configuration.world.bank key = false
  | _ => True

/-- The others leave a vault alone that is being funded.  A vault is read in peace, no
distributor is clawed back while its funding is under way, and none is closed.  Errors,
submissions, executions and expiries are not restricted. -/
def VaultsLeftAlone {env : Env} (configuration : FundConfiguration) :
    Input FundReply (FundEvent env) FundAllJob → Prop
  | .call position .found =>
      ∀ call ∈ configuration.programs[position]?.bind Program.request?,
        ReadInPeace configuration call
  | .event (.transaction tx) =>
      tx.instruction.closed = none ∧
        ∀ key ∈ tx.instruction.clawedBack, ¬ UnderWay configuration key
  | _ => True

section Decidable

variable {configuration : FundConfiguration}

instance (key : Pubkey) : Decidable (UnderWay configuration key) :=
  inferInstanceAs (Decidable (_ ∨ _))

instance : (call : FundCall) → Decidable (ReadInPeace configuration call)
  | .tokenAccount key vault => inferInstanceAs (Decidable
      (¬ UnderWay configuration key ∧
        configuration.world.funded key ≤ configuration.world.bank.balance vault ∧
        FundWorld.isClawedBack configuration.world.bank key = false))
  | .distributor _ => inferInstanceAs (Decidable True)
  | .latestBlockhash _ => inferInstanceAs (Decidable True)
  | .send _ => inferInstanceAs (Decidable True)
  | .confirm _ => inferInstanceAs (Decidable True)

instance {env : Env} : (input : Input FundReply (FundEvent env) FundAllJob) →
    Decidable (VaultsLeftAlone configuration input)
  | .start _ => inferInstanceAs (Decidable True)
  | .call position .found => inferInstanceAs (Decidable
      (∀ call ∈ configuration.programs[position]?.bind Program.request?,
        ReadInPeace configuration call))
  | .call _ (.blockhash _) => inferInstanceAs (Decidable True)
  | .call _ (.failed _) => inferInstanceAs (Decidable True)
  | .event (.transaction tx) => inferInstanceAs (Decidable
      (tx.instruction.closed = none ∧
        ∀ key ∈ tx.instruction.clawedBack, ¬ UnderWay configuration key))
  | .event (.execute _) => inferInstanceAs (Decidable True)
  | .event (.expire _) => inferInstanceAs (Decidable True)

end Decidable

/-! ## What happens to the distributors -/

/-- Every distributor is still there, on the same terms. -/
def TermsKept (before after : Bank) : Prop :=
  ∀ key found, before key = some (.distributor found) →
    ∃ current, after key = some (.distributor current) ∧ SameTerms found current

theorem TermsKept.refl (bank : Bank) : TermsKept bank bank :=
  fun _ found present => ⟨found, present, .refl found⟩

theorem TermsKept.trans {one two three : Bank} (first : TermsKept one two)
    (second : TermsKept two three) : TermsKept one three := by
  intro key found present
  rcases first key found present with ⟨middle, isMiddle, same⟩
  rcases second key middle isMiddle with ⟨current, isCurrent, further⟩
  exact ⟨current, isCurrent, same.trans further⟩

theorem TermsKept.of_views {before after : Bank}
    (same : after.distributor? = before.distributor?) : TermsKept before after := by
  intro key found present
  refine ⟨found, ?_, .refl found⟩
  rw [← Bank.distributor?_eq_some, same, Bank.distributor?_eq_some, present]

theorem isClawedBack_eq (bank : Bank) (key : Pubkey) :
    FundWorld.isClawedBack bank key =
      (bank.distributor? key).any MerkleDistributor.clawedBack := by
  rw [FundWorld.isClawedBack, Bank.distributor?]
  cases bank key with
  | none => rfl
  | some account => cases account <;> rfl

theorem isClawedBack_of_some {bank : Bank} {key : Pubkey} {distributor : MerkleDistributor}
    (present : bank key = some (.distributor distributor)) :
    FundWorld.isClawedBack bank key = distributor.clawedBack := by
  rw [FundWorld.isClawedBack, present]

theorem isClawedBack_of_update {before after : Bank} {key : Pubkey}
    {left : Option MerkleDistributor}
    (views : after.distributor? = Function.update before.distributor? key left) :
    FundWorld.isClawedBack after key = left.any MerkleDistributor.clawedBack := by
  rw [isClawedBack_eq, views, Function.update_self]

/-- Only a clawback sets the mark. -/
theorem isClawedBack_kept {env : Env} {tx : Transaction env} {bank : Bank}
    {receipt : Receipt} {key : Pubkey}
    (accepted : execute env bank tx = .ok receipt)
    (notNow : tx.instruction.clawedBack ≠ some key)
    (notClawedBack : FundWorld.isClawedBack bank key = false) :
    FundWorld.isClawedBack receipt.bank key = false := by
  cases distributorStep accepted key with
  | other elsewhere same notPaid =>
      rw [isClawedBack_eq, same, ← isClawedBack_eq, notClawedBack]
  | created creation effect =>
      rw [isClawedBack_of_update effect.distributors]
      exact effect.unclaimed.2.2.2
  | claimed instruction here checks effect =>
      rw [isClawedBack_of_some effect.isDistributor] at notClawedBack
      rw [isClawedBack_of_update effect.distributors]
      exact notClawedBack
  | withdrawn instruction here checks effect =>
      rw [isClawedBack_of_some effect.isDistributor] at notClawedBack
      rw [isClawedBack_of_update effect.distributors]
      exact notClawedBack
  | clawedBack instruction here checks effect =>
      refine absurd ?_ notNow
      rw [instruction]
      exact congrArg some here
  | closed instruction here checks effect =>
      rw [isClawedBack_of_update effect.distributors]
      rfl
  | tuned tuning effect =>
      rw [isClawedBack_of_some effect.isDistributor] at notClawedBack
      rw [isClawedBack_of_update effect.distributors, effect.retuned]
      exact notClawedBack

/-! ## What a pass does -/

/-- Nothing was sent for the distributor that is in flight or was executed, and it is not
clawed back.  A pass that has decided to fund it relies on this. -/
def Unfunded (world : FundWorld) (key : Pubkey) : Prop :=
  (∀ other ∈ world.mempool.live FundOutcome.succeeded, other.distributor ≠ key) ∧
    FundWorld.isClawedBack world.bank key = false

/-- What a call of a pass makes of the world, and the distributor that the pass has decided to
fund after it: it decides on one whose vault it found below the cap, and submits a transaction
that moves the cap. -/
inductive FundStep (world : FundWorld) :
    FundCall → FundReply → Option Pubkey → FundWorld → Prop where
  | undecided {call : FundCall} {reply : FundReply} : FundStep world call reply none world
  | decided {key vault : Pubkey} {account : TokenAccount} {distributor : MerkleDistributor}
      (isVault : world.bank vault = some (.token account))
      (present : world.bank key = some (.distributor distributor))
      (below : account.amount.toNat < distributor.maxTotalClaim.toNat) :
      FundStep world (.tokenAccount key vault) .found (some key) world
  | prepared {key : Pubkey} {reply : FundReply} :
      FundStep world (.latestBlockhash key) reply (some key) world
  | sent {transaction : FundTransaction} {reply : FundReply} {distributor : MerkleDistributor}
      (present : world.bank transaction.distributor = some (.distributor distributor))
      (cap : transaction.amount = distributor.maxTotalClaim) :
      FundStep world (.send transaction) reply none (world.submit transaction)

/-- What holds of the transactions that are in flight or were executed: there is one for
each distributor at most, it moves the cap, and it met no distributor that was clawed
back. -/
structure FundGood (world : FundWorld) : Prop where
  exclusive : ∀ key, world.mempool.Exclusive FundOutcome.succeeded (·.distributor = key)
  cap : ∀ transaction ∈ world.mempool.live FundOutcome.succeeded,
    ∃ distributor, world.bank transaction.distributor = some (.distributor distributor) ∧
      transaction.amount = distributor.maxTotalClaim
  stillOpen : ∀ transaction ∈ world.mempool.inFlight,
    FundWorld.isClawedBack world.bank transaction.distributor = false
  notClawedBack : ∀ transaction mark,
    (transaction, FundOutcome.executed mark) ∈ world.mempool.settled → mark = false

/-- Submitting a transaction for an unfunded distributor. -/
theorem FundGood.submit {world : FundWorld} {transaction : FundTransaction}
    {distributor : MerkleDistributor} (good : FundGood world)
    (unfunded : Unfunded world transaction.distributor)
    (present : world.bank transaction.distributor = some (.distributor distributor))
    (cap : transaction.amount = distributor.maxTotalClaim) :
    FundGood (world.submit transaction) := by
  constructor
  · intro key
    refine (good.exclusive key).submit ?_
    rintro rfl other isOther
    exact unfunded.1 other isOther
  · intro other isOther
    rcases Mempool.mem_live_submit isOther with rfl | isOther
    · exact ⟨distributor, present, cap⟩
    · exact good.cap other isOther
  · intro other flying
    rcases Mempool.mem_inFlight_submit flying with rfl | flying
    · exact unfunded.2
    · exact good.stillOpen other flying
  · intro other mark entry
    have same : (world.submit transaction).mempool.settled = world.mempool.settled :=
      Mempool.settled_submit
    rw [same] at entry
    exact good.notClawedBack other mark entry

/-- What a transaction moved into a vault is part of what was funded. -/
theorem FundWorld.amount_le_funded {world : FundWorld} {transaction : FundTransaction}
    (success : transaction ∈ world.mempool.successes FundOutcome.succeeded) :
    transaction.amount.toNat ≤ world.funded transaction.distributor := by
  unfold FundWorld.funded
  apply List.single_le_sum (fun amount _ => Nat.zero_le amount)
  exact List.mem_map.mpr ⟨transaction, success, if_pos rfl⟩

/-- A distributor whose vault was read in peace, and was found below the cap, is unfunded: had
its cap been moved before, the vault would still hold it. -/
theorem FundGood.unfunded {configuration : FundConfiguration} {key vault : Pubkey}
    {account : TokenAccount} {distributor : MerkleDistributor}
    (good : FundGood configuration.world)
    (peace : ReadInPeace configuration (.tokenAccount key vault))
    (isVault : configuration.world.bank vault = some (.token account))
    (present : configuration.world.bank key = some (.distributor distributor))
    (below : account.amount.toNat < distributor.maxTotalClaim.toNat) :
    Unfunded configuration.world key := by
  obtain ⟨idle, stillThere, stillOpen⟩ := peace
  refine ⟨fun other isLive here => ?_, stillOpen⟩
  rcases List.mem_append.mp isLive with flying | success
  · exact idle (.inr ⟨other, flying, here⟩)
  · obtain ⟨found, isFound, cap⟩ := good.cap other isLive
    rw [here] at isFound
    obtain rfl := Bank.distributor_unique isFound present
    have part := FundWorld.amount_le_funded success
    rw [here, cap] at part
    rw [Bank.balance_of_token isVault] at stillThere
    omega

section Answers

variable {world left : FundWorld} {reply : FundReply}

/-- An account that was read is there, and nothing changes. -/
theorem answer_distributor {address : Pubkey} {result : Except Unit MerkleDistributor}
    (answered : world.answer (.distributor address) reply = some (result, left)) :
    left = world ∧ ∀ distributor, result = .ok distributor →
      world.bank address = some (.distributor distributor) := by
  cases reply with
  | blockhash blockhash => simp [FundWorld.answer] at answered
  | failed submitted =>
      cases answered
      exact ⟨rfl, by simp⟩
  | found =>
      rw [FundWorld.answer] at answered
      split at answered
      · cases answered
        exact ⟨rfl, by simpa using by assumption⟩
      · cases answered
        exact ⟨rfl, by simp⟩

/-- A vault that was read is there, and nothing changes. -/
theorem answer_tokenAccount {key address : Pubkey} {result : Except Unit TokenAccount}
    (answered : world.answer (.tokenAccount key address) reply = some (result, left)) :
    left = world ∧ ∀ account, result = .ok account →
      reply = .found ∧ world.bank address = some (.token account) := by
  cases reply with
  | blockhash blockhash => simp [FundWorld.answer] at answered
  | failed submitted =>
      cases answered
      exact ⟨rfl, by simp⟩
  | found =>
      rw [FundWorld.answer] at answered
      split at answered
      · cases answered
        exact ⟨rfl, by simpa using by assumption⟩
      · cases answered
        exact ⟨rfl, by simp⟩

theorem answer_latestBlockhash {key : Pubkey} {result : Except Unit Hash}
    (answered : world.answer (.latestBlockhash key) reply = some (result, left)) :
    left = world := by
  cases reply with
  | found => simp [FundWorld.answer] at answered
  | blockhash blockhash =>
      cases answered
      rfl
  | failed submitted =>
      cases answered
      rfl

theorem answer_send {transaction : FundTransaction} {result : Except Unit Unit}
    (answered : world.answer (.send transaction) reply = some (result, left)) :
    left = world ∨ left = world.submit transaction := by
  cases reply with
  | blockhash blockhash => simp [FundWorld.answer] at answered
  | found =>
      cases answered
      exact .inr rfl
  | failed submitted =>
      cases submitted with
      | false =>
          cases answered
          exact .inl rfl
      | true =>
          cases answered
          exact .inr rfl

theorem answer_confirm {transaction : FundTransaction} {result : Except Unit Unit}
    (answered : world.answer (.confirm transaction) reply = some (result, left)) :
    left = world := by
  cases reply with
  | blockhash blockhash => simp [FundWorld.answer] at answered
  | failed submitted =>
      cases answered
      rfl
  | found =>
      rw [FundWorld.answer] at answered
      split at answered
      · cases answered
        rfl
      · cases answered

end Answers

section Passes

variable (findProgramAddress : List Bytes → Pubkey → Pubkey × UInt8)
variable (associatedTokenAddress : Pubkey → Pubkey → Pubkey)
variable (args : CliArgs) (wallet : WalletArgs)

/-- The program takes funding steps only, as long as no distributor loses its terms. -/
abbrev FundConducts {Result : Type} (program : FundProgram Result) (world : FundWorld) :
    Prop :=
  Conducts FundCall.decided? FundWorld.answer (fun one two => TermsKept one.bank two.bank)
    FundStep program world

/-- The amount that is sent was read from the distributor, whose terms are the same when it
is sent. -/
theorem sendAndConfirm_conducts {world : FundWorld} {transaction : FundTransaction}
    {distributor : MerkleDistributor}
    (present : world.bank transaction.distributor = some (.distributor distributor))
    (cap : transaction.amount = distributor.maxTotalClaim) :
    FundConducts (sendAndConfirm transaction) world := by
  intro found change reply answer left answered
  rcases change _ _ present with ⟨current, isCurrent, same⟩
  have step : FundStep found (.send transaction) reply none left := by
    rcases answer_send answered with rfl | rfl
    · exact .undecided
    · exact .sent isCurrent (cap.trans same.maxTotalClaim.symm)
  cases answer with
  | error failure => exact ⟨step, trivial⟩
  | ok _ =>
      refine ⟨step, ?_⟩
      intro found change reply answer left answered
      rw [answer_confirm answered]
      exact ⟨.undecided, trivial⟩

variable (findProgramAddress : List Bytes → Pubkey → Pubkey × UInt8)
variable (associatedTokenAddress : Pubkey → Pubkey → Pubkey)
variable (args : CliArgs) (wallet : WalletArgs)

/-- A pass over the files begins with a call for a distributor, if with any. -/
theorem fundAllLoop_idle (files : List TreeFile) (isError : Bool) :
    (fundAllLoop findProgramAddress associatedTokenAddress args wallet files isError).held
      FundCall.decided? = none := by
  cases files with
  | nil => cases isError <;> rfl
  | cons file files => rfl

theorem fundAllLoop_conducts (files : List TreeFile) (isError : Bool) (world : FundWorld) :
    FundConducts (fundAllLoop findProgramAddress associatedTokenAddress args wallet files
      isError) world := by
  induction files generalizing isError world with
  | nil => cases isError <;> trivial
  | cons file files inductionHypothesis =>
      rw [fundAllLoop]
      intro found change reply answer left answered
      obtain ⟨rfl, read⟩ := answer_distributor answered
      cases answer with
      | error failure => exact ⟨.undecided, trivial⟩
      | ok distributorState =>
          have present := read distributorState rfl
          refine ⟨.undecided, ?_⟩
          intro later change reply answer left answered
          obtain ⟨rfl, readVault⟩ := answer_tokenAccount answered
          cases answer with
          | error failure => exact ⟨.undecided, trivial⟩
          | ok tokenVaultState =>
              rcases change _ _ present with ⟨current, isCurrent, same⟩
              obtain ⟨rfl, isVault⟩ := readVault tokenVaultState rfl
              change FundStep left _ _ (Program.held FundCall.decided?
                  (if distributorState.maxTotalClaim ≤ tokenVaultState.amount then _ else _))
                  left ∧
                FundConducts
                  (if distributorState.maxTotalClaim ≤ tokenVaultState.amount then _ else _) left
              by_cases already : distributorState.maxTotalClaim ≤ tokenVaultState.amount
              · rw [if_pos already, fundAllLoop_idle]
                exact ⟨.undecided, inductionHypothesis isError left⟩
              · rw [if_neg already]
                rw [BitVec.le_def, not_le, ← same.maxTotalClaim] at already
                refine ⟨.decided isVault isCurrent already, ?_⟩
                intro found change reply answer left answered
                obtain rfl := answer_latestBlockhash answered
                cases answer with
                | error failure => exact ⟨.undecided, trivial⟩
                | ok blockhash =>
                    rcases change _ _ isCurrent with ⟨last, isLast, further⟩
                    refine ⟨.prepared, ?_⟩
                    change FundConducts (sendAndConfirm _ >>= _) left
                    apply Conducts.bind
                    · apply sendAndConfirm_conducts isLast
                      exact (same.trans further).maxTotalClaim.symm
                    · intro result
                      cases result <;> exact fundAllLoop_idle ..
                    · intro result world
                      cases result with
                      | error failure => exact inductionHypothesis true world
                      | ok _ => exact inductionHypothesis isError world

/-- A program of the command that starts undecided. -/
structure FundPass {Result : Type} (program : FundProgram Result) : Prop where
  idle : program.held FundCall.decided? = none
  conducts : ∀ world, FundConducts program world

theorem FundPass.done {Result : Type} (result : Result) :
    FundPass (pure result : FundProgram Result) :=
  ⟨rfl, fun _ => trivial⟩

theorem FundPass.bind {Result Next : Type} {first : FundProgram Result}
    {next : Result → FundProgram Next} (pass : FundPass first)
    (passes : ∀ result, FundPass (next result)) : FundPass (first >>= next) where
  idle := Program.held_bind pass.idle fun result => (passes result).idle
  conducts := fun world => (pass.conducts world).bind (fun result => (passes result).idle)
    fun result left => (passes result).conducts left

theorem fundAll_pass (listing : List TreeFile) :
    FundPass (fundAll findProgramAddress associatedTokenAddress args wallet listing) :=
  ⟨fundAllLoop_idle .., fun world => fundAllLoop_conducts _ _ _ _ _ _ world⟩

theorem processFundAllLoop_pass (listing : List TreeFile) (counter : Nat) :
    FundPass (processFundAllLoop findProgramAddress associatedTokenAddress args wallet listing
      counter) := by
  induction counter with
  | zero => exact .done _
  | succ i inductionHypothesis =>
      rw [processFundAllLoop]
      apply (fundAll_pass ..).bind
      intro result
      cases result with
      | ok _ => exact .done _
      | error stop =>
          cases stop with
          | panic => exact .done _
          | err message =>
              dsimp only
              split
              case isFalse => exact inductionHypothesis
              case isTrue =>
                -- the last attempt is made twice
                apply (fundAll_pass ..).bind
                intro result
                cases result with
                | ok _ => exact inductionHypothesis
                | error stop => exact .done _

end Passes

/-! ## What others do -/

section Events

variable {env : Env} {world left : FundWorld}

/-- Settling a transaction leaves the rest as good as it was. -/
theorem FundGood.settle {mempool : Mempool FundTransaction FundOutcome}
    {transaction : FundTransaction} {outcome : FundOutcome} {bank : Bank}
    (good : FundGood world) (kept : TermsKept world.bank bank)
    (marks : ∀ key, FundWorld.isClawedBack world.bank key = false →
      FundWorld.isClawedBack bank key = false)
    (settled : world.mempool.settle transaction outcome = some mempool)
    (clean : ∀ mark, outcome = .executed mark → mark = false) :
    FundGood { bank, mempool } := by
  obtain ⟨pending, flying, entries⟩ := Mempool.settle_eq_some.mp settled
  constructor
  · intro key
    exact (good.exclusive key).settle settled
  · intro other isOther
    rcases good.cap other (Mempool.mem_live_settle settled isOther) with
      ⟨distributor, present, cap⟩
    rcases kept _ _ present with ⟨current, isCurrent, same⟩
    exact ⟨current, isCurrent, cap.trans same.maxTotalClaim.symm⟩
  · intro other isOther
    rw [flying] at isOther
    exact marks _ (good.stillOpen other (List.mem_of_mem_erase isOther))
  · intro other mark entry
    rw [entries] at entry
    rcases List.mem_cons.mp entry with here | earlier
    · cases here
      exact clean mark rfl
    · exact good.notClawedBack other mark earlier

/-- An unfunded distributor stays so when a transaction is settled. -/
theorem Unfunded.settle {mempool : Mempool FundTransaction FundOutcome}
    {transaction : FundTransaction} {outcome : FundOutcome} {bank : Bank} {key : Pubkey}
    (unfunded : Unfunded world key)
    (marks : ∀ key, FundWorld.isClawedBack world.bank key = false →
      FundWorld.isClawedBack bank key = false)
    (settled : world.mempool.settle transaction outcome = some mempool) :
    Unfunded { bank, mempool } key :=
  ⟨fun other isLive => unfunded.1 other (Mempool.mem_live_settle settled isLive),
    marks key unfunded.2⟩

/-- The execution of a transaction of others that closes no distributor, and claws back none
whose funding is under way. -/
theorem FundGood.transaction {tx : Transaction env} {receipt : Receipt} (good : FundGood world)
    (accepted : execute env world.bank tx = .ok receipt)
    (notClosed : tx.instruction.closed = none)
    (later : ∀ sent ∈ world.mempool.inFlight,
      tx.instruction.clawedBack ≠ some sent.distributor) :
    TermsKept world.bank receipt.bank ∧ FundGood { world with bank := receipt.bank } := by
  have kept : TermsKept world.bank receipt.bank := by
    intro key found present
    apply terms_kept accepted _ present
    rw [notClosed]
    exact nofun
  refine ⟨kept, good.exclusive, ?_, ?_, good.notClawedBack⟩
  · intro other isOther
    rcases good.cap other isOther with ⟨distributor, present, cap⟩
    rcases kept _ _ present with ⟨current, isCurrent, same⟩
    exact ⟨current, isCurrent, cap.trans same.maxTotalClaim.symm⟩
  · intro other flying
    exact isClawedBack_kept accepted (later other flying) (good.stillOpen other flying)

/-- The execution of a funding transaction keeps the terms of every distributor, what holds of
the transactions, and every unfunded distributor. -/
theorem FundGood.executed {transaction : FundTransaction} (good : FundGood world)
    (changed : world.change (.execute transaction : FundEvent env) = some left) :
    TermsKept world.bank left.bank ∧ FundGood left ∧
      ∀ key, Unfunded world key → Unfunded left key := by
  rw [FundWorld.change] at changed
  split at changed
  case h_1 bank moved =>
    obtain ⟨mempool, settled, same⟩ := Option.bind_eq_some_iff.mp changed
    cases same
    have views := (tokenTransfer_effect moved).1.distributors
    have kept := TermsKept.of_views views
    have marks (key : Pubkey) (stillOpen : FundWorld.isClawedBack world.bank key = false) :
        FundWorld.isClawedBack bank key = false := by
      rw [isClawedBack_eq, views, ← isClawedBack_eq, stillOpen]
    refine ⟨kept, good.settle kept marks settled ?_,
      fun key unfunded => unfunded.settle marks settled⟩
    intro mark outcome
    cases outcome
    exact good.stillOpen _ (Mempool.settle_eq_some.mp settled).1
  case h_2 =>
    obtain ⟨mempool, settled, same⟩ := Option.bind_eq_some_iff.mp changed
    cases same
    exact ⟨.refl _, good.settle (.refl _) (fun _ => id) settled (by simp),
      fun key unfunded => unfunded.settle (fun _ => id) settled⟩

/-- So does its expiry. -/
theorem FundGood.expired {transaction : FundTransaction} (good : FundGood world)
    (changed : world.change (.expire transaction : FundEvent env) = some left) :
    TermsKept world.bank left.bank ∧ FundGood left ∧
      ∀ key, Unfunded world key → Unfunded left key := by
  obtain ⟨mempool, settled, same⟩ := Option.bind_eq_some_iff.mp changed
  cases same
  exact ⟨.refl _, good.settle (.refl _) (fun _ => id) settled (by simp),
    fun key unfunded => unfunded.settle (fun _ => id) settled⟩

end Events

/-! ## Runs -/

/-- The premises of the rule for runs. -/
theorem fundSystem_safe (env : Env)
    (findProgramAddress : List Bytes → Pubkey → Pubkey × UInt8)
    (associatedTokenAddress : Pubkey → Pubkey → Pubkey) :
    Safekeeping (fundSystem env findProgramAddress associatedTokenAddress)
      FundCall.decided? VaultsLeftAlone (fun one two => TermsKept one.bank two.bank) FundStep
      Unfunded FundGood where
  refl := fun world => .refl world.bank
  trans := TermsKept.trans
  started := fun _ => (processFundAllLoop_pass ..).conducts
  idle := fun _ => (processFundAllLoop_pass ..).idle
  called := by
    intro before position call reply next left good leftAlone asked mine step
    cases step with
    | undecided =>
        exact ⟨.refl _, good, fun _ _ unfunded => unfunded, by simp⟩
    | @decided key vault account distributor isVault present below =>
        have peace := leftAlone _ asked
        refine ⟨.refl _, good, fun _ _ unfunded => unfunded, ?_⟩
        intro taken isTaken
        obtain rfl := Option.mem_some.mp isTaken
        refine ⟨good.unfunded peace isVault present below, .inr ?_⟩
        intro pass member held
        exact peace.1 (.inl ⟨pass, member, held⟩)
    | @prepared key reply =>
        refine ⟨.refl _, good, fun _ _ unfunded => unfunded, ?_⟩
        intro taken isTaken
        exact ⟨mine taken isTaken, .inl isTaken⟩
    | @sent transaction reply distributor present cap =>
        refine ⟨.refl _, good.submit (mine _ rfl) present cap, ?_, by simp⟩
        intro key elsewhere unfunded
        refine ⟨fun other isLive => ?_, unfunded.2⟩
        rcases Mempool.mem_live_submit isLive with rfl | isLive
        · exact fun here => elsewhere (congrArg some here)
        · exact unfunded.1 other isLive
  changed := by
    intro before event left good leftAlone changed
    cases event with
    | transaction tx =>
        obtain ⟨notClosed, later⟩ := leftAlone
        change before.world.change (.transaction tx) = some left at changed
        rw [FundWorld.change] at changed
        split at changed
        case h_2 => cases changed
        case h_1 receipt accepted =>
          cases changed
          obtain ⟨kept, stillGood⟩ := good.transaction accepted notClosed
            fun sent flying clawsBack => later _ clawsBack (.inr ⟨sent, flying, rfl⟩)
          refine ⟨kept, stillGood, ?_⟩
          intro pass member key held unfunded
          refine ⟨unfunded.1, isClawedBack_kept accepted ?_ unfunded.2⟩
          exact fun clawsBack => later _ clawsBack (.inl ⟨pass, member, held⟩)
    | execute transaction =>
        obtain ⟨kept, stillGood, stays⟩ :=
          @FundGood.executed env _ _ _ good changed
        exact ⟨kept, stillGood, fun _ _ key _ => stays key⟩
    | expire transaction =>
        obtain ⟨kept, stillGood, stays⟩ :=
          @FundGood.expired env _ _ _ good changed
        exact ⟨kept, stillGood, fun _ _ key _ => stays key⟩

/-- The record of a run of the command. -/
abbrev FundHistory (env : Env) : Type :=
  List (Entry FundConfiguration (Input FundReply (FundEvent env) FundAllJob) Unit
    FundConfiguration)

/-- Before anything is sent. -/
def fundingStarts (bank : Bank) : FundConfiguration :=
  { world := { bank, mempool := .empty }, programs := [] }

theorem fundGood_starts (bank : Bank) : FundGood (fundingStarts bank).world := by
  constructor
  · intro key
    exact .empty
  · intro transaction isLive
    simp [fundingStarts, Mempool.live, Mempool.successes, Mempool.empty] at isLive
  · intro transaction flying
    simp [fundingStarts, Mempool.empty] at flying
  · intro transaction mark entry
    simp [fundingStarts, Mempool.empty] at entry

/-- In every run in which the others leave the vaults alone that are being funded, the vault of
each distributor receives no more than its cap, and none of it after a clawback: whatever pass
comes later finds the cap in the vault. -/
theorem funded_once (env : Env)
    (findProgramAddress : List Bytes → Pubkey → Pubkey × UInt8)
    (associatedTokenAddress : Pubkey → Pubkey → Pubkey) (bank : Bank)
    {history : FundHistory env} {configuration : FundConfiguration}
    (run : Run (fundSystem env findProgramAddress associatedTokenAddress).machine
      (fundingStarts bank) history configuration)
    (leftAlone : ∀ entry ∈ history, VaultsLeftAlone entry.before entry.input) :
    ∀ key distributor, configuration.world.bank key = some (.distributor distributor) →
      configuration.world.funded key ≤ distributor.maxTotalClaim.toNat ∧
      ∀ transaction mark,
        (transaction, .executed mark) ∈ configuration.world.mempool.settled →
        transaction.distributor = key → mark = false := by
  intro key distributor present
  have good := ((fundSystem_safe env findProgramAddress associatedTokenAddress).run
    (Custody.start (fundGood_starts bank)) run leftAlone).good
  constructor
  · apply (good.exclusive key).sum_le
    · intro transaction moved
      by_contra elsewhere
      exact moved (if_neg elsewhere)
    · intro transaction success
      split
      case isFalse => exact Nat.zero_le _
      case isTrue here =>
        rcases good.cap transaction (List.mem_append_right _ success) with
          ⟨found, isFound, cap⟩
        rw [here] at isFound
        obtain rfl := Bank.distributor_unique isFound present
        rw [cap]
  · intro transaction mark entry _
    exact good.notClawedBack transaction mark entry

section Sample

/-- The distributor was created with an empty vault, and the admin holds the tokens. -/
def unfundedBank : Bank :=
  let bank := sampleAfter [recreateSample 10 sampleTree.merkleRoot]
  let bank := bank.set sampleVault (.token ⟨sampleMint, sampleKey, 0⟩)
  bank.set (sampleEnv.associatedTokenAddress sampleAdmin sampleMint)
    (.token ⟨sampleMint, sampleAdmin, 1000⟩)

/-- The admin funds a folder with one tree. -/
def sampleFunding : FundAllJob :=
  { args := sampleCliArgs
    wallet := { keypair := sampleAdmin, priorityFee := none }
    listing := [{ name := "tree_0.json", tree := sampleTree }] }

/-- The transaction that such a pass sends. -/
def sampleFundTransaction (blockhash : Hash) : FundTransaction :=
  { distributor := sampleKey
    priorityFee := none
    source := sampleEnv.associatedTokenAddress sampleAdmin sampleMint
    destination := sampleVault
    authority := sampleAdmin
    amount := 200
    blockhash }

/-- One pass, at this place among the programs: what it reads, what it sends, and the
execution that it waits for. -/
def samplePass (place : Nat) (blockhash : Hash) :
    List (Input FundReply (FundEvent sampleEnv) FundAllJob) :=
  [.start sampleFunding, .call place .found, .call place .found,
   .call place (.blockhash blockhash), .call place .found,
   .event (.execute (sampleFundTransaction blockhash)), .call place .found]

/-- The system in which the admin funds. -/
abbrev sampleFundSystem : System FundWorld FundCall FundCall.Answer FundReply
    (FundEvent sampleEnv) FundAllJob (Except (Stop String) Unit) :=
  fundSystem sampleEnv folderFind sampleEnv.associatedTokenAddress

/-- The confirmation of the first pass fails while its transaction is in flight.  It is executed
before the retry, which finds the vault funded.  A claim and the clawback come after that. -/
def fundedInPeace : List (Input FundReply (FundEvent sampleEnv) FundAllJob) :=
  [.start sampleFunding, .call 0 .found, .call 0 .found, .call 0 (.blockhash (.replicate 1)),
   .call 0 .found, .call 0 (.failed false),
   .event (.execute (sampleFundTransaction (.replicate 1))), .call 0 .found, .call 0 .found,
   .event (.transaction (aliceClaims 55)), .event (.transaction (adminClawsBack 300))]

/-- The configuration that these steps end in. -/
def sampleFunded (inputs : List (Input FundReply (FundEvent sampleEnv) FundAllJob)) :
    FundConfiguration :=
  (sampleFundSystem.machine.play (fundingStarts unfundedBank) inputs).2

theorem funded_once_sample :
    (sampleFunded fundedInPeace).world.funded sampleKey = 200 ∧
    ∀ key distributor,
      (sampleFunded fundedInPeace).world.bank key = some (.distributor distributor) →
      (sampleFunded fundedInPeace).world.funded key ≤
        distributor.maxTotalClaim.toNat ∧
      ∀ transaction mark,
        (transaction, .executed mark) ∈
          (sampleFunded fundedInPeace).world.mempool.settled →
        transaction.distributor = key → mark = false :=
  ⟨by decide +kernel,
    funded_once sampleEnv folderFind sampleEnv.associatedTokenAddress unfundedBank
      (Run.play _ _ _) (by decide +kernel)⟩

/-- Alice claims between two passes, and the admin claws back before a third one. -/
def fundedAgain : List (Input FundReply (FundEvent sampleEnv) FundAllJob) :=
  samplePass 0 (.replicate 1) ++ [.event (.transaction (aliceClaims 55))] ++
  samplePass 1 (.replicate 2) ++ [.event (.transaction (adminClawsBack 300))] ++
  samplePass 2 (.replicate 3)

/-- The second pass finds the vault below the cap because Alice was paid, the third one
because it was emptied: the cap is moved three times, and the last time into a distributor
that is clawed back. -/
theorem claims_and_clawback_refunded :
    ∃ history configuration,
      Run sampleFundSystem.machine (fundingStarts unfundedBank) history configuration ∧
      (∃ distributor, configuration.world.bank sampleKey = some (.distributor distributor) ∧
        distributor.maxTotalClaim.toNat < configuration.world.funded sampleKey) ∧
      ∃ transaction, transaction.distributor = sampleKey ∧
        (transaction, .executed true) ∈ configuration.world.mempool.settled := by
  refine ⟨_, sampleFunded fundedAgain, Run.play _ _ _, ?_, ?_⟩
  · have exceeded : ∃ data ∈ (sampleFunded fundedAgain).world.bank.distributor? sampleKey,
        data.maxTotalClaim.toNat < (sampleFunded fundedAgain).world.funded sampleKey := by
      decide +kernel
    rcases exceeded with ⟨distributor, present, below⟩
    exact ⟨distributor, Bank.distributor?_eq_some.mp present, below⟩
  · exact ⟨sampleFundTransaction (.replicate 3), rfl, by decide +kernel⟩

end Sample

end Airdrop
