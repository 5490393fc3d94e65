/-
Module: Airdrop.Proofs.StatusClosing
Purpose: What `process_close_claim_status` does to the accounts: which of the claim statuses
  that can be closed it closes, where a foreign one among them stops it.
Trusted boundary: none
Main exports: Bank.closeAll, Closable, executeTransaction_closeIxs, closedPrefix, Executed,
  closeLoop_executed, closing_exact
-/
import Airdrop.Proofs.AccountFootprints
import Airdrop.Proofs.CloseBatches
import Airdrop.Proofs.Layouts
import Airdrop.Proofs.NodeSpecs
import Airdrop.Proofs.WellFormed
import Mathlib.Data.List.TakeWhile

namespace Airdrop

open Checked Transition

/-! ## Closing several accounts -/

/-- Close the accounts at these addresses. -/
def Bank.closeAll (bank : Bank) (keys : List Pubkey) : Bank := fun key =>
  if key ∈ keys then none else bank key

namespace Bank

variable {bank : Bank} {keys more : List Pubkey} {key : Pubkey}

@[simp] theorem closeAll_nil : bank.closeAll [] = bank := by
  funext key
  simp [closeAll]

theorem closeAll_cons : bank.closeAll (key :: keys) = (bank.close key).closeAll keys := by
  funext other
  by_cases here : other = key
  · simp [closeAll, close, here]
  · simp [closeAll, close, here, Function.update_of_ne]

theorem closeAll_closeAll : (bank.closeAll keys).closeAll more = bank.closeAll (keys ++ more) := by
  funext other
  by_cases isMore : other ∈ more <;> simp [closeAll, isMore]

theorem closeAll_of_not_mem (outside : key ∉ keys) : bank.closeAll keys key = bank key :=
  if_neg outside

end Bank

/-- The fetched accounts are different claim statuses that can be closed. -/
structure Closable (bank : Bank) (values : List (Pubkey × ClaimStatus)) : Prop where
  once : (values.map Prod.fst).Nodup
  present : ∀ value ∈ values, bank value.1 = some (.claimStatus value.2)
  closable : ∀ value ∈ values, value.2.closable = true
  apart : ∀ value ∈ values, value.1 ≠ value.2.claimant

namespace Closable

variable {bank : Bank} {value : Pubkey × ClaimStatus} {values more : List (Pubkey × ClaimStatus)}

theorem tail (closable : Closable bank (value :: values)) :
    Closable (bank.close value.1) values where
  once := (List.nodup_cons.mp closable.once).2
  present other member := by
    have different : other.1 ≠ value.1 := by
      intro same
      exact (List.nodup_cons.mp closable.once).1 (same ▸ List.mem_map_of_mem member)
    rw [Bank.close, Function.update_of_ne different]
    exact closable.present other (List.mem_cons_of_mem _ member)
  closable other member := closable.closable other (List.mem_cons_of_mem _ member)
  apart other member := closable.apart other (List.mem_cons_of_mem _ member)

theorem append_left (closable : Closable bank (values ++ more)) : Closable bank values where
  once := by
    have once := closable.once
    rw [List.map_append] at once
    exact once.of_append_left
  present other member := closable.present other (List.mem_append_left _ member)
  closable other member := closable.closable other (List.mem_append_left _ member)
  apart other member := closable.apart other (List.mem_append_left _ member)

theorem append_right (closable : Closable bank (values ++ more)) :
    Closable (bank.closeAll (values.map Prod.fst)) more := by
  induction values generalizing bank with
  | nil => simpa using closable
  | cons value values inductionHypothesis =>
      rw [List.map_cons, Bank.closeAll_cons]
      exact inductionHypothesis closable.tail

end Closable

section Transactions

variable {env : Env} {keyring : Keyring env} {clock : Clock} {bank after : Bank}
variable {wallet : WalletArgs} {values : List (Pubkey × ClaimStatus)}

/-- The claim status was opened when the wallet was the admin. -/
def WalletArgs.administers (wallet : WalletArgs) (value : Pubkey × ClaimStatus) : Bool :=
  value.2.admin = wallet.keypair

/-- The instruction for one account is executed exactly if the wallet is its admin. -/
theorem execute_closeIx {value : Pubkey × ClaimStatus} (signed : wallet.keypair ∈ keyring.keys)
    (closable : Closable bank (value :: values)) :
    (closeIx wallet value).execute keyring clock bank = .ok after ↔
      wallet.administers value = true ∧ after = bank.close value.1 := by
  have present := closable.present value List.mem_cons_self
  rw [closeIx, CommandInstruction.execute, bind_eq_ok]
  simp only [execute, Keyring.transaction, closeClaimStatus_eq_ok, pure_eq, Except.ok.injEq]
  constructor
  · rintro ⟨receipt, ⟨⟨status, checks⟩, rfl⟩, rfl⟩
    have same := Option.some.inj (checks.isClaimStatus.symm.trans present)
    rw [Account.claimStatus.injEq] at same
    refine ⟨?_, rfl⟩
    rw [WalletArgs.administers, ← same, checks.isAdmin, decide_eq_true rfl]
  · rintro ⟨isAdmin, rfl⟩
    refine ⟨_, ⟨⟨value.2, present, signed, rfl, of_decide_eq_true isAdmin,
      closable.closable value List.mem_cons_self, closable.apart value List.mem_cons_self⟩, rfl⟩,
      rfl⟩

/-- A transaction is executed exactly if the wallet is the admin of all its claim
statuses. -/
theorem executeTransaction_closeIxs (signed : wallet.keypair ∈ keyring.keys)
    (closable : Closable bank values) :
    executeTransaction keyring clock bank (values.map (closeIx wallet)) = .ok after ↔
      values.all wallet.administers = true ∧ after = bank.closeAll (values.map Prod.fst) := by
  unfold executeTransaction
  induction values generalizing bank with
  | nil => simp [eq_comm]
  | cons value values inductionHypothesis =>
      rw [List.map_cons, List.foldlM_cons, bind_eq_ok, List.all_cons, Bool.and_eq_true,
        List.map_cons, Bank.closeAll_cons]
      constructor
      · rintro ⟨middle, first, later⟩
        obtain ⟨isAdmin, rfl⟩ := (execute_closeIx signed closable).mp first
        obtain ⟨others, rfl⟩ := (inductionHypothesis closable.tail).mp later
        exact ⟨⟨isAdmin, others⟩, rfl⟩
      · rintro ⟨⟨isAdmin, others⟩, rfl⟩
        exact ⟨_, (execute_closeIx signed closable).mpr ⟨isAdmin, rfl⟩,
          (inductionHypothesis closable.tail).mpr ⟨others, rfl⟩⟩

end Transactions

/-! ## What a run closes -/

/-- The claim statuses that are closed: all, or the full batches before the first one with
another admin. -/
def closedPrefix (limit : Nat) (wallet : WalletArgs) (values : List (Pubkey × ClaimStatus)) :
    List (Pubkey × ClaimStatus) :=
  let own := values.takeWhile wallet.administers
  if values.all wallet.administers then values else own.take (own.length / limit * limit)

section ClosedPrefix

variable {limit : Nat} {wallet : WalletArgs} {values more : List (Pubkey × ClaimStatus)}

theorem closedPrefix_of_all (all : values.all wallet.administers = true) :
    closedPrefix limit wallet values = values := if_pos all

/-- Nothing is closed where the first batch holds a foreign one. -/
theorem closedPrefix_of_stuck (foreign : ¬ values.all wallet.administers = true)
    (early : (values.takeWhile wallet.administers).length < limit) :
    closedPrefix limit wallet values = [] := by
  rw [closedPrefix, if_neg foreign, Nat.div_eq_of_lt early, Nat.zero_mul, List.take_zero]

theorem takeWhile_append_of_foreign (foreign : ¬ values.all wallet.administers = true) :
    (values ++ more).takeWhile wallet.administers = values.takeWhile wallet.administers := by
  induction values with
  | nil => exact absurd rfl foreign
  | cons value values inductionHypothesis =>
      by_cases own : wallet.administers value = true
      · have later : ¬ values.all wallet.administers = true := by
          simpa [own] using foreign
        rw [List.cons_append, List.takeWhile_cons_of_pos own, List.takeWhile_cons_of_pos own,
          inductionHypothesis later]
      · rw [List.cons_append, List.takeWhile_cons_of_neg own, List.takeWhile_cons_of_neg own]

/-- A full batch of the wallet's own is closed. -/
theorem closedPrefix_append (positive : 0 < limit) (full : values.length = limit)
    (all : values.all wallet.administers = true) :
    closedPrefix limit wallet (values ++ more) = values ++ closedPrefix limit wallet more := by
  have own : (values ++ more).takeWhile wallet.administers =
      values ++ more.takeWhile wallet.administers :=
    List.takeWhile_append_of_pos (List.all_eq_true.mp all)
  have batches : (values ++ more.takeWhile wallet.administers).take
        ((values ++ more.takeWhile wallet.administers).length / limit * limit) =
      values ++ (more.takeWhile wallet.administers).take
        ((more.takeWhile wallet.administers).length / limit * limit) := by
    rw [List.length_append, full, Nat.add_div_left _ positive, Nat.succ_mul,
      Nat.add_comm _ limit, ← full, List.take_length_add_append]
  simp only [closedPrefix, own, List.all_append, all, Bool.true_and, batches]
  split
  · rfl
  · rfl

end ClosedPrefix

/-- What becomes of the transactions of these reports: each that is reported as sent was
executed at some time, each that is reported as failed was refused. -/
inductive Executed {env : Env} (keyring : Keyring env) : Bank → List CloseReport → Bank → Prop
  | nil {bank : Bank} : Executed keyring bank [] bank
  | done {clock : Clock} {bank middle after : Bank} {transaction : List CommandInstruction}
      {reports : List CloseReport}
      (executed : executeTransaction keyring clock bank transaction = .ok middle)
      (later : Executed keyring middle reports after) :
      Executed keyring bank (.doneClose transaction :: reports) after
  | failed {clock : Clock} {bank after : Bank} {transaction : List CommandInstruction}
      {reports : List CloseReport} {error : ProgramError}
      (refused : executeTransaction keyring clock bank transaction = .error error)
      (later : Executed keyring bank reports after) :
      Executed keyring bank (.failedToClose transaction :: reports) after

section Run

variable {env : Env} {keyring : Keyring env} {bank after : Bank} {wallet : WalletArgs}
variable {limit attempt : Nat} {answers : Nat → CloseAnswers}
variable {pending values : List (Pubkey × ClaimStatus)} {reports : List CloseReport}

/-- What was executed is the wallet's own. -/
theorem Executed.of_done (signed : wallet.keypair ∈ keyring.keys)
    (closable : Closable bank pending)
    (executed : Executed keyring bank
      (.doneClose (pending.map (closeIx wallet)) :: reports) after) :
    pending.all wallet.administers = true ∧
      Executed keyring (bank.closeAll (pending.map Prod.fst)) reports after := by
  cases executed with
  | done executed later =>
      obtain ⟨all, rfl⟩ := (executeTransaction_closeIxs signed closable).mp executed
      exact ⟨all, later⟩

/-- What was refused is not all the wallet's own. -/
theorem Executed.of_failed (signed : wallet.keypair ∈ keyring.keys)
    (closable : Closable bank pending)
    (executed : Executed keyring bank
      (.failedToClose (pending.map (closeIx wallet)) :: reports) after) :
    ¬ pending.all wallet.administers = true ∧ Executed keyring bank reports after := by
  cases executed with
  | failed refused later =>
      refine ⟨fun all => ?_, later⟩
      rw [(executeTransaction_closeIxs signed closable).mpr ⟨all, rfl⟩] at refused
      cases refused

/-- Once a batch with a foreign claim status is full, nothing more is closed. -/
theorem closeLoop_stuck (signed : wallet.keypair ∈ keyring.keys)
    (blockhashes : ∀ n, (answers n).latestBlockhash = .ok ())
    (closable : Closable bank (pending ++ values)) (full : limit ≤ pending.length)
    (foreign : ¬ pending.all wallet.administers = true) (some : 0 < pending.length)
    (executed : Executed keyring bank (closeLoop wallet limit answers values attempt
      (pending.map (closeIx wallet))).1 after) :
    after = bank ∧ (closeLoop wallet limit answers values attempt
      (pending.map (closeIx wallet))).2 = .ok () := by
  induction values generalizing pending attempt with
  | nil =>
      have some' : 0 < (pending.map (closeIx wallet)).length := by rwa [List.length_map]
      rcases closeLoop_nil_cases wallet limit answers attempt some' with
        ⟨blockhash, _⟩ | ⟨_, run⟩ | ⟨_, run⟩
      · rw [blockhashes] at blockhash
        cases blockhash
      · rw [run] at executed
        exact absurd (executed.of_done signed closable.append_left).1 foreign
      · rw [run] at executed ⊢
        obtain ⟨-, later⟩ := executed.of_failed signed closable.append_left
        cases later
        exact ⟨rfl, rfl⟩
  | cons value values inductionHypothesis =>
      have regrouped : pending ++ value :: values = (pending ++ [value]) ++ values := by simp
      have grown : pending.map (closeIx wallet) ++ [closeIx wallet value] =
          (pending ++ [value]).map (closeIx wallet) := by simp
      have stillForeign : ¬ (pending ++ [value]).all wallet.administers = true := by
        rw [List.all_append, Bool.and_eq_true]
        exact fun all => foreign all.1
      rw [regrouped] at closable
      have enough : limit ≤ (pending.map (closeIx wallet)).length + 1 := by
        rw [List.length_map]
        omega
      rcases closeLoop_cons_cases wallet limit answers attempt value values enough with
        ⟨blockhash, _⟩ | ⟨_, _, run⟩ | ⟨_, _, run⟩
      · rw [blockhashes] at blockhash
        cases blockhash
      · rw [run, grown] at executed
        exact absurd (executed.of_done signed closable.append_left).1 stillForeign
      · rw [run, grown] at executed
        rw [run, grown]
        obtain ⟨-, later⟩ := executed.of_failed signed closable.append_left
        refine inductionHypothesis closable ?_ stillForeign ?_ later
        · rw [List.length_append]
          omega
        · rw [List.length_append]
          omega

/-- The loop closes the full batches before the first foreign claim status, and everything
where there is none.  The induction is on the accounts that are not yet in `pending`. -/
theorem closeLoop_executed (positive : 0 < limit) (signed : wallet.keypair ∈ keyring.keys)
    (blockhashes : ∀ n, (answers n).latestBlockhash = .ok ())
    (closable : Closable bank (pending ++ values)) (short : pending.length < limit)
    (executed : Executed keyring bank (closeLoop wallet limit answers values attempt
      (pending.map (closeIx wallet))).1 after) :
    after = bank.closeAll ((closedPrefix limit wallet (pending ++ values)).map Prod.fst) ∧
      (closeLoop wallet limit answers values attempt (pending.map (closeIx wallet))).2 =
        .ok () := by
  induction values generalizing pending attempt bank with
  | nil =>
      rw [List.append_nil] at closable ⊢
      by_cases empty : pending = []
      · subst empty
        cases executed
        exact ⟨by simp [closedPrefix], rfl⟩
      · have some : 0 < (pending.map (closeIx wallet)).length := by
          rw [List.length_map]
          exact List.length_pos_iff.mpr empty
        rcases closeLoop_nil_cases wallet limit answers attempt some with
          ⟨blockhash, _⟩ | ⟨_, run⟩ | ⟨_, run⟩
        · rw [blockhashes] at blockhash
          cases blockhash
        · rw [run] at executed ⊢
          obtain ⟨all, later⟩ := executed.of_done signed closable
          cases later
          exact ⟨by rw [closedPrefix_of_all all], rfl⟩
        · rw [run] at executed ⊢
          obtain ⟨foreign, later⟩ := executed.of_failed signed closable
          cases later
          have early : (pending.takeWhile wallet.administers).length < limit :=
            (List.takeWhile_prefix _).length_le.trans_lt short
          exact ⟨by rw [closedPrefix_of_stuck foreign early]; simp, rfl⟩
  | cons value values inductionHypothesis =>
      have regrouped : pending ++ value :: values = (pending ++ [value]) ++ values := by simp
      have grown : pending.map (closeIx wallet) ++ [closeIx wallet value] =
          (pending ++ [value]).map (closeIx wallet) := by simp
      have length : (pending ++ [value]).length = pending.length + 1 := by simp
      rw [regrouped] at closable ⊢
      by_cases filled : limit ≤ pending.length + 1
      · have full : (pending ++ [value]).length = limit := by omega
        have enough : limit ≤ (pending.map (closeIx wallet)).length + 1 := by
          rwa [List.length_map]
        rcases closeLoop_cons_cases wallet limit answers attempt value values enough with
          ⟨blockhash, _⟩ | ⟨_, _, run⟩ | ⟨_, _, run⟩
        · rw [blockhashes] at blockhash
          cases blockhash
        · rw [run, grown] at executed
          rw [run]
          obtain ⟨all, later⟩ := executed.of_done signed closable.append_left
          have rest := @inductionHypothesis (bank.closeAll _) (attempt + 1) []
            closable.append_right positive later
          rw [closedPrefix_append positive full all, List.map_append, ← Bank.closeAll_closeAll]
          exact rest
        · rw [run, grown] at executed
          rw [run, grown]
          obtain ⟨foreign, later⟩ := executed.of_failed signed closable.append_left
          obtain ⟨rfl, returned⟩ := closeLoop_stuck signed blockhashes closable full.ge foreign
            (by omega) later
          refine ⟨?_, returned⟩
          have early : (((pending ++ [value]) ++ values).takeWhile
              wallet.administers).length < limit := by
            rw [takeWhile_append_of_foreign foreign, ← full]
            refine lt_of_le_of_ne (List.takeWhile_prefix _).length_le fun same => foreign ?_
            rw [List.all_eq_true, ← List.takeWhile_eq_self_iff]
            exact (List.takeWhile_prefix _).eq_of_length same
          have foreign' : ¬ ((pending ++ [value]) ++ values).all wallet.administers = true := by
            rw [List.all_append, Bool.and_eq_true]
            exact fun all => foreign all.1
          rw [closedPrefix_of_stuck foreign' early]
          simp
      · rw [closeLoop_cons_of_short (by rw [List.length_map]; omega), grown] at executed ⊢
        exact inductionHypothesis closable (by omega) executed

end Run

/-! ## The command -/

section Command

variable {env : Env} {start bank : Bank} {history : History env}

/-- No claimant has the address of a claim status. -/
theorem status_apart (genesis : Genesis start) (run : Reaches env start history bank)
    {key : Pubkey} {status : ClaimStatus} (found : bank key = some (.claimStatus status)) :
    key ≠ status.claimant := by
  refine claimStatus_invariant (fun _ status => key ≠ status.claimant) ?_ ?_ ?_ ?_ run status
    found
  · intro status present
    exact absurd present ((genesis key).2 status)
  · intro _ _ _ _ _ _ _ _ _ apart
    exact apart
  · intro _ _ tx _ accounts _ _ _ _ _ _ _ _ _ here checks _ same
    have derived := env.create_find (claimStatusSeeds accounts.claimant accounts.distributor)
    have isKey : accounts.claimant = (env.findProgramAddress
        (claimStatusSeeds accounts.claimant accounts.distributor)).1 :=
      (here.trans same).symm.trans checks.valid.statusAddress
    have signed := checks.valid.signed
    rw [isKey] at signed
    exact tx.no_derived_signer _ _ derived signed
  · intro _ _ _ _ _ _ _ _ _ _ _ _ _ _ _ apart
    exact apart

variable {keyring : Keyring env} {wallet : WalletArgs}
variable {fetched : List (Pubkey × ClaimStatus)}

theorem ClosableFetched.closable (genesis : Genesis start) (run : Reaches env start history bank)
    (isFetched : ClosableFetched bank fetched) : Closable bank fetched where
  once := isFetched.once
  present value member := ((isFetched.exact value.1 value.2).mp member).1
  closable value member := ((isFetched.exact value.1 value.2).mp member).2
  apart value member := status_apart genesis run ((isFetched.exact value.1 value.2).mp member).1

/-- Only the wallet's own claim statuses are closed. -/
theorem own_of_mem_closedPrefix {limit : Nat} {value : Pubkey × ClaimStatus}
    (member : value ∈ closedPrefix limit wallet fetched) :
    wallet.administers value = true := by
  unfold closedPrefix at member
  split at member
  case isTrue all => exact List.all_eq_true.mp all value member
  case isFalse => exact List.mem_takeWhile_imp (List.mem_of_mem_take member)

theorem mem_of_mem_closedPrefix {limit : Nat} {value : Pubkey × ClaimStatus}
    (member : value ∈ closedPrefix limit wallet fetched) : value ∈ fetched := by
  unfold closedPrefix at member
  split at member
  case isTrue => exact member
  case isFalse => exact (List.takeWhile_prefix _).subset (List.mem_of_mem_take member)

/-- Nothing that can be closed is left exactly if the wallet is the admin of all of it. -/
theorem nothing_left_iff {limit : Nat} (isFetched : ClosableFetched bank fetched) :
    (∀ key status, bank.closeAll ((closedPrefix limit wallet fetched).map Prod.fst) key =
        some (.claimStatus status) → status.closable = false) ↔
      ∀ key status, bank key = some (.claimStatus status) → status.closable = true →
        status.admin = wallet.keypair := by
  constructor
  · intro nothing key status present closable
    by_contra foreign
    have outside : key ∉ (closedPrefix limit wallet fetched).map Prod.fst := by
      intro member
      obtain ⟨value, isClosed, rfl⟩ := List.mem_map.mp member
      have found := ((isFetched.exact _ _).mp (mem_of_mem_closedPrefix isClosed)).1
      have same := Option.some.inj (found.symm.trans present)
      rw [Account.claimStatus.injEq] at same
      exact foreign (same ▸ of_decide_eq_true (own_of_mem_closedPrefix isClosed))
    rw [nothing key status ((Bank.closeAll_of_not_mem outside).trans present)] at closable
    cases closable
  · intro own key status present
    have all : fetched.all wallet.administers = true := by
      rw [List.all_eq_true]
      rintro ⟨other, found⟩ member
      obtain ⟨isFound, closable⟩ := (isFetched.exact _ _).mp member
      exact decide_eq_true (own other found isFound closable)
    rw [closedPrefix_of_all all] at present
    by_contra closable
    rw [Bool.not_eq_false] at closable
    by_cases member : key ∈ fetched.map Prod.fst
    · rw [Bank.closeAll, if_pos member] at present
      cases present
    · rw [Bank.closeAll_of_not_mem member] at present
      exact member (List.mem_map_of_mem ((isFetched.exact key status).mpr ⟨present, closable⟩))

/-- `process_close_claim_status` on the accounts of the program, in any state that they
reach: it returns normally, and closes exactly the full batches before the first claim
status with another admin, or everything that can be closed where there is none. -/
theorem closing_exact {sha256 : Bytes → Hash} {listing : List (Pubkey × Bytes)}
    (genesis : Genesis start) (run : Reaches env start history bank)
    (listed : Listing sha256 bank listing) (signed : wallet.keypair ∈ keyring.keys)
    {answers : Nat → CloseAnswers}
    (blockhashes : ∀ n, (answers n).latestBlockhash = .ok ()) :
    ∃ fetched, accountsOf (accountDiscriminator sha256 "ClaimStatus") claimStatusBorsh
        closableFilters listing = .ok fetched ∧
      ∀ after, Executed keyring bank (processCloseClaimStatus wallet (.ok fetched) answers).1
          after →
        (processCloseClaimStatus wallet (.ok fetched) answers).2 = .ok () ∧
        after = bank.closeAll ((closedPrefix 11 wallet fetched).map Prod.fst) ∧
        ((∀ key status, after key = some (.claimStatus status) → status.closable = false) ↔
          ∀ key status, bank key = some (.claimStatus status) → status.closable = true →
            status.admin = wallet.keypair) := by
  obtain ⟨fetched, returned, isFetched⟩ := closable_accountsOf listed
  refine ⟨fetched, returned, fun after executed => ?_⟩
  obtain ⟨closed, ended⟩ := @closeLoop_executed _ keyring bank after wallet 11 0 answers []
    fetched (by decide) signed blockhashes (isFetched.closable genesis run) (by decide) executed
  refine ⟨ended, closed, ?_⟩
  rw [closed]
  exact nothing_left_iff isFetched

end Command

section Sample

/-- Alice and Bob claim from a distributor that can be closed. -/
def claimedClosable : List (Transaction sampleEnv) :=
  [createSample sampleTree.merkleRoot true, aliceClaims 55, bobClaims 56]

/-- The accounts of the program after that. -/
def claimedListing : List (Pubkey × Bytes) :=
  listingOf accountDigests (sampleAfter claimedClosable) [sampleKey, aliceStatus, bobStatus]

/-- The addresses that those transactions list. -/
def claimedTouched : List Pubkey :=
  claimedClosable.flatMap fun tx =>
    (tx.instruction.toAccountMetas samplePrograms).map AccountMeta.pubkey

theorem claimedListing_listing :
    Listing accountDigests (sampleAfter claimedClosable) claimedListing := by
  refine listingOf_listing (by decide) fun key account present isProgram => ?_
  by_cases touched : key ∈ claimedTouched
  · have checked : ∀ key ∈ claimedTouched, key ∈ [sampleKey, aliceStatus, bobStatus] ∨
        (sampleAfter claimedClosable key).bind (Account.data accountDigests) = none := by
      decide +kernel
    rcases checked key touched with listed | other
    · exact listed
    · rw [present] at other
      exact absurd other isProgram
  · have kept : sampleAfter claimedClosable key = sampleBank key := by
      refine (accountFootprints sampleEnv samplePrograms).unchanged
        (sample_reaches claimedClosable) ?_
      rintro entry member ⟨listed, isListed, rfl, -⟩
      exact touched (List.mem_flatMap.mpr
        ⟨entry.input, Run.input_of_play member, List.mem_map_of_mem isListed⟩)
    rw [kept] at present
    cases account with
    | distributor data => exact absurd present ((sampleBank_genesis key).1 data)
    | claimStatus status => exact absurd present ((sampleBank_genesis key).2 status)
    | token data => exact absurd rfl isProgram
    | mint => exact absurd rfl isProgram

/-- Both claim statuses. -/
def closableOfSample : List (Pubkey × ClaimStatus) :=
  [(aliceStatus,
      { claimant := alice, lockedAmount := 50, lockedAmountWithdrawn := 0
        unlockedAmount := 126, closable := true, admin := sampleAdmin }),
    (bobStatus,
      { claimant := bob, lockedAmount := 0, lockedAmountWithdrawn := 0
        unlockedAmount := 31, closable := true, admin := sampleAdmin })]

/-- The command closes both claim statuses. -/
theorem closing_exact_sample :
    ∃ fetched after, accountsOf (accountDiscriminator accountDigests "ClaimStatus")
        claimStatusBorsh closableFilters claimedListing = .ok fetched ∧
      Executed adminKeyring (sampleAfter claimedClosable)
        (processCloseClaimStatus { keypair := sampleAdmin, priorityFee := none } (.ok fetched)
          fun _ => ⟨.ok (), .ok ()⟩).1 after ∧
      after aliceStatus = none ∧ after bobStatus = none := by
  obtain ⟨fetched, returned, exactly⟩ := @closing_exact sampleEnv sampleBank _ _ adminKeyring
    { keypair := sampleAdmin, priorityFee := none } accountDigests claimedListing
    sampleBank_genesis (sample_reaches claimedClosable) claimedListing_listing (by decide)
    (fun _ => ⟨.ok (), .ok ()⟩) (fun _ => rfl)
  have isFetched : accountsOf (accountDiscriminator accountDigests "ClaimStatus")
      claimStatusBorsh closableFilters claimedListing = .ok closableOfSample := by decide +kernel
  rw [isFetched] at returned
  cases returned
  have executed : (executeTransaction adminKeyring ⟨57, 57⟩ (sampleAfter claimedClosable)
      (closableOfSample.map (closeIx { keypair := sampleAdmin, priorityFee := none }))).toBool =
        true := by decide +kernel
  cases isAfter : executeTransaction adminKeyring ⟨57, 57⟩ (sampleAfter claimedClosable)
      (closableOfSample.map (closeIx { keypair := sampleAdmin, priorityFee := none })) with
  | error error =>
      rw [isAfter] at executed
      cases executed
  | ok after =>
      have ended : Executed adminKeyring (sampleAfter claimedClosable)
          (processCloseClaimStatus { keypair := sampleAdmin, priorityFee := none }
            (.ok closableOfSample) fun _ => ⟨.ok (), .ok ()⟩).1 after :=
        .done isAfter .nil
      refine ⟨closableOfSample, after, isFetched, ended, ?_⟩
      rw [(exactly after ended).2.1]
      exact ⟨rfl, rfl⟩

end Sample

end Airdrop
