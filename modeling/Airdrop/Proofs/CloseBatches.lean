/-
Module: Airdrop.Proofs.CloseBatches
Purpose: Which instructions the transactions of `process_close_claim_status` carry, for
  every list of accounts and all outcomes of the sends.
Trusted boundary: none
Main exports: closedIxs, ClosedInBatches, BatchesSent, closeLoop_conserves, closeLoop_iff,
  closeClaimStatus_batches_iff
-/
import Airdrop.Cli.CloseClaimStatus
import Airdrop.Proofs.FrontRunCheck

namespace Airdrop

/-! ## The transactions of a run -/

namespace CloseReport

def transaction : CloseReport → List CommandInstruction
  | .doneClose transaction => transaction
  | .failedToClose transaction => transaction

def succeeded? : CloseReport → Option (List CommandInstruction)
  | .doneClose transaction => some transaction
  | .failedToClose _ => none

end CloseReport

/-- The instructions of the transactions that were sent. -/
def closedIxs (reports : List CloseReport) : List CommandInstruction :=
  (reports.filterMap CloseReport.succeeded?).flatten

@[simp] theorem closedIxs_nil : closedIxs [] = [] := rfl

@[simp] theorem closedIxs_done (transaction : List CommandInstruction)
    (reports : List CloseReport) :
    closedIxs (.doneClose transaction :: reports) = transaction ++ closedIxs reports := rfl

@[simp] theorem closedIxs_failed (transaction : List CommandInstruction)
    (reports : List CloseReport) :
    closedIxs (.failedToClose transaction :: reports) = closedIxs reports := rfl

/-- What is asked of a run that has `closeIxs` to send.  Instructions are counted, as the
list may hold one twice: what the successful transactions leave out of it, one failed
transaction carried. -/
structure ClosedInBatches (limit : Nat) (closeIxs : List CommandInstruction)
    (reports : List CloseReport) : Prop where
  sized : ∀ report ∈ reports,
    1 ≤ report.transaction.length ∧ report.transaction.length ≤ limit
  once : ∀ ix, (closedIxs reports).count ix ≤ closeIxs.count ix
  leftOut : ∀ ix, (closedIxs reports).count ix < closeIxs.count ix →
    ∃ transaction, .failedToClose transaction ∈ reports ∧
      closeIxs.count ix ≤ (closedIxs reports).count ix + transaction.count ix

namespace ClosedInBatches

variable {limit : Nat} {closeIxs pending : List CommandInstruction}
  {reports : List CloseReport}

theorem nil_iff : ClosedInBatches limit closeIxs [] ↔ closeIxs = [] := by
  constructor
  · intro closed
    by_contra nonempty
    obtain ⟨ix, member⟩ := List.exists_mem_of_ne_nil _ nonempty
    obtain ⟨_, reported, _⟩ := closed.leftOut ix (List.count_pos_iff.mpr member)
    cases reported
  · rintro rfl
    exact ⟨by simp, by simp, by simp⟩

/-- A transaction that succeeds takes its instructions away. -/
theorem done_iff :
    ClosedInBatches limit (pending ++ closeIxs) (.doneClose pending :: reports) ↔
      (1 ≤ pending.length ∧ pending.length ≤ limit) ∧
        ClosedInBatches limit closeIxs reports := by
  constructor
  · intro closed
    obtain ⟨first, later⟩ := List.forall_mem_cons.mp closed.sized
    refine ⟨first, later, ?_, ?_⟩
    · intro ix
      have once := closed.once ix
      rw [closedIxs_done, List.count_append, List.count_append] at once
      exact Nat.le_of_add_le_add_left once
    · intro ix fewer
      have leftOut := closed.leftOut ix
      rw [closedIxs_done, List.count_append, List.count_append] at leftOut
      obtain ⟨transaction, reported, carried⟩ := leftOut (Nat.add_lt_add_left fewer _)
      exact ⟨transaction, by simpa using reported, by omega⟩
  · rintro ⟨first, closed⟩
    refine ⟨List.forall_mem_cons.mpr ⟨first, closed.sized⟩, ?_, ?_⟩
    · intro ix
      rw [closedIxs_done, List.count_append, List.count_append]
      exact Nat.add_le_add_left (closed.once ix) _
    · intro ix fewer
      rw [closedIxs_done, List.count_append, List.count_append] at fewer ⊢
      obtain ⟨transaction, reported, carried⟩ :=
        closed.leftOut ix (Nat.lt_of_add_lt_add_left fewer)
      exact ⟨transaction, List.mem_cons_of_mem _ reported, by omega⟩

/-- The last transaction fails, or the one that repeats it ends the run. -/
theorem failed_last (sized : 1 ≤ pending.length ∧ pending.length ≤ limit)
    (again : reports = [] ∨ reports = [.doneClose pending] ∨
      reports = [.failedToClose pending]) :
    ClosedInBatches limit pending (.failedToClose pending :: reports) := by
  rcases again with rfl | rfl | rfl
  · exact ⟨by simpa [CloseReport.transaction] using sized, by simp, by simp⟩
  · exact ⟨by simpa [CloseReport.transaction] using sized, by simp, by simp⟩
  · exact ⟨by simpa [CloseReport.transaction] using sized, by simp, by simp⟩

/-- No failed transaction carried what was added after it. -/
theorem not_failed_only (ix : CommandInstruction) :
    ¬ ClosedInBatches limit (pending ++ ix :: closeIxs) [.failedToClose pending] := by
  intro closed
  obtain ⟨transaction, reported, carried⟩ := closed.leftOut ix (by simp)
  have same : transaction = pending := by simpa using reported
  rw [same, List.count_append, List.count_cons_self] at carried
  simp only [closedIxs_failed, closedIxs_nil, List.count_nil] at carried
  omega

end ClosedInBatches

/-! ## The loop -/

/-- Every transaction that is due gets a blockhash, and each but the last one is sent. -/
structure BatchesSent (limit : Nat) (answers : Nat → CloseAnswers) (attempt count : Nat) :
    Prop where
  blockhashes : ∀ batch, limit * batch < count →
    (answers (attempt + batch)).latestBlockhash = .ok ()
  sends : ∀ batch, limit * (batch + 1) < count → (answers (attempt + batch)).sent = .ok ()

variable {wallet : WalletArgs} {limit : Nat} {answers : Nat → CloseAnswers} {attempt count : Nat}

theorem batchesSent_zero : BatchesSent limit answers attempt 0 :=
  ⟨fun _ due => absurd due (Nat.not_lt_zero _), fun _ due => absurd due (Nat.not_lt_zero _)⟩

theorem batchesSent_iff (some : 0 < count) :
    BatchesSent limit answers attempt count ↔
      (answers attempt).latestBlockhash = .ok () ∧
      (limit < count → (answers attempt).sent = .ok ()) ∧
      BatchesSent limit answers (attempt + 1) (count - limit) := by
  have shift (batch : Nat) : attempt + 1 + batch = attempt + (batch + 1) := by omega
  constructor
  · intro sent
    refine ⟨sent.blockhashes 0 (by omega), fun more => sent.sends 0 (by omega), ?_, ?_⟩
    · intro batch due
      rw [shift]
      exact sent.blockhashes (batch + 1) (by rw [Nat.mul_succ]; omega)
    · intro batch due
      rw [shift]
      exact sent.sends (batch + 1) (by rw [Nat.mul_succ]; omega)
  · rintro ⟨blockhash, first, later⟩
    constructor
    · intro batch due
      cases batch with
      | zero => exact blockhash
      | succ batch =>
          rw [← shift]
          exact later.blockhashes batch (by rw [Nat.mul_succ] at due; omega)
    · intro batch due
      cases batch with
      | zero => exact first (by omega)
      | succ batch =>
          rw [← shift]
          exact later.sends batch (by rw [Nat.mul_succ] at due; omega)

/-- One transaction is enough for what is left. -/
theorem batchesSent_last (some : 0 < count) (last : count ≤ limit) :
    BatchesSent limit answers attempt count ↔
      (answers attempt).latestBlockhash = .ok () := by
  rw [batchesSent_iff some, Nat.sub_eq_zero_of_le last]
  constructor
  · exact fun sent => sent.1
  · exact fun blockhash => ⟨blockhash, fun more => absurd more (by omega), batchesSent_zero⟩

section Loop

variable {value : Pubkey × ClaimStatus} {accounts : List (Pubkey × ClaimStatus)}
  {pending : List CommandInstruction}

/-- A transaction, by what its calls return. -/
theorem sendClose_cases (closeIxs : List CommandInstruction) (answers : CloseAnswers) :
    (answers.latestBlockhash = .error () ∧ sendClose closeIxs answers = .error .panic) ∨
    (answers.latestBlockhash = .ok () ∧ answers.sent = .ok () ∧
      sendClose closeIxs answers = .ok (.doneClose closeIxs, [])) ∨
    (answers.latestBlockhash = .ok () ∧ answers.sent = .error () ∧
      sendClose closeIxs answers = .ok (.failedToClose closeIxs, closeIxs)) := by
  unfold sendClose
  cases answers.latestBlockhash with
  | error _ => exact .inl ⟨rfl, rfl⟩
  | ok _ =>
      cases answers.sent with
      | ok _ => exact .inr (.inl ⟨rfl, rfl, rfl⟩)
      | error _ => exact .inr (.inr ⟨rfl, rfl, rfl⟩)

variable (wallet limit answers attempt) in
/-- The transaction that follows the loop. -/
theorem closeLoop_nil_cases (some : 0 < pending.length) :
    ((answers attempt).latestBlockhash = .error () ∧
      closeLoop wallet limit answers [] attempt pending = ([], .error .panic)) ∨
    ((answers attempt).latestBlockhash = .ok () ∧
      closeLoop wallet limit answers [] attempt pending = ([.doneClose pending], .ok ())) ∨
    ((answers attempt).latestBlockhash = .ok () ∧
      closeLoop wallet limit answers [] attempt pending =
        ([.failedToClose pending], .ok ())) := by
  rw [closeLoop, if_pos some]
  rcases sendClose_cases pending (answers attempt) with
    ⟨blockhash, sends⟩ | ⟨blockhash, _, sends⟩ | ⟨blockhash, _, sends⟩
  · rw [sends]
    exact .inl ⟨blockhash, rfl⟩
  · rw [sends]
    exact .inr (.inl ⟨blockhash, rfl⟩)
  · rw [sends]
    exact .inr (.inr ⟨blockhash, rfl⟩)

/-- A turn that does not fill the transaction. -/
theorem closeLoop_cons_of_short (short : pending.length + 1 < limit) :
    closeLoop wallet limit answers (value :: accounts) attempt pending =
      closeLoop wallet limit answers accounts attempt (pending ++ [closeIx wallet value]) := by
  rw [closeLoop]
  exact if_neg (by rw [List.length_append, List.length_singleton]; omega)

variable (wallet limit answers attempt value accounts) in
/-- A turn that fills it. -/
theorem closeLoop_cons_cases (full : limit ≤ pending.length + 1) :
    let closeIxs := pending ++ [closeIx wallet value]
    ((answers attempt).latestBlockhash = .error () ∧
      closeLoop wallet limit answers (value :: accounts) attempt pending =
        ([], .error .panic)) ∨
    ((answers attempt).latestBlockhash = .ok () ∧ (answers attempt).sent = .ok () ∧
      closeLoop wallet limit answers (value :: accounts) attempt pending =
        (.doneClose closeIxs :: (closeLoop wallet limit answers accounts (attempt + 1) []).1,
          (closeLoop wallet limit answers accounts (attempt + 1) []).2)) ∨
    ((answers attempt).latestBlockhash = .ok () ∧ (answers attempt).sent = .error () ∧
      closeLoop wallet limit answers (value :: accounts) attempt pending =
        (.failedToClose closeIxs ::
            (closeLoop wallet limit answers accounts (attempt + 1) closeIxs).1,
          (closeLoop wallet limit answers accounts (attempt + 1) closeIxs).2)) := by
  intro closeIxs
  have filled : limit ≤ closeIxs.length := by
    rw [List.length_append, List.length_singleton]
    exact full
  rw [closeLoop]
  dsimp only
  rw [if_pos filled]
  rcases sendClose_cases closeIxs (answers attempt) with
    ⟨blockhash, sends⟩ | ⟨blockhash, sent, sends⟩ | ⟨blockhash, refused, sends⟩
  · rw [sends]
    exact .inl ⟨blockhash, rfl⟩
  · rw [sends]
    exact .inr (.inl ⟨blockhash, sent, rfl⟩)
  · rw [sends]
    exact .inr (.inr ⟨blockhash, refused, rfl⟩)

/-- After a failed transaction the next account makes one that is too long, or the command
stops before it. -/
theorem not_closed_after_failure (full : limit ≤ pending.length) :
    ¬ ClosedInBatches limit (pending ++ (value :: accounts).map (closeIx wallet))
      (.failedToClose pending ::
        (closeLoop wallet limit answers (value :: accounts) attempt pending).1) := by
  have tooLong : ¬ (pending ++ [closeIx wallet value]).length ≤ limit := by
    rw [List.length_append, List.length_singleton]
    omega
  intro closed
  rcases closeLoop_cons_cases wallet limit answers attempt value accounts
      (full.trans (Nat.le_succ _)) with
    ⟨_, run⟩ | ⟨_, _, run⟩ | ⟨_, _, run⟩
  · rw [run] at closed
    exact ClosedInBatches.not_failed_only _ closed
  · rw [run] at closed
    exact tooLong (closed.sized (.doneClose _) (by simp)).2
  · rw [run] at closed
    exact tooLong (closed.sized (.failedToClose (pending ++ [closeIx wallet value]))
      (by simp)).2

/-- Whatever the outcomes are, the transactions that succeed carry an initial part of the
instructions, each of them once, and a command that returns leaves out only what its last
transaction carried in vain. -/
theorem closeLoop_conserves :
    ∃ left, closedIxs (closeLoop wallet limit answers accounts attempt pending).1 ++ left =
        pending ++ accounts.map (closeIx wallet) ∧
      ((closeLoop wallet limit answers accounts attempt pending).2 = .ok () → left = [] ∨
        .failedToClose left ∈ (closeLoop wallet limit answers accounts attempt pending).1) := by
  induction accounts generalizing attempt pending with
  | nil =>
      rw [List.map_nil, List.append_nil]
      by_cases empty : pending = []
      · subst empty
        exact ⟨[], rfl, fun _ => .inl rfl⟩
      · have some : 0 < pending.length := List.length_pos_iff.mpr empty
        rcases closeLoop_nil_cases wallet limit answers attempt some with
          ⟨_, run⟩ | ⟨_, run⟩ | ⟨_, run⟩
        · rw [run]
          exact ⟨pending, rfl, by simp⟩
        · rw [run]
          exact ⟨[], by simp, fun _ => .inl rfl⟩
        · rw [run]
          exact ⟨pending, by simp, fun _ => .inr (by simp)⟩
  | cons value accounts inductionHypothesis =>
      have outstanding : pending ++ (value :: accounts).map (closeIx wallet) =
          (pending ++ [closeIx wallet value]) ++ accounts.map (closeIx wallet) := by simp
      rw [outstanding]
      by_cases filled : limit ≤ pending.length + 1
      · rcases closeLoop_cons_cases wallet limit answers attempt value accounts filled with
          ⟨_, run⟩ | ⟨_, _, run⟩ | ⟨_, _, run⟩
        · rw [run]
          exact ⟨_, List.nil_append _, by simp⟩
        · obtain ⟨left, whole, leftOut⟩ := @inductionHypothesis (attempt + 1) []
          rw [List.nil_append] at whole
          rw [run]
          refine ⟨left, by rw [closedIxs_done, List.append_assoc, whole], ?_⟩
          intro returned
          exact (leftOut returned).imp_right (List.mem_cons_of_mem _)
        · obtain ⟨left, whole, leftOut⟩ :=
            @inductionHypothesis (attempt + 1) (pending ++ [closeIx wallet value])
          rw [run]
          refine ⟨left, by rw [closedIxs_failed, whole], ?_⟩
          intro returned
          exact (leftOut returned).imp_right (List.mem_cons_of_mem _)
      · rw [closeLoop_cons_of_short (by omega)]
        exact inductionHypothesis

/-- The transaction that follows the loop. -/
theorem closeLoop_nil_iff (short : pending.length < limit) :
    ClosedInBatches limit pending (closeLoop wallet limit answers [] attempt pending).1 ↔
      BatchesSent limit answers attempt pending.length := by
  by_cases empty : pending = []
  · subst empty
    exact iff_of_true (ClosedInBatches.nil_iff.mpr rfl) batchesSent_zero
  · have some : 0 < pending.length := List.length_pos_iff.mpr empty
    have sized : 1 ≤ pending.length ∧ pending.length ≤ limit := ⟨some, short.le⟩
    rw [batchesSent_last some short.le]
    rcases closeLoop_nil_cases wallet limit answers attempt some with
      ⟨blockhash, run⟩ | ⟨blockhash, run⟩ | ⟨blockhash, run⟩
    · rw [run, ClosedInBatches.nil_iff, blockhash]
      exact iff_of_false empty (by simp)
    · rw [run]
      refine iff_of_true ?_ blockhash
      have done := ClosedInBatches.done_iff.mpr ⟨sized, ClosedInBatches.nil_iff.mpr rfl⟩
      rwa [List.append_nil] at done
    · rw [run]
      exact iff_of_true (ClosedInBatches.failed_last sized (.inl rfl)) blockhash

/-- A full transaction that fails may only be the last one. -/
theorem closed_after_failure_iff
    (sized : 1 ≤ pending.length ∧ pending.length ≤ limit) (full : limit ≤ pending.length) :
    ClosedInBatches limit (pending ++ accounts.map (closeIx wallet))
        (.failedToClose pending ::
          (closeLoop wallet limit answers accounts attempt pending).1) ↔
      accounts = [] := by
  cases accounts with
  | nil =>
      refine iff_of_true ?_ rfl
      rw [List.map_nil, List.append_nil]
      refine ClosedInBatches.failed_last sized ?_
      rcases closeLoop_nil_cases wallet limit answers attempt sized.1 with
        ⟨_, run⟩ | ⟨_, run⟩ | ⟨_, run⟩
      · exact .inl (congrArg Prod.fst run)
      · exact .inr (.inl (congrArg Prod.fst run))
      · exact .inr (.inr (congrArg Prod.fst run))
  | cons next accounts =>
      exact iff_of_false (not_closed_after_failure full) (List.cons_ne_nil _ _)

/-- The run from any point of the loop, with `pending` not yet sent. -/
theorem closeLoop_iff (positive : 0 < limit) (short : pending.length < limit) :
    ClosedInBatches limit (pending ++ accounts.map (closeIx wallet))
        (closeLoop wallet limit answers accounts attempt pending).1 ↔
      BatchesSent limit answers attempt (pending.length + accounts.length) := by
  induction accounts generalizing attempt pending with
  | nil =>
      rw [List.map_nil, List.append_nil, List.length_nil, Nat.add_zero]
      exact closeLoop_nil_iff short
  | cons value accounts inductionHypothesis =>
      have outstanding : pending ++ (value :: accounts).map (closeIx wallet) =
          (pending ++ [closeIx wallet value]) ++ accounts.map (closeIx wallet) := by simp
      have length : (pending ++ [closeIx wallet value]).length = pending.length + 1 := by simp
      have total : pending.length + (value :: accounts).length =
          (pending ++ [closeIx wallet value]).length + accounts.length := by
        rw [length, List.length_cons]
        omega
      rw [outstanding, total]
      by_cases filled : limit ≤ pending.length + 1
      · have sized : 1 ≤ (pending ++ [closeIx wallet value]).length ∧
            (pending ++ [closeIx wallet value]).length ≤ limit := by omega
        have rest : (pending ++ [closeIx wallet value]).length + accounts.length - limit =
            ([] : List CommandInstruction).length + accounts.length := by
          rw [List.length_nil]
          omega
        rw [batchesSent_iff (by omega), rest, ← @inductionHypothesis (attempt + 1) [] positive]
        rcases closeLoop_cons_cases wallet limit answers attempt value accounts filled with
          ⟨blockhash, run⟩ | ⟨blockhash, sent, run⟩ | ⟨blockhash, refused, run⟩
        · rw [run, ClosedInBatches.nil_iff, blockhash]
          exact iff_of_false (by simp) (by simp)
        · rw [run, ClosedInBatches.done_iff, List.nil_append]
          exact ⟨fun closed => ⟨blockhash, fun _ => sent, closed.2⟩,
            fun batches => ⟨sized, batches.2.2⟩⟩
        · rw [run, closed_after_failure_iff sized (by omega)]
          constructor
          · rintro rfl
            refine ⟨blockhash, fun more => ?_, ClosedInBatches.nil_iff.mpr rfl⟩
            rw [List.length_nil] at more
            omega
          · rintro ⟨_, sent, _⟩
            rw [refused] at sent
            by_contra more
            have another : 0 < accounts.length := List.length_pos_iff.mpr more
            exact absurd (sent (by omega)) (by simp)
      · rw [closeLoop_cons_of_short (by omega)]
        exact inductionHypothesis (by omega)

end Loop

/-! ## The command -/

/-- The batches are as they should be exactly if each transaction that is due gets a
blockhash and only the last one may fail. -/
theorem closeClaimStatus_batches_iff (wallet : WalletArgs) (answers : Nat → CloseAnswers)
    (claimStatusAccounts : List (Pubkey × ClaimStatus)) :
    ClosedInBatches numerOfCloseIxPerTransaction (claimStatusAccounts.map (closeIx wallet))
        (processCloseClaimStatus wallet (.ok claimStatusAccounts) answers).1 ↔
      BatchesSent numerOfCloseIxPerTransaction answers 0 claimStatusAccounts.length := by
  have run : ClosedInBatches numerOfCloseIxPerTransaction
        ([] ++ claimStatusAccounts.map (closeIx wallet))
        (closeLoop wallet numerOfCloseIxPerTransaction answers claimStatusAccounts 0 []).1 ↔
      BatchesSent numerOfCloseIxPerTransaction answers 0 (0 + claimStatusAccounts.length) :=
    closeLoop_iff (by decide) (by decide)
  rwa [List.nil_append, Nat.zero_add] at run

section Sample

/-- Twelve accounts of Alice's that can be closed. -/
def closableAccounts : List (Pubkey × ClaimStatus) :=
  (List.range 12).map fun index =>
    (.replicate (.ofNat index),
      { claimant := alice, lockedAmount := 0, lockedAmountWithdrawn := 0, unlockedAmount := 0,
        closable := true, admin := sampleAdmin })

/-- The first transaction is refused. -/
def firstRefused (attempt : Nat) : CloseAnswers :=
  { latestBlockhash := .ok (), sent := if attempt = 0 then .error () else .ok () }

/-- The second transaction carries what the first one did and one instruction more. -/
theorem second_batch_too_long :
    (processCloseClaimStatus { keypair := sampleAdmin, priorityFee := none }
      (.ok closableAccounts) firstRefused).1.map (fun report => report.transaction.length) =
        [11, 12] ∧
    ¬ ClosedInBatches numerOfCloseIxPerTransaction
      (closableAccounts.map (closeIx { keypair := sampleAdmin, priorityFee := none }))
      (processCloseClaimStatus { keypair := sampleAdmin, priorityFee := none }
        (.ok closableAccounts) firstRefused).1 := by
  have lengths : (processCloseClaimStatus { keypair := sampleAdmin, priorityFee := none }
      (.ok closableAccounts) firstRefused).1.map (fun report => report.transaction.length) =
        [11, 12] := by decide
  refine ⟨lengths, fun closed => ?_⟩
  have twelve : 12 ∈ (processCloseClaimStatus { keypair := sampleAdmin, priorityFee := none }
      (.ok closableAccounts) firstRefused).1.map (fun report => report.transaction.length) := by
    rw [lengths]
    decide
  obtain ⟨report, reported, long⟩ := List.mem_map.mp twelve
  have sized := (closed.sized report reported).2
  rw [long] at sized
  exact absurd sized (by decide)

end Sample

end Airdrop
