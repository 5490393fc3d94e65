/-
Module: Airdrop.Cli.CloseClaimStatus
Purpose: The command that closes the fetched claim status accounts, several in a
  transaction: `process_close_claim_status.rs`.
Trusted boundary: what the RPC calls return is given from outside, the accounts among it;
  signing and other messages are left out
Main exports: CloseAnswers, CloseReport, closeIx, closeLoop, processCloseClaimStatus
-/
import Airdrop.Cli.NewDistributor

namespace Airdrop

/-- What the RPC calls for one transaction return. -/
structure CloseAnswers where
  latestBlockhash : Except Unit Unit
  sent : Except Unit Unit

/-- What the command says about a transaction. -/
inductive CloseReport where
  | doneClose (transaction : List CommandInstruction)
  | failedToClose (transaction : List CommandInstruction)
deriving DecidableEq

section Command

variable (wallet : WalletArgs)

/-- The instruction for one account. -/
def closeIx (value : Pubkey × ClaimStatus) : CommandInstruction :=
  .program (.closeClaimStatus
    { admin := wallet.keypair, claimant := value.2.claimant, claimStatus := value.1 })

/-- One transaction, with what is reported of it and the instructions that are kept. -/
def sendClose (closeIxs : List CommandInstruction) (answers : CloseAnswers) :
    Except Halt (CloseReport × List CommandInstruction) :=
  match answers.latestBlockhash with
  | .error _ => .error .panic
  | .ok _ =>
      match answers.sent with
      | .ok _ => .ok (.doneClose closeIxs, [])
      | .error _ => .ok (.failedToClose closeIxs, closeIxs)

/-- The `loop` over the accounts and what follows it, where `answers` are those for the
transactions in their order and `attempt` of them were built before. -/
def closeLoop (numerOfCloseIxPerTransaction : Nat) (answers : Nat → CloseAnswers) :
    List (Pubkey × ClaimStatus) → Nat → List CommandInstruction →
      List CloseReport × Except Halt Unit
  | [], attempt, closeIxs =>
      if 0 < closeIxs.length then
        match sendClose closeIxs (answers attempt) with
        | .error halt => ([], .error halt)
        | .ok (report, _) => ([report], .ok ())
      else ([], .ok ())
  | value :: claimStatusAccounts, attempt, closeIxs =>
      let closeIxs := closeIxs ++ [closeIx wallet value]
      if numerOfCloseIxPerTransaction ≤ closeIxs.length then
        match sendClose closeIxs (answers attempt) with
        | .error halt => ([], .error halt)
        | .ok (report, closeIxs) =>
            let (later, result) := closeLoop numerOfCloseIxPerTransaction answers
              claimStatusAccounts (attempt + 1) closeIxs
            (report :: later, result)
      else
        closeLoop numerOfCloseIxPerTransaction answers claimStatusAccounts attempt closeIxs

def numerOfCloseIxPerTransaction : Nat := 11

/-- `process_close_claim_status`, where `fetched` is what the RPC call for the accounts
returns. -/
def processCloseClaimStatus (fetched : Except Unit (List (Pubkey × ClaimStatus)))
    (answers : Nat → CloseAnswers) : List CloseReport × Except Halt Unit :=
  match fetched with
  | .error _ => ([], .error .panic)
  | .ok claimStatusAccounts =>
      closeLoop wallet numerOfCloseIxPerTransaction answers claimStatusAccounts 0 []

end Command

end Airdrop
