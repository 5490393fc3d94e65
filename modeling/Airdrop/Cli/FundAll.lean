/-
Module: Airdrop.Cli.FundAll
Purpose: The command that funds the vaults of all distributors: `process_fund_all.rs`,
  as a program that calls the RPC node, run against the accounts while other
  transactions are executed.
Trusted boundary: addresses are parameters; an answer shows the accounts as they are when
  it is given; the messages and the waiting are left out
Main exports: FundTransaction, FundCall, fundAll, processFundAll, FundWorld, fundSystem,
  fundFolderSystem
-/
import Airdrop.Cli.CreateMerkleTree
import Airdrop.Library.Interference
import Airdrop.Library.Mempool
import Airdrop.Program.Machine

namespace Airdrop

open Checked Interference

/-! ## The command -/

/-- The transaction that funds one distributor.  It is signed by the authority of the
transfer; the distributor is the one of the tree it is built for. -/
structure FundTransaction where
  distributor : Pubkey
  priorityFee : Option U64
  source : Pubkey
  destination : Pubkey
  authority : Pubkey
  amount : U64
  blockhash : Hash
deriving DecidableEq

/-- The calls to the RPC node.  `send` and `confirm` are the two halves of
`send_and_confirm_transaction_with_spinner`.  For the record, the calls for a vault and for a
blockhash name the distributor that they are made for; the node is not told. -/
inductive FundCall where
  | distributor (address : Pubkey)
  | tokenAccount (distributor address : Pubkey)
  | latestBlockhash (distributor : Pubkey)
  | send (transaction : FundTransaction)
  | confirm (transaction : FundTransaction)
deriving DecidableEq

/-- What a call returns.  Its `Err` is not looked at. -/
def FundCall.Answer : FundCall → Type
  | .distributor _ => Except Unit MerkleDistributor
  | .tokenAccount _ _ => Except Unit TokenAccount
  | .latestBlockhash _ => Except Unit Hash
  | .send _ => Except Unit Unit
  | .confirm _ => Except Unit Unit

/-- The programs that make these calls. -/
abbrev FundProgram (Result : Type) : Type := Program FundCall FundCall.Answer Result

/-- `send_and_confirm_transaction_with_spinner` -/
def sendAndConfirm (transaction : FundTransaction) : FundProgram (Except Unit Unit) := do
  match ← Program.ask (FundCall.send transaction) with
  | .error _ => pure (.error ())
  | .ok _ => Program.ask (FundCall.confirm transaction)

section Command

variable (findProgramAddress : List Bytes → Pubkey → Pubkey × UInt8)
variable (associatedTokenAddress : Pubkey → Pubkey → Pubkey)
variable (args : CliArgs) (wallet : WalletArgs)

/-- The loop of `fund_all` over the sorted files. -/
def fundAllLoop : List TreeFile → Bool → FundProgram (Except (Stop String) Unit)
  | [], isError =>
      if isError then
        pure (.error (.err "There are some error when fund merkle tree, retrying"))
      else pure (.ok ())
  | file :: paths, isError => do
      let (distributorPubkey, _bump) := getMerkleDistributorPda findProgramAddress
        args.programId args.base args.mint file.tree.airdropVersion
      match ← Program.ask (FundCall.distributor distributorPubkey) with
      | .error _ => pure (.error (.err "no distributor"))
      | .ok distributorState =>
          let tokenVault := associatedTokenAddress distributorPubkey args.mint
          match ← Program.ask (FundCall.tokenAccount distributorPubkey tokenVault) with
          | .error _ => pure (.error (.err "no token vault"))
          | .ok tokenVaultState =>
              if distributorState.maxTotalClaim ≤ tokenVaultState.amount then
                -- already funded
                fundAllLoop paths isError
              else
                match ← Program.ask (FundCall.latestBlockhash distributorPubkey) with
                | .error _ => pure (.error .panic)
                | .ok blockhash =>
                    let transaction : FundTransaction :=
                      { distributor := distributorPubkey
                        priorityFee := wallet.priorityFee
                        source := associatedTokenAddress wallet.keypair args.mint
                        destination := tokenVault
                        authority := wallet.keypair
                        amount := distributorState.maxTotalClaim
                        blockhash }
                    match ← sendAndConfirm transaction with
                    | .ok _ => fundAllLoop paths isError
                    | .error _ => fundAllLoop paths true

/-- `fund_all` -/
def fundAll (listing : List TreeFile) : FundProgram (Except (Stop String) Unit) :=
  fundAllLoop findProgramAddress associatedTokenAddress args wallet (sortByPath listing)
    false

/-- The loop of `process_fund_all`, with its counter. -/
def processFundAllLoop (listing : List TreeFile) :
    Nat → FundProgram (Except (Stop String) Unit)
  | 0 => pure (.ok ())
  | i + 1 => do
      match ← fundAll findProgramAddress associatedTokenAddress args wallet listing with
      | .ok _ => pure (.ok ())
      | .error .panic => pure (.error .panic)
      | .error (.err _) =>
          if i + 1 = 1 then
            match ← fundAll findProgramAddress associatedTokenAddress args wallet
              listing with
            | .ok _ => processFundAllLoop listing i
            | .error _ => pure (.error .panic)
          else processFundAllLoop listing i

/-- `process_fund_all`: the counter goes through `(1..10).rev()`. -/
def processFundAll (listing : List TreeFile) : FundProgram (Except (Stop String) Unit) :=
  processFundAllLoop findProgramAddress associatedTokenAddress args wallet listing 9

end Command

/-! ## The world that it is run in -/

/-- How a funding transaction ends.  Of one that was executed it is recorded whether the
distributor had been clawed back by then. -/
inductive FundOutcome where
  | executed (clawedBack : Bool)
  | failed
  | expired
deriving DecidableEq

/-- The transaction moved its tokens. -/
def FundOutcome.succeeded : FundOutcome → Bool
  | .executed _ => true
  | .failed => false
  | .expired => false

/-- The accounts, and the funding transactions that were sent. -/
structure FundWorld where
  bank : Bank
  mempool : Mempool FundTransaction FundOutcome

/-- How the RPC node answers a call.  A call that fails may have submitted its
transaction all the same. -/
inductive FundReply where
  | found
  | blockhash (blockhash : Hash)
  | failed (submitted : Bool)
deriving DecidableEq

/-- What others do: transactions of theirs are executed, those that were sent are executed
or expire. -/
inductive FundEvent (env : Env) where
  | transaction (tx : Transaction env)
  | execute (transaction : FundTransaction)
  | expire (transaction : FundTransaction)

namespace FundWorld

/-- The distributor at this address is clawed back. -/
def isClawedBack (bank : Bank) (address : Pubkey) : Bool :=
  match bank address with
  | some (.distributor distributor) => distributor.clawedBack
  | _ => false

/-- Submit a transaction to the network. -/
def submit (world : FundWorld) (transaction : FundTransaction) : FundWorld :=
  { world with mempool := world.mempool.submit transaction }

/-- How a call can be answered. -/
def answer (world : FundWorld) :
    (call : FundCall) → FundReply → Option (call.Answer × FundWorld)
  | .distributor address, .found =>
      match world.bank address with
      | some (.distributor distributor) => some (.ok distributor, world)
      | _ => some (.error (), world)
  | .distributor _, .failed _ => some (.error (), world)
  | .tokenAccount _ address, .found =>
      match world.bank address with
      | some (.token account) => some (.ok account, world)
      | _ => some (.error (), world)
  | .tokenAccount _ _, .failed _ => some (.error (), world)
  | .latestBlockhash _, .blockhash blockhash => some (.ok blockhash, world)
  | .latestBlockhash _, .failed _ => some (.error (), world)
  | .send transaction, .found => some (.ok (), world.submit transaction)
  | .send _, .failed false => some (.error (), world)
  | .send transaction, .failed true => some (.error (), world.submit transaction)
  | .confirm transaction, .found =>
      if transaction ∈ world.mempool.successes FundOutcome.succeeded then
        some (.ok (), world)
      else none
  | .confirm _, .failed _ => some (.error (), world)
  | _, _ => none

/-- What an event makes of the world. -/
def change {env : Env} (world : FundWorld) : FundEvent env → Option FundWorld
  | .transaction tx =>
      match execute env world.bank tx with
      | .ok receipt => some { world with bank := receipt.bank }
      | .error _ => none
  | .execute transaction =>
      match tokenTransfer world.bank [transaction.authority] transaction.source
        transaction.destination transaction.authority transaction.amount with
      | .ok bank => do
          let mempool ← world.mempool.settle transaction
            (.executed (isClawedBack world.bank transaction.distributor))
          pure { bank, mempool }
      | .error _ => do
          let mempool ← world.mempool.settle transaction .failed
          pure { world with mempool }
  | .expire transaction => do
      let mempool ← world.mempool.settle transaction .expired
      pure { world with mempool }

/-- The tokens that funding transactions moved into the vault of one distributor. -/
def funded (world : FundWorld) (distributor : Pubkey) : Nat :=
  ((world.mempool.successes FundOutcome.succeeded).map fun transaction =>
    if transaction.distributor = distributor then transaction.amount.toNat else 0).sum

end FundWorld

/-- A run of `process_fund_all` over a folder. -/
structure FundAllJob where
  args : CliArgs
  wallet : WalletArgs
  listing : List TreeFile

/-- Any number of runs of `process_fund_all`, by anyone, at any time. -/
def fundSystem (env : Env)
    (findProgramAddress : List Bytes → Pubkey → Pubkey × UInt8)
    (associatedTokenAddress : Pubkey → Pubkey → Pubkey) :
    System FundWorld FundCall FundCall.Answer FundReply (FundEvent env) FundAllJob
      (Except (Stop String) Unit) where
  admits := fun _ _ => true
  program := fun job => processFundAll findProgramAddress associatedTokenAddress job.args
    job.wallet job.listing
  answer := FundWorld.answer
  change := FundWorld.change

/-- Any number of runs of the command on one folder by one wallet, at any time. -/
def fundFolderSystem (env : Env)
    (findProgramAddress : List Bytes → Pubkey → Pubkey × UInt8)
    (associatedTokenAddress : Pubkey → Pubkey → Pubkey) (args : CliArgs) (wallet : WalletArgs)
    (listing : List TreeFile) :
    System FundWorld FundCall FundCall.Answer FundReply (FundEvent env) Unit
      (Except (Stop String) Unit) where
  admits := fun _ _ => true
  program := fun _ => processFundAll findProgramAddress associatedTokenAddress args wallet
    listing
  answer := FundWorld.answer
  change := FundWorld.change

end Airdrop
