/-
Module: Airdrop.Cli.Send
Purpose: The commands that pay a list of addresses and pay again what failed:
  `process_send.rs`, as programs that call the RPC node and keep a cache file, run
  while the transactions that they sent are settled.
Trusted boundary: addresses and their texts are parameters; a signature is told apart by
  the transaction that it signs; the cache file can be read and written, and its JSON is
  left out, as are the messages and the fixed limit of compute units
Main exports: SendTransaction, SendCall, processMassSend, processResend, sendAndResend,
  SendWorld, sendSystem
-/
import Airdrop.Cli.CreateMerkleTree
import Airdrop.Library.Interference
import Airdrop.Library.LastWins
import Airdrop.Library.Mempool

namespace Airdrop

open Checked Interference LastWins

/-! ## The commands -/

/-- The instructions for one address: where its token account is missing the account is
created, and the amount is transferred to it. -/
structure BatchPayment where
  wallet : Pubkey
  userAta : Pubkey
  createsAccount : Bool
deriving DecidableEq

/-- The transaction for one batch of addresses. -/
structure SendTransaction where
  keypair : Pubkey
  mint : Pubkey
  sourceVault : Pubkey
  priorityFee : Option U64
  amount : U64
  payments : List BatchPayment
  blockhash : Hash
deriving DecidableEq

/-- The signature of a transaction. -/
abbrev Signature : Type := SendTransaction

/-- The cache file: the signature of the last transaction that was sent for each
address. -/
abbrev SentAddresses : Type := Map String Signature

/-- What the programs ask for.  The two iterations are those over a `HashMap`, in an order
of its own. -/
inductive SendCall where
  | readCache
  | writeCache (sentAddresses : SentAddresses)
  | iterateAddresses (entries : List (String × Signature))
  | iterateSignatures (entries : List (Signature × List String))
  | accountData (address : Pubkey)
  | latestBlockhash
  | sendTransaction (transaction : SendTransaction)
  | signatureStatus (signature : Signature)

/-- What a call returns.  The status is that of a finalised transaction, if it is one. -/
def SendCall.Answer : SendCall → Type
  | .readCache => SentAddresses
  | .writeCache _ => Unit
  | .iterateAddresses _ => List (String × Signature)
  | .iterateSignatures _ => List (Signature × List String)
  | .accountData _ => Except Unit Unit
  | .latestBlockhash => Except Unit Hash
  | .sendTransaction _ => Except Unit Signature
  | .signatureStatus _ => Except Unit (Option (Except Unit Unit))

/-- The programs that make these calls. -/
abbrev SendProgram (Result : Type) : Type := Program SendCall SendCall.Answer Result

/-- `MassSendArgs`, with the addresses that `parse_new_record` reads from `csv_path`. -/
structure MassSendArgs where
  addresses : List String
  maxAddressPerTx : U64
  amount : U64

/-- `ResendSendArgs` -/
structure ResendSendArgs where
  maxAddressPerTx : U64
  amount : U64

section Commands

variable (texts : Texts) (associatedTokenAddress : Pubkey → Pubkey → Pubkey)
variable (args : CliArgs) (wallet : WalletArgs)

/-- The loop of `send_for_batch_address`: the payments, and the addresses that are keys. -/
def collectPayments : List String → SendProgram (List BatchPayment × List String)
  | [] => pure ([], [])
  | address :: batchAddress =>
      match texts.parsePubkey address with
      | none => collectPayments batchAddress
      | some user => do
          let userAta := associatedTokenAddress user args.mint
          let account ← Program.ask (SendCall.accountData userAta)
          let (payments, qualifiedAddress) ← collectPayments batchAddress
          let createsAccount := match account with
            | .ok _ => false
            | .error _ => true
          pure ({ wallet := user, userAta, createsAccount } :: payments,
            address :: qualifiedAddress)

/-- `send_for_batch_address` -/
def sendForBatchAddress (amount : U64) (batchAddress : List String) :
    SendProgram (Except (Stop String) (Signature × List String)) := do
  let (payments, qualifiedAddress) ←
    collectPayments texts associatedTokenAddress args batchAddress
  match ← Program.ask SendCall.latestBlockhash with
  | .error _ => pure (.error .panic)
  | .ok blockhash =>
      let transaction : SendTransaction :=
        { keypair := wallet.keypair
          mint := args.mint
          sourceVault := associatedTokenAddress wallet.keypair args.mint
          priorityFee := wallet.priorityFee
          amount
          payments
          blockhash }
      match ← Program.ask (SendCall.sendTransaction transaction) with
      | .error _ => pure (.error (.err "rpc error"))
      | .ok signature => pure (.ok (signature, qualifiedAddress))

/-- Enter the signature for each of the addresses. -/
def record (sentAddresses : SentAddresses) (signature : Signature)
    (qualifiedAddress : List String) : SentAddresses :=
  insertAll sentAddresses (qualifiedAddress.map fun address => (address, signature))

/-- The batches of addresses that are not in the cache: the current batch is closed as soon
as it is long enough, and at the end. -/
def wrapBatchAddresses (sentAddresses : SentAddresses)
    (numberOfAddressesPerTransaction : Nat) :
    List String → List String → List (List String)
  | [], batchAddresses => if 0 < batchAddresses.length then [batchAddresses] else []
  | address :: addresses, batchAddresses =>
      if (sentAddresses.lookup address).isSome then
        -- this address has been sent, skip
        wrapBatchAddresses sentAddresses numberOfAddressesPerTransaction addresses
          batchAddresses
      else
        let batchAddresses := batchAddresses ++ [address]
        if numberOfAddressesPerTransaction ≤ batchAddresses.length then
          batchAddresses :: wrapBatchAddresses sentAddresses
            numberOfAddressesPerTransaction addresses []
        else
          wrapBatchAddresses sentAddresses numberOfAddressesPerTransaction addresses
            batchAddresses

/-- The second loop of `process_mass_send`. -/
def massSendLoop (amount : U64) :
    List (List String) → SentAddresses → SendProgram (Except (Stop String) Unit)
  | [], _ => pure (.ok ())
  | batchAddress :: wrapBatchAddresses, sentAddresses => do
      match ← sendForBatchAddress texts associatedTokenAddress args wallet amount
        batchAddress with
      | .ok (signature, qualifiedAddress) =>
          let sentAddresses := record sentAddresses signature qualifiedAddress
          -- write it again to cache
          let _ ← Program.ask (SendCall.writeCache sentAddresses)
          massSendLoop amount wrapBatchAddresses sentAddresses
      | .error (.err _) => massSendLoop amount wrapBatchAddresses sentAddresses
      | .error .panic => pure (.error .panic)

/-- `process_mass_send` -/
def processMassSend (massSendArgs : MassSendArgs) :
    SendProgram (Except (Stop String) Unit) := do
  let sentAddresses ← Program.ask SendCall.readCache
  massSendLoop texts associatedTokenAddress args wallet massSendArgs.amount
    (wrapBatchAddresses sentAddresses massSendArgs.maxAddressPerTx.toNat
      massSendArgs.addresses [])
    sentAddresses

/-- Runs of `process_mass_send` on the same list, one after the other.  The next one is
started however the last one ended. -/
def massSendRuns (massSendArgs : MassSendArgs) : Nat → SendProgram Unit
  | 0 => pure ()
  | count + 1 => do
      let _ ← processMassSend texts associatedTokenAddress args wallet massSendArgs
      massSendRuns massSendArgs count

/-- Add an address to those of its signature. -/
def pushAddress (entry : String × Signature) :
    List (Signature × List String) → List (Signature × List String)
  | [] => [(entry.2, [entry.1])]
  | (signature, addresses) :: entries =>
      if signature = entry.2 then (signature, addresses ++ [entry.1]) :: entries
      else (signature, addresses) :: pushAddress entry entries

/-- The status says that the transaction failed, or says nothing. -/
def shouldResend : Option (Except Unit Unit) → Bool
  | none => true
  | some (.ok _) => false
  | some (.error _) => true

/-- The loop of `process_resend` over the signatures. -/
def resendLoop (resendArgs : ResendSendArgs) :
    List (Signature × List String) → SentAddresses →
      SendProgram (Except (Stop String) Unit)
  | [], _ => pure (.ok ())
  | (signature, addresses) :: signatureToAddress, sentAddresses => do
      match ← Program.ask (SendCall.signatureStatus signature) with
      | .error _ => resendLoop resendArgs signatureToAddress sentAddresses
      | .ok value =>
          if shouldResend value then
            let numberOfAddressesPerTransaction := resendArgs.maxAddressPerTx.toNat
            let shouldSendAddresses :=
              if numberOfAddressesPerTransaction < addresses.length then
                -- break it to double, or ignore
                addresses.take numberOfAddressesPerTransaction
              else addresses
            match ← sendForBatchAddress texts associatedTokenAddress args wallet
              resendArgs.amount shouldSendAddresses with
            | .ok (signature, qualifiedAddress) =>
                let sentAddresses := record sentAddresses signature qualifiedAddress
                let _ ← Program.ask (SendCall.writeCache sentAddresses)
                resendLoop resendArgs signatureToAddress sentAddresses
            | .error (.err _) => resendLoop resendArgs signatureToAddress sentAddresses
            | .error .panic => pure (.error .panic)
          else resendLoop resendArgs signatureToAddress sentAddresses

/-- `process_resend` -/
def processResend (resendArgs : ResendSendArgs) :
    SendProgram (Except (Stop String) Unit) := do
  let sentAddresses ← Program.ask SendCall.readCache
  let entries ← Program.ask (SendCall.iterateAddresses
    (sentAddresses.entries.map fun entry => (entry.1, entry.2)))
  let signatureToAddress ← Program.ask (SendCall.iterateSignatures
    (entries.foldl (fun groups entry => pushAddress entry groups) []))
  resendLoop texts associatedTokenAddress args wallet resendArgs signatureToAddress
    sentAddresses

/-- Runs of `process_resend`, one after the other.  The next one is started however the
last one ended. -/
def resendRuns : List ResendSendArgs → SendProgram Unit
  | [] => pure ()
  | resendArgs :: later => do
      let _ ← processResend texts associatedTokenAddress args wallet resendArgs
      resendRuns later

/-- One run of `process_mass_send`, and then runs of `process_resend`. -/
def sendAndResend (massSendArgs : MassSendArgs) (resends : List ResendSendArgs) :
    SendProgram Unit := do
  let _ ← processMassSend texts associatedTokenAddress args wallet massSendArgs
  resendRuns texts associatedTokenAddress args wallet resends

end Commands

/-! ## The world that they are run in -/

/-- How a transaction ends: it is finalised, with or without an error, or expires. -/
inductive SendOutcome where
  | finalised
  | failed
  | expired
deriving DecidableEq

/-- The transaction moved its tokens. -/
def SendOutcome.succeeded : SendOutcome → Bool
  | .finalised => true
  | .failed => false
  | .expired => false

/-- The cache file, and the transactions that were sent. -/
structure SendWorld where
  cache : SentAddresses
  mempool : Mempool SendTransaction SendOutcome

/-- How a call can be answered.  A call that fails may have submitted its transaction all
the same. -/
inductive SendReply where
  | found
  | addresses (order : List (String × Signature))
  | signatures (order : List (Signature × List String))
  | blockhash (blockhash : Hash)
  | failed (submitted : Bool)
deriving DecidableEq

/-- A transaction is settled. -/
structure SendEvent where
  transaction : SendTransaction
  outcome : SendOutcome
deriving DecidableEq

namespace SendWorld

/-- Submit a transaction to the network. -/
def submit (world : SendWorld) (transaction : SendTransaction) : SendWorld :=
  { world with mempool := world.mempool.submit transaction }

/-- `get_signature_status_with_commitment_and_history` at the commitment `finalized` -/
def status (world : SendWorld) (signature : Signature) : Option (Except Unit Unit) :=
  match world.mempool.outcome? signature with
  | some .finalised => some (.ok ())
  | some .failed => some (.error ())
  | some .expired => none
  | none => none

/-- How a call can be answered. -/
def answer (world : SendWorld) :
    (call : SendCall) → SendReply → Option (call.Answer × SendWorld)
  | .readCache, .found => some (world.cache, world)
  | .writeCache sentAddresses, .found => some ((), { world with cache := sentAddresses })
  | .iterateAddresses entries, .addresses order =>
      if order.Perm entries then some (order, world) else none
  | .iterateSignatures entries, .signatures order =>
      if order.Perm entries then some (order, world) else none
  | .accountData _, .found => some (.ok (), world)
  | .accountData _, .failed _ => some (.error (), world)
  | .latestBlockhash, .blockhash blockhash => some (.ok blockhash, world)
  | .latestBlockhash, .failed _ => some (.error (), world)
  | .sendTransaction transaction, .found => some (.ok transaction, world.submit transaction)
  | .sendTransaction _, .failed false => some (.error (), world)
  | .sendTransaction transaction, .failed true =>
      some (.error (), world.submit transaction)
  | .signatureStatus signature, .found => some (.ok (world.status signature), world)
  | .signatureStatus _, .failed _ => some (.error (), world)
  | _, _ => none

/-- What an event makes of the world. -/
def change (world : SendWorld) (event : SendEvent) : Option SendWorld := do
  let mempool ← world.mempool.settle event.transaction event.outcome
  pure { world with mempool }

/-- The finalised transfers to one wallet. -/
def received (world : SendWorld) (wallet : Pubkey) : Nat :=
  ((world.mempool.successes SendOutcome.succeeded).map fun transaction =>
    (transaction.payments.map BatchPayment.wallet).count wallet).sum

end SendWorld

/-- The commands are run against the cache file and the network: one program, which is
there from the start. -/
def sendSystem : System SendWorld SendCall SendCall.Answer SendReply SendEvent Empty Unit where
  admits := fun _ _ => false
  program := nofun
  answer := SendWorld.answer
  change := SendWorld.change

/-- The program starts, with this cache file; nothing is sent so far. -/
def sendingStarts (cache : SentAddresses) (program : SendProgram Unit) :
    Configuration SendWorld SendCall SendCall.Answer Unit :=
  { world := { cache, mempool := .empty }, programs := [program] }

end Airdrop
